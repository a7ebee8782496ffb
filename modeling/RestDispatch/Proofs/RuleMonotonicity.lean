import RestDispatch.Proofs.PatternLists
import RestDispatch.Proofs.EndpointRouting

/-!
# What the builders do to a rule's verdicts

The builders only ever append: include and exclude patterns are added after
those already there, and methods after the methods already in the filter. So
once a rule has an include pattern, a path it passes keeps passing with the
same captures, since the first include pattern that matches stays first; a
path that passes after more exclude patterns passed before; and once the
filter names a method, a request it lets through stays let through. An empty
include list and an empty method filter admit everything, so the first entry
added to either narrows the rule: these are the only exceptions.

`rule_matching_monotone` collects the three laws.
-/

namespace RestDispatch

set_option autoImplicit false

namespace MethodSet

variable {s : MethodSet} {m : Method}

theorem mem_insert_of_mem {member : Method} (listed : member ∈ s.methods) :
    member ∈ (s.insert m).methods := by
  unfold insert
  split
  · exact listed
  · exact List.mem_append_left _ listed

theorem mem_foldl_insert_of_mem {member : Method} (listed : member ∈ s.methods) (added : List Method) :
    member ∈ (added.foldl insert s).methods := by
  induction added generalizing s with
  | nil => exact listed
  | cons m added induction => exact induction (mem_insert_of_mem listed)

theorem allows_of_subset {t : MethodSet} (named : s.isEmpty = false)
    (sub : ∀ member ∈ s.methods, member ∈ t.methods) (allowed : s.allows m = true) :
    t.allows m = true := by
  simp only [allows, allowsName, isEmpty] at named allowed ⊢
  rw [named, Bool.false_or, List.any_eq_true] at allowed
  obtain ⟨member, listed, same⟩ := allowed
  exact Bool.or_eq_true_iff.2 (.inr (List.any_eq_true.2 ⟨member, sub member listed, same⟩))

end MethodSet

namespace Rule

variable {r : Rule} {x : Path} {ps : Params}

@[simp] theorem matchPath_withMethods (methods : MethodSet) :
    ({ r with methods := methods } : Rule).matchPath x = r.matchPath x := rfl

/-- Patterns appended after the include patterns of a rule that has some do
not change a verdict that lets a path through: the first include pattern that
matches is still the first. -/
theorem matchPath_includes_append (present : r.includes ≠ []) (extra : List PathPattern)
    (passed : r.matchPath x = some ps) :
    ({ r with includes := r.includes ++ extra } : Rule).matchPath x = some ps := by
  rw [matchPath_eq_some_iff] at passed ⊢
  obtain ⟨included, excluded⟩ := passed
  rw [if_neg present] at included
  obtain ⟨before, p, after, listed, earlier, found⟩ := included
  have stillPresent : r.includes ++ extra ≠ [] := by simp [present]
  refine ⟨?_, excluded⟩
  rw [if_neg stillPresent]
  exact ⟨before, p, after ++ extra, by simp [listed], earlier, found⟩

theorem matchPath_of_excludes_append (extra : List PathPattern)
    (passed : ({ r with excludes := r.excludes ++ extra } : Rule).matchPath x = some ps) :
    r.matchPath x = some ps := by
  rw [matchPath_eq_some_iff] at passed ⊢
  obtain ⟨included, excluded⟩ := passed
  exact ⟨included, fun q member => excluded q (List.mem_append_left _ member)⟩

theorem withMethodList_eq_ok {list : String} {r' : Rule} (read : r.withMethodList list = .ok r') :
    ∃ added : List Method, r' = { r with methods := added.foldl MethodSet.insert r.methods } := by
  unfold withMethodList at read
  cases parsed : MethodSet.parse list with
  | error e => simp [parsed, Except.map] at read
  | ok ms =>
      simp only [parsed, Except.map, Except.ok.injEq] at read
      exact ⟨ms.methods, read.symm⟩

theorem accepts_of_methods_subset {methods : MethodSet} {m : Method} (named : r.methods.isEmpty = false)
    (sub : ∀ member ∈ r.methods.methods, member ∈ methods.methods) (accepted : r.accepts m x = true) :
    ({ r with methods := methods } : Rule).accepts m x = true := by
  simp only [accepts, Bool.and_eq_true, allowsMethod] at accepted ⊢
  exact ⟨MethodSet.allows_of_subset named sub accepted.1, accepted.2⟩

end Rule

/-- The builders only widen what a rule passes, except where an empty list
admits everything: with an include pattern present, more include patterns keep
every passing path passing with the same captures; a path that passes with
more exclude patterns passed before; and with a method in the filter, more
methods keep every accepted request accepted. -/
theorem rule_matching_monotone (r : Rule) (m : Method) (x : Path) (ps : Params) (paths : String)
    (pattern : PathPattern) :
    (r.includes ≠ [] → r.matchPath x = some ps →
        (r.withIncludePaths paths).matchPath x = some ps ∧ (r.withIncludePath pattern).matchPath x = some ps) ∧
      ((r.withExcludePaths paths).matchPath x = some ps → r.matchPath x = some ps) ∧
      ((r.withExcludePath pattern).matchPath x = some ps → r.matchPath x = some ps) ∧
      (r.methods.isEmpty = false → r.accepts m x = true →
        (∀ method, (r.withMethod method).accepts m x = true) ∧
          ∀ methods r', r.withMethodList methods = .ok r' → r'.accepts m x = true) := by
  refine ⟨fun present passed => ⟨?_, ?_⟩, fun passed => ?_, fun passed => ?_, fun named accepted => ⟨?_, ?_⟩⟩
  · rw [Rule.withIncludePaths, r.withPaths_eq]
    exact Rule.matchPath_includes_append present _ passed
  · rw [Rule.withIncludePath, r.withPath_eq]
    exact Rule.matchPath_includes_append present _ passed
  · rw [Rule.withExcludePaths, r.withPaths_eq] at passed
    exact Rule.matchPath_of_excludes_append _ passed
  · rw [Rule.withExcludePath, r.withPath_eq] at passed
    exact Rule.matchPath_of_excludes_append _ passed
  · intro method
    exact Rule.accepts_of_methods_subset named (fun _ listed => MethodSet.mem_insert_of_mem listed) accepted
  · intro methods r' read
    obtain ⟨added, rfl⟩ := Rule.withMethodList_eq_ok read
    exact Rule.accepts_of_methods_subset named
      (fun _ listed => MethodSet.mem_foldl_insert_of_mem listed added) accepted

/-- A rule for `GET` that includes `books/:id` passes `books/7` for a `get`
request; it still does with `authors/:name` added and with any method added. -/
theorem rule_matching_monotone_books :
    let r : Rule := { Rule.default with
      includes := [⟨"books/:id", [.literal "books", .variable "id" none]⟩], methods := ⟨[⟨"GET"⟩]⟩ }
    let x : Path := ⟨["books", "7"]⟩
    let ps : Params := ⟨[("id", "7")]⟩
    r.includes ≠ [] ∧ r.matchPath x = some ps ∧ r.methods.isEmpty = false ∧ r.accepts ⟨"get"⟩ x = true ∧
      (r.withIncludePaths "authors/:name").matchPath x = some ps ∧
      (r.withIncludePath (PathPattern.ofString "authors/:name")).matchPath x = some ps ∧
      ∀ method, (r.withMethod method).accepts ⟨"get"⟩ x = true := by
  intro r x ps
  have present : r.includes ≠ [] := by decide
  have passed : r.matchPath x = some ps := by decide
  have named : r.methods.isEmpty = false := by decide
  have accepted : r.accepts ⟨"get"⟩ x = true := by decide
  have laws := rule_matching_monotone r ⟨"get"⟩ x ps "authors/:name" (PathPattern.ofString "authors/:name")
  exact ⟨present, passed, named, accepted, (laws.1 present passed).1, (laws.1 present passed).2,
    (laws.2.2.2 named accepted).1⟩

end RestDispatch
