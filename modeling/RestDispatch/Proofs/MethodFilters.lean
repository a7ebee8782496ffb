import Mathlib
import RestDispatch.Proofs.CaseFolding

/-!
# Method filters keep one upper-case entry per method

A method filter stores its members in the order they were first added and
adds a method only when no member is equal to it. Reading a list or a list of
names upper-cases each name first, so a filter read from names is canonical:
every member is in upper case and no two members are equal up to ASCII case.
Adding an upper-case method keeps a filter canonical, and it then goes last
exactly when no member is equal to it up to case. A canonical filter lists a
method it allows once, in upper case.

Adding a method as it is given is another matter: the equality that decides
whether it is new is exact, so `get` is added beside `GET`, and a filter
collected from such methods is not canonical (`ofMethods_keeps_case_variants`).
-/

namespace RestDispatch

open RestDispatch.Text

set_option autoImplicit false

namespace Text

theorem lower_iff_toNat (c : Char) : ('a' ≤ c ∧ c ≤ 'z') ↔ (97 ≤ c.toNat ∧ c.toNat ≤ 122) := by
  simp only [Char.le_def, UInt32.le_iff_toNat_le]
  rfl

theorem toNat_asciiUpperChar (c : Char) :
    (asciiUpperChar c).toNat = if 97 ≤ c.toNat ∧ c.toNat ≤ 122 then c.toNat - 32 else c.toNat := by
  unfold asciiUpperChar
  by_cases lower : 97 ≤ c.toNat ∧ c.toNat ≤ 122
  · have valid : (c.toNat - 32).isValidChar := by
      unfold Nat.isValidChar
      omega
    rw [if_pos ((lower_iff_toNat c).2 lower), if_pos lower, Char.toNat_ofNat, if_pos valid]
  · rw [if_neg (mt (lower_iff_toNat c).1 lower), if_neg lower]

theorem asciiUpperChar_idem (c : Char) : asciiUpperChar (asciiUpperChar c) = asciiUpperChar c := by
  rw [← Char.toNat_inj, toNat_asciiUpperChar, toNat_asciiUpperChar]
  split_ifs <;> omega

theorem asciiUpperChar_asciiLowerChar (c : Char) : asciiUpperChar (asciiLowerChar c) = asciiUpperChar c := by
  rw [← Char.toNat_inj, toNat_asciiUpperChar, toNat_asciiUpperChar, toNat_asciiLowerChar]
  split_ifs <;> omega

theorem toList_asciiUpper (s : String) : (asciiUpper s).toList = s.toList.map asciiUpperChar := by
  simp [asciiUpper]

theorem asciiUpper_idem (s : String) : asciiUpper (asciiUpper s) = asciiUpper s := by
  apply String.toList_injective
  simp [toList_asciiUpper, List.map_map, Function.comp_def, asciiUpperChar_idem]

theorem asciiUpper_asciiLower (s : String) : asciiUpper (asciiLower s) = asciiUpper s := by
  apply String.toList_injective
  simp [toList_asciiUpper, List.map_map, Function.comp_def, asciiUpperChar_asciiLowerChar]

theorem asciiUpper_eq_of_eqIgnoreAsciiCase {a b : String} (same : eqIgnoreAsciiCase a b = true) :
    asciiUpper a = asciiUpper b := by
  rw [← asciiUpper_asciiLower a, ← asciiUpper_asciiLower b, eqIgnoreAsciiCase_iff.1 same]

theorem eqIgnoreAsciiCase_self (a : String) : eqIgnoreAsciiCase a a = true := by
  simp [eqIgnoreAsciiCase]

end Text

namespace Method

/-- A method whose name is written in upper case. -/
def IsUpper (m : Method) : Prop :=
  asciiUpper m.name = m.name

instance (m : Method) : Decidable m.IsUpper :=
  inferInstanceAs (Decidable (asciiUpper m.name = m.name))

theorem ext_name {m m' : Method} (names : m.name = m'.name) : m = m' := by
  cases m
  cases m'
  cases names
  rfl

theorem beq_iff_eq {m m' : Method} : (m == m') = true ↔ m = m' := by
  obtain ⟨name⟩ := m
  obtain ⟨name'⟩ := m'
  show instBEqMethod.beq _ _ = true ↔ _
  simp [instBEqMethod.beq]

theorem eq_of_eqIgnoreAsciiCase {m m' : Method} (upper : m.IsUpper) (upper' : m'.IsUpper)
    (same : eqIgnoreAsciiCase m.name m'.name = true) : m = m' := by
  apply ext_name
  rw [← upper, ← upper', asciiUpper_eq_of_eqIgnoreAsciiCase same]

theorem ofString?_eq_some {name : String} {m : Method} (read : ofString? name = some m) : m = ⟨name⟩ := by
  unfold ofString? at read
  split at read
  · exact (Option.some.inj read).symm
  · cases read

end Method

namespace MethodSet

variable {s : MethodSet} {m : Method}

/-- The shape a filter is meant to keep: every member is in upper case, and no
two members are equal up to ASCII case. -/
structure Canonical (s : MethodSet) : Prop where
  upper : ∀ m ∈ s.methods, m.IsUpper
  distinct : (s.methods.map Method.foldCase).Nodup

instance : DecidablePred Canonical := fun s =>
  decidable_of_iff ((∀ m ∈ s.methods, m.IsUpper) ∧ (s.methods.map Method.foldCase).Nodup)
    ⟨fun ⟨upper, distinct⟩ => ⟨upper, distinct⟩, fun ⟨upper, distinct⟩ => ⟨upper, distinct⟩⟩

theorem canonical_any : any.Canonical :=
  ⟨by simp [any], by simp [any]⟩

theorem contains_iff_mem : s.methods.contains m = true ↔ m ∈ s.methods := by
  rw [List.contains_iff_exists_mem_beq]
  constructor
  · rintro ⟨m', listed, same⟩
    rw [Method.beq_iff_eq] at same
    exact same ▸ listed
  · intro listed
    exact ⟨m, listed, Method.beq_iff_eq.2 rfl⟩

theorem allows_iff : s.allows m = true ↔ s.methods = [] ∨ ∃ m' ∈ s.methods, eqIgnoreAsciiCase m'.name m.name = true := by
  simp only [allows, allowsName, Bool.or_eq_true, List.isEmpty_iff, List.any_eq_true]

theorem Canonical.mem_iff (canonical : s.Canonical) (upper : m.IsUpper) :
    m ∈ s.methods ↔ ∃ m' ∈ s.methods, eqIgnoreAsciiCase m'.name m.name = true := by
  constructor
  · intro listed
    exact ⟨m, listed, eqIgnoreAsciiCase_self _⟩
  · rintro ⟨m', listed, same⟩
    rw [← Method.eq_of_eqIgnoreAsciiCase (canonical.upper m' listed) upper same]
    exact listed

/-- Adding an upper-case method to a canonical filter puts it last when no
member equals it up to ASCII case, and changes nothing otherwise. -/
theorem Canonical.insert_methods (canonical : s.Canonical) (upper : m.IsUpper) :
    (s.insert m).methods =
      if ∃ m' ∈ s.methods, eqIgnoreAsciiCase m'.name m.name = true then s.methods else s.methods ++ [m] := by
  unfold insert
  by_cases present : ∃ m' ∈ s.methods, eqIgnoreAsciiCase m'.name m.name = true
  · rw [if_pos (contains_iff_mem.2 ((canonical.mem_iff upper).2 present)), if_pos present]
  · have absent : ¬ s.methods.contains m = true := by
      rw [contains_iff_mem, canonical.mem_iff upper]
      exact present
    rw [if_neg absent, if_neg present]

theorem Canonical.insert (canonical : s.Canonical) (upper : m.IsUpper) : (s.insert m).Canonical := by
  have added := canonical.insert_methods upper
  split at added
  · refine ⟨?_, ?_⟩
    · rw [added]
      exact canonical.upper
    · rw [added]
      exact canonical.distinct
  · rename_i absent
    refine ⟨?_, ?_⟩
    · rw [added]
      intro m' listed
      rcases List.mem_append.1 listed with earlier | added
      · exact canonical.upper m' earlier
      · rw [List.mem_singleton.1 added]
        exact upper
    · -- the new member folds apart from every other one
      rw [added, List.map_append, List.nodup_append]
      refine ⟨canonical.distinct, List.nodup_singleton _, ?_⟩
      intro folded listed folded' added
      obtain ⟨m', member, rfl⟩ := List.mem_map.1 listed
      rw [List.map_singleton, List.mem_singleton] at added
      rintro rfl
      exact absent ⟨m', member, Method.foldCase_eq_iff.1 added⟩

theorem Canonical.foldl_insert (canonical : s.Canonical) {ms : List Method} (upper : ∀ m ∈ ms, m.IsUpper) :
    (ms.foldl MethodSet.insert s).Canonical := by
  induction ms generalizing s with
  | nil => exact canonical
  | cons m rest induction =>
      rw [List.foldl_cons]
      exact induction (canonical.insert (upper m List.mem_cons_self))
        fun m' member => upper m' (List.mem_cons_of_mem m member)

theorem normalize_isUpper {name : String} (read : normalize name = .ok m) : m.IsUpper := by
  unfold normalize Method.parse at read
  split at read
  · rename_i found
    cases read
    rw [Method.ofString?_eq_some found]
    exact asciiUpper_idem name
  · cases read

theorem Canonical.insertNames (canonical : s.Canonical) {names : List String} {s' : MethodSet}
    (read : s.insertNames names = .ok s') : s'.Canonical := by
  induction names generalizing s with
  | nil =>
      cases read
      exact canonical
  | cons name rest induction =>
      unfold insertNames at read
      dsimp only at read
      split at read
      · exact induction canonical read
      · split at read
        · rename_i m normalized
          exact induction (canonical.insert (normalize_isUpper normalized)) read
        · cases read

theorem canonical_parse {list : String} (read : parse list = .ok s) : s.Canonical :=
  canonical_any.insertNames read

theorem canonical_ofNames {names : List String} (read : ofNames names = .ok s) : s.Canonical :=
  canonical_any.insertNames read

theorem canonical_ofMethods {ms : List Method} (upper : ∀ m ∈ ms, m.IsUpper) : (ofMethods ms).Canonical :=
  canonical_any.foldl_insert upper

theorem Canonical.filter_foldCase {l : List Method} (distinct : (l.map Method.foldCase).Nodup)
    (listed : m ∈ l) : l.filter (fun m' => decide (m'.foldCase = m.foldCase)) = [m] := by
  induction l with
  | nil => cases listed
  | cons a rest induction =>
      rw [List.map_cons, List.nodup_cons] at distinct
      obtain ⟨fresh, distinct⟩ := distinct
      rcases List.mem_cons.1 listed with rfl | later
      · -- no later member folds like the first
        rw [List.filter_cons_of_pos (by simp), List.filter_eq_nil_iff.2]
        intro m' member same
        exact fresh (List.mem_map.2 ⟨m', member, of_decide_eq_true same⟩)
      · have apart : ¬ a.foldCase = m.foldCase := by
          intro same
          exact fresh (same ▸ List.mem_map_of_mem later)
        rw [List.filter_cons_of_neg (by simpa using apart)]
        exact induction distinct later

/-- A canonical filter that names some method lists a method it allows once,
in upper case. -/
theorem Canonical.filter_eqIgnoreAsciiCase (canonical : s.Canonical) (named : s.methods ≠ [])
    (allowed : s.allows m = true) :
    s.methods.filter (fun m' => eqIgnoreAsciiCase m'.name m.name) = [⟨asciiUpper m.name⟩] := by
  obtain empty | ⟨m', listed, same⟩ := allows_iff.1 allowed
  · exact absurd empty named
  -- the member is the upper-case form of the method
  have upperForm : m' = ⟨asciiUpper m.name⟩ := by
    have upper := canonical.upper m' listed
    rw [Method.IsUpper, asciiUpper_eq_of_eqIgnoreAsciiCase same] at upper
    exact Method.ext_name upper.symm
  have folded : ∀ m'' : Method, eqIgnoreAsciiCase m''.name m.name = decide (m''.foldCase = m'.foldCase) := by
    intro m''
    have sameFold : m'.foldCase = m.foldCase := Method.foldCase_eq_iff.2 same
    rw [sameFold, Bool.eq_iff_iff, decide_eq_true_iff, Method.foldCase_eq_iff]
  rw [List.filter_congr fun m'' _ => folded m'', ← upperForm]
  exact filter_foldCase canonical.distinct listed

end MethodSet

theorem Rule.canonical_withMethodList {r r' : Rule} {list : String} (canonical : r.methods.Canonical)
    (read : r.withMethodList list = .ok r') : r'.methods.Canonical := by
  unfold Rule.withMethodList at read
  cases parsed : MethodSet.parse list with
  | error e => simp [parsed, Except.map] at read
  | ok ms =>
      simp only [parsed, Except.map, Except.ok.injEq] at read
      rw [← read]
      exact canonical.foldl_insert (MethodSet.canonical_parse parsed).upper

/-- The method filters built from names, or from methods written in upper case:
the empty filter, a filter read from a comma-separated list or from names, one
collected from upper-case methods, and one with an upper-case method added,
directly or through the builders of a rule. -/
inductive MethodSet.Built : MethodSet → Prop
  | any : Built .any
  | parse {list : String} {s : MethodSet} (read : MethodSet.parse list = .ok s) : Built s
  | ofNames {names : List String} {s : MethodSet} (read : MethodSet.ofNames names = .ok s) : Built s
  | ofMethods {ms : List Method} (upper : ∀ m ∈ ms, m.IsUpper) : Built (MethodSet.ofMethods ms)
  | insert {s : MethodSet} {m : Method} (built : Built s) (upper : m.IsUpper) : Built (s.insert m)
  | withMethod {r : Rule} {m : Method} (built : Built r.methods) (upper : m.IsUpper) :
      Built (r.withMethod m).methods
  | withMethodList {r r' : Rule} {list : String} (built : Built r.methods)
      (read : r.withMethodList list = .ok r') : Built r'.methods
  | withMethods {r : Rule} {s : MethodSet} (built : Built s) : Built (r.withMethods s).methods

/-- What a filter keeps when it has one upper-case entry per method: it is
canonical; it lists a method it allows once, in upper case; an upper-case
method added goes last exactly when no member equals it up to ASCII case; and
it allows a method when it is empty or a member equals the method up to ASCII
case. -/
structure MethodSet.OneUpperEntry (s : MethodSet) : Prop where
  canonical : s.Canonical
  listedOnce : ∀ m : Method, s.methods ≠ [] → s.allows m = true →
    s.methods.filter (fun m' => eqIgnoreAsciiCase m'.name m.name) = [⟨asciiUpper m.name⟩]
  firstInsertion : ∀ m : Method, m.IsUpper →
    (s.insert m).methods =
      if ∃ m' ∈ s.methods, eqIgnoreAsciiCase m'.name m.name = true then s.methods else s.methods ++ [m]
  allows : ∀ m : Method, s.allows m = true ↔
    s.methods = [] ∨ ∃ m' ∈ s.methods, eqIgnoreAsciiCase m'.name m.name = true

theorem MethodSet.Built.canonical {s : MethodSet} (built : s.Built) : s.Canonical := by
  induction built with
  | any => exact canonical_any
  | parse read => exact canonical_parse read
  | ofNames read => exact canonical_ofNames read
  | ofMethods upper => exact canonical_ofMethods upper
  | insert _ upper canonical => exact canonical.insert upper
  | withMethod _ upper canonical => exact canonical.insert upper
  | withMethodList _ read canonical => exact Rule.canonical_withMethodList canonical read
  | withMethods _ canonical => exact canonical

/-- Every filter built from names, or from methods written in upper case, keeps
one upper-case entry per method. -/
theorem built_methodSet_one_upper_entry {s : MethodSet} (built : s.Built) : s.OneUpperEntry where
  canonical := built.canonical
  listedOnce _ named allowed := built.canonical.filter_eqIgnoreAsciiCase named allowed
  firstInsertion _ upper := built.canonical.insert_methods upper
  allows _ := MethodSet.allows_iff

/-- `get`, ` Post ` and `GET` read as the filter `GET,POST`. -/
theorem built_methodSet_one_upper_entry_names :
    MethodSet.ofNames ["get", " Post ", "GET"] = .ok ⟨[⟨"GET"⟩, ⟨"POST"⟩]⟩ ∧
      MethodSet.OneUpperEntry ⟨[⟨"GET"⟩, ⟨"POST"⟩]⟩ := by
  have read : MethodSet.ofNames ["get", " Post ", "GET"] = .ok ⟨[⟨"GET"⟩, ⟨"POST"⟩]⟩ := by decide
  exact ⟨read, built_methodSet_one_upper_entry (.ofNames read)⟩

/-- Collecting `GET` and then `get` keeps both as given: the filter is written
`GET,get` and is not canonical. -/
theorem ofMethods_keeps_case_variants :
    (MethodSet.ofMethods [⟨"GET"⟩, ⟨"get"⟩]).render = "GET,get" ∧
      ¬ (MethodSet.ofMethods [⟨"GET"⟩, ⟨"get"⟩]).Canonical := by
  decide

end RestDispatch
