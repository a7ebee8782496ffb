import RestDispatch.Dispatch.Endpoint
import RestDispatch.Proofs.AcceptedPaths

/-!
# Routing a path at an endpoint

An endpoint routes a method and an Api-relative path in four steps: its rule
must allow the method; its pattern's fixed prefix must be extracted from the
start of the path; without include patterns the whole pattern must match the
path; and the rule must pass what follows the prefix, the subpath. The
captures are those of the whole pattern, or with include patterns those of
the prefix followed by those of the first include pattern that matches the
subpath. Only the endpoint's own pattern can refuse a segment: the include and
exclude patterns of the rule only decide whether the subpath passes.

`Rule.matchPath_eq_some_iff` says when a rule passes a path, and
`Endpoint.route_eq_ok_some_iff` and `Endpoint.route_eq_error_iff` are the two
ways routing answers; `route_follows_four_steps` states them in the terms of
the four steps.
-/

namespace RestDispatch

set_option autoImplicit false

namespace Path

/-- A path without empty segments, as every path read from text is. -/
def Normal (p : Path) : Prop :=
  ∀ s ∈ p.segments, s ≠ ""

theorem Normal.ofSegments_eq {segments : List String} (normal : ∀ s ∈ segments, s ≠ "") :
    (Path.ofSegments segments).segments = segments := by
  simp only [ofSegments]
  rw [List.filter_eq_self]
  intro s member
  simpa using normal s member

end Path

namespace Params

theorem get?_append (p q : Params) (name : String) :
    (p.append q).get? name = (p.get? name).or (q.get? name) := by
  simp only [get?, append, List.find?_append, Option.map_or]

end Params

namespace Rule

/-- The captures `params` of the first include pattern of a rule that matches
`path`: every earlier include pattern fails on it. -/
def FirstInclude (r : Rule) (path : Path) (params : Params) : Prop :=
  ∃ before p after, r.includes = before ++ p :: after ∧
    (∀ q ∈ before, (q.matchPath path).isMatched = false) ∧ p.matchPath path = .matched ⟨params, path⟩

section Includes

variable (r : Rule) (path : Path) (params : Params)

private theorem includeCapture_eq_none_iff (p : PathPattern) :
    (match p.matchPath path with
      | .matched e => some e.params
      | _ => none) = none ↔ (p.matchPath path).isMatched = false := by
  cases p.matchPath path <;> simp [PathMatch.isMatched]

private theorem includeCapture_eq_some_iff (p : PathPattern) :
    (match p.matchPath path with
      | .matched e => some e.params
      | _ => none) = some params ↔ p.matchPath path = .matched ⟨params, path⟩ := by
  cases matched : p.matchPath path with
  | matched e =>
      -- a whole-path match covers the path it was given
      have covers : e.matched = path := PathPattern.matchSegments_matched_path matched
      obtain ⟨captured, covered⟩ := e
      simp only at covers
      subst covers
      simp
  | noMatch => simp
  | violation v => simp

theorem includeParams?_eq_some_iff :
    r.includeParams? path = some params ↔
      if r.includes = [] then params = .empty else r.FirstInclude path params := by
  by_cases empty : r.includes = []
  · simp [includeParams?, empty, eq_comm]
  · have present : r.includes.isEmpty = false := by simpa using empty
    simp only [includeParams?, present, Bool.false_eq_true, if_false, empty,
      List.findSome?_eq_some_iff, FirstInclude]
    constructor
    · rintro ⟨before, p, after, listed, found, earlier⟩
      exact ⟨before, p, after, listed, fun q member => (includeCapture_eq_none_iff path q).1
        (earlier q member), (includeCapture_eq_some_iff path params p).1 found⟩
    · rintro ⟨before, p, after, listed, earlier, found⟩
      exact ⟨before, p, after, listed, (includeCapture_eq_some_iff path params p).2 found,
        fun q member => (includeCapture_eq_none_iff path q).2 (earlier q member)⟩

theorem matchPath_eq_some_iff :
    r.matchPath path = some params ↔
      (if r.includes = [] then params = .empty else r.FirstInclude path params) ∧
        ∀ q ∈ r.excludes, q.accepts path = false := by
  rw [← includeParams?_eq_some_iff]
  unfold matchPath
  cases included : r.includeParams? path with
  | none => simp
  | some found =>
      by_cases excluded : r.excludes.any (fun p => p.accepts path) = true
      · obtain ⟨q, member, accepts⟩ := List.any_eq_true.1 excluded
        simp only [excluded, if_true, reduceCtorEq, false_iff, not_and]
        intro _ passes
        simp [passes q member] at accepts
      · have passes : ∀ q ∈ r.excludes, q.accepts path = false := by
          simpa using excluded
        simp only [excluded, Bool.false_eq_true, if_false, Option.some.injEq]
        exact ⟨fun same => ⟨same, passes⟩, fun both => both.1⟩

end Includes

end Rule

namespace Endpoint

section Route

variable (e : Endpoint) (method : Method) (x : Path)

/-- Routing succeeds exactly when the rule allows the method, the prefix is
extracted, the endpoint's captures are found (from the whole pattern without
include patterns, else from the prefix) and the rule passes the subpath. -/
theorem route_eq_ok_some_iff (found : EndpointMatch) :
    e.route method x = .ok (some found) ↔
      e.rule.allowsMethod method = true ∧
      ∃ pre c, e.pattern.extract (Cursor.start x) = (.matched pre, c) ∧
        ∃ pathParams,
          (if e.rule.includes = [] then e.pattern.matchPath x = .matched ⟨pathParams, x⟩
            else pathParams = pre.params) ∧
          ∃ included, e.rule.matchPath c.remainder = some included ∧
            found = ⟨pre.matched, c.remainder, pathParams.append included⟩ := by
  constructor
  · intro routed
    unfold route at routed
    cases allowed : e.rule.allowsMethod method with
    | false => simp [allowed] at routed
    | true =>
        rcases extracted : e.pattern.extract (Cursor.start x) with ⟨outcome, c⟩
        simp only [allowed, extracted, Bool.not_true, Bool.false_eq_true, if_false] at routed
        cases outcome with
        | noMatch => simp at routed
        | violation v => simp at routed
        | matched pre =>
            refine ⟨rfl, pre, c, rfl, ?_⟩
            by_cases empty : e.rule.includes = []
            · simp only [empty, List.isEmpty_nil, if_true] at routed ⊢
              cases whole : e.pattern.matchPath x with
              | noMatch => simp [whole] at routed
              | violation v => simp [whole] at routed
              | matched full =>
                  -- the whole-pattern match covers `x`, so only its captures are new
                  have covers : full.matched = x := PathPattern.matchSegments_matched_path whole
                  cases passed : e.rule.matchPath c.remainder with
                  | none => simp [whole, passed] at routed
                  | some included =>
                      simp only [whole, passed, Except.ok.injEq, Option.some.injEq] at routed
                      refine ⟨full.params, by rw [← covers], included, rfl, routed.symm⟩
            · have isEmpty : e.rule.includes.isEmpty = false := by simpa using empty
              simp only [empty, isEmpty, Bool.false_eq_true, if_false] at routed ⊢
              cases passed : e.rule.matchPath c.remainder with
              | none => simp [passed] at routed
              | some included =>
                  simp only [passed, Except.ok.injEq, Option.some.injEq] at routed
                  exact ⟨pre.params, rfl, included, rfl, routed.symm⟩
  · rintro ⟨allowed, pre, c, extracted, pathParams, captured, included, passed, rfl⟩
    unfold route
    simp only [allowed, extracted, Bool.not_true, Bool.false_eq_true, if_false]
    by_cases empty : e.rule.includes = []
    · simp only [empty, List.isEmpty_nil, if_true] at captured ⊢
      simp [captured, passed]
    · have isEmpty : e.rule.includes.isEmpty = false := by simpa using empty
      simp only [empty, isEmpty, Bool.false_eq_true, if_false] at captured ⊢
      simp [captured, passed]

theorem route_eq_error_iff (v : Violation) :
    e.route method x = .error v ↔
      e.rule.allowsMethod method = true ∧
        ((e.pattern.extract (Cursor.start x)).1 = .violation v ∨
          e.rule.includes = [] ∧ (e.pattern.extract (Cursor.start x)).1.isMatched = true ∧
            e.pattern.matchPath x = .violation v) := by
  unfold route
  cases allowed : e.rule.allowsMethod method with
  | false => simp
  | true =>
      rcases extracted : e.pattern.extract (Cursor.start x) with ⟨outcome, c⟩
      cases outcome with
      | noMatch => simp [PathMatch.isMatched]
      | violation w => simp [PathMatch.isMatched, eq_comm]
      | matched pre =>
          simp only [Bool.not_true, Bool.false_eq_true, if_false, true_and, reduceCtorEq,
            false_or, PathMatch.isMatched]
          by_cases empty : e.rule.includes = []
          · simp only [empty, true_and]
            cases whole : e.pattern.matchPath x with
            | noMatch => simp
            | violation w => simp [eq_comm]
            | matched full =>
                cases passed : e.rule.matchPath c.remainder <;> simp
          · have isEmpty : e.rule.includes.isEmpty = false := by simpa using empty
            simp only [isEmpty, Bool.false_eq_true, if_false, empty, false_and, iff_false]
            cases passed : e.rule.matchPath c.remainder <;> simp

end Route

end Endpoint

namespace PathPattern

theorem extract_start_matched {p : PathPattern} {x : Path} {pre : Extraction} {c : Cursor}
    (extracted : p.extract (Cursor.start x) = (.matched pre, c)) :
    c.remainder = ⟨x.segments.drop p.fixedPrefix.length⟩ ∧
      pre.matched = Path.ofSegments (x.segments.take p.fixedPrefix.length) ∧
      p.fixedPrefix.length ≤ x.length := by
  obtain ⟨within, moved, covered, -⟩ := p.extract_matched (Nat.zero_le _) extracted
  subst moved
  simp only [Cursor.start, Nat.zero_add] at within
  simp [covered, within, Cursor.start, Cursor.remainder, Cursor.remaining]

end PathPattern

/-- How an endpoint `e` answers a method and an Api-relative path `x`, with
`k` the length of the fixed prefix of its pattern. -/
structure FourStepRoute (e : Endpoint) (method : Method) (x : Path) : Prop where
  /-- Routing succeeds exactly when the rule allows the method, the prefix is
  extracted, the whole pattern matches when there are no include patterns, and
  the rule passes the path after the first `k` segments. -/
  accepted : (∃ found, e.route method x = .ok (some found)) ↔
    e.rule.allowsMethod method = true ∧
      (∃ pre c, e.pattern.extract (Cursor.start x) = (.matched pre, c)) ∧
      (e.rule.includes = [] → ∃ full, e.pattern.matchPath x = .matched full) ∧
      (e.rule.matchPath ⟨x.segments.drop e.pattern.fixedPrefix.length⟩).isSome
  /-- The endpoint path is the first `k` segments and the subpath the rest. -/
  split : ∀ found, e.route method x = .ok (some found) →
    found.endpointPath = Path.ofSegments (x.segments.take e.pattern.fixedPrefix.length) ∧
      found.subpath = ⟨x.segments.drop e.pattern.fixedPrefix.length⟩ ∧
      (x.Normal → found.endpointPath.segments = x.segments.take e.pattern.fixedPrefix.length ∧
        found.endpointPath.segments ++ found.subpath.segments = x.segments)
  /-- The captures are those of the endpoint's pattern, taken once (from the
  whole pattern without include patterns, else from the prefix), followed by
  those of the first include pattern that matches the subpath; a look-up finds
  the endpoint's capture first. -/
  captures : ∀ found, e.route method x = .ok (some found) →
    ∃ pathParams includeParams, found.params = pathParams.append includeParams ∧
      (e.rule.includes = [] →
        e.pattern.matchPath x = .matched ⟨pathParams, x⟩ ∧ includeParams = .empty) ∧
      (e.rule.includes ≠ [] →
        (∃ c, e.pattern.extract (Cursor.start x) = (.matched ⟨pathParams, found.endpointPath⟩, c)) ∧
          e.rule.FirstInclude found.subpath includeParams) ∧
      ∀ name, found.params.get? name = (pathParams.get? name).or (includeParams.get? name)
  /-- Only the endpoint's own pattern refuses a segment. -/
  refused : ∀ v, e.route method x = .error v ↔
    e.rule.allowsMethod method = true ∧
      ((e.pattern.extract (Cursor.start x)).1 = .violation v ∨
        e.rule.includes = [] ∧ (e.pattern.extract (Cursor.start x)).1.isMatched = true ∧
          e.pattern.matchPath x = .violation v)

namespace Endpoint

variable (e : Endpoint) (method : Method) (x : Path)

theorem route_accepted_iff :
    (∃ found, e.route method x = .ok (some found)) ↔
      e.rule.allowsMethod method = true ∧
        (∃ pre c, e.pattern.extract (Cursor.start x) = (.matched pre, c)) ∧
        (e.rule.includes = [] → ∃ full, e.pattern.matchPath x = .matched full) ∧
        (e.rule.matchPath ⟨x.segments.drop e.pattern.fixedPrefix.length⟩).isSome := by
  constructor
  · rintro ⟨found, routed⟩
    obtain ⟨allowed, pre, c, extracted, pathParams, captured, included, passed, -⟩ :=
      (e.route_eq_ok_some_iff method x found).1 routed
    have rest := (PathPattern.extract_start_matched extracted).1
    refine ⟨allowed, ⟨pre, c, extracted⟩, fun empty => ?_, ?_⟩
    · rw [if_pos empty] at captured
      exact ⟨_, captured⟩
    · rw [← rest, passed]
      rfl
  · rintro ⟨allowed, ⟨pre, c, extracted⟩, whole, passes⟩
    have rest := (PathPattern.extract_start_matched extracted).1
    obtain ⟨included, passed⟩ := Option.isSome_iff_exists.1 passes
    rw [← rest] at passed
    -- the endpoint's captures: the whole pattern's, or the prefix's
    have captured : ∃ pathParams,
        if e.rule.includes = [] then e.pattern.matchPath x = .matched ⟨pathParams, x⟩
        else pathParams = pre.params := by
      by_cases empty : e.rule.includes = []
      · obtain ⟨full, matched⟩ := whole empty
        have covers : full.matched = x := PathPattern.matchSegments_matched_path matched
        refine ⟨full.params, ?_⟩
        rw [if_pos empty, matched, ← covers]
      · exact ⟨pre.params, by rw [if_neg empty]⟩
    obtain ⟨pathParams, captured⟩ := captured
    exact ⟨_, (e.route_eq_ok_some_iff method x _).2
      ⟨allowed, pre, c, extracted, pathParams, captured, included, passed, rfl⟩⟩

theorem route_split {found : EndpointMatch} (routed : e.route method x = .ok (some found)) :
    found.endpointPath = Path.ofSegments (x.segments.take e.pattern.fixedPrefix.length) ∧
      found.subpath = ⟨x.segments.drop e.pattern.fixedPrefix.length⟩ ∧
      e.pattern.fixedPrefix.length ≤ x.length := by
  obtain ⟨-, pre, c, extracted, -, -, -, -, rfl⟩ := (e.route_eq_ok_some_iff method x found).1 routed
  obtain ⟨rest, covered, within⟩ := PathPattern.extract_start_matched extracted
  exact ⟨covered, rest, within⟩

end Endpoint

/-- An endpoint routes a path by the four steps of its rule and pattern: it
accepts exactly when each passes, its endpoint path and subpath split the path
after the fixed prefix, its captures are the pattern's followed by the first
matching include pattern's, and only its own pattern refuses a segment. -/
theorem route_follows_four_steps (e : Endpoint) (method : Method) (x : Path) :
    FourStepRoute e method x where
  accepted := e.route_accepted_iff method x
  split found routed := by
    obtain ⟨covered, rest, -⟩ := e.route_split method x routed
    refine ⟨covered, rest, fun normal => ?_⟩
    have taken : (Path.ofSegments (x.segments.take e.pattern.fixedPrefix.length)).segments =
        x.segments.take e.pattern.fixedPrefix.length :=
      Path.Normal.ofSegments_eq fun s member => normal s (List.mem_of_mem_take member)
    rw [covered, rest, taken]
    exact ⟨rfl, List.take_append_drop _ _⟩
  captures found routed := by
    obtain ⟨-, pre, c, extracted, pathParams, captured, included, passed, rfl⟩ :=
      (e.route_eq_ok_some_iff method x found).1 routed
    obtain ⟨inclusion, -⟩ := (e.rule.matchPath_eq_some_iff c.remainder included).1 passed
    refine ⟨pathParams, included, rfl, fun empty => ?_, fun present => ?_,
      Params.get?_append pathParams included⟩
    · rw [if_pos empty] at captured inclusion
      exact ⟨captured, inclusion⟩
    · rw [if_neg present] at captured inclusion
      subst captured
      exact ⟨⟨c, extracted⟩, inclusion⟩
  refused v := e.route_eq_error_iff method x v

end RestDispatch
