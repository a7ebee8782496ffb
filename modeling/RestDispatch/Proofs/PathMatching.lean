import RestDispatch.Route.Pattern
import Mathlib.Data.List.TakeWhile

/-!
# Extracting a fixed prefix against matching a whole path

`PathPattern.extract` reads the segments before the first wildcard or
optional one from a cursor, and `PathPattern.matchPath` reads a whole path.
They are two loops with different stopping rules, and endpoint routing calls
both on one path. This module relates them: a successful extraction moves the
cursor past exactly the fixed prefix and captures its variables in order, a
failed one leaves the cursor where it was and fails as matching the whole path
fails, and every refusal names the constrained variable at its position.
-/

namespace RestDispatch

set_option autoImplicit false

namespace Cursor

theorem next_eq_none_iff (c : Cursor) : c.next = none ↔ c.path.length ≤ c.offset := by
  simp [next, peek, Path.get?, Path.length]

theorem remaining_of_next {c c' : Cursor} {value : String} (read : c.next = some (value, c')) :
    c.offset < c.path.length ∧ c.path.segments[c.offset]? = some value ∧
      c' = ⟨c.path, c.offset + 1⟩ ∧ c.remaining = value :: c'.remaining := by
  simp only [next, peek, Path.get?, Option.map_eq_some_iff, Prod.mk.injEq] at read
  obtain ⟨segment, found, rfl, rfl⟩ := read
  obtain ⟨inside, rfl⟩ := List.getElem?_eq_some_iff.1 found
  exact ⟨inside, found, rfl, List.drop_eq_getElem_cons inside⟩

end Cursor

namespace Segment

/-- What a segment captures from a value it accepts: a variable's name with
the value, and nothing for any other segment. -/
def capture? (s : Segment) (value : String) : Option (String × String) :=
  match s.required with
  | .variable name _ => some (name, value)
  | _ => none

theorem check_eq_violation_iff {s : Segment} {value : String} {position : Nat} {v : Violation} :
    s.check value position = .violation v ↔
      s.required = .variable v.name (some v.constraint) ∧
        constraintAccepts v.constraint v.value = false ∧ v.position = position ∧ v.value = value := by
  obtain ⟨vPosition, vName, vConstraint, vValue⟩ := v
  cases required : s.required with
  | «variable» name constraint =>
      cases constraint with
      | none => simp [check, required]
      | some source =>
          by_cases accepted : constraintAccepts source value = true
          · simp only [check, required, accepted, if_true, reduceCtorEq, false_iff, not_and]
            rintro ⟨rfl, rfl⟩ rejected _ rfl
            simp [accepted] at rejected
          · simp only [check, required, accepted, Bool.false_eq_true, if_false, Check.violation.injEq,
              Violation.mk.injEq, Segment.variable.injEq, Option.some.injEq]
            constructor
            · rintro ⟨rfl, rfl, rfl, rfl⟩
              simpa using accepted
            · rintro ⟨⟨rfl, rfl⟩, -, rfl, rfl⟩
              exact ⟨rfl, rfl, rfl, rfl⟩
  | literal text => simp only [check, required]; split <;> simp
  | wildcard => simp [check, required]
  | optional inner => simp [check, required]

theorem capture?_of_check_accepted {s : Segment} {value : String} {position : Nat}
    (accepted : s.check value position = .accepted) : s.capture? value = none := by
  cases required : s.required with
  | «variable» name constraint =>
      cases constraint with
      | none => simp [check, required] at accepted
      | some source => simp only [check, required] at accepted; split at accepted <;> simp at accepted
  | literal text => simp [capture?, required]
  | wildcard => simp [capture?, required]
  | optional inner => simp [capture?, required]

theorem capture?_of_check_captured {s : Segment} {value captured : String} {position : Nat}
    (capturing : s.check value position = .captured captured) :
    s.capture? value = some (s.captureName, captured) := by
  cases required : s.required with
  | «variable» name constraint =>
      have same : captured = value := by
        cases constraint with
        | none => simpa [check, required] using capturing.symm
        | some source =>
            simp only [check, required] at capturing
            split at capturing <;> simp_all
      simp [capture?, captureName, required, same]
  | literal text => simp only [check, required] at capturing; split at capturing <;> simp at capturing
  | wildcard => simp [check, required] at capturing
  | optional inner => simp [check, required] at capturing

end Segment

/-- The captures of fixed segments reading values one for one: each variable
segment's name with its value, in order. -/
def fixedCaptures (segments : List Segment) (values : List String) : List (String × String) :=
  (segments.zip values).filterMap fun (s, value) => s.capture? value

@[simp] theorem fixedCaptures_nil (values : List String) : fixedCaptures [] values = [] := rfl

@[simp] theorem fixedCaptures_cons (s : Segment) (segments : List Segment) (value : String)
    (values : List String) :
    fixedCaptures (s :: segments) (value :: values) =
      (s.capture? value).toList ++ fixedCaptures segments values := by
  cases capture : s.capture? value <;> simp [fixedCaptures, capture]

/-- A violation raised while `segments` are read from a path starting at
offset `start`: its position is a segment of the path at or after the start,
its value is that segment, and the segment of the pattern at the same place
is the constrained variable it names, whose expression rejects the value. -/
def Violation.RaisedBy (v : Violation) (segments : List Segment) (path : Path) (start : Nat) :
    Prop :=
  start ≤ v.position ∧ v.position < path.length ∧ path.get? v.position = some v.value ∧
    ∃ s, segments[v.position - start]? = some s ∧
      s.required = .variable v.name (some v.constraint) ∧
      constraintAccepts v.constraint v.value = false

namespace Violation

theorem raisedBy_here {v : Violation} {s : Segment} {segments : List Segment} {c c' : Cursor}
    {value : String} (read : c.next = some (value, c'))
    (refused : s.check value c.offset = .violation v) : v.RaisedBy (s :: segments) c.path c.offset := by
  obtain ⟨required, rejected, position, sameValue⟩ := Segment.check_eq_violation_iff.1 refused
  obtain ⟨inside, found, -, -⟩ := Cursor.remaining_of_next read
  refine ⟨by omega, by simpa [Path.length, position] using inside, ?_, s, by simp [position],
    required, rejected⟩
  simpa [Path.get?, position, sameValue] using found

theorem raisedBy_cons {v : Violation} {s : Segment} {segments : List Segment} {path : Path}
    {start : Nat} (later : v.RaisedBy segments path (start + 1)) :
    v.RaisedBy (s :: segments) path start := by
  obtain ⟨after, inside, found, t, at_, required, rejected⟩ := later
  refine ⟨by omega, inside, found, t, ?_, required, rejected⟩
  have shift : v.position - start = (v.position - (start + 1)) + 1 := by omega
  simpa [shift] using at_

end Violation

namespace PathPattern

section Reading

variable {segments : List Segment} {c c' : Cursor} {params params' : Params}
  {values values' : List String}

theorem extractSegments_ok (bound : c.offset ≤ c.path.length)
    (read : extractSegments segments c params values = .ok (params', values', c')) :
    c.offset + segments.length ≤ c.path.length ∧ c' = ⟨c.path, c.offset + segments.length⟩ ∧
      values' = (c.remaining.take segments.length).reverse ++ values ∧
      params'.pairs = params.pairs ++ fixedCaptures segments (c.remaining.take segments.length) := by
  induction segments generalizing c params values with
  | nil =>
      simp only [extractSegments, Except.ok.injEq, Prod.mk.injEq] at read
      obtain ⟨rfl, rfl, rfl⟩ := read
      simp [bound]
  | cons s rest induction =>
      cases next : c.next with
      | none => simp [extractSegments, next] at read
      | some step =>
          obtain ⟨value, probe⟩ := step
          -- the read segment heads what remains, so the rest is read one further on
          obtain ⟨inside, -, rfl, remaining⟩ := Cursor.remaining_of_next next
          have probeBound : c.offset + 1 ≤ c.path.length := inside
          simp only [extractSegments, next] at read
          cases checked : s.check value c.offset with
          | accepted =>
              rw [checked] at read
              obtain ⟨within, rfl, rfl, captured⟩ := induction probeBound read
              dsimp only at within ⊢
              refine ⟨by simp only [List.length_cons]; omega,
                by simp only [List.length_cons]; congr 1; omega, by simp [remaining], ?_⟩
              simp [remaining, captured, Segment.capture?_of_check_accepted checked]
          | captured v =>
              rw [checked] at read
              obtain ⟨within, rfl, rfl, captured⟩ := induction probeBound read
              dsimp only at within ⊢
              refine ⟨by simp only [List.length_cons]; omega,
                by simp only [List.length_cons]; congr 1; omega, by simp [remaining], ?_⟩
              simp [remaining, captured, Segment.capture?_of_check_captured checked, Params.push]
          | mismatch => simp [checked] at read
          | violation v => simp [checked] at read

theorem extractSegments_error {failure : PathMatch}
    (read : extractSegments segments c params values = .error failure) :
    failure = .noMatch ∨ ∃ v, failure = .violation v ∧ v.RaisedBy segments c.path c.offset := by
  induction segments generalizing c params values with
  | nil => simp [extractSegments] at read
  | cons s rest induction =>
      cases next : c.next with
      | none =>
          simp only [extractSegments, next, Except.error.injEq] at read
          exact .inl read.symm
      | some step =>
          obtain ⟨value, probe⟩ := step
          obtain ⟨-, -, rfl, -⟩ := Cursor.remaining_of_next next
          simp only [extractSegments, next] at read
          cases checked : s.check value c.offset with
          | accepted | captured _ =>
              rw [checked] at read
              obtain same | ⟨v, rfl, raised⟩ := induction read
              · exact .inl same
              · exact .inr ⟨v, rfl, Violation.raisedBy_cons raised⟩
          | mismatch =>
              simp only [checked, Except.error.injEq] at read
              exact .inl read.symm
          | violation v =>
              simp only [checked, Except.error.injEq] at read
              exact .inr ⟨v, read.symm, Violation.raisedBy_here next checked⟩

end Reading

section Matching

variable {path : Path} {cur : Cursor} {optional : Bool} {params : Params}

theorem matchSegments_fixed_append (fixed rest : List Segment) (values : List String)
    (allFixed : ∀ s ∈ fixed, (s.isWildcard || s.isOptional) = false) :
    matchSegments path (fixed ++ rest) cur false params =
      match extractSegments fixed cur params values with
      | .ok (params', _, cur') => matchSegments path rest cur' false params'
      | .error failure => failure := by
  induction fixed generalizing cur params values with
  | nil => rfl
  | cons s fixed induction =>
      -- a fixed segment is neither a wildcard nor optional, so matching reads it
      -- exactly as extraction does
      have sFixed := allFixed s (List.mem_cons_self ..)
      have restFixed : ∀ t ∈ fixed, (t.isWildcard || t.isOptional) = false :=
        fun t member => allFixed t (List.mem_cons_of_mem s member)
      simp only [Bool.or_eq_false_iff] at sFixed
      simp only [List.cons_append, matchSegments, sFixed.1, sFixed.2, Bool.false_eq_true, if_false,
        Bool.or_self, extractSegments]
      cases next : cur.next with
      | none => rfl
      | some step =>
          obtain ⟨value, probe⟩ := step
          cases checked : s.check value cur.offset with
          | accepted | captured _ =>
              simp only [checked]
              exact induction _ restFixed
          | mismatch => simp only [checked]
          | violation v => simp only [checked]

theorem matchSegments_violation {segments : List Segment} {v : Violation}
    (refused : matchSegments path segments cur optional params = .violation v) :
    v.RaisedBy segments cur.path cur.offset := by
  induction segments generalizing cur optional params with
  | nil =>
      simp only [matchSegments] at refused
      split at refused <;> simp at refused
  | cons s rest induction =>
      simp only [matchSegments] at refused
      split at refused
      · simp at refused
      · cases next : cur.next with
        | none =>
            simp only [next] at refused
            split at refused <;> simp at refused
        | some step =>
            obtain ⟨value, probe⟩ := step
            obtain ⟨-, -, rfl, -⟩ := Cursor.remaining_of_next next
            simp only [next] at refused
            cases checked : s.check value cur.offset with
            | accepted | captured _ =>
                rw [checked] at refused
                exact Violation.raisedBy_cons (induction refused)
            | mismatch => simp [checked] at refused
            | violation w =>
                simp only [checked, PathMatch.violation.injEq] at refused
                subst refused
                exact Violation.raisedBy_here next checked

theorem params_prefix_of_matchSegments {segments : List Segment} {e : Extraction}
    (matched : matchSegments path segments cur optional params = .matched e) :
    params.pairs <+: e.params.pairs := by
  induction segments generalizing cur optional params with
  | nil =>
      simp only [matchSegments] at matched
      split at matched
      · simp only [PathMatch.matched.injEq] at matched
        subst matched
        exact List.prefix_refl _
      · simp at matched
  | cons s rest induction =>
      simp only [matchSegments] at matched
      split at matched
      · simp only [PathMatch.matched.injEq] at matched
        subst matched
        exact List.prefix_refl _
      · cases next : cur.next with
        | none =>
            simp only [next] at matched
            split at matched
            · simp only [PathMatch.matched.injEq] at matched
              subst matched
              exact List.prefix_refl _
            · simp at matched
        | some step =>
            obtain ⟨value, probe⟩ := step
            simp only [next] at matched
            cases checked : s.check value cur.offset with
            | accepted =>
                rw [checked] at matched
                exact induction matched
            | captured captured =>
                rw [checked] at matched
                exact List.IsPrefix.trans (List.prefix_append _ _) (induction matched)
            | mismatch => simp [checked] at matched
            | violation w => simp [checked] at matched

end Matching

end PathPattern

namespace Violation

theorem RaisedBy.of_prefix {v : Violation} {fixed segments : List Segment} {path : Path}
    {start : Nat} (raised : v.RaisedBy fixed path start) (isPrefix : fixed <+: segments) :
    v.RaisedBy segments path start := by
  obtain ⟨after, inside, found, s, at_, required, rejected⟩ := raised
  obtain ⟨suffix, rfl⟩ := isPrefix
  have within := (List.getElem?_eq_some_iff.1 at_).1
  exact ⟨after, inside, found, s, by rw [List.getElem?_append_left within, at_], required, rejected⟩

end Violation

namespace PathPattern

section Extraction

variable (p : PathPattern)

theorem fixedPrefix_allFixed : ∀ s ∈ p.fixedPrefix, (s.isWildcard || s.isOptional) = false := by
  intro s member
  simpa using List.mem_takeWhile_imp member

theorem matchPath_eq_after_extract (x : Path) :
    p.matchPath x =
      match extractSegments p.fixedPrefix (Cursor.start x) .empty [] with
      | .ok (params, _, cur) =>
          matchSegments x (p.segments.dropWhile fun s => !(s.isWildcard || s.isOptional)) cur false
            params
      | .error failure => failure := by
  rw [matchPath, ← matchSegments_fixed_append _ _ _ (fixedPrefix_allFixed p)]
  simp only [fixedPrefix, List.takeWhile_append_dropWhile]

theorem extract_matched {c c' : Cursor} {e : Extraction} (bound : c.offset ≤ c.path.length)
    (extracted : p.extract c = (.matched e, c')) :
    c.offset + p.fixedPrefix.length ≤ c.path.length ∧
      c' = ⟨c.path, c.offset + p.fixedPrefix.length⟩ ∧
      e.matched = Path.ofSegments (c.remaining.take p.fixedPrefix.length) ∧
      e.params.pairs = fixedCaptures p.fixedPrefix (c.remaining.take p.fixedPrefix.length) := by
  unfold extract at extracted
  cases read : extractSegments p.fixedPrefix c .empty [] with
  | error failure =>
      rw [read] at extracted
      simp only [Prod.mk.injEq] at extracted
      obtain ⟨rfl, -⟩ := extracted
      rcases extractSegments_error read with same | ⟨v, same, -⟩ <;> simp at same
  | ok result =>
      obtain ⟨params, values, probe⟩ := result
      rw [read] at extracted
      simp only [Prod.mk.injEq, PathMatch.matched.injEq] at extracted
      obtain ⟨rfl, rfl⟩ := extracted
      obtain ⟨within, rfl, rfl, captured⟩ := extractSegments_ok bound read
      exact ⟨within, rfl, by simp, by simpa [Params.empty] using captured⟩

/-- A failed extraction is the failure of reading the fixed prefix, and it
leaves the cursor where it was. -/
theorem extract_of_failed {c : Cursor} (failed : (p.extract c).1.isMatched = false) :
    extractSegments p.fixedPrefix c .empty [] = .error (p.extract c).1 ∧ (p.extract c).2 = c := by
  unfold extract at failed ⊢
  cases read : extractSegments p.fixedPrefix c .empty [] with
  | error failure => exact ⟨rfl, rfl⟩
  | ok result => simp [read, PathMatch.isMatched] at failed

theorem extract_violation (c : Cursor) {v : Violation} (refused : (p.extract c).1 = .violation v) :
    v.RaisedBy p.segments c.path c.offset := by
  have failed : (p.extract c).1.isMatched = false := by simp [refused, PathMatch.isMatched]
  obtain same | ⟨w, same, raised⟩ := extractSegments_error (p.extract_of_failed failed).1
  · simp [refused] at same
  · simp only [refused, PathMatch.violation.injEq] at same
    subst same
    -- the fixed prefix is a prefix of the segments, so its violation is the pattern's
    exact raised.of_prefix (List.takeWhile_prefix _)

theorem matchPath_of_extract_failed (x : Path)
    (failed : (p.extract (Cursor.start x)).1.isMatched = false) :
    p.matchPath x = (p.extract (Cursor.start x)).1 := by
  rw [matchPath_eq_after_extract, (p.extract_of_failed failed).1]

theorem extract_of_matchPath_matched (x : Path) {e : Extraction}
    (matched : p.matchPath x = .matched e) :
    ∃ e' c', p.extract (Cursor.start x) = (.matched e', c') ∧ e'.params.pairs <+: e.params.pairs := by
  rw [matchPath_eq_after_extract] at matched
  unfold extract
  cases read : extractSegments p.fixedPrefix (Cursor.start x) .empty [] with
  | error failure =>
      rw [read] at matched
      subst matched
      rcases extractSegments_error read with same | ⟨v, same, -⟩ <;> simp at same
  | ok result =>
      obtain ⟨params, values, probe⟩ := result
      rw [read] at matched
      exact ⟨_, _, rfl, params_prefix_of_matchSegments matched⟩

theorem matchPath_violation (x : Path) {v : Violation} (refused : p.matchPath x = .violation v) :
    v.RaisedBy p.segments x 0 :=
  matchSegments_violation refused

end Extraction

end PathPattern

/-- How extracting a pattern's fixed prefix from offset `o` of a path `x`
relates to matching the whole of `x`; `f` is the length of the fixed prefix,
the segments before the first wildcard or optional one. -/
structure ExtractionAgrees (p : PathPattern) (x : Path) (o : Nat) : Prop where
  /-- A success moves the cursor to `o + f`, covers the path's segments from
  `o` to `o + f` (exactly those when, as in a path read from text, none is
  empty) and captures the variables among the first `f` segments of the
  pattern, each with the path segment under it, in order. -/
  matched : ∀ e c', p.extract ⟨x, o⟩ = (.matched e, c') →
    o + p.fixedPrefix.length ≤ x.length ∧ c' = ⟨x, o + p.fixedPrefix.length⟩ ∧
      e.matched = Path.ofSegments ((x.segments.drop o).take p.fixedPrefix.length) ∧
      ((∀ s ∈ x.segments, s ≠ "") →
        e.matched.segments = (x.segments.drop o).take p.fixedPrefix.length) ∧
      e.params.pairs = fixedCaptures p.fixedPrefix ((x.segments.drop o).take p.fixedPrefix.length)
  unmoved : (p.extract ⟨x, o⟩).1.isMatched = false → (p.extract ⟨x, o⟩).2 = ⟨x, o⟩
  sameFailure : (p.extract (Cursor.start x)).1.isMatched = false →
    p.matchPath x = (p.extract (Cursor.start x)).1
  prefixCaptures : ∀ e, p.matchPath x = .matched e →
    ∃ e' c', p.extract (Cursor.start x) = (.matched e', c') ∧ e'.params.pairs <+: e.params.pairs
  extractViolation : ∀ v, (p.extract ⟨x, o⟩).1 = .violation v → v.RaisedBy p.segments x o
  matchViolation : ∀ v, p.matchPath x = .violation v → v.RaisedBy p.segments x 0

/-- Extraction reads exactly the fixed prefix and agrees with whole-path
matching, from any cursor on any path. -/
theorem extract_agrees_with_matchPath (p : PathPattern) (x : Path) (o : Nat)
    (bound : o ≤ x.length) : ExtractionAgrees p x o where
  matched e c' extracted := by
    obtain ⟨within, rfl, matchedEq, captured⟩ := p.extract_matched bound extracted
    refine ⟨within, rfl, matchedEq, fun normal => ?_, captured⟩
    rw [matchedEq, Path.ofSegments, List.filter_eq_self.2]
    · rfl
    · intro s member
      have nonempty := normal s (List.mem_of_mem_drop (List.mem_of_mem_take member))
      simpa using nonempty
  unmoved failed := (p.extract_of_failed failed).2
  sameFailure := p.matchPath_of_extract_failed x
  prefixCaptures _ := p.extract_of_matchPath_matched x
  extractViolation _ := p.extract_violation ⟨x, o⟩
  matchViolation _ := p.matchPath_violation x

/-- The pattern of the library's own example, `part1/:part2/part3/*`, read
from the start of `part1/val2/part3/part4`. -/
theorem extract_agrees_on_example :
    0 ≤ (Path.ofString "part1/val2/part3/part4").length ∧
      ExtractionAgrees (PathPattern.ofString "part1/:part2/part3/*")
        (Path.ofString "part1/val2/part3/part4") 0 :=
  ⟨Nat.zero_le _, extract_agrees_with_matchPath _ _ 0 (Nat.zero_le _)⟩

end RestDispatch
