import Mathlib.Data.List.Basic
import Mathlib.Data.List.Forall2
import RestDispatch.Route.Rule

/-!
# Matching paths ignores ASCII case

Folding the case of a text lowers its ASCII letters and keeps every other
character. A literal segment compares texts after lowering each character
fully, and the full lowercase of an ASCII capital is the letter folding gives,
so a literal cannot tell a value from its folded form. A constraint is a regular
expression compiled to ignore case; that it ignores ASCII case is a property of
its source, `ConstraintIgnoresCase`, which the lemmas below assume of the
constraints a pattern holds.

Under that assumption every step of matching commutes with folding: matching
the folded path gives the folded outcome, in which captured values and the
value a violation reports are folded while positions, names and constraints
stay.
-/

namespace RestDispatch

open RestDispatch.Text

set_option autoImplicit false

namespace Text

theorem upper_iff_toNat (c : Char) : ('A' ≤ c ∧ c ≤ 'Z') ↔ (65 ≤ c.toNat ∧ c.toNat ≤ 90) := by
  simp only [Char.le_def, UInt32.le_iff_toNat_le]
  rfl

theorem toNat_ofNat_of_isValidChar {n : Nat} (valid : n.isValidChar) : (Char.ofNat n).toNat = n := by
  have unfolded : Char.ofNat n = Char.ofNatAux n valid := dif_pos valid
  rw [unfolded]
  rfl

theorem toNat_asciiLowerChar (c : Char) :
    (asciiLowerChar c).toNat = if 65 ≤ c.toNat ∧ c.toNat ≤ 90 then c.toNat + 32 else c.toNat := by
  unfold asciiLowerChar
  by_cases upper : 65 ≤ c.toNat ∧ c.toNat ≤ 90
  · have valid : (c.toNat + 32).isValidChar := by
      unfold Nat.isValidChar
      omega
    rw [if_pos ((upper_iff_toNat c).2 upper), if_pos upper]
    exact toNat_ofNat_of_isValidChar valid
  · rw [if_neg (mt (upper_iff_toNat c).1 upper), if_neg upper]

@[simp] theorem asciiLowerChar_idem (c : Char) : asciiLowerChar (asciiLowerChar c) = asciiLowerChar c := by
  have once := toNat_asciiLowerChar c
  have twice := toNat_asciiLowerChar (asciiLowerChar c)
  rw [← Char.toNat_inj, twice]
  by_cases upper : 65 ≤ c.toNat ∧ c.toNat ≤ 90
  · rw [if_pos upper] at once
    rw [if_neg (by omega)]
  · rw [if_neg upper] at once
    rw [if_neg (by omega)]

theorem lowerChars_asciiLowerChar (c : Char) : lowerChars (asciiLowerChar c) = lowerChars c := by
  have lowered := toNat_asciiLowerChar c
  by_cases upper : 65 ≤ c.toNat ∧ c.toNat ≤ 90
  · rw [if_pos upper] at lowered
    have ascii : c.toNat < 128 := by omega
    have asciiAfter : (asciiLowerChar c).toNat < 128 := by omega
    unfold lowerChars Unicode.lowerOf
    rw [if_pos ascii, if_pos asciiAfter]
    -- both sides are the folded letter, written out
    have folded := asciiLowerChar_idem c
    unfold asciiLowerChar at folded ⊢
    rw [folded]
  · have same : asciiLowerChar c = c := by
      rw [if_neg upper] at lowered
      exact Char.toNat_inj.1 lowered
    rw [same]

@[simp] theorem toList_asciiLower (s : String) : (asciiLower s).toList = s.toList.map asciiLowerChar := by
  simp [asciiLower]

@[simp] theorem asciiLower_idem (s : String) : asciiLower (asciiLower s) = asciiLower s := by
  apply String.toList_injective
  simp [List.map_map, Function.comp_def]

theorem eqIgnoreAsciiCase_iff {a b : String} :
    eqIgnoreAsciiCase a b = true ↔ asciiLower a = asciiLower b := by
  unfold eqIgnoreAsciiCase
  rw [beq_iff_eq]
  constructor
  · intro same
    apply String.toList_injective
    simpa using same
  · intro same
    simpa using congrArg String.toList same

@[simp] theorem eqIgnoreAsciiCase_asciiLower (a b : String) :
    eqIgnoreAsciiCase a (asciiLower b) = eqIgnoreAsciiCase a b := by
  simp [eqIgnoreAsciiCase, List.map_map, Function.comp_def]

theorem eqIgnoreAsciiCase_asciiLower_self (v : String) : eqIgnoreAsciiCase (asciiLower v) v = true := by
  rw [eqIgnoreAsciiCase_iff, asciiLower_idem]

@[simp] theorem sameLower_asciiLower (t v : String) : sameLower t (asciiLower v) = sameLower t v := by
  have lowered : lowerFull (asciiLower v) = lowerFull v := by
    simp only [lowerFull, toList_asciiLower, List.flatMap_map, lowerChars_asciiLowerChar]
  simp only [sameLower, lowered]

theorem asciiLower_eq_empty_iff {s : String} : asciiLower s = "" ↔ s = "" := by
  rw [← String.toList_eq_nil_iff, ← String.toList_eq_nil_iff, toList_asciiLower, List.map_eq_nil_iff]

theorem asciiLower_append (a b : String) : asciiLower (a ++ b) = asciiLower a ++ asciiLower b := by
  apply String.toList_injective
  simp

theorem asciiLower_intercalate (l : List String) :
    asciiLower ("/".intercalate l) = "/".intercalate (l.map asciiLower) := by
  have slash : asciiLower "/" = "/" := by
    apply String.toList_injective
    simp [asciiLowerChar]
  induction l with
  | nil => simp [asciiLower]
  | cons a rest induction =>
      cases rest with
      | nil => simp
      | cons b more =>
          rw [String.intercalate_cons_cons, asciiLower_append, asciiLower_append, slash, induction]
          simp only [List.map_cons, String.intercalate_cons_cons]

end Text

/-! ### Folded values -/

/-- The path with each segment case-folded. -/
def Path.foldCase (p : Path) : Path :=
  ⟨p.segments.map asciiLower⟩

/-- The cursor at the same offset of the folded path. -/
def Cursor.foldCase (c : Cursor) : Cursor :=
  ⟨c.path.foldCase, c.offset⟩

/-- The captures with their values case-folded; the names stay. -/
def Params.foldCase (p : Params) : Params :=
  ⟨p.pairs.map fun kv => (kv.1, asciiLower kv.2)⟩

/-- The violation with the refused value case-folded. -/
def Violation.foldCase (v : Violation) : Violation :=
  { v with value := asciiLower v.value }

/-- The check with its captured or refused value case-folded. -/
def Segment.Check.foldCase : Segment.Check → Segment.Check
  | .captured value => .captured (asciiLower value)
  | .violation v => .violation v.foldCase
  | other => other

def Extraction.foldCase (e : Extraction) : Extraction :=
  ⟨e.params.foldCase, e.matched.foldCase⟩

def PathMatch.foldCase : PathMatch → PathMatch
  | .matched e => .matched e.foldCase
  | .noMatch => .noMatch
  | .violation v => .violation v.foldCase

/-- The method with its name case-folded. -/
def Method.foldCase (m : Method) : Method :=
  ⟨asciiLower m.name⟩

theorem Method.foldCase_eq_iff {m m' : Method} : m.foldCase = m'.foldCase ↔ eqIgnoreAsciiCase m.name m'.name = true := by
  rw [eqIgnoreAsciiCase_iff, Method.foldCase, Method.foldCase, Method.mk.injEq]

theorem Path.foldCase_eq_iff {x y : Path} :
    x.foldCase = y.foldCase ↔ List.Forall₂ (fun a b => eqIgnoreAsciiCase a b = true) x.segments y.segments := by
  simp only [Path.foldCase, Path.mk.injEq, eqIgnoreAsciiCase_iff, ← List.forall₂_eq_eq_eq,
    List.forall₂_map_left_iff, List.forall₂_map_right_iff]

@[simp] theorem Path.length_foldCase (p : Path) : p.foldCase.length = p.length := by
  simp [Path.foldCase, Path.length]

theorem Path.render_foldCase (p : Path) : p.foldCase.render = asciiLower p.render := by
  simp [Path.render, Path.foldCase, asciiLower_intercalate]

theorem Path.ofSegments_map_asciiLower (values : List String) :
    Path.ofSegments (values.map asciiLower) = (Path.ofSegments values).foldCase := by
  have kept : ∀ s : String, (asciiLower s != "") = (s != "") := by
    intro s
    rw [Bool.eq_iff_iff]
    simp only [bne_iff_ne, ne_eq, asciiLower_eq_empty_iff]
  simp only [Path.ofSegments, Path.foldCase, List.filter_map, Function.comp_def, kept]

@[simp] theorem Cursor.offset_foldCase (c : Cursor) : c.foldCase.offset = c.offset := rfl

theorem Cursor.next_foldCase (c : Cursor) :
    c.foldCase.next = c.next.map fun (value, after) => (asciiLower value, after.foldCase) := by
  simp only [Cursor.next, Cursor.peek, Cursor.foldCase, Path.get?, Path.foldCase, List.getElem?_map]
  cases c.path.segments[c.offset]? <;> rfl

@[simp] theorem Cursor.isEmpty_foldCase (c : Cursor) : c.foldCase.isEmpty = c.isEmpty := by
  simp [Cursor.isEmpty, Cursor.foldCase]

theorem Cursor.remainder_foldCase (c : Cursor) : c.foldCase.remainder = c.remainder.foldCase := by
  simp [Cursor.remainder, Cursor.remaining, Cursor.foldCase, Path.foldCase, List.map_drop]

theorem Params.push_foldCase (p : Params) (name value : String) :
    (p.push name value).foldCase = p.foldCase.push name (asciiLower value) := by
  simp [Params.push, Params.foldCase]

theorem Params.append_foldCase (p q : Params) : (p.append q).foldCase = p.foldCase.append q.foldCase := by
  simp [Params.append, Params.foldCase]

@[simp] theorem PathMatch.isMatched_foldCase (m : PathMatch) : m.foldCase.isMatched = m.isMatched := by
  cases m <;> rfl

/-! ### Constraints that ignore case -/

/-- The constraint a segment holds its value to, if any. -/
def Segment.constraint? (s : Segment) : Option String :=
  match s.required with
  | .variable _ c => c
  | _ => none

/-- A constraint accepts a value exactly when it accepts the value with the
case of some ASCII letters changed. -/
def ConstraintIgnoresCase (source : String) : Prop :=
  ∀ v w, eqIgnoreAsciiCase v w = true → constraintAccepts source v = constraintAccepts source w

/-- The constraints of a pattern's segments, in order. -/
def PathPattern.constraints (p : PathPattern) : List String :=
  p.segments.filterMap Segment.constraint?

/-- The constraints of a rule's include and exclude patterns. -/
def Rule.constraints (r : Rule) : List String :=
  (r.includes ++ r.excludes).flatMap PathPattern.constraints

theorem Segment.check_foldCase (s : Segment) (blind : ∀ src ∈ s.constraint?, ConstraintIgnoresCase src)
    (value : String) (position : Nat) :
    s.check (asciiLower value) position = (s.check value position).foldCase := by
  unfold Segment.check
  unfold Segment.constraint? at blind
  split
  · rename_i text _
    rw [sameLower_asciiLower]
    split <;> rfl
  · rename_i name src held
    rw [held] at blind
    have accepts : constraintAccepts src (asciiLower value) = constraintAccepts src value :=
      blind src rfl _ _ (eqIgnoreAsciiCase_asciiLower_self value)
    rw [accepts]
    split <;> rfl
  · rfl
  · rfl

namespace PathPattern

section Folding

variable {segments : List Segment}

theorem extractSegments_foldCase
    (blind : ∀ s ∈ segments, ∀ src ∈ s.constraint?, ConstraintIgnoresCase src)
    (c : Cursor) (params : Params) (values : List String) :
    extractSegments segments c.foldCase params.foldCase (values.map asciiLower) =
      ((extractSegments segments c params values).mapError PathMatch.foldCase).map
        fun (params, values, c) => (params.foldCase, values.map asciiLower, c.foldCase) := by
  induction segments generalizing c params values with
  | nil => rfl
  | cons s rest induction =>
      have here := blind s List.mem_cons_self
      have later : ∀ s' ∈ rest, ∀ src ∈ s'.constraint?, ConstraintIgnoresCase src :=
        fun s' member => blind s' (List.mem_cons_of_mem s member)
      unfold extractSegments
      rw [Cursor.next_foldCase]
      cases c.next with
      | none => rfl
      | some step =>
          obtain ⟨value, probe⟩ := step
          simp only [Option.map_some]
          rw [Cursor.offset_foldCase, s.check_foldCase here]
          -- each check continues on the same segments, or stops with the folded failure
          cases s.check value c.offset with
          | accepted => exact induction later probe params (value :: values)
          | captured v =>
              simp only [Segment.Check.foldCase]
              rw [← Params.push_foldCase]
              exact induction later probe _ (value :: values)
          | mismatch => rfl
          | violation v => rfl

theorem matchSegments_foldCase
    (blind : ∀ s ∈ segments, ∀ src ∈ s.constraint?, ConstraintIgnoresCase src)
    (path : Path) (cur : Cursor) (optional : Bool) (params : Params) :
    matchSegments path.foldCase segments cur.foldCase optional params.foldCase =
      (matchSegments path segments cur optional params).foldCase := by
  induction segments generalizing cur optional params with
  | nil =>
      unfold matchSegments
      rw [Cursor.isEmpty_foldCase]
      split <;> rfl
  | cons s rest induction =>
      have here := blind s List.mem_cons_self
      have later : ∀ s' ∈ rest, ∀ src ∈ s'.constraint?, ConstraintIgnoresCase src :=
        fun s' member => blind s' (List.mem_cons_of_mem s member)
      unfold matchSegments
      split
      · rfl
      · rw [Cursor.next_foldCase]
        cases c : cur.next with
        | none =>
            simp only [Option.map_none]
            split <;> rfl
        | some step =>
            obtain ⟨value, probe⟩ := step
            simp only [Option.map_some]
            rw [Cursor.offset_foldCase, s.check_foldCase here]
            cases s.check value cur.offset with
            | accepted => exact induction later probe _ params
            | captured v =>
                simp only [Segment.Check.foldCase]
                rw [← Params.push_foldCase]
                exact induction later probe _ _
            | mismatch => rfl
            | violation v => rfl

end Folding

variable {p : PathPattern}

theorem segments_ignoreCase (blind : ∀ src ∈ p.constraints, ConstraintIgnoresCase src) :
    ∀ s ∈ p.segments, ∀ src ∈ s.constraint?, ConstraintIgnoresCase src := by
  intro s member src held
  exact blind src (List.mem_filterMap.2 ⟨s, member, held⟩)

theorem extract_foldCase (blind : ∀ src ∈ p.constraints, ConstraintIgnoresCase src) (c : Cursor) :
    p.extract c.foldCase = ((p.extract c).1.foldCase, (p.extract c).2.foldCase) := by
  have prefixBlind : ∀ s ∈ p.fixedPrefix, ∀ src ∈ s.constraint?, ConstraintIgnoresCase src :=
    fun s member => segments_ignoreCase blind s ((List.takeWhile_sublist _).subset member)
  have read : extractSegments p.fixedPrefix c.foldCase .empty [] =
      ((extractSegments p.fixedPrefix c .empty []).mapError PathMatch.foldCase).map
        fun (params, values, c) => (params.foldCase, values.map asciiLower, c.foldCase) :=
    extractSegments_foldCase prefixBlind c .empty []
  unfold extract
  rw [read]
  cases extractSegments p.fixedPrefix c .empty [] with
  | error m => rfl
  | ok result =>
      obtain ⟨params, values, probe⟩ := result
      simp only [Except.map, Except.mapError, ← List.map_reverse, Path.ofSegments_map_asciiLower]
      rfl

theorem matchPath_foldCase (blind : ∀ src ∈ p.constraints, ConstraintIgnoresCase src) (x : Path) :
    p.matchPath x.foldCase = (p.matchPath x).foldCase :=
  matchSegments_foldCase (segments_ignoreCase blind) x (Cursor.start x) false .empty

theorem accepts_foldCase (blind : ∀ src ∈ p.constraints, ConstraintIgnoresCase src) (x : Path) :
    p.accepts x.foldCase = p.accepts x := by
  rw [accepts, matchPath_foldCase blind, PathMatch.isMatched_foldCase, accepts]

end PathPattern

namespace Rule

variable {r : Rule}

theorem includes_ignoreCase (blind : ∀ src ∈ r.constraints, ConstraintIgnoresCase src) :
    ∀ p ∈ r.includes, ∀ src ∈ p.constraints, ConstraintIgnoresCase src := by
  intro p member src held
  exact blind src (List.mem_flatMap.2 ⟨p, List.mem_append_left _ member, held⟩)

theorem excludes_ignoreCase (blind : ∀ src ∈ r.constraints, ConstraintIgnoresCase src) :
    ∀ p ∈ r.excludes, ∀ src ∈ p.constraints, ConstraintIgnoresCase src := by
  intro p member src held
  exact blind src (List.mem_flatMap.2 ⟨p, List.mem_append_right _ member, held⟩)

theorem includeParams?_foldCase (blind : ∀ src ∈ r.constraints, ConstraintIgnoresCase src) (x : Path) :
    r.includeParams? x.foldCase = (r.includeParams? x).map Params.foldCase := by
  unfold includeParams?
  split
  · rfl
  · -- each include pattern captures the folded values of the folded path
    rw [List.map_findSome?, ← List.head?_filterMap, ← List.head?_filterMap]
    congr 1
    apply List.filterMap_congr
    intro p member
    rw [Function.comp_apply, p.matchPath_foldCase (includes_ignoreCase blind p member)]
    cases p.matchPath x <;> rfl

theorem matchPath_foldCase (blind : ∀ src ∈ r.constraints, ConstraintIgnoresCase src) (x : Path) :
    r.matchPath x.foldCase = (r.matchPath x).map Params.foldCase := by
  have excluded : (r.excludes.any fun p => p.accepts x.foldCase) = r.excludes.any fun p => p.accepts x := by
    rw [Bool.eq_iff_iff, List.any_eq_true, List.any_eq_true]
    exact exists_congr fun p => and_congr_right fun member => by
      rw [p.accepts_foldCase (excludes_ignoreCase blind p member)]
  unfold matchPath
  rw [includeParams?_foldCase blind, excluded]
  cases r.includeParams? x with
  | none => rfl
  | some params =>
      simp only [Option.map_some]
      split <;> rfl

theorem allowsMethod_foldCase (m : Method) : r.allowsMethod m.foldCase = r.allowsMethod m := by
  simp [allowsMethod, MethodSet.allows, MethodSet.allowsName, Method.foldCase]

theorem accepts_foldCase (blind : ∀ src ∈ r.constraints, ConstraintIgnoresCase src) (m : Method) (x : Path) :
    r.accepts m.foldCase x.foldCase = r.accepts m x := by
  rw [accepts, allowsMethod_foldCase, matchPath_foldCase blind, Option.isSome_map, accepts]

end Rule

end RestDispatch
