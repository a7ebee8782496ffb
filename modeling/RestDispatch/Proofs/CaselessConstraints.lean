import Mathlib
import RestDispatch.Proofs.CaseFolding

/-!
# Constraints that ignore ASCII case

A constraint is read as a pattern that ignores case, and the matcher then sees
a text only through a few questions about its characters: is the character at
a position this literal, is it in this class, is it a line feed or a carriage
return, is it a word character. When the expression asks each question in a
way that a capital ASCII letter answers as its small letter does, two texts
that differ only in the case of ASCII letters get the same end positions from
every start (`Expr.ends_eq`), so the constraint accepts both or neither.

`Expr.caseBlind` is that condition, checked on the expression: literals hold
no ASCII letter, every class holds a capital letter exactly when it holds the
small one, and word assertions are the ASCII ones. Reading a constraint without
case closes its classes under case folding and turns its letters into classes,
so the condition can be checked by evaluation on a given constraint
(`constraintCaseBlind`), and it gives `ConstraintIgnoresCase`.
-/

namespace RestDispatch

open RestDispatch.Text

set_option autoImplicit false

namespace Text

/-- A test on characters that gives each small ASCII letter the answer of its
capital gives every character the answer of its lower form. -/
theorem apply_asciiLowerChar_of_letters {β : Type} (f : Char → β)
    (letters : ∀ n < 26, f (Char.ofNat (97 + n)) = f (Char.ofNat (65 + n))) (c : Char) :
    f (asciiLowerChar c) = f c := by
  by_cases upper : 65 ≤ c.toNat ∧ c.toNat ≤ 90
  · have valid : ∀ n < 26, (65 + n).isValidChar ∧ (97 + n).isValidChar := by
      intro n small
      constructor <;>
      · unfold Nat.isValidChar
        omega
    have lowered : asciiLowerChar c = Char.ofNat (97 + (c.toNat - 65)) := by
      rw [← Char.toNat_inj, toNat_asciiLowerChar, if_pos upper,
        toNat_ofNat_of_isValidChar (valid _ (by omega)).2]
      omega
    have capital : Char.ofNat (65 + (c.toNat - 65)) = c := by
      rw [← Char.toNat_inj, toNat_ofNat_of_isValidChar (valid _ (by omega)).1]
      omega
    rw [lowered, letters _ (by omega), capital]
  · have unchanged : asciiLowerChar c = c := by
      rw [← Char.toNat_inj, toNat_asciiLowerChar, if_neg upper]
    rw [unchanged]

theorem isAlpha_letters : ∀ n < 26, (Char.ofNat (97 + n)).isAlpha = true ∧ (Char.ofNat (65 + n)).isAlpha = true := by
  decide

theorem beq_letters {c : Char} (free : c.isAlpha = false) :
    ∀ n < 26, (Char.ofNat (97 + n) == c) = (Char.ofNat (65 + n) == c) := by
  intro n small
  have apart : ∀ d : Char, d.isAlpha = true → (d == c) = false := by
    intro d alpha
    rw [beq_eq_false_iff_ne]
    rintro rfl
    rw [alpha] at free
    cases free
  rw [apart _ (isAlpha_letters n small).1, apart _ (isAlpha_letters n small).2]

end Text

namespace Regex

/-- A class holds a capital ASCII letter exactly when it holds the small one. -/
def CharSet.caseClosed (set : CharSet) : Bool :=
  (List.range 26).all fun n => set.contains (97 + n) == set.contains (65 + n)

/-- An assertion that answers a capital ASCII letter as its small letter:
all but the Unicode word assertions. -/
def Look.caseBlind : Look → Bool
  | .word _ unicode => !unicode
  | _ => true

mutual

/-- Every literal, class and assertion of the expression answers a capital
ASCII letter as its small letter. -/
def Expr.caseBlind : Expr → Bool
  | .empty => true
  | .lit cs => cs.all fun c => !c.isAlpha
  | .cls set => set.caseClosed
  | .look l => l.caseBlind
  | .rep _ _ _ sub | .capture _ sub => sub.caseBlind
  | .concat es | .alt es => Expr.caseBlindList es

/-- Every expression of a list is case-blind. -/
def Expr.caseBlindList : List Expr → Bool
  | [] => true
  | e :: es => e.caseBlind && Expr.caseBlindList es

end

theorem CharSet.contains_letters {set : CharSet} (closed : set.caseClosed = true) :
    ∀ n < 26, set.contains (Char.ofNat (97 + n)).toNat = set.contains (Char.ofNat (65 + n)).toNat := by
  intro n small
  have valid : (65 + n).isValidChar ∧ (97 + n).isValidChar := by
    constructor <;>
    · unfold Nat.isValidChar
      omega
  rw [toNat_ofNat_of_isValidChar valid.1, toNat_ofNat_of_isValidChar valid.2]
  simp only [caseClosed, List.all_eq_true, List.mem_range, beq_iff_eq] at closed
  exact closed n small

theorem isAsciiWord_letters :
    ∀ n < 26, isAsciiWord (Char.ofNat (97 + n)) = isAsciiWord (Char.ofNat (65 + n)) := by
  decide

/-- Two texts, as the matcher holds them, that lower to the same text. -/
def SameUpToCase (s s' : Array Char) : Prop :=
  s.toList.map asciiLowerChar = s'.toList.map asciiLowerChar

namespace SameUpToCase

variable {s s' : Array Char}

theorem size_eq (same : SameUpToCase s s') : s.size = s'.size := by
  have lengths := congrArg List.length same
  simpa using lengths

theorem map_getElem? (same : SameUpToCase s s') {β : Type} (f : Char → β)
    (letters : ∀ n < 26, f (Char.ofNat (97 + n)) = f (Char.ofNat (65 + n))) (i : Nat) :
    s[i]?.map f = s'[i]?.map f := by
  have lowered : s[i]?.map asciiLowerChar = s'[i]?.map asciiLowerChar := by
    have at_i := congrArg (·[i]?) same
    simpa [List.getElem?_map] using at_i
  have closed : f ∘ asciiLowerChar = f := funext (apply_asciiLowerChar_of_letters f letters)
  rw [← closed, ← Option.map_map, lowered, Option.map_map]

theorem beq_some (same : SameUpToCase s s') {c : Char} (free : c.isAlpha = false) (i : Nat) :
    (s[i]? == some c) = (s'[i]? == some c) := by
  have tested := same.map_getElem? (· == c) (beq_letters free) i
  cases read : s[i]? <;> cases read' : s'[i]? <;> simp_all

theorem textHas_eq (same : SameUpToCase s s') {cs : List Char} (free : ∀ c ∈ cs, c.isAlpha = false) (i : Nat) :
    textHas s cs i = textHas s' cs i := by
  induction cs generalizing i with
  | nil => rfl
  | cons c cs induction =>
      have rest := induction (fun d member => free d (List.mem_cons_of_mem c member)) (i + 1)
      simp only [textHas, same.beq_some (free c List.mem_cons_self) i, rest]

theorem wordAt_eq (same : SameUpToCase s s') (i : Nat) : wordAt s false i = wordAt s' false i := by
  have tested := same.map_getElem? isAsciiWord isAsciiWord_letters i
  unfold wordAt
  cases read : s[i]? <;> cases read' : s'[i]? <;> simp_all

theorem holds_eq (same : SameUpToCase s s') {l : Look} (blind : l.caseBlind = true) (i : Nat) :
    l.holds s i = l.holds s' i := by
  have sizes := same.size_eq
  have feed := same.beq_some (show ('\n' : Char).isAlpha = false by decide)
  have ret := same.beq_some (show ('\r' : Char).isAlpha = false by decide)
  have feedAfter : (s[i]? != some '\n') = (s'[i]? != some '\n') := by simp only [bne, feed i]
  have words := same.wordAt_eq
  -- the character before a position is read only past the first
  have before : ∀ c : Char, c.isAlpha = false →
      ((if i = 0 then none else s[i - 1]?) == some c) = ((if i = 0 then none else s'[i - 1]?) == some c) := by
    intro c free
    split
    · rfl
    · exact same.beq_some free (i - 1)
  have lineFeedBefore := before '\n' (by decide)
  have returnBefore := before '\r' (by decide)
  have returnBefore' : ((if i = 0 then none else s[i - 1]?) != some '\r') =
      ((if i = 0 then none else s'[i - 1]?) != some '\r') := by
    simp only [bne, returnBefore]
  cases l with
  | textStart => rfl
  | textEnd => simp [Look.holds, sizes]
  | lineStart crlf => cases crlf <;> simp [Look.holds, lineFeedBefore, returnBefore, feedAfter]
  | lineEnd crlf => cases crlf <;> simp [Look.holds, sizes, returnBefore', feed, ret]
  | word kind unicode =>
      cases unicode with
      | true => cases blind
      | false => cases kind <;> simp [Look.holds, wordBefore, words]

end SameUpToCase

namespace Expr

variable {s s' : Array Char}

theorem caseBlind_rep {lo : Nat} {hi : Option Nat} {greedy : Bool} {sub : Expr}
    (blind : (Expr.rep lo hi greedy sub).caseBlind = true) : sub.caseBlind = true := by
  simpa [caseBlind] using blind

theorem caseBlind_capture {index : Nat} {sub : Expr} (blind : (Expr.capture index sub).caseBlind = true) :
    sub.caseBlind = true := by
  simpa [caseBlind] using blind

theorem caseBlindList_cons {e : Expr} {es : List Expr} (blind : caseBlindList (e :: es) = true) :
    e.caseBlind = true ∧ caseBlindList es = true := by
  simpa [caseBlindList] using blind

mutual

/-- A case-blind expression ends its matches at the same positions in two texts
that differ only in ASCII case: by induction on the expression, the leaves from
the lemmas on the texts and the rest because each step uses the same function
of positions. -/
theorem ends_eq (same : SameUpToCase s s') :
    ∀ (e : Expr), e.caseBlind = true → ∀ i, ends s e i = ends s' e i
  | .empty, _, _ => rfl
  | .lit cs, blind, i => by
      have free : ∀ c ∈ cs, c.isAlpha = false := by simpa [caseBlind] using blind
      simp only [ends, same.textHas_eq free i]
  | .cls set, blind, i => by
      have closed : set.caseClosed = true := by simpa [caseBlind] using blind
      have tested := same.map_getElem? (fun c => set.contains c.toNat) (CharSet.contains_letters closed) i
      simp only [ends]
      cases read : s[i]? <;> cases read' : s'[i]? <;> simp_all
  | .look l, blind, i => by
      have lookBlind : l.caseBlind = true := by simpa [caseBlind] using blind
      simp only [ends, same.holds_eq lookBlind i]
  | .rep lo hi greedy sub, blind, i => by
      have step : (fun j => ends s sub j) = (fun j => ends s' sub j) :=
        funext fun j => ends_eq same sub (caseBlind_rep blind) j
      simp only [ends, step, same.size_eq]
  | .capture index sub, blind, i => by
      simp only [ends]
      exact ends_eq same sub (caseBlind_capture blind) i
  | .concat items, blind, i => by
      have itemsBlind : caseBlindList items = true := by simpa [caseBlind] using blind
      simp only [ends]
      exact endsSeq_eq same items itemsBlind [i]
  | .alt branches, blind, i => by
      have branchesBlind : caseBlindList branches = true := by simpa [caseBlind] using blind
      simp only [ends]
      exact endsAny_eq same branches branchesBlind i

theorem endsSeq_eq (same : SameUpToCase s s') :
    ∀ (es : List Expr), caseBlindList es = true → ∀ starts, endsSeq s es starts = endsSeq s' es starts
  | [], _, _ => rfl
  | e :: es, blind, starts => by
      have step : (fun j => ends s e j) = (fun j => ends s' e j) :=
        funext fun j => ends_eq same e (caseBlindList_cons blind).1 j
      simp only [endsSeq, step]
      exact endsSeq_eq same es (caseBlindList_cons blind).2 _

theorem endsAny_eq (same : SameUpToCase s s') :
    ∀ (es : List Expr), caseBlindList es = true → ∀ i, endsAny s es i = endsAny s' es i
  | [], _, _ => rfl
  | e :: es, blind, i => by
      simp only [endsAny, ends_eq same e (caseBlindList_cons blind).1 i,
        endsAny_eq same es (caseBlindList_cons blind).2 i]

end

theorem isMatch_eq_of_eqIgnoreAsciiCase {e : Expr} (blind : e.caseBlind = true) {v w : String}
    (same : eqIgnoreAsciiCase v w = true) : e.isMatch v = e.isMatch w := by
  have texts : SameUpToCase v.toList.toArray w.toList.toArray := by
    have lowered := congrArg String.toList (eqIgnoreAsciiCase_iff.1 same)
    simpa [SameUpToCase] using lowered
  have starts : ∀ i, ends v.toList.toArray e i = ends w.toList.toArray e i := ends_eq texts e blind
  unfold isMatch
  simp only [starts, texts.size_eq]

end Expr

end Regex

/-- The constraint, read without case, is case-blind; a constraint that cannot
be read accepts every value. -/
def constraintCaseBlind (source : String) : Bool :=
  match Regex.Pattern.read true (constraintText source) with
  | .ok p => p.expr.caseBlind
  | .error _ => true

theorem constraintIgnoresCase_of_caseBlind {source : String} (blind : constraintCaseBlind source = true) :
    ConstraintIgnoresCase source := by
  intro v w same
  unfold constraintCaseBlind at blind
  unfold constraintAccepts
  cases reading : Regex.Pattern.read true (constraintText source) with
  | error e => rfl
  | ok p =>
      rw [reading] at blind
      exact Regex.Expr.isMatch_eq_of_eqIgnoreAsciiCase blind same

end RestDispatch
