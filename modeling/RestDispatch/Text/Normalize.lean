import RestDispatch.Unicode.Normalization

/-!
# Canonical normalization

`nfc` puts a sequence of code points in Normalization Form C: every code point
is replaced by its full canonical decomposition, each run of non-starters
(code points of combining class above zero) is sorted by class, keeping the
order of equal classes, and then each code point is composed with the last
starter before it when nothing in between blocks it, that is, when every code
point in between has a class above zero and below its own. A starter right
after the last starter composes with it too.
-/

namespace RestDispatch.Text

open RestDispatch.Unicode

set_option autoImplicit false

/-- Insert a non-starter into a run sorted by class, after every member of
its class or below. -/
def insertByClass (c : Nat) : List Nat → List Nat
  | [] => [c]
  | d :: ds => if combiningClass c < combiningClass d then c :: d :: ds else d :: insertByClass c ds

/-- A run of non-starters sorted by class, equal classes in their order. -/
def sortRun (run : List Nat) : List Nat :=
  run.foldl (fun acc c => insertByClass c acc) []

/-- Sort every run of non-starters by class; `run` is the pending run, in
order. -/
def canonicalOrder (run : List Nat) : List Nat → List Nat
  | [] => sortRun run
  | c :: cs =>
    if combiningClass c = 0 then sortRun run ++ c :: canonicalOrder [] cs
    else canonicalOrder (run ++ [c]) cs

/-- The full canonical decomposition of a sequence, in canonical order. -/
def nfd (cs : List Nat) : List Nat :=
  canonicalOrder [] (cs.flatMap decompose)

/-- The state of composition: the code points kept so far, in reverse order
after the last starter; the last starter, if any; the code points before it,
in reverse order; and the class of the last code point kept, `256` when none
was kept after a starter that is not one. -/
structure Composer where
  tail : List Nat
  starter : Option Nat
  before : List Nat
  lastClass : Nat

/-- The composed sequence. -/
def Composer.result (k : Composer) : List Nat :=
  k.before.reverse ++ k.starter.toList ++ k.tail.reverse

/-- Take the next code point. -/
def Composer.push (k : Composer) (c : Nat) : Composer :=
  let cls := combiningClass c
  let composite :=
    match k.starter with
    | some s => if k.lastClass < cls || k.lastClass = 0 then composePair s c else none
    | none => none
  match composite with
  | some x => { k with starter := some x }
  | none =>
    if cls = 0 then ⟨[], some c, k.tail ++ k.starter.toList ++ k.before, 0⟩
    else { k with tail := c :: k.tail, lastClass := cls }

/-- Compose a sequence in canonical order. -/
def compose (cs : List Nat) : List Nat :=
  (cs.foldl Composer.push ⟨[], none, [], 256⟩).result

/-- Normalization Form C. -/
def nfc (cs : List Nat) : List Nat := compose (nfd cs)

/-- A sequence is in Normalization Form C. -/
def isNfc (cs : List Nat) : Bool := nfc cs == cs

end RestDispatch.Text
