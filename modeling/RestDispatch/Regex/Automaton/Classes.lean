import RestDispatch.Regex.Automaton.Machine
import RestDispatch.Regex.CharSet
import RestDispatch.Regex.Utf8Ranges

/-!
# Classes of characters as states

A class of characters becomes states that read the UTF-8 bytes of its
members.

* An ASCII class is one state with a transition per range, leading to one
  empty end state.
* Read forwards, a class is built from its byte-range sequences
  (`byteSequences`) in order, as a trie of open states: a sequence shares the
  open states of the longest prefix it has in common with the sequence
  before, the open states beyond that prefix are closed, and a closed state
  reuses an equal state made before for the same class when the table of
  shared states still knows it. So common suffixes share states too.
* Read backwards, every sequence is a chain of single-transition states from
  its first byte to the end state, found again when the table of shared
  suffixes still knows the same byte range leading to the same state; a union
  state joins the chains.
-/

namespace RestDispatch.Regex

set_option autoImplicit false

/-- A state of the class being built whose transitions are not all known: the
known ones, and the range of the last one, whose target is still open. -/
structure OpenState where
  trans : Array Trans
  last : Option (Nat × Nat)

/-- Close the last transition of an open state, towards `next`. -/
def OpenState.closeLast (o : OpenState) (next : Nat) : OpenState :=
  match o.last with
  | some (lo, hi) => ⟨o.trans.push ⟨lo, hi, next⟩, none⟩
  | none => o

/-- The state with some transitions: an equal one made before for this class
if the table still knows it, otherwise a new one. -/
def sharedState (trans : Array Trans) : Build Nat := do
  let slot := transSlot trans
  match (← get).shared.get? slot trans with
  | some id => pure id
  | none =>
    let id ← addState false (8 * trans.size)
    modify fun m => { m with shared := m.shared.set slot trans id }
    pure id

/-- Close the last transition of the top open state, towards `next`. -/
def closeTop (stack : Array OpenState) (next : Nat) : Array OpenState :=
  stack.modify (stack.size - 1) (·.closeLast next)

/-- Turn the open states after the first `keep` ones into states, from the
top down, and close the transition leading to them. -/
def closeAbove (keep : Nat) : Nat → Array OpenState → Nat → Build (Array OpenState)
  | 0, stack, next => pure (closeTop stack next)
  | fuel + 1, stack, next =>
    if keep + 1 < stack.size then do
      let node := (stack.back?.getD ⟨#[], none⟩).closeLast next
      let id ← sharedState node.trans
      closeAbove keep fuel stack.pop id
    else pure (closeTop stack next)

/-- Add a byte-range sequence to the open states. -/
def addSequence (target : Nat) (stack : Array OpenState) (seq : List (Nat × Nat)) :
    Build (Array OpenState) := do
  let common := ((seq.zip stack.toList).takeWhile fun (r, o) => o.last == some r).length
  let stack ← closeAbove common stack.size stack target
  match seq.drop common with
  | [] => pure stack
  | r :: rs =>
    let stack := stack.modify (stack.size - 1) fun o => { o with last := some r }
    pure (rs.foldl (fun st r => st.push ⟨#[], some r⟩) stack)

/-- A class of ASCII characters: one state of transitions and its end. -/
def asciiClassRef (s : CharSet) : Build Ref := do
  let stop ← addState false 0
  let start ← addState false (8 * s.ranges.length)
  pure ⟨start, stop⟩

/-- A class read forwards. -/
def forwardClassRef (s : CharSet) : Build Ref := do
  let target ← addState false 0
  modify fun m => { m with shared := m.shared.clear sharedSlots }
  let mut stack : Array OpenState := #[⟨#[], none⟩]
  for (lo, hi) in s.ranges do
    for seq in byteSequences lo hi do
      stack ← addSequence target stack seq
  stack ← closeAbove 0 stack.size stack target
  let start ← sharedState ((stack[0]?.map (·.trans)).getD #[])
  pure ⟨start, target⟩

/-- A class read backwards. -/
def backwardClassRef (s : CharSet) : Build Ref := do
  modify fun m => { m with suffixes := m.suffixes.clear suffixSlots }
  let union ← addState true 0
  let altEnd ← addState false 0
  for (lo, hi) in s.ranges do
    for seq in byteSequences lo hi do
      let mut stop := altEnd
      for (a, b) in seq do
        let slot := suffixSlot stop a b
        match (← get).suffixes.get? slot (stop, a, b) with
        | some id => stop := id
        | none =>
          let id ← addState false 0
          modify fun m => { m with suffixes := m.suffixes.set slot (stop, a, b) id }
          stop := id
      patch union
  pure ⟨union, altEnd⟩

/-- A class read forwards or backwards. -/
def classRef (backward : Bool) (s : CharSet) : Build Ref :=
  if s.isAscii then asciiClassRef s
  else if backward then backwardClassRef s
  else forwardClassRef s

end RestDispatch.Regex
