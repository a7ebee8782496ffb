/-!
# The automaton under construction

Patterns run on an automaton of states over UTF-8 bytes, built by Thompson's
construction. Its memory is bounded: a `Machine` counts the states made so
far and the bytes their lists hold, and building stops with an error as soon
as the total passes the limit. Each state takes 32 bytes; a state with a list
of byte-range transitions adds 8 bytes per transition, and a union state 4
bytes per alternative. Joining states (`patch`) adds an alternative when the
source is a union, and otherwise only sets a target, which costs nothing.

States are numbered in the order they are made. Two tables of fixed size help
share states while a class of characters is built; a table keeps one entry
per slot, the slot chosen by the FNV-1a hash of the key, so a later key whose
hash takes the slot of an earlier one makes the table forget the earlier one.
Clearing a table starts a new round, which hides every older entry.
-/

namespace RestDispatch.Regex

set_option autoImplicit false

/-- A transition of a state: the bytes from `lo` to `hi`, leading to `next`. -/
structure Trans where
  lo : Nat
  hi : Nat
  next : Nat
  deriving Repr, DecidableEq

/-- A table of slots, each holding the round it was set in, a key and a value. -/
structure SlotTable (κ : Type) where
  round : Nat
  slots : Array (Option (Nat × κ × Nat))

namespace SlotTable

variable {κ : Type}

/-- A table of no slots yet. -/
def empty : SlotTable κ := ⟨0, #[]⟩

/-- The value of a key set in the current round in its slot. -/
def get? [DecidableEq κ] (t : SlotTable κ) (slot : Nat) (key : κ) : Option Nat :=
  match t.slots[slot]? with
  | some (some (r, k, v)) => if r = t.round ∧ k = key then some v else none
  | _ => none

/-- Set the value of a key in its slot, forgetting what the slot held. -/
def set (t : SlotTable κ) (slot : Nat) (key : κ) (value : Nat) : SlotTable κ :=
  { t with slots := t.slots.setIfInBounds slot (some (t.round, key, value)) }

/-- Start a new round: the first time, make `capacity` empty slots. -/
def clear (t : SlotTable κ) (capacity : Nat) : SlotTable κ :=
  if t.slots.size = 0 then { t with slots := Array.replicate capacity none }
  else { t with round := t.round + 1 }

end SlotTable

/-- One step of the FNV-1a hash. -/
def fnvStep (h : UInt64) (x : Nat) : UInt64 := (h ^^^ x.toUInt64) * 1099511628211

/-- The start of the FNV-1a hash. -/
def fnvStart : UInt64 := 14695981039346656037

/-- The slots of the table of shared states, and of shared suffixes. -/
def sharedSlots : Nat := 10000

/-- The slots of the table of shared suffixes. -/
def suffixSlots : Nat := 1000

/-- The slot of a list of transitions. -/
def transSlot (ts : Array Trans) : Nat :=
  (ts.foldl (fun h t => fnvStep (fnvStep (fnvStep h t.lo) t.hi) t.next) fnvStart).toNat % sharedSlots

/-- The slot of a suffix: a byte range leading to a state. -/
def suffixSlot (target lo hi : Nat) : Nat :=
  (fnvStep (fnvStep (fnvStep fnvStart target) lo) hi).toNat % suffixSlots

/-- An automaton under construction, as far as its size goes. -/
structure Machine where
  /-- The most bytes the automaton may take. -/
  limit : Nat
  /-- The number of states. -/
  count : Nat
  /-- The bytes held by transition lists and alternatives. -/
  heap : Nat
  /-- For each state, whether it is a union. -/
  unions : Array Bool
  /-- Shared states of the class being built, by their transitions. -/
  shared : SlotTable (Array Trans)
  /-- Shared suffixes of the class being built. -/
  suffixes : SlotTable (Nat × Nat × Nat)

/-- An empty machine with a limit. -/
def Machine.start (limit : Nat) : Machine :=
  ⟨limit, 0, 0, #[], SlotTable.empty, SlotTable.empty⟩

/-- The bytes the automaton takes. -/
def Machine.size (m : Machine) : Nat := m.count * 32 + m.heap

/-- Building an automaton: it fails once the size passes the limit. -/
abbrev Build := StateT Machine (Except Unit)

/-- Fail if the size has passed the limit. -/
def checkLimit : Build Unit := do
  let m ← get
  if m.size > m.limit then throw ()

/-- Make a state, a union or not, holding `heap` bytes; its number. -/
def addState (union : Bool) (heap : Nat) : Build Nat := do
  let id ← modifyGet fun m =>
    (m.count, { m with count := m.count + 1, heap := m.heap + heap, unions := m.unions.push union })
  checkLimit
  pure id

/-- Join a state to another: an alternative more when it is a union. -/
def patch (source : Nat) : Build Unit := do
  if (← get).unions.getD source false then
    modify fun m => { m with heap := m.heap + 4 }
    checkLimit

/-- The first and last state of a piece of automaton. -/
structure Ref where
  start : Nat
  stop : Nat
  deriving Repr

/-- A piece of one state. -/
def single (heap : Nat) : Build Ref := do
  let id ← addState false heap
  pure ⟨id, id⟩

end RestDispatch.Regex
