/-!
# Sets of code points

A `CharSet` is a set of Unicode scalar values kept as closed ranges `(lo, hi)`
in increasing order, each apart from the next by at least one scalar value.
The surrogates `D800`–`DFFF` are no scalar values, so `D7FF` and `E000` count
as neighbours: a range may run across the surrogates, and both its ends are
scalar values. Every set of scalar values has exactly one such list of
ranges, so the operations below, which all keep that form, agree with any
other way of computing the same set, range by range.

`union`, `inter`, `diff`, `symmDiff` and `complement` (within the scalar
values) are the set operations; `closeUnder` adds every member of each class
of a partition that meets the set, which is how case folding closes a class.
-/

namespace RestDispatch.Regex

set_option autoImplicit false

/-- The largest scalar value. -/
def maxScalar : Nat := 0x10FFFF

/-- The scalar value after `n`, stepping over the surrogates. -/
def nextScalar (n : Nat) : Nat := if n = 0xD7FF then 0xE000 else n + 1

/-- The scalar value before `n`, stepping over the surrogates. -/
def prevScalar (n : Nat) : Nat := if n = 0xE000 then 0xD7FF else n - 1

/-- A surrogate code point. -/
def isSurrogate (n : Nat) : Bool := 0xD800 ≤ n && n ≤ 0xDFFF

/-- A set of scalar values as increasing, separated closed ranges. -/
structure CharSet where
  ranges : List (Nat × Nat)
  deriving Repr, DecidableEq, Inhabited

namespace CharSet

/-- No scalar value. -/
def empty : CharSet := ⟨[]⟩

/-- Every scalar value. -/
def univ : CharSet := ⟨[(0, maxScalar)]⟩

/-- The part of a range that holds scalar values, with both ends scalar values. -/
def clip (r : Nat × Nat) : List (Nat × Nat) :=
  let lo := if isSurrogate r.1 then 0xE000 else r.1
  let hi := if isSurrogate r.2 then 0xD7FF else min r.2 maxScalar
  if lo ≤ hi then [(lo, hi)] else []

/-- Ranges sorted by their starts, with overlapping or neighbouring ones joined. -/
def joinSorted (rs : List (Nat × Nat)) : List (Nat × Nat) :=
  (rs.foldl (fun acc r => match acc with
    | (a, b) :: rest => if r.1 ≤ nextScalar b then (a, max b r.2) :: rest else r :: acc
    | [] => [r]) []).reverse

/-- The set of the scalar values in some ranges, given in any order; a range
written high end first is read the other way round. -/
def ofRanges (rs : List (Nat × Nat)) : CharSet :=
  let ordered := rs.map fun (a, b) => if a ≤ b then (a, b) else (b, a)
  ⟨joinSorted ((ordered.flatMap clip).mergeSort fun x y => x.1 ≤ y.1)⟩

/-- One scalar value. -/
def single (c : Nat) : CharSet := ofRanges [(c, c)]

/-- Membership of a scalar value. -/
def contains (s : CharSet) (c : Nat) : Bool :=
  s.ranges.any fun (a, b) => a ≤ c && c ≤ b

/-- Whether the set is empty. -/
def isEmpty (s : CharSet) : Bool := s.ranges.isEmpty

/-- Whether every member is ASCII. -/
def isAscii (s : CharSet) : Bool := s.ranges.all fun (_, b) => b ≤ 0x7F

/-- The only member of a set of one scalar value. -/
def single? (s : CharSet) : Option Nat :=
  match s.ranges with
  | [(a, b)] => if a = b then some a else none
  | _ => none

/-- The members of either set. -/
def union (s t : CharSet) : CharSet := ofRanges (s.ranges ++ t.ranges)

/-- The common part of two lists of increasing, separated ranges: each range of
the first meets the ranges of the second that end at or after its start and
begin at or before its end. -/
def interRanges : List (Nat × Nat) → List (Nat × Nat) → List (Nat × Nat)
  | [], _ => []
  | (a, b) :: xs, ys =>
    let ys := ys.dropWhile fun r => r.2 < a
    let here := (ys.takeWhile fun r => r.1 ≤ b).map fun r => (max a r.1, min b r.2)
    here ++ interRanges xs ys

/-- The members of both sets. -/
def inter (s t : CharSet) : CharSet := ⟨interRanges s.ranges t.ranges⟩

/-- The scalar values from `start` on that no range of the list holds. -/
def gaps (start : Nat) : List (Nat × Nat) → List (Nat × Nat)
  | [] => if start ≤ maxScalar then [(start, maxScalar)] else []
  | (a, b) :: rest =>
    (if start < a then [(start, prevScalar a)] else []) ++ gaps (nextScalar b) rest

/-- The scalar values outside the set. -/
def complement (s : CharSet) : CharSet := ⟨gaps 0 s.ranges⟩

/-- The members of the first set outside the second. -/
def diff (s t : CharSet) : CharSet := s.inter t.complement

/-- The members of exactly one of the two sets. -/
def symmDiff (s t : CharSet) : CharSet := (s.union t).diff (s.inter t)

/-- The members of all the sets of a list. -/
def unionAll (ss : List CharSet) : CharSet := ofRanges (ss.flatMap CharSet.ranges)

/-- The set together with every member of each class that meets it. -/
def closeUnder (classes : List (List Nat)) (s : CharSet) : CharSet :=
  let meeting := classes.filter fun cls => cls.any s.contains
  s.union (ofRanges (meeting.flatten.map fun c => (c, c)))

example : joinSorted [(0x61, 0x61), (0x62, 0x63), (0x65, 0x65)] = [(0x61, 0x63), (0x65, 0x65)] := by
  decide

example : joinSorted [(0xD000, 0xD7FF), (0xE000, 0xE001)] = [(0xD000, 0xE001)] := by decide

example : gaps 0 [(0x61, 0x61)] = [(0, 0x60), (0x62, maxScalar)] := by decide

example : interRanges [(0x41, 0x5A), (0x61, 0x7A)] [(0x50, 0x62)] = [(0x50, 0x5A), (0x61, 0x62)] := by
  decide

end CharSet

end RestDispatch.Regex
