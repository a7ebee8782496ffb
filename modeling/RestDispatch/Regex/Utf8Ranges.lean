/-!
# Code point ranges as UTF-8 byte ranges

An automaton that reads UTF-8 bytes matches a range of code points through
sequences of byte ranges: `byteSequences lo hi` splits `[lo, hi]` into pieces
whose members all have the same UTF-8 length and share every leading byte but
the ranges of their continuation bytes, and gives each piece as the list of its
byte ranges, in increasing order of the code points.

The splits, in the order they are tried: around the surrogates; at the last
code point of each UTF-8 length; then, for the trailing 6, 12 and 18 bits, at
a boundary where the range does not start or end on a full block of those
bits. A piece that passes all three is encoded byte by byte: its first and
last code points give the bounds of each byte range.
-/

namespace RestDispatch.Regex

set_option autoImplicit false

/-- The UTF-8 bytes of a scalar value. -/
def utf8Bytes (c : Nat) : List Nat :=
  if c < 0x80 then [c]
  else if c < 0x800 then [0xC0 + c / 64, 0x80 + c % 64]
  else if c < 0x10000 then [0xE0 + c / 4096, 0x80 + (c / 64) % 64, 0x80 + c % 64]
  else [0xF0 + c / 262144, 0x80 + (c / 4096) % 64, 0x80 + (c / 64) % 64, 0x80 + c % 64]

/-- The UTF-8 bytes of some characters. -/
def utf8Text (cs : List Char) : List Nat := cs.flatMap fun c => utf8Bytes c.toNat

/-- The largest code point of `n` UTF-8 bytes, for `n` from 1 to 3. -/
def lastOfLength (n : Nat) : Nat :=
  match n with
  | 1 => 0x7F
  | 2 => 0x7FF
  | _ => 0xFFFF

/-- Where a range that does not start or end on a full block of the trailing
`6 * i` bits splits, for the first `i` from 1 to 3 where it does not: the two
halves. -/
def blockSplit? (lo hi : Nat) : Option ((Nat × Nat) × (Nat × Nat)) :=
  [1, 2, 3].findSome? fun i =>
    let block := Nat.pow 64 i
    if lo / block != hi / block then
      if lo % block != 0 then
        let mid := lo - lo % block + (block - 1)
        some ((lo, mid), (mid + 1, hi))
      else if hi % block != block - 1 then
        let mid := hi - hi % block
        some ((lo, mid - 1), (mid, hi))
      else none
    else none

/-- The byte-range sequences of the code points from `lo` to `hi`; `fuel`
bounds the depth of splitting, which never passes a dozen levels. -/
def byteSequencesWith : Nat → Nat → Nat → List (List (Nat × Nat))
  | 0, _, _ => []
  | fuel + 1, lo, hi =>
    if lo < 0xE000 && hi > 0xD7FF then
      byteSequencesWith fuel lo 0xD7FF ++ byteSequencesWith fuel 0xE000 hi
    else if hi < lo then []
    else
      match [1, 2, 3].find? fun i => lo ≤ lastOfLength i && lastOfLength i < hi with
      | some i => byteSequencesWith fuel lo (lastOfLength i) ++ byteSequencesWith fuel (lastOfLength i + 1) hi
      | none =>
        if hi ≤ 0x7F then [[(lo, hi)]]
        else
          match blockSplit? lo hi with
          | some ((a, b), (c, d)) => byteSequencesWith fuel a b ++ byteSequencesWith fuel c d
          | none => [(utf8Bytes lo).zip (utf8Bytes hi)]

/-- The byte-range sequences of the code points from `lo` to `hi`. -/
def byteSequences (lo hi : Nat) : List (List (Nat × Nat)) := byteSequencesWith 32 lo hi

example : byteSequences 0 0x10FFFF =
    [[(0x00, 0x7F)], [(0xC2, 0xDF), (0x80, 0xBF)], [(0xE0, 0xE0), (0xA0, 0xBF), (0x80, 0xBF)],
     [(0xE1, 0xEC), (0x80, 0xBF), (0x80, 0xBF)], [(0xED, 0xED), (0x80, 0x9F), (0x80, 0xBF)],
     [(0xEE, 0xEF), (0x80, 0xBF), (0x80, 0xBF)],
     [(0xF0, 0xF0), (0x90, 0xBF), (0x80, 0xBF), (0x80, 0xBF)],
     [(0xF1, 0xF3), (0x80, 0xBF), (0x80, 0xBF), (0x80, 0xBF)],
     [(0xF4, 0xF4), (0x80, 0x8F), (0x80, 0xBF), (0x80, 0xBF)]] := by decide

end RestDispatch.Regex
