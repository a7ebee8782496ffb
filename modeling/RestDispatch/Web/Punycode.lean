/-!
# Punycode

The bootstring encoding of labels of international domain names: the ASCII
code points of a label are written as they are, then a `-` when there were
any, then the other code points as deltas in increasing order of value, each
a variable-length integer of base 36 whose digit thresholds follow an
adaptive bias.

Every quantity is held to 32 bits, as the decoder and encoder of domain names
hold it: a value that would leave them makes the label fail.

* `decode` reads the part of a label after its `xn--` prefix. The ASCII part
  is what comes before the last `-`; a `-` at the very start is not taken as
  the delimiter, so the whole text is then read as deltas and fails. Each
  delta names a code point, which must be a scalar value, and the place to
  insert it.
* `encode` writes a label.

Both take labels of at most `labelLimit` code points.
-/

namespace RestDispatch.Web.Punycode

set_option autoImplicit false

/-- The bound that every quantity stays below. -/
def wordLimit : Nat := Nat.pow 2 32

/-- The most code points a label may have to be encoded or decoded. -/
def labelLimit : Nat := 1000

/-- The value of a digit: `a`-`z` (or `A`-`Z`) are 0 to 25, `0`-`9` are 26 to 35. -/
def digit? (c : Nat) : Option Nat :=
  if 0x61 ≤ c ∧ c ≤ 0x7A then some (c - 0x61)
  else if 0x41 ≤ c ∧ c ≤ 0x5A then some (c - 0x41)
  else if 0x30 ≤ c ∧ c ≤ 0x39 then some (c - 0x30 + 26)
  else none

/-- The character of a digit value below 36. -/
def digitChar (d : Nat) : Char :=
  if d < 26 then Char.ofNat (0x61 + d) else Char.ofNat (0x30 + d - 26)

/-- The digit threshold at weight position `k`: between 1 and 26. -/
def threshold (k bias : Nat) : Nat :=
  if k ≤ bias then 1 else if k ≥ bias + 26 then 26 else k - bias

theorem threshold_pos (k bias : Nat) : 1 ≤ threshold k bias := by
  unfold threshold
  split
  · omega
  · split <;> omega

theorem threshold_le (k bias : Nat) : threshold k bias ≤ 26 := by
  unfold threshold
  split
  · omega
  · split <;> omega

/-- Divide a delta by 35 until it is at most 455, counting 36 per division. -/
def shrink (delta k : Nat) : Nat × Nat :=
  if 455 < delta then shrink (delta / 35) (k + 36) else (delta, k)
termination_by delta
decreasing_by exact Nat.div_lt_self (by omega) (by omega)

/-- The bias after a delta, with `numPoints` code points handled. -/
def adapt (delta numPoints : Nat) (first : Bool) : Nat :=
  let delta := if first then delta / 700 else delta / 2
  let delta := delta + delta / numPoints
  let r := shrink delta 0
  r.2 + (36 * r.1) / (r.1 + 38)

/-! ## Decoding -/

/-- Read one variable-length integer into `i`: the new `i` and the rest. -/
def readInteger (bias : Nat) : List Nat → Nat → Nat → Nat → Option (Nat × List Nat)
  | [], _, _, _ => none
  | c :: rest, k, w, i =>
    match digit? c with
    | none => none
    | some d =>
      let i := i + d * w
      let t := threshold k bias
      if i ≥ wordLimit then none
      else if d < t then some (i, rest)
      else if w * (36 - t) ≥ wordLimit then none
      else readInteger bias rest (k + 36) (w * (36 - t)) i

/-- Reading an integer consumes input. -/
theorem readInteger_length (bias : Nat) : ∀ (l : List Nat) (k w i : Nat) (r : Nat × List Nat),
    readInteger bias l k w i = some r → r.2.length < l.length
  | [], _, _, _, _, h => by simp [readInteger] at h
  | c :: rest, k, w, i, r, h => by
    rw [readInteger] at h
    split at h
    · simp at h
    · dsimp only at h
      split at h
      · simp at h
      · split at h
        · rw [← Option.some.inj h]; simp
        · split at h
          · simp at h
          · have := readInteger_length bias rest _ _ _ r h
            simp; omega

/-- A code point that names a character. -/
def isScalar (n : Nat) : Bool :=
  n ≤ 0x10FFFF && !(0xD800 ≤ n && n ≤ 0xDFFF)

/-- Read the deltas, inserting the code points they name into `out`; `n` is
the last code point and `i` the place after the last insertion. -/
def decodeDeltas (bias n i : Nat) (out : List Nat) : List Nat → Option (List Nat)
  | [] => some out
  | c :: rest =>
    match _read : readInteger bias (c :: rest) 36 1 i with
    | none => none
    | some (i', remaining) =>
      let len := out.length + 1
      let n' := n + i' / len
      let pos := i' % len
      if n' ≥ wordLimit || !isScalar n' then none
      else
        decodeDeltas (adapt (i' - i) len (i == 0)) n' (pos + 1)
          (out.take pos ++ [n'] ++ out.drop pos) remaining
termination_by l => l.length
decreasing_by
  have := readInteger_length bias (c :: rest) 36 1 i (i', remaining) _read
  simpa using this

/-- The ASCII part and the deltas of an encoded label: split at the last
`-`, unless that is its first character. -/
def splitEncoded (input : List Nat) : List Nat × List Nat :=
  let rev := input.reverse
  match rev.findIdx? (· == 0x2D) with
  | some j =>
    let pos := input.length - 1 - j
    if pos = 0 then ([], input) else (input.take pos, input.drop (pos + 1))
  | none => ([], input)

/-- Decode an encoded label, without its prefix; a label of more than
`labelLimit` code points fails. -/
def decode (input : List Nat) : Option (List Nat) := do
  let (basic, deltas) := splitEncoded input
  let label ← decodeDeltas 72 128 0 basic deltas
  if label.length ≤ labelLimit then some label else none

/-! ## Encoding -/

/-- Write a delta as a variable-length integer. -/
def encodeDigits (bias k q : Nat) : List Char :=
  let t := threshold k bias
  if q < t then [digitChar q]
  else digitChar (t + (q - t) % (36 - t)) :: encodeDigits bias (k + 36) ((q - t) / (36 - t))
termination_by q
decreasing_by
  have := threshold_pos k bias
  have := threshold_le k bias
  calc (q - threshold k bias) / (36 - threshold k bias)
      ≤ q - threshold k bias := Nat.div_le_self _ _
    _ < q := by omega

/-- The state of encoding: the digits written, the delta, the bias, and the
number of code points handled. -/
structure EncodeState where
  out : List Char
  delta : Nat
  bias : Nat
  handled : Nat

/-- Pass one code point of the label while handling the code point `m`. -/
def encodeStep (basic m : Nat) (st : Option EncodeState) (c : Nat) : Option EncodeState := do
  let st ← st
  if c < m then
    if st.delta + 1 ≥ wordLimit then none else pure { st with delta := st.delta + 1 }
  else if c = m then
    pure { out := st.out ++ encodeDigits st.bias 36 st.delta, delta := 0,
           bias := adapt st.delta (st.handled + 1) (st.handled == basic),
           handled := st.handled + 1 }
  else pure st

/-- Handle the code points of `points`, in increasing order; `n` is the
smallest not handled yet. -/
def encodeLoop (input : List Nat) (basic : Nat) : List Nat → Nat → EncodeState → Option EncodeState
  | [], _, st => some st
  | m :: rest, n, st => do
    let delta := st.delta + (m - n) * (st.handled + 1)
    if delta ≥ wordLimit then none
    else
      let st ← input.foldl (encodeStep basic m) (some { st with delta := delta })
      encodeLoop input basic rest (m + 1) { st with delta := st.delta + 1 }

/-- Insert into an increasing list without repeats. -/
def insertSorted (x : Nat) : List Nat → List Nat
  | [] => [x]
  | y :: ys => if x < y then x :: y :: ys else if x = y then y :: ys else y :: insertSorted x ys

/-- Encode a label (without a prefix); a label of more than `labelLimit`
code points fails. -/
def encode (input : List Nat) : Option (List Char) := do
  if labelLimit < input.length then none
  let basic := input.filter (· < 0x80)
  let points := (input.filter (0x80 ≤ ·)).foldr insertSorted []
  let st ← encodeLoop input basic.length points 128 ⟨[], 0, 72, basic.length⟩
  pure (basic.map Char.ofNat ++ (if basic.isEmpty then [] else ['-']) ++ st.out)

end RestDispatch.Web.Punycode
