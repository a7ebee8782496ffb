/-!
# Form-encoded text

A form-encoded text is a list of `name=value` pieces joined by `&`. Reading it
skips empty pieces, splits each piece at its first `=` (a piece without one has
an empty value), turns `+` into a space, decodes `%` followed by two
hexadecimal digits into that byte (any other `%` stays), and reads the bytes as
UTF-8, putting one replacement character for each maximal ill-formed part.
-/

namespace RestDispatch.Text

set_option autoImplicit false

/-- The value of a hexadecimal digit given as a byte. -/
def hexByteValue? (b : UInt8) : Option Nat :=
  let n := b.toNat
  if 0x30 ≤ n ∧ n ≤ 0x39 then some (n - 0x30)
  else if 0x61 ≤ n ∧ n ≤ 0x66 then some (n - 0x61 + 10)
  else if 0x41 ≤ n ∧ n ≤ 0x46 then some (n - 0x41 + 10)
  else none

/-- Decode `%` escapes of two hexadecimal digits; any other `%` stays. -/
def percentDecode : List UInt8 → List UInt8
  | [] => []
  | 0x25 :: h :: l :: rest =>
    match hexByteValue? h, hexByteValue? l with
    | some a, some b => UInt8.ofNat (a * 16 + b) :: percentDecode rest
    | _, _ => 0x25 :: percentDecode (h :: l :: rest)
  | b :: rest => b :: percentDecode rest

/-- A continuation byte of UTF-8. -/
def isContinuation (b : UInt8) : Bool :=
  0x80 ≤ b.toNat && b.toNat ≤ 0xBF

/-- Whether `b1` may follow the lead byte `b0` of a sequence of three or four bytes. -/
def secondByteFits (b0 b1 : UInt8) : Bool :=
  let n0 := b0.toNat
  let n1 := b1.toNat
  if n0 = 0xE0 then 0xA0 ≤ n1 && n1 ≤ 0xBF
  else if n0 = 0xED then 0x80 ≤ n1 && n1 ≤ 0x9F
  else if n0 = 0xF0 then 0x90 ≤ n1 && n1 ≤ 0xBF
  else if n0 = 0xF4 then 0x80 ≤ n1 && n1 ≤ 0x8F
  else isContinuation b1

/-- The number of bytes that a lead byte announces; zero for a byte that
cannot lead. -/
def sequenceWidth (b : UInt8) : Nat :=
  let n := b.toNat
  if n < 0x80 then 1
  else if 0xC2 ≤ n ∧ n ≤ 0xDF then 2
  else if 0xE0 ≤ n ∧ n ≤ 0xEF then 3
  else if 0xF0 ≤ n ∧ n ≤ 0xF4 then 4
  else 0

/-- The replacement character. -/
def replacement : Char := Char.ofNat 0xFFFD

/-- The code point of a well-formed sequence of two, three or four bytes. -/
def sequenceValue : List UInt8 → Nat
  | [b0, b1] => (b0.toNat % 0x20) * 0x40 + b1.toNat % 0x40
  | [b0, b1, b2] => (b0.toNat % 0x10) * 0x1000 + (b1.toNat % 0x40) * 0x40 + b2.toNat % 0x40
  | [b0, b1, b2, b3] =>
    (b0.toNat % 0x08) * 0x40000 + (b1.toNat % 0x40) * 0x1000 + (b2.toNat % 0x40) * 0x40 +
      b3.toNat % 0x40
  | _ => 0xFFFD

/-- How many bytes from the start of `rest` continue a sequence led by `b0`
that announces `width` bytes: the count of bytes that fit, stopping at the
first that does not. -/
def fittingContinuations (b0 : UInt8) (width : Nat) (rest : List UInt8) : Nat :=
  match rest with
  | b1 :: more =>
    if width ≥ 2 && (if width = 2 then isContinuation b1 else secondByteFits b0 b1) then
      1 + ((more.take (width - 2)).takeWhile isContinuation).length
    else 0
  | [] => 0

/-- Read bytes as UTF-8, one replacement character standing for each maximal
ill-formed part: a lead byte with the continuation bytes that fit it, or a
byte that cannot lead. -/
def decodeUtf8Lossy (bytes : List UInt8) : List Char :=
  match bytes with
  | [] => []
  | b0 :: rest =>
    let width := sequenceWidth b0
    if width = 1 then Char.ofNat b0.toNat :: decodeUtf8Lossy rest
    else
      let k := fittingContinuations b0 width rest
      if width ≥ 2 ∧ k + 1 = width then
        Char.ofNat (sequenceValue (b0 :: rest.take k)) :: decodeUtf8Lossy (rest.drop k)
      else replacement :: decodeUtf8Lossy (rest.drop k)
termination_by bytes.length
decreasing_by all_goals simp only [List.length_cons, List.length_drop]; omega

/-- The bytes of a text in UTF-8. -/
def utf8Bytes (s : String) : List UInt8 :=
  s.toUTF8.toList

/-- Decode one name or value of a form: `+` is a space, then `%` escapes, then UTF-8. -/
def formDecode (bytes : List UInt8) : String :=
  String.ofList (decodeUtf8Lossy (percentDecode (bytes.map fun b => if b = 0x2B then 0x20 else b)))

/-- The pieces of a byte list between its `sep` bytes. -/
def splitBytes (sep : UInt8) (bytes : List UInt8) : List (List UInt8) :=
  bytes.splitOn sep

/-- The name and value pairs of a form-encoded text, in order. -/
def formPairs (text : String) : List (String × String) :=
  (splitBytes 0x26 (utf8Bytes text)).filterMap fun piece =>
    if piece.isEmpty then none
    else
      let name := piece.takeWhile (· != 0x3D)
      let value := (piece.dropWhile (· != 0x3D)).drop 1
      some (formDecode name, formDecode value)

end RestDispatch.Text
