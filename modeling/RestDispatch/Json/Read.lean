import RestDispatch.Json.Value
import RestDispatch.Decimal.Scaled

/-!
# Reading JSON

A strict JSON reader. Blanks are spaces, tabs and line breaks. Numbers have no
leading zeros, no lone point and no bare exponent; a whole number stays an
integer when it fits 64 bits (signed when negative, and not a negative zero),
and every other number is a double read by scaling (`Decimal.scaledBits`),
which must be finite. Strings admit no raw control
character, only the escapes `\" \\ \/ \b \f \n \r \t \uXXXX`, and a `\u`
escape of a surrogate must pair a high one with a low one. Objects keep their
entries as written, repeated keys included. Values nest at most 127 deep, and
nothing but blanks may follow the value.
-/

namespace RestDispatch.Json

set_option autoImplicit false

/-- JSON blanks. -/
def isJsonBlank (c : Char) : Bool :=
  c == ' ' || c == '\t' || c == '\n' || c == '\r'

/-- Skip blanks. -/
def skipBlanks (cs : List Char) : List Char :=
  cs.dropWhile isJsonBlank

/-- The largest unsigned 64-bit value. -/
def wordMax : Nat := Nat.pow 2 64 - 1

/-- The largest signed 32-bit value. -/
def halfWordMax : Nat := Nat.pow 2 31 - 1

/-- Appending the digit `d` to `m` passes `limit`. -/
def passes (limit m d : Nat) : Bool :=
  m ≥ limit / 10 && (m > limit / 10 || d > limit % 10)

/-- Take digits into the significand `m` while it stays a 64-bit value: the
significand and how many digits went into it. -/
def takeDigits (m : Nat) : List Char → Nat × Nat
  | [] => (m, 0)
  | d :: ds =>
    let v := d.toNat - 48
    if passes wordMax m v then (m, 0)
    else
      let (m', n) := takeDigits (m * 10 + v) ds
      (m', n + 1)

/-- The value of exponent digits, none when it passes the signed 32-bit range. -/
def exponentValue? (ds : List Char) : Option Nat :=
  ds.foldl (fun acc d => acc.bind fun e =>
    let v := d.toNat - 48
    if passes halfWordMax e v then none else some (e * 10 + v)) (some 0)

/-- Clamp to the signed 32-bit range. -/
def clampHalfWord (x : Int) : Int :=
  max (-(halfWordMax : Int) - 1) (min halfWordMax x)

/-- A double as a JSON number. -/
def floatValue (bits : UInt64) : Value := .number (.float bits)

/-- Read the exponent part after a significand `m` whose digits set the
exponent `start`, and scale. An exponent too large for 32 bits gives zero,
unless it is positive and `m` is not zero, which has no reading. -/
def readExponent (negative : Bool) (m : Nat) (start : Int) (cs : List Char) :
    Option (Value × List Char) :=
  match cs with
  | c :: rest =>
    if c == 'e' || c == 'E' then
      let (up, rest) := match rest with
        | '+' :: r => (true, r)
        | '-' :: r => (false, r)
        | r => (true, r)
      let ds := rest.takeWhile Char.isDigit
      let after := rest.drop ds.length
      if ds.isEmpty then none
      else
        match exponentValue? ds with
        | none => if m != 0 && up then none else some (floatValue (Decimal.zeroBits negative), after)
        | some x =>
          let e := clampHalfWord (if up then start + x else start - x)
          (Decimal.scaledBits negative m e).map fun bits => (floatValue bits, after)
    else (Decimal.scaledBits negative m start).map fun bits => (floatValue bits, cs)
  | [] => (Decimal.scaledBits negative m start).map fun bits => (floatValue bits, [])

/-- Read a number: its value and the rest. A whole number within 64 bits is an
integer, except a negative zero; every other number is read by scaling, its
significand cut where it would pass 64 bits. -/
def readNumber (cs : List Char) : Option (Value × List Char) :=
  let (negative, cs) := match cs with
    | '-' :: rest => (true, rest)
    | _ => (false, cs)
  let whole := cs.takeWhile Char.isDigit
  let cs := cs.drop whole.length
  match whole with
  | [] => none
  | '0' :: _ :: _ => none
  | _ =>
    let (m, used) := takeDigits 0 whole
    let skipped : Int := whole.length - used
    match cs with
    | '.' :: rest =>
      let frac := rest.takeWhile Char.isDigit
      if frac.isEmpty then none
      else
        let (m', used') := takeDigits m frac
        readExponent negative m' (skipped - used') (rest.drop frac.length)
    | c :: _ =>
      if c == 'e' || c == 'E' || used < whole.length then readExponent negative m skipped cs
      else some (wholeValue negative m, cs)
    | [] =>
      if used < whole.length then readExponent negative m skipped cs
      else some (wholeValue negative m, cs)
where
  /-- A whole number that fits 64 bits. -/
  wholeValue (negative : Bool) (m : Nat) : Value :=
    if !negative then .number (.int m)
    else if m = 0 then floatValue (Decimal.zeroBits true)
    else if m ≤ Nat.pow 2 63 then .number (.int (-(m : Int)))
    else floatValue (Decimal.withSign true (Decimal.natBits m))

/-- The value of a hexadecimal digit. -/
def hexValue? (x : Char) : Option Nat :=
  if '0' ≤ x ∧ x ≤ '9' then some (x.toNat - 48)
  else if 'a' ≤ x ∧ x ≤ 'f' then some (x.toNat - 87)
  else if 'A' ≤ x ∧ x ≤ 'F' then some (x.toNat - 55)
  else none

/-- The value of four hexadecimal digits. -/
def hex4Value? (a b c d : Char) : Option Nat := do
  pure ((((← hexValue? a) * 16 + (← hexValue? b)) * 16 + (← hexValue? c)) * 16 + (← hexValue? d))

/-- The character of a two-character escape. -/
def shortEscape? (c : Char) : Option Char :=
  match c with
  | '"' => some '"'
  | '\\' => some '\\'
  | '/' => some '/'
  | 'b' => some (Char.ofNat 8)
  | 'f' => some (Char.ofNat 12)
  | 'n' => some '\n'
  | 'r' => some '\r'
  | 't' => some '\t'
  | _ => none

/-- Read the characters of a string after its opening quote, up to and past
the closing one; `acc` holds the characters so far, last first. -/
def readStringChars : List Char → List Char → Option (String × List Char)
  | [], _ => none
  | '"' :: rest, acc => some (String.ofList acc.reverse, rest)
  | '\\' :: 'u' :: a :: b :: c :: d :: rest, acc =>
    match hex4Value? a b c d with
    | none => none
    | some n =>
      if 0xDC00 ≤ n ∧ n ≤ 0xDFFF then none
      else if 0xD800 ≤ n ∧ n ≤ 0xDBFF then
        match rest with
        | '\\' :: 'u' :: e :: f :: g :: h :: rest' =>
          match hex4Value? e f g h with
          | some low =>
            if 0xDC00 ≤ low ∧ low ≤ 0xDFFF then
              readStringChars rest' (Char.ofNat (0x10000 + (n - 0xD800) * 0x400 + (low - 0xDC00)) :: acc)
            else none
          | none => none
        | _ => none
      else readStringChars rest (Char.ofNat n :: acc)
  | '\\' :: e :: rest, acc =>
    match shortEscape? e with
    | some c => readStringChars rest (c :: acc)
    | none => none
  | c :: rest, acc => if c.toNat < 0x20 || c == '\\' then none else readStringChars rest (c :: acc)

mutual

/-- Read a value after blanks; `depth` counts the arrays and objects open. -/
def readValue : Nat → Nat → List Char → Option (Value × List Char)
  | 0, _, _ => none
  | fuel + 1, depth, cs =>
    match skipBlanks cs with
    | 'n' :: 'u' :: 'l' :: 'l' :: rest => some (.null, rest)
    | 't' :: 'r' :: 'u' :: 'e' :: rest => some (.bool true, rest)
    | 'f' :: 'a' :: 'l' :: 's' :: 'e' :: rest => some (.bool false, rest)
    | '"' :: rest => (readStringChars rest []).map fun (s, r) => (.string s, r)
    | '[' :: rest =>
      if depth ≥ 127 then none
      else
        match skipBlanks rest with
        | ']' :: r => some (.array [], r)
        | _ => (readItems fuel (depth + 1) rest []).map fun (items, r) => (.array items, r)
    | '{' :: rest =>
      if depth ≥ 127 then none
      else
        match skipBlanks rest with
        | '}' :: r => some (.object [], r)
        | _ => (readEntries fuel (depth + 1) rest []).map fun (entries, r) => (.object entries, r)
    | cs' => readNumber cs'

/-- Read array items up to the closing bracket; `acc` holds the items so far,
last first. -/
def readItems : Nat → Nat → List Char → List Value → Option (List Value × List Char)
  | 0, _, _, _ => none
  | fuel + 1, depth, cs, acc =>
    match readValue fuel depth cs with
    | none => none
    | some (v, rest) =>
      match skipBlanks rest with
      | ',' :: r => readItems fuel depth r (v :: acc)
      | ']' :: r => some ((v :: acc).reverse, r)
      | _ => none

/-- Read object entries up to the closing brace. -/
def readEntries : Nat → Nat → List Char → List (String × Value) →
    Option (List (String × Value) × List Char)
  | 0, _, _, _ => none
  | fuel + 1, depth, cs, acc =>
    match skipBlanks cs with
    | '"' :: rest =>
      match readStringChars rest [] with
      | none => none
      | some (key, rest) =>
        match skipBlanks rest with
        | ':' :: rest =>
          match readValue fuel depth rest with
          | none => none
          | some (v, rest) =>
            match skipBlanks rest with
            | ',' :: r => readEntries fuel depth r ((key, v) :: acc)
            | '}' :: r => some (((key, v) :: acc).reverse, r)
            | _ => none
        | _ => none
    | _ => none

end

/-- Read a whole JSON text. -/
def Value.read? (text : String) : Option Value :=
  let cs := text.toList
  match readValue (cs.length + 1) 0 cs with
  | some (v, rest) => if (skipBlanks rest).isEmpty then some v else none
  | none => none

example : (Value.read? "[1, -2, 2.5e1, \"a\\u00e9\"]").map Value.compact = some "[1,-2,25.0,\"aé\"]" := by
  decide +kernel

end RestDispatch.Json
