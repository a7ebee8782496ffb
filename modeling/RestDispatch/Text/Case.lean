import RestDispatch.Unicode.Casing

/-!
# Unicode case mapping and case folding

`lowerChars` is the full lowercase mapping of one character, and two texts are
`sameLower` when their characters, each lowered on its own, agree. `lowerText`
lowers a whole text, where a capital sigma that ends a word becomes a final
sigma; `upperText` raises a whole text.
-/

namespace RestDispatch.Text

set_option autoImplicit false

/-- The full lowercase mapping of one character. -/
def lowerChars (c : Char) : List Char :=
  Unicode.lowerOf c

/-- The full lowercase form of a text, character by character. -/
def lowerFull (s : String) : List Char :=
  s.toList.flatMap lowerChars

/-- Two texts agree once each character is put in full lowercase on its own. -/
def sameLower (a b : String) : Bool :=
  lowerFull a == lowerFull b

/-- A text in lowercase, with a final sigma at the end of a word. -/
def lowerText (s : String) : String :=
  Unicode.toLower s

/-- A text in uppercase. -/
def upperText (s : String) : String :=
  Unicode.toUpper s

/-- ASCII letters change case and every other character stays. -/
def asciiLowerChar (c : Char) : Char :=
  if 'A' ≤ c ∧ c ≤ 'Z' then Char.ofNat (c.toNat + 32) else c

/-- ASCII letters change case and every other character stays. -/
def asciiUpperChar (c : Char) : Char :=
  if 'a' ≤ c ∧ c ≤ 'z' then Char.ofNat (c.toNat - 32) else c

/-- A text with its ASCII letters in lower case. -/
def asciiLower (s : String) : String :=
  String.ofList (s.toList.map asciiLowerChar)

/-- A text with its ASCII letters in upper case. -/
def asciiUpper (s : String) : String :=
  String.ofList (s.toList.map asciiUpperChar)

/-- Equality of texts up to the case of ASCII letters. -/
def eqIgnoreAsciiCase (a b : String) : Bool :=
  a.toList.map asciiLowerChar == b.toList.map asciiLowerChar

end RestDispatch.Text
