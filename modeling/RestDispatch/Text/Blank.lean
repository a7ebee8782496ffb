/-!
# Blank characters

The Unicode White_Space property: the characters that trimming removes from
both ends of a text and that the pattern class `\s` accepts. It holds more than
the four ASCII blanks, for instance the no-break space and the ideographic space.
-/

namespace RestDispatch.Text

set_option autoImplicit false

/-- The code points with the White_Space property. -/
def blankCodes : List Nat :=
  [0x9, 0xA, 0xB, 0xC, 0xD, 0x20, 0x85, 0xA0, 0x1680,
   0x2000, 0x2001, 0x2002, 0x2003, 0x2004, 0x2005, 0x2006, 0x2007, 0x2008, 0x2009, 0x200A,
   0x2028, 0x2029, 0x202F, 0x205F, 0x3000]

/-- A character with the White_Space property. -/
def isBlank (c : Char) : Bool :=
  blankCodes.contains c.toNat

/-- A text without the blank characters at either end. -/
def trimBlank (s : String) : String :=
  String.ofList ((s.toList.dropWhile isBlank).reverse.dropWhile isBlank).reverse

/-- Characters without the blank characters at their end. -/
def trimEndBlank (cs : List Char) : List Char :=
  (cs.reverse.dropWhile isBlank).reverse

/-- A text that holds only blank characters, or nothing. -/
def isBlankText (s : String) : Bool :=
  s.toList.all isBlank

example : trimBlank "　 a b " = "a b" := by decide

end RestDispatch.Text
