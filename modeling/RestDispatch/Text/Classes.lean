import RestDispatch.Unicode.Category
import RestDispatch.Unicode.Property

/-!
# Letters and numbers

The letters and numbers of the character database: a character is alphabetic
when it has the Alphabetic property, and alphanumeric when it is alphabetic or
of a numeric general category (`Nd`, `Nl`, `No`).
-/

namespace RestDispatch.Text

set_option autoImplicit false

/-- An alphabetic character. -/
def isAlphabetic (c : Char) : Bool :=
  Unicode.alphabeticSet.contains c.toNat

/-- A letter or number in the sense of the character database: alphabetic, or
of a numeric general category. -/
def isAlphanumeric (c : Char) : Bool :=
  isAlphabetic c || (Unicode.categoryOf c.toNat).isNumber

end RestDispatch.Text
