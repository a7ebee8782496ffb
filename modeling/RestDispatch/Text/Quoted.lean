import RestDispatch.Unicode.Category
import RestDispatch.Unicode.Property

/-!
# Quoted texts for diagnostics

Diagnostic renderings quote a text between double quotes. Inside, the quote,
the backslash, the tab, the line breaks and NUL take a backslash escape;
marks that extend a grapheme cluster and characters that do not print (by their
general category: controls, format characters, surrogates, private use,
unassigned code points, and separators other than the space) are written
`\u{hex}` with lower-case digits; every other character stands as it is.
-/

namespace RestDispatch.Text

set_option autoImplicit false

/-- Lower-case hexadecimal digits of a number, without leading zeros. -/
def hexText (n : Nat) : String :=
  String.ofList (Nat.toDigits 16 n)

/-- Characters written by their code: the extending marks of grapheme
clusters, and the characters that do not print, which are the controls, format
characters, surrogates, private use, unassigned code points and separators
other than the space. -/
def isUnprintable (c : Char) : Bool :=
  let n := c.toNat
  Unicode.graphemeExtendSet.contains n ||
    (n != 0x20 && [Unicode.Category.cc, .cf, .cs, .co, .cn, .zl, .zp, .zs].contains (Unicode.categoryOf n))

/-- One character inside a quoted text. -/
def quoteChar (c : Char) : String :=
  match c with
  | '"' => "\\\""
  | '\\' => "\\\\"
  | '\t' => "\\t"
  | '\r' => "\\r"
  | '\n' => "\\n"
  | _ =>
    if c.toNat = 0 then "\\0"
    else if isUnprintable c then "\\u\x7b" ++ hexText c.toNat ++ "\x7d"
    else c.toString

/-- A text between double quotes, escaped. -/
def debugQuote (s : String) : String :=
  "\"" ++ String.join (s.toList.map quoteChar) ++ "\""


end RestDispatch.Text
