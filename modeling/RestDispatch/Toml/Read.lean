import RestDispatch.Toml.Value
import RestDispatch.Decimal.Nearest

/-!
# Reading TOML

The reader of TOML 1.0 text, on lists of characters. Each reader takes the text
from where it stands and gives back what it read with the rest of the text.

Blanks are spaces and tabs; a line ends with a line feed, a carriage return and
line feed, or the end of the text. A comment runs from `#` to the end of the
line and holds no control character but the tab.

Strings come in four forms. Basic strings take escapes (`\b \t \n \f \r \" \\`,
`\uXXXX`, `\UXXXXXXXX` naming a Unicode scalar value); literal strings take the
text as written. The multi-line forms drop a line break right after the opening
delimiter, keep line breaks as line feeds, admit runs of one or two delimiters
inside and up to two more before the closing three, and in the basic form a
backslash at the end of a line drops the break and the blanks after it.

A number or date is read as the first of these that fits: a date-time, a float,
an integer. A date-time is a date, a date with a time and an optional offset, or
a time; its fields must be in range and the day must exist in its month. A float
has a fraction or an exponent, or is `inf` or `nan` with an optional sign; it is
the nearest double, and one too large to be finite is refused unless negative.
Integers fit 64 bits; the decimal form has no leading zero, the forms `0x`, `0o`
and `0b` have no sign, and an underscore stands only between two digits.

Arrays span lines and may end with a comma; inline tables stay on one line and
may not. A statement is a table header, an array-of-tables header, or a key with
its value; a key is a dotted path of bare or quoted parts.
-/

namespace RestDispatch.Toml

set_option autoImplicit false

/-- Blanks within a line: space and tab. -/
def isBlank (c : Char) : Bool := c == ' ' || c == '\t'

/-- Skip blanks. -/
def skipBlanks (cs : List Char) : List Char := cs.dropWhile isBlank

/-- A character allowed in a comment: the tab, or any but a control character. -/
def isCommentChar (c : Char) : Bool :=
  c == '\t' || (c.toNat ≥ 0x20 && c.toNat != 0x7F)

/-- The rest of a line after its comment sign. -/
def skipComment (cs : List Char) : List Char := cs.dropWhile isCommentChar

/-- A line ending: a line feed, a carriage return and a line feed, or the end. -/
def lineEnd? : List Char → Option (List Char)
  | [] => some []
  | '\n' :: rest => some rest
  | '\r' :: '\n' :: rest => some rest
  | _ => none

/-- The end of a line after a value or header: blanks, a comment, a line ending. -/
def lineTrail? (cs : List Char) : Option (List Char) :=
  match skipBlanks cs with
  | '#' :: rest => lineEnd? (skipComment rest)
  | rest => lineEnd? rest

mutual

/-- Skip blanks, line breaks and comments, as between the items of an array. -/
def skipGaps : List Char → List Char
  | [] => []
  | c :: rest =>
    if isBlank c || c == '\n' then skipGaps rest
    else if c == '\r' then
      match rest with
      | '\n' :: r => skipGaps r
      | _ => c :: rest
    else if c == '#' then skipCommentGaps rest
    else c :: rest

/-- Skip the rest of a comment, then go on skipping gaps. -/
def skipCommentGaps : List Char → List Char
  | [] => []
  | c :: rest =>
    if isCommentChar c then skipCommentGaps rest
    else if c == '\n' then skipGaps rest
    else if c == '\r' then
      match rest with
      | '\n' :: r => skipGaps r
      | _ => c :: rest
    else c :: rest

end

/-! ## Strings -/

/-- The form of a string: its delimiter, whether it spans lines, whether it
takes escapes. -/
structure StringForm where
  delim : Char
  multiline : Bool
  escapes : Bool

/-- A character that stands for itself in a string of the form. -/
def StringForm.isPlain (form : StringForm) (c : Char) : Bool :=
  c == '\t' || (c.toNat ≥ 0x20 && c.toNat != 0x7F && c != form.delim &&
    !(form.escapes && c == '\\'))

/-- Where a string reader stands. -/
inductive Scan where
  | plain
  /-- After a backslash. -/
  | escape
  /-- Inside a `\u` or `\U` escape, `left` digits to go. -/
  | hex (left value : Nat)
  /-- After a backslash and blanks, before the line break. -/
  | escapedLine
  /-- After a backslash, blanks and a carriage return. -/
  | escapedReturn
  /-- After an escaped line break: blanks and line breaks are dropped. -/
  | trimming
  /-- A carriage return while trimming. -/
  | trimmingReturn
  /-- A carriage return in the text. -/
  | carriageReturn
  /-- A run of `n` delimiters in a multi-line string. -/
  | quotes (n : Nat)

/-- What one character does to a string reader. -/
inductive Step where
  /-- Go on in state `s`, appending `out`. -/
  | next (s : Scan) (out : List Char)
  | fail
  /-- The string ends after appending `out`; `back` goes back before the rest. -/
  | stop (out : List Char) (back : List Char)

/-- The value of a hexadecimal digit. -/
def hexValue? (c : Char) : Option Nat :=
  if '0' ≤ c ∧ c ≤ '9' then some (c.toNat - 48)
  else if 'a' ≤ c ∧ c ≤ 'f' then some (c.toNat - 87)
  else if 'A' ≤ c ∧ c ≤ 'F' then some (c.toNat - 55)
  else none

/-- The character of a code, when it is a Unicode scalar value. -/
def scalar? (n : Nat) : Option Char :=
  if n < 0xD800 ∨ (0xDFFF < n ∧ n ≤ 0x10FFFF) then some (Char.ofNat n) else none

/-- The character of a one-letter escape. -/
def shortEscape? : Char → Option Char
  | 'b' => some (Char.ofNat 8)
  | 't' => some '\t'
  | 'n' => some '\n'
  | 'f' => some (Char.ofNat 12)
  | 'r' => some '\r'
  | '"' => some '"'
  | '\\' => some '\\'
  | _ => none

/-- What a character does in the plain state. -/
def plainStep (form : StringForm) (c : Char) : Step :=
  if c == form.delim then
    if form.multiline then .next (.quotes 1) [] else .stop [] []
  else if form.escapes && c == '\\' then .next .escape []
  else if form.multiline && c == '\n' then .next .plain ['\n']
  else if form.multiline && c == '\r' then .next .carriageReturn []
  else if form.isPlain c then .next .plain [c]
  else .fail

/-- Put characters in front of what a step appends. -/
def Step.prepend (pre : List Char) : Step → Step
  | .next s out => .next s (pre ++ out)
  | .stop out back => .stop (pre ++ out) back
  | .fail => .fail

/-- The end of a multi-line string at a run of `n ≥ 3` delimiters: up to two of
them belong to the text, any further ones go back. -/
def closeRun (form : StringForm) (n : Nat) (back : List Char) : Step :=
  let extra := min (n - 3) 2
  .stop (List.replicate extra form.delim) (List.replicate (n - 3 - extra) form.delim ++ back)

/-- What a character does in a state. -/
def step (form : StringForm) : Scan → Char → Step
  | .plain, c => plainStep form c
  | .carriageReturn, c => if c == '\n' then .next .plain ['\n'] else .fail
  | .escape, c =>
    match shortEscape? c with
    | some e => .next .plain [e]
    | none =>
      if c == 'u' then .next (.hex 4 0) []
      else if c == 'U' then .next (.hex 8 0) []
      else if form.multiline && isBlank c then .next .escapedLine []
      else if form.multiline && c == '\n' then .next .trimming []
      else if form.multiline && c == '\r' then .next .escapedReturn []
      else .fail
  | .hex left value, c =>
    match hexValue? c with
    | none => .fail
    | some d =>
      let v := value * 16 + d
      if left ≤ 1 then
        match scalar? v with
        | some ch => .next .plain [ch]
        | none => .fail
      else .next (.hex (left - 1) v) []
  | .escapedLine, c =>
    if isBlank c then .next .escapedLine []
    else if c == '\n' then .next .trimming []
    else if c == '\r' then .next .escapedReturn []
    else .fail
  | .escapedReturn, c => if c == '\n' then .next .trimming [] else .fail
  | .trimming, c =>
    if isBlank c || c == '\n' then .next .trimming []
    else if c == '\r' then .next .trimmingReturn []
    else plainStep form c
  | .trimmingReturn, c => if c == '\n' then .next .trimming [] else .fail
  | .quotes n, c =>
    if c == form.delim then .next (.quotes (n + 1)) []
    else if n ≥ 3 then closeRun form n [c]
    else (plainStep form c).prepend (List.replicate n form.delim)

/-- Run a string reader over the text; `acc` holds the characters so far, last first. -/
def scanString (form : StringForm) : Scan → List Char → List Char → Option (String × List Char)
  | .quotes n, [], acc =>
    if n ≥ 3 then
      match closeRun form n [] with
      | .stop out back => some (String.ofList (out.reverse ++ acc).reverse, back)
      | _ => none
    else none
  | _, [], _ => none
  | s, c :: rest, acc =>
    match step form s c with
    | .next s' out => scanString form s' rest (out.reverse ++ acc)
    | .fail => none
    | .stop out back => some (String.ofList (out.reverse ++ acc).reverse, back ++ rest)

/-- Drop one line break. -/
def dropLineBreak : List Char → List Char
  | '\n' :: rest => rest
  | '\r' :: '\n' :: rest => rest
  | cs => cs

/-- Read a string of any form, from its opening delimiter. -/
def readString : List Char → Option (String × List Char)
  | '"' :: '"' :: '"' :: rest =>
    scanString ⟨'"', true, true⟩ .plain (dropLineBreak rest) []
  | '"' :: rest => scanString ⟨'"', false, true⟩ .plain rest []
  | '\'' :: '\'' :: '\'' :: rest =>
    scanString ⟨'\'', true, false⟩ .plain (dropLineBreak rest) []
  | '\'' :: rest => scanString ⟨'\'', false, false⟩ .plain rest []
  | _ => none

/-! ## Keys -/

/-- A character of a bare key. -/
def isBareKeyChar (c : Char) : Bool :=
  c.isAlphanum || c == '_' || c == '-'

/-- Read one part of a key: bare, or a single-line quoted string. -/
def readSimpleKey : List Char → Option (String × List Char)
  | '"' :: rest => scanString ⟨'"', false, true⟩ .plain rest []
  | '\'' :: rest => scanString ⟨'\'', false, false⟩ .plain rest []
  | cs =>
    let bare := cs.takeWhile isBareKeyChar
    if bare.isEmpty then none else some (String.ofList bare, cs.drop bare.length)

/-- Read a dotted key with the blanks around its parts; `fuel` bounds the parts. -/
def readKeyParts : Nat → List Char → Option (List String × List Char)
  | 0, _ => none
  | fuel + 1, cs => do
    let (k, rest) ← readSimpleKey (skipBlanks cs)
    match skipBlanks rest with
    | '.' :: more =>
      let (ks, rest') ← readKeyParts fuel more
      pure (k :: ks, rest')
    | rest' => pure ([k], rest')

/-- Read a dotted key. -/
def readKey (cs : List Char) : Option (List String × List Char) :=
  readKeyParts (cs.length + 1) cs

/-! ## Numbers and dates -/

/-- The outcome of a reader that may decline: a value, no match (another
reading may fit), or a failure after the reading committed. -/
inductive Parse (α : Type) where
  | ok (a : α) (rest : List Char)
  | miss
  | fail

/-- Exactly `n` decimal digits and their value. -/
def fixedDigits (n : Nat) (cs : List Char) : Option (Nat × List Char) :=
  let ds := cs.take n
  if ds.length = n ∧ ds.all Char.isDigit then
    some (ds.foldl (fun acc d => acc * 10 + (d.toNat - 48)) 0, cs.drop n)
  else none

/-- The number of days of a month. -/
def daysInMonth (year month : Nat) : Nat :=
  let leap := year % 4 = 0 ∧ (year % 100 ≠ 0 ∨ year % 400 = 0)
  if month = 2 then (if leap then 29 else 28)
  else if month = 4 ∨ month = 6 ∨ month = 9 ∨ month = 11 then 30
  else 31

/-- A full date `YYYY-MM-DD`: no match without the year and its hyphen. -/
def readDate (cs : List Char) : Parse Date :=
  match fixedDigits 4 cs with
  | some (year, '-' :: rest) =>
    match fixedDigits 2 rest with
    | some (month, '-' :: rest) =>
      if month < 1 ∨ month > 12 then .fail
      else
        match fixedDigits 2 rest with
        | some (day, rest) =>
          if day < 1 ∨ day > daysInMonth year month then .fail else .ok ⟨year, month, day⟩ rest
        | none => .fail
    | _ => .fail
  | _ => .miss

/-- The fraction of a second in nanoseconds, from its digits: the first nine count. -/
def nanosOf (ds : List Char) : Nat :=
  let kept := ds.take 9
  (kept.foldl (fun acc d => acc * 10 + (d.toNat - 48)) 0) * Nat.pow 10 (9 - kept.length)

/-- A time `HH:MM:SS` with an optional fraction: no match without the hour
and its colon. -/
def readTime (cs : List Char) : Parse Time :=
  match fixedDigits 2 cs with
  | some (hour, ':' :: rest) =>
    if hour > 23 then .miss
    else
      match fixedDigits 2 rest with
      | some (minute, ':' :: rest) =>
        if minute > 59 then .fail
        else
          match fixedDigits 2 rest with
          | some (second, rest) =>
            if second > 60 then .fail
            else
              match rest with
              | '.' :: more =>
                let ds := more.takeWhile Char.isDigit
                if ds.isEmpty then .ok ⟨hour, minute, second, 0⟩ rest
                else .ok ⟨hour, minute, second, nanosOf ds⟩ (more.drop ds.length)
              | _ => .ok ⟨hour, minute, second, 0⟩ rest
          | none => .fail
      | _ => .fail
  | _ => .miss

/-- An optional offset after a time. -/
def readOffset (cs : List Char) : Parse (Option Offset) :=
  match cs with
  | 'Z' :: rest => .ok (some .utc) rest
  | 'z' :: rest => .ok (some .utc) rest
  | c :: rest =>
    if c == '+' || c == '-' then
      match fixedDigits 2 rest with
      | some (h, ':' :: more) =>
        match fixedDigits 2 more with
        | some (m, more) =>
          if h > 23 ∨ m > 59 then .fail
          else
            let total : Int := h * 60 + m
            .ok (some (.minutes (if c == '-' then -total else total))) more
        | none => .fail
      | _ => .fail
    else .ok none cs
  | [] => .ok none []

/-- A date-time, a date, or a time. -/
def readDatetime (cs : List Char) : Parse Datetime :=
  match readDate cs with
  | .fail => .fail
  | .ok date rest =>
    match rest with
    | d :: more =>
      if d == 'T' || d == 't' || d == ' ' then
        match readTime more with
        | .ok time rest' =>
          match readOffset rest' with
          | .ok offset rest'' => .ok ⟨some date, some time, offset⟩ rest''
          | _ => .fail
        | .miss => .ok ⟨some date, none, none⟩ rest
        | .fail => .fail
      else .ok ⟨some date, none, none⟩ rest
    | [] => .ok ⟨some date, none, none⟩ rest
  | .miss =>
    match readTime cs with
    | .ok time rest => .ok ⟨none, some time, none⟩ rest
    | .miss => .miss
    | .fail => .fail

/-- Digits with single underscores between them, after a first digit already
taken: the digits and the rest, or a failure at an underscore not followed by a
digit. `isDigit` decides what a digit is. -/
def readDigitRun (isDigit : Char → Bool) : List Char → List Char → Parse (List Char)
  | '_' :: d :: rest, acc =>
    if isDigit d then readDigitRun isDigit rest (d :: acc) else .fail
  | ['_'], _ => .fail
  | d :: rest, acc =>
    if isDigit d then readDigitRun isDigit rest (d :: acc) else .ok acc.reverse (d :: rest)
  | [], acc => .ok acc.reverse []

/-- A sign. -/
def readSign : List Char → Option Bool × List Char
  | '+' :: rest => (some false, rest)
  | '-' :: rest => (some true, rest)
  | cs => (none, cs)

/-- A decimal integer part: an optional sign, then `0` or a digit run without a
leading zero. Gives whether it is negative and its digits. -/
def readDecimalPart (cs : List Char) : Parse (Bool × List Char) :=
  let (sign, rest) := readSign cs
  let negative := sign == some true
  match rest with
  | '0' :: more => .ok (negative, ['0']) more
  | d :: more =>
    if d.isDigit then
      match readDigitRun Char.isDigit more [d] with
      | .ok ds rest' => .ok (negative, ds) rest'
      | .miss => .miss
      | .fail => .fail
    else .miss
  | [] => .miss

/-- Digits that may start with zero, with single underscores between them. -/
def readZeroPrefixable (cs : List Char) : Parse (List Char) :=
  match cs with
  | d :: rest => if d.isDigit then readDigitRun Char.isDigit rest [d] else .fail
  | [] => .fail

/-- The value of decimal digits. -/
def decimalValue (ds : List Char) : Nat :=
  ds.foldl (fun acc d => acc * 10 + (d.toNat - 48)) 0

/-- An exponent part `e±digits`, after the letter. -/
def readExponent (cs : List Char) : Parse Int :=
  let (sign, rest) := readSign cs
  match readZeroPrefixable rest with
  | .ok ds rest' =>
    let v : Int := decimalValue ds
    .ok (if sign == some true then -v else v) rest'
  | _ => .fail

/-- The bits of a float read from its parts, none when positive and too large
to be finite. -/
def floatBits? (negative : Bool) (whole frac : List Char) (exp : Int) : Option UInt64 :=
  let bits := Decimal.nearestBits negative (decimalValue (whole ++ frac)) (exp - frac.length)
  if !negative && !Decimal.isFiniteBits bits then none else some bits

/-- The bits of an infinity. -/
def infinityBits (negative : Bool) : UInt64 := Decimal.infinityBits negative

/-- The bits of a quiet not-a-number with the sign. -/
def nanBits (negative : Bool) : UInt64 :=
  (if negative then 0x8000000000000000 else 0) ||| 0x7FF8000000000000

/-- `inf` or `nan` with an optional sign. -/
def readSpecialFloat (cs : List Char) : Parse UInt64 :=
  let (sign, rest) := readSign cs
  let negative := sign == some true
  match rest with
  | 'i' :: 'n' :: 'f' :: more => .ok (infinityBits negative) more
  | 'n' :: 'a' :: 'n' :: more => .ok (nanBits negative) more
  | _ => .miss

/-- A float: an integer part with a fraction, an exponent or both, or a special value. -/
def readFloat (cs : List Char) : Parse UInt64 :=
  match readDecimalPart cs with
  | .fail => .fail
  | .miss => readSpecialFloat cs
  | .ok (negative, whole) rest =>
    let finish (frac : List Char) (exp : Int) (rest : List Char) : Parse UInt64 :=
      match floatBits? negative whole frac exp with
      | some bits => .ok bits rest
      | none => .fail
    match rest with
    | c :: more =>
      if c == 'e' || c == 'E' then
        match readExponent more with
        | .ok e rest' => finish [] e rest'
        | _ => .fail
      else if c == '.' then
        match readZeroPrefixable more with
        | .ok frac rest' =>
          match rest' with
          | c' :: more' =>
            if c' == 'e' || c' == 'E' then
              match readExponent more' with
              | .ok e rest'' => finish frac e rest''
              | _ => .fail
            else finish frac 0 rest'
          | [] => finish frac 0 []
        | _ => .fail
      else .miss
    | [] => .miss

/-- The value of digits in a base. -/
def baseValue (base : Nat) (ds : List Char) : Nat :=
  ds.foldl (fun acc d => acc * base + (hexValue? d).getD 0) 0

/-- An integer within 64 bits, signed. -/
def fitsWord (i : Int) : Bool := -(Nat.pow 2 63 : Int) ≤ i && i < (Nat.pow 2 63 : Int)

/-- Digits of a base after its prefix. -/
def readBased (base : Nat) (isDigit : Char → Bool) (cs : List Char) : Parse Int :=
  match cs with
  | d :: rest =>
    if isDigit d then
      match readDigitRun isDigit rest [d] with
      | .ok ds rest' =>
        let v : Int := baseValue base ds
        if fitsWord v then .ok v rest' else .fail
      | _ => .fail
    else .fail
  | [] => .fail

/-- An integer: hexadecimal, octal or binary after its prefix, else decimal. -/
def readInteger (cs : List Char) : Parse Int :=
  match cs with
  | '0' :: 'x' :: rest => readBased 16 (fun c => (hexValue? c).isSome) rest
  | '0' :: 'o' :: rest => readBased 8 (fun c => c.toNat ≥ 48 && c.toNat ≤ 55) rest
  | '0' :: 'b' :: rest => readBased 2 (fun c => c == '0' || c == '1') rest
  | _ =>
    match readDecimalPart cs with
    | .ok (negative, ds) rest =>
      let v : Int := decimalValue ds
      let i := if negative then -v else v
      if fitsWord i then .ok i rest else .fail
    | .miss => .miss
    | .fail => .fail

/-- A number or date: the first reading of date-time, float and integer that fits. -/
def readScalar (cs : List Char) : Option (Value × List Char) :=
  match readDatetime cs with
  | .ok d rest => some (.datetime d, rest)
  | .fail => none
  | .miss =>
    match readFloat cs with
    | .ok bits rest => some (.float bits, rest)
    | .fail => none
    | .miss =>
      match readInteger cs with
      | .ok i rest => some (.integer i, rest)
      | _ => none

/-! ## Values -/

/-- Place a key and value in an inline table at a dotted path. Tables on the
path are created as dotted ones; an explicit inline table cannot be extended by
a dotted key, and a key cannot repeat. `viaPath` tells whether the path was
dotted at all. -/
def placeInline (key : String) (v : Value) (viaPath : Bool) :
    List String → Bool → List (String × Value) → Option (List (String × Value))
  | [], dotted, entries =>
    if dotted != viaPath then none
    else if entries.any (·.1 == key) then none
    else some (entries ++ [(key, v)])
  | k :: ks, _, entries =>
    match entries.find? (·.1 == k) with
    | none => do
      let sub ← placeInline key v viaPath ks true []
      pure (entries ++ [(k, .inline true sub)])
    | some (_, .inline d sub) => do
      let sub' ← placeInline key v viaPath ks d sub
      pure (entries.map fun e => if e.1 == k then (k, .inline d sub') else e)
    | some _ => none

/-- Build an inline table from its keys and values in order. -/
def inlineOf (pairs : List (List String × Value)) : Option (List (String × Value)) :=
  pairs.foldlM (fun entries (path, v) =>
    match path.getLast? with
    | some key => placeInline key v (path.length > 1) path.dropLast false entries
    | none => none) []

mutual

/-- Read a value; `fuel` bounds the nesting. -/
def readValue : Nat → List Char → Option (Value × List Char)
  | 0, _ => none
  | fuel + 1, cs =>
    match cs with
    | '"' :: _ => (readString cs).map fun (s, r) => (.string s, r)
    | '\'' :: _ => (readString cs).map fun (s, r) => (.string s, r)
    | '[' :: rest => readArray fuel rest []
    | '{' :: rest =>
      match skipBlanks rest with
      | '}' :: r => some (.inline false [], r)
      | _ => readInline fuel rest []
    | 't' :: 'r' :: 'u' :: 'e' :: rest => some (.boolean true, rest)
    | 'f' :: 'a' :: 'l' :: 's' :: 'e' :: rest => some (.boolean false, rest)
    | 'i' :: 'n' :: 'f' :: rest => some (.float (infinityBits false), rest)
    | 'n' :: 'a' :: 'n' :: rest => some (.float (nanBits false), rest)
    | c :: _ => if c.isDigit || c == '+' || c == '-' then readScalar cs else none
    | [] => none

/-- Read array items up to the closing bracket; `acc` holds the items so far,
last first. -/
def readArray : Nat → List Char → List Value → Option (Value × List Char)
  | 0, _, _ => none
  | fuel + 1, cs, acc =>
    match skipGaps cs with
    | ']' :: rest => some (.array acc.reverse, rest)
    | cs' =>
      match readValue fuel cs' with
      | none => none
      | some (v, rest) =>
        match skipGaps rest with
        | ',' :: more => readArray fuel more (v :: acc)
        | ']' :: more => some (.array (v :: acc).reverse, more)
        | _ => none

/-- Read the keys and values of an inline table up to its closing brace;
`acc` holds them so far, last first. -/
def readInline : Nat → List Char → List (List String × Value) → Option (Value × List Char)
  | 0, _, _ => none
  | fuel + 1, cs, acc =>
    match readKey cs with
    | some (path, '=' :: rest) =>
      match readValue fuel (skipBlanks rest) with
      | some (v, rest') =>
        let acc := (path, v) :: acc
        match skipBlanks rest' with
        | ',' :: more => readInline fuel more acc
        | '}' :: more => (inlineOf acc.reverse).map fun entries => (.inline false entries, more)
        | _ => none
      | none => none
    | _ => none

end

/-! ## Statements -/

/-- A statement of a document. -/
inductive Statement where
  /-- A table header `[a.b]`. -/
  | table (path : List String)
  /-- An array-of-tables header `[[a.b]]`. -/
  | tableArray (path : List String)
  /-- A key and its value; the key is `path` followed by `key`. -/
  | entry (path : List String) (key : String) (value : Value)
  deriving Inhabited

/-- Read the statements of a document, line by line; `acc` holds them so far,
last first, and `fuel` bounds the lines. -/
def readStatements : Nat → List Char → List Statement → Option (List Statement)
  | 0, _, _ => none
  | fuel + 1, cs, acc =>
    match skipBlanks cs with
    | [] => some acc.reverse
    | '#' :: rest => (lineEnd? (skipComment rest)).bind fun r => readStatements fuel r acc
    | '\n' :: rest => readStatements fuel rest acc
    | '\r' :: '\n' :: rest => readStatements fuel rest acc
    | '[' :: '[' :: rest =>
      match readKey rest with
      | some (path, ']' :: ']' :: more) =>
        (lineTrail? more).bind fun r => readStatements fuel r (.tableArray path :: acc)
      | _ => none
    | '[' :: rest =>
      match readKey rest with
      | some (path, ']' :: more) =>
        (lineTrail? more).bind fun r => readStatements fuel r (.table path :: acc)
      | _ => none
    | cs' =>
      match readKey cs' with
      | some (path, '=' :: rest) =>
        let rest := skipBlanks rest
        match readValue (rest.length + 1) rest, path.getLast? with
        | some (v, more), some key =>
          (lineTrail? more).bind fun r =>
            readStatements fuel r (.entry path.dropLast key v :: acc)
        | _, _ => none
      | _ => none

/-- The statements of a document, after an optional byte-order mark. -/
def statementsOf? (text : String) : Option (List Statement) :=
  let cs := match text.toList with
    | c :: rest => if c.toNat = 0xFEFF then rest else c :: rest
    | [] => []
  readStatements (cs.length + 1) cs []

end RestDispatch.Toml
