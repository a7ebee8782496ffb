import RestDispatch.Regex.Pattern
import RestDispatch.Text.Classes
import RestDispatch.Text.Blank
import RestDispatch.Text.Case

/-!
# Log filter directives

A log level setting is a list of directives separated by commas; each is
trimmed of blanks, and empty ones are skipped, so an empty setting is valid.
A directive is

* a level on its own: `trace`, `debug`, `info`, `warn`, `error` or `off` in
  any ASCII case, or a digit from `0` to `5`; or
* a target, then a span in brackets, then `=` and a level, each of the three
  optional but not both the target and the span.

A target runs up to the first `[` or `=` and starts with a letter or number.
A span `[name]` or `[name{fields}]` ends at its first `]`; its fields, when it
has braces, are not empty, and each field is a name and optionally `=value`.
A field value is a boolean, a number, or else a pattern that a deterministic
automaton can run: valid, and without a Unicode word boundary. The level after
`=` is a level name in any ASCII case, a whole number from 0 to 5 (a plus sign
and leading zeros allowed), or nothing.
-/

namespace RestDispatch.Telemetry

open RestDispatch.Text

set_option autoImplicit false

/-- A level name or digit, ignoring ASCII case: a directive on its own. -/
def isLevelName (s : String) : Bool :=
  ["trace", "debug", "info", "warn", "error", "off"].contains (asciiLower s) ||
    ["0", "1", "2", "3", "4", "5"].contains s

/-- A whole number as unsigned text: an optional plus sign, then digits. -/
def unsignedValue? (s : String) : Option Nat :=
  let cs := match s.toList with
    | '+' :: rest => rest
    | cs => cs
  if !cs.isEmpty && cs.all Char.isDigit then some (cs.foldl (fun acc d => acc * 10 + (d.toNat - 48)) 0)
  else none

/-- A level after `=`. -/
def isLevelValue (s : String) : Bool :=
  s.isEmpty || ["trace", "debug", "info", "warn", "error", "off"].contains (asciiLower s) ||
    match unsignedValue? s with
    | some n => n ≤ 5
    | none => false

/-- Text that reads as a floating-point number: an optional sign, then `inf`,
`infinity` or `nan` in any case, or digits with an optional point and
exponent, at least one digit before the exponent. -/
def isNumberText (s : String) : Bool :=
  let cs := match s.toList with
    | '+' :: rest => rest
    | '-' :: rest => rest
    | cs => cs
  let word := asciiLower (String.ofList cs)
  if word == "inf" || word == "infinity" || word == "nan" then true
  else
    let whole := cs.takeWhile Char.isDigit
    let rest := cs.drop whole.length
    let (frac, rest) := match rest with
      | '.' :: more => (more.takeWhile Char.isDigit, more.dropWhile Char.isDigit)
      | _ => ([], rest)
    if whole.isEmpty && frac.isEmpty then false
    else
      match rest with
      | [] => true
      | e :: more =>
        if e == 'e' || e == 'E' then
          let digits := match more with
            | '+' :: r => r
            | '-' :: r => r
            | r => r
          !digits.isEmpty && digits.all Char.isDigit
        else false

/-- A whole number that a signed 64-bit word holds. -/
def isWordNumber (s : String) : Bool :=
  match s.toList with
  | '-' :: rest => match unsignedValue? (String.ofList rest) with
    | some n => !rest.isEmpty && rest.head? != some '+' && n ≤ Nat.pow 2 63
    | none => false
  | _ => match unsignedValue? s with
    | some n => n < Nat.pow 2 64
    | none => false

/-- A pattern that a deterministic automaton runs: it reads, and it has no
Unicode word boundary. -/
def isAutomatonPattern (v : String) : Bool :=
  match Regex.Pattern.read false v with
  | .ok r => !r.hasUnicodeWordLook
  | .error _ => false

/-- A field value: a boolean, a number, or a pattern. -/
def isFieldValue (v : String) : Bool :=
  v == "true" || v == "false" || isWordNumber v || isNumberText v || isAutomatonPattern v

/-- A field: a name, then optionally `=` and a value; what follows a second
`=` is ignored. -/
def isField (f : String) : Bool :=
  match f.splitOn "=" with
  | _ :: v :: _ => isFieldValue v
  | _ => true

/-- The inside of a span's brackets: a name, and fields in braces that end it. -/
def isSpanBody (body : List Char) : Bool :=
  match body.dropWhile (· != '\x7b') with
  | [] => true
  | _ :: rest =>
    match rest.reverse with
    | '\x7d' :: inner =>
      let fields := String.ofList inner.reverse
      !fields.isEmpty && isField fields
    | _ => false

/-- What follows the target and span: nothing, or `=` and a level. -/
def isLevelPart : List Char → Bool
  | [] => true
  | '=' :: level => isLevelValue (String.ofList level)
  | _ => false

/-- A directive of a target, a span and a level. -/
def isTargetDirective (d : List Char) : Bool :=
  let target := d.takeWhile fun c => c != '[' && c != '='
  let rest := d.drop target.length
  let targetOk := match target with
    | [] => true
    | c :: _ => isAlphanumeric c
  targetOk &&
    match rest with
    | '[' :: more =>
      let body := more.takeWhile (· != ']')
      match more.drop body.length with
      | ']' :: after => isSpanBody body && isLevelPart after
      | _ => false
    | _ => !target.isEmpty && isLevelPart rest

/-- A valid directive, already trimmed. -/
def isDirective (d : String) : Bool :=
  isLevelName d || isTargetDirective d.toList

/-- The directives of a level setting: its comma-separated parts, trimmed,
empty ones skipped. -/
def directives (level : String) : List String :=
  ((level.splitOn ",").map trimBlank).filter (!·.isEmpty)

/-- A valid level setting. -/
def isValidFilter (level : String) : Bool :=
  (directives level).all isDirective

end RestDispatch.Telemetry
