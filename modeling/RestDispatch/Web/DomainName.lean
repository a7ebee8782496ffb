import RestDispatch.Text.Normalize
import RestDispatch.Unicode.Bidi
import RestDispatch.Unicode.Category
import RestDispatch.Unicode.Idna
import RestDispatch.Web.Punycode

/-!
# International domain names

`domainToAscii` maps a domain name to its ASCII form, as URLs process the
domain of a host, or refuses it:

1. every code point is mapped by the table of `idnaStatus` (valid ones and
   the deviation characters stay, ignored ones are dropped, mapped ones are
   replaced, and a disallowed one refuses the name), the result is put in
   Normalization Form C, and an ASCII control, blank, or character that URLs
   reserve (`%#/:<>?@[\]^|`) refuses the name;
2. the name is split into labels at `.`; a label that starts with `xn--` must
   be ASCII, must not end with `-`, and must decode as Punycode to a label that
   is not all ASCII, is in Normalization Form C, and has only valid code
   points;
3. no label may start with a combining mark, and a zero-width joiner or
   non-joiner must stand where the rules of joining allow it: after a virama,
   or, for the non-joiner, between a left- or dual-joining and a right- or
   dual-joining letter, with only transparent ones between;
4. when some label holds a right-to-left letter or an Arabic digit, every
   label must satisfy the rule for right-to-left names;
5. a label that is not ASCII is written `xn--` and its Punycode encoding; a
   label that was given in Punycode is kept as it was. Punycode takes labels
   of at most `Punycode.labelLimit` code points, either way.
-/

namespace RestDispatch.Web

open RestDispatch.Unicode RestDispatch.Text

set_option autoImplicit false

/-- ASCII code points that a domain may not hold: the controls, the blank,
and the characters that URLs reserve. -/
def isDeniedAscii (c : Nat) : Bool :=
  c ≤ 0x20 || c = 0x7F || "%#/:<>?@[\\]^|".toList.any (·.toNat = c)

/-- What a code point maps to, or `none` when it is disallowed. -/
def mapPoint (cp : Nat) : Option (List Nat) :=
  match idnaStatus cp with
  | .valid => some [cp]
  | .ignored => some []
  | .mapped target => some target
  | .disallowed => none

/-- Map a domain and normalize it; `none` when it is refused. -/
def mapDomain (domain : List Nat) : Option (List Nat) := do
  let mapped ← domain.mapM mapPoint
  let normal := nfc mapped.flatten
  if normal.any isDeniedAscii then none else some normal

/-- The code points of `xn--`. -/
def punycodePrefix : List Nat := [0x78, 0x6E, 0x2D, 0x2D]

/-- A label is written in Punycode. -/
def isPunycodeLabel (label : List Nat) : Bool := label.take 4 == punycodePrefix

/-- The label a Punycode label stands for, when it is a valid one. -/
def decodeLabel (label : List Nat) : Option (List Nat) := do
  let rest := label.drop 4
  if rest.any (0x80 ≤ ·) || label.getLast? == some 0x2D then none
  else
    let decoded ← Punycode.decode rest
    if decoded.all (· < 0x80) || !isNfc decoded then none
    else if decoded.all (fun c => idnaStatus c == .valid && !isDeniedAscii c) then some decoded
    else none

/-- A combining mark. -/
def isMarkPoint (cp : Nat) : Bool := (categoryOf cp).isMark

/-- A virama: combining class 9. -/
def isVirama (cp : Nat) : Bool := combiningClass cp = 9

/-- The nearest letter before a non-joiner, past transparent ones, joins
towards it. The code points are given nearest first. -/
def joinsBefore : List Nat → Bool
  | [] => false
  | c :: cs =>
    match joiningType c with
    | .transparent => joinsBefore cs
    | .leftJoining | .dualJoining => true
    | _ => false

/-- The nearest letter after a non-joiner, past transparent ones, joins
towards it. -/
def joinsAfter : List Nat → Bool
  | [] => false
  | c :: cs =>
    match joiningType c with
    | .transparent => joinsAfter cs
    | .rightJoining | .dualJoining => true
    | _ => false

/-- Every joiner of a label stands where it may; `before` holds the code
points already passed, nearest first. -/
def joinersAllowed : List Nat → List Nat → Bool
  | _, [] => true
  | before, c :: after =>
    let afterVirama := before.head?.any isVirama
    let ok :=
      if c = 0x200D then afterVirama
      else if c = 0x200C then afterVirama || (joinsBefore before && joinsAfter after)
      else true
    ok && joinersAllowed (c :: before) after

/-- A right-to-left letter or an Arabic digit. -/
def isRtlPoint (cp : Nat) : Bool :=
  match bidiClass cp with
  | .rightToLeft | .arabicLetter | .arabicNumber => true
  | _ => false

/-- A class that a right-to-left label may hold. -/
def rtlAllowed : BidiClass → Bool
  | .rightToLeft | .arabicLetter | .arabicNumber | .europeanNumber | .europeanSeparator
  | .commonSeparator | .europeanTerminator | .otherNeutral | .boundaryNeutral
  | .nonspacingMark => true
  | _ => false

/-- A class that a left-to-right label may hold. -/
def ltrAllowed : BidiClass → Bool
  | .leftToRight | .europeanNumber | .europeanSeparator | .commonSeparator
  | .europeanTerminator | .otherNeutral | .boundaryNeutral | .nonspacingMark => true
  | _ => false

/-- A label satisfies the rule for right-to-left names: it starts with a
left-to-right or right-to-left letter, holds only classes its direction
allows, ends (before trailing marks) with a letter or digit of its direction,
and a right-to-left label does not mix European and Arabic digits. -/
def bidiLabelAllowed (label : List Nat) : Bool :=
  let classes := label.map bidiClass
  let last := (classes.reverse.dropWhile (· == .nonspacingMark)).head?
  match classes with
  | [] => true
  | first :: _ =>
    if first == .rightToLeft || first == .arabicLetter then
      classes.all rtlAllowed &&
      last.any (fun c => c == .rightToLeft || c == .arabicLetter || c == .europeanNumber ||
        c == .arabicNumber) &&
      !(classes.contains .europeanNumber && classes.contains .arabicNumber)
    else if first == .leftToRight then
      classes.all ltrAllowed && last.all (fun c => c == .leftToRight || c == .europeanNumber)
    else false

/-- A label, mapped, with the label it stands for: its decoding when it is
written in Punycode, itself otherwise. -/
def readLabel (label : List Nat) : Option (List Nat × List Nat) :=
  if isPunycodeLabel label then (decodeLabel label).map (label, ·) else some (label, label)

/-- The label stands where labels may: no combining mark first, and its
joiners allowed. -/
def labelAllowed (label : List Nat) : Bool :=
  !(label.head?.any isMarkPoint) && joinersAllowed [] label

/-- The ASCII form of a label. -/
def asciiLabel (written meaning : List Nat) : Option (List Char) :=
  if isPunycodeLabel written || written.all (· < 0x80) then some (written.map Char.ofNat)
  else (Punycode.encode meaning).map ("xn--".toList ++ ·)

/-- The ASCII form of a domain, or `none` when it is refused. -/
def domainToAscii (domain : List Char) : Option (List Char) := do
  let mapped ← mapDomain (domain.map Char.toNat)
  let labels ← (mapped.splitOn 0x2E).mapM readLabel
  let meanings := labels.map Prod.snd
  if !meanings.all labelAllowed then none
  else if meanings.any (·.any isRtlPoint) && !meanings.all bidiLabelAllowed then none
  else
    let ascii ← labels.mapM fun (written, meaning) => asciiLabel written meaning
    pure (".".toList.intercalate ascii)

end RestDispatch.Web
