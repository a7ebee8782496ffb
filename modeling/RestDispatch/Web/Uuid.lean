import RestDispatch.Web.Host

/-!
# UUIDs

A UUID is 128 bits, held as 32 hexadecimal digits. It is read from 32 digits,
or from the hyphenated form `8-4-4-4-12` (digits in either case), which may be
braced or follow `urn:uuid:` in either case; it is written in the hyphenated form in lower
case.

When a text is refused, the reason names the first character that is neither
a digit nor a hyphen; failing that, a wrong number of groups or a group of the
wrong length.
-/

namespace RestDispatch.Web

set_option autoImplicit false

/-- A UUID by its 32 hexadecimal digits. -/
structure Uuid where
  digits : List Nat
  deriving Repr, DecidableEq

/-- The lengths of the groups of the hyphenated form. -/
def uuidGroups : List Nat := [8, 4, 4, 4, 12]

/-- A lower-case hexadecimal digit. -/
def hexChar (d : Nat) : Char :=
  if d < 10 then Char.ofNat (48 + d) else Char.ofNat (87 + d)

/-- Cut a list into pieces of the given lengths. -/
def cutGroups {α : Type} : List Nat → List α → List (List α)
  | [], _ => []
  | n :: ns, xs => xs.take n :: cutGroups ns (xs.drop n)

/-- The hyphenated lower-case form. -/
def Uuid.render (u : Uuid) : String :=
  "-".intercalate ((cutGroups uuidGroups u.digits).map fun g => String.ofList (g.map hexChar))

/-- The digits of a text of hexadecimal digits. -/
def hexDigits? (cs : List Char) : Option (List Nat) :=
  cs.mapM hexDigit?

/-- The digits of the hyphenated form. -/
def hyphenatedDigits? (cs : List Char) : Option (List Nat) :=
  if cs.length = 36 && [8, 13, 18, 23].all (fun i => cs[i]? == some '-') then
    hexDigits? (cs.filter (· != '-'))
  else none

/-- The URN prefix of a UUID, matched in either case. -/
def urnPrefix : List Char := "urn:uuid:".toList

/-- The text after the URN prefix, if it starts with one. -/
def afterUrn? (cs : List Char) : Option (List Char) :=
  if (cs.take 9).map Char.toLower == urnPrefix then some (cs.drop 9) else none

/-- The hyphenated part of a braced or prefixed form, or the text itself. -/
def uuidBody (cs : List Char) : List Char × Nat × Bool :=
  match afterUrn? cs with
  | some rest => (rest, 9, false)
  | none =>
    match cs with
    | '{' :: rest =>
      if rest.getLast? == some '}' then (rest.dropLast, 1, false) else (cs, 0, true)
    | _ => (cs, 0, true)

/-- The quote mark around a refused character. -/
def tick : String := String.singleton (Char.ofNat 96)

/-- Why a text is not a UUID. -/
def uuidRefusal (text : String) : String :=
  let (body, offset, plain) := uuidBody text.toList
  let indexed := body.zipIdx
  match indexed.find? (fun p => p.1 != '-' && (hexDigit? p.1).isNone) with
  | some (c, i) =>
    let place := i + offset
    s!"invalid character: found {tick}{c}{tick} at {place}"
  | none =>
    let hyphens := (indexed.filter (·.1 == '-')).map (·.2)
    if hyphens.isEmpty && plain then
      let size := text.utf8ByteSize
      s!"invalid length: expected length 32 for simple format, found {size}"
    else if hyphens.length != 4 then
      let groups := hyphens.length + 1
      s!"invalid group count: expected 5, found {groups}"
    else
      let starts := [0, 9, 14, 19, 24]
      let wrong := (List.range 4).find? fun g => hyphens[g]? != some (starts[g + 1]?.getD 0 - 1)
      match wrong with
      | some g =>
        let expected := uuidGroups[g]?.getD 0
        let size := (hyphens[g]?.getD 0) - starts[g]?.getD 0
        s!"invalid group length in group {g}: expected {expected}, found {size}"
      | none =>
        let size := body.length - 24
        s!"invalid group length in group 4: expected 12, found {size}"

/-- Read a UUID. -/
def Uuid.parse (text : String) : Except String Uuid :=
  let cs := text.toList
  let found :=
    match text.utf8ByteSize, cs with
    | 32, _ => hexDigits? cs
    | 36, _ => hyphenatedDigits? cs
    | 38, '{' :: rest => if rest.getLast? == some '}' then hyphenatedDigits? rest.dropLast else none
    | 45, _ => (afterUrn? cs).bind hyphenatedDigits?
    | _, _ => none
  match found with
  | some ds => .ok ⟨ds⟩
  | none => .error (uuidRefusal text)

example : (match Uuid.parse "67E55044-10B1-426F-9247-BB680E5FE0C8" with
    | .ok u => u.render | .error e => e) = "67e55044-10b1-426f-9247-bb680e5fe0c8" := by decide +kernel

end RestDispatch.Web
