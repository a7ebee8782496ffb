import RestDispatch.Text.Case
import RestDispatch.Text.Form
import RestDispatch.Web.DomainName
import RestDispatch.Text.Blank

/-!
# Hosts of absolute URLs

The host of a URL with a special scheme (`http`, `https`, `ws`, `wss`, `ftp`,
`file`) is an IPv6 address in brackets, an IPv4 address, or a domain. A domain
is percent-decoded and mapped to ASCII as international domain names are:
ASCII letters are lowered, full-width forms and the ideographic full stops are
mapped to their ASCII forms, labels written `xn--…` must decode as Punycode,
and a name holding a control character, a blank, or one of the characters that
URLs reserve is refused. A domain whose last label is a number must be a whole
IPv4 address: at most four parts, each decimal, octal (leading `0`) or
hexadecimal (leading `0x`), the last filling the bytes left.

The host of any other scheme is opaque: it may not hold the characters that
URLs reserve for their structure, but is otherwise kept as written.
-/

namespace RestDispatch.Web

open RestDispatch.Text

set_option autoImplicit false

/-- Why an absolute URL is refused. -/
inductive UrlError where
  | emptyHost
  | idnaError
  | invalidPort
  | invalidIpv4Address
  | invalidIpv6Address
  | invalidDomainCharacter
  deriving Repr, DecidableEq

/-- The text of a URL error. -/
def UrlError.message : UrlError → String
  | .emptyHost => "empty host"
  | .idnaError => "invalid international domain name"
  | .invalidPort => "invalid port number"
  | .invalidIpv4Address => "invalid IPv4 address"
  | .invalidIpv6Address => "invalid IPv6 address"
  | .invalidDomainCharacter => "invalid domain character"

/-! ## IPv6 -/

/-- The value of a hexadecimal digit. -/
def hexDigit? (c : Char) : Option Nat :=
  if '0' ≤ c ∧ c ≤ '9' then some (c.toNat - 48)
  else if 'a' ≤ c ∧ c ≤ 'f' then some (c.toNat - 87)
  else if 'A' ≤ c ∧ c ≤ 'F' then some (c.toNat - 55)
  else none

/-- A decimal byte of an embedded IPv4 address: no leading zero, at most 255. -/
def readIpv4Byte (cs : List Char) : Option (List Char) :=
  let digits := cs.takeWhile Char.isDigit
  match digits with
  | [] => none
  | '0' :: _ :: _ => none
  | _ =>
    let v := digits.foldl (fun acc d => acc * 10 + (d.toNat - 48)) 0
    if v ≤ 255 then some (cs.drop digits.length) else none

/-- The four dotted bytes that end an IPv6 address. -/
def readEmbeddedIpv4 (cs : List Char) : Bool :=
  match readIpv4Byte cs with
  | some ('.' :: r1) =>
    match readIpv4Byte r1 with
    | some ('.' :: r2) =>
      match readIpv4Byte r2 with
      | some ('.' :: r3) =>
        match readIpv4Byte r3 with
        | some [] => true
        | _ => false
      | _ => false
    | _ => false
  | _ => false

/-- Where the reader of an IPv6 address stands: before a piece (`afterColon`
when a single colon led there), or inside a piece with its digits so far. -/
inductive Ipv6Place where
  | between (afterColon : Bool)
  | inPiece (digits : List Char)

/-- Read the rest of an IPv6 address. `pieces` counts the 16-bit pieces done and
`compressed` records a `::`, which stands for the pieces that are missing; an
address without one has exactly eight. Four dotted bytes may stand for the
last two pieces. -/
def ipv6Rest : List Char → Nat → Bool → Ipv6Place → Bool
  | [], pieces, compressed, .between afterColon =>
    !afterColon && (compressed || pieces == 8)
  | [], pieces, compressed, .inPiece _ => compressed || pieces + 1 == 8
  | c :: rest, pieces, compressed, .between _ =>
    if pieces == 8 then false
    else if c == ':' then
      if compressed then false else ipv6Rest rest (pieces + 1) true (.between false)
    else if (hexDigit? c).isSome then ipv6Rest rest pieces compressed (.inPiece [c])
    else false
  | c :: rest, pieces, compressed, .inPiece digits =>
    if (hexDigit? c).isSome && digits.length < 4 then
      ipv6Rest rest pieces compressed (.inPiece (digits ++ [c]))
    else if c == '.' then
      pieces ≤ 6 && readEmbeddedIpv4 (digits ++ c :: rest) && (compressed || pieces + 2 == 8)
    else if c == ':' then
      if rest.isEmpty then false else ipv6Rest rest (pieces + 1) compressed (.between true)
    else false

/-- An IPv6 address, the text inside the brackets. -/
def isIpv6Address (cs : List Char) : Bool :=
  if cs.length < 2 then false
  else
    match cs with
    | ':' :: ':' :: rest => ipv6Rest rest 1 true (.between false)
    | ':' :: _ => false
    | _ => ipv6Rest cs 0 false (.between false)

/-! ## IPv4 -/

/-- The value of a part of an IPv4 address: `none` for text that is no number,
`some none` for a number too large for 32 bits. -/
def ipv4Number? (part : List Char) : Option (Option Nat) :=
  if part.isEmpty then none
  else
    let (radix, digits) :=
      match part with
      | '0' :: 'x' :: rest => (16, rest)
      | '0' :: 'X' :: rest => (16, rest)
      | '0' :: rest@(_ :: _) => (8, rest)
      | _ => (10, part)
    if digits.isEmpty then some (some 0)
    else
      let values := digits.map fun c => (hexDigit? c).getD 99
      if values.all (· < radix) then
        let v := values.foldl (fun acc d => acc * radix + d) 0
        some (if v < Nat.pow 2 32 then some v else none)
      else none

/-- The dot-separated parts of a domain. -/
def domainLabels (domain : List Char) : List (List Char) :=
  domain.splitOn '.'

/-- The last label of a domain is a number, so the domain must be an IPv4 address. -/
def endsInNumber (domain : List Char) : Bool :=
  let labels := (domainLabels domain).reverse
  let last? :=
    match labels with
    | [] :: prev :: _ => some prev
    | [] :: [] => none
    | last :: _ => some last
    | [] => none
  match last? with
  | none => false
  | some last =>
    (!last.isEmpty && last.all Char.isDigit) || (ipv4Number? last).isSome

/-- A domain that ends in a number is a valid IPv4 address. -/
def isIpv4Address (domain : List Char) : Bool :=
  let labels := domainLabels domain
  let labels := if labels.getLast? == some [] then labels.dropLast else labels
  if labels.length > 4 then false
  else
    let numbers := labels.map fun l => (ipv4Number? l).bind id
    if numbers.any Option.isNone then false
    else
      let values := numbers.map (·.getD 0)
      match values.reverse with
      | [] => false
      | last :: others =>
        last < Nat.pow 2 (32 - 8 * others.length) && others.all (· ≤ 255)

/-- Check the host of a URL with a special scheme. -/
def checkSpecialHost (host : List Char) : Except UrlError Unit :=
  match host with
  | '[' :: inside =>
    if inside.getLast? == some ']' then
      if isIpv6Address inside.dropLast then .ok () else .error .invalidIpv6Address
    else .error .invalidIpv6Address
  | _ =>
    let bytes := utf8Bytes (String.ofList host)
    let decoded := percentDecode bytes
    let text := decodeUtf8Lossy decoded
    if text.contains replacement then .error .idnaError
    else
      match domainToAscii text with
      | none => .error .idnaError
      | some domain =>
        if domain.isEmpty then .error .emptyHost
        else if endsInNumber domain then
          if isIpv4Address domain then .ok () else .error .invalidIpv4Address
        else .ok ()

/-- Characters that an opaque host may not hold. -/
def isForbiddenHostChar (c : Char) : Bool :=
  c.toNat = 0 || "\t\n\r #/:<>?@[\\]^|".toList.contains c

/-- Check the host of a URL with any other scheme. -/
def checkOpaqueHost (host : List Char) : Except UrlError Unit :=
  match host with
  | '[' :: inside =>
    if inside.getLast? == some ']' then
      if isIpv6Address inside.dropLast then .ok () else .error .invalidIpv6Address
    else .error .invalidIpv6Address
  | _ => if host.any isForbiddenHostChar then .error .invalidDomainCharacter else .ok ()

end RestDispatch.Web
