import RestDispatch.Web.Host

/-!
# Absolute URLs

A request target written as `scheme://…` must be a well-formed absolute URL.
Only its authority can make it ill-formed: the path, query and fragment of an
absolute URL are always accepted (they are percent-encoded, never refused).

`checkUrl` follows the URL standard's reading of the authority:

* leading and trailing controls and blanks are dropped, and tabs and line
  breaks anywhere are removed;
* special schemes skip any run of `/` and `\` after the colon, and also end the
  authority at `\`;
* the user information ends at the last `@` of the authority;
* the host ends at a `:` outside brackets; the port that follows is decimal,
  at most 65535, and ends only where the authority ends;
* a special scheme needs a non-empty host; a `file` URL's host may be empty or
  a drive letter.
-/

namespace RestDispatch.Web

set_option autoImplicit false

/-- Schemes with a host of the special kind. -/
def specialSchemes : List String := ["http", "https", "ws", "wss", "ftp", "file"]

/-- A scheme name: a letter, then letters, digits, `+`, `-` or `.`. -/
def isSchemeName (s : String) : Bool :=
  match s.toList with
  | c :: rest => c.isAlpha && rest.all fun d => d.isAlphanum || d == '+' || d == '-' || d == '.'
  | [] => false

/-- A character that ends the authority. -/
def endsAuthority (special : Bool) (c : Char) : Bool :=
  c == '/' || c == '?' || c == '#' || (special && c == '\\')

/-- The URL text that the reader sees: outer controls and blanks dropped, tabs
and line breaks removed. -/
def cleanUrl (url : String) : List Char :=
  let outer (c : Char) : Bool := c.toNat ≤ 0x20
  let cs := ((url.toList.dropWhile outer).reverse.dropWhile outer).reverse
  cs.filter fun c => !(c == '\t' || c == '\n' || c == '\r')

/-- Split the authority off the rest of the URL. -/
def splitAuthority (special : Bool) (cs : List Char) : List Char × List Char :=
  (cs.takeWhile fun c => !endsAuthority special c, cs.dropWhile fun c => !endsAuthority special c)

/-- The user information of an authority and the host and port after it. The
user information is `none` when there is no `@`. -/
def splitUserinfo (authority : List Char) : Option (List Char) × List Char :=
  if authority.contains '@' then
    let rev := authority.reverse
    (some (rev.dropWhile (· != '@') |>.drop 1 |>.reverse), (rev.takeWhile (· != '@')).reverse)
  else (none, authority)

/-- The host of `host:port`: up to the first `:` outside brackets. -/
def hostPart : List Char → Bool → List Char
  | [], _ => []
  | c :: rest, inBrackets =>
    if c == ':' && !inBrackets then []
    else c :: hostPart rest (if c == '[' then true else if c == ']' then false else inBrackets)

/-- The port: decimal digits that never pass 65535, up to the end of the
authority or a backslash. -/
def checkPort (port : List Char) : Except UrlError Unit :=
  let digits := port.takeWhile fun c => c != '\\'
  if digits.all Char.isDigit then
    let steps := digits.foldl (fun (acc : Option Nat) d =>
      acc.bind fun v => let v := v * 10 + (d.toNat - 48); if v > 65535 then none else some v) (some 0)
    if steps.isSome then .ok () else .error .invalidPort
  else .error .invalidPort

/-- User information with a name or a password makes an authority non-empty. -/
def userinfoWritten (userinfo : List Char) : Bool :=
  match userinfo with
  | [] => false
  | [':'] => false
  | _ => true

/-- A `file` host that is a drive letter: a letter and `:` or `|`. -/
def isDriveLetter (host : List Char) : Bool :=
  match host with
  | [c, d] => c.isAlpha && (d == ':' || d == '|')
  | _ => false

/-- Check the authority and port of a URL with a special scheme other than `file`. -/
def checkSpecialAuthority (afterColon : List Char) : Except UrlError Unit := do
  let cs := afterColon.dropWhile fun c => c == '/' || c == '\\'
  let (authority, _) := splitAuthority true cs
  let (_, hostPort) := splitUserinfo authority
  let host := hostPart hostPort false
  if host.isEmpty then throw .emptyHost
  checkSpecialHost host
  match hostPort.drop host.length with
  | ':' :: port => checkPort port
  | _ => pure ()

/-- Check the host of a `file` URL. -/
def checkFileAuthority (afterColon : List Char) : Except UrlError Unit :=
  match afterColon with
  | '/' :: '/' :: rest =>
    let host := rest.takeWhile fun c => !(c == '/' || c == '\\' || c == '?' || c == '#')
    if host.isEmpty || isDriveLetter host then .ok ()
    else checkSpecialHost host
  | _ => .ok ()

/-- Check the authority of a URL with any other scheme. -/
def checkOpaqueAuthority (afterColon : List Char) : Except UrlError Unit := do
  match afterColon with
  | '/' :: '/' :: rest =>
    let (authority, after) := splitAuthority false rest
    let (userinfo, hostPort) := splitUserinfo authority
    if userinfo == some [] && hostPort.isEmpty && !after.isEmpty then throw .emptyHost
    let host := hostPart hostPort false
    checkOpaqueHost host
    let portPart := hostPort.drop host.length
    if host.isEmpty && !portPart.isEmpty then throw .emptyHost
    match portPart with
    | ':' :: port => checkPort port
    | _ => pure ()
    if host.isEmpty && (userinfo.map userinfoWritten).getD false then throw .emptyHost
  | _ => pure ()

/-- Check an absolute URL whose scheme has been read. -/
def checkUrl (url : String) : Except UrlError Unit :=
  let cs := cleanUrl url
  let scheme := cs.takeWhile (· != ':')
  let afterColon := (cs.dropWhile (· != ':')).drop 1
  let name := String.ofList (scheme.map Text.asciiLowerChar)
  if name == "file" then checkFileAuthority afterColon
  else if specialSchemes.contains name then checkSpecialAuthority afterColon
  else checkOpaqueAuthority afterColon

end RestDispatch.Web
