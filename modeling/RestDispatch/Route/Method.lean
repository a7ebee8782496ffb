import RestDispatch.Text.Case
import RestDispatch.Text.Blank

/-!
# Request methods and method filters

A method is a non-empty token of the characters that HTTP allows in tokens;
its name is kept as written, so `get` and `GET` are different methods.

A `MethodSet` is a filter: an empty set allows every method, and otherwise a
method is allowed when it equals a member up to the case of ASCII letters.
Reading a comma-separated list trims each name, skips blank ones, upper-cases
the rest and keeps the first copy of each.
-/

namespace RestDispatch

open RestDispatch.Text

set_option autoImplicit false

/-- A character allowed in a token. -/
def isTokenChar (c : Char) : Bool :=
  c.isAlphanum || "!#$%&'*+-.^_|~".toList.contains c || c.toNat = 96

/-- A request method, by name. -/
structure Method where
  name : String
  deriving Repr, DecidableEq, Inhabited, BEq

/-- A method name that is not a token. -/
structure InvalidMethod where
  deriving Repr, DecidableEq

/-- The text of the error. -/
def InvalidMethod.message (_ : InvalidMethod) : String :=
  "invalid HTTP method"

namespace Method

/-- The method of a name, if the name is a token. -/
def ofString? (name : String) : Option Method :=
  if !name.isEmpty && name.toList.all isTokenChar then some ⟨name⟩ else none

/-- The method of a name, or the error. -/
def parse (name : String) : Except InvalidMethod Method :=
  match ofString? name with
  | some m => .ok m
  | none => .error {}

/-- `GET`. -/
def get : Method := ⟨"GET"⟩

end Method

/-- A method filter: its members in insertion order. -/
structure MethodSet where
  methods : List Method
  deriving Repr, DecidableEq, Inhabited, BEq

namespace MethodSet

/-- The filter that allows every method. -/
def any : MethodSet := ⟨[]⟩

/-- Add a method unless it is already a member. -/
def insert (s : MethodSet) (m : Method) : MethodSet :=
  if s.methods.contains m then s else ⟨s.methods ++ [m]⟩

/-- The set of the given methods, each once, in order. -/
def ofMethods (ms : List Method) : MethodSet :=
  ms.foldl insert any

/-- Upper-case a name and read it as a method. -/
def normalize (name : String) : Except InvalidMethod Method :=
  Method.parse (asciiUpper name)

/-- Insert the normalised form of each name that is not blank. -/
def insertNames (s : MethodSet) : List String → Except InvalidMethod MethodSet
  | [] => .ok s
  | name :: rest =>
    let name := trimBlank name
    if name.isEmpty then insertNames s rest
    else
      match normalize name with
      | .ok m => insertNames (s.insert m) rest
      | .error e => .error e

/-- Read a comma-separated list of names. -/
def parse (list : String) : Except InvalidMethod MethodSet :=
  any.insertNames (list.splitOn ",")

/-- Read a list of names. -/
def ofNames (names : List String) : Except InvalidMethod MethodSet :=
  any.insertNames names

/-- Whether the filter allows a method name. -/
def allowsName (s : MethodSet) (name : String) : Bool :=
  s.methods.isEmpty || s.methods.any (fun m => eqIgnoreAsciiCase m.name name)

/-- Whether the filter allows a method. -/
def allows (s : MethodSet) (m : Method) : Bool :=
  s.allowsName m.name

/-- A filter without members. -/
def isEmpty (s : MethodSet) : Bool :=
  s.methods.isEmpty

/-- The members joined by commas. -/
def render (s : MethodSet) : String :=
  ",".intercalate (s.methods.map Method.name)

end MethodSet

end RestDispatch
