import RestDispatch.Route.Pattern
import RestDispatch.Route.Method
import RestDispatch.Text.Form

/-!
# Rules

A rule filters requests by method and path and carries settings. A path passes
when, if there are include patterns, one of them matches it (the first that
does gives the captures), and no exclude pattern matches it.

Pattern lists are written with commas between patterns; a comma inside braces
belongs to a constraint and does not split. Each piece is trimmed, blank pieces
are skipped, and a pattern whose normalised text is already in the list is not
added again.
-/

namespace RestDispatch

open RestDispatch.Text

set_option autoImplicit false

/-- The two pattern lists of a rule. -/
inductive PatternList where
  | includes
  | excludes
  deriving Repr, DecidableEq

/-- A method and path filter with an order and settings. -/
structure Rule where
  name : Option String
  methods : MethodSet
  includes : List PathPattern
  excludes : List PathPattern
  order : Int
  settings : Settings
  deriving Repr, DecidableEq, Inhabited

/-- The pieces of a pattern list between its commas outside braces. `depth`
counts open braces, `piece` is the current piece, last character first. -/
def splitPatternChars : List Char → Nat → List Char → List String
  | [], _, piece => [String.ofList piece.reverse]
  | c :: rest, depth, piece =>
    if c = '\x7b' then splitPatternChars rest (depth + 1) (c :: piece)
    else if c = '\x7d' then splitPatternChars rest (depth - 1) (c :: piece)
    else if c = ',' ∧ depth = 0 then String.ofList piece.reverse :: splitPatternChars rest 0 []
    else splitPatternChars rest depth (c :: piece)

/-- The trimmed, non-blank patterns of a comma-separated list. -/
def splitPatternList (list : String) : List String :=
  ((splitPatternChars list.toList 0 []).map trimBlank).filter (· != "")

/-- Add a pattern unless one with the same normalised text is present. -/
def pushUnique (list : List PathPattern) (p : PathPattern) : List PathPattern :=
  if list.any (fun q => q.raw == p.raw) then list else list ++ [p]

namespace Rule

/-- The order of a rule that sets none. -/
def defaultOrder : Int := 1000

/-- The rule that lets every request through. -/
def default : Rule :=
  ⟨none, .any, [], [], defaultOrder, .empty⟩

/-- Name the rule. -/
def withName (r : Rule) (name : String) : Rule :=
  { r with name := some name }

/-- Replace the method filter. -/
def withMethods (r : Rule) (ms : MethodSet) : Rule :=
  { r with methods := ms }

/-- Add a method to the filter. -/
def withMethod (r : Rule) (m : Method) : Rule :=
  { r with methods := r.methods.insert m }

/-- Add the methods of a comma-separated list to the filter. -/
def withMethodList (r : Rule) (list : String) : Except InvalidMethod Rule :=
  (MethodSet.parse list).map fun ms =>
    { r with methods := ms.methods.foldl MethodSet.insert r.methods }

/-- The patterns of one of the two lists. -/
def patterns (r : Rule) : PatternList → List PathPattern
  | .includes => r.includes
  | .excludes => r.excludes

/-- The rule with one of its two lists replaced. -/
def setPatterns (r : Rule) : PatternList → List PathPattern → Rule
  | .includes, ps => { r with includes := ps }
  | .excludes, ps => { r with excludes := ps }

/-- Add one pattern to a list. -/
def withPath (r : Rule) (list : PatternList) (p : PathPattern) : Rule :=
  r.setPatterns list (pushUnique (r.patterns list) p)

/-- Add the patterns of a comma-separated text to a list. -/
def withPaths (r : Rule) (list : PatternList) (text : String) : Rule :=
  (splitPatternList text).foldl (fun acc t => acc.withPath list (PathPattern.ofString t)) r

/-- Add one include pattern. -/
def withIncludePath (r : Rule) (p : PathPattern) : Rule :=
  r.withPath .includes p

/-- Add one exclude pattern. -/
def withExcludePath (r : Rule) (p : PathPattern) : Rule :=
  r.withPath .excludes p

/-- Add the include patterns of a comma-separated list. -/
def withIncludePaths (r : Rule) (list : String) : Rule :=
  r.withPaths .includes list

/-- Add the exclude patterns of a comma-separated list. -/
def withExcludePaths (r : Rule) (list : String) : Rule :=
  r.withPaths .excludes list

/-- Set the order. -/
def withOrder (r : Rule) (order : Int) : Rule :=
  { r with order := order }

/-- Add the settings of a form-encoded text; a leading `?` is dropped. -/
def withSettings (r : Rule) (query : String) : Rule :=
  let query := match query.toList with
    | '?' :: rest => String.ofList rest
    | _ => query
  { r with settings := r.settings.insertAll (formPairs query) }

/-- Set one setting. -/
def withSetting (r : Rule) (key value : String) : Rule :=
  { r with settings := r.settings.insert key value }

/-- The value of a setting. -/
def setting? (r : Rule) (key : String) : Option String :=
  r.settings.get? key

/-- Whether the filter allows the method. -/
def allowsMethod (r : Rule) (m : Method) : Bool :=
  r.methods.allows m

/-- The captures of the first include pattern that matches the path, when the
rule has include patterns. -/
def includeParams? (r : Rule) (path : Path) : Option Params :=
  if r.includes.isEmpty then some .empty
  else
    r.includes.findSome? fun p =>
      match p.matchPath path with
      | .matched e => some e.params
      | _ => none

/-- The captures with which the path passes the rule, if it does. -/
def matchPath (r : Rule) (path : Path) : Option Params :=
  match r.includeParams? path with
  | none => none
  | some params => if r.excludes.any (fun p => p.accepts path) then none else some params

/-- Both the method and the path pass the rule. -/
def accepts (r : Rule) (m : Method) (path : Path) : Bool :=
  r.allowsMethod m && (r.matchPath path).isSome

end Rule

end RestDispatch
