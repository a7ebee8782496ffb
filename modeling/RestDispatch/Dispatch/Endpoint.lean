import RestDispatch.Dispatch.Action

/-!
# Endpoints and Apis

An endpoint has a name, a path pattern (by default `*`), a rule and its own
actions. It accepts a request when its rule allows the method and its pattern's
fixed prefix reads the start of the path. The rest of the path is the subpath.
Without include patterns the whole pattern must match the path and gives the
captures; with them, the prefix gives the captures and an include pattern must
match the subpath, adding its own. In both cases the rule's patterns must pass
the subpath.

An Api groups endpoints and actions under an optional name and version; a
multi-tenant Api reads a tenant segment after them.
-/

namespace RestDispatch

set_option autoImplicit false

/-- How an endpoint accepted a path. -/
structure EndpointMatch where
  endpointPath : Path
  subpath : Path
  params : Params
  deriving Repr, DecidableEq

/-- A named path pattern with a rule and actions. -/
structure Endpoint where
  name : String
  pattern : PathPattern
  rule : Rule
  actions : List Binding
  deriving Inhabited

namespace Endpoint

/-- An endpoint that accepts every path, without actions. -/
def new (name : String) : Endpoint :=
  ⟨name, PathPattern.ofString "*", Rule.default.withName name, []⟩

/-- Set the path pattern. -/
def withPath (e : Endpoint) (pattern : String) : Endpoint :=
  { e with pattern := PathPattern.ofString pattern }

/-- Replace the rule, keeping the endpoint's name on it. -/
def withRule (e : Endpoint) (rule : Rule) : Endpoint :=
  { e with rule := rule.withName e.name }

/-- Change the rule. -/
def mapRule (e : Endpoint) (f : Rule → Rule) : Endpoint :=
  { e with rule := f e.rule }

/-- Add an action. -/
def withAction (e : Endpoint) (b : Binding) : Endpoint :=
  { e with actions := e.actions ++ [b] }

/-- Route a request's method and path: the match, `none` when the endpoint
does not accept it, or the variable that refused a segment. -/
def route (e : Endpoint) (method : Method) (path : Path) : Except Violation (Option EndpointMatch) :=
  if !e.rule.allowsMethod method then .ok none
  else
    match e.pattern.extract (Cursor.start path) with
    | (.noMatch, _) => .ok none
    | (.violation v, _) => .error v
    | (.matched prefixMatch, cursor) =>
      let subpath := cursor.remainder
      let captured : Except Violation (Option Params) :=
        if e.rule.includes.isEmpty then
          match e.pattern.matchPath path with
          | .matched full => .ok (some full.params)
          | .noMatch => .ok none
          | .violation v => .error v
        else .ok (some prefixMatch.params)
      match captured with
      | .error v => .error v
      | .ok none => .ok none
      | .ok (some params) =>
        match e.rule.matchPath subpath with
        | none => .ok none
        | some included => .ok (some ⟨prefixMatch.matched, subpath, params.append included⟩)

end Endpoint

/-- A group of endpoints and actions under an optional name and version. -/
structure Api where
  name : Option String
  version : Option String
  multiTenant : Bool
  endpoints : List Endpoint
  actions : List Binding
  deriving Inhabited

namespace Api

/-- A named Api without endpoints or actions. -/
def new (name : String) : Api := ⟨some name, none, false, [], []⟩

/-- An Api without a name. -/
def unnamed : Api := ⟨none, none, false, [], []⟩

/-- Set the version. -/
def withVersion (a : Api) (version : String) : Api := { a with version := some version }

/-- Set whether a tenant segment follows. -/
def withMultiTenant (a : Api) (multiTenant : Bool) : Api := { a with multiTenant := multiTenant }

/-- Add an endpoint. -/
def withEndpoint (a : Api) (e : Endpoint) : Api := { a with endpoints := a.endpoints ++ [e] }

/-- Add an action. -/
def withAction (a : Api) (b : Binding) : Api := { a with actions := a.actions ++ [b] }

/-- The name, or the empty text. -/
def label (a : Api) : String := a.name.getD ""

end Api

end RestDispatch
