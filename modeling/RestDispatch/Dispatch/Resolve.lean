import RestDispatch.Dispatch.Chain

/-!
# Resolution

A resolver finds, for a method and a path, the Api, the endpoint and the
actions that serve it.

1. The servlet mapping, a path pattern, must read the start of the path; the
   rest is the Api's path.
2. The first Api that claims the rest wins: a named Api needs its name as the
   next segment (in any ASCII case), an unnamed one claims any path when it is
   the only Api; a version must follow exactly; a multi-tenant Api then takes
   the next segment, if any, as the tenant.
3. The first endpoint of that Api that accepts the method and the rest of the
   path wins. An endpoint whose variable refuses a segment is passed over, but
   if no later endpoint accepts the path, the first refusal is the answer.
4. The actions are the endpoint's own, or the Api's when it has none; those
   whose rules accept the method and the subpath are kept, ordered by their
   rules' order, ties in their given order.
-/

namespace RestDispatch

set_option autoImplicit false

/-- Where a request goes: the Api (with its index), the endpoint, the actions
and the route. -/
structure Resolution where
  apiIndex : Nat
  api : Api
  endpoint : Endpoint
  actions : List Binding
  route : Route

/-- The Apis and the servlet mapping in front of them. -/
structure Resolver where
  apis : List Api
  servletMapping : PathPattern
  deriving Inhabited

namespace Resolver

/-- A resolver without a servlet mapping. -/
def new (apis : List Api) : Resolver := ⟨apis, ⟨"", []⟩⟩

/-- Set the servlet mapping. -/
def withServletMapping (r : Resolver) (mapping : String) : Resolver :=
  { r with servletMapping := PathPattern.ofString mapping }

/-- The cursor after an Api's name, which the next segment must equal up to
ASCII case; an Api without a name reads nothing and is tried only when it is
the only Api. -/
def claimName (single : Bool) (api : Api) (cursor : Cursor) : Option Cursor :=
  match api.name with
  | some name =>
    match cursor.next with
    | some (segment, after) => if Text.eqIgnoreAsciiCase segment name then some after else none
    | none => none
  | none => if single then some cursor else none

/-- The cursor after an Api's version, which the next segment must equal exactly. -/
def claimVersion (api : Api) (cursor : Cursor) : Option Cursor :=
  match api.version with
  | some version =>
    match cursor.next with
    | some (segment, after) => if segment == version then some after else none
    | none => none
  | none => some cursor

/-- The cursor after a multi-tenant Api's tenant, and the tenant, when a segment remains. -/
def claimTenant (api : Api) (cursor : Cursor) : Cursor × Option String :=
  if api.multiTenant then
    match cursor.next with
    | some (segment, after) => (after, some segment)
    | none => (cursor, none)
  else (cursor, none)

/-- Whether an Api claims the path at a cursor: the cursor after its name,
version and tenant, and the tenant. -/
def claims (single : Bool) (api : Api) (cursor : Cursor) : Option (Cursor × Option String) := do
  let cursor ← claimName single api cursor
  let cursor ← claimVersion api cursor
  pure (claimTenant api cursor)

/-- The first Api that claims the path at a cursor, with its index, the cursor
after it and the tenant. -/
def matchApi (r : Resolver) (cursor : Cursor) : Option (Nat × Api × Cursor × Option String) :=
  let single := r.apis.length == 1
  r.apis.zipIdx.findSome? fun (api, i) =>
    (claims single api cursor).map fun (after, tenant) => (i, api, after, tenant)

end Resolver

/-- The actions of an Api's endpoint whose rules accept the method and subpath,
by order, ties in their given order. -/
def selectActions (api : Api) (endpoint : Endpoint) (method : Method) (subpath : Path) : List Binding :=
  let candidates := if endpoint.actions.isEmpty then api.actions else endpoint.actions
  let kept := candidates.filter fun b => b.rule.accepts method subpath
  kept.mergeSort fun a b => a.rule.order ≤ b.rule.order

namespace Resolver

/-- Try the endpoints in order; `refused` keeps the first refusal. -/
def routeEndpoints (api : Api) (method : Method) (relative : Path) :
    List Endpoint → Option (Endpoint × Violation) → Except DispatchError (Endpoint × EndpointMatch)
  | [], some (e, v) => .error (.constraintViolation e.name v)
  | [], none => .error (.noEndpointMatch api.label method relative.render)
  | e :: rest, refused =>
    match e.route method relative with
    | .ok (some m) => .ok (e, m)
    | .ok none => routeEndpoints api method relative rest refused
    | .error v => routeEndpoints api method relative rest (refused.or (some (e, v)))

/-- Resolve a method and path. -/
def resolve (r : Resolver) (method : Method) (path : Path) : Except DispatchError Resolution :=
  match r.servletMapping.extract (Cursor.start path) with
  | (.matched _, cursor) =>
    match r.matchApi cursor with
    | none => .error (.noApiMatch cursor.remainder.render)
    | some (i, api, after, tenant) =>
      let relative := after.remainder
      match routeEndpoints api method relative api.endpoints none with
      | .error e => .error e
      | .ok (endpoint, m) =>
        .ok ⟨i, api, endpoint, selectActions api endpoint method m.subpath,
          ⟨after.consumed, tenant, m.endpointPath, m.subpath, m.params⟩⟩
  | _ => .error (.noApiMatch path.render)

end Resolver

/-- Start the chain of a resolution on a request. A request that was routed
before keeps its first route. -/
def Resolution.intoChain (res : Resolution) (request : Request) : Chain :=
  Chain.new (request.setRoute res.route).2 res.endpoint res.actions

end RestDispatch
