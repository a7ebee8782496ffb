import RestDispatch.Dispatch.Resolve

/-!
# The engine

The engine serves requests: it reads the request, resolves it, runs the chain
and reports the exchange. A failure sets the response status: an action's own
status if it chose one, else a status an action set on the response, else 500
for a failed action; the failure's status for every other failure. With error
bodies on, the body becomes the failure's envelope.

Each request served is observed once, for the metrics: a routed request by its
Api, endpoint and final status, any other by the reason it could not be routed.
-/

namespace RestDispatch

set_option autoImplicit false

/-- A served request: the request when it could be read, the response, the
trace and the failure, if any. -/
structure Exchange where
  request : Option Request
  response : Response
  trace : List TraceEntry
  error : Option DispatchError
  deriving Inhabited

namespace Exchange

/-- The status of the response. -/
def status (x : Exchange) : Nat := x.response.status

/-- The request was served without failure. -/
def isSuccess (x : Exchange) : Bool := x.error.isNone

/-- The first value recorded under a key. -/
def traceValue? (x : Exchange) (key : String) : Option String :=
  (x.trace.find? (·.key == key)).map TraceEntry.value

/-- Every value recorded under a key, in order. -/
def traceValues (x : Exchange) (key : String) : List String :=
  (x.trace.filter (·.key == key)).map TraceEntry.value

end Exchange

/-- What the metrics learn of a served request. -/
inductive Observation where
  | dispatched (api endpoint : String) (status : Nat)
  | routingFailure (reason : String)
  deriving Repr, DecidableEq

/-- A resolver with the engine's switches: whether chains record traces, and
whether failures get error bodies. -/
structure Engine where
  resolver : Resolver
  debug : Bool
  errorBodies : Bool
  deriving Inhabited

/-- The status of a failed exchange. -/
def failureStatus (e : DispatchError) (r : Response) : Nat :=
  match e with
  | .actionFailed _ cause =>
    match cause.status with
    | some s => s
    | none => if r.hasExplicitStatus then r.status else 500
  | _ => e.status

namespace Engine

/-- An engine over Apis, with an optional servlet mapping. -/
def build (apis : List Api) (servletMapping : Option String) (debug errorBodies : Bool) : Engine :=
  let resolver := Resolver.new apis
  let resolver := match servletMapping with
    | some m => resolver.withServletMapping m
    | none => resolver
  ⟨resolver, debug, errorBodies⟩

/-- An engine over Apis, tracing and with error bodies. -/
def new (apis : List Api) : Engine :=
  build apis none true true

/-- Report a failure. -/
def fail (g : Engine) (request : Option Request) (r : Response) (trace : List TraceEntry)
    (e : DispatchError) : Exchange :=
  let r := r.setStatus (failureStatus e r)
  let r := if g.errorBodies then r.setBody (e.envelope (request.map Request.id)) else r
  ⟨request, r, trace, some e⟩

/-- Read a request from a URL. -/
def readRequest (id : RequestId) (method : Method) (url : String) : Except DispatchError Request :=
  match Request.parse id method url with
  | .ok r => .ok r
  | .error cause => .error (.invalidUrl url cause)

/-- Serve a request that was read. -/
def serveRequest (g : Engine) (request : Request) : Exchange × Observation :=
  match g.resolver.resolve request.method request.path with
  | .error e => (g.fail (some request) .empty [] e, .routingFailure e.reason)
  | .ok res =>
    let chain := (res.intoChain request).withTrace g.debug
    let (chain, outcome) := chain.run
    let x : Exchange := match outcome with
      | .ok () => ⟨some chain.request, chain.response, chain.trace, none⟩
      | .error e => g.fail (some chain.request) chain.response chain.trace e
    (x, .dispatched res.api.label res.endpoint.name x.status)

/-- Serve a method and URL. -/
def serve (g : Engine) (id : RequestId) (method : Method) (url : String) : Exchange × Observation :=
  match readRequest id method url with
  | .ok request => g.serveRequest request
  | .error e => (g.fail none .empty [] e, .routingFailure e.reason)

/-- Resolve a method and URL without serving it. -/
def resolve (g : Engine) (id : RequestId) (method : Method) (url : String) :
    Except DispatchError Resolution := do
  let request ← readRequest id method url
  g.resolver.resolve method request.path

end Engine

end RestDispatch
