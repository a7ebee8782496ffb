import RestDispatch.Dispatch.Endpoint

/-!
# Chains

A chain serves one request at one endpoint by running its actions in order.
Before each action it records `Action` with the action's name; the action then
runs with the chain in state `running i`. An action that continues moves the
cursor to the next one; one that stops ends the chain, leaving the cursor on
it; one that fails ends it in state `failed`. A chain that ran out of actions,
or was stopped, is `completed`. Running a chain that is not pending does
nothing.

Entries are recorded only while tracing is on; actions see the settings of
their own rule first and of the endpoint second.
-/

namespace RestDispatch

set_option autoImplicit false

/-- A request on its way through the actions of an endpoint. -/
structure Chain where
  request : Request
  response : Response
  endpointName : String
  endpointRule : Rule
  actions : List Binding
  cursor : Nat
  state : ChainState
  trace : List TraceEntry
  tracing : Bool
  deriving Inhabited

namespace Chain

/-- A pending chain over an endpoint and the actions chosen for it. -/
def new (request : Request) (endpoint : Endpoint) (actions : List Binding) : Chain :=
  ⟨request, .empty, endpoint.name, endpoint.rule, actions, 0, .pending, [], true⟩

/-- Turn tracing on or off. -/
def withTrace (c : Chain) (enabled : Bool) : Chain :=
  { c with tracing := enabled }

/-- What the actions see of the chain. -/
def view (c : Chain) : ChainView :=
  ⟨c.request, c.response, c.endpointName, c.endpointRule,
    c.actions.map (fun b => (b.name, b.rule)), c.state, c.cursor, c.trace⟩

/-- Record entries, when tracing is on. -/
def record (c : Chain) (entries : List TraceEntry) : Chain :=
  if c.tracing then { c with trace := c.trace ++ entries } else c

/-- A setting as the chain sees it now. -/
def config? (c : Chain) (key : String) : Option String :=
  c.view.config? key

/-- A setting, or a default. -/
def configOr (c : Chain) (key fallback : String) : String :=
  c.view.configOr key fallback

/-- The name of the running action. -/
def actionName? (c : Chain) : Option String :=
  c.view.actionName?

/-- The first value recorded under a key. -/
def traceValue? (c : Chain) (key : String) : Option String :=
  (c.trace.find? (·.key == key)).map TraceEntry.value

/-- Run the given actions, the first at the cursor. -/
def runFrom : List Binding → Chain → Chain × Except DispatchError Unit
  | [], c => ({ c with state := .completed }, .ok ())
  | b :: rest, c =>
    let c := ({ c with state := .running c.cursor }).record [⟨"Action", b.name⟩]
    let effect := b.handler c.view
    let c := ({ c with response := effect.response }).record effect.records
    match effect.outcome with
    | .ok .continue => runFrom rest { c with cursor := c.cursor + 1 }
    | .ok .stop => ({ c with state := .completed }, .ok ())
    | .error e => ({ c with state := .failed }, .error (.actionFailed b.name e))

/-- Run a pending chain to its end. -/
def run (c : Chain) : Chain × Except DispatchError Unit :=
  if c.state = .pending then runFrom (c.actions.drop c.cursor) c else (c, .ok ())

end Chain

end RestDispatch
