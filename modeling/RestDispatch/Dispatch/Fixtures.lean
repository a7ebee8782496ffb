import RestDispatch.Dispatch.Resolve

/-!
# Ready-made actions and Apis

`MockAction` is an action that records its label under `MockAction`, may set
a status and a body, and then continues, stops or fails as it was told. The
sample Apis built from it:

* `northwindApi`: the Api `northwind` with one endpoint per backend (`source`,
  `h2`, `mysql`, `dynamo`), each at `<backend>/*` and running the mock
  `<backend>Action`;
* `versionedApis`: three versions `v1` to `v3` of the Api `test`, each with the
  mock `mock1` on every path, an endpoint `ep(2n-1)` that excludes `subpath/*`
  and an endpoint `ep(2n)` at `subpath/*`.
-/

namespace RestDispatch

set_option autoImplicit false

/-- The trace key under which a mock action records its label. -/
def mockTraceKey : String := "MockAction"

/-- How a mock action ends. -/
inductive MockOutcome where
  | continue
  | stop
  | fail (message : String)
  deriving Repr, DecidableEq

/-- An action for tests and samples. -/
structure MockAction where
  label : String
  outcome : MockOutcome
  status : Option Nat
  body : Option Json.Value

namespace MockAction

/-- A mock that continues. -/
def new (label : String) : MockAction := ⟨label, .continue, none, none⟩

/-- Make the mock stop the chain. -/
def stopping (m : MockAction) : MockAction := { m with outcome := .stop }

/-- Make the mock fail with a message. -/
def failing (m : MockAction) (message : String) : MockAction := { m with outcome := .fail message }

/-- Make the mock set a status. -/
def withStatus (m : MockAction) (status : Nat) : MockAction := { m with status := some status }

/-- Make the mock set a body. -/
def withBody (m : MockAction) (body : Json.Value) : MockAction := { m with body := some body }

/-- What the mock does to a response. -/
def apply (m : MockAction) (r : Response) : Response :=
  let r := match m.status with
    | some s => r.setStatus s
    | none => r
  match m.body with
  | some b => r.setBody b
  | none => r

/-- How the mock ends. -/
def result (m : MockAction) : Except ActionError Flow :=
  match m.outcome with
  | .continue => .ok .continue
  | .stop => .ok .stop
  | .fail message => .error (.ofMessage message)

/-- Run the mock. -/
def run (m : MockAction) (v : ChainView) : Effect :=
  ⟨m.apply v.response, [⟨mockTraceKey, m.label⟩], m.result⟩

end MockAction

/-- A binding of a mock labelled with its name. -/
def mock (name : String) : Binding :=
  Binding.new name (MockAction.new name).run

/-- The sample Api with one endpoint per backend. -/
def northwindApi : Api :=
  ["source", "h2", "mysql", "dynamo"].foldl
    (fun api backend =>
      api.withEndpoint ((Endpoint.new backend).withPath (backend ++ "/*") |>.withAction (mock (backend ++ "Action"))))
    (Api.new "northwind")

/-- Three versions of a sample Api. -/
def versionedApis : List Api :=
  [1, 2, 3].map fun (n : Nat) =>
    (Api.new "test").withVersion s!"v{n}"
      |>.withAction ((mock "mock1").mapRule (·.withIncludePaths "*"))
      |>.withEndpoint ((Endpoint.new s!"ep{2 * n - 1}").mapRule (·.withExcludePaths "subpath/*"))
      |>.withEndpoint ((Endpoint.new s!"ep{2 * n}").withPath "subpath/*")

end RestDispatch
