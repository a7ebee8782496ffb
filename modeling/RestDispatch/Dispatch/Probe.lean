import RestDispatch.Dispatch.Fixtures

/-!
# Probing actions

A probing action wraps a mock action for tests. Before the mock runs, its
probes record what the action sees: settings, the chain's state, the route of
the request, captured variables, and the chain itself. After a mock that did
not fail, it sets and adds response headers, may take the body out (recording
it under `took`), and may then fail with an error of its own.

Absent values are recorded as the text `null`.
-/

namespace RestDispatch

set_option autoImplicit false

/-- One kind of probe. -/
inductive Probe where
  /-- Each setting under `cfg:<key>`. -/
  | config (keys : List String)
  /-- Each setting or its default under `cfg_or:<key>`. -/
  | configOr (pairs : List (String × String))
  /-- The state, the running action's name and the cursor. -/
  | state
  /-- The keys and paths of the request's route, and its tenant. -/
  | route
  /-- Each captured variable under `param:<name>`. -/
  | params (names : List String)
  /-- The endpoint, the actions, the response and the request. -/
  | chain

/-- A text, or `null`. -/
def orNull (s : Option String) : String :=
  s.getD "null"

/-- The entries a probe records. -/
def Probe.entries (v : ChainView) : Probe → List TraceEntry
  | .config keys => keys.map fun k => ⟨"cfg:" ++ k, orNull (v.config? k)⟩
  | .configOr pairs => pairs.map fun (k, d) => ⟨"cfg_or:" ++ k, v.configOr k d⟩
  | .state =>
    [⟨"state", v.state.render⟩, ⟨"action_name", orNull v.actionName?⟩, ⟨"cursor", toString v.cursor⟩]
  | .route =>
    let r := v.request.route
    [⟨"collection_key", orNull (r.bind Route.collectionKey?)⟩,
     ⟨"entity_key", orNull (r.bind Route.entityKey?)⟩,
     ⟨"subcollection_key", orNull (r.bind Route.subcollectionKey?)⟩,
     ⟨"tenant", orNull (r.bind Route.tenant)⟩,
     ⟨"api_path", orNull (r.map (·.apiPath.render))⟩,
     ⟨"endpoint_path", orNull (r.map (·.endpointPath.render))⟩,
     ⟨"subpath", orNull (r.map (·.subpath.render))⟩]
  | .params names => names.map fun n => ⟨"param:" ++ n, orNull (v.request.param? n)⟩
  | .chain =>
    let status := toString v.response.status ++ (if v.response.hasExplicitStatus then "!" else "")
    [⟨"endpoint", v.endpointName⟩,
     ⟨"actions", ",".intercalate (v.actions.map Prod.fst)⟩,
     ⟨"response_status", status⟩,
     ⟨"response_body", orNull (v.response.body.map Json.Value.compact)⟩,
     ⟨"query", "&".intercalate (v.request.query.entries.map fun (k, x) => k ++ "=" ++ x)⟩,
     ⟨"method", v.request.method.name⟩,
     ⟨"request_headers", toString v.request.headers.count⟩,
     ⟨"request_body", orNull v.request.body⟩]

/-- A mock action with probes before it and steps after it. -/
structure ProbingAction where
  probes : List Probe
  mock : MockAction
  inserts : List (String × String)
  appends : List (String × String)
  takeBody : Bool
  /-- An error to fail with once the mock and the steps after it ran. -/
  failure : Option ActionError

namespace ProbingAction

/-- A probing action around a mock, with nothing else to do. -/
def ofMock (m : MockAction) : ProbingAction := ⟨[], m, [], [], false, none⟩

/-- Run the probes, the mock, and the steps after it. -/
def run (p : ProbingAction) (v : ChainView) : Effect :=
  let probed := p.probes.flatMap (Probe.entries v)
  let mocked := p.mock.run v
  match mocked.outcome with
  | .error e => ⟨mocked.response, probed ++ mocked.records, .error e⟩
  | .ok flow =>
    let r := p.inserts.foldl (fun r (n, x) => r.insertHeader n x) mocked.response
    let r := p.appends.foldl (fun r (n, x) => r.appendHeader n x) r
    let (r, took) :=
      if p.takeBody then
        let (body, r) := r.takeBody
        (r, [⟨"took", orNull (body.map Json.Value.compact)⟩])
      else (r, [])
    let outcome := match p.failure with
      | some e => .error e
      | none => .ok flow
    ⟨r, probed ++ mocked.records ++ took, outcome⟩

/-- The handler of a probing action. -/
def handler (p : ProbingAction) : Handler := p.run

end ProbingAction

end RestDispatch
