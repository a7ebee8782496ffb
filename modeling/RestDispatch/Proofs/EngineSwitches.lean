import RestDispatch.Proofs.Service
import RestDispatch.Dispatch.Fixtures

/-!
# The engine's switches

An engine has two switches that only shape the report of a request: `debug`
decides whether chains record trace entries, and `errorBodies` whether a
failure's body is its envelope. Neither changes how a request is served, as
long as no action reads the trace:

* a chain run with tracing on and the same chain run with it off make the same
  steps, since the trace is the only thing they differ in and no action looks
  at it; with tracing off no entry is ever recorded;
* the body of a failure is written last, after its status was chosen.

So engines that differ only in `debug` give exchanges that differ only in their
traces, and engines that differ only in `errorBodies` give the same successes,
and failures that differ at most in their bodies. `engine_switches_independent`
states both.
-/

namespace RestDispatch

set_option autoImplicit false

/-- An action that does the same whatever trace it is shown. -/
def Binding.IgnoresTrace (b : Binding) : Prop :=
  ∀ (v : ChainView) (trace : List TraceEntry), b.handler { v with trace := trace } = b.handler v

/-- An Api whose actions, its own and its endpoints', all ignore the trace. -/
def Api.IgnoresTrace (api : Api) : Prop :=
  (∀ b ∈ api.actions, b.IgnoresTrace) ∧ ∀ e ∈ api.endpoints, ∀ b ∈ e.actions, b.IgnoresTrace

namespace Chain

/-- The chain without its trace and its tracing switch: all that an action
that ignores the trace can tell of it. -/
def untraced (c : Chain) : Chain :=
  { c with trace := [], tracing := false }

variable {c c' : Chain} {b : Binding}

@[simp] theorem untraced_request : c.untraced.request = c.request := rfl

@[simp] theorem untraced_response : c.untraced.response = c.response := rfl

@[simp] theorem untraced_actions : c.untraced.actions = c.actions := rfl

@[simp] theorem untraced_cursor : c.untraced.cursor = c.cursor := rfl

@[simp] theorem untraced_state : c.untraced.state = c.state := rfl

theorem untraced_record (entries : List TraceEntry) : (c.record entries).untraced = c.untraced := by
  unfold record
  split <;> rfl

theorem untraced_enter : (c.enter b).untraced = { c.untraced with state := .running c.cursor } := by
  rw [enter, untraced_record]
  rfl

theorem untraced_absorb (effect : Effect) :
    (c.absorb effect).untraced = { c.untraced with response := effect.response } := by
  rw [absorb, untraced_record]
  rfl

theorem view_of_untraced (alike : c.untraced = c'.untraced) :
    c.view = { c'.view with trace := c.trace } := by
  obtain ⟨request, response, endpointName, endpointRule, actions, cursor, state, trace, tracing⟩ := c
  obtain ⟨request', response', endpointName', endpointRule', actions', cursor', state', trace', tracing'⟩ := c'
  simp only [untraced, Chain.mk.injEq, and_true] at alike
  obtain ⟨rfl, rfl, rfl, rfl, rfl, rfl, rfl⟩ := alike
  rfl

theorem cursor_eq_of_untraced (alike : c.untraced = c'.untraced) : c.cursor = c'.cursor := by
  simpa using congrArg Chain.cursor alike

theorem enter_untraced (alike : c.untraced = c'.untraced) : (c.enter b).untraced = (c'.enter b).untraced := by
  rw [untraced_enter, untraced_enter, alike, cursor_eq_of_untraced alike]

theorem enter_absorb_untraced (alike : c.untraced = c'.untraced) (effect : Effect) :
    ((c.enter b).absorb effect).untraced = ((c'.enter b).absorb effect).untraced := by
  rw [untraced_absorb, untraced_absorb, enter_untraced alike]

theorem effectOf_of_untraced (ignores : b.IgnoresTrace) (alike : c.untraced = c'.untraced) :
    c.effectOf b = c'.effectOf b := by
  rw [effectOf, effectOf, view_of_untraced (enter_untraced alike), ignores]

theorem pass_untraced (ignores : b.IgnoresTrace) (alike : c.untraced = c'.untraced) :
    (c.pass b).untraced = (c'.pass b).untraced := by
  have absorbed : ((c.enter b).absorb (c.effectOf b)).untraced =
      ((c'.enter b).absorb (c'.effectOf b)).untraced := by
    rw [effectOf_of_untraced ignores alike]
    exact enter_absorb_untraced alike _
  simp only [pass, absorb_cursor, enter_cursor, cursor_eq_of_untraced alike]
  exact congrArg (fun u : Chain => { u with cursor := c'.cursor + 1 }) absorbed

theorem runFrom_untraced {actions : List Binding} (ignores : ∀ b ∈ actions, b.IgnoresTrace)
    (alike : c.untraced = c'.untraced) :
    (runFrom actions c).2 = (runFrom actions c').2 ∧
      (runFrom actions c).1.untraced = (runFrom actions c').1.untraced := by
  induction actions generalizing c c' with
  | nil => exact ⟨rfl, congrArg (fun u : Chain => { u with state := .completed }) alike⟩
  | cons b rest induction =>
      have ignoresHere : b.IgnoresTrace := ignores b (List.mem_cons_self ..)
      have sameEffect := effectOf_of_untraced ignoresHere alike
      have absorbed : ((c.enter b).absorb (c'.effectOf b)).untraced =
          ((c'.enter b).absorb (c'.effectOf b)).untraced := enter_absorb_untraced alike _
      rw [runFrom_cons, runFrom_cons, sameEffect]
      rcases (c'.effectOf b).outcome with failure | flow
      · exact ⟨rfl, congrArg (fun u : Chain => { u with state := .failed }) absorbed⟩
      · cases flow with
        | «continue» =>
            exact induction (fun b' member => ignores b' (List.mem_cons_of_mem b member))
              (pass_untraced ignoresHere alike)
        | stop => exact ⟨rfl, congrArg (fun u : Chain => { u with state := .completed }) absorbed⟩

/-- A chain whose actions ignore the trace runs the same with tracing on or off. -/
theorem run_untraced (ignores : ∀ b ∈ c.actions, b.IgnoresTrace) (alike : c.untraced = c'.untraced) :
    c.run.2 = c'.run.2 ∧ c.run.1.untraced = c'.run.1.untraced := by
  have sameState : c.state = c'.state := by simpa using congrArg Chain.state alike
  have sameActions : c.actions = c'.actions := by simpa using congrArg Chain.actions alike
  unfold run
  rw [← sameState, ← sameActions, ← cursor_eq_of_untraced alike]
  split
  · exact runFrom_untraced (fun b member => ignores b (List.mem_of_mem_drop member)) alike
  · exact ⟨rfl, alike⟩

theorem trace_enter_of_silent (silent : c.tracing = false) : (c.enter b).trace = c.trace := by
  simp [enter, record_trace, silent]

theorem trace_pass_of_silent (silent : c.tracing = false) : (c.pass b).trace = c.trace := by
  simp [pass, absorb, enter, record_trace, silent]

theorem trace_reach_of_silent (silent : c.tracing = false) (i : Nat) : (c.reach i).trace = c.trace := by
  unfold reach
  generalize c.actions.take i = done
  induction done generalizing c with
  | nil => rfl
  | cons b rest induction =>
      rw [List.foldl_cons, induction (by simpa using silent), trace_pass_of_silent silent]

theorem trace_runFrom_of_silent (actions : List Binding) (silent : c.tracing = false) :
    (runFrom actions c).1.trace = c.trace := by
  induction actions generalizing c with
  | nil => rfl
  | cons b rest induction =>
      rw [runFrom_cons]
      rcases (c.effectOf b).outcome with failure | flow
      · simp [absorb, enter, record_trace, silent]
      · cases flow with
        | «continue» =>
            rw [induction (by simpa using silent), trace_pass_of_silent silent]
        | stop => simp [absorb, enter, record_trace, silent]

theorem trace_of_silent (silent : c.tracing = false) :
    (∀ i b, ((c.reach i).enter b).trace = c.trace) ∧ c.run.1.trace = c.trace := by
  refine ⟨fun i b => ?_, ?_⟩
  · rw [trace_enter_of_silent (by simpa using silent), trace_reach_of_silent silent]
  · unfold run
    split
    · exact trace_runFrom_of_silent _ silent
    · rfl

end Chain

theorem Routes.mem_of_routed {method : Method} {relative : Path} {label : String}
    {endpoints : List Endpoint} {endpoint : Endpoint} {found : EndpointMatch}
    (rules : Routes method relative label endpoints (.ok (endpoint, found))) : endpoint ∈ endpoints := by
  generalize answer : (Except.ok (endpoint, found) : Except DispatchError (Endpoint × EndpointMatch)) = outcome
    at rules
  cases rules with
  | routed passed later chosen match_ =>
      simp only [Except.ok.injEq, Prod.mk.injEq] at answer
      rw [answer.1]
      exact List.mem_append_right _ (List.mem_cons_self ..)
  | refused => cases answer
  | declined => cases answer

theorem mem_selectActions {api : Api} {endpoint : Endpoint} {method : Method} {subpath : Path}
    {b : Binding} (selected : b ∈ selectActions api endpoint method subpath) :
    b ∈ api.actions ∨ b ∈ endpoint.actions := by
  simp only [selectActions, List.mem_mergeSort, List.mem_filter] at selected
  split at selected
  · exact .inl selected.1
  · exact .inr selected.1

theorem Resolver.resolve_bindings {r : Resolver} {method : Method} {path : Path} {res : Resolution}
    (resolved : r.resolve method path = .ok res) :
    ∃ api ∈ r.apis, ∃ e ∈ api.endpoints, ∀ b ∈ res.actions, b ∈ api.actions ∨ b ∈ e.actions := by
  have rules := Resolves.of_resolve resolved
  generalize answer : (Except.ok res : Except DispatchError Resolution) = outcome at rules
  cases rules with
  | unmapped => cases answer
  | unclaimed => cases answer
  | chosen before later api outcome read listed passed claimed routes =>
      cases outcome with
      | error failure => cases answer
      | ok chosen =>
          obtain ⟨endpoint, found⟩ := chosen
          simp only [Except.map, Except.ok.injEq] at answer
          subst answer
          refine ⟨api, by simp [listed], endpoint, routes.mem_of_routed, fun b member => ?_⟩
          exact mem_selectActions member

theorem Engine.build_apis (apis : List Api) (servletMapping : Option String) (debug errorBodies : Bool) :
    (Engine.build apis servletMapping debug errorBodies).resolver.apis = apis := by
  cases servletMapping <;> rfl

/-- Two exchanges that differ at most in their traces. -/
structure Exchange.AgreeButTrace (x y : Exchange) : Prop where
  request : x.request = y.request
  response : x.response = y.response
  error : x.error = y.error

/-- Two exchanges that differ at most in the bodies of their responses. -/
structure Exchange.AgreeButBody (x y : Exchange) : Prop where
  request : x.request = y.request
  explicitStatus : x.response.explicitStatus = y.response.explicitStatus
  headers : x.response.headers = y.response.headers
  trace : x.trace = y.trace
  error : x.error = y.error

namespace Engine

variable (g : Engine) (id : RequestId) (method : Method) (url : String)

theorem fail_agreeButBody (request : Option Request) (r : Response) (trace : List TraceEntry)
    (e : DispatchError) (bodies bodies' : Bool) :
    Exchange.AgreeButBody ({ g with errorBodies := bodies }.fail request r trace e)
      ({ g with errorBodies := bodies' }.fail request r trace e) := by
  constructor <;> cases bodies <;> cases bodies' <;> rfl

theorem serve_errorBodies (bodies bodies' : Bool) :
    let x := ({ g with errorBodies := bodies }.serve id method url).1
    let y := ({ g with errorBodies := bodies' }.serve id method url).1
    (x.error = none → x = y) ∧ Exchange.AgreeButBody x y := by
  intro x y
  unfold x y serve
  cases read : readRequest id method url with
  | error e => exact ⟨fun succeeded => by simp [fail] at succeeded, fail_agreeButBody ..⟩
  | ok request =>
      simp only [serveRequest]
      cases resolved : g.resolver.resolve request.method request.path with
      | error e => exact ⟨fun succeeded => by simp [fail] at succeeded, fail_agreeButBody ..⟩
      | ok res =>
          simp only
          cases ran : ((res.intoChain request).withTrace g.debug).run.2 with
          | error e => exact ⟨fun succeeded => by simp [fail] at succeeded, fail_agreeButBody ..⟩
          | ok u => exact ⟨fun _ => rfl, ⟨rfl, rfl, rfl, rfl, rfl⟩⟩

theorem serve_debug (ignores : ∀ api ∈ g.resolver.apis, api.IgnoresTrace) (debug debug' : Bool) :
    Exchange.AgreeButTrace ({ g with debug := debug }.serve id method url).1
      ({ g with debug := debug' }.serve id method url).1 := by
  unfold serve
  cases read : readRequest id method url with
  | error e => exact ⟨rfl, rfl, rfl⟩
  | ok request =>
      simp only [serveRequest]
      cases resolved : g.resolver.resolve request.method request.path with
      | error e => exact ⟨rfl, rfl, rfl⟩
      | ok res =>
          obtain ⟨api, listed, e, endpoint, bound⟩ := Resolver.resolve_bindings resolved
          have actionsIgnore : ∀ b ∈ ((res.intoChain request).withTrace debug).actions, b.IgnoresTrace := by
            intro b member
            rcases bound b member with own | endpoints
            · exact (ignores api listed).1 b own
            · exact (ignores api listed).2 e endpoint b endpoints
          have alike : ((res.intoChain request).withTrace debug).untraced =
              ((res.intoChain request).withTrace debug').untraced := rfl
          obtain ⟨sameOutcome, sameChain⟩ := Chain.run_untraced actionsIgnore alike
          have sameRequest := congrArg Chain.request sameChain
          have sameResponse := congrArg Chain.response sameChain
          simp only [Chain.untraced_request, Chain.untraced_response] at sameRequest sameResponse
          simp only
          rcases ran : ((res.intoChain request).withTrace debug).run with ⟨chain, result⟩
          rcases ran' : ((res.intoChain request).withTrace debug').run with ⟨chain', result'⟩
          rw [ran, ran'] at sameOutcome sameRequest sameResponse
          simp only at sameOutcome sameRequest sameResponse
          subst sameOutcome
          cases result with
          | error failure => exact ⟨by simp [fail, sameRequest], by simp [fail, sameRequest, sameResponse], rfl⟩
          | ok u => exact ⟨by simp [sameRequest], by simp [sameResponse], rfl⟩

/-- An engine with `debug` off reports every exchange with an empty trace. -/
theorem serve_trace_of_silent (silent : g.debug = false) : (g.serve id method url).1.trace = [] := by
  unfold serve
  cases read : readRequest id method url with
  | error e => rfl
  | ok request =>
      simp only [serveRequest]
      cases resolved : g.resolver.resolve request.method request.path with
      | error e => rfl
      | ok res =>
          have quiet : ((res.intoChain request).withTrace g.debug).tracing = false := silent
          have kept := (Chain.trace_of_silent quiet).2
          simp only
          rcases ran : ((res.intoChain request).withTrace g.debug).run with ⟨chain, result⟩
          rw [ran] at kept
          cases result with
          | error failure => exact kept
          | ok u => exact kept

theorem build_withDebug (apis : List Api) (servletMapping : Option String) (debug debug' errorBodies : Bool) :
    { Engine.build apis servletMapping debug errorBodies with debug := debug' } =
      Engine.build apis servletMapping debug' errorBodies := by
  cases servletMapping <;> rfl

theorem build_withErrorBodies (apis : List Api) (servletMapping : Option String)
    (debug errorBodies errorBodies' : Bool) :
    { Engine.build apis servletMapping debug errorBodies with errorBodies := errorBodies' } =
      Engine.build apis servletMapping debug errorBodies' := by
  cases servletMapping <;> rfl

end Engine

/-- Neither switch of an engine changes how it serves a request when no action
reads the trace: with `debug` on or off the exchanges differ only in their
traces, and with it off the trace stays empty throughout every run; with error
bodies on or off a success is the same and a failure differs at most in its
body. -/
theorem engine_switches_independent (apis : List Api) (servletMapping : Option String)
    (ignoring : ∀ api ∈ apis, api.IgnoresTrace) (id : RequestId) (method : Method) (url : String)
    (debug errorBodies : Bool) :
    let served (debug errorBodies : Bool) :=
      ((Engine.build apis servletMapping debug errorBodies).serve id method url).1
    Exchange.AgreeButTrace (served true errorBodies) (served false errorBodies) ∧
      (served false errorBodies).trace = [] ∧
      (∀ (request : Request) (res : Resolution),
        (Engine.build apis servletMapping false errorBodies).resolver.resolve request.method request.path =
          .ok res →
        (∀ i b, ((((res.intoChain request).withTrace false).reach i).enter b).trace = []) ∧
          ((res.intoChain request).withTrace false).run.1.trace = []) ∧
      ((served debug true).error = none → served debug true = served debug false) ∧
      Exchange.AgreeButBody (served debug true) (served debug false) := by
  intro served
  have ignores : ∀ api ∈ (Engine.build apis servletMapping debug errorBodies).resolver.apis,
      api.IgnoresTrace := by
    rw [Engine.build_apis]
    exact ignoring
  have traced := Engine.serve_debug _ id method url ignores true false
  have bodies := Engine.serve_errorBodies (Engine.build apis servletMapping debug errorBodies) id method url
    true false
  rw [Engine.build_withDebug, Engine.build_withDebug] at traced
  rw [Engine.build_withErrorBodies, Engine.build_withErrorBodies] at bodies
  refine ⟨traced, Engine.serve_trace_of_silent _ id method url rfl, fun request res _ => ?_, bodies⟩
  -- a fresh chain starts with an empty trace, and with tracing off it keeps it
  have quiet : ((res.intoChain request).withTrace false).tracing = false := rfl
  exact Chain.trace_of_silent quiet

theorem mock_ignoresTrace (name : String) : (mock name).IgnoresTrace :=
  fun _ _ => rfl

theorem northwindApi_ignoresTrace : northwindApi.IgnoresTrace := by
  constructor
  · intro b member
    simp [northwindApi, Api.withEndpoint, Api.new] at member
  · intro e member b bound
    simp only [northwindApi, List.foldl_cons, List.foldl_nil, Api.withEndpoint, Api.new,
      List.nil_append, List.cons_append, List.mem_cons, List.not_mem_nil, or_false] at member
    rcases member with rfl | rfl | rfl | rfl <;>
      simp only [Endpoint.withAction, Endpoint.withPath, Endpoint.new, List.nil_append,
        List.mem_singleton] at bound <;>
      exact bound ▸ mock_ignoresTrace _

/-- The sample Api `northwind`, served at one of its backends. -/
theorem engine_switches_independent_northwind :
    let served (debug errorBodies : Bool) :=
      ((Engine.build [northwindApi] none debug errorBodies).serve ⟨"0"⟩ Method.get
        "/northwind/mysql/orders/10248").1
    (∀ api ∈ [northwindApi], api.IgnoresTrace) ∧
      Exchange.AgreeButTrace (served true true) (served false true) ∧
      (served false true).trace = [] ∧
      (∀ (request : Request) (res : Resolution),
        (Engine.build [northwindApi] none false true).resolver.resolve request.method request.path =
          .ok res →
        (∀ i b, ((((res.intoChain request).withTrace false).reach i).enter b).trace = []) ∧
          ((res.intoChain request).withTrace false).run.1.trace = []) ∧
      ((served true true).error = none → served true true = served true false) ∧
      Exchange.AgreeButBody (served true true) (served true false) := by
  intro served
  have ignoring : ∀ api ∈ [northwindApi], api.IgnoresTrace := by
    intro api member
    rw [List.mem_singleton] at member
    exact member ▸ northwindApi_ignoresTrace
  exact ⟨ignoring, engine_switches_independent [northwindApi] none ignoring ⟨"0"⟩ Method.get
    "/northwind/mysql/orders/10248" true true⟩

end RestDispatch
