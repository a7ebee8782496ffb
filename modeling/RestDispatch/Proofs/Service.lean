import RestDispatch.Service.Engine
import RestDispatch.Proofs.ChainRun
import RestDispatch.Proofs.Resolution

/-!
# Serving a request

Serving a method and a URL has three stages that can fail: reading the URL,
resolving the request, and running its chain. All failures go through
`Engine.fail`, whose status reads both the failure and the response built so
far. This module first says what each stage can produce, then states the
four ways serving ends as the relation `Serves` and derives from it the rules
every exchange follows: when it succeeds, whether it carries a request and a
route, its status, and its body.
-/

namespace RestDispatch

set_option autoImplicit false

namespace Engine

variable {id : RequestId} {method : Method} {url : String}

theorem readRequest_unrouted {request : Request}
    (read : readRequest id method url = .ok request) : request.route = none := by
  unfold readRequest at read
  split at read
  · rename_i parsed
    simp only [Except.ok.injEq] at read
    subst read
    unfold Request.parse at parsed
    generalize splitAtFirst '?' (splitAtFirst '#' url.toList).1 = parts at parsed
    obtain ⟨target, query⟩ := parts
    simp only at parsed
    split at parsed
    · simp at parsed
    · simp only [Except.ok.injEq] at parsed
      subst parsed
      rfl
  · simp at read

theorem readRequest_error {e : DispatchError} (read : readRequest id method url = .error e) :
    e.isRoutingFailure = true := by
  unfold readRequest at read
  split at read
  · simp at read
  · simp only [Except.error.injEq] at read
    subst read
    rfl

end Engine

theorem Routes.routing_of_error {method : Method} {relative : Path} {label : String}
    {endpoints : List Endpoint} {e : DispatchError}
    (rules : Routes method relative label endpoints (.error e)) : e.isRoutingFailure = true := by
  generalize answer : (Except.error e : Except DispatchError (Endpoint × EndpointMatch)) = outcome
    at rules
  cases rules with
  | routed => cases answer
  | refused =>
      simp only [Except.error.injEq] at answer
      subst answer
      rfl
  | declined =>
      simp only [Except.error.injEq] at answer
      subst answer
      rfl

theorem Resolver.resolve_error {r : Resolver} {method : Method} {path : Path} {e : DispatchError}
    (failed : r.resolve method path = .error e) : e.isRoutingFailure = true := by
  have rules := Resolves.of_resolve failed
  generalize answer : (Except.error e : Except DispatchError Resolution) = outcome at rules
  cases rules with
  | unmapped =>
      simp only [Except.error.injEq] at answer
      subst answer
      rfl
  | unclaimed =>
      simp only [Except.error.injEq] at answer
      subst answer
      rfl
  | chosen before later api outcome read listed passed claimed routes =>
      cases outcome with
      | ok chosen => cases answer
      | error failure =>
          simp only [Except.map, Except.error.injEq] at answer
          subst answer
          exact routes.routing_of_error

namespace Chain

theorem runFrom_request (actions : List Binding) (c : Chain) :
    (runFrom actions c).1.request = c.request := by
  induction actions generalizing c with
  | nil => rfl
  | cons b rest induction =>
      rw [runFrom_cons]
      rcases (c.effectOf b).outcome with failure | flow
      · simp
      · cases flow with
        | «continue» => simp [induction]
        | stop => simp

theorem run_request (c : Chain) : c.run.1.request = c.request := by
  unfold run
  split
  · exact runFrom_request _ c
  · rfl

theorem runFrom_error {actions : List Binding} {c : Chain} {e : DispatchError}
    (failed : (runFrom actions c).2 = .error e) : ∃ action cause, e = .actionFailed action cause := by
  induction actions generalizing c with
  | nil => simp [runFrom] at failed
  | cons b rest induction =>
      rw [runFrom_cons] at failed
      rcases outcome : (c.effectOf b).outcome with failure | flow
      · rw [outcome] at failed
        simp only [Except.error.injEq] at failed
        exact ⟨b.name, failure, failed.symm⟩
      · cases flow with
        | «continue» =>
            rw [outcome] at failed
            exact induction failed
        | stop =>
            rw [outcome] at failed
            simp at failed

theorem run_error {c : Chain} {e : DispatchError} (failed : c.run.2 = .error e) :
    ∃ action cause, e = .actionFailed action cause := by
  unfold run at failed
  split at failed
  · exact runFrom_error failed
  · simp at failed

end Chain

theorem failureStatus_of_routing {e : DispatchError} (routing : e.isRoutingFailure = true)
    (r : Response) : failureStatus e r = e.status := by
  cases e <;> simp_all [failureStatus, DispatchError.isRoutingFailure]

namespace Engine

section Fail

variable (g : Engine) (request : Option Request) (r : Response) (trace : List TraceEntry)
  (e : DispatchError)

@[simp] theorem fail_error : (g.fail request r trace e).error = some e := rfl

@[simp] theorem fail_request : (g.fail request r trace e).request = request := rfl

theorem fail_status : (g.fail request r trace e).status = failureStatus e r := by
  unfold fail Exchange.status
  split <;> rfl

theorem fail_body :
    (g.fail request r trace e).response.body =
      if g.errorBodies then some (e.envelope (request.map Request.id)) else r.body := by
  unfold fail
  split <;> rfl

end Fail

theorem intoChain_request (res : Resolution) {request : Request} (fresh : request.route = none)
    (tracing : Bool) :
    ((res.intoChain request).withTrace tracing).request = { request with route := some res.route } := by
  simp [Resolution.intoChain, Chain.withTrace, Chain.new, Request.setRoute, fresh]

/-- The request a chain ends with is the one read, routed to its resolution. -/
theorem run_request_of_read {id : RequestId} {method : Method} {url : String} {request : Request}
    (read : readRequest id method url = .ok request) (res : Resolution) (tracing : Bool) :
    ((res.intoChain request).withTrace tracing).run.1.request = { request with route := some res.route } := by
  rw [Chain.run_request, intoChain_request res (readRequest_unrouted read)]

end Engine

/-- How an exchange comes out of serving a method and a URL: the URL is not
read, the request does not resolve, or its chain runs and completes or fails.
The first two are failures to route; the last is an action's failure. -/
inductive Serves (g : Engine) (id : RequestId) (method : Method) (url : String) : Exchange → Prop
  | unread (e : DispatchError) (read : Engine.readRequest id method url = .error e)
      (routing : e.isRoutingFailure = true) :
      Serves g id method url (g.fail none .empty [] e)
  | unresolved (request : Request) (e : DispatchError)
      (read : Engine.readRequest id method url = .ok request)
      (resolved : g.resolver.resolve request.method request.path = .error e)
      (routing : e.isRoutingFailure = true) :
      Serves g id method url (g.fail (some request) .empty [] e)
  | completed (request : Request) (res : Resolution) (chain : Chain)
      (read : Engine.readRequest id method url = .ok request)
      (resolved : g.resolver.resolve request.method request.path = .ok res)
      (ran : ((res.intoChain request).withTrace g.debug).run = (chain, .ok ()))
      (routed : chain.request.route = some res.route) :
      Serves g id method url ⟨some chain.request, chain.response, chain.trace, none⟩
  | actionFailed (request : Request) (res : Resolution) (chain : Chain) (action : String)
      (cause : ActionError) (read : Engine.readRequest id method url = .ok request)
      (resolved : g.resolver.resolve request.method request.path = .ok res)
      (ran : ((res.intoChain request).withTrace g.debug).run = (chain, .error (.actionFailed action cause)))
      (routed : chain.request.route = some res.route) :
      Serves g id method url (g.fail (some chain.request) chain.response chain.trace (.actionFailed action cause))

theorem Engine.serves (g : Engine) (id : RequestId) (method : Method) (url : String) :
    Serves g id method url (g.serve id method url).1 := by
  rcases read : readRequest id method url with e | request
  · simpa [serve, read] using Serves.unread e read (readRequest_error read)
  · rcases resolved : g.resolver.resolve request.method request.path with e | res
    · simpa [serve, serveRequest, read, resolved] using
        Serves.unresolved request e read resolved (Resolver.resolve_error resolved)
    · rcases ran : ((res.intoChain request).withTrace g.debug).run with ⟨chain, outcome⟩
      -- the chain keeps the request it was given, routed when it was built
      have routed : chain.request.route = some res.route := by
        have kept : chain.request = { request with route := some res.route } := by
          simpa [ran] using run_request_of_read read res g.debug
        simp [kept]
      rcases outcome with e | _
      · obtain ⟨action, cause, rfl⟩ := Chain.run_error (congrArg Prod.snd ran)
        simpa [serve, serveRequest, read, resolved, ran] using
          Serves.actionFailed request res chain action cause read resolved ran routed
      · simpa [serve, serveRequest, read, resolved, ran] using
          Serves.completed request res chain read resolved ran routed

namespace Serves

variable {g : Engine} {id : RequestId} {method : Method} {url : String} {x : Exchange}

theorem error_eq_none_iff (served : Serves g id method url x) :
    x.error = none ↔
      ∃ request res, Engine.readRequest id method url = .ok request ∧
        g.resolver.resolve request.method request.path = .ok res ∧
        ((res.intoChain request).withTrace g.debug).run.2 = .ok () := by
  cases served with
  | unread e read => simp [read]
  | unresolved request e read resolved => simp [read, resolved]
  | completed request res chain read resolved ran =>
      exact iff_of_true rfl ⟨request, res, read, resolved, by rw [ran]⟩
  | actionFailed request res chain action cause read resolved ran => simp [read, resolved, ran]

theorem request_eq_none_iff (served : Serves g id method url x) :
    x.request = none ↔ ∃ e, Engine.readRequest id method url = .error e := by
  cases served with
  | unread e read => simp [read]
  | unresolved request e read => simp [read]
  | completed request res chain read => simp [read]
  | actionFailed request res chain action cause read => simp [read]

theorem routed_iff (served : Serves g id method url x) {request : Request}
    (read : Engine.readRequest id method url = .ok request) :
    ((x.request.bind Request.route).isSome = true ↔
      ∃ res, g.resolver.resolve request.method request.path = .ok res) := by
  cases served with
  | unread e read' => simp [read] at read'
  | unresolved request' e read' resolved =>
      obtain rfl : request = request' := by simpa [read] using read'
      simp [Engine.readRequest_unrouted read, resolved]
  | completed request' res chain read' resolved ran routed =>
      obtain rfl : request = request' := by simpa [read] using read'
      simp [routed, resolved]
  | actionFailed request' res chain action cause read' resolved ran routed =>
      obtain rfl : request = request' := by simpa [read] using read'
      simp [routed, resolved]

theorem status_of_routing (served : Serves g id method url x) {e : DispatchError}
    (failed : x.error = some e) (routing : e.isRoutingFailure = true) : x.status = e.status := by
  cases served with
  | completed => simp at failed
  | unread | unresolved | actionFailed =>
      simp only [Engine.fail_error, Option.some.injEq] at failed
      subst failed
      rw [Engine.fail_status, failureStatus_of_routing routing]

theorem status_of_action_failed (served : Serves g id method url x) {action : String}
    {cause : ActionError} (failed : x.error = some (.actionFailed action cause)) :
    ∃ request res chain, Engine.readRequest id method url = .ok request ∧
      g.resolver.resolve request.method request.path = .ok res ∧
      ((res.intoChain request).withTrace g.debug).run = (chain, .error (.actionFailed action cause)) ∧
      x.status = cause.status.getD (chain.response.explicitStatus.getD 500) ∧
      (g.errorBodies = false → x.response.body = chain.response.body) := by
  cases served with
  | unread _ _ routing | unresolved _ _ _ _ routing =>
      simp only [Engine.fail_error, Option.some.injEq] at failed
      subst failed
      simp [DispatchError.isRoutingFailure] at routing
  | completed => simp at failed
  | actionFailed request res chain action' cause' read resolved ran =>
      simp only [Engine.fail_error, Option.some.injEq] at failed
      obtain ⟨rfl, rfl⟩ := failed
      refine ⟨request, res, chain, read, resolved, ran, ?_, ?_⟩
      · rw [Engine.fail_status]
        cases chosen : cause.status <;> cases explicit : chain.response.explicitStatus <;>
          simp [failureStatus, Response.hasExplicitStatus, Response.status, chosen, explicit]
      · intro plain
        simp [Engine.fail_body, plain]

theorem response_of_success (served : Serves g id method url x) (succeeded : x.error = none) :
    ∃ request res chain, Engine.readRequest id method url = .ok request ∧
      g.resolver.resolve request.method request.path = .ok res ∧
      ((res.intoChain request).withTrace g.debug).run = (chain, .ok ()) ∧
      x.response = chain.response ∧ x.status = chain.response.explicitStatus.getD 200 := by
  cases served with
  | unread | unresolved | actionFailed => simp at succeeded
  | completed request res chain read resolved ran =>
      exact ⟨request, res, chain, read, resolved, ran, rfl, rfl⟩

theorem body_of_error (served : Serves g id method url x) {e : DispatchError}
    (failed : x.error = some e) (bodies : g.errorBodies = true) :
    x.response.body = some (e.envelope (x.request.map Request.id)) := by
  cases served with
  | completed => simp at failed
  | unread | unresolved | actionFailed =>
      simp only [Engine.fail_error, Option.some.injEq] at failed
      subst failed
      simp [Engine.fail_body, bodies]

theorem body_of_routing (served : Serves g id method url x) {e : DispatchError}
    (failed : x.error = some e) (routing : e.isRoutingFailure = true) (plain : g.errorBodies = false) :
    x.response.body = none := by
  cases served with
  | unread | unresolved => simp [Engine.fail_body, plain, Response.empty]
  | completed => simp at failed
  | actionFailed =>
      simp only [Engine.fail_error, Option.some.injEq] at failed
      subst failed
      simp [DispatchError.isRoutingFailure] at routing

end Serves

/-- The rules an exchange served for a method and URL follows. -/
structure ServedByRules (g : Engine) (id : RequestId) (method : Method) (url : String)
    (x : Exchange) : Prop where
  /-- It succeeds exactly when the URL is read, the request resolves and its
  chain runs to the end. -/
  succeeded : x.error = none ↔ ∃ request res, Engine.readRequest id method url = .ok request ∧
    g.resolver.resolve request.method request.path = .ok res ∧
    ((res.intoChain request).withTrace g.debug).run.2 = .ok ()
  success : x.isSuccess = true ↔ x.error = none
  /-- It carries a request exactly when the URL was read, and that request is
  routed exactly when it resolved. -/
  unread : x.request = none ↔ ∃ e, Engine.readRequest id method url = .error e
  routed : ∀ request, Engine.readRequest id method url = .ok request →
    ((x.request.bind Request.route).isSome = true ↔
      ∃ res, g.resolver.resolve request.method request.path = .ok res)
  invalidUrl : ∀ text cause, x.error = some (.invalidUrl text cause) → x.status = 400
  noApi : ∀ path, x.error = some (.noApiMatch path) → x.status = 400
  refused : ∀ endpoint v, x.error = some (.constraintViolation endpoint v) → x.status = 400
  noEndpoint : ∀ api m path, x.error = some (.noEndpointMatch api m path) → x.status = 404
  /-- A failed action gives its own status, else the status an action set on
  the response, else 500; without error bodies the body stays as the actions
  left it. -/
  actionFailed : ∀ action cause, x.error = some (.actionFailed action cause) →
    ∃ request res chain, Engine.readRequest id method url = .ok request ∧
      g.resolver.resolve request.method request.path = .ok res ∧
      ((res.intoChain request).withTrace g.debug).run = (chain, .error (.actionFailed action cause)) ∧
      x.status = cause.status.getD (chain.response.explicitStatus.getD 500) ∧
      (g.errorBodies = false → x.response.body = chain.response.body)
  /-- A success answers with the response the actions left, 200 unless an
  action set a status. -/
  served : x.error = none →
    ∃ request res chain, Engine.readRequest id method url = .ok request ∧
      g.resolver.resolve request.method request.path = .ok res ∧
      ((res.intoChain request).withTrace g.debug).run = (chain, .ok ()) ∧
      x.response = chain.response ∧ x.status = chain.response.explicitStatus.getD 200
  /-- With error bodies, a failure's body is its envelope, with the request's
  identifier when there is a request. -/
  errorBody : ∀ e, x.error = some e → g.errorBodies = true →
    x.response.body = some (e.envelope (x.request.map Request.id))
  /-- Without error bodies, a failure to route has no body. -/
  routingBody : ∀ e, x.error = some e → e.isRoutingFailure = true → g.errorBodies = false →
    x.response.body = none

theorem Serves.follows_rules {g : Engine} {id : RequestId} {method : Method} {url : String}
    {x : Exchange} (served : Serves g id method url x) : ServedByRules g id method url x where
  succeeded := served.error_eq_none_iff
  success := by simp [Exchange.isSuccess]
  unread := served.request_eq_none_iff
  routed _ read := served.routed_iff read
  invalidUrl _ _ failed := served.status_of_routing failed rfl
  noApi _ failed := served.status_of_routing failed rfl
  refused _ _ failed := served.status_of_routing failed rfl
  noEndpoint _ _ _ failed := served.status_of_routing failed rfl
  actionFailed _ _ failed := served.status_of_action_failed failed
  served := served.response_of_success
  errorBody _ failed bodies := served.body_of_error failed bodies
  routingBody _ failed routing plain := served.body_of_routing failed routing plain

/-- Every exchange the engine serves follows the rules. -/
theorem serve_follows_rules (g : Engine) (id : RequestId) (method : Method) (url : String) :
    ServedByRules g id method url (g.serve id method url).1 :=
  (g.serves id method url).follows_rules

end RestDispatch
