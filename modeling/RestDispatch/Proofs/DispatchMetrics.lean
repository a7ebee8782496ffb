import Mathlib
import RestDispatch.Service.Metered
import RestDispatch.Proofs.Service
import RestDispatch.Proofs.RequestTarget

/-!
# Dispatch metrics count every request once

Serving a request tells the metrics exactly one thing, an `Observation`. A
request that could not be routed (its URL could not be read, or no Api, no
endpoint or a refused variable stopped it) is observed as a routing failure
under the failure's reason. A request that was resolved is observed as
dispatched to its Api and endpoint with the status it ended with, whether its
actions succeeded or one of them failed. `Observed` says this in terms of the
exchange and of what resolving the same request gives, and
`Engine.serve_observed` proves that serving always observes so.

Recording an observation adds one to the counter series it names and leaves
every other counter as it was (`Recorder.total_recordObservation`). So over any
calls served one after another, the routing failures counted under a reason grow
by the calls that failed to route for that reason, and the requests counted under
an Api, an endpoint and a status grow by the calls resolved there that ended with
that status (`metrics_count_every_request`).
-/

namespace RestDispatch

open RestDispatch.Telemetry

set_option autoImplicit false

namespace Telemetry

/-- The total of a counter series in a list of series: zero for a series never
incremented. -/
def seriesTotal (name : String) (labels : Labels) : List (String × Labels × Nat) → Nat
  | [] => 0
  | (n, ls, v) :: rest => if n = name ∧ ls = labels then v else seriesTotal name labels rest

theorem seriesTotal_bumpSeries (key : String × Labels) (name : String) (labels : Labels)
    (series : List (String × Labels × Nat)) :
    seriesTotal name labels (bumpSeries key series) =
      seriesTotal name labels series + if key = (name, labels) then 1 else 0 := by
  obtain ⟨k, kls⟩ := key
  induction series with
  | nil =>
      by_cases same : k = name ∧ kls = labels
      · simp [bumpSeries, seriesTotal, same]
      · simp only [bumpSeries, seriesTotal, if_neg same, Prod.mk.injEq, zero_add]
  | cons entry rest induction =>
      obtain ⟨n, ls, v⟩ := entry
      by_cases hit : n = k ∧ ls = kls
      · obtain ⟨rfl, rfl⟩ := hit
        simp only [bumpSeries, beq_self_eq_true, Bool.and_self, if_true, seriesTotal, Prod.mk.injEq]
        split <;> omega
      · have missed : (n == k && ls == kls) = false := by
          simpa [Bool.and_eq_true, beq_iff_eq] using hit
        simp only [bumpSeries, missed, Bool.false_eq_true, if_false, seriesTotal, induction,
          Prod.mk.injEq]
        -- the entry answers for its own key only, and the bumped key is another
        by_cases own : n = name ∧ ls = labels
        · obtain ⟨rfl, rfl⟩ := own
          have other : ¬ (k = n ∧ kls = ls) := fun ⟨same, same'⟩ => hit ⟨same.symm, same'.symm⟩
          simp [other]
        · simp [own]

namespace Recorder

/-- The total of a counter series: zero for a series never incremented. -/
def total (r : Recorder) (name : String) (labels : Labels) : Nat :=
  seriesTotal name labels r.counters

theorem total_increment (r : Recorder) (n : String) (ls : Labels) (name : String) (labels : Labels) :
    (r.increment n ls).total name labels = r.total name labels + if (n, ls) = (name, labels) then 1 else 0 :=
  seriesTotal_bumpSeries (n, ls) name labels r.counters

@[simp] theorem total_observe (r : Recorder) (n : String) (ls : Labels) (x : UInt64) (name : String)
    (labels : Labels) : (r.observe n ls x).total name labels = r.total name labels := rfl

end Recorder

end Telemetry

/-- The counter series an observation adds one to. -/
def Observation.counterKey : Observation → String × Labels
  | .dispatched api endpoint status =>
    (requestsTotalName, [("api", api), ("endpoint", endpoint), ("status", toString status)])
  | .routingFailure reason => (routingFailuresName, [("reason", reason)])

theorem Telemetry.Recorder.total_recordObservation (r : Recorder) (o : Observation) (seconds : UInt64)
    (name : String) (labels : Labels) :
    (r.recordObservation o seconds).total name labels =
      r.total name labels + if o.counterKey = (name, labels) then 1 else 0 := by
  -- a dispatch also records a sample, which no counter sees
  cases o with
  | dispatched api endpoint status =>
      exact total_increment r requestsTotalName
        [("api", api), ("endpoint", endpoint), ("status", toString status)] name labels
  | routingFailure reason => exact total_increment r routingFailuresName [("reason", reason)] name labels

theorem Engine.readRequest_method {id : RequestId} {method : Method} {url : String} {request : Request}
    (read : Engine.readRequest id method url = .ok request) : request.method = method := by
  unfold Engine.readRequest at read
  split at read
  · rename_i parsed
    cases read
    rcases parts : splitAtFirst '?' (splitAtFirst '#' url.toList).1 with ⟨target, query⟩
    cases path : targetPath url target with
    | error e =>
        -- a URL whose target cannot be read is not parsed
        have failed := (parse_eq_error_iff id method url e).2 (by rw [parts]; exact path)
        rw [parsed] at failed
        cases failed
    | ok raw =>
        rw [parse_eq_ok parts path] at parsed
        cases parsed
        rfl
  · cases read

theorem Engine.resolve_of_readRequest (g : Engine) {id : RequestId} {method : Method} {url : String}
    {request : Request} (read : Engine.readRequest id method url = .ok request) :
    g.resolve id method url = g.resolver.resolve request.method request.path := by
  simp only [Engine.resolve, bind, Except.bind, read]
  rw [readRequest_method read]

/-- What the metrics should learn of a request served for a method and URL, said
of the exchange and of what resolving the request gives: a request that could not
be resolved failed to route and counts as a routing failure under the failure's
reason; a resolved request counts as dispatched to its Api and endpoint with the
status it ended with, and whatever failure it ended with is an action's. -/
inductive Observed (g : Engine) (id : RequestId) (method : Method) (url : String) :
    Exchange → Observation → Prop
  | unrouted {x : Exchange} {e : DispatchError} (unresolved : g.resolve id method url = .error e)
      (failed : x.error = some e) (routing : e.isRoutingFailure = true) :
      Observed g id method url x (.routingFailure e.reason)
  | dispatched {x : Exchange} {res : Resolution} (resolved : g.resolve id method url = .ok res)
      (handled : ∀ e, x.error = some e → e.isRoutingFailure = false) :
      Observed g id method url x (.dispatched res.api.label res.endpoint.name x.status)

/-- Serving a request observes it as `Observed` says. -/
theorem Engine.serve_observed (g : Engine) (id : RequestId) (method : Method) (url : String) :
    Observed g id method url (g.serve id method url).1 (g.serve id method url).2 := by
  rcases read : readRequest id method url with e | request
  · have unresolved : g.resolve id method url = .error e := by
      simp [Engine.resolve, read, bind, Except.bind]
    simpa [serve, read] using Observed.unrouted unresolved (g.fail_error none .empty [] e)
      (readRequest_error read)
  · rcases resolved : g.resolver.resolve request.method request.path with e | res
    · have unresolved : g.resolve id method url = .error e := (g.resolve_of_readRequest read).trans resolved
      simpa [serve, serveRequest, read, resolved] using
        Observed.unrouted unresolved (g.fail_error (some request) .empty [] e) (Resolver.resolve_error resolved)
    · have found : g.resolve id method url = .ok res := (g.resolve_of_readRequest read).trans resolved
      rcases ran : ((res.intoChain request).withTrace g.debug).run with ⟨chain, outcome⟩
      rcases outcome with e | _
      · -- a chain fails only with an action's failure, which is no failure to route
        obtain ⟨action, cause, rfl⟩ := Chain.run_error (congrArg Prod.snd ran)
        have handled : ∀ e', (g.fail (some chain.request) chain.response chain.trace
            (.actionFailed action cause)).error = some e' → e'.isRoutingFailure = false := by
          intro e' failed
          simp only [fail_error, Option.some.injEq] at failed
          rw [← failed]
          rfl
        simpa [serve, serveRequest, read, resolved, ran] using Observed.dispatched found handled
      · have handled : ∀ e', (⟨some chain.request, chain.response, chain.trace, none⟩ : Exchange).error =
            some e' → e'.isRoutingFailure = false := by
          intro e' failed
          cases failed
        simpa [serve, serveRequest, read, resolved, ran] using Observed.dispatched found handled

namespace Observed

variable {g : Engine} {id : RequestId} {method : Method} {url : String} {x : Exchange} {o : Observation}

theorem counterKey_eq_failure_iff (observed : Observed g id method url x o) (reason : String) :
    o.counterKey = (routingFailuresName, [("reason", reason)]) ↔
      ∃ e, x.error = some e ∧ e.isRoutingFailure = true ∧ e.reason = reason := by
  cases observed with
  | unrouted _ failed routing =>
      simp only [Observation.counterKey, Prod.mk.injEq, List.cons.injEq, and_true, true_and]
      constructor
      · intro same
        exact ⟨_, failed, routing, same⟩
      · rintro ⟨e', failed', -, same⟩
        rw [failed, Option.some.injEq] at failed'
        rw [failed', same]
  | dispatched _ handled =>
      simp only [Observation.counterKey, Prod.mk.injEq, List.cons.injEq, List.cons_ne_nil, and_false,
        false_iff, not_exists, not_and]
      intro e failed routing
      rw [handled e failed] at routing
      cases routing

theorem counterKey_eq_dispatch_iff (observed : Observed g id method url x o) (api endpoint : String)
    (status : Nat) :
    o.counterKey = (requestsTotalName, [("api", api), ("endpoint", endpoint), ("status", toString status)]) ↔
      ∃ res, g.resolve id method url = .ok res ∧ res.api.label = api ∧ res.endpoint.name = endpoint ∧
        x.status = status := by
  cases observed with
  | unrouted unresolved =>
      simp only [Observation.counterKey, Prod.mk.injEq, List.cons.injEq, reduceCtorEq, and_false,
        false_and, false_iff, not_exists, unresolved]
      intro res resolved
      cases resolved
  | @dispatched res resolved _ =>
      simp only [Observation.counterKey, Prod.mk.injEq, List.cons.injEq, and_true, true_and,
        Nat.toString_eq_repr, Nat.repr_inj]
      constructor
      · rintro ⟨sameApi, sameEndpoint, sameStatus⟩
        exact ⟨res, resolved, sameApi, sameEndpoint, sameStatus⟩
      · rintro ⟨res', resolved', sameApi, sameEndpoint, sameStatus⟩
        rw [resolved, Except.ok.injEq] at resolved'
        subst resolved'
        exact ⟨sameApi, sameEndpoint, sameStatus⟩

end Observed

/-- A call of the engine: a method and URL served under a request identifier,
and the time it took, in seconds as a double. -/
structure Call where
  id : RequestId
  method : Method
  url : String
  seconds : UInt64

namespace Engine

/-- Serve calls one after another, recording in the recorder what the metrics
learn of each. -/
def meter (g : Engine) (r : Recorder) (calls : List Call) : Recorder :=
  calls.foldl (fun r c => r.recordObservation (g.serve c.id c.method c.url).2 c.seconds) r

/-- The call failed to route, for the reason given. -/
def failsRouting (g : Engine) (reason : String) (c : Call) : Bool :=
  (g.serve c.id c.method c.url).1.error.any fun e => e.isRoutingFailure && e.reason == reason

/-- The call was resolved to an Api of the label and an endpoint of the name
given, and ended with the status given. -/
def reaches (g : Engine) (api endpoint : String) (status : Nat) (c : Call) : Bool :=
  match g.resolve c.id c.method c.url with
  | .ok res =>
    res.api.label == api && res.endpoint.name == endpoint && (g.serve c.id c.method c.url).1.status == status
  | .error _ => false

/-- Each call adds one to the series its observation names: by induction on the
calls, from `Recorder.total_recordObservation`. -/
theorem total_meter (g : Engine) (r : Recorder) (calls : List Call) (name : String) (labels : Labels) :
    (g.meter r calls).total name labels =
      r.total name labels + calls.countP fun c => decide ((g.serve c.id c.method c.url).2.counterKey = (name, labels)) := by
  induction calls generalizing r with
  | nil => rfl
  | cons c rest induction =>
      have step : g.meter r (c :: rest) = g.meter (r.recordObservation (g.serve c.id c.method c.url).2 c.seconds) rest :=
        rfl
      rw [step, induction, Recorder.total_recordObservation, List.countP_cons]
      simp only [decide_eq_true_eq]
      split <;> omega

theorem total_meter_of_counts (g : Engine) (r : Recorder) (calls : List Call) (name : String)
    (labels : Labels) (counted : Call → Bool)
    (names : ∀ c, (g.serve c.id c.method c.url).2.counterKey = (name, labels) ↔ counted c = true) :
    (g.meter r calls).total name labels = r.total name labels + calls.countP counted := by
  rw [total_meter]
  refine congrArg (_ + ·) (List.countP_congr fun c _ => ?_)
  rw [decide_eq_true_iff]
  exact names c

theorem failsRouting_iff (g : Engine) (reason : String) (c : Call) :
    g.failsRouting reason c = true ↔
      ∃ e, (g.serve c.id c.method c.url).1.error = some e ∧ e.isRoutingFailure = true ∧ e.reason = reason := by
  simp only [failsRouting, Option.any_eq_true, Bool.and_eq_true, beq_iff_eq]

theorem reaches_iff (g : Engine) (api endpoint : String) (status : Nat) (c : Call) :
    g.reaches api endpoint status c = true ↔
      ∃ res, g.resolve c.id c.method c.url = .ok res ∧ res.api.label = api ∧ res.endpoint.name = endpoint ∧
        (g.serve c.id c.method c.url).1.status = status := by
  unfold reaches
  split
  · rename_i res resolved
    simp only [Bool.and_eq_true, beq_iff_eq, resolved, Except.ok.injEq, exists_eq_left', and_assoc]
  · rename_i e resolved
    simp [resolved]

end Engine

/-- The metrics account for every request exactly once. Serving a request is
observed once: as a routing failure under the failure's reason when it could not
be routed, and otherwise as dispatched to its Api and endpoint with its final
status, an action's failure included. Over calls served one after another, the
routing-failure series of a reason grows by the calls that failed to route for
it, and the request series of an Api, an endpoint and a status by the calls
resolved there that ended with that status. -/
theorem metrics_count_every_request (g : Engine) (r : Recorder) (calls : List Call) :
    (∀ id method url, Observed g id method url (g.serve id method url).1 (g.serve id method url).2) ∧
      (∀ reason, (g.meter r calls).total routingFailuresName [("reason", reason)] =
        r.total routingFailuresName [("reason", reason)] + calls.countP (g.failsRouting reason)) ∧
      (∀ api endpoint status,
        (g.meter r calls).total requestsTotalName [("api", api), ("endpoint", endpoint), ("status", toString status)] =
          r.total requestsTotalName [("api", api), ("endpoint", endpoint), ("status", toString status)] +
            calls.countP (g.reaches api endpoint status)) := by
  refine ⟨g.serve_observed, fun reason => ?_, fun api endpoint status => ?_⟩
  · apply g.total_meter_of_counts
    intro c
    rw [(g.serve_observed c.id c.method c.url).counterKey_eq_failure_iff reason, Engine.failsRouting_iff]
  · apply g.total_meter_of_counts
    intro c
    rw [(g.serve_observed c.id c.method c.url).counterKey_eq_dispatch_iff api endpoint status,
      Engine.reaches_iff]

end RestDispatch
