import RestDispatch.Dispatch.Resolve
import RestDispatch.Proofs.PathMatching

/-!
# Resolution by first match

A resolver answers a method and a path in three levels, each a first match in
registration order: the servlet mapping must read the start of the path; the
first Api that claims what follows is chosen, and no later Api is tried even
when none of its endpoints routes; among that Api's endpoints the first that
routes the rest wins, and an endpoint whose variable refused a segment is the
answer only when no later endpoint routes.

`Routes` and `Resolves` state these rules as relations, without the cursors
and accumulators of the code, and `resolve_eq_iff_resolves` shows that the
resolver answers exactly what they allow.
-/

namespace RestDispatch

set_option autoImplicit false

theorem List.exists_first_or_none {α : Type} (p : α → Prop) (l : List α) :
    (∀ x ∈ l, ¬ p x) ∨ ∃ before x after, l = before ++ x :: after ∧ p x ∧ ∀ y ∈ before, ¬ p y := by
  classical
  cases found : l.find? (fun x => decide (p x)) with
  | none => exact .inl (by simpa using found)
  | some x =>
      obtain ⟨holds, before, after, rfl, earlier⟩ := List.find?_eq_some_iff_append.1 found
      refine .inr ⟨before, x, after, rfl, by simpa using holds, fun y member => ?_⟩
      simpa using earlier y member

namespace Cursor

theorem next_eq_head (c : Cursor) :
    c.next = c.remaining.head?.map fun segment => (segment, ⟨c.path, c.offset + 1⟩) := by
  simp [next, peek, Path.get?, remaining]

theorem remaining_add (c : Cursor) (k : Nat) :
    (⟨c.path, c.offset + k⟩ : Cursor).remaining = c.remaining.drop k := by
  simp [remaining, Nat.add_comm]

theorem next_skip (c : Cursor) (k : Nat) :
    (⟨c.path, c.offset + k⟩ : Cursor).next =
      c.remaining[k]?.map fun segment => (segment, ⟨c.path, c.offset + k + 1⟩) := by
  rw [next_eq_head, remaining_add, List.head?_drop]

end Cursor

namespace Api

/-- The segments an Api reads before its tenant: its name and its version. -/
def headLength (api : Api) : Nat :=
  (if api.name.isSome then 1 else 0) + (if api.version.isSome then 1 else 0)

/-- An Api's name is the first of the segments that follow the servlet mapping,
in any ASCII case; an Api without a name claims them only when it is the only Api. -/
def ClaimsName (alone : Bool) (api : Api) (rest : List String) : Prop :=
  match api.name with
  | some name => ∃ segment, rest.head? = some segment ∧ Text.eqIgnoreAsciiCase segment name = true
  | none => alone = true

/-- An Api's version, if it has one, follows its name exactly. -/
def ClaimsVersion (api : Api) (rest : List String) : Prop :=
  match api.version with
  | some version => rest[if api.name.isSome then 1 else 0]? = some version
  | none => True

/-- An Api claims the segments that follow the servlet mapping when its name
and its version do. -/
def Claims (alone : Bool) (api : Api) (rest : List String) : Prop :=
  api.ClaimsName alone rest ∧ api.ClaimsVersion rest

/-- The tenant of a multi-tenant Api: the segment after its name and version,
when one remains. -/
def tenantIn (api : Api) (rest : List String) : Option String :=
  if api.multiTenant then rest[api.headLength]? else none

/-- The segments an Api takes: its name, its version and its tenant. -/
def taken (api : Api) (rest : List String) : Nat :=
  api.headLength + if (api.tenantIn rest).isSome then 1 else 0

end Api

namespace Resolver

section Claims

variable {alone : Bool} {api : Api} {c : Cursor}

/-! Each stage of a claim reads at most one segment: the name, the version and
the tenant, in that order. -/

theorem claimName_of_claimsName (named : api.ClaimsName alone c.remaining) :
    claimName alone api c = some ⟨c.path, c.offset + if api.name.isSome then 1 else 0⟩ := by
  unfold claimName
  unfold Api.ClaimsName at named
  cases naming : api.name with
  | none =>
      rw [naming] at named
      simp [named]
  | some name =>
      rw [naming] at named
      obtain ⟨segment, first, same⟩ := named
      simp [Cursor.next_eq_head, first, same]

theorem claimName_eq_none (unnamed : ¬ api.ClaimsName alone c.remaining) : claimName alone api c = none := by
  unfold claimName
  unfold Api.ClaimsName at unnamed
  cases naming : api.name with
  | none =>
      rw [naming] at unnamed
      simp [unnamed]
  | some name =>
      rw [naming] at unnamed
      cases first : c.remaining.head? with
      | none => simp [Cursor.next_eq_head, first]
      | some segment =>
          -- the first segment is there but is not the name
          have differs : Text.eqIgnoreAsciiCase segment name = false := by
            simpa [first] using unnamed
          simp [Cursor.next_eq_head, first, differs]

theorem claimVersion_of_claimsVersion (versioned : api.ClaimsVersion c.remaining) :
    claimVersion api ⟨c.path, c.offset + if api.name.isSome then 1 else 0⟩ =
      some ⟨c.path, c.offset + api.headLength⟩ := by
  unfold claimVersion
  unfold Api.ClaimsVersion at versioned
  cases versioning : api.version with
  | none => simp [Api.headLength, versioning]
  | some version =>
      rw [versioning] at versioned
      simp [Cursor.next_skip, versioned, Api.headLength, versioning, Nat.add_assoc]

theorem claimVersion_eq_none (unversioned : ¬ api.ClaimsVersion c.remaining) :
    claimVersion api ⟨c.path, c.offset + if api.name.isSome then 1 else 0⟩ = none := by
  unfold claimVersion
  unfold Api.ClaimsVersion at unversioned
  cases versioning : api.version with
  | none =>
      rw [versioning] at unversioned
      exact absurd trivial unversioned
  | some version =>
      rw [versioning] at unversioned
      cases read : c.remaining[if api.name.isSome then 1 else 0]? with
      | none => simp [Cursor.next_skip, read]
      | some segment =>
          -- the segment after the name is there but is not the version
          have differs : segment ≠ version := fun same => unversioned (same ▸ read)
          simp [Cursor.next_skip, read, differs]

theorem claimTenant_eq :
    claimTenant api ⟨c.path, c.offset + api.headLength⟩ =
      (⟨c.path, c.offset + api.taken c.remaining⟩, api.tenantIn c.remaining) := by
  unfold claimTenant
  cases tenancy : api.multiTenant with
  | false => simp [Api.taken, Api.tenantIn, tenancy]
  | true =>
      cases tenant : c.remaining[api.headLength]? with
      | none =>
          simp [Cursor.next_skip, tenant, Api.taken, Api.tenantIn, tenancy]
      | some segment =>
          simp [Cursor.next_skip, tenant, Api.taken, Api.tenantIn, tenancy, Nat.add_assoc]

theorem claims_of_claims (claimed : api.Claims alone c.remaining) :
    claims alone api c = some (⟨c.path, c.offset + api.taken c.remaining⟩, api.tenantIn c.remaining) := by
  obtain ⟨named, versioned⟩ := claimed
  simp [claims, claimName_of_claimsName named, claimVersion_of_claimsVersion versioned, claimTenant_eq]

theorem claims_of_not_claims (unclaimed : ¬ api.Claims alone c.remaining) :
    claims alone api c = none := by
  by_cases named : api.ClaimsName alone c.remaining
  · have unversioned : ¬ api.ClaimsVersion c.remaining := fun versioned => unclaimed ⟨named, versioned⟩
    simp [claims, claimName_of_claimsName named, claimVersion_eq_none unversioned]
  · simp [claims, claimName_eq_none named]

end Claims

section Apis

private theorem findSome?_claims_first (single : Bool) (cursor : Cursor) (before later : List Api)
    (api : Api) (n : Nat)
    (passed : ∀ b ∈ before, ¬ b.Claims single cursor.remaining)
    (claimed : api.Claims single cursor.remaining) :
    ((before ++ api :: later).zipIdx n).findSome?
        (fun (a, i) => (claims single a cursor).map fun (after, tenant) => (i, a, after, tenant)) =
      some (n + before.length, api, ⟨cursor.path, cursor.offset + api.taken cursor.remaining⟩,
        api.tenantIn cursor.remaining) := by
  induction before generalizing n with
  | nil => simp [claims_of_claims claimed]
  | cons b before induction =>
      have skipped : claims single b cursor = none :=
        claims_of_not_claims (passed b (List.mem_cons_self ..))
      have rest := induction (n + 1) fun b' member => passed b' (List.mem_cons_of_mem b member)
      simp only [List.cons_append, List.zipIdx_cons, List.findSome?_cons, skipped, Option.map_none]
      rw [rest]
      simp only [List.length_cons]
      congr 2
      omega

theorem matchApi_first (r : Resolver) (cursor : Cursor) (before later : List Api) (api : Api)
    (listed : r.apis = before ++ api :: later)
    (passed : ∀ b ∈ before, ¬ b.Claims (r.apis.length == 1) cursor.remaining)
    (claimed : api.Claims (r.apis.length == 1) cursor.remaining) :
    r.matchApi cursor =
      some (before.length, api, ⟨cursor.path, cursor.offset + api.taken cursor.remaining⟩,
        api.tenantIn cursor.remaining) := by
  have first := findSome?_claims_first (r.apis.length == 1) cursor before later api 0 passed claimed
  rw [Nat.zero_add, ← listed] at first
  exact first

theorem matchApi_none (r : Resolver) (cursor : Cursor)
    (unclaimed : ∀ api ∈ r.apis, ¬ api.Claims (r.apis.length == 1) cursor.remaining) :
    r.matchApi cursor = none := by
  simp only [matchApi, List.findSome?_eq_none_iff, Option.map_eq_none_iff]
  intro pair member
  exact claims_of_not_claims (unclaimed pair.1 (List.fst_mem_of_mem_zipIdx member))

end Apis

end Resolver

/-- Which endpoint of an Api serves a method and an Api-relative path: the
first that routes it; else the first that refuses it, when no later endpoint
routes it; else none, and the Api reports that no endpoint matched. -/
inductive Routes (method : Method) (relative : Path) (label : String) :
    List Endpoint → Except DispatchError (Endpoint × EndpointMatch) → Prop
  | routed (passed later : List Endpoint) (endpoint : Endpoint) (found : EndpointMatch)
      (unrouted : ∀ e ∈ passed, ∀ other, e.route method relative ≠ .ok (some other))
      (routes : endpoint.route method relative = .ok (some found)) :
      Routes method relative label (passed ++ endpoint :: later) (.ok (endpoint, found))
  | refused (passed later : List Endpoint) (endpoint : Endpoint) (v : Violation)
      (declined : ∀ e ∈ passed, e.route method relative = .ok none)
      (refuses : endpoint.route method relative = .error v)
      (unrouted : ∀ e ∈ later, ∀ other, e.route method relative ≠ .ok (some other)) :
      Routes method relative label (passed ++ endpoint :: later)
        (.error (.constraintViolation endpoint.name v))
  | declined (endpoints : List Endpoint)
      (declined : ∀ e ∈ endpoints, e.route method relative = .ok none) :
      Routes method relative label endpoints
        (.error (.noEndpointMatch label method relative.render))

theorem Endpoint.route_of_unrouted {e : Endpoint} {method : Method} {relative : Path}
    (unrouted : ∀ other, e.route method relative ≠ .ok (some other)) :
    e.route method relative = .ok none ∨ ∃ v, e.route method relative = .error v := by
  rcases routed : e.route method relative with v | _ | other
  · exact .inr ⟨v, rfl⟩
  · exact .inl rfl
  · exact absurd routed (unrouted other)

namespace Resolver

section Endpoints

variable {api : Api} {method : Method} {relative : Path}

theorem routeEndpoints_routed (passed later : List Endpoint) (endpoint : Endpoint)
    (found : EndpointMatch) (refused : Option (Endpoint × Violation))
    (unrouted : ∀ e ∈ passed, ∀ other, e.route method relative ≠ .ok (some other))
    (routes : endpoint.route method relative = .ok (some found)) :
    routeEndpoints api method relative (passed ++ endpoint :: later) refused = .ok (endpoint, found) := by
  induction passed generalizing refused with
  | nil => simp [routeEndpoints, routes]
  | cons e passed induction =>
      have rest : ∀ refused, routeEndpoints api method relative (passed ++ endpoint :: later) refused =
          .ok (endpoint, found) :=
        fun refused => induction refused fun e' member => unrouted e' (List.mem_cons_of_mem e member)
      rcases Endpoint.route_of_unrouted (unrouted e (List.mem_cons_self ..)) with declined | ⟨v, refuses⟩
      · simp [routeEndpoints, declined, rest]
      · simp [routeEndpoints, refuses, rest]

theorem routeEndpoints_remembered (endpoints : List Endpoint) (first : Endpoint) (v : Violation)
    (unrouted : ∀ e ∈ endpoints, ∀ other, e.route method relative ≠ .ok (some other)) :
    routeEndpoints api method relative endpoints (some (first, v)) =
      .error (.constraintViolation first.name v) := by
  induction endpoints with
  | nil => rfl
  | cons e endpoints induction =>
      have rest := induction fun e' member => unrouted e' (List.mem_cons_of_mem e member)
      rcases Endpoint.route_of_unrouted (unrouted e (List.mem_cons_self ..)) with declined | ⟨w, refuses⟩
      · simp [routeEndpoints, declined, rest]
      · simp [routeEndpoints, refuses, rest]

theorem routeEndpoints_declined (passed rest : List Endpoint)
    (declined : ∀ e ∈ passed, e.route method relative = .ok none) :
    routeEndpoints api method relative (passed ++ rest) none =
      routeEndpoints api method relative rest none := by
  induction passed with
  | nil => rfl
  | cons e passed induction =>
      have skipped := declined e (List.mem_cons_self ..)
      simp [routeEndpoints, skipped, induction fun e' member => declined e' (List.mem_cons_of_mem e member)]

end Endpoints

end Resolver

namespace Routes

variable {method : Method} {relative : Path} {label : String}

theorem exists_outcome (method : Method) (relative : Path) (label : String)
    (endpoints : List Endpoint) :
    ∃ outcome, Routes method relative label endpoints outcome := by
  rcases List.exists_first_or_none (fun e => ∃ found, e.route method relative = .ok (some found))
      endpoints with unrouted | ⟨passed, endpoint, later, rfl, ⟨found, routes⟩, earlier⟩
  · have unrouted' : ∀ e ∈ endpoints, ∀ other, e.route method relative ≠ .ok (some other) :=
      fun e member other routes => unrouted e member ⟨other, routes⟩
    rcases List.exists_first_or_none (fun e => ∃ v, e.route method relative = .error v)
        endpoints with unrefused | ⟨passed, endpoint, later, rfl, ⟨v, refuses⟩, earlier⟩
    · refine ⟨_, .declined endpoints fun e member => ?_⟩
      rcases Endpoint.route_of_unrouted (unrouted' e member) with declined | refused
      · exact declined
      · exact absurd refused (unrefused e member)
    · refine ⟨_, .refused passed later endpoint v (fun e member => ?_) refuses
        fun e member => unrouted' e (by simp [member])⟩
      rcases Endpoint.route_of_unrouted (unrouted' e (by simp [member])) with declined | refused
      · exact declined
      · exact absurd refused (earlier e member)
  · exact ⟨_, .routed passed later endpoint found
      (fun e member other routes => earlier e member ⟨other, routes⟩) routes⟩

theorem run {api : Api} {endpoints : List Endpoint}
    {outcome : Except DispatchError (Endpoint × EndpointMatch)}
    (rules : Routes method relative api.label endpoints outcome) :
    Resolver.routeEndpoints api method relative endpoints none = outcome := by
  cases rules with
  | routed passed later endpoint found unrouted routes =>
      exact Resolver.routeEndpoints_routed passed later endpoint found none unrouted routes
  | refused passed later endpoint v declined refuses unrouted =>
      rw [Resolver.routeEndpoints_declined passed _ declined]
      simp only [Resolver.routeEndpoints, refuses]
      exact Resolver.routeEndpoints_remembered later endpoint v unrouted
  | declined endpoints declined =>
      have whole : Resolver.routeEndpoints api method relative (endpoints ++ []) none =
          Resolver.routeEndpoints api method relative [] none :=
        Resolver.routeEndpoints_declined endpoints [] declined
      rw [List.append_nil] at whole
      rw [whole]
      rfl

end Routes

theorem routeEndpoints_eq_iff (api : Api) (method : Method) (relative : Path)
    (outcome : Except DispatchError (Endpoint × EndpointMatch)) :
    Resolver.routeEndpoints api method relative api.endpoints none = outcome ↔
      Routes method relative api.label api.endpoints outcome := by
  constructor
  · intro routed
    obtain ⟨chosen, rules⟩ := Routes.exists_outcome method relative api.label api.endpoints
    rw [← routed, rules.run]
    exact rules
  · exact Routes.run

namespace PathPattern

theorem extract_start_of_matched (p : PathPattern) (x : Path)
    (read : (p.extract (Cursor.start x)).1.isMatched = true) :
    ∃ e, p.extract (Cursor.start x) = (.matched e, ⟨x, p.fixedPrefix.length⟩) := by
  rcases extracted : p.extract (Cursor.start x) with ⟨outcome, after⟩
  cases outcome with
  | matched e =>
      obtain ⟨-, rfl, -⟩ := p.extract_matched (Nat.zero_le _) extracted
      exact ⟨e, by simp [Cursor.start]⟩
  | noMatch => simp [extracted, PathMatch.isMatched] at read
  | violation v => simp [extracted, PathMatch.isMatched] at read

end PathPattern

/-- The segments that follow the servlet mapping's fixed prefix. -/
def Resolver.afterMapping (r : Resolver) (path : Path) : List String :=
  path.segments.drop r.servletMapping.fixedPrefix.length

/-- How a resolver answers a method and a path. -/
inductive Resolves (r : Resolver) (method : Method) (path : Path) :
    Except DispatchError Resolution → Prop
  /-- The servlet mapping does not read the start of the path. -/
  | unmapped (unread : (r.servletMapping.extract (Cursor.start path)).1.isMatched = false) :
      Resolves r method path (.error (.noApiMatch path.render))
  /-- No Api claims what follows the mapping. -/
  | unclaimed (read : (r.servletMapping.extract (Cursor.start path)).1.isMatched = true)
      (unclaimed : ∀ api ∈ r.apis, ¬ api.Claims (r.apis.length == 1) (r.afterMapping path)) :
      Resolves r method path (.error (.noApiMatch (Path.mk (r.afterMapping path)).render))
  /-- The first Api that claims it answers through its endpoints, with the
  path it took and its tenant, whatever later Apis would do. -/
  | chosen (before later : List Api) (api : Api)
      (outcome : Except DispatchError (Endpoint × EndpointMatch))
      (read : (r.servletMapping.extract (Cursor.start path)).1.isMatched = true)
      (listed : r.apis = before ++ api :: later)
      (passed : ∀ b ∈ before, ¬ b.Claims (r.apis.length == 1) (r.afterMapping path))
      (claimed : api.Claims (r.apis.length == 1) (r.afterMapping path))
      (routes : Routes method ⟨(r.afterMapping path).drop (api.taken (r.afterMapping path))⟩
        api.label api.endpoints outcome) :
      Resolves r method path (outcome.map fun (endpoint, found) =>
        ⟨before.length, api, endpoint, selectActions api endpoint method found.subpath,
          ⟨⟨path.segments.take (r.servletMapping.fixedPrefix.length +
              api.taken (r.afterMapping path))⟩,
            api.tenantIn (r.afterMapping path), found.endpointPath, found.subpath, found.params⟩⟩)

namespace Resolves

variable {r : Resolver} {method : Method} {path : Path}

theorem exists_outcome (r : Resolver) (method : Method) (path : Path) :
    ∃ outcome, Resolves r method path outcome := by
  cases read : (r.servletMapping.extract (Cursor.start path)).1.isMatched with
  | false => exact ⟨_, .unmapped read⟩
  | true =>
      rcases List.exists_first_or_none (fun api => api.Claims (r.apis.length == 1) (r.afterMapping path))
          r.apis with unclaimed | ⟨before, api, later, listed, claimed, passed⟩
      · exact ⟨_, .unclaimed read unclaimed⟩
      · obtain ⟨outcome, routes⟩ := Routes.exists_outcome method
          ⟨(r.afterMapping path).drop (api.taken (r.afterMapping path))⟩ api.label api.endpoints
        exact ⟨_, .chosen before later api outcome read listed passed claimed routes⟩

theorem run {outcome : Except DispatchError Resolution} (rules : Resolves r method path outcome) :
    r.resolve method path = outcome := by
  cases rules with
  | unmapped unread =>
      unfold Resolver.resolve
      rcases extracted : r.servletMapping.extract (Cursor.start path) with ⟨result, after⟩
      rw [extracted] at unread
      cases result with
      | matched e => simp [PathMatch.isMatched] at unread
      | noMatch => rfl
      | violation v => rfl
  | unclaimed read unclaimed =>
      obtain ⟨e, extracted⟩ := r.servletMapping.extract_start_of_matched path read
      have none := r.matchApi_none ⟨path, r.servletMapping.fixedPrefix.length⟩ unclaimed
      simp only [Resolver.resolve, extracted, none]
      rfl
  | chosen before later api outcome read listed passed claimed routes =>
      obtain ⟨e, extracted⟩ := r.servletMapping.extract_start_of_matched path read
      have first := r.matchApi_first ⟨path, r.servletMapping.fixedPrefix.length⟩
        before later api listed passed claimed
      have rest : (⟨path, r.servletMapping.fixedPrefix.length⟩ : Cursor).remaining =
          r.afterMapping path := rfl
      simp only [rest] at first
      have relative : (⟨path, r.servletMapping.fixedPrefix.length +
            api.taken (r.afterMapping path)⟩ : Cursor).remainder =
          ⟨(r.afterMapping path).drop (api.taken (r.afterMapping path))⟩ := by
        simp [Cursor.remainder, Cursor.remaining, Resolver.afterMapping, List.drop_drop]
      have routed := routes.run
      simp only [Resolver.resolve, extracted]
      rw [first]
      simp only [relative, routed]
      cases outcome with
      | error failure => rfl
      | ok chosen => rfl

/-- Whatever the resolver answers is what the rules allow. -/
theorem of_resolve {outcome : Except DispatchError Resolution}
    (resolved : r.resolve method path = outcome) : Resolves r method path outcome := by
  obtain ⟨chosen, rules⟩ := exists_outcome r method path
  rw [← resolved, rules.run]
  exact rules

end Resolves

/-- The resolver answers exactly what the first-match rules allow: a path the
servlet mapping does not read has no Api; the first Api that claims the rest
is the only one tried; and among its endpoints the first that routes wins, the
first refusal counts only when none routes, and otherwise no endpoint
matched. -/
theorem resolve_eq_iff_resolves (r : Resolver) (method : Method) (path : Path)
    (outcome : Except DispatchError Resolution) :
    r.resolve method path = outcome ↔ Resolves r method path outcome := by
  constructor
  · intro resolved
    obtain ⟨chosen, rules⟩ := Resolves.exists_outcome r method path
    rw [← resolved, rules.run]
    exact rules
  · exact Resolves.run

end RestDispatch
