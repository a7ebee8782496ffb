import RestDispatch.Proofs.Resolution
import RestDispatch.Proofs.EndpointRouting

/-!
# The route of a resolved request

A successful resolution cuts the path into three consecutive parts. The Api
path holds the segments read by the servlet mapping's fixed prefix and then
those the Api reads: its name (in any ASCII case), its version (exactly) and,
for a multi-tenant Api, one tenant segment when one remains. The endpoint path
holds the segments read by the fixed prefix of the endpoint's pattern, and the
subpath the rest, whose first three segments are the collection, entity and
subcollection keys.

`Api.take_taken` says what an Api that claims a path reads of it, and
`Resolver.resolve_eq_ok` what a successful resolution is made of; from them
`resolve_partitions_path` assembles the partition.
-/

namespace RestDispatch

set_option autoImplicit false

namespace Api

/-- What an Api's name reads: one segment equal to the name up to the case of
ASCII letters, or nothing for an Api without a name. -/
def NameRead (api : Api) (named : List String) : Prop :=
  match api.name with
  | some name => ∃ segment, named = [segment] ∧ Text.eqIgnoreAsciiCase segment name = true
  | none => named = []

section Reading

variable {api : Api} {alone : Bool} {rest named : List String}

theorem NameRead.length (read : api.NameRead named) :
    named.length = if api.name.isSome then 1 else 0 := by
  unfold NameRead at read
  cases name : api.name with
  | none =>
      rw [name] at read
      simp [read]
  | some expected =>
      rw [name] at read
      obtain ⟨segment, rfl, -⟩ := read
      simp

theorem headLength_of_nameRead (read : api.NameRead named) :
    api.headLength = named.length + api.version.toList.length := by
  rw [headLength, read.length]
  cases api.version <;> simp

theorem Claims.split (claimed : api.Claims alone rest) :
    ∃ named after, rest = named ++ api.version.toList ++ after ∧ api.NameRead named := by
  obtain ⟨nameClaimed, versionClaimed⟩ := claimed
  obtain ⟨named, afterName, splitName, read⟩ :
      ∃ named afterName, rest = named ++ afterName ∧ api.NameRead named := by
    unfold NameRead
    cases name : api.name with
    | none => exact ⟨[], rest, rfl, rfl⟩
    | some expected =>
        simp only [ClaimsName, name] at nameClaimed
        obtain ⟨segment, head, same⟩ := nameClaimed
        obtain ⟨tail, rfl⟩ := List.head?_eq_some_iff.1 head
        exact ⟨[segment], tail, rfl, segment, rfl, same⟩
  -- the version, when there is one, is the segment right after the name's
  obtain ⟨after, splitVersion⟩ : ∃ after, afterName = api.version.toList ++ after := by
    cases version : api.version with
    | none => exact ⟨afterName, rfl⟩
    | some expected =>
        simp only [ClaimsVersion, version] at versionClaimed
        rw [← read.length, splitName, List.getElem?_append_right (Nat.le_refl _), Nat.sub_self]
          at versionClaimed
        cases afterName with
        | nil => simp at versionClaimed
        | cons segment tail =>
            simp only [List.getElem?_cons_zero, Option.some.injEq] at versionClaimed
            exact ⟨tail, by simp [versionClaimed]⟩
  exact ⟨named, after, by rw [splitName, splitVersion, List.append_assoc], read⟩

/-- An Api that claims a path takes its name segment, its version and its
tenant, if it reads one. -/
theorem take_taken (claimed : api.Claims alone rest) :
    ∃ named, rest.take (api.taken rest) = named ++ api.version.toList ++ (api.tenantIn rest).toList ∧
      api.NameRead named := by
  obtain ⟨named, after, split, read⟩ := claimed.split
  have head := headLength_of_nameRead read
  -- the tenant is the first segment after the name and version
  have tenant : api.tenantIn rest = if api.multiTenant then after.head? else none := by
    rw [tenantIn, split, head, List.append_assoc, List.getElem?_append_right (by simp),
      List.getElem?_append_right (by simp)]
    cases after <;> simp
  have tenantTaken : after.take (if (api.tenantIn rest).isSome then 1 else 0) =
      (api.tenantIn rest).toList := by
    rw [tenant]
    cases api.multiTenant <;> cases after <;> simp
  refine ⟨named, ?_, read⟩
  rw [← tenantTaken, taken, head]
  generalize (if (api.tenantIn rest).isSome = true then 1 else 0) = tenantCount
  rw [split]
  simp only [List.append_assoc, Nat.add_assoc, List.take_length_add_append]

end Reading

end Api

namespace Resolver

/-- A successful resolution: the Api claims what follows the servlet mapping,
the endpoint routes what follows the Api, and the route records the path read
up to the endpoint, the tenant, and the endpoint's match. -/
theorem resolve_eq_ok {r : Resolver} {method : Method} {x : Path} {res : Resolution}
    (resolved : r.resolve method x = .ok res) :
    ∃ found, res.api.Claims (r.apis.length == 1) (r.afterMapping x) ∧
      res.endpoint.route method
        ⟨(r.afterMapping x).drop (res.api.taken (r.afterMapping x))⟩ = .ok (some found) ∧
      res.route = ⟨⟨x.segments.take (r.servletMapping.fixedPrefix.length +
          res.api.taken (r.afterMapping x))⟩, res.api.tenantIn (r.afterMapping x),
        found.endpointPath, found.subpath, found.params⟩ := by
  have rules := Resolves.of_resolve resolved
  generalize answer : (Except.ok res : Except DispatchError Resolution) = outcome at rules
  cases rules with
  | unmapped => cases answer
  | unclaimed => cases answer
  | chosen before later api outcome read listed passed claimed routes =>
      cases outcome with
      | error failure => cases answer
      | ok chosen =>
          obtain ⟨endpoint, found⟩ := chosen
          simp only [Except.map, Except.ok.injEq] at answer
          subst answer
          -- a routing that chose an endpoint is one where that endpoint routes
          generalize routed : (Except.ok (endpoint, found) :
            Except DispatchError (Endpoint × EndpointMatch)) = outcome at routes
          generalize api.endpoints = endpoints at routes
          cases routes with
          | routed passed' later' endpoint' found' unrouted routes =>
              simp only [Except.ok.injEq, Prod.mk.injEq] at routed
              obtain ⟨rfl, rfl⟩ := routed
              exact ⟨found, claimed, routes, rfl⟩
          | refused => cases routed
          | declined => cases routed

end Resolver

/-- How a successful resolution `res` of a path `x` by a resolver `r` cuts
`x`; `s` is the length of the servlet mapping's fixed prefix. -/
structure PartitionsPath (r : Resolver) (x : Path) (res : Resolution) : Prop where
  /-- The Api path is the first `s` segments, the Api's name segment, its
  version and its tenant. -/
  apiPath : ∃ named, res.route.apiPath.segments =
      x.segments.take r.servletMapping.fixedPrefix.length ++ named ++ res.api.version.toList ++
        res.route.tenant.toList ∧
    res.api.NameRead named
  /-- A multi-tenant Api reads a tenant when a segment follows its name and version. -/
  tenant : res.route.tenant =
    if res.api.multiTenant then x.segments[r.servletMapping.fixedPrefix.length + res.api.headLength]?
    else none
  /-- A tenant read is the last segment of the Api path. -/
  tenantLast : ∀ t, res.route.tenant = some t → res.route.apiPath.segments.getLast? = some t
  /-- The endpoint path has one segment per segment of the fixed prefix of the
  endpoint's pattern. -/
  endpointPath : x.Normal → res.route.endpointPath.length = res.endpoint.pattern.fixedPrefix.length
  /-- The Api path, the endpoint path and the subpath make up the path. -/
  covers : x.Normal →
    res.route.apiPath.segments ++ res.route.endpointPath.segments ++ res.route.subpath.segments =
      x.segments
  /-- The keys are the first three segments of the subpath. -/
  keys : res.route.collectionKey? = res.route.subpath.segments[0]? ∧
    res.route.entityKey? = res.route.subpath.segments[1]? ∧
    res.route.subcollectionKey? = res.route.subpath.segments[2]?

/-- A successful resolution partitions the path into the Api path (servlet
mapping, name, version, tenant), the endpoint path (the endpoint's fixed
prefix) and the subpath, whose first segments are the keys. -/
theorem resolve_partitions_path (r : Resolver) (method : Method) (x : Path) (res : Resolution)
    (resolved : r.resolve method x = .ok res) : PartitionsPath r x res := by
  obtain ⟨found, claimed, routed, route⟩ := Resolver.resolve_eq_ok resolved
  obtain ⟨named, taken, read⟩ := Api.take_taken claimed
  obtain ⟨covered, subpath, within⟩ := res.endpoint.route_split method _ routed
  have consumed : x.segments.take (r.servletMapping.fixedPrefix.length +
      res.api.taken (r.afterMapping x)) =
      x.segments.take r.servletMapping.fixedPrefix.length ++ named ++ res.api.version.toList ++
        (res.api.tenantIn (r.afterMapping x)).toList := by
    rw [List.take_add, Resolver.afterMapping] at *
    rw [taken, List.append_assoc, List.append_assoc, List.append_assoc]
  -- what the endpoint routes is the path after the Api path
  have relative : (r.afterMapping x).drop (res.api.taken (r.afterMapping x)) =
      x.segments.drop (r.servletMapping.fixedPrefix.length + res.api.taken (r.afterMapping x)) := by
    rw [Resolver.afterMapping, List.drop_drop]
  have relativeNormal : x.Normal →
      ∀ s ∈ (r.afterMapping x).drop (res.api.taken (r.afterMapping x)), s ≠ "" := by
    intro normal s member
    rw [relative] at member
    exact normal s (List.mem_of_mem_drop member)
  refine ⟨⟨named, by rw [route, consumed], read⟩, ?_, ?_, ?_, ?_, ⟨rfl, rfl, rfl⟩⟩
  · rw [route]
    simp only [Api.tenantIn, Resolver.afterMapping, List.getElem?_drop]
  · intro t tenant
    rw [route] at tenant ⊢
    simp only at tenant ⊢
    rw [consumed, tenant]
    simp
  · intro normal
    rw [route]
    simp only [Path.length] at within ⊢
    rw [covered, Path.Normal.ofSegments_eq fun s member =>
      relativeNormal normal s (List.mem_of_mem_take member), List.length_take]
    exact Nat.min_eq_left within
  · -- the endpoint splits the rest of the path after the Api path
    intro normal
    rw [route]
    simp only
    rw [covered, subpath, Path.Normal.ofSegments_eq fun s member =>
      relativeNormal normal s (List.mem_of_mem_take member)]
    rw [List.append_assoc, List.take_append_drop, relative, List.take_append_drop]

/-- The multi-tenant Api `test` at version `v1`, behind a one-segment servlet
mapping, routes `svc/TEST/v1/acme/books/42` to its endpoint `books`. -/
theorem resolve_partitions_tenant_path :
    (⟨[⟨some "test", some "v1", true,
        [⟨"books", ⟨":collection/*", [.variable "collection" none, .wildcard]⟩, Rule.default, []⟩], []⟩],
      ⟨":servlet", [.variable "servlet" none]⟩⟩ : Resolver).resolve Method.get
        ⟨["svc", "TEST", "v1", "acme", "books", "42"]⟩ =
      .ok ⟨0, ⟨some "test", some "v1", true,
          [⟨"books", ⟨":collection/*", [.variable "collection" none, .wildcard]⟩, Rule.default, []⟩], []⟩,
        ⟨"books", ⟨":collection/*", [.variable "collection" none, .wildcard]⟩, Rule.default, []⟩,
        selectActions ⟨some "test", some "v1", true,
            [⟨"books", ⟨":collection/*", [.variable "collection" none, .wildcard]⟩, Rule.default, []⟩], []⟩
          ⟨"books", ⟨":collection/*", [.variable "collection" none, .wildcard]⟩, Rule.default, []⟩
          Method.get ⟨["42"]⟩,
        ⟨⟨["svc", "TEST", "v1", "acme"]⟩, some "acme", ⟨["books"]⟩, ⟨["42"]⟩,
          ⟨[("collection", "books")]⟩⟩⟩ ∧
    PartitionsPath
      ⟨[⟨some "test", some "v1", true,
        [⟨"books", ⟨":collection/*", [.variable "collection" none, .wildcard]⟩, Rule.default, []⟩], []⟩],
        ⟨":servlet", [.variable "servlet" none]⟩⟩
      ⟨["svc", "TEST", "v1", "acme", "books", "42"]⟩
      ⟨0, ⟨some "test", some "v1", true,
          [⟨"books", ⟨":collection/*", [.variable "collection" none, .wildcard]⟩, Rule.default, []⟩], []⟩,
        ⟨"books", ⟨":collection/*", [.variable "collection" none, .wildcard]⟩, Rule.default, []⟩,
        selectActions ⟨some "test", some "v1", true,
            [⟨"books", ⟨":collection/*", [.variable "collection" none, .wildcard]⟩, Rule.default, []⟩], []⟩
          ⟨"books", ⟨":collection/*", [.variable "collection" none, .wildcard]⟩, Rule.default, []⟩
          Method.get ⟨["42"]⟩,
        ⟨⟨["svc", "TEST", "v1", "acme"]⟩, some "acme", ⟨["books"]⟩, ⟨["42"]⟩,
          ⟨[("collection", "books")]⟩⟩⟩ :=
  ⟨rfl, resolve_partitions_path _ _ _ _ rfl⟩

end RestDispatch
