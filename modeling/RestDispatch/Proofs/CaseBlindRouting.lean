import RestDispatch.Proofs.CaselessConstraints
import RestDispatch.Proofs.Resolution

/-!
# Routing ignores ASCII case

A resolver reads a request in four ways. The servlet mapping, the endpoints'
patterns and the rules' patterns compare literals after lowering and hold
values to constraints; Api names are compared ignoring ASCII case; method
filters allow a method in any ASCII case; versions are compared exactly. So two
requests whose methods and paths differ only in the case of ASCII letters, and
whose paths agree exactly where versions are read, resolve alike: to the same
Api, endpoint and actions with routes equal once case-folded, or to failures
equal once case-folded, hence of one kind, a constraint violation naming the
same endpoint, variable and position.

Everything but the choice of the Api commutes with folding: an endpoint, the
endpoints of an Api in turn and the choice of actions answer the folded request
with the folded answer. An Api's claim reads a version, which does not fold, so
it is compared between the two paths directly.
-/

namespace RestDispatch

open RestDispatch.Text

set_option autoImplicit false

def EndpointMatch.foldCase (m : EndpointMatch) : EndpointMatch :=
  ⟨m.endpointPath.foldCase, m.subpath.foldCase, m.params.foldCase⟩

/-- The constraints of an endpoint's pattern, of its rule and of its actions'
rules. -/
def Endpoint.constraints (e : Endpoint) : List String :=
  e.pattern.constraints ++ e.rule.constraints ++ e.actions.flatMap fun b => b.rule.constraints

/-- The constraints of an Api's endpoints and of its shared actions' rules. -/
def Api.constraints (a : Api) : List String :=
  a.endpoints.flatMap Endpoint.constraints ++ a.actions.flatMap fun b => b.rule.constraints

/-- Every constraint a resolver holds a path to. -/
def Resolver.constraints (r : Resolver) : List String :=
  r.servletMapping.constraints ++ r.apis.flatMap Api.constraints

/-- The failure with the texts it takes from the request case-folded: the
path, the method of an unmatched request, and the value a constraint refused. -/
def DispatchError.foldCase : DispatchError → DispatchError
  | .noApiMatch path => .noApiMatch (asciiLower path)
  | .noEndpointMatch api method path => .noEndpointMatch api method.foldCase (asciiLower path)
  | .constraintViolation endpoint v => .constraintViolation endpoint v.foldCase
  | other => other

def Route.foldCase (r : Route) : Route :=
  ⟨r.apiPath.foldCase, r.tenant.map asciiLower, r.endpointPath.foldCase, r.subpath.foldCase,
    r.params.foldCase⟩

/-- The resolution with its route case-folded; the Api, the endpoint and the
actions stay. -/
def Resolution.foldCase (res : Resolution) : Resolution :=
  { res with route := res.route.foldCase }

/-- Where an Api reads its version among the segments after the servlet
mapping: after its name, or first when it has none, which is tried only when it
is the only Api. -/
def Api.versionIndex? (alone : Bool) (api : Api) : Option Nat :=
  match api.name, api.version with
  | some _, some _ => some 1
  | none, some _ => if alone then some 0 else none
  | _, none => none

/-- The positions of a path that some Api compares with its version. -/
def Resolver.versionPositions (r : Resolver) : List Nat :=
  r.apis.filterMap fun api =>
    (api.versionIndex? (r.apis.length == 1)).map (r.servletMapping.fixedPrefix.length + ·)

/-! ### Endpoints and actions commute with folding -/

namespace Endpoint

variable {e : Endpoint}

theorem pattern_ignoreCase (blind : ∀ src ∈ e.constraints, ConstraintIgnoresCase src) :
    ∀ src ∈ e.pattern.constraints, ConstraintIgnoresCase src :=
  fun src member => blind src (by simp [Endpoint.constraints, member])

theorem rule_ignoreCase (blind : ∀ src ∈ e.constraints, ConstraintIgnoresCase src) :
    ∀ src ∈ e.rule.constraints, ConstraintIgnoresCase src :=
  fun src member => blind src (by simp [Endpoint.constraints, member])

theorem route_foldCase (blind : ∀ src ∈ e.constraints, ConstraintIgnoresCase src)
    (method : Method) (x : Path) :
    e.route method.foldCase x.foldCase =
      ((e.route method x).mapError Violation.foldCase).map (Option.map EndpointMatch.foldCase) := by
  have extracted := e.pattern.extract_foldCase (pattern_ignoreCase blind) (Cursor.start x)
  have whole := e.pattern.matchPath_foldCase (pattern_ignoreCase blind) x
  have passes := e.rule.matchPath_foldCase (rule_ignoreCase blind)
  unfold route
  rw [Rule.allowsMethod_foldCase]
  split
  · rfl
  · rw [show Cursor.start x.foldCase = (Cursor.start x).foldCase from rfl, extracted]
    rcases e.pattern.extract (Cursor.start x) with ⟨outcome, cursor⟩
    cases outcome with
    | noMatch => rfl
    | violation v => rfl
    | matched pre =>
        simp only [PathMatch.foldCase, Cursor.remainder_foldCase, whole, passes]
        -- the captures come from the whole pattern or from the prefix, then the rule's patterns
        by_cases included : e.rule.includes.isEmpty = true
        · simp only [included, if_true]
          cases e.pattern.matchPath x <;> cases e.rule.matchPath cursor.remainder <;>
            simp [Except.map, Except.mapError, Extraction.foldCase, EndpointMatch.foldCase, Params.append_foldCase]
        · simp only [included]
          cases e.rule.matchPath cursor.remainder <;>
            simp [Except.map, Except.mapError, Extraction.foldCase, EndpointMatch.foldCase, Params.append_foldCase]

end Endpoint

namespace Resolver

variable {api : Api} {method : Method} {relative : Path}

theorem routeEndpoints_foldCase (endpoints : List Endpoint)
    (blind : ∀ e ∈ endpoints, ∀ src ∈ e.constraints, ConstraintIgnoresCase src)
    (refused : Option (Endpoint × Violation)) :
    routeEndpoints api method.foldCase relative.foldCase endpoints
        (refused.map fun (e, v) => (e, v.foldCase)) =
      ((routeEndpoints api method relative endpoints refused).mapError DispatchError.foldCase).map
        fun (e, found) => (e, found.foldCase) := by
  induction endpoints generalizing refused with
  | nil =>
      cases refused with
      | none => simp [routeEndpoints, Except.map, Except.mapError, DispatchError.foldCase, Path.render_foldCase]
      | some first => rfl
  | cons e rest induction =>
      have later : ∀ e' ∈ rest, ∀ src ∈ e'.constraints, ConstraintIgnoresCase src :=
        fun e' member => blind e' (List.mem_cons_of_mem e member)
      unfold routeEndpoints
      rw [e.route_foldCase (blind e List.mem_cons_self)]
      cases e.route method relative with
      | error v =>
          -- the first refusal is kept, folded on both sides
          have remembered : (refused.map fun (e, v) => (e, v.foldCase)).or (some (e, v.foldCase)) =
              (refused.or (some (e, v))).map fun (e, v) => (e, v.foldCase) := by
            cases refused <;> rfl
          simp only [Except.mapError, Except.map, remembered]
          exact induction later _
      | ok found =>
          cases found with
          | none => exact induction later refused
          | some found => rfl

theorem mem_of_routeEndpoints {endpoints : List Endpoint} {refused : Option (Endpoint × Violation)}
    {e : Endpoint} {found : EndpointMatch}
    (routed : routeEndpoints api method relative endpoints refused = .ok (e, found)) : e ∈ endpoints := by
  induction endpoints generalizing refused with
  | nil =>
      cases refused <;> simp [routeEndpoints] at routed
  | cons first rest induction =>
      unfold routeEndpoints at routed
      split at routed
      · simp only [Except.ok.injEq, Prod.mk.injEq] at routed
        rw [routed.1]
        exact List.mem_cons_self
      · exact List.mem_cons_of_mem first (induction routed)
      · exact List.mem_cons_of_mem first (induction routed)

end Resolver

theorem selectActions_foldCase (api : Api) (endpoint : Endpoint)
    (blind : ∀ b ∈ api.actions ++ endpoint.actions, ∀ src ∈ b.rule.constraints, ConstraintIgnoresCase src)
    (method : Method) (subpath : Path) :
    selectActions api endpoint method.foldCase subpath.foldCase = selectActions api endpoint method subpath := by
  have kept : ∀ candidates : List Binding, (∀ b ∈ candidates, ∀ src ∈ b.rule.constraints, ConstraintIgnoresCase src) →
      candidates.filter (fun b => b.rule.accepts method.foldCase subpath.foldCase) =
        candidates.filter fun b => b.rule.accepts method subpath :=
    fun candidates held => List.filter_congr fun b member => b.rule.accepts_foldCase (held b member) method subpath
  unfold selectActions
  dsimp only
  split
  · rw [kept api.actions fun b member => blind b (List.mem_append_left _ member)]
  · rw [kept endpoint.actions fun b member => blind b (List.mem_append_right _ member)]

/-! ### Apis claim alike -/

namespace Api

section Alike

variable {alone : Bool} {api : Api} {rest rest' : List String}

theorem claimsName_iff_of_foldCase (sameCase : rest.map asciiLower = rest'.map asciiLower) :
    api.ClaimsName alone rest ↔ api.ClaimsName alone rest' := by
  have heads : rest.head?.map asciiLower = rest'.head?.map asciiLower := by
    rw [← List.head?_map, ← List.head?_map, sameCase]
  unfold ClaimsName
  cases api.name with
  | none => exact Iff.rfl
  | some name =>
      cases first : rest.head? <;> cases first' : rest'.head? <;>
        simp_all [eqIgnoreAsciiCase_iff]

theorem versionIndex?_of_claimsName (named : api.ClaimsName alone rest) {version : String}
    (versioning : api.version = some version) :
    api.versionIndex? alone = some (if api.name.isSome then 1 else 0) := by
  unfold ClaimsName at named
  unfold versionIndex?
  cases naming : api.name with
  | none =>
      rw [naming] at named
      simp [versioning, named]
  | some name => simp [versioning]

theorem claimsVersion_iff (named : api.ClaimsName alone rest)
    (sameVersion : ∀ i ∈ api.versionIndex? alone, rest[i]? = rest'[i]?) :
    api.ClaimsVersion rest ↔ api.ClaimsVersion rest' := by
  unfold ClaimsVersion
  cases versioning : api.version with
  | none => exact Iff.rfl
  | some version =>
      rw [sameVersion _ (versionIndex?_of_claimsName named versioning)]

/-- Two lists of segments that fold alike and agree where the Api reads its
version are claimed alike: the name alike since it ignores case, and then the
version alike since it is read where the two agree. -/
theorem claims_iff_of_foldCase (sameCase : rest.map asciiLower = rest'.map asciiLower)
    (sameVersion : ∀ i ∈ api.versionIndex? alone, rest[i]? = rest'[i]?) :
    api.Claims alone rest ↔ api.Claims alone rest' := by
  have names : api.ClaimsName alone rest ↔ api.ClaimsName alone rest' := claimsName_iff_of_foldCase sameCase
  constructor
  · rintro ⟨named, versioned⟩
    exact ⟨names.1 named, (claimsVersion_iff named sameVersion).1 versioned⟩
  · rintro ⟨named', versioned'⟩
    have named := names.2 named'
    exact ⟨named, (claimsVersion_iff named sameVersion).2 versioned'⟩

end Alike

theorem tenantIn_map_asciiLower (api : Api) (rest : List String) :
    api.tenantIn (rest.map asciiLower) = (api.tenantIn rest).map asciiLower := by
  unfold tenantIn
  split <;> simp

theorem taken_map_asciiLower (api : Api) (rest : List String) :
    api.taken (rest.map asciiLower) = api.taken rest := by
  simp [taken, tenantIn_map_asciiLower]

section Alike

variable {api : Api} {rest rest' : List String}

theorem taken_eq_of_foldCase (sameCase : rest.map asciiLower = rest'.map asciiLower) :
    api.taken rest = api.taken rest' := by
  rw [← taken_map_asciiLower, sameCase, taken_map_asciiLower]

theorem tenantIn_foldCase_eq (sameCase : rest.map asciiLower = rest'.map asciiLower) :
    (api.tenantIn rest).map asciiLower = (api.tenantIn rest').map asciiLower := by
  rw [← tenantIn_map_asciiLower, sameCase, tenantIn_map_asciiLower]

end Alike

theorem endpoints_ignoreCase {api : Api} (blind : ∀ src ∈ api.constraints, ConstraintIgnoresCase src) :
    ∀ e ∈ api.endpoints, ∀ src ∈ e.constraints, ConstraintIgnoresCase src :=
  fun e member src held => blind src (List.mem_append_left _ (List.mem_flatMap.2 ⟨e, member, held⟩))

theorem bindings_ignoreCase {api : Api} (blind : ∀ src ∈ api.constraints, ConstraintIgnoresCase src)
    {e : Endpoint} (member : e ∈ api.endpoints) :
    ∀ b ∈ api.actions ++ e.actions, ∀ src ∈ b.rule.constraints, ConstraintIgnoresCase src := by
  intro b held src inside
  rcases List.mem_append.1 held with shared | own
  · exact blind src (List.mem_append_right _ (List.mem_flatMap.2 ⟨b, shared, inside⟩))
  · exact endpoints_ignoreCase blind e member src (List.mem_append_right _ (List.mem_flatMap.2 ⟨b, own, inside⟩))

end Api

theorem Resolver.api_ignoreCase {r : Resolver} (blind : ∀ src ∈ r.constraints, ConstraintIgnoresCase src)
    {api : Api} (member : api ∈ r.apis) : ∀ src ∈ api.constraints, ConstraintIgnoresCase src :=
  fun src held => blind src (List.mem_append_right _ (List.mem_flatMap.2 ⟨api, member, held⟩))

theorem Resolver.routeEndpoints_alike {api : Api} {m m' : Method} {relative relative' : Path}
    (blind : ∀ e ∈ api.endpoints, ∀ src ∈ e.constraints, ConstraintIgnoresCase src)
    (sameMethod : m.foldCase = m'.foldCase) (sameRelative : relative.foldCase = relative'.foldCase) :
    ((routeEndpoints api m relative api.endpoints none).mapError DispatchError.foldCase).map
        (fun (e, found) => (e, found.foldCase)) =
      ((routeEndpoints api m' relative' api.endpoints none).mapError DispatchError.foldCase).map
        fun (e, found) => (e, found.foldCase) := by
  rw [← routeEndpoints_foldCase api.endpoints blind none, ← routeEndpoints_foldCase api.endpoints blind none,
    sameMethod, sameRelative]

theorem selectActions_alike {api : Api} {endpoint : Endpoint} {m m' : Method} {subpath subpath' : Path}
    (blind : ∀ b ∈ api.actions ++ endpoint.actions, ∀ src ∈ b.rule.constraints, ConstraintIgnoresCase src)
    (sameMethod : m.foldCase = m'.foldCase) (sameSubpath : subpath.foldCase = subpath'.foldCase) :
    selectActions api endpoint m subpath = selectActions api endpoint m' subpath' := by
  rw [← selectActions_foldCase api endpoint blind m, ← selectActions_foldCase api endpoint blind m', sameMethod,
    sameSubpath]

/-! ### Resolving two requests alike -/

section Alike

variable {r : Resolver} {x y : Path}

theorem PathPattern.extract_isMatched_of_foldCase {p : PathPattern}
    (blind : ∀ src ∈ p.constraints, ConstraintIgnoresCase src) (samePath : x.foldCase = y.foldCase) :
    (p.extract (Cursor.start x)).1.isMatched = (p.extract (Cursor.start y)).1.isMatched := by
  have sameStart : (Cursor.start x).foldCase = (Cursor.start y).foldCase := by
    simp [Cursor.start, Cursor.foldCase, samePath]
  have folded := p.extract_foldCase blind (Cursor.start x)
  rw [sameStart, p.extract_foldCase blind (Cursor.start y)] at folded
  rw [← PathMatch.isMatched_foldCase, ← PathMatch.isMatched_foldCase (p.extract (Cursor.start y)).1]
  exact congrArg (fun pair => pair.1.isMatched) folded.symm

theorem Resolver.afterMapping_foldCase (samePath : x.foldCase = y.foldCase) :
    (r.afterMapping x).map asciiLower = (r.afterMapping y).map asciiLower := by
  have segments : x.segments.map asciiLower = y.segments.map asciiLower := congrArg Path.segments samePath
  simp only [Resolver.afterMapping, List.map_drop, segments]

theorem Resolver.claims_alike (samePath : x.foldCase = y.foldCase)
    (versions : ∀ i ∈ r.versionPositions, x.get? i = y.get? i) :
    ∀ api ∈ r.apis, api.Claims (r.apis.length == 1) (r.afterMapping x) ↔
      api.Claims (r.apis.length == 1) (r.afterMapping y) := by
  intro api member
  apply Api.claims_iff_of_foldCase (r.afterMapping_foldCase samePath)
  intro i read
  -- the index counts from the end of the servlet mapping's prefix
  have position : r.servletMapping.fixedPrefix.length + i ∈ r.versionPositions :=
    List.mem_filterMap.2 ⟨api, member, by simp [Option.mem_def.1 read]⟩
  have agree := versions _ position
  simp only [Path.get?] at agree
  simp only [Resolver.afterMapping, List.getElem?_drop, agree]

/-- Routed outcomes equal once folded give resolutions equal once folded, when
each pair of matches equal once folded builds resolutions equal once folded. -/
theorem map_resolution_foldCase {outcome outcome' : Except DispatchError (Endpoint × EndpointMatch)}
    (same : (outcome.mapError DispatchError.foldCase).map (fun (e, found) => (e, found.foldCase)) =
      (outcome'.mapError DispatchError.foldCase).map fun (e, found) => (e, found.foldCase))
    (build build' : Endpoint × EndpointMatch → Resolution)
    (builds : ∀ e found found', outcome = .ok (e, found) → found.foldCase = found'.foldCase →
      (build (e, found)).foldCase = (build' (e, found')).foldCase) :
    ((outcome.map build).mapError DispatchError.foldCase).map Resolution.foldCase =
      ((outcome'.map build').mapError DispatchError.foldCase).map Resolution.foldCase := by
  cases outcome with
  | error failure =>
      cases outcome' with
      | error failure' => simpa [Except.map, Except.mapError] using same
      | ok chosen' => simp [Except.map, Except.mapError] at same
  | ok chosen =>
      cases outcome' with
      | error failure' => simp [Except.map, Except.mapError] at same
      | ok chosen' =>
          obtain ⟨e, found⟩ := chosen
          obtain ⟨e', found'⟩ := chosen'
          simp only [Except.map, Except.mapError, Except.ok.injEq, Prod.mk.injEq] at same
          obtain ⟨rfl, sameFound⟩ := same
          simp only [Except.map, Except.mapError, Except.ok.injEq]
          exact builds e found found' rfl sameFound

end Alike

/-- Two requests whose methods and paths differ only in the case of ASCII
letters, and whose paths agree exactly where an Api reads its version, resolve
alike when every constraint ignores ASCII case: to the same Api, endpoint and
actions with routes equal once case-folded, or to failures equal once
case-folded. -/
theorem resolve_ignores_ascii_case (r : Resolver) (m m' : Method) (x y : Path)
    (blind : ∀ src ∈ r.constraints, ConstraintIgnoresCase src)
    (sameMethod : m.foldCase = m'.foldCase) (samePath : x.foldCase = y.foldCase)
    (versions : ∀ i ∈ r.versionPositions, x.get? i = y.get? i) :
    ((r.resolve m x).mapError DispatchError.foldCase).map Resolution.foldCase =
      ((r.resolve m' y).mapError DispatchError.foldCase).map Resolution.foldCase := by
  have mapped := PathPattern.extract_isMatched_of_foldCase
    (fun src member => blind src (List.mem_append_left _ member)) samePath
  have claimsAlike := r.claims_alike samePath versions
  have restCase := r.afterMapping_foldCase samePath
  obtain ⟨outcome, rules⟩ := Resolves.exists_outcome r m x
  rw [rules.run]
  cases rules with
  | unmapped unread =>
      have other : Resolves r m' y _ := .unmapped (mapped ▸ unread)
      rw [other.run]
      simp only [Except.mapError, Except.map, DispatchError.foldCase, ← Path.render_foldCase, samePath]
  | unclaimed read unclaimed =>
      have other : Resolves r m' y _ :=
        .unclaimed (mapped ▸ read) fun api member claimed => unclaimed api member ((claimsAlike api member).2 claimed)
      rw [other.run]
      simp only [Except.mapError, Except.map, DispatchError.foldCase, ← Path.render_foldCase, Path.foldCase,
        restCase]
  | chosen before later api outcome read listed passed claimed routes =>
      have member : api ∈ r.apis := by simp [listed]
      have apiBlind := Resolver.api_ignoreCase blind member
      have sameTaken : api.taken (r.afterMapping x) = api.taken (r.afterMapping y) :=
        Api.taken_eq_of_foldCase restCase
      have relative : (Path.mk ((r.afterMapping x).drop (api.taken (r.afterMapping x)))).foldCase =
          (Path.mk ((r.afterMapping y).drop (api.taken (r.afterMapping y)))).foldCase := by
        simp only [Path.foldCase, List.map_drop, restCase, sameTaken]
      have routes' := (routeEndpoints_eq_iff api m'
        ⟨(r.afterMapping y).drop (api.taken (r.afterMapping y))⟩ _).1 rfl
      have other : Resolves r m' y _ :=
        .chosen before later api _ (mapped ▸ read) listed
          (fun b held claimedY => passed b held ((claimsAlike b (by simp [listed, held])).2 claimedY))
          ((claimsAlike api member).1 claimed) routes'
      rw [other.run]
      -- the endpoints answer the two requests alike, and each match builds the same resolution once folded
      have routed := Resolver.routeEndpoints_alike (Api.endpoints_ignoreCase apiBlind) sameMethod relative
      rw [routes.run] at routed
      apply map_resolution_foldCase routed
      intro e found found' chosen sameFound
      have subpaths : found.subpath.foldCase = found'.subpath.foldCase := congrArg EndpointMatch.subpath sameFound
      have actions := selectActions_alike
        (Api.bindings_ignoreCase apiBlind (Resolver.mem_of_routeEndpoints (routes.run.trans chosen))) sameMethod subpaths
      have segments : x.segments.map asciiLower = y.segments.map asciiLower := congrArg Path.segments samePath
      have apiPaths : (Path.mk (x.segments.take (r.servletMapping.fixedPrefix.length +
            api.taken (r.afterMapping x)))).foldCase =
          (Path.mk (y.segments.take (r.servletMapping.fixedPrefix.length +
            api.taken (r.afterMapping y)))).foldCase := by
        simp only [Path.foldCase, List.map_take, segments, sameTaken]
      simp only [EndpointMatch.foldCase, EndpointMatch.mk.injEq] at sameFound
      obtain ⟨endpointPaths, -, params⟩ := sameFound
      simp only [Resolution.foldCase, Route.foldCase, apiPaths, Api.tenantIn_foldCase_eq restCase, actions,
        endpointPaths, subpaths, params]

/-- The Api `shop` at version `V2`, whose endpoint `item` reads `items/{id:(?-u:[0-9]+)}`. -/
def shopV2 : Api :=
  ⟨some "shop", some "V2", false,
    [⟨"item", ⟨"items/\x7bid:(?-u:[0-9]+)\x7d", [.literal "items", .variable "id" (some "(?-u:[0-9]+)")]⟩,
      Rule.default, []⟩], []⟩

/-- `get SHOP/V2/Items/7` and `GET shop/V2/ITEMS/7` differ in ASCII case only,
and not in the version, so they resolve alike; the one constraint, the ASCII
digits `(?-u:[0-9]+)`, is case-blind once read. -/
theorem resolve_ignores_ascii_case_shop :
    (∀ src ∈ (Resolver.new [shopV2]).constraints, ConstraintIgnoresCase src) ∧
    Method.foldCase ⟨"get"⟩ = Method.foldCase ⟨"GET"⟩ ∧
    Path.foldCase ⟨["SHOP", "V2", "Items", "7"]⟩ = Path.foldCase ⟨["shop", "V2", "ITEMS", "7"]⟩ ∧
    (∀ i ∈ (Resolver.new [shopV2]).versionPositions,
      Path.get? ⟨["SHOP", "V2", "Items", "7"]⟩ i = Path.get? ⟨["shop", "V2", "ITEMS", "7"]⟩ i) ∧
    (((Resolver.new [shopV2]).resolve ⟨"get"⟩ ⟨["SHOP", "V2", "Items", "7"]⟩).mapError
        DispatchError.foldCase).map Resolution.foldCase =
      (((Resolver.new [shopV2]).resolve ⟨"GET"⟩ ⟨["shop", "V2", "ITEMS", "7"]⟩).mapError
        DispatchError.foldCase).map Resolution.foldCase := by
  have blind : ∀ src ∈ (Resolver.new [shopV2]).constraints, ConstraintIgnoresCase src := by
    intro src member
    have digits : (Resolver.new [shopV2]).constraints = ["(?-u:[0-9]+)"] := rfl
    rw [digits, List.mem_singleton] at member
    rw [member]
    exact constraintIgnoresCase_of_caseBlind (by decide +kernel)
  have methods : Method.foldCase ⟨"get"⟩ = Method.foldCase ⟨"GET"⟩ := by decide
  have paths : Path.foldCase ⟨["SHOP", "V2", "Items", "7"]⟩ = Path.foldCase ⟨["shop", "V2", "ITEMS", "7"]⟩ := by
    rw [Path.foldCase_eq_iff]
    decide
  have versions : ∀ i ∈ (Resolver.new [shopV2]).versionPositions,
      Path.get? ⟨["SHOP", "V2", "Items", "7"]⟩ i = Path.get? ⟨["shop", "V2", "ITEMS", "7"]⟩ i := by
    have positions : (Resolver.new [shopV2]).versionPositions = [1] := rfl
    simp [positions, Path.get?]
  exact ⟨blind, methods, paths, versions,
    resolve_ignores_ascii_case _ _ _ _ _ blind methods paths versions⟩

end RestDispatch
