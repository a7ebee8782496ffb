import RestDispatch.Service.Build
import RestDispatch.Proofs.CaseFolding

/-!
# Engines built from configurations

Building an engine from a configuration and a registry of handlers fails in
two ways only. A configuration that does not validate is refused with its
validation error. A valid one fails at the first action definition, in build
order, whose handler is not registered: the Api's shared actions, then each
endpoint's actions, Api after Api. It never fails on a method list, since
every list that validation accepts reads as a method filter once upper-cased.

`FailsAtFirst` is the shape of every part of the build: it fails at the first
unregistered handler among its action definitions, or succeeds. A single
binding has it; `bind`, folds and maps keep it; so the whole build has it.
-/

namespace RestDispatch

open RestDispatch.Text

set_option autoImplicit false

section Methods

theorem isUpper_ofNat (n : Nat) (lo : 65 ≤ n) (hi : n ≤ 90) : (Char.ofNat n).isUpper = true := by
  have valid : n.isValidChar := by
    unfold Nat.isValidChar
    omega
  have bounds : 'A' ≤ Char.ofNat n ∧ Char.ofNat n ≤ 'Z' := by
    rw [upper_iff_toNat, toNat_ofNat_of_isValidChar valid]
    exact ⟨lo, hi⟩
  exact decide_eq_true bounds

theorem isTokenChar_asciiUpperChar (c : Char) (token : isTokenChar c = true) :
    isTokenChar (asciiUpperChar c) = true := by
  unfold asciiUpperChar
  split
  · rename_i lower
    have lowerNat : 97 ≤ c.toNat ∧ c.toNat ≤ 122 := by
      simp only [Char.le_def, UInt32.le_iff_toNat_le] at lower
      exact lower
    have upper := isUpper_ofNat (c.toNat - 32) (by omega) (by omega)
    have alphanum : (Char.ofNat (c.toNat - 32)).isAlphanum = true := by
      show ((Char.ofNat (c.toNat - 32)).isUpper || _ || _) = true
      rw [upper]
      rfl
    simp [isTokenChar, alphanum]
  · exact token

theorem ofString?_asciiUpper {name : String} {m : Method} (read : Method.ofString? name = some m) :
    Method.ofString? (asciiUpper name) = some ⟨asciiUpper name⟩ := by
  unfold Method.ofString? at read ⊢
  split at read
  case isFalse => cases read
  rename_i accepted
  simp only [Bool.and_eq_true, Bool.not_eq_true', List.all_eq_true] at accepted
  obtain ⟨nonEmpty, tokens⟩ := accepted
  have upperNonEmpty : (asciiUpper name).isEmpty = false := by
    rw [← Bool.not_eq_true, String.isEmpty_iff, ← String.toList_eq_nil_iff] at nonEmpty ⊢
    simpa [asciiUpper] using nonEmpty
  have upperTokens : ∀ c ∈ (asciiUpper name).toList, isTokenChar c = true := by
    simp only [asciiUpper, String.toList_ofList, List.mem_map]
    rintro _ ⟨c, member, rfl⟩
    exact isTokenChar_asciiUpperChar c (tokens c member)
  rw [if_pos (by simp [upperNonEmpty, List.all_eq_true.2 upperTokens])]

/-- A method name as validation accepts it: trimmed, it is a token. -/
def MethodNameValid (name : String) : Prop :=
  ∃ m, Method.ofString? (trimBlank name) = some m

/-- Every name of a method list is valid. -/
def MethodsValid (methods : List String) : Prop :=
  ∀ name ∈ methods, MethodNameValid name

theorem insertNames_ok (s : MethodSet) {names : List String} (valid : MethodsValid names) :
    ∃ ms, s.insertNames names = .ok ms := by
  induction names generalizing s with
  | nil => exact ⟨s, rfl⟩
  | cons name rest induction =>
    have restValid : MethodsValid rest := fun n member => valid n (List.mem_cons_of_mem name member)
    obtain ⟨m, read⟩ := valid name List.mem_cons_self
    unfold MethodSet.insertNames
    dsimp only
    split
    · exact induction s restValid
    · have upper : MethodSet.normalize (trimBlank name) = .ok ⟨asciiUpper (trimBlank name)⟩ := by
        simp [MethodSet.normalize, Method.parse, ofString?_asciiUpper read]
      rw [upper]
      exact induction _ restValid

theorem ofNames_ok (methods : List String) (valid : MethodsValid methods) :
    ∃ ms, MethodSet.ofNames methods = .ok ms :=
  insertNames_ok MethodSet.any valid

theorem ruleOfDefinition_ok (location : String) {methods : List String} (valid : MethodsValid methods)
    (includes excludes : List String) (order : Option Int) (settings : Settings) :
    ∃ r, ruleOfDefinition location methods includes excludes order settings = .ok r := by
  obtain ⟨ms, read⟩ := ofNames_ok methods valid
  exact ⟨_, by simp only [ruleOfDefinition, read]; rfl⟩

end Methods

section Validation

theorem Except.bind_eq_ok {ε α β : Type} {x : Except ε α} {f : α → Except ε β} {b : β}
    (h : (x >>= f) = .ok b) : ∃ a, x = .ok a ∧ f a = .ok b := by
  cases x with
  | error e => cases h
  | ok a => exact ⟨a, rfl, h⟩

theorem forM_eq_ok_iff {α ε : Type} (l : List α) (f : α → Except ε Unit) :
    l.forM f = .ok () ↔ ∀ x ∈ l, f x = .ok () := by
  induction l with
  | nil => exact ⟨fun _ _ absent => absurd absent List.not_mem_nil, fun _ => rfl⟩
  | cons x rest induction =>
    unfold List.forM
    constructor
    · intro checked y member
      obtain ⟨_, first, later⟩ := Except.bind_eq_ok checked
      rcases List.mem_cons.1 member with rfl | inRest
      · exact first
      · exact induction.1 later y inRest
    · intro each
      rw [each x List.mem_cons_self]
      exact induction.2 fun y member => each y (List.mem_cons_of_mem x member)

theorem exists_mem_zipIdx {α : Type} {l : List α} {a : α} (member : a ∈ l) : ∃ i, (a, i) ∈ l.zipIdx := by
  obtain ⟨i, found⟩ := List.mem_iff_getElem?.1 member
  exact ⟨i, List.mem_zipIdx_iff_getElem?.2 found⟩

variable {field : String}

theorem checkMethods_valid {methods : List String} (checked : checkMethods methods field = .ok ()) :
    MethodsValid methods := by
  intro name member
  have each := (forM_eq_ok_iff _ _).1 checked name member
  dsimp only at each
  split at each
  · cases each
  · split at each
    · cases each
    · rename_i read
      cases found : Method.ofString? (trimBlank name) with
      | none => simp [found] at read
      | some m => exact ⟨m, found⟩

theorem checkActions_valid {actions : List ActionDef} (checked : checkActions actions field = .ok ()) :
    ∀ a ∈ actions, MethodsValid a.methods := by
  intro a member
  obtain ⟨i, indexed⟩ := exists_mem_zipIdx member
  have each : a.check (itemField field i) = .ok () := (forM_eq_ok_iff _ _).1 checked (a, i) indexed
  unfold ActionDef.check at each
  split at each
  · cases each
  · exact checkMethods_valid each

theorem EndpointDef.check_valid {e : EndpointDef} (checked : e.check field = .ok ()) :
    MethodsValid e.methods ∧ ∀ a ∈ e.actions, MethodsValid a.methods := by
  unfold EndpointDef.check at checked
  split at checked
  · obtain ⟨_, refused, _⟩ := Except.bind_eq_ok checked
    cases refused
  · obtain ⟨_, methods, actions⟩ := Except.bind_eq_ok checked
    exact ⟨checkMethods_valid methods, checkActions_valid actions⟩

/-- The method lists of an Api definition, all valid: its shared actions', its
endpoints' and their actions'. -/
def ApiDef.MethodsValid (d : ApiDef) : Prop :=
  (∀ a ∈ d.actions, RestDispatch.MethodsValid a.methods) ∧
    ∀ e ∈ d.endpoints, RestDispatch.MethodsValid e.methods ∧ ∀ a ∈ e.actions, RestDispatch.MethodsValid a.methods

theorem ApiDef.check_valid {d : ApiDef} {earlier : List ApiDef} {i : Nat}
    (checked : d.check earlier i = .ok ()) : d.MethodsValid := by
  unfold ApiDef.check at checked
  split at checked
  · obtain ⟨_, refused, _⟩ := Except.bind_eq_ok checked
    cases refused
  · obtain ⟨_, actions, endpoints⟩ := Except.bind_eq_ok checked
    refine ⟨checkActions_valid actions, fun e member => ?_⟩
    obtain ⟨j, indexed⟩ := exists_mem_zipIdx member
    exact EndpointDef.check_valid ((forM_eq_ok_iff _ _).1 endpoints (e, j) indexed)

theorem Config.validate_methodsValid {c : Config} (valid : c.validate = .ok ()) :
    ∀ d ∈ c.apis, d.MethodsValid := by
  have apisChecked : checkApis c.apis = .ok () := by
    unfold Config.validate at valid
    dsimp only at valid
    split at valid
    · obtain ⟨_, refused, _⟩ := Except.bind_eq_ok valid
      cases refused
    · split at valid
      · obtain ⟨_, refused, _⟩ := Except.bind_eq_ok valid
        cases refused
      · exact valid
  obtain ⟨_, each, _⟩ := Except.bind_eq_ok apisChecked
  intro d member
  obtain ⟨i, indexed⟩ := exists_mem_zipIdx member
  exact ApiDef.check_valid ((forM_eq_ok_iff _ _).1 each (d, i) indexed)

end Validation

/-- The label of an Api definition: its name, or the empty text. -/
def ApiDef.label (d : ApiDef) : String :=
  d.name.getD ""

/-- The action definitions of an Api in build order, each with the location of
what holds it: the Api's label for a shared action, `label/endpoint` for an
endpoint's. -/
def ApiDef.actionSites (d : ApiDef) : List (ActionDef × String) :=
  d.actions.map (fun a => (a, d.label)) ++
    d.endpoints.flatMap fun e => e.actions.map fun a => (a, d.label ++ "/" ++ e.name)

/-- The action definitions of a configuration in build order. -/
def Config.actionSites (c : Config) : List (ActionDef × String) :=
  c.apis.flatMap ApiDef.actionSites

/-- The handler and location of the first action definition whose handler is
not registered. -/
def Registry.firstUnknown (reg : Registry) (sites : List (ActionDef × String)) :
    Option (String × String) :=
  (sites.find? fun s => !reg.contains s.1.handler).map fun s => (s.1.handler, s.2 ++ "#" ++ s.1.bindingName)

theorem Registry.firstUnknown_append (reg : Registry) (first second : List (ActionDef × String)) :
    reg.firstUnknown (first ++ second) = (reg.firstUnknown first).or (reg.firstUnknown second) := by
  simp only [firstUnknown, List.find?_append, Option.map_or]

theorem Registry.bind_isSome (reg : Registry) (handler name : String) :
    (reg.bind handler name).isSome = reg.contains handler := by
  simp only [bind, get?, contains, Option.isSome_map]
  rw [Bool.eq_iff_iff, List.find?_isSome, List.any_eq_true]

/-- A part of the build over some action definitions fails at the first whose
handler is not registered, naming it, and succeeds when there is none. -/
def FailsAtFirst {α : Type} (reg : Registry) (sites : List (ActionDef × String))
    (result : Except EngineError α) : Prop :=
  match reg.firstUnknown sites with
  | some (handler, location) => result = .error (.unknownHandler handler location)
  | none => ∃ v, result = .ok v

namespace FailsAtFirst

variable {reg : Registry}

theorem pure {α : Type} (v : α) : FailsAtFirst reg [] (Pure.pure v : Except EngineError α) :=
  ⟨v, rfl⟩

theorem bind {α β : Type} {first second : List (ActionDef × String)} {x : Except EngineError α}
    {f : α → Except EngineError β} (failsFirst : FailsAtFirst reg first x)
    (failsSecond : ∀ v, FailsAtFirst reg second (f v)) : FailsAtFirst reg (first ++ second) (x >>= f) := by
  unfold FailsAtFirst at failsFirst ⊢
  rw [Registry.firstUnknown_append]
  cases found : reg.firstUnknown first with
  | some failure =>
    rw [found] at failsFirst
    obtain ⟨handler, location⟩ := failure
    simp only [Option.some_or]
    rw [failsFirst]
    rfl
  | none =>
    rw [found] at failsFirst
    obtain ⟨v, rfl⟩ := failsFirst
    simp only [Option.none_or]
    exact failsSecond v

theorem outcome {α : Type} {sites : List (ActionDef × String)} {x : Except EngineError α}
    (fails : FailsAtFirst reg sites x) :
    (∃ handler location, reg.firstUnknown sites = some (handler, location) ∧
      x = .error (.unknownHandler handler location)) ∨
    (reg.firstUnknown sites = none ∧ ∃ v, x = .ok v) := by
  unfold FailsAtFirst at fails
  cases found : reg.firstUnknown sites with
  | some failure =>
    rw [found] at fails
    obtain ⟨handler, location⟩ := failure
    exact .inl ⟨handler, location, rfl, fails⟩
  | none =>
    rw [found] at fails
    exact .inr ⟨rfl, fails⟩

theorem bind_pure {α β : Type} {sites : List (ActionDef × String)} {x : Except EngineError α}
    (fails : FailsAtFirst reg sites x) (g : α → β) :
    FailsAtFirst reg sites (x >>= fun v => Pure.pure (g v)) := by
  have kept := fails.bind fun v => pure (g v)
  rwa [List.append_nil] at kept

theorem foldlM {α β : Type} (sitesOf : α → List (ActionDef × String)) (step : β → α → Except EngineError β)
    (xs : List α) (each : ∀ x ∈ xs, ∀ acc, FailsAtFirst reg (sitesOf x) (step acc x)) (init : β) :
    FailsAtFirst reg (xs.flatMap sitesOf) (xs.foldlM step init) := by
  induction xs generalizing init with
  | nil => exact pure init
  | cons x rest induction =>
    rw [List.foldlM_cons, List.flatMap_cons]
    exact (each x List.mem_cons_self init).bind fun acc =>
      induction (fun y member => each y (List.mem_cons_of_mem x member)) acc

theorem mapM {α β : Type} (sitesOf : α → List (ActionDef × String)) (f : α → Except EngineError β)
    (xs : List α) (each : ∀ x ∈ xs, FailsAtFirst reg (sitesOf x) (f x)) :
    FailsAtFirst reg (xs.flatMap sitesOf) (xs.mapM f) := by
  induction xs with
  | nil => exact pure []
  | cons x rest induction =>
    rw [List.mapM_cons, List.flatMap_cons, ← List.append_nil (List.flatMap sitesOf rest)]
    exact (each x List.mem_cons_self).bind fun b =>
      (induction fun y member => each y (List.mem_cons_of_mem x member)).bind fun bs => pure (b :: bs)

end FailsAtFirst

theorem ActionDef.bind_failsAtFirst (a : ActionDef) (reg : Registry) (parent : String)
    (valid : MethodsValid a.methods) : FailsAtFirst reg [(a, parent)] (a.bind reg parent) := by
  obtain ⟨rule, built⟩ := ruleOfDefinition_ok (parent ++ "#" ++ a.bindingName) valid
    a.includePaths a.excludePaths a.order a.settings
  have bound := reg.bind_isSome a.handler a.bindingName
  unfold FailsAtFirst Registry.firstUnknown
  cases registered : reg.contains a.handler with
  | true =>
    obtain ⟨binding, found⟩ := Option.isSome_iff_exists.1 (bound.trans registered)
    simp only [List.find?_singleton, registered, Bool.not_true, Bool.false_eq_true, if_false,
      Option.map_none]
    exact ⟨_, by simp only [ActionDef.bind, found, built]; rfl⟩
  | false =>
    have unbound : reg.bind a.handler a.bindingName = none := by
      rw [← Option.not_isSome_iff_eq_none, bound, registered]
      decide
    simp only [List.find?_singleton, registered, Bool.not_false, if_true, Option.map_some]
    simp only [ActionDef.bind, unbound]
    rfl

theorem EndpointDef.build_failsAtFirst (e : EndpointDef) (reg : Registry) (api : String)
    (valid : MethodsValid e.methods ∧ ∀ a ∈ e.actions, MethodsValid a.methods) :
    FailsAtFirst reg (e.actions.map fun a => (a, api ++ "/" ++ e.name)) (e.build reg api) := by
  obtain ⟨rule, built⟩ := ruleOfDefinition_ok (api ++ "/" ++ e.name) valid.1
    e.includePaths e.excludePaths e.order e.settings
  rw [List.map_eq_flatMap]
  simp only [EndpointDef.build, built]
  apply FailsAtFirst.foldlM
  intro a member endpoint
  exact (a.bind_failsAtFirst reg _ (valid.2 a member)).bind_pure _


theorem ApiDef.build_failsAtFirst (d : ApiDef) (reg : Registry) (valid : d.MethodsValid) :
    FailsAtFirst reg d.actionSites (d.build reg) := by
  obtain ⟨name, version, multiTenant, actions, endpoints⟩ := d
  obtain ⟨actionsValid, endpointsValid⟩ := valid
  unfold ApiDef.actionSites
  rw [List.map_eq_flatMap]
  -- whatever its version, the Api under construction is labelled with the definition's name
  cases name <;> cases version <;>
    exact (FailsAtFirst.foldlM _ _ actions (fun a member _ =>
        (a.bind_failsAtFirst reg _ (actionsValid a member)).bind_pure _) _).bind
      fun api => FailsAtFirst.foldlM _ _ endpoints (fun e member _ =>
        (e.build_failsAtFirst reg _ (endpointsValid e member)).bind_pure _) api

theorem Engine.fromConfig_invalid {c : Config} (reg : Registry) {e : ConfigError}
    (invalid : c.validate = .error e) : Engine.fromConfig c reg = .error (.config e) := by
  unfold Engine.fromConfig
  rw [invalid]
  rfl

theorem Engine.fromConfig_failsAtFirst {c : Config} (reg : Registry) (valid : c.validate = .ok ()) :
    FailsAtFirst reg c.actionSites (Engine.fromConfig c reg) := by
  have methodsValid := Config.validate_methodsValid valid
  have apis := FailsAtFirst.mapM ApiDef.actionSites (·.build reg) c.apis fun d member =>
    d.build_failsAtFirst reg (methodsValid d member)
  have whole := apis.bind_pure fun built =>
    Engine.build built c.engine.servletMapping c.engine.debug c.engine.errorBodies
  unfold Engine.fromConfig
  rw [valid]
  exact whole

theorem Registry.firstUnknown_eq_none_iff (reg : Registry) (sites : List (ActionDef × String)) :
    reg.firstUnknown sites = none ↔ ∀ s ∈ sites, reg.contains s.1.handler = true := by
  simp [Registry.firstUnknown, List.find?_eq_none]

/-- Where a build from a configuration stops: the first action definition, in
build order, whose handler is not registered, reported with its location. -/
def Config.FirstUnknownHandler (c : Config) (reg : Registry) (handler location : String) : Prop :=
  ∃ before a parent after, c.actionSites = before ++ (a, parent) :: after ∧
    (∀ s ∈ before, reg.contains s.1.handler = true) ∧ reg.contains a.handler = false ∧
    handler = a.handler ∧ location = parent ++ "#" ++ a.bindingName

theorem Registry.firstUnknown_eq_some_iff (c : Config) (reg : Registry) (handler location : String) :
    reg.firstUnknown c.actionSites = some (handler, location) ↔
      c.FirstUnknownHandler reg handler location := by
  unfold Registry.firstUnknown Config.FirstUnknownHandler
  rw [Option.map_eq_some_iff]
  constructor
  · rintro ⟨⟨a, parent⟩, found, named⟩
    obtain ⟨unregistered, before, after, split, earlier⟩ := List.find?_eq_some_iff_append.1 found
    simp only [Prod.mk.injEq] at named
    refine ⟨before, a, parent, after, split, fun s member => ?_, by simpa using unregistered,
      named.1.symm, named.2.symm⟩
    simpa using earlier s member
  · rintro ⟨before, a, parent, after, split, earlier, unregistered, rfl, rfl⟩
    have found : c.actionSites.find? (fun s => !reg.contains s.1.handler) = some (a, parent) :=
      List.find?_eq_some_iff_append.2 ⟨by simpa using unregistered, before, after, split,
        fun s member => by simpa using earlier s member⟩
    exact ⟨(a, parent), found, rfl⟩

/-- Building fails only with the validation error or at an unregistered
handler. -/
theorem Engine.fromConfig_error_cases {c : Config} {reg : Registry} {failure : EngineError}
    (failed : Engine.fromConfig c reg = .error failure) :
    (∃ e, failure = .config e ∧ c.validate = .error e) ∨
      ∃ handler location, failure = .unknownHandler handler location := by
  cases validated : c.validate with
  | error invalid =>
    rw [Engine.fromConfig_invalid reg validated, Except.error.injEq] at failed
    exact .inl ⟨invalid, failed.symm, rfl⟩
  | ok u =>
    rcases (Engine.fromConfig_failsAtFirst reg validated).outcome with
      ⟨handler, location, -, built⟩ | ⟨-, g, built⟩
    · rw [built, Except.error.injEq] at failed
      exact .inr ⟨handler, location, failed.symm⟩
    · rw [built] at failed
      cases failed

/-- How building an engine from a configuration ends. -/
structure BuildsAsChecked (c : Config) (reg : Registry) : Prop where
  /-- A configuration that does not validate is refused with its validation error. -/
  refused : ∀ e, Engine.fromConfig c reg = .error (.config e) ↔ c.validate = .error e
  /-- A valid one fails at the first action definition whose handler is not registered. -/
  unknownHandler : c.validate = .ok () → ∀ handler location,
    Engine.fromConfig c reg = .error (.unknownHandler handler location) ↔
      c.FirstUnknownHandler reg handler location
  /-- A valid one with every handler registered is built. -/
  built : c.validate = .ok () →
    ((∃ g, Engine.fromConfig c reg = .ok g) ↔ ∀ s ∈ c.actionSites, reg.contains s.1.handler = true)
  /-- No method list stops a build. -/
  noInvalidMethod : ∀ location, Engine.fromConfig c reg ≠ .error (.invalidMethod location)
  /-- Every method list that validation accepts reads as a method filter. -/
  methodsRead : ∀ methods field, checkMethods methods field = .ok () →
    ∃ ms, MethodSet.ofNames methods = .ok ms

/-- Building an engine from a configuration fails with the validation error
exactly when the configuration does not validate; otherwise it fails exactly
when some action definition names an unregistered handler, at the first such
definition in build order and with its location; it never fails on a method
list. -/
theorem fromConfig_fails_as_checked (c : Config) (reg : Registry) : BuildsAsChecked c reg where
  refused e := by
    constructor
    · intro failed
      rcases Engine.fromConfig_error_cases failed with ⟨e', same, invalid⟩ | ⟨handler, location, same⟩
      · cases same
        exact invalid
      · cases same
    · intro invalid
      exact Engine.fromConfig_invalid reg invalid
  unknownHandler valid handler location := by
    rw [← Registry.firstUnknown_eq_some_iff]
    rcases (Engine.fromConfig_failsAtFirst reg valid).outcome with
      ⟨handler', location', found, failed⟩ | ⟨found, g, built⟩
    · simp [failed, found, eq_comm]
    · simp [built, found]
  built valid := by
    rw [← Registry.firstUnknown_eq_none_iff]
    rcases (Engine.fromConfig_failsAtFirst reg valid).outcome with
      ⟨handler, location, found, failed⟩ | ⟨found, g, built⟩
    · simp [failed, found]
    · exact ⟨fun _ => found, fun _ => ⟨g, built⟩⟩
  noInvalidMethod location failed := by
    rcases Engine.fromConfig_error_cases failed with ⟨e, same, -⟩ | ⟨handler, location', same⟩ <;>
      cases same
  methodsRead methods _ checked := ofNames_ok methods (checkMethods_valid checked)

end RestDispatch
