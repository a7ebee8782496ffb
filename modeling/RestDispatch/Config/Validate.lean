import RestDispatch.Config.Schema
import RestDispatch.Config.Error
import RestDispatch.Telemetry.Filter
import RestDispatch.Route.Method
import RestDispatch.Text.Blank

/-!
# Validating configurations

A configuration is checked in this order, and the first failure is reported:

1. the log level setting, when logging is on;
2. the service name, which must not be blank;
3. each Api in turn: that no earlier Api has the same name (ignoring ASCII
   case, two unnamed Apis counting as the same) and version; then each of its
   actions, each of its endpoints and their actions;
4. that an unnamed Api is the only Api.

An action must name a handler and an endpoint must have a name, neither blank.
Each method of a rule, trimmed of blanks, must be a non-empty token. Fields are
named by their path, as `apis[0].endpoints[1].methods`.
-/

namespace RestDispatch

open RestDispatch.Text

set_option autoImplicit false

/-- Check the methods of a rule at `field`. -/
def checkMethods (methods : List String) (field : String) : Except ConfigError Unit :=
  methods.forM fun m =>
    let t := trimBlank m
    if t.isEmpty then .error (.invalidValue (field ++ ".methods") "empty method name")
    else if (Method.ofString? t).isNone then
      .error (.invalidValue (field ++ ".methods") ("'" ++ m ++ "' is not a valid method token"))
    else .ok ()

/-- The path of an item of a list field. -/
def itemField (field : String) (i : Nat) : String :=
  field ++ "[" ++ toString i ++ "]"

/-- Check an action at `field`. -/
def ActionDef.check (a : ActionDef) (field : String) : Except ConfigError Unit :=
  if isBlankText a.handler then .error (.invalidValue (field ++ ".handler") "handler name is required")
  else checkMethods a.methods field

/-- Check actions under `field`. -/
def checkActions (actions : List ActionDef) (field : String) : Except ConfigError Unit :=
  actions.zipIdx.forM fun (a, i) => a.check (itemField field i)

/-- Check an endpoint at `field`. -/
def EndpointDef.check (e : EndpointDef) (field : String) : Except ConfigError Unit := do
  if isBlankText e.name then throw (.invalidValue (field ++ ".name") "endpoint name is required")
  checkMethods e.methods field
  checkActions e.actions (field ++ ".actions")

/-- Two Api names that select the same Api: equal ignoring ASCII case, or both absent. -/
def sameApiName : Option String → Option String → Bool
  | some a, some b => eqIgnoreAsciiCase a b
  | none, none => true
  | _, _ => false

/-- Check the Api at index `i`, given the ones before it. -/
def ApiDef.check (api : ApiDef) (earlier : List ApiDef) (i : Nat) : Except ConfigError Unit := do
  let field := itemField "apis" i
  if earlier.any (fun e => sameApiName e.name api.name && e.version == api.version) then
    throw (.validation (field ++ ": duplicate Api '" ++ api.name.getD "" ++ "' version '" ++
      api.version.getD "" ++ "'"))
  checkActions api.actions (field ++ ".actions")
  api.endpoints.zipIdx.forM fun (e, j) => e.check (itemField (field ++ ".endpoints") j)

/-- Check the route definitions. -/
def checkApis (apis : List ApiDef) : Except ConfigError Unit := do
  apis.zipIdx.forM fun (api, i) => api.check (apis.take i) i
  if apis.length > 1 && apis.any (·.name.isNone) then
    throw (.validation "an unnamed Api must be the only Api")

/-- Check a whole configuration. -/
def Config.validate (c : Config) : Except ConfigError Unit := do
  let logging := c.telemetry.logging
  if logging.enabled && !Telemetry.isValidFilter logging.level then
    throw (.invalidLevel logging.level)
  if isBlankText c.telemetry.serviceName then
    throw (.invalidValue "telemetry.service_name" "must not be empty")
  checkApis c.apis

end RestDispatch
