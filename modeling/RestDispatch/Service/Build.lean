import RestDispatch.Service.Engine
import RestDispatch.Service.Registry
import RestDispatch.Config.Validate

/-!
# Engines from configurations

An engine is built from a configuration and a registry of handlers. The
configuration is validated first. Each Api is then built in order: its shared
actions, then its endpoints with their own actions. An action binds the handler
its definition names under the binding name, at a location written
`api#binding` for shared actions and `api/endpoint#binding` for an endpoint's;
a handler the registry does not hold stops the build there.

The rule of a definition takes its methods, its order (the default order when
none is given), each include and exclude pattern as written (a comma in a
pattern is part of it), and its settings as written. An endpoint without a path
accepts every path.
-/

namespace RestDispatch

set_option autoImplicit false

/-- Why an engine could not be built from a configuration. -/
inductive EngineError where
  | unknownHandler (handler location : String)
  | invalidMethod (location : String)
  | config (e : ConfigError)
  deriving Repr, DecidableEq

/-- The text of an engine error. -/
def EngineError.message : EngineError → String
  | .unknownHandler handler location => location ++ ": no handler registered as '" ++ handler ++ "'"
  | .invalidMethod location => location ++ ": invalid method list"
  | .config e => (e.message?).getD e.kind

/-- The rule of a definition at `location`. -/
def ruleOfDefinition (location : String) (methods includes excludes : List String)
    (order : Option Int) (settings : Settings) : Except EngineError Rule := do
  let ms ← match MethodSet.ofNames methods with
    | .ok ms => pure ms
    | .error _ => throw (.invalidMethod location)
  let r := (Rule.default.withMethods ms).withOrder (order.getD Rule.defaultOrder)
  let r := includes.foldl (fun r p => r.withIncludePath (PathPattern.ofString p)) r
  let r := excludes.foldl (fun r p => r.withExcludePath (PathPattern.ofString p)) r
  pure (settings.entries.foldl (fun r (k, v) => r.withSetting k v) r)

/-- Bind an action definition under `parent`. -/
def ActionDef.bind (a : ActionDef) (reg : Registry) (parent : String) : Except EngineError Binding := do
  let name := a.bindingName
  let location := parent ++ "#" ++ name
  let binding ← match reg.bind a.handler name with
    | some b => pure b
    | none => throw (.unknownHandler a.handler location)
  let rule ← ruleOfDefinition location a.methods a.includePaths a.excludePaths a.order a.settings
  pure (binding.withRule rule)

/-- Build an endpoint of the Api labelled `api`. -/
def EndpointDef.build (e : EndpointDef) (reg : Registry) (api : String) : Except EngineError Endpoint := do
  let location := api ++ "/" ++ e.name
  let rule ← ruleOfDefinition location e.methods e.includePaths e.excludePaths e.order e.settings
  let endpoint := (Endpoint.new e.name).withRule rule
  let endpoint := match e.path with
    | some p => endpoint.withPath p
    | none => endpoint
  e.actions.foldlM (fun ep a => do pure (ep.withAction (← a.bind reg location))) endpoint

/-- Build an Api: its shared actions, then its endpoints. -/
def ApiDef.build (d : ApiDef) (reg : Registry) : Except EngineError Api := do
  let api := match d.name with
    | some n => Api.new n
    | none => Api.unnamed
  let api := match d.version with
    | some v => api.withVersion v
    | none => api
  let api := api.withMultiTenant d.multiTenant
  let location := api.label
  let api ← d.actions.foldlM (fun api a => do pure (api.withAction (← a.bind reg location))) api
  d.endpoints.foldlM (fun api e => do pure (api.withEndpoint (← e.build reg location))) api

/-- Build an engine from a configuration and a registry. -/
def Engine.fromConfig (c : Config) (reg : Registry) : Except EngineError Engine := do
  match c.validate with
  | .ok _ => pure ()
  | .error e => throw (.config e)
  let apis ← c.apis.mapM (·.build reg)
  pure (Engine.build apis c.engine.servletMapping c.engine.debug c.engine.errorBodies)

end RestDispatch
