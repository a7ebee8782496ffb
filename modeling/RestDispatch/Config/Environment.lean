import RestDispatch.Config.Schema
import RestDispatch.Config.Error
import RestDispatch.Text.Case

/-!
# Environment overrides

The variables of a process form a list in the order the process keeps them: a
new variable goes last, and setting a variable again keeps its place.

An override is a variable named `PREFIX__SECTION__KEY`, its parts separated by
double underscores. The recognised keys are the servlet mapping (an empty value
clears it), the engine switches, the service name, the five logging settings
and the metrics switch; other keys are ignored. A switch reads `true`, `1`,
`yes`, `on` or `false`, `0`, `no`, `off` in any case; a log format reads one of
its names ignoring ASCII case.
-/

namespace RestDispatch

open RestDispatch.Text

set_option autoImplicit false

/-- The variables of a process, in the order it keeps them. -/
structure Environment where
  vars : List (String × String)
  deriving Repr, DecidableEq, Inhabited

namespace Environment

/-- No variables. -/
def empty : Environment := ⟨[]⟩

/-- The value of a variable. -/
def get? (env : Environment) (name : String) : Option String :=
  (env.vars.find? (·.1 == name)).map Prod.snd

/-- Set a variable: a present one keeps its place, a new one goes last. -/
def set (env : Environment) (name value : String) : Environment :=
  if env.vars.any (·.1 == name) then
    ⟨env.vars.map fun kv => if kv.1 == name then (name, value) else kv⟩
  else ⟨env.vars ++ [(name, value)]⟩

/-- Set a variable unless it is present. -/
def setIfAbsent (env : Environment) (name value : String) : Environment :=
  if env.vars.any (·.1 == name) then env else env.set name value

/-- The variables whose names start with a prefix, in order. -/
def withPrefix (env : Environment) (pre : String) : List (String × String) :=
  env.vars.filter fun kv => pre.isPrefixOf kv.1

end Environment

/-- Split characters at each double underscore, left to right. -/
def splitDoubleUnderscore : List Char → List (List Char)
  | [] => [[]]
  | '_' :: '_' :: rest => [] :: splitDoubleUnderscore rest
  | c :: rest =>
    match splitDoubleUnderscore rest with
    | part :: parts => (c :: part) :: parts
    | [] => [[c]]

/-- A switch value, in any case. -/
def parseSwitch (value : String) : Option Bool :=
  match lowerText value with
  | "true" | "1" | "yes" | "on" => some true
  | "false" | "0" | "no" | "off" => some false
  | _ => none

/-- A switch of an override, or the error naming the variable. -/
def switchOf (var value : String) : Except ConfigError Bool :=
  match parseSwitch value with
  | some b => .ok b
  | none => .error (.envParse var "expected boolean")

/-- Apply one override: `key` is the variable's name, `rest` the parts of its
name after the prefix. -/
def Config.applyOverride (c : Config) (key : String) (rest : List String) (value : String) :
    Except ConfigError Config :=
  let e := c.engine
  let t := c.telemetry
  let l := t.logging
  let withLogging (l : LogConfig) : Config := { c with telemetry := { t with logging := l } }
  match rest with
  | ["ENGINE", "SERVLET_MAPPING"] =>
    .ok { c with engine := { e with servletMapping := if value.isEmpty then none else some value } }
  | ["ENGINE", "DEBUG"] => (switchOf key value).map fun b => { c with engine := { e with debug := b } }
  | ["ENGINE", "ERROR_BODIES"] =>
    (switchOf key value).map fun b => { c with engine := { e with errorBodies := b } }
  | ["TELEMETRY", "SERVICE_NAME"] => .ok { c with telemetry := { t with serviceName := value } }
  | ["TELEMETRY", "LOGGING", "ENABLED"] => (switchOf key value).map fun b => withLogging { l with enabled := b }
  | ["TELEMETRY", "LOGGING", "LEVEL"] => .ok (withLogging { l with level := value })
  | ["TELEMETRY", "LOGGING", "FORMAT"] =>
    match LogFormat.parse value with
    | some f => .ok (withLogging { l with format := f })
    | none => .error (.envParse key "expected 'json', 'pretty' or 'compact'")
  | ["TELEMETRY", "LOGGING", "ANSI_ENABLED"] =>
    (switchOf key value).map fun b => withLogging { l with ansiEnabled := b }
  | ["TELEMETRY", "LOGGING", "INCLUDE_LOCATION"] =>
    (switchOf key value).map fun b => withLogging { l with includeLocation := b }
  | ["TELEMETRY", "METRICS", "ENABLED"] =>
    (switchOf key value).map fun b => { c with telemetry := { t with metrics := { t.metrics with enabled := b } } }
  | _ => .ok c

/-- Apply the overrides of an environment under a prefix (already upper-cased),
in the environment's order; the first failure wins. -/
def Config.applyEnvironment (c : Config) (env : Environment) (pre : String) :
    Except ConfigError Config :=
  let marker := pre ++ "__"
  (env.withPrefix marker).foldlM (fun c (key, value) =>
    let rest := (splitDoubleUnderscore (key.toList.drop marker.length)).map String.ofList
    c.applyOverride key rest value) c

end RestDispatch
