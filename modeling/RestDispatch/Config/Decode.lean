import RestDispatch.Config.Tree
import RestDispatch.Config.Schema
import RestDispatch.Json.Read
import RestDispatch.Decimal.Scaled

/-!
# Decoding configurations

Every record of a configuration is decoded the same way. From a map, each key
must name a field, no field may be given twice, each value must decode, and the
fields left out take their defaults; the name of an endpoint and the handler of
an action have none and must be given. From a sequence, the items fill the
fields in order, the missing ones taking their defaults, and extra items are
refused where the dialect says so.

The leaves: switches are booleans; texts are strings; an optional text or
order may also be `null`; an order is an integer within 32 bits; a histogram
bound is a double or an integer read as the nearest double; settings are a map
of strings, inserted in order; a log format is one of its three names, as a
string or as a one-entry map. Every failure is the same failure, reported by
the format that was read.
-/

namespace RestDispatch

set_option autoImplicit false

namespace Tree

/-- A switch. -/
def bool? : Tree → Option Bool
  | .bool b => some b
  | _ => none

/-- A text. -/
def string? : Tree → Option String
  | .string s => some s
  | _ => none

/-- An optional text; `null` is none. -/
def optString? : Tree → Option (Option String)
  | .null => some none
  | .string s => some (some s)
  | _ => none

/-- An integer within 32 bits. -/
def int32? : Tree → Option Int
  | .int i => if -(Nat.pow 2 31 : Int) ≤ i ∧ i < (Nat.pow 2 31 : Int) then some i else none
  | _ => none

/-- An optional integer within 32 bits; `null` is none. -/
def optInt32? : Tree → Option (Option Int)
  | .null => some none
  | t => t.int32?.map some

/-- A double; an integer reads as the nearest double. -/
def double? : Tree → Option UInt64
  | .float bits => some bits
  | .int i => some (Decimal.withSign (i < 0) (Decimal.natBits i.natAbs))
  | _ => none

/-- A sequence, each item decoded. -/
def list? {α : Type} (f : Tree → Option α) : Tree → Option (List α)
  | .seq items => items.mapM f
  | _ => none

/-- Texts. -/
def strings? (t : Tree) : Option (List String) := t.list? string?

/-- Settings: a map of texts inserted in order, or a date-time as one entry. -/
def settings? : Tree → Option Settings
  | .map _ entries =>
    entries.foldlM (fun s (k, v) => (string? v).map (s.insert k)) Settings.empty
  | .datetime text => some (Settings.empty.insert datetimeKey text)
  | _ => none

/-- What a choice written as a map may carry. -/
def isChoicePayload (d : Dialect) : Tree → Bool
  | .null => d.nullChoice
  | .map _ [] => !d.nullChoice
  | .seq [] => !d.nullChoice
  | _ => false

/-- The name of a choice: a string, or a map with one entry whose key is the
name; a TOML table from a header counts by its first entry. -/
def choice? (d : Dialect) : Tree → Option String
  | .string s => some s
  | .map inline entries =>
    match entries with
    | [(k, v)] => if isChoicePayload d v then some k else none
    | (k, v) :: _ :: _ =>
      if !inline && !d.nullChoice && isChoicePayload d v then some k else none
    | [] => none
  | _ => none

end Tree

/-- A field of a record decoded into `σ`: its name, how its value is set, and
whether it must be given. -/
structure Field (σ : Type) where
  name : String
  set : Tree → σ → Option σ
  required : Bool

/-- A field with a default. -/
def Field.optional {σ : Type} (name : String) (set : Tree → σ → Option σ) : Field σ :=
  ⟨name, set, false⟩

/-- Decode a record from a map or a sequence, starting from the defaults `init`. -/
def decodeRecord {σ : Type} (d : Dialect) (fields : List (Field σ)) (init : σ) : Tree → Option σ
  | .map _ entries => do
    let (s, seen) ← entries.foldlM (fun (acc : σ × List String) (k, v) => do
      let f ← fields.find? (·.name == k)
      if acc.2.contains k then none
      let s ← f.set v acc.1
      pure (s, k :: acc.2)) (init, [])
    if fields.all (fun f => !f.required || seen.contains f.name) then some s else none
  | .seq items =>
    if d.strictSequences && items.length > fields.length then none
    else if (fields.drop items.length).any (·.required) then none
    else (fields.zip items).foldlM (fun s (f, v) => f.set v s) init
  | _ => none

/-- Decode a log format. -/
def LogFormat.decode? (d : Dialect) (t : Tree) : Option LogFormat :=
  (t.choice? d).bind LogFormat.ofName?

/-- Decode logging settings. -/
def LogConfig.decode? (d : Dialect) : Tree → Option LogConfig :=
  decodeRecord d
    [.optional "enabled" fun t c => t.bool?.map fun b => { c with enabled := b },
     .optional "level" fun t c => t.string?.map fun s => { c with level := s },
     .optional "format" fun t c => (LogFormat.decode? d t).map fun f => { c with format := f },
     .optional "ansi_enabled" fun t c => t.bool?.map fun b => { c with ansiEnabled := b },
     .optional "include_location" fun t c => t.bool?.map fun b => { c with includeLocation := b }]
    LogConfig.default

/-- Decode metrics settings. -/
def MetricsConfig.decode? (d : Dialect) : Tree → Option MetricsConfig :=
  decodeRecord d
    [.optional "enabled" fun t c => t.bool?.map fun b => { c with enabled := b },
     .optional "duration_buckets" fun t c =>
       (t.list? Tree.double?).map fun bs => { c with durationBuckets := bs }]
    MetricsConfig.default

/-- Decode telemetry settings. -/
def TelemetryConfig.decode? (d : Dialect) : Tree → Option TelemetryConfig :=
  decodeRecord d
    [.optional "service_name" fun t c => t.string?.map fun s => { c with serviceName := s },
     .optional "logging" fun t c => (LogConfig.decode? d t).map fun l => { c with logging := l },
     .optional "metrics" fun t c => (MetricsConfig.decode? d t).map fun m => { c with metrics := m }]
    TelemetryConfig.default

/-- Decode engine settings. -/
def EngineConfig.decode? (d : Dialect) : Tree → Option EngineConfig :=
  decodeRecord d
    [.optional "servlet_mapping" fun t c => t.optString?.map fun s => { c with servletMapping := s },
     .optional "debug" fun t c => t.bool?.map fun b => { c with debug := b },
     .optional "error_bodies" fun t c => t.bool?.map fun b => { c with errorBodies := b }]
    EngineConfig.default

/-- Decode an action definition. -/
def ActionDef.decode? (d : Dialect) : Tree → Option ActionDef :=
  decodeRecord d
    [⟨"handler", fun t a => t.string?.map fun s => { a with handler := s }, true⟩,
     .optional "name" fun t a => t.optString?.map fun s => { a with name := s },
     .optional "methods" fun t a => t.strings?.map fun ms => { a with methods := ms },
     .optional "include_paths" fun t a => t.strings?.map fun ps => { a with includePaths := ps },
     .optional "exclude_paths" fun t a => t.strings?.map fun ps => { a with excludePaths := ps },
     .optional "order" fun t a => t.optInt32?.map fun o => { a with order := o },
     .optional "config" fun t a => t.settings?.map fun s => { a with settings := s }]
    ActionDef.default

/-- Decode an endpoint definition. -/
def EndpointDef.decode? (d : Dialect) : Tree → Option EndpointDef :=
  decodeRecord d
    [⟨"name", fun t e => t.string?.map fun s => { e with name := s }, true⟩,
     .optional "path" fun t e => t.optString?.map fun s => { e with path := s },
     .optional "methods" fun t e => t.strings?.map fun ms => { e with methods := ms },
     .optional "include_paths" fun t e => t.strings?.map fun ps => { e with includePaths := ps },
     .optional "exclude_paths" fun t e => t.strings?.map fun ps => { e with excludePaths := ps },
     .optional "order" fun t e => t.optInt32?.map fun o => { e with order := o },
     .optional "config" fun t e => t.settings?.map fun s => { e with settings := s },
     .optional "actions" fun t e => (t.list? (ActionDef.decode? d)).map fun as => { e with actions := as }]
    EndpointDef.default

/-- Decode an Api definition. -/
def ApiDef.decode? (d : Dialect) : Tree → Option ApiDef :=
  decodeRecord d
    [.optional "name" fun t a => t.optString?.map fun s => { a with name := s },
     .optional "version" fun t a => t.optString?.map fun s => { a with version := s },
     .optional "multi_tenant" fun t a => t.bool?.map fun b => { a with multiTenant := b },
     .optional "actions" fun t a => (t.list? (ActionDef.decode? d)).map fun as => { a with actions := as },
     .optional "endpoints" fun t a =>
       (t.list? (EndpointDef.decode? d)).map fun es => { a with endpoints := es }]
    ApiDef.default

/-- Decode a whole configuration. -/
def Config.decode? (d : Dialect) : Tree → Option Config :=
  decodeRecord d
    [.optional "engine" fun t c => (EngineConfig.decode? d t).map fun e => { c with engine := e },
     .optional "telemetry" fun t c =>
       (TelemetryConfig.decode? d t).map fun x => { c with telemetry := x },
     .optional "apis" fun t c => (t.list? (ApiDef.decode? d)).map fun as => { c with apis := as }]
    Config.default

/-- Read a configuration from TOML text. -/
def Config.ofToml? (text : String) : Option Config :=
  (Toml.parseDocument? text).bind fun root => Config.decode? .toml (Tree.ofTomlDocument root)

/-- Read a configuration from JSON text. -/
def Config.ofJson? (text : String) : Option Config :=
  (Json.Value.read? text).bind fun v => Config.decode? .json (Tree.ofJson v)

end RestDispatch
