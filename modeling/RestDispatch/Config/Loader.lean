import RestDispatch.Config.Decode
import RestDispatch.Config.Validate
import RestDispatch.Config.Environment
import RestDispatch.Config.Dotenv
import RestDispatch.Config.Files

/-!
# Loading configurations

A loader holds a configuration and an optional prefix of environment
overrides, and builds them up in layers. A preset, a text or a file replaces
the whole configuration: the fields a document leaves out take their defaults,
not the values of an earlier layer. The format of a text is named (`toml` or
`json`, in any case); that of a file comes from its extension. An env file sets
process variables. Loading applies the overrides under the prefix and
validates; loading without validation does neither.

A loader works in a session: the files it may read, the variables of the
process, and how the directory of the files is written in messages.
-/

namespace RestDispatch

open RestDispatch.Text

set_option autoImplicit false

/-- A configuration being built, with the prefix of its overrides. -/
structure Loader where
  config : Config
  envPrefix : Option String
  deriving Repr, Inhabited

/-- The presets a loader can start from. -/
inductive Preset where
  | defaults
  | development
  | production
  deriving Repr, DecidableEq

/-- The configuration of a preset. -/
def Preset.config : Preset → Config
  | .defaults => Config.default
  | .development => Config.development
  | .production => Config.production

/-- Read a configuration from text in a format, named in lower case. -/
def parseConfig (content format : String) : Except ConfigError Config :=
  match format with
  | "toml" => match Config.ofToml? content with
    | some c => .ok c
    | none => .error .tomlError
  | "json" => match Config.ofJson? content with
    | some c => .ok c
    | none => .error .jsonError
  | other => .error (.unsupportedFormat other)

namespace Loader

/-- The defaults, without overrides. -/
def new : Loader := ⟨Config.default, none⟩

/-- Start again from a preset. -/
def withPreset (l : Loader) (p : Preset) : Loader := { l with config := p.config }

/-- Replace the configuration by one read from text; the format name is
lower-cased first. -/
def withString (l : Loader) (content format : String) : Except ConfigError Loader :=
  (parseConfig content (lowerText format)).map fun c => { l with config := c }

/-- Take overrides from variables under a prefix, upper-cased. -/
def withEnvPrefix (l : Loader) (pre : String) : Loader :=
  { l with envPrefix := some (upperText pre) }

/-- Apply the overrides and validate. -/
def load (l : Loader) (env : Environment) : Except ConfigError Config := do
  let c ← match l.envPrefix with
    | some pre => l.config.applyEnvironment env pre
    | none => pure l.config
  c.validate
  pure c

end Loader

/-- A loader at work: the files it may read, the process variables, and the
text that stands for the files' directory in messages. -/
structure Session where
  loader : Loader
  env : Environment
  files : FileTree
  root : String
  deriving Inhabited

namespace Session

/-- How a path is written in messages. -/
def display (s : Session) (path : String) : String := s.root ++ "/" ++ path

/-- What a path holds, none when it does not exist. -/
def entry? (s : Session) (path : String) : Option FileEntry :=
  match resolvePath path with
  | none => none
  | some (parts, mustBeDirectory) =>
    match s.files.lookup parts with
    | some (.file bytes) => if mustBeDirectory then none else some (.file bytes)
    | other => other

/-- Replace the configuration by a file, its format from its extension. -/
def withFile (s : Session) (path : String) : Except ConfigError Session :=
  let shown := s.display path
  match s.entry? path with
  | none => .error (.fileNotFound shown)
  | some .directory => .error (.readError shown)
  | some (.file bytes) =>
    match decodeUtf8? bytes with
    | none => .error (.readError shown)
    | some text =>
      match parseConfig text (extensionOf path) with
      | .ok c => .ok { s with loader := { s.loader with config := c } }
      | .error (.unsupportedFormat _) => .error (.unsupportedFormat shown)
      | .error e => .error e

/-- Replace the configuration by a file when it exists. -/
def withOptionalFile (s : Session) (path : String) : Except ConfigError Session :=
  if (s.entry? path).isSome then s.withFile path else .ok s

/-- Load an env file that must exist. -/
def withEnvFile (s : Session) (path : String) : Except ConfigError Session :=
  match s.entry? path with
  | some (.file bytes) =>
    match decodeUtf8? bytes with
    | some text => (s.env.loadEnvFile text).map fun env => { s with env }
    | none => .error .dotenv
  | _ => .error .dotenv

/-- Load `.env` from the directory when it holds one as a file. -/
def withDotenv (s : Session) : Except ConfigError Session :=
  match s.entry? ".env" with
  | some (.file _) => s.withEnvFile ".env"
  | _ => .ok s

/-- Take overrides under a prefix. -/
def withEnvPrefix (s : Session) (pre : String) : Session :=
  { s with loader := s.loader.withEnvPrefix pre }

/-- Start again from a preset. -/
def withPreset (s : Session) (p : Preset) : Session :=
  { s with loader := s.loader.withPreset p }

/-- Apply the overrides and validate. -/
def load (s : Session) : Except ConfigError Config :=
  s.loader.load s.env

end Session

end RestDispatch
