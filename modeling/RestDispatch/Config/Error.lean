import RestDispatch.Text.Quoted

/-!
# Configuration errors

Why a configuration could not be had: a file that is missing or unreadable,
a document that does not decode, a format that is not known, a field with a
value that cannot be used, an environment override that does not parse, an env
file that does not load or asks for a variable the process cannot hold, or a
configuration that is inconsistent as a whole.
-/

namespace RestDispatch

set_option autoImplicit false

/-- A failure to read, decode or validate a configuration. -/
inductive ConfigError where
  | fileNotFound (path : String)
  | readError (path : String)
  | tomlError
  | jsonError
  | unsupportedFormat (format : String)
  | invalidValue (field reason : String)
  /-- A log level setting that does not parse; the parser's reason is not kept. -/
  | invalidLevel (level : String)
  | envParse (var reason : String)
  | dotenv
  | validation (reason : String)
  /-- An env file asked to set a variable to a value the process cannot hold:
  one with a NUL character. The process stops there. -/
  | variableRefused (key value : String)
  deriving Repr, DecidableEq, Inhabited

namespace ConfigError

/-- The name of the kind of error. -/
def kind : ConfigError → String
  | .fileNotFound _ => "FileNotFound"
  | .readError _ => "ReadError"
  | .tomlError => "TomlError"
  | .jsonError => "JsonError"
  | .unsupportedFormat _ => "UnsupportedFormat"
  | .invalidValue _ _ => "InvalidValue"
  | .invalidLevel _ => "InvalidValue"
  | .envParse _ _ => "EnvParseError"
  | .dotenv => "Dotenv"
  | .validation _ => "ValidationError"
  | .variableRefused _ _ => "panic"

/-- The text of the error, where it has one of its own. -/
def message? : ConfigError → Option String
  | .fileNotFound path => some ("config file " ++ path ++ " does not exist")
  | .readError path => some ("cannot read config file " ++ path)
  | .unsupportedFormat f => some ("unsupported configuration format: " ++ f)
  | .invalidValue field reason => some (field ++ ": " ++ reason)
  | .envParse var reason => some ("environment override " ++ var ++ ": " ++ reason)
  | .validation reason => some ("invalid configuration: " ++ reason)
  | .variableRefused key value =>
    let tick := String.singleton (Char.ofNat 96)
    some ("failed to set environment variable " ++ tick ++ Text.debugQuote key ++ tick ++ " to " ++ tick ++
      Text.debugQuote value ++ tick ++ ": file name contained an unexpected NUL byte")
  | .tomlError | .jsonError | .dotenv | .invalidLevel _ => none

/-- The field an error is about, for the errors about one field. -/
def field? : ConfigError → Option String
  | .invalidValue field _ => some field
  | .invalidLevel _ => some "telemetry.logging.level"
  | _ => none

end ConfigError

end RestDispatch
