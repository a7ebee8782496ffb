import RestDispatch.Config.Environment
import RestDispatch.Text.Blank
import RestDispatch.Text.Classes
import RestDispatch.Config.Error

/-!
# Env files

An env file sets process variables, one `KEY=value` per logical line, without
replacing variables that are already set.

Physical lines join into one logical line while a quote is open, after a
backslash at the end of a line, or after a single trailing blank; a line that
starts with `#` after blanks is skipped, and a `#` after a blank starts a
comment. The text ends in error if it stops inside a logical line. Lines are read and
their variables set in order, so the lines before an error have been set.

A logical line, without the blanks at its end, is blanks, an optional `export`, a key of ASCII letters, digits,
`_` and `.` that does not start with a digit or dot, `=`, then a value:

* in single quotes, everything is literal;
* in double quotes and bare, a backslash escapes `\`, `'`, `"`, `$` and a
  blank, and `\n` is a line feed; any other escape is an error;
* `$NAME`, a name of letters and numbers, and `$` followed by a name in braces
  put in the value of a variable, or of a key read earlier in the file, or
  nothing;
* a bare value ends at a blank, after which only blanks and a comment may
  follow.

An empty value, or one that is only a comment, is empty.
-/

namespace RestDispatch

open RestDispatch.Text

set_option autoImplicit false

/-- Where the joining of physical lines stands. -/
inductive LineState where
  | complete
  | escape
  | strongOpen
  | strongOpenEscape
  | weakOpen
  | weakOpenEscape
  | whiteSpace
  deriving Repr, DecidableEq

/-- Run the joining states over one physical line; gives the state at its end,
or the position of a comment sign that ends the line. -/
def lineEndState (s : LineState) : List Char → Nat → LineState × Option Nat
  | [], _ => (s, none)
  | c :: rest, pos =>
    let next : Option LineState := match s with
      | .whiteSpace =>
        if c == '#' then none
        else if c == '\\' then some .escape
        else if c == '"' then some .weakOpen
        else if c == '\'' then some .strongOpen
        else some .complete
      | .escape => some .complete
      | .complete =>
        if isBlank c && c != '\n' && c != '\r' then some .whiteSpace
        else if c == '\\' then some .escape
        else if c == '"' then some .weakOpen
        else if c == '\'' then some .strongOpen
        else some .complete
      | .weakOpen =>
        if c == '\\' then some .weakOpenEscape
        else if c == '"' then some .complete
        else some .weakOpen
      | .weakOpenEscape => some .weakOpen
      | .strongOpen =>
        if c == '\\' then some .strongOpenEscape
        else if c == '\'' then some .complete
        else some .strongOpen
      | .strongOpenEscape => some .strongOpen
    match next with
    | none => (s, some pos)
    | some s' => lineEndState s' rest (pos + 1)

/-- Split text into physical lines, each with its line feed. -/
def physicalLines : List Char → List (List Char)
  | [] => []
  | c :: rest =>
    if c == '\n' then ['\n'] :: physicalLines rest
    else
      match physicalLines rest with
      | line :: lines => (c :: line) :: lines
      | [] => [[c]]

/-- Drop one line feed and then one carriage return from the end. -/
def dropLineEnd (line : List Char) : List Char :=
  match line.reverse with
  | '\n' :: '\r' :: rest => rest.reverse
  | '\n' :: rest => rest.reverse
  | _ => line

/-- Join physical lines into logical lines; `buf` holds the lines joined so far
and `s` the state at their end. Also tells whether the text stops inside a
logical line. -/
def logicalLines : List (List Char) → List Char → LineState → List (List Char) × Bool
  | [], buf, s => ([], !(buf.isEmpty || s == .complete))
  | line :: lines, buf, s =>
    let buf' := buf ++ line
    let onward (done : List Char) :=
      let (rest, unfinished) := logicalLines lines [] .complete
      (done :: rest, unfinished)
    if (buf'.dropWhile isBlank).head? == some '#' then onward []
    else
      match lineEndState s line 0 with
      | (_, some pos) => onward (buf ++ line.take pos)
      | (.complete, none) => onward (dropLineEnd buf')
      | (s', none) => logicalLines lines buf' s'

/-- Where the reading of a value stands with respect to a `$` name. -/
inductive Substitution where
  | off
  | block
  | braced
  deriving Repr, DecidableEq

/-- The state of reading a value. -/
structure ValueState where
  strong : Bool
  weak : Bool
  escaped : Bool
  expectingEnd : Bool
  mode : Substitution
  name : List Char
  out : List Char

/-- The value of a substituted name: the variable, else the key read last
(`known` holds the keys read so far, last first). -/
def substitute (env : Environment) (known : List (String × String)) (name : List Char) : String :=
  let n := String.ofList name
  if n.isEmpty then ""
  else
    match env.get? n with
    | some v => v
    | none => ((known.find? (·.1 == n)).map Prod.snd).getD ""

/-- The value at the end of its text; an open quote or brace is an error. -/
def finishValue (env : Environment) (known : List (String × String)) (st : ValueState) :
    Option String :=
  if st.mode == .braced || st.strong || st.weak then none
  else some (String.ofList st.out ++ substitute env known st.name)

/-- Read a value; `none` is an error. -/
def readValueChars (env : Environment) (known : List (String × String)) :
    List Char → ValueState → Option String
  | [], st => finishValue env known st
  | c :: rest, st =>
    let put (s : String) (st : ValueState) : ValueState := { st with out := st.out ++ s.toList }
    if st.expectingEnd then
      if c == ' ' || c == '\t' then readValueChars env known rest st
      else if c == '#' then finishValue env known st
      else none
    else if st.escaped then
      if c == '\\' || c == '\'' || c == '"' || c == '$' || c == ' ' then
        readValueChars env known rest { st with escaped := false, out := st.out ++ [c] }
      else if c == 'n' then readValueChars env known rest { st with escaped := false, out := st.out ++ ['\n'] }
      else none
    else if st.strong then
      if c == '\'' then readValueChars env known rest { st with strong := false }
      else readValueChars env known rest { st with out := st.out ++ [c] }
    else if st.mode != .off then
      if isAlphanumeric c then
        readValueChars env known rest { st with name := st.name ++ [c] }
      else if st.mode == .block then
        if c == '\x7b' && st.name.isEmpty then readValueChars env known rest { st with mode := .braced }
        else
          let st := put (substitute env known st.name) { st with name := [] }
          if c == '$' then readValueChars env known rest { st with mode := .block }
          else readValueChars env known rest { st with mode := .off, out := st.out ++ [c] }
      else
        if c == '\x7d' then
          readValueChars env known rest (put (substitute env known st.name) { st with mode := .off, name := [] })
        else readValueChars env known rest { st with name := st.name ++ [c] }
    else if c == '$' then readValueChars env known rest { st with mode := .block }
    else if st.weak then
      if c == '"' then readValueChars env known rest { st with weak := false }
      else if c == '\\' then readValueChars env known rest { st with escaped := true }
      else readValueChars env known rest { st with out := st.out ++ [c] }
    else if c == '\'' then readValueChars env known rest { st with strong := true }
    else if c == '"' then readValueChars env known rest { st with weak := true }
    else if c == '\\' then readValueChars env known rest { st with escaped := true }
    else if c == ' ' || c == '\t' then readValueChars env known rest { st with expectingEnd := true }
    else readValueChars env known rest { st with out := st.out ++ [c] }

/-- A character of a key. -/
def isEnvKeyChar (c : Char) : Bool := c.isAlphanum || c == '_' || c == '.'

/-- Read a key at the front of a line. -/
def readEnvKey (cs : List Char) : Option (String × List Char) :=
  match cs with
  | c :: _ =>
    if c.isAlpha || c == '_' then
      let key := cs.takeWhile isEnvKeyChar
      some (String.ofList key, cs.drop key.length)
    else none
  | [] => none

/-- Read a logical line, without the blanks at its end: nothing for a blank or
comment line, else a key and value. -/
def readEnvLine (env : Environment) (known : List (String × String)) (line : List Char) :
    Option (Option (String × String)) :=
  let cs := (trimEndBlank line).dropWhile isBlank
  match cs with
  | [] => some none
  | '#' :: _ => some none
  | _ => do
    let (key, rest) ← readEnvKey cs
    let rest := rest.dropWhile isBlank
    let (key, rest) ← match rest with
      | '=' :: more => some (key, more)
      | _ =>
        if key == "export" then do
          let (key', more) ← readEnvKey rest
          match more.dropWhile isBlank with
          | '=' :: more' => some (key', more')
          | _ => none
        else none
    let rest := rest.dropWhile isBlank
    match rest with
    | [] => pure (some (key, ""))
    | '#' :: _ => pure (some (key, ""))
    | _ =>
      let v ← readValueChars env known rest ⟨false, false, false, false, .off, [], []⟩
      pure (some (key, v))

/-- Load an env file into an environment, line by line, keeping variables
already set. A line that does not read stops the loading; so does a value to
set that holds a NUL character, which no process variable can hold. -/
def Environment.loadEnvFile (env : Environment) (text : String) : Except ConfigError Environment := do
  let cs := match text.toList with
    | c :: rest => if c.toNat = 0xFEFF then rest else c :: rest
    | [] => []
  let (lines, unfinished) := logicalLines (physicalLines cs) [] .complete
  let (env, _) ← lines.foldlM (fun (acc : Environment × List (String × String)) line => do
    match readEnvLine acc.1 acc.2 line with
    | none => throw .dotenv
    | some none => pure acc
    | some (some (key, value)) =>
      if acc.1.vars.any (·.1 == key) then pure (acc.1, (key, value) :: acc.2)
      else if value.toList.contains (Char.ofNat 0) then throw (.variableRefused key value)
      else pure (acc.1.set key value, (key, value) :: acc.2)) (env, [])
  if unfinished then throw .dotenv
  pure env

end RestDispatch
