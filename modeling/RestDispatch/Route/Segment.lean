import RestDispatch.Regex.Pattern
import RestDispatch.Text.Case

/-!
# Pattern segments

One `/`-separated token of a path pattern is read into a `Segment`:

1. a token of two or more characters in brackets is optional: its inside is
   read, and an inside that is already optional is not wrapped again;
2. `*` is a wildcard;
3. `:name`, with a non-empty name, is a variable; a lone `:` is a literal;
4. `{…}` or `${…}` is a variable: the inside is split at its first `:` into a
   name, which may not be empty, and a constraint, a regular expression that a
   value must match whole, ignoring case; when the expression cannot be read
   the whole token is a literal;
5. any other token is a literal.

A literal accepts a value equal to it once both are put in full lowercase.
-/

namespace RestDispatch

open RestDispatch.Text

set_option autoImplicit false

/-- One token of a path pattern. Variables keep their constraint as written. -/
inductive Segment where
  | literal (text : String)
  | wildcard
  | variable (name : String) (constraint : Option String)
  | optional (inner : Segment)
  deriving Repr, DecidableEq, Inhabited, BEq

/-- A constraint failed: the value at `position` does not match the expression
of the variable `name`. -/
structure Violation where
  position : Nat
  name : String
  constraint : String
  value : String
  deriving Repr, DecidableEq, Inhabited, BEq

/-- The text of a violation. -/
def Violation.message (v : Violation) : String :=
  s!"value '{v.value}' at segment {v.position} does not satisfy '{v.constraint}' for variable '{v.name}'"

/-- The text of the pattern a constraint stands for: the whole value must match. -/
def constraintText (source : String) : String := "^(?:" ++ source ++ ")$"

/-- The pattern that a constraint stands for, ignoring case. -/
def constraintRegex (source : String) : Except Regex.PatternError Regex.Pattern :=
  Regex.Pattern.compile true (constraintText source)

/-- A value satisfies a constraint. -/
def constraintAccepts (source value : String) : Bool :=
  match Regex.Pattern.read true (constraintText source) with
  | .ok r => r.isMatch value
  | .error _ => true

/-- The variable written inside braces, if its name is not empty and its
constraint can be read. -/
def braceVariable? (body : List Char) : Option Segment :=
  let name := body.takeWhile (· != ':')
  let source :=
    match body.dropWhile (· != ':') with
    | ':' :: rest => some (String.ofList rest)
    | _ => none
  if name.isEmpty then none
  else
    match source with
    | none => some (.variable (String.ofList name) none)
    | some src =>
      match constraintRegex src with
      | .ok _ => some (.variable (String.ofList name) (some src))
      | .error _ => none

/-- A list of at least two characters that starts with `o` and ends with `c`. -/
def enclosedBy (o c : Char) (cs : List Char) : Bool :=
  2 ≤ cs.length && cs.head? == some o && cs.getLast? == some c

namespace Segment

/-- Read a token given as characters. -/
def ofChars (cs : List Char) : Segment :=
  if 2 ≤ cs.length ∧ cs.head? = some '[' ∧ cs.getLast? = some ']' then
    match ofChars (cs.drop 1).dropLast with
    | .optional inner => .optional inner
    | other => .optional other
  else if cs == ['*'] then .wildcard
  else
    match cs with
    | ':' :: name =>
      if name.isEmpty then .literal (String.ofList cs) else .variable (String.ofList name) none
    | _ =>
      let braced :=
        match cs with
        | '$' :: rest => rest
        | _ => cs
      if enclosedBy '\x7b' '\x7d' braced then
        match braceVariable? (braced.drop 1).dropLast with
        | some v => v
        | none => .literal (String.ofList cs)
      else .literal (String.ofList cs)
termination_by cs.length
decreasing_by rename_i bracketed; have := bracketed.1; rw [List.length_dropLast, List.length_drop]; omega

/-- Read a token. -/
def parse (token : String) : Segment :=
  ofChars token.toList

/-- The text of a segment, every variable in braces; reading it back gives
the same segment unless a variable's name has a colon. -/
def render : Segment → String
  | .literal text => text
  | .wildcard => "*"
  | .variable name none => "\x7b" ++ name ++ "\x7d"
  | .variable name (some src) => "\x7b" ++ name ++ ":" ++ src ++ "\x7d"
  | .optional inner => "[" ++ inner.render ++ "]"

/-- The segment without its optional wrappers. -/
def required : Segment → Segment
  | .optional inner => inner.required
  | other => other

/-- An optional segment. -/
def isOptional : Segment → Bool
  | .optional _ => true
  | _ => false

/-- A wildcard, optional or not. -/
def isWildcard (s : Segment) : Bool :=
  match s.required with
  | .wildcard => true
  | _ => false

/-- The name under which a segment captures: a variable's name, else empty. -/
def captureName (s : Segment) : String :=
  match s.required with
  | .variable name _ => name
  | _ => ""

/-- What a segment makes of one path value. -/
inductive Check where
  | accepted
  | captured (value : String)
  | mismatch
  | violation (v : Violation)
  deriving Repr, DecidableEq

/-- Test a value at a path position against a segment. -/
def check (s : Segment) (value : String) (position : Nat) : Check :=
  match s.required with
  | .literal text => if sameLower text value then .accepted else .mismatch
  | .variable name (some src) =>
    if constraintAccepts src value then .captured value
    else .violation ⟨position, name, src, value⟩
  | .variable _ none => .captured value
  | _ => .accepted

end Segment

end RestDispatch
