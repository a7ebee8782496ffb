import RestDispatch.Route.Rule
import RestDispatch.Json.Value

/-!
# JSON views of routing values

Paths are shown by their text, captures as `[name, value]` pairs in capture
order, settings as `[key, value]` pairs in insertion order. A segment shows its
kind and parts with its text and flags; a match shows its result and what it
captured or why a variable refused a segment; a rule shows its name, methods,
patterns, order and settings.
-/

namespace RestDispatch

open RestDispatch.Json

set_option autoImplicit false

/-- A path, by its text. -/
def Path.toJson (p : Path) : Value := .string p.render

/-- Captures, as pairs. -/
def Params.toJson (p : Params) : Value := .ofPairs p.pairs

/-- Settings, as pairs. -/
def Settings.toJson (s : Settings) : Value := .ofPairs s.entries

/-- A cursor with the segment that a step returned. -/
def Cursor.toJson (c : Cursor) (value : Option String) : Value :=
  .mkObject [("value", .ofOption value), ("offset", .ofNat c.offset),
    ("remaining_len", .ofNat c.remainingLength), ("is_empty", .bool c.isEmpty),
    ("remainder", c.remainder.toJson), ("consumed", c.consumed.toJson),
    ("remaining", .ofStrings c.remaining)]

/-- The fields of a segment. -/
def Segment.jsonFields (s : Segment) : List (String × Value) :=
  [("display", .string s.render), ("is_optional", .bool s.isOptional),
    ("is_wildcard", .bool s.isWildcard)] ++
  match s with
  | .literal t => [("kind", .string "literal"), ("text", .string t)]
  | .wildcard => [("kind", .string "wildcard")]
  | .variable n c => [("kind", .string "variable"), ("name", .string n), ("constraint", .ofOption c)]
  | .optional i => [("kind", .string "optional"), ("inner", .mkObject i.jsonFields)]

/-- A segment. -/
def Segment.toJson (s : Segment) : Value := .mkObject s.jsonFields

/-- The fields of a refusal. -/
def Violation.jsonFields (v : Violation) : List (String × Value) :=
  [("position", .ofNat v.position), ("name", .string v.name), ("constraint", .string v.constraint),
    ("value", .string v.value), ("message", .string v.message)]

/-- The fields of a match. -/
def PathMatch.jsonFields : PathMatch → List (String × Value)
  | .matched e => [("result", .string "matched"), ("params", e.params.toJson), ("matched", e.matched.toJson)]
  | .noMatch => [("result", .string "no_match")]
  | .violation v => ("result", .string "constraint_violation") :: v.jsonFields

/-- A rule. -/
def Rule.toJson (r : Rule) : Value :=
  .mkObject [("name", .ofOption r.name), ("methods", .string r.methods.render),
    ("include", .ofStrings (r.includes.map (·.raw))), ("exclude", .ofStrings (r.excludes.map (·.raw))),
    ("order", .ofInt r.order), ("config", r.settings.toJson)]

end RestDispatch
