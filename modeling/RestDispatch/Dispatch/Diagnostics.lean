import RestDispatch.Dispatch.Chain
import RestDispatch.Text.Quoted

/-!
# Diagnostic renderings

The diagnostic texts of rules, bindings and chains, in the layout of a
structure printer: `Name { field: value, … }`, texts quoted and escaped,
optional values as `Some(…)` or `None`, lists in brackets and maps in braces.
Fields left out end with `..`. A chain shows its request's identifier, its
endpoint's name, the names of its actions and its state.
-/

namespace RestDispatch

open RestDispatch.Text

set_option autoImplicit false

/-- An optional text. -/
def debugOption (s : Option String) : String :=
  match s with
  | some t => "Some(" ++ debugQuote t ++ ")"
  | none => "None"

/-- A list, each item rendered. -/
def debugList (items : List String) : String :=
  "[" ++ ", ".intercalate items ++ "]"

/-- The diagnostic text of a segment. -/
def Segment.debugText : Segment → String
  | .literal text => "Literal(" ++ debugQuote text ++ ")"
  | .wildcard => "Wildcard"
  | .variable name constraint =>
    let c := match constraint with
      | some src =>
        "Some(Constraint \x7b source: " ++ debugQuote src ++ ", regex: Regex(" ++
          debugQuote ("^(?:" ++ src ++ ")$") ++ ") \x7d)"
      | none => "None"
    "Variable(Variable \x7b name: " ++ debugQuote name ++ ", constraint: " ++ c ++ " \x7d)"
  | .optional inner => "Optional(" ++ inner.debugText ++ ")"

/-- The diagnostic text of a pattern. -/
def PathPattern.debugText (p : PathPattern) : String :=
  "PathPattern \x7b raw: " ++ debugQuote p.raw ++ ", segments: " ++
    debugList (p.segments.map Segment.debugText) ++ " \x7d"

/-- The diagnostic text of a rule. -/
def Rule.debugText (r : Rule) : String :=
  let config := "\x7b" ++ ", ".intercalate (r.settings.entries.map fun (k, v) =>
    debugQuote k ++ ": " ++ debugQuote v) ++ "\x7d"
  "Rule \x7b name: " ++ debugOption r.name ++
    ", methods: MethodSet \x7b methods: " ++ debugList (r.methods.methods.map Method.name) ++ " \x7d" ++
    ", include_paths: " ++ debugList (r.includes.map PathPattern.debugText) ++
    ", exclude_paths: " ++ debugList (r.excludes.map PathPattern.debugText) ++
    ", order: " ++ toString r.order ++ ", config: " ++ config ++ " \x7d"

/-- The diagnostic text of a binding: its name and rule. -/
def Binding.debugText (b : Binding) : String :=
  "ActionBinding \x7b name: " ++ debugQuote b.name ++ ", rule: " ++ b.rule.debugText ++ ", .. \x7d"

/-- The diagnostic text of a chain. -/
def Chain.debugText (c : Chain) : String :=
  "Chain \x7b request_id: " ++ c.request.id.text ++ ", endpoint: " ++ debugQuote c.endpointName ++
    ", actions: " ++ debugList (c.actions.map fun b => debugQuote b.name) ++
    ", state: " ++ c.state.render ++ ", .. \x7d"

end RestDispatch
