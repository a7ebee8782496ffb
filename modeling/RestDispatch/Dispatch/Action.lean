import RestDispatch.Dispatch.Failure
import RestDispatch.Dispatch.Response

/-!
# Actions

An action is a step of the chain that serves a request. It sees the request,
the response so far, the endpoint and the actions of the chain, and where the
chain stands; it answers with the response it leaves, the trace entries it
records, and whether the chain goes on, stops, or fails.

A binding gives a handler a name and a rule: the rule decides for which
methods and subpaths the action joins a chain, in which order, and which
settings it sees while it runs.
-/

namespace RestDispatch

set_option autoImplicit false

/-- What a successful action asks of the chain. -/
inductive Flow where
  | continue
  | stop
  deriving Repr, DecidableEq

/-- Where a chain stands: not started, running the action at an index,
finished, or failed. -/
inductive ChainState where
  | pending
  | running (index : Nat)
  | completed
  | failed
  deriving Repr, DecidableEq, Inhabited

/-- The name of a state, with the index of a running action. -/
def ChainState.render : ChainState → String
  | .pending => "Pending"
  | .running i => s!"Running({i})"
  | .completed => "Completed"
  | .failed => "Failed"

/-- A key and a value recorded while a chain runs. -/
structure TraceEntry where
  key : String
  value : String
  deriving Repr, DecidableEq, Inhabited

/-- What an action sees of the chain that runs it. -/
structure ChainView where
  request : Request
  response : Response
  endpointName : String
  endpointRule : Rule
  /-- The names and rules of the chain's actions, in order. -/
  actions : List (String × Rule)
  state : ChainState
  cursor : Nat
  /-- The entries recorded so far; empty exactly when tracing is off, since
  the chain records each action's name before running it. -/
  trace : List TraceEntry

namespace ChainView

/-- The name and rule of the running action. -/
def current? (v : ChainView) : Option (String × Rule) :=
  match v.state with
  | .running i => v.actions[i]?
  | _ => none

/-- A setting: the running action's, else the endpoint's. -/
def config? (v : ChainView) (key : String) : Option String :=
  match v.current?.bind (fun a => a.2.setting? key) with
  | some value => some value
  | none => v.endpointRule.setting? key

/-- A setting, or a default. -/
def configOr (v : ChainView) (key fallback : String) : String :=
  (v.config? key).getD fallback

/-- The name of the running action. -/
def actionName? (v : ChainView) : Option String :=
  v.current?.map Prod.fst

end ChainView

/-- What an action did: the response it leaves, what it recorded, and how the
chain goes on. -/
structure Effect where
  response : Response
  records : List TraceEntry
  outcome : Except ActionError Flow

/-- An action's behaviour. -/
def Handler : Type := ChainView → Effect

instance : Inhabited Handler := ⟨fun v => ⟨v.response, [], .ok .continue⟩⟩

/-- A handler under a name, with the rule that places it. -/
structure Binding where
  name : String
  handler : Handler
  rule : Rule
  deriving Inhabited

namespace Binding

/-- Bind a handler under a name, with the default rule named after it. -/
def new (name : String) (handler : Handler) : Binding :=
  ⟨name, handler, Rule.default.withName name⟩

/-- Replace the rule, keeping the binding's name on it. -/
def withRule (b : Binding) (rule : Rule) : Binding :=
  { b with rule := rule.withName b.name }

/-- Change the rule. -/
def mapRule (b : Binding) (f : Rule → Rule) : Binding :=
  { b with rule := f b.rule }

end Binding

end RestDispatch
