import RestDispatch.Dispatch.Diagnostics

/-!
# Handler registries

A registry maps names to handlers, so that configuration can name the
handlers of its actions. Registering a name again replaces its handler. Names
are listed in increasing order. Binding a registered handler gives a binding
with the default rule, named after the binding.
-/

namespace RestDispatch

open RestDispatch.Text

set_option autoImplicit false

/-- Handlers by name. -/
structure Registry where
  handlers : List (String × Handler)
  deriving Inhabited

namespace Registry

/-- The empty registry. -/
def empty : Registry := ⟨[]⟩

/-- Register a handler under a name, replacing an earlier one. -/
def register (r : Registry) (name : String) (h : Handler) : Registry :=
  ⟨(r.handlers.filter (·.1 != name)) ++ [(name, h)]⟩

/-- The handler of a name. -/
def get? (r : Registry) (name : String) : Option Handler :=
  (r.handlers.find? (·.1 == name)).map Prod.snd

/-- A handler is registered under the name. -/
def contains (r : Registry) (name : String) : Bool :=
  r.handlers.any (·.1 == name)

/-- The number of names. -/
def size (r : Registry) : Nat := r.handlers.length

/-- No name is registered. -/
def isEmpty (r : Registry) : Bool := r.handlers.isEmpty

/-- The names, in increasing order. -/
def names (r : Registry) : List String :=
  (r.handlers.map Prod.fst).mergeSort fun a b => decide (a ≤ b)

/-- Bind the handler of a name under a binding name. -/
def bind (r : Registry) (handler bindingName : String) : Option Binding :=
  (r.get? handler).map (Binding.new bindingName)

/-- The diagnostic text of a registry. -/
def debugText (r : Registry) : String :=
  "ActionRegistry \x7b handlers: " ++ debugList (r.names.map debugQuote) ++ " \x7d"

end Registry

end RestDispatch
