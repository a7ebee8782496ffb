import RestDispatch.Web.Headers
import RestDispatch.Json.Value

/-!
# Responses

A response has a status, headers and a JSON body. The status is 200 until an
action sets one; whether it was set is part of the response, since a failing
request keeps a status that an action chose.
-/

namespace RestDispatch

open RestDispatch.Web

set_option autoImplicit false

/-- A response under construction. -/
structure Response where
  explicitStatus : Option Nat
  headers : Headers
  body : Option Json.Value
  deriving Inhabited

namespace Response

/-- The empty response. -/
def empty : Response := ⟨none, .empty, none⟩

/-- The status: the one set, else 200. -/
def status (r : Response) : Nat :=
  r.explicitStatus.getD 200

/-- Set the status. -/
def setStatus (r : Response) (status : Nat) : Response :=
  { r with explicitStatus := some status }

/-- A status was set. -/
def hasExplicitStatus (r : Response) : Bool :=
  r.explicitStatus.isSome

/-- Set the body. -/
def setBody (r : Response) (body : Json.Value) : Response :=
  { r with body := some body }

/-- Take the body out: the body and the response without it. -/
def takeBody (r : Response) : Option Json.Value × Response :=
  (r.body, { r with body := none })

/-- Set a header to one value. -/
def insertHeader (r : Response) (name value : String) : Response :=
  { r with headers := r.headers.insert name value }

/-- Add a header value. -/
def appendHeader (r : Response) (name value : String) : Response :=
  { r with headers := r.headers.append name value }

end Response

end RestDispatch
