import RestDispatch.Route.Rule
import RestDispatch.Web.Url
import RestDispatch.Web.Headers

/-!
# Requests

A request is read from a method and a URL. The fragment (from the first `#`)
is dropped and the query (after the first `?`) is split off. A target of the
form `scheme://…`, with a well-formed scheme name, is an absolute URL: the
whole URL must be well-formed, and the path starts at the first `/` after the
`://`. Any other target is itself the path. The path is split into segments as
written: nothing is percent-decoded and `.` and `..` are plain segments. The
query is read as a form: a repeated key keeps its first place and its last
value.

Once routed, a request carries its `Route`: the path of the Api with its
tenant, the path of the endpoint, the subpath that remains, and the captured
variables. The route is set once; later routes are ignored.

Requests carry an identifier chosen by whoever makes them; the library only
reports it.
-/

namespace RestDispatch

open RestDispatch.Web
open RestDispatch.Text

set_option autoImplicit false

/-- The identifier of a request, by its text. -/
structure RequestId where
  text : String
  deriving Repr, DecidableEq, Inhabited

/-- Where a request was routed. -/
structure Route where
  apiPath : Path
  tenant : Option String
  endpointPath : Path
  subpath : Path
  params : Params
  deriving Repr, DecidableEq, Inhabited

namespace Route

/-- The first segment of the subpath: the collection. -/
def collectionKey? (r : Route) : Option String := r.subpath.get? 0

/-- The second segment of the subpath: the entity. -/
def entityKey? (r : Route) : Option String := r.subpath.get? 1

/-- The third segment of the subpath: the subcollection. -/
def subcollectionKey? (r : Route) : Option String := r.subpath.get? 2

end Route

/-- A request: its method, URL, path, query, headers, body and route. -/
structure Request where
  id : RequestId
  method : Method
  url : String
  path : Path
  query : Settings
  headers : Headers
  body : Option String
  route : Option Route
  deriving Repr, DecidableEq, Inhabited

/-- The text before the first occurrence of a character, and the text after it. -/
def splitAtFirst (c : Char) (cs : List Char) : List Char × Option (List Char) :=
  match cs.span (· != c) with
  | (before, _ :: after) => (before, some after)
  | (before, []) => (before, none)

/-- The scheme and the rest of a target written `scheme://rest`. -/
def splitScheme? (target : List Char) : Option (List Char × List Char) :=
  let rec go : List Char → List Char → Option (List Char × List Char)
    | before, ':' :: '/' :: '/' :: rest => some (before.reverse, rest)
    | before, c :: rest => go (c :: before) rest
    | _, [] => none
  go [] target

/-- The path part of a target, when the URL is acceptable. -/
def targetPath (url : String) (target : List Char) : Except UrlError String :=
  match splitScheme? target with
  | some (scheme, rest) =>
    if isSchemeName (String.ofList scheme) then
      match checkUrl url with
      | .ok () => .ok (String.ofList (rest.dropWhile (· != '/')))
      | .error e => .error e
    else .ok (String.ofList target)
  | none => .ok (String.ofList target)

namespace Request

/-- Read a request from its method and URL. -/
def parse (id : RequestId) (method : Method) (url : String) : Except UrlError Request :=
  let target := (splitAtFirst '#' url.toList).1
  let (target, query) := splitAtFirst '?' target
  match targetPath url target with
  | .error e => .error e
  | .ok raw =>
    let query := match query with
      | some q => Settings.ofPairs (formPairs (String.ofList q))
      | none => .empty
    .ok ⟨id, method, url, Path.ofString raw, query, .empty, none, none⟩

/-- Add a header value. -/
def withHeader (r : Request) (name value : String) : Request :=
  { r with headers := r.headers.append name value }

/-- Set the body. -/
def withBody (r : Request) (body : String) : Request :=
  { r with body := some body }

/-- Route the request, unless it already has a route: whether the route was set. -/
def setRoute (r : Request) (route : Route) : Bool × Request :=
  match r.route with
  | some _ => (false, r)
  | none => (true, { r with route := some route })

/-- A query value. -/
def query? (r : Request) (key : String) : Option String :=
  r.query.get? key

/-- The first captured value of a variable. -/
def param? (r : Request) (name : String) : Option String :=
  r.route.bind fun route => route.params.get? name

/-- The tenant of the route. -/
def tenant? (r : Request) : Option String :=
  r.route.bind Route.tenant

end Request

end RestDispatch
