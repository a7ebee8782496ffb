import RestDispatch.Route.Path
import RestDispatch.Route.Params
import RestDispatch.Route.Segment

/-!
# Path patterns

A `PathPattern` is a list of segments read from the `/`-separated tokens of a
text; its normalised text is the tokens joined by `/`.

Two ways of matching a path:

* `extract` reads the fixed prefix of the pattern, the segments before the
  first wildcard or optional one, from a cursor: each needs a path segment that
  it accepts. On success the cursor moves past the prefix; on failure it stays.
* `matchPath` matches a whole path: a wildcard accepts the rest of the path, an
  optional segment lets the path end there and at any later segment, and
  otherwise every segment must be used and every path segment consumed.

Both report the first constraint that fails, with its absolute position.
-/

namespace RestDispatch

set_option autoImplicit false

/-- A compiled path pattern: its normalised text and its segments. -/
structure PathPattern where
  raw : String
  segments : List Segment
  deriving Repr, DecidableEq, Inhabited, BEq

/-- What a successful match captured and which path segments it covered. -/
structure Extraction where
  params : Params
  matched : Path
  deriving Repr, DecidableEq, Inhabited

/-- The outcome of matching a path against a pattern. -/
inductive PathMatch where
  | matched (e : Extraction)
  | noMatch
  | violation (v : Violation)
  deriving Repr, DecidableEq, Inhabited

/-- Why a prefix could not be extracted. -/
inductive PatternError where
  | noMatch (pattern path : String)
  | violation (v : Violation)
  deriving Repr, DecidableEq

/-- The text of a pattern error. -/
def PatternError.message : PatternError → String
  | .noMatch pattern path => s!"path '{path}' does not match pattern '{pattern}'"
  | .violation v => v.message

namespace PathMatch

/-- The match succeeded. -/
def isMatched : PathMatch → Bool
  | .matched _ => true
  | _ => false

end PathMatch

namespace PathPattern

/-- Read a pattern from its text. -/
def ofString (text : String) : PathPattern :=
  let tokens := Path.splitSegments text
  ⟨"/".intercalate tokens, tokens.map Segment.parse⟩

/-- The number of segments. -/
def length (p : PathPattern) : Nat :=
  p.segments.length

/-- A pattern without segments. -/
def isEmpty (p : PathPattern) : Bool :=
  p.segments.isEmpty

/-- The last segment is a wildcard. -/
def endsWithWildcard (p : PathPattern) : Bool :=
  match p.segments.getLast? with
  | some s => s.isWildcard
  | none => false

/-- The segments before the first wildcard or optional one. -/
def fixedPrefix (p : PathPattern) : List Segment :=
  p.segments.takeWhile fun s => !(s.isWildcard || s.isOptional)

/-- Read fixed segments from a cursor: the captures, the values read (last
first), and the cursor after them. -/
def extractSegments : List Segment → Cursor → Params → List String →
    Except PathMatch (Params × List String × Cursor)
  | [], probe, params, values => .ok (params, values, probe)
  | s :: rest, probe, params, values =>
    match probe.next with
    | none => .error .noMatch
    | some (value, probe') =>
      match s.check value probe.offset with
      | .accepted => extractSegments rest probe' params (value :: values)
      | .captured v => extractSegments rest probe' (params.push s.captureName v) (value :: values)
      | .mismatch => .error .noMatch
      | .violation v => .error (.violation v)

/-- Extract the fixed prefix from a cursor: the outcome and the cursor after it,
which is the cursor given when extraction fails. -/
def extract (p : PathPattern) (c : Cursor) : PathMatch × Cursor :=
  match extractSegments p.fixedPrefix c .empty [] with
  | .ok (params, values, probe) => (.matched ⟨params, Path.ofSegments values.reverse⟩, probe)
  | .error m => (m, c)

/-- Extract the fixed prefix, reporting a failure as an error. -/
def tryExtract (p : PathPattern) (c : Cursor) : Except PatternError Extraction × Cursor :=
  match p.extract c with
  | (.matched e, c') => (.ok e, c')
  | (.violation v, c') => (.error (.violation v), c')
  | (.noMatch, c') => (.error (.noMatch p.raw c.remainder.render), c')

/-- Match segments against the rest of a path; `optional` is set once an
optional segment was met. -/
def matchSegments (path : Path) : List Segment → Cursor → Bool → Params → PathMatch
  | [], cur, _, params => if cur.isEmpty then .matched ⟨params, path⟩ else .noMatch
  | s :: rest, cur, optional, params =>
    if s.isWildcard then .matched ⟨params, path⟩
    else
      let optional := optional || s.isOptional
      match cur.next with
      | none => if optional then .matched ⟨params, path⟩ else .noMatch
      | some (value, cur') =>
        match s.check value cur.offset with
        | .accepted => matchSegments path rest cur' optional params
        | .captured v => matchSegments path rest cur' optional (params.push s.captureName v)
        | .mismatch => .noMatch
        | .violation v => .violation v

/-- Match a whole path. -/
def matchPath (p : PathPattern) (path : Path) : PathMatch :=
  matchSegments path p.segments (Cursor.start path) false .empty

/-- The whole path matches. -/
def accepts (p : PathPattern) (path : Path) : Bool :=
  (p.matchPath path).isMatched

end PathPattern

end RestDispatch
