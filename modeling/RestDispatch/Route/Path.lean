/-!
# Paths and cursors

A `Path` is a list of non-empty segments. Reading a text splits it at every `/`
and drops the empty pieces, so `/a//b/` and `a/b` are the same path; a path is
written back with its segments joined by `/`.

A `Cursor` is a position in a path: the segments before it are consumed, the
rest remain. Moving never passes the end, and the consumed and remaining parts
always join to the whole path. Positions are 64-bit words: skipping adds the
count to the offset as words, so a sum past the largest word wraps around and
the cursor then moves back.
-/

namespace RestDispatch

set_option autoImplicit false

/-- A path: its segments in order. Paths read from text have no empty segment. -/
structure Path where
  segments : List String
  deriving Repr, DecidableEq, Inhabited, BEq

namespace Path

/-- The non-empty pieces of a text between its `/` characters. -/
def splitSegments (raw : String) : List String :=
  ((raw.toList.splitOn '/').map String.ofList).filter (· != "")

/-- The path written in a text. -/
def ofString (raw : String) : Path :=
  ⟨splitSegments raw⟩

/-- The path of the given segments, the empty ones dropped; a `/` inside a
segment stays. -/
def ofSegments (segments : List String) : Path :=
  ⟨segments.filter (· != "")⟩

/-- The empty path. -/
def empty : Path := ⟨[]⟩

/-- The segment at an index. -/
def get? (p : Path) (i : Nat) : Option String :=
  p.segments[i]?

/-- The number of segments. -/
def length (p : Path) : Nat :=
  p.segments.length

/-- A path without segments. -/
def isEmpty (p : Path) : Bool :=
  p.segments.isEmpty

/-- The segments of one path, then those of the other. -/
def join (p q : Path) : Path :=
  ⟨p.segments ++ q.segments⟩

/-- The text of a path: its segments joined by `/`. -/
def render (p : Path) : String :=
  "/".intercalate p.segments

end Path

/-- The number of 64-bit words; word sums are taken modulo it. -/
def wordModulus : Nat := 18446744073709551616

/-- A position in a path. -/
structure Cursor where
  path : Path
  offset : Nat
  deriving Repr, DecidableEq, Inhabited

namespace Cursor

/-- The cursor at the start of a path. -/
def start (p : Path) : Cursor :=
  ⟨p, 0⟩

/-- The segment at the cursor. -/
def peek (c : Cursor) : Option String :=
  c.path.get? c.offset

/-- The segment at the cursor and the cursor past it. -/
def next (c : Cursor) : Option (String × Cursor) :=
  c.peek.map fun s => (s, { c with offset := c.offset + 1 })

/-- Move forward by `n` segments, stopping at the end; the offset and `n` are
added as words. -/
def advance (c : Cursor) (n : Nat) : Cursor :=
  { c with offset := min ((c.offset + n) % wordModulus) c.path.length }

/-- Move to the end. -/
def toEnd (c : Cursor) : Cursor :=
  { c with offset := c.path.length }

/-- No segment remains. -/
def isEmpty (c : Cursor) : Bool :=
  c.path.length ≤ c.offset

/-- The number of segments that remain. -/
def remainingLength (c : Cursor) : Nat :=
  c.path.length - c.offset

/-- The segments that remain. -/
def remaining (c : Cursor) : List String :=
  c.path.segments.drop c.offset

/-- The remaining segments as a path. -/
def remainder (c : Cursor) : Path :=
  ⟨c.remaining⟩

/-- The consumed segments as a path. -/
def consumed (c : Cursor) : Path :=
  ⟨c.path.segments.take c.offset⟩

end Cursor

end RestDispatch
