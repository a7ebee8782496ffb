import RestDispatch.Regex.Expr
import RestDispatch.Regex.Property

/-!
# Regular expressions: matching

`Expr.ends s e i` is the list of positions at which a match of `e` that starts
at position `i` of the text `s` can end, each position once. Repetition is
computed level by level: first the positions after exactly `min` rounds, then
a breadth-first search over further rounds that visits each position once,
which is enough because the text has only `s.size + 1` positions.

Assertions look at the characters around a position: line assertions at line
feeds (and carriage returns in `crlf` mode), word assertions at word
characters, Unicode ones (`isWordChar`) or ASCII ones.

`Expr.isMatch e text` holds when a match starts somewhere in the text.
-/

namespace RestDispatch.Regex

set_option autoImplicit false

/-- `acc` followed by the members of `new` that it lacks, each once. -/
def addAll (acc new : List Nat) : List Nat :=
  new.foldl (fun a j => if a.contains j then a else a ++ [j]) acc

/-- The positions reached from any of `starts` by one step. -/
def stepAll (step : Nat → List Nat) (starts : List Nat) : List Nat :=
  starts.foldl (fun acc i => addAll acc (step i)) []

/-- Two position lists with the same members. -/
def samePositions (a b : List Nat) : Bool :=
  a.all b.contains && b.all a.contains

/-- The positions after exactly `k` more rounds; once a round changes nothing,
no later round does. -/
def exactRounds (step : Nat → List Nat) : Nat → List Nat → List Nat
  | 0, cur => cur
  | k + 1, cur =>
    if cur.isEmpty then []
    else
      let next := stepAll step cur
      if samePositions next cur then cur else exactRounds step k next

/-- Everything in `seen` and what at most `k` more rounds from `frontier` reach. -/
def moreRounds (step : Nat → List Nat) : Nat → List Nat → List Nat → List Nat
  | 0, _, seen => seen
  | k + 1, frontier, seen =>
    let next := (stepAll step frontier).filter (fun j => !seen.contains j)
    if next.isEmpty then seen else moreRounds step k next (addAll seen next)

/-- An ASCII word character: a letter, a digit or `_`. -/
def isAsciiWord (c : Char) : Bool :=
  c.toNat < 0x80 && (c.isAlphanum || c == '_')

/-- A word character stands at position `i`. -/
def wordAt (s : Array Char) (unicode : Bool) (i : Nat) : Bool :=
  match s[i]? with
  | some c => if unicode then isWordChar c else isAsciiWord c
  | none => false

/-- A word character stands just before position `i`. -/
def wordBefore (s : Array Char) (unicode : Bool) (i : Nat) : Bool :=
  i > 0 && wordAt s unicode (i - 1)

/-- Whether an assertion holds at position `i`. -/
def Look.holds (l : Look) (s : Array Char) (i : Nat) : Bool :=
  let before := if i = 0 then none else s[i - 1]?
  let after := s[i]?
  match l with
  | .textStart => i == 0
  | .textEnd => i == s.size
  | .lineStart false => i == 0 || before == some '\n'
  | .lineEnd false => i == s.size || after == some '\n'
  | .lineStart true => i == 0 || before == some '\n' || (before == some '\r' && after != some '\n')
  | .lineEnd true => i == s.size || after == some '\r' || (after == some '\n' && before != some '\r')
  | .word k u =>
    let b := wordBefore s u i
    let a := wordAt s u i
    match k with
    | .boundary => b != a
    | .notBoundary => b == a
    | .start => !b && a
    | .finish => b && !a
    | .startHalf => !b
    | .finishHalf => !a

/-- The characters of the text from position `i` on are `cs`, in order. -/
def textHas (s : Array Char) : List Char → Nat → Bool
  | [], _ => true
  | c :: cs, i => s[i]? == some c && textHas s cs (i + 1)

namespace Expr

mutual

/-- The end positions of the matches of `e` that start at `i`. -/
def ends (s : Array Char) : Expr → Nat → List Nat
  | .empty, i => [i]
  | .lit cs, i => if textHas s cs i then [i + cs.length] else []
  | .cls set, i =>
    match s[i]? with
    | some c => if set.contains c.toNat then [i + 1] else []
    | none => []
  | .look l, i => if l.holds s i then [i] else []
  | .rep lo hi _ sub, i =>
    let base := exactRounds (fun j => ends s sub j) lo [i]
    let extra :=
      match hi with
      | none => s.size + 1
      | some h => min (h - lo) (s.size + 1)
    moreRounds (fun j => ends s sub j) extra base base
  | .capture _ sub, i => ends s sub i
  | .concat items, i => endsSeq s items [i]
  | .alt branches, i => endsAny s branches i

/-- The end positions of matches of the items one after the other, from any of
the positions `starts`. -/
def endsSeq (s : Array Char) : List Expr → List Nat → List Nat
  | [], starts => starts
  | e :: es, starts => endsSeq s es (stepAll (fun j => ends s e j) starts)

/-- The end positions of matches of any branch that start at `i`. -/
def endsAny (s : Array Char) : List Expr → Nat → List Nat
  | [], _ => []
  | e :: es, i => addAll (ends s e i) (endsAny s es i)

end

/-- Whether a match of `e` starts somewhere in the text. -/
def isMatch (e : Expr) (text : String) : Bool :=
  let s := text.toList.toArray
  (List.range (s.size + 1)).any (fun i => !(ends s e i).isEmpty)

end Expr

example : (Expr.seq [.look .textStart, .lit ['a', 'b'], .look .textEnd]).isMatch "ab" = true := by
  decide

end RestDispatch.Regex
