import RestDispatch.Regex.CharSet

/-!
# Regular expressions: what a pattern means

An `Expr` is what a pattern matches, with the flags already applied: literal
text, a class of characters, a zero-width `Look`, repetitions, capturing
groups, concatenations and alternations.

Expressions are built by normalizing constructors, so that equal meanings
written differently often get the same tree:

* `Expr.ofClass` turns an empty class into `fail` and a class of one character
  into a literal;
* `Expr.seq` drops empty items, opens nested concatenations and joins
  neighbouring literals;
* `Expr.choice` opens nested alternations, turns an alternation of single
  characters or classes into one class, and moves a common leading part of
  concatenations in front of the alternation;
* `Expr.repetition` bounds a repetition of something that matches only the empty
  text by one round, and drops repetitions of exactly zero or one round.

`minLen` and `maxLen` bound the length of a match in UTF-8 bytes (`none`:
no match, or no bound); sums and products stop at the largest machine word.
-/

namespace RestDispatch.Regex

set_option autoImplicit false

/-- The kinds of word-boundary assertions. -/
inductive WordLook where
  /-- A word character on exactly one side. -/
  | boundary
  /-- Word characters on both sides or on neither. -/
  | notBoundary
  /-- A word character after and none before. -/
  | start
  /-- A word character before and none after. -/
  | finish
  /-- No word character before. -/
  | startHalf
  /-- No word character after. -/
  | finishHalf
  deriving Repr, DecidableEq

/-- Zero-width assertions. -/
inductive Look where
  /-- The start of the text. -/
  | textStart
  /-- The end of the text. -/
  | textEnd
  /-- The start of a line: after a line feed, or with `crlf` also after a
  carriage return that no line feed follows. -/
  | lineStart (crlf : Bool)
  /-- The end of a line: before a line feed, or with `crlf` also before a
  carriage return, but not between a carriage return and a line feed. -/
  | lineEnd (crlf : Bool)
  /-- A word boundary over Unicode word characters, or ASCII ones. -/
  | word (kind : WordLook) (unicode : Bool)
  deriving Repr, DecidableEq

/-- What a pattern matches. -/
inductive Expr where
  /-- The empty text. -/
  | empty
  /-- The characters in order; never empty. -/
  | lit (cs : List Char)
  /-- One character of the class; the empty class never matches. -/
  | cls (s : CharSet)
  /-- A zero-width assertion. -/
  | look (l : Look)
  /-- Between `min` and `max` rounds (`none`: no bound), greedy or lazy. -/
  | rep (min : Nat) (max : Option Nat) (greedy : Bool) (sub : Expr)
  /-- A capturing group with its index. -/
  | capture (index : Nat) (sub : Expr)
  /-- The items one after the other. -/
  | concat (items : List Expr)
  /-- Any of the branches, earlier ones preferred. -/
  | alt (branches : List Expr)
  deriving Repr, Inhabited

namespace Expr

mutual

/-- Equality of expressions, item by item. -/
def beq : Expr → Expr → Bool
  | .empty, .empty => true
  | .lit a, .lit b => a == b
  | .cls a, .cls b => a == b
  | .look a, .look b => a == b
  | .rep a b c d, .rep a' b' c' d' => a == a' && b == b' && c == c' && beq d d'
  | .capture i a, .capture j b => i == j && beq a b
  | .concat as, .concat bs => beqList as bs
  | .alt as, .alt bs => beqList as bs
  | _, _ => false

/-- Equality of lists of expressions, item by item. -/
def beqList : List Expr → List Expr → Bool
  | [], [] => true
  | a :: as, b :: bs => beq a b && beqList as bs
  | _, _ => false

end

instance : BEq Expr := ⟨beq⟩

/-- The expression that never matches: the empty class. -/
def fail : Expr := .cls CharSet.empty

/-- The UTF-8 length of a character. -/
def utf8Len (c : Nat) : Nat :=
  if c < 0x80 then 1 else if c < 0x800 then 2 else if c < 0x10000 then 3 else 4

/-- The largest machine word, where lengths stop growing. -/
def wordMax : Nat := Nat.pow 2 64 - 1

/-- A sum that stops at the largest machine word. -/
def addSat (a b : Nat) : Nat := min (a + b) wordMax

/-- A sum that has no value past the largest machine word. -/
def addChecked (a b : Nat) : Option Nat := if a + b ≤ wordMax then some (a + b) else none

/-- A product that has no value past the largest machine word. -/
def mulChecked (a b : Nat) : Option Nat := if a * b ≤ wordMax then some (a * b) else none

mutual

/-- The fewest bytes a match takes (`none`: it never matches). -/
def minLen : Expr → Option Nat
  | .empty => some 0
  | .lit cs => some (cs.foldl (fun n c => n + utf8Len c.toNat) 0)
  | .cls s => s.ranges.head?.map fun r => utf8Len r.1
  | .look _ => some 0
  | .rep lo _ _ sub => sub.minLen.map fun n => min (n * lo) wordMax
  | .capture _ sub => sub.minLen
  | .concat items => minLenConcat items
  | .alt branches => minLenAlt branches

/-- The fewest bytes of a concatenation. -/
def minLenConcat : List Expr → Option Nat
  | [] => some 0
  | e :: es => do addChecked (← e.minLen) (← minLenConcat es)

/-- The fewest bytes of an alternation: none as soon as one branch never matches. -/
def minLenAlt : List Expr → Option Nat
  | [] => none
  | [e] => e.minLen
  | e :: es => do pure (min (← e.minLen) (← minLenAlt es))

end

mutual

/-- The most bytes a match takes (`none`: no bound, or it never matches). -/
def maxLen : Expr → Option Nat
  | .empty => some 0
  | .lit cs => some (cs.foldl (fun n c => n + utf8Len c.toNat) 0)
  | .cls s => s.ranges.getLast?.map fun r => utf8Len r.2
  | .look _ => some 0
  | .rep _ hi _ sub => do mulChecked (← sub.maxLen) (← hi)
  | .capture _ sub => sub.maxLen
  | .concat items => maxLenConcat items
  | .alt branches => maxLenAlt branches

/-- The most bytes of a concatenation. -/
def maxLenConcat : List Expr → Option Nat
  | [] => some 0
  | e :: es => do addChecked (← e.maxLen) (← maxLenConcat es)

/-- The most bytes of an alternation: none as soon as one branch has no bound. -/
def maxLenAlt : List Expr → Option Nat
  | [] => none
  | [e] => e.maxLen
  | e :: es => do pure (max (← e.maxLen) (← maxLenAlt es))

end

/-- One character of a class: the empty class fails, a class of one character
is a literal. -/
def ofClass (s : CharSet) : Expr :=
  if s.isEmpty then fail
  else match s.single? with
    | some c => .lit [Char.ofNat c]
    | none => .cls s

/-- Literal text; the empty text is `empty`. -/
def ofChars (cs : List Char) : Expr :=
  if cs.isEmpty then .empty else .lit cs

/-- Join pending literal text to the items built so far (last first). -/
def flushLit (pending : List Char) (acc : List Expr) : List Expr :=
  if pending.isEmpty then acc else .lit pending :: acc

/-- The items of a concatenation, with nested concatenations opened, empty
items dropped and neighbouring literals joined; `pending` is literal text not
yet placed, `acc` the items placed, last first. -/
def concatItems (pending : List Char) (acc : List Expr) : List Expr → List Expr
  | [] => (flushLit pending acc).reverse
  | .empty :: rest => concatItems pending acc rest
  | .lit cs :: rest => concatItems (pending ++ cs) acc rest
  | .concat inner :: rest =>
    let (pending', acc') := inner.foldl (fun (p, a) e =>
      match e with
      | .lit cs => (p ++ cs, a)
      | e => ([], e :: flushLit p a)) (pending, acc)
    concatItems pending' acc' rest
  | e :: rest => concatItems [] (e :: flushLit pending acc) rest

/-- The concatenation of some expressions. -/
def seq (items : List Expr) : Expr :=
  match concatItems [] [] items with
  | [] => .empty
  | [e] => e
  | es => .concat es

/-- The single character of a literal of one character. -/
def singleChar? : Expr → Option Char
  | .lit [c] => some c
  | _ => none

/-- The class of a class expression. -/
def classOf? : Expr → Option CharSet
  | .cls s => some s
  | _ => none

/-- The items of a concatenation. -/
def concatItems? : Expr → Option (List Expr)
  | .concat items => some items
  | _ => none

/-- The longest common leading part of some lists of expressions. -/
def commonPrefix : List Expr → List Expr → List Expr
  | a :: as, b :: bs => if a == b then a :: commonPrefix as bs else []
  | _, _ => []

/-- The alternation of some expressions, normalized. Each step of moving a
common leading part in front shortens the branches, so `fuel` as large as
the longest branch suffices. -/
def altWith : Nat → List Expr → Expr
  | fuel, branches =>
    let flat := branches.flatMap fun
      | .alt inner => inner
      | e => [e]
    match flat with
    | [] => fail
    | [e] => e
    | _ =>
      match flat.mapM singleChar? with
      | some cs => ofClass (CharSet.ofRanges (cs.map fun c => (c.toNat, c.toNat)))
      | none =>
        match flat.mapM classOf? with
        | some ss => ofClass (CharSet.unionAll ss)
        | none =>
          match fuel, flat.mapM concatItems? with
          | fuel + 1, some (first :: others) =>
            let pre := others.foldl commonPrefix first
            if pre.isEmpty then .alt flat
            else
              let n := pre.length
              let suffixes := (first :: others).map fun items => seq (items.drop n)
              seq (pre ++ [altWith fuel suffixes])
          | _, _ => .alt flat

/-- The alternation of some expressions. -/
def choice (branches : List Expr) : Expr :=
  let size := branches.foldl (fun n e => n + match e with
    | .concat items => items.length
    | _ => 1) 0
  altWith (size + 1) branches

/-- A repetition, normalized: something that only matches the empty text is
taken at most once, and exactly zero or one round is the empty text or the
expression itself. -/
def repetition (lo : Nat) (hi : Option Nat) (greedy : Bool) (sub : Expr) : Expr :=
  let (lo, hi) :=
    if sub.maxLen == some 0 then (min lo 1, some (match hi with | some h => min h 1 | none => 1))
    else (lo, hi)
  if lo == 0 && hi == some 0 then .empty
  else if lo == 1 && hi == some 1 then sub
  else .rep lo hi greedy sub

end Expr

example : Expr.seq [.lit ['a'], .empty, .lit ['b']] == .lit ['a', 'b'] := by decide

end RestDispatch.Regex
