import RestDispatch.Regex.Automaton.Classes
import RestDispatch.Regex.Automaton.Trie
import RestDispatch.Regex.Expr

/-!
# The size of the automaton of an expression

A pattern is run by two automata built from its expression by Thompson's
construction: one reading forwards, with a state at the start and end of
every capturing group (the whole pattern being group 0), and one reading
backwards, without groups. Each starts with an empty state and ends with a
match state. `Expr.fitsSizeLimit` holds when both stay within `sizeLimit`
bytes, counted as `Machine` counts them.

The pieces, each ending in the state its successor is joined to:

* an empty text or an assertion is one state, a literal one state per byte,
  a class as `classRef` builds it;
* a concatenation joins its items in order (backwards: from the last);
* an alternation of literal texts is a trie (`trieRef`); any other joins its
  branches under one union state with one empty end state;
* `e?` is a union, `e` and an empty end; `e*` is a union looping through `e`
  when `e` cannot match the empty text, otherwise `e` with a looping union, a
  second union and an empty end; `e+` is `e` with a looping union; `e{n,}`
  is `n - 1` copies, a last copy and a union looping through it; `e{n}` is
  `n` copies; `e{n,m}` is `n` copies, an empty end and `m - n` optional
  copies, each behind a union that may skip to the end.
-/

namespace RestDispatch.Regex

set_option autoImplicit false

/-- The most bytes an automaton of a pattern may take. -/
def sizeLimit : Nat := 10 * 1024 * 1024

/-- A literal of `n` bytes: one state per byte. -/
def bytesRef (n : Nat) : Build Ref := do
  let first ← single 0
  let mut stop := first.stop
  for _ in [1:n] do
    let r ← single 0
    stop := r.stop
  pure ⟨first.start, stop⟩

/-- `n` copies of a piece, one after the other; no copy is one empty state. -/
def copiesRef (n : Nat) (piece : Build Ref) : Build Ref := do
  if n = 0 then single 0
  else
    let first ← piece
    let mut stop := first.stop
    for _ in [1:n] do
      let r ← piece
      patch stop
      stop := r.stop
    pure ⟨first.start, stop⟩

/-- A repetition of a piece between `lo` and `hi` rounds; `minLen` is the
fewest bytes the piece matches. -/
def repeatRef (lo : Nat) (hi : Option Nat) (minLen : Option Nat) (piece : Build Ref) : Build Ref :=
  match lo, hi with
  | 0, some 1 => do
    let u ← addState true 0
    let r ← piece
    let e ← addState false 0
    patch u
    patch u
    patch r.stop
    pure ⟨u, e⟩
  | 0, none =>
    if 0 < minLen.getD 0 then do
      let u ← addState true 0
      let r ← piece
      patch u
      patch r.stop
      pure ⟨u, u⟩
    else do
      let r ← piece
      let plus ← addState true 0
      patch r.stop
      patch plus
      let question ← addState true 0
      let e ← addState false 0
      patch question
      patch question
      patch plus
      pure ⟨question, e⟩
  | 1, none => do
    let r ← piece
    let u ← addState true 0
    patch r.stop
    patch u
    pure ⟨r.start, u⟩
  | n, none => do
    let pre ← copiesRef (n - 1) piece
    let last ← piece
    let u ← addState true 0
    patch pre.stop
    patch last.stop
    patch u
    pure ⟨pre.start, u⟩
  | n, some m =>
    if n = m then copiesRef n piece
    else do
      let pre ← copiesRef n piece
      let e ← addState false 0
      let mut prev := pre.stop
      for _ in [n:m] do
        let u ← addState true 0
        let r ← piece
        patch prev
        patch u
        patch u
        prev := r.stop
      patch prev
      pure ⟨pre.start, e⟩

/-- A capturing group around a piece. -/
def captureRef (piece : Build Ref) : Build Ref := do
  let start ← addState false 0
  let inner ← piece
  let stop ← addState false 0
  patch start
  patch inner.stop
  pure ⟨start, stop⟩

/-- The bytes of a literal branch. -/
def literalBytes? : Expr → Option (List Nat)
  | .lit cs => some (utf8Text cs)
  | _ => none

mutual

/-- The piece of automaton of an expression, read forwards or backwards. -/
def Expr.build (backward : Bool) : Expr → Build Ref
  | .empty => single 0
  | .lit cs => bytesRef (utf8Text cs).length
  | .cls s => classRef backward s
  | .look _ => single 0
  | .rep lo hi _ sub => repeatRef lo hi sub.minLen (sub.build backward)
  | .capture _ sub => if backward then sub.build backward else captureRef (sub.build backward)
  | .concat items =>
    if backward then do
      match ← Expr.buildBackward items with
      | some r => pure r
      | none => single 0
    else Expr.buildForward backward none items
  | .alt branches => Expr.buildAlt backward branches

/-- The items of a concatenation joined in order, after the piece `acc`. -/
def Expr.buildForward (backward : Bool) (acc : Option Ref) : List Expr → Build Ref
  | [] => match acc with
    | some r => pure r
    | none => single 0
  | e :: es => do
    let r ← e.build backward
    let joined ← match acc with
      | none => pure r
      | some a => do
        patch a.stop
        pure ⟨a.start, r.stop⟩
    Expr.buildForward backward (some joined) es

/-- The items of a concatenation joined from the last, read backwards. -/
def Expr.buildBackward : List Expr → Build (Option Ref)
  | [] => pure none
  | e :: es => do
    let tail ← Expr.buildBackward es
    let r ← e.build true
    match tail with
    | none => pure (some r)
    | some t => do
      patch t.stop
      pure (some ⟨t.start, r.stop⟩)

/-- The branches of an alternation. -/
def Expr.buildAlt (backward : Bool) : List Expr → Build Ref
  | [] => single 0
  | [b] => b.build backward
  | b1 :: b2 :: rest =>
    match (b1 :: b2 :: rest).mapM literalBytes? with
    | some texts => trieRef backward texts
    | none => do
      let r1 ← b1.build backward
      let r2 ← b2.build backward
      let u ← addState true 0
      let e ← addState false 0
      patch u
      patch r1.stop
      patch u
      patch r2.stop
      Expr.buildMore backward u rest
      pure ⟨u, e⟩

/-- Further branches of an alternation under its union. -/
def Expr.buildMore (backward : Bool) (u : Nat) : List Expr → Build Unit
  | [] => pure ()
  | b :: bs => do
    let r ← b.build backward
    patch u
    patch r.stop
    Expr.buildMore backward u bs

end

/-- The automaton of a whole pattern, forwards or backwards, stays within a
limit. -/
def Expr.automatonFits (limit : Nat) (backward : Bool) (e : Expr) : Bool :=
  let whole : Build Unit := do
    let pre ← single 0
    let one ← if backward then e.build true else captureRef (e.build false)
    let _ ← addState false 0
    patch one.stop
    patch pre.stop
  match whole.run (Machine.start limit) with
  | .ok _ => true
  | .error _ => false

/-- Both automata of a pattern stay within `sizeLimit`. -/
def Expr.fitsSizeLimit (e : Expr) : Bool :=
  e.automatonFits sizeLimit false && e.automatonFits sizeLimit true

end RestDispatch.Regex
