import RestDispatch.Regex.Expr
import RestDispatch.Regex.Property
import RestDispatch.Regex.Syntax

/-!
# Regular expressions: from the written pattern to its meaning

`Syntax.denote` gives the `Expr` a pattern stands for, under the flags of each
leaf.

* Ignoring case, a character with other case forms stands for the class of
  all of them, and a class is closed under case folding before it is negated;
  the classes `\d`, `\s` and `\w` are closed already and stay as they are.
  Inside brackets the two sides of a set operator are closed before the
  operator applies.
* Without Unicode (flag `u` off), classes are ASCII classes, case folding only
  changes ASCII letters, and the text still being UTF-8, anything that could
  match a lone byte outside ASCII is refused: a negated class reaching past
  ASCII, `.`, a `\x` escape above `7F`, and `\B`. A `\p` class is refused
  there, and so is a character outside ASCII inside brackets.
* `^` and `$` are the text's ends, or with the flag `m` the lines' ends (with
  `R` also at carriage returns); `.` is any character but a line feed (and
  with `R` a carriage return), or any character with `s`.
-/

namespace RestDispatch.Regex

set_option autoImplicit false

/-- The bytes from `0` to `FF`, which classes without Unicode live in. -/
def byteRange : CharSet := CharSet.ofRanges [(0, 0xFF)]

/-- A set closed under case folding as the flags say. -/
def Flags.fold (f : Flags) (s : CharSet) : CharSet :=
  if !f.caseless then s else if f.unicode then s.caseFold else s.asciiFold

/-- Close a class under case folding, then negate it if asked; without Unicode
the result must stay within ASCII. -/
def Flags.foldNegate (f : Flags) (negated : Bool) (s : CharSet) : Except PatternError CharSet :=
  let s := f.fold s
  if f.unicode then .ok (if negated then s.complement else s)
  else
    let s := if negated then byteRange.diff s else s
    if s.isAscii then .ok s else .error .invalidUtf8

/-- The code point a literal stands for inside brackets. -/
def Literal.classPoint (f : Flags) (l : Literal) : Except PatternError Nat :=
  if f.unicode || l.char.toNat ≤ 0x7F then .ok l.char.toNat
  else if l.byteEscape then .error .invalidUtf8
  else .error .unicodeNotAllowed

/-- The class a `\p` query gives, closed and negated under the flags. -/
def propertyClass (f : Flags) (q : PropertyQuery) (negated : Bool) :
    Except PatternError CharSet :=
  if !f.unicode then .error .unicodeNotAllowed
  else match q.charSet? with
    | some s => f.foldNegate negated s
    | none => .error .unknownProperty

/-- The class of `\d`, `\s` or `\w` or its negation under the flags. -/
def perlClass (f : Flags) (k : PerlClass) (negated : Bool) : Except PatternError CharSet :=
  if f.unicode then .ok (if negated then k.unicodeSet.complement else k.unicodeSet)
  else
    let s := if negated then byteRange.diff k.asciiSet else k.asciiSet
    if s.isAscii then .ok s else .error .invalidUtf8

/-- The class of a `[:name:]` class or its negation, closed under case folding
before it is negated; without Unicode a negated one is checked with the whole
bracket. -/
def asciiClass (f : Flags) (k : AsciiClass) (negated : Bool) : CharSet :=
  let s := f.fold (CharSet.ofRanges k.ranges)
  if !negated then s else if f.unicode then s.complement else byteRange.diff s

/-- Apply a set operator. -/
def SetOp.apply : SetOp → CharSet → CharSet → CharSet
  | .inter, a, b => a.inter b
  | .diff, a, b => a.diff b
  | .symm, a, b => a.symmDiff b

mutual

/-- The class of the inside of a bracket class. -/
def ClassTree.charSet (f : Flags) : ClassTree → Except PatternError CharSet
  | .lit l => do pure (CharSet.single (← l.classPoint f))
  | .range lo hi => do pure (CharSet.ofRanges [(← lo.classPoint f, ← hi.classPoint f)])
  | .ascii k negated => .ok (asciiClass f k negated)
  | .property q negated => propertyClass f q negated
  | .perl k negated => perlClass f k negated
  | .bracket negated body => do f.foldNegate negated (← body.charSet f)
  | .union items => ClassTree.charSetList f items
  | .setOp op lhs rhs => do
    let a ← lhs.charSet f
    let b ← rhs.charSet f
    pure (op.apply (f.fold a) (f.fold b))

/-- The union of the classes of some members of a bracket class. -/
def ClassTree.charSetList (f : Flags) : List ClassTree → Except PatternError CharSet
  | [] => .ok CharSet.empty
  | t :: ts => do pure ((← t.charSet f).union (← ClassTree.charSetList f ts))

end

/-- The class of `.` under the flags. -/
def dotClass (f : Flags) : Except PatternError CharSet :=
  if !f.unicode then .error .invalidUtf8
  else if f.dotAll then .ok CharSet.univ
  else if f.crlf then .ok (CharSet.univ.diff (CharSet.ofRanges [(0x0A, 0x0A), (0x0D, 0x0D)]))
  else .ok (CharSet.univ.diff (CharSet.single 0x0A))

/-- What a literal outside brackets stands for under the flags. -/
def literalExpr (f : Flags) (l : Literal) : Except PatternError Expr :=
  let c := l.char
  if !f.unicode && l.byteEscape && c.toNat > 0x7F then .error .invalidUtf8
  else if !f.caseless then .ok (.lit [c])
  else if f.unicode then
    match foldMates c.toNat with
    | [_] => .ok (.lit [c])
    | mates => .ok (Expr.ofClass (CharSet.ofRanges (mates.map fun m => (m, m))))
  else if c.toNat < 0x80 && c.isAlpha then .ok (Expr.ofClass (CharSet.single c.toNat).asciiFold)
  else .ok (.lit [c])

/-- The assertion a written assertion stands for under the flags. -/
def assertionLook (f : Flags) : Assertion → Except PatternError Look
  | .startLine => .ok (if f.multiLine then .lineStart f.crlf else .textStart)
  | .endLine => .ok (if f.multiLine then .lineEnd f.crlf else .textEnd)
  | .startText => .ok .textStart
  | .endText => .ok .textEnd
  | .wordBoundary => .ok (.word .boundary f.unicode)
  | .notWordBoundary =>
    if f.unicode then .ok (.word .notBoundary true) else .error .invalidUtf8
  | .wordStart => .ok (.word .start f.unicode)
  | .wordEnd => .ok (.word .finish f.unicode)
  | .wordStartHalf => .ok (.word .startHalf f.unicode)
  | .wordEndHalf => .ok (.word .finishHalf f.unicode)

mutual

/-- What a pattern stands for. -/
def Syntax.denote : Syntax → Except PatternError Expr
  | .empty | .flagChange => .ok .empty
  | .lit l f => literalExpr f l
  | .dot f => do pure (Expr.ofClass (← dotClass f))
  | .assertion a f => do pure (.look (← assertionLook f a))
  | .property q negated f => do pure (Expr.ofClass (← propertyClass f q negated))
  | .perl k negated f => do pure (Expr.ofClass (← perlClass f k negated))
  | .bracket negated body f => do pure (Expr.ofClass (← f.foldNegate negated (← body.charSet f)))
  | .repetition lo hi greedy sub => do pure (Expr.repetition lo hi greedy (← sub.denote))
  | .group (some (index, _)) sub => do pure (.capture index (← sub.denote))
  | .group none sub => sub.denote
  | .alternation branches => do pure (Expr.choice (← Syntax.denoteList branches))
  | .concat items => do pure (Expr.seq (← Syntax.denoteList items))

/-- What some patterns stand for. -/
def Syntax.denoteList : List Syntax → Except PatternError (List Expr)
  | [] => .ok []
  | s :: ss => do pure ((← s.denote) :: (← Syntax.denoteList ss))

end

end RestDispatch.Regex
