import RestDispatch.Regex.Automaton
import RestDispatch.Regex.Denote
import RestDispatch.Regex.Match
import RestDispatch.Regex.Parse

/-!
# Patterns

A pattern is read in three steps: its text is parsed (`Syntax.parse`), the
syntax is given its meaning as an expression (`Syntax.denote`), and the
expression must have automata within the size limit (`Expr.fitsSizeLimit`).
`Pattern.compile` does all three; `Pattern.read` stops after the second, for
engines that have no size limit.
-/

namespace RestDispatch.Regex

set_option autoImplicit false

/-- A pattern that has been read: its expression. -/
structure Pattern where
  expr : Expr

namespace Pattern

/-- Read a pattern, with no limit on its size. -/
def read (caseless : Bool) (text : String) : Except PatternError Pattern := do
  let s ← Syntax.parse caseless text
  let e ← s.denote
  pure ⟨e⟩

/-- Read a pattern whose automata fit the size limit. -/
def compile (caseless : Bool) (text : String) : Except PatternError Pattern := do
  let p ← read caseless text
  if p.expr.fitsSizeLimit then pure p else throw .tooLarge

/-- Some part of a text matches the pattern. -/
def isMatch (p : Pattern) (text : String) : Bool := p.expr.isMatch text

end Pattern

mutual

/-- Some assertion of an expression satisfies a test. -/
def Expr.anyLook (test : Look → Bool) : Expr → Bool
  | .empty | .lit _ | .cls _ => false
  | .look l => test l
  | .rep _ _ _ sub | .capture _ sub => sub.anyLook test
  | .concat es | .alt es => Expr.anyLookList test es

/-- Some assertion of some expression of a list satisfies a test. -/
def Expr.anyLookList (test : Look → Bool) : List Expr → Bool
  | [] => false
  | e :: es => e.anyLook test || Expr.anyLookList test es

end

/-- A Unicode word assertion. -/
def Look.isUnicodeWord : Look → Bool
  | .word _ unicode => unicode
  | _ => false

/-- The pattern asserts something about Unicode words. -/
def Pattern.hasUnicodeWordLook (p : Pattern) : Bool := p.expr.anyLook Look.isUnicodeWord

end RestDispatch.Regex
