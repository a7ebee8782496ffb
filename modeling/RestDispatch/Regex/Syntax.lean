/-!
# Regular expressions: the written pattern

A pattern is first read into a `Syntax` tree that keeps the shape of the text:
literals, `.`, assertions, the classes written with a backslash (`\d`, `\pL`),
bracket classes as a `ClassTree`, repetitions, groups, alternations and
concatenations. Flags such as "ignore case" are settled while reading: every
leaf carries the `Flags` in force where it stands, and a flag group such as
`(?i)` stays in the tree as `flagChange`, an item that matches the empty text
and cannot be repeated.

The nesting of a tree is bounded: `Syntax.depth` counts the enclosing
repetitions, groups, alternations of two or more branches, concatenations of
two or more items, and bracket classes with their unions and set operations,
and a pattern nested deeper than `nestLimit` is refused.
-/

namespace RestDispatch.Regex

set_option autoImplicit false

/-- Why a pattern is refused. -/
inductive PatternError where
  | unclosedGroup
  | unopenedGroup
  | repetitionMissing
  | badRepetition
  | unclosedClass
  | badClassRange
  | badEscape
  | badFlags
  | badGroupName
  | duplicateName
  | nestTooDeep
  | unknownProperty
  | unicodeNotAllowed
  | invalidUtf8
  | tooLarge
  | exhausted
  deriving Repr, DecidableEq

/-- The flags in force at a point of a pattern. -/
structure Flags where
  caseless : Bool
  multiLine : Bool
  dotAll : Bool
  swapGreed : Bool
  unicode : Bool
  verbose : Bool
  crlf : Bool
  deriving Repr, DecidableEq

/-- The flags at the start of a pattern. -/
def Flags.initial (caseless : Bool) : Flags :=
  ⟨caseless, false, false, false, true, false, false⟩

/-- The ASCII classes named in brackets as `[:name:]`. -/
inductive AsciiClass where
  | alnum | alpha | ascii | blank | cntrl | digit | graph
  | lower | print | punct | space | upper | word | xdigit
  deriving Repr, DecidableEq

namespace AsciiClass

/-- The class that a bracket name spells. -/
def ofName? : String → Option AsciiClass
  | "alnum" => some .alnum
  | "alpha" => some .alpha
  | "ascii" => some .ascii
  | "blank" => some .blank
  | "cntrl" => some .cntrl
  | "digit" => some .digit
  | "graph" => some .graph
  | "lower" => some .lower
  | "print" => some .print
  | "punct" => some .punct
  | "space" => some .space
  | "upper" => some .upper
  | "word" => some .word
  | "xdigit" => some .xdigit
  | _ => none

/-- The members of a class, as increasing ranges of code points. -/
def ranges : AsciiClass → List (Nat × Nat)
  | .alnum => [(0x30, 0x39), (0x41, 0x5A), (0x61, 0x7A)]
  | .alpha => [(0x41, 0x5A), (0x61, 0x7A)]
  | .ascii => [(0x00, 0x7F)]
  | .blank => [(0x09, 0x09), (0x20, 0x20)]
  | .cntrl => [(0x00, 0x1F), (0x7F, 0x7F)]
  | .digit => [(0x30, 0x39)]
  | .graph => [(0x21, 0x7E)]
  | .lower => [(0x61, 0x7A)]
  | .print => [(0x20, 0x7E)]
  | .punct => [(0x21, 0x2F), (0x3A, 0x40), (0x5B, 0x60), (0x7B, 0x7E)]
  | .space => [(0x09, 0x0D), (0x20, 0x20)]
  | .upper => [(0x41, 0x5A)]
  | .word => [(0x30, 0x39), (0x41, 0x5A), (0x5F, 0x5F), (0x61, 0x7A)]
  | .xdigit => [(0x30, 0x39), (0x41, 0x46), (0x61, 0x66)]

end AsciiClass

/-- The classes of a backslash and one letter: `\d`, `\s`, `\w`. -/
inductive PerlClass where
  | digit | space | word
  deriving Repr, DecidableEq

/-- What `\p` asks for: a one-letter name (`\pL`), a name (`\p{Greek}`), or a
property and its value (`\p{sc=Greek}`). -/
inductive PropertyQuery where
  | oneLetter (c : Char)
  | named (name : String)
  | byValue (name value : String)
  deriving Repr, DecidableEq

/-- A set operator inside brackets: `&&`, `--` or `~~`. -/
inductive SetOp where
  | inter | diff | symm
  deriving Repr, DecidableEq

/-- A character written in a pattern, and whether it was written as a
two-digit `\x` escape, which outside Unicode mode stands for a byte. -/
structure Literal where
  char : Char
  byteEscape : Bool
  deriving Repr, DecidableEq

/-- The inside of a bracket class. -/
inductive ClassTree where
  /-- One character. -/
  | lit (l : Literal)
  /-- The characters from one to the other. -/
  | range (lo hi : Literal)
  /-- A `[:name:]` class, `[:^name:]` when negated. -/
  | ascii (k : AsciiClass) (negated : Bool)
  /-- A `\p` class, `\P` when negated. -/
  | property (q : PropertyQuery) (negated : Bool)
  /-- A `\d`, `\s` or `\w` class, upper case when negated. -/
  | perl (k : PerlClass) (negated : Bool)
  /-- A bracket class inside the brackets. -/
  | bracket (negated : Bool) (body : ClassTree)
  /-- The members side by side: none, or two or more. -/
  | union (items : List ClassTree)
  /-- A set operator between two sides. -/
  | setOp (op : SetOp) (lhs rhs : ClassTree)
  deriving Repr

/-- The zero-width assertions as written. -/
inductive Assertion where
  | startLine | endLine | startText | endText
  | wordBoundary | notWordBoundary
  | wordStart | wordEnd | wordStartHalf | wordEndHalf
  deriving Repr, DecidableEq

/-- A pattern as written, with the flags of each leaf. -/
inductive Syntax where
  /-- Nothing: an empty branch or group. -/
  | empty
  /-- A flag group such as `(?i)`, which changes the flags of what follows. -/
  | flagChange
  /-- One character. -/
  | lit (l : Literal) (f : Flags)
  /-- `.`. -/
  | dot (f : Flags)
  /-- An assertion. -/
  | assertion (a : Assertion) (f : Flags)
  /-- A `\p` or `\P` class. -/
  | property (q : PropertyQuery) (negated : Bool) (f : Flags)
  /-- A `\d`, `\s` or `\w` class or its negation. -/
  | perl (k : PerlClass) (negated : Bool) (f : Flags)
  /-- A bracket class. -/
  | bracket (negated : Bool) (body : ClassTree) (f : Flags)
  /-- A repetition, greedy or lazy as finally meant. -/
  | repetition (min : Nat) (max : Option Nat) (greedy : Bool) (sub : Syntax)
  /-- A group; a capturing one has its index and maybe a name. -/
  | group (capture : Option (Nat × Option String)) (sub : Syntax)
  /-- Two or more branches. -/
  | alternation (branches : List Syntax)
  /-- Two or more items in a row. -/
  | concat (items : List Syntax)
  deriving Repr

mutual

/-- The nesting of a bracket class inside. -/
def ClassTree.depth : ClassTree → Nat
  | .bracket _ body => body.depth + 1
  | .union [] => 0
  | .union items => ClassTree.depthList items + 1
  | .setOp _ lhs rhs => max lhs.depth rhs.depth + 1
  | .lit _ | .range _ _ | .ascii _ _ | .property _ _ | .perl _ _ => 0

/-- The deepest nesting among some members of a bracket class. -/
def ClassTree.depthList : List ClassTree → Nat
  | [] => 0
  | t :: ts => max t.depth (ClassTree.depthList ts)

end

mutual

/-- The nesting of a pattern. -/
def Syntax.depth : Syntax → Nat
  | .repetition _ _ _ sub => sub.depth + 1
  | .group _ sub => sub.depth + 1
  | .alternation subs => Syntax.depthList subs + 1
  | .concat subs => Syntax.depthList subs + 1
  | .bracket _ body _ => body.depth + 1
  | .empty | .flagChange | .lit _ _ | .dot _ | .assertion _ _ | .property _ _ _
  | .perl _ _ _ => 0

/-- The deepest nesting among some patterns. -/
def Syntax.depthList : List Syntax → Nat
  | [] => 0
  | s :: ss => max s.depth (Syntax.depthList ss)

end

/-- The deepest nesting a pattern may have. -/
def nestLimit : Nat := 250

example : (Syntax.group none (.concat [.empty, .repetition 0 none true .empty])).depth = 3 := by
  decide

end RestDispatch.Regex
