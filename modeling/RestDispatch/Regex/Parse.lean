import RestDispatch.Regex.Syntax
import RestDispatch.Text.Blank
import RestDispatch.Text.Classes

/-!
# Regular expressions: reading a pattern

`Syntax.parse caseless text` reads a pattern in the usual syntax into a
`Syntax` tree: literals and escapes (`\n`, `\x41`, `\u{1F600}`, an escaped
punctuation character), `.`, `^`, `$`, the classes `\d`, `\s`, `\w`, `\pL` and
`\p{…}`, bracket classes with ranges, nested brackets, `[:name:]` classes and
the set operators `&&`, `--` and `~~`, groups (plain, `(?:…)`, named with
`(?P<name>…)` or `(?<name>…)`, and flag groups such as `(?i)` and `(?-i:…)`),
the repetitions `*`, `+`, `?`, `{n}`, `{n,}` and `{n,m}`, each possibly lazy,
and the assertions `\b`, `\B`, `\A`, `\z`, `\<`, `\>` and `\b{start}` with its
kin.

With the flag `x`, blanks and `#` comments between the parts of a pattern are
skipped. The numbers of a counted repetition may stand between blanks in any
mode. A group name starts with a letter or `_` and goes on with letters,
numbers, `_`, `.`, `[` and `]`.

A pattern is refused when it breaks that syntax, and when it nests deeper
than `nestLimit`. Reading goes left to right with a stack of the enclosing
groups; each step reads at least one character, so the length of the text
bounds the number of steps.
-/

namespace RestDispatch.Regex

open RestDispatch.Text

set_option autoImplicit false

/-- The value of a hexadecimal digit. -/
def hexDigit? (c : Char) : Option Nat :=
  if '0' ≤ c ∧ c ≤ '9' then some (c.toNat - '0'.toNat)
  else if 'a' ≤ c ∧ c ≤ 'f' then some (c.toNat - 'a'.toNat + 10)
  else if 'A' ≤ c ∧ c ≤ 'F' then some (c.toNat - 'A'.toNat + 10)
  else none

/-- A code point that is a character: at most `0x10FFFF` and no surrogate. -/
def isScalar (n : Nat) : Bool :=
  n ≤ 0x10FFFF && !(0xD800 ≤ n && n ≤ 0xDFFF)

/-- Blanks and `#` comments skipped; `inComment` is set inside a comment, which
runs to the end of its line. -/
def skipVerbose (inComment : Bool) : List Char → List Char
  | [] => []
  | c :: rest =>
    if inComment then skipVerbose (c != '\n') rest
    else if isBlank c then skipVerbose false rest
    else if c == '#' then skipVerbose true rest
    else c :: rest

/-- Skipping never lengthens the text. -/
theorem skipVerbose_length_le (b : Bool) (cs : List Char) :
    (skipVerbose b cs).length ≤ cs.length := by
  induction cs generalizing b with
  | nil => simp [skipVerbose]
  | cons c rest ih =>
    unfold skipVerbose
    split
    · exact Nat.le_succ_of_le (ih _)
    · split
      · exact Nat.le_succ_of_le (ih _)
      · split
        · exact Nat.le_succ_of_le (ih _)
        · exact Nat.le_refl _

/-- Skip what the flag `x` lets a pattern skip. -/
def skipSpace (f : Flags) (cs : List Char) : List Char :=
  if f.verbose then skipVerbose false cs else cs

/-- Skipping never lengthens the text. -/
theorem skipSpace_length_le (f : Flags) (cs : List Char) : (skipSpace f cs).length ≤ cs.length := by
  unfold skipSpace
  split
  · exact skipVerbose_length_le _ _
  · exact Nat.le_refl _

/-- Exactly `k` hexadecimal digits, each possibly followed by what `x` skips. -/
def readHexFixed (f : Flags) : Nat → Nat → List Char → Except PatternError (Nat × List Char)
  | 0, acc, cs => .ok (acc, cs)
  | k + 1, acc, c :: rest =>
    match hexDigit? c with
    | some v => readHexFixed f k (acc * 16 + v) (skipSpace f rest)
    | none => .error .badEscape
  | _ + 1, _, [] => .error .badEscape

/-- Hexadecimal digits up to a closing brace, at least one. -/
def readHexBraced (f : Flags) (acc : Nat) (seen : Bool) :
    List Char → Except PatternError (Nat × List Char)
  | [] => .error .badEscape
  | '}' :: rest => if seen then .ok (acc, skipSpace f rest) else .error .badEscape
  | c :: rest =>
    match hexDigit? c with
    | some v => readHexBraced f (acc * 16 + v) true (skipSpace f rest)
    | none => .error .badEscape
termination_by cs => cs.length
decreasing_by
  all_goals
    have h := skipSpace_length_le f rest
    simp only [List.length_cons]
    omega

/-- A character written in hexadecimal after `\x`, `\u` or `\U`, with `digits`
digits or in braces; two digits without braces stand for a byte. -/
def readHexChar (f : Flags) (digits : Nat) (cs : List Char) :
    Except PatternError (Literal × List Char) := do
  let (n, rest, braced) ← match skipSpace f cs with
    | [] => Except.error PatternError.badEscape
    | '{' :: r => do let (n, rest) ← readHexBraced f 0 false (skipSpace f r); pure (n, rest, true)
    | r => do let (n, rest) ← readHexFixed f digits 0 r; pure (n, rest, false)
  if isScalar n then .ok (⟨Char.ofNat n, digits == 2 && !braced⟩, rest) else .error .badEscape

/-- The characters that stand for themselves after a backslash. -/
def isMetaChar (c : Char) : Bool :=
  "\\.+*?()|[]{}^$#&-~".toList.contains c

/-- The characters that may stand after a backslash for themselves: the meta
characters and ASCII punctuation other than `<` and `>`. -/
def isEscapeable (c : Char) : Bool :=
  isMetaChar c || (c.toNat < 0x80 && !c.isAlphanum && c != '<' && c != '>')

/-- What an escape stands for. -/
inductive Escaped where
  | lit (l : Literal)
  | perl (k : PerlClass) (negated : Bool)
  | property (q : PropertyQuery) (negated : Bool)
  | assertion (a : Assertion)

/-- The name of a special word boundary, letters and `-`, up to its closing
brace. -/
def readBoundaryName (f : Flags) (acc : List Char) : List Char → Option (String × List Char)
  | [] => none
  | '}' :: rest => some (String.ofList acc.reverse, rest)
  | c :: rest =>
    if c.isAlpha || c == '-' then readBoundaryName f (c :: acc) (skipSpace f rest) else none
termination_by cs => cs.length
decreasing_by
  all_goals
    have h := skipSpace_length_le f rest
    simp only [List.length_cons]
    omega

/-- The assertion after `\b`: a plain word boundary, or one of the braced forms
when a letter or `-` follows the brace; otherwise the brace starts a
repetition. -/
def readBoundary (f : Flags) (cs : List Char) : Except PatternError (Escaped × List Char) :=
  match cs with
  | '{' :: after =>
    match skipSpace f after with
    | [] => .error .badEscape
    | c :: _ =>
      if c.isAlpha || c == '-' then
        match readBoundaryName f [] (skipSpace f after) with
        | some ("start", rest) => .ok (.assertion .wordStart, rest)
        | some ("end", rest) => .ok (.assertion .wordEnd, rest)
        | some ("start-half", rest) => .ok (.assertion .wordStartHalf, rest)
        | some ("end-half", rest) => .ok (.assertion .wordEndHalf, rest)
        | _ => .error .badEscape
      else .ok (.assertion .wordBoundary, cs)
  | _ => .ok (.assertion .wordBoundary, skipSpace f cs)

/-- The characters of a braced property name, up to the closing brace. -/
def readPropertyName (f : Flags) (acc : List Char) : List Char → Option (List Char × List Char)
  | [] => none
  | '}' :: rest => some (acc.reverse, rest)
  | c :: rest => readPropertyName f (c :: acc) (skipSpace f rest)
termination_by cs => cs.length
decreasing_by
  all_goals
    have h := skipSpace_length_le f rest
    simp only [List.length_cons]
    omega

/-- The text before and after the first occurrence of a separator. -/
def splitFirst (sep : List Char) (cs : List Char) : Option (List Char × List Char) :=
  let n := sep.length
  match (List.range (cs.length + 1)).find? fun i => (cs.drop i).take n == sep with
  | some i => some (cs.take i, cs.drop (i + n))
  | none => none

/-- The query of a braced property name: `name!=value` (negated), `name:value`,
`name=value`, or a name. -/
def propertyQuery (name : List Char) : PropertyQuery × Bool :=
  match splitFirst ['!', '='] name with
  | some (a, b) => (.byValue (String.ofList a) (String.ofList b), true)
  | none =>
    match splitFirst [':'] name with
    | some (a, b) => (.byValue (String.ofList a) (String.ofList b), false)
    | none =>
      match splitFirst ['='] name with
      | some (a, b) => (.byValue (String.ofList a) (String.ofList b), false)
      | none => (.named (String.ofList name), false)

/-- The property class after `\p` or `\P`. -/
def readProperty (f : Flags) (negated : Bool) (cs : List Char) :
    Except PatternError (Escaped × List Char) :=
  match skipSpace f cs with
  | [] => .error .badEscape
  | '{' :: rest =>
    match readPropertyName f [] (skipSpace f rest) with
    | some (name, after) =>
      let (q, flip) := propertyQuery name
      .ok (.property q (negated != flip), after)
    | none => .error .badEscape
  | '\\' :: _ => .error .badEscape
  | c :: rest => .ok (.property (.oneLetter c) negated, skipSpace f rest)

/-- The escape after a backslash. -/
def readEscape (f : Flags) : List Char → Except PatternError (Escaped × List Char)
  | [] => .error .badEscape
  | c :: rest =>
    let plain (ch : Char) : Except PatternError (Escaped × List Char) :=
      .ok (.lit ⟨ch, false⟩, skipSpace f rest)
    match c with
    | 'd' => .ok (.perl .digit false, skipSpace f rest)
    | 'D' => .ok (.perl .digit true, skipSpace f rest)
    | 's' => .ok (.perl .space false, skipSpace f rest)
    | 'S' => .ok (.perl .space true, skipSpace f rest)
    | 'w' => .ok (.perl .word false, skipSpace f rest)
    | 'W' => .ok (.perl .word true, skipSpace f rest)
    | 'p' => readProperty f false rest
    | 'P' => readProperty f true rest
    | 'x' => (readHexChar f 2 rest).map fun (l, r) => (.lit l, r)
    | 'u' => (readHexChar f 4 rest).map fun (l, r) => (.lit l, r)
    | 'U' => (readHexChar f 8 rest).map fun (l, r) => (.lit l, r)
    | 'a' => plain (Char.ofNat 7)
    | 'f' => plain (Char.ofNat 12)
    | 't' => plain '\t'
    | 'n' => plain '\n'
    | 'r' => plain '\r'
    | 'v' => plain (Char.ofNat 11)
    | 'b' => readBoundary f rest
    | 'B' => .ok (.assertion .notWordBoundary, skipSpace f rest)
    | 'A' => .ok (.assertion .startText, skipSpace f rest)
    | 'z' => .ok (.assertion .endText, skipSpace f rest)
    | '<' => .ok (.assertion .wordStart, skipSpace f rest)
    | '>' => .ok (.assertion .wordEnd, skipSpace f rest)
    | _ => if isEscapeable c then plain c else .error .badEscape

/-- The `[:name:]` class at the start of `cs` (just after an inner opening
bracket), and what follows it. -/
def readAsciiClass? (cs : List Char) : Option (ClassTree × List Char) :=
  match cs with
  | ':' :: rest =>
    let (negated, rest) :=
      match rest with
      | '^' :: r => (true, r)
      | _ => (false, rest)
    let name := rest.takeWhile (· != ':')
    match rest.dropWhile (· != ':') with
    | ':' :: ']' :: after =>
      match AsciiClass.ofName? (String.ofList name) with
      | some k => some (.ascii k negated, after)
      | none => none
    | _ => none
  | _ => none

/-- A character or an escape inside brackets. -/
def readClassAtom (f : Flags) : List Char → Except PatternError (Escaped × List Char)
  | [] => .error .unclosedClass
  | '\\' :: rest => readEscape f rest
  | c :: rest => .ok (.lit ⟨c, false⟩, rest)

/-- The member of a bracket class an escape or character gives. -/
def Escaped.toClassTree : Escaped → Except PatternError ClassTree
  | .lit l => .ok (.lit l)
  | .perl k negated => .ok (.perl k negated)
  | .property q negated => .ok (.property q negated)
  | .assertion _ => .error .badEscape

/-- A member of a bracket class: a character, a range or an escape. A `-` is
a range only when neither `]` nor another `-` follows it. -/
def readRangeOrAtom (f : Flags) (cs : List Char) : Except PatternError (ClassTree × List Char) := do
  let (first, rest) ← readClassAtom f cs
  match skipSpace f rest with
  | [] => .error .unclosedClass
  | '-' :: after =>
    match skipSpace f after with
    | ']' :: _ => .ok (← first.toClassTree, skipSpace f rest)
    | '-' :: _ => .ok (← first.toClassTree, skipSpace f rest)
    | [] => .error .unclosedClass
    | after' =>
      let (second, rest2) ← readClassAtom f after'
      match first, second with
      | .lit a, .lit b =>
        if a.char ≤ b.char then .ok (.range a b, rest2) else .error .badClassRange
      | _, _ => .error .badClassRange
  | rest' => .ok (← first.toClassTree, rest')

/-- The members read so far as one member: none, one, or their union. -/
def unionOf (items : List ClassTree) : ClassTree :=
  match items with
  | [t] => t
  | ts => .union ts

/-- Apply a waiting set operator to the members read since it. -/
def closeSetOp (pending : Option (SetOp × ClassTree)) (items : List ClassTree) : ClassTree :=
  match pending with
  | some (op, lhs) => .setOp op lhs (unionOf items.reverse)
  | none => unionOf items.reverse

/-- The `-` characters at the start of a bracket class, each a member. -/
def leadingDashes (f : Flags) (acc : List ClassTree) : List Char → List ClassTree × List Char
  | '-' :: rest => leadingDashes f (.lit ⟨'-', false⟩ :: acc) (skipSpace f rest)
  | cs => (acc, cs)
termination_by cs => cs.length
decreasing_by
  all_goals
    have h := skipSpace_length_le f rest
    simp only [List.length_cons]
    omega

mutual

/-- A bracket class, read just after its opening bracket: whether it is
negated, and its inside. -/
def readBracket (f : Flags) : Nat → List Char → Except PatternError ((Bool × ClassTree) × List Char)
  | 0, _ => .error .exhausted
  | fuel + 1, cs => do
    let cs := skipSpace f cs
    let (negated, cs) :=
      match cs with
      | '^' :: r => (true, skipSpace f r)
      | _ => (false, cs)
    let (lead, cs) := leadingDashes f [] cs
    let (lead, cs) :=
      match lead, cs with
      | [], ']' :: r => ([ClassTree.lit ⟨']', false⟩], skipSpace f r)
      | _, _ => (lead, cs)
    let (body, rest) ← readSetItems f fuel cs none lead
    .ok ((negated, body), rest)

/-- The members of a bracket class up to its closing bracket. `pending` holds
the left side of a set operator waiting for its right side; `items` the
members read since, last first. -/
def readSetItems (f : Flags) : Nat → List Char → Option (SetOp × ClassTree) →
    List ClassTree → Except PatternError (ClassTree × List Char)
  | 0, _, _, _ => .error .exhausted
  | fuel + 1, cs, pending, items =>
    match skipSpace f cs with
    | [] => .error .unclosedClass
    | ']' :: rest => .ok (closeSetOp pending items, rest)
    | '&' :: '&' :: r => readSetItems f fuel r (some (.inter, closeSetOp pending items)) []
    | '-' :: '-' :: r => readSetItems f fuel r (some (.diff, closeSetOp pending items)) []
    | '~' :: '~' :: r => readSetItems f fuel r (some (.symm, closeSetOp pending items)) []
    | '[' :: rest =>
      match readAsciiClass? rest with
      | some (cls, r) => readSetItems f fuel r pending (cls :: items)
      | none =>
        match readBracket f fuel rest with
        | .ok ((negated, body), r) => readSetItems f fuel r pending (.bracket negated body :: items)
        | .error e => .error e
    | cs' =>
      match readRangeOrAtom f cs' with
      | .ok (cls, r) =>
        if r.length < cs'.length then readSetItems f fuel r pending (cls :: items)
        else .error .exhausted
      | .error e => .error e

end

/-- The group being read: its finished branches and the items of its current
branch, last first. -/
structure Frame where
  branches : List (List Syntax)
  items : List Syntax

/-- A branch of items in order: nothing, one item, or their concatenation. -/
def branchOf (items : List Syntax) : Syntax :=
  match items with
  | [] => .empty
  | [s] => s
  | ss => .concat ss

/-- The pattern of a whole group. -/
def Frame.close (fr : Frame) : Syntax :=
  match fr.branches with
  | [] => branchOf fr.items.reverse
  | bs => .alternation ((fr.items :: bs).reverse.map fun items => branchOf items.reverse)

/-- An enclosing group, waiting while a nested one is read: its frame, the
flags to restore, and how the nested group captures. -/
structure Outer where
  frame : Frame
  flags : Flags
  capture : Option (Nat × Option String)

/-- Apply a repetition to the last item of the current branch. -/
def Frame.repeatLast (fr : Frame) (lo : Nat) (hi : Option Nat) (greedy : Bool) :
    Except PatternError Frame :=
  match fr.items with
  | [] | .flagChange :: _ | .empty :: _ => .error .repetitionMissing
  | s :: rest => .ok { fr with items := .repetition lo hi greedy s :: rest }

/-- Add an item to the current branch. -/
def Frame.push (fr : Frame) (s : Syntax) : Frame :=
  { fr with items := s :: fr.items }

/-- The decimal digits at the start of the text, each possibly followed by
what the flag `x` skips. -/
def decimalDigits (f : Flags) (acc : List Char) : List Char → List Char × List Char
  | c :: rest =>
    if c.isDigit then decimalDigits f (c :: acc) (skipSpace f rest) else (acc.reverse, c :: rest)
  | [] => (acc.reverse, [])
termination_by cs => cs.length
decreasing_by
  all_goals
    have h := skipSpace_length_le f rest
    simp only [List.length_cons]
    omega

/-- A decimal number that fits 32 bits, with at least one digit, between
blanks; with the flag `x` the digits themselves may be apart. -/
def readDecimal (f : Flags) (cs : List Char) : Except PatternError (Nat × List Char) :=
  let (ds, rest) := decimalDigits f [] (cs.dropWhile isBlank)
  let rest := rest.dropWhile isBlank
  if ds.isEmpty then .error .badRepetition
  else
    let n := ds.foldl (fun acc d => acc * 10 + (d.toNat - '0'.toNat)) 0
    if n < Nat.pow 2 32 then .ok (n, rest) else .error .badRepetition

/-- The bounds of a counted repetition, read just after its opening brace. -/
def readCount (f : Flags) (cs : List Char) :
    Except PatternError ((Nat × Option Nat) × List Char) := do
  let (lo, rest) ← readDecimal f (skipSpace f cs)
  match rest with
  | '}' :: after => .ok ((lo, some lo), after)
  | ',' :: after =>
    match skipSpace f after with
    | '}' :: r => .ok ((lo, none), r)
    | after' =>
      let (hi, r) ← readDecimal f after'
      match r with
      | '}' :: r2 => if lo ≤ hi then .ok ((lo, some hi), r2) else .error .badRepetition
      | _ => .error .badRepetition
  | _ => .error .badRepetition

/-- How a parenthesis opens. -/
inductive Opening where
  /-- `(?flags)`: new flags for the rest of the enclosing group. -/
  | setFlags (f : Flags)
  /-- A group with its flags, capturing with a name or without one, or not
  capturing. -/
  | group (f : Flags) (capturing : Bool) (name : Option String)

/-- A character allowed in a group name; the first one must be a letter or `_`. -/
def isNameChar (first : Bool) (c : Char) : Bool :=
  if first then c == '_' || isAlphabetic c
  else c == '_' || c == '.' || c == '[' || c == ']' || isAlphanumeric c

/-- A group name up to its closing angle bracket. -/
def readGroupName (cs : List Char) : Except PatternError (String × List Char) :=
  let name := cs.takeWhile (· != '>')
  match cs.dropWhile (· != '>') with
  | '>' :: rest =>
    match name with
    | [] => .error .badGroupName
    | c :: more =>
      if isNameChar true c && more.all (isNameChar false) then .ok (String.ofList name, rest)
      else .error .badGroupName
  | _ => .error .badGroupName

/-- Change one flag. -/
def Flags.set (f : Flags) (c : Char) (on : Bool) : Option Flags :=
  match c with
  | 'i' => some { f with caseless := on }
  | 'm' => some { f with multiLine := on }
  | 's' => some { f with dotAll := on }
  | 'U' => some { f with swapGreed := on }
  | 'u' => some { f with unicode := on }
  | 'x' => some { f with verbose := on }
  | 'R' => some { f with crlf := on }
  | _ => none

/-- The flag letters of a group, up to `:` or `)`. `negating` is set after `-`,
`seen` holds the letters met so far, and `dashLast` is set just after `-`. -/
def readFlags (f : Flags) (negating dashLast : Bool) (seen : List Char) :
    List Char → Except PatternError (Opening × List Char)
  | [] => .error .badFlags
  | ':' :: rest => if dashLast then .error .badFlags else .ok (.group f false none, rest)
  | ')' :: rest =>
    if dashLast || seen.isEmpty then .error .badFlags else .ok (.setFlags f, rest)
  | '-' :: rest =>
    if negating then .error .badFlags else readFlags f true true seen rest
  | c :: rest =>
    if seen.contains c then .error .badFlags
    else
      match f.set c (!negating) with
      | some f' => readFlags f' negating false (c :: seen) rest
      | none => .error .badFlags

/-- What an opening parenthesis starts, read just after it. -/
def readOpening (f : Flags) (cs : List Char) : Except PatternError (Opening × List Char) :=
  match skipSpace f cs with
  | '?' :: 'P' :: '<' :: rest =>
    (readGroupName rest).map fun (n, r) => (.group f true (some n), r)
  | '?' :: '<' :: rest =>
    (readGroupName rest).map fun (n, r) => (.group f true (some n), r)
  | '?' :: rest => readFlags f false false [] rest
  | rest => .ok (.group f true none, rest)

/-- The leaf an escape gives outside brackets. -/
def Escaped.toSyntax (f : Flags) : Escaped → Syntax
  | .lit l => .lit l f
  | .perl k negated => .perl k negated f
  | .property q negated => .property q negated f
  | .assertion a => .assertion a f

/-- Skip the lazy mark right after a repetition operator; whether it was there. -/
def lazyMark : List Char → Bool × List Char
  | '?' :: rest => (true, rest)
  | cs => (false, cs)

/-- Read a whole pattern. Each step reads at least one character, so `fuel` one
more than the length of the text is enough. `count` is the number of
capturing groups opened so far, `names` their names. -/
def readLoop : Nat → List Char → Flags → Frame → List Outer → Nat → List String →
    Except PatternError Syntax
  | 0, _, _, _, _, _, _ => .error .exhausted
  | fuel + 1, cs, f, fr, stack, count, names =>
    let repeatLast (lo : Nat) (hi : Option Nat) (lazy : Bool) (r : List Char) :=
      match fr.repeatLast lo hi (lazy == f.swapGreed) with
      | .ok fr' => readLoop fuel r f fr' stack count names
      | .error e => .error e
    match skipSpace f cs with
    | [] => if stack.isEmpty then .ok fr.close else .error .unclosedGroup
    | c :: rest =>
      match c with
      | '(' =>
        match readOpening f rest with
        | .error e => .error e
        | .ok (.setFlags f', r) => readLoop fuel r f' (fr.push .flagChange) stack count names
        | .ok (.group f' capturing name, r) =>
          let capture := if capturing then some (count + 1, name) else none
          let count := if capturing then count + 1 else count
          match name with
          | some n =>
            if names.contains n then .error .duplicateName
            else readLoop fuel r f' ⟨[], []⟩ (⟨fr, f, capture⟩ :: stack) count (n :: names)
          | none => readLoop fuel r f' ⟨[], []⟩ (⟨fr, f, capture⟩ :: stack) count names
      | ')' =>
        match stack with
        | [] => .error .unopenedGroup
        | o :: outer =>
          readLoop fuel rest o.flags (o.frame.push (.group o.capture fr.close)) outer count names
      | '|' => readLoop fuel rest f ⟨fr.items :: fr.branches, []⟩ stack count names
      | '*' => let (lazy, r) := lazyMark rest; repeatLast 0 none lazy r
      | '+' => let (lazy, r) := lazyMark rest; repeatLast 1 none lazy r
      | '?' => let (lazy, r) := lazyMark rest; repeatLast 0 (some 1) lazy r
      | '{' =>
        match fr.items with
        | [] | .flagChange :: _ | .empty :: _ => .error .repetitionMissing
        | _ =>
          match readCount f rest with
          | .ok ((lo, hi), r) =>
            let (lazy, r) := lazyMark (skipSpace f r)
            repeatLast lo hi lazy r
          | .error e => .error e
      | '[' =>
        match readBracket f (rest.length + 1) rest with
        | .ok ((negated, body), r) => readLoop fuel r f (fr.push (.bracket negated body f)) stack count names
        | .error e => .error e
      | '\\' =>
        match readEscape f rest with
        | .ok (e, r) => readLoop fuel r f (fr.push (e.toSyntax f)) stack count names
        | .error e => .error e
      | '.' => readLoop fuel rest f (fr.push (.dot f)) stack count names
      | '^' => readLoop fuel rest f (fr.push (.assertion .startLine f)) stack count names
      | '$' => readLoop fuel rest f (fr.push (.assertion .endLine f)) stack count names
      | _ => readLoop fuel rest f (fr.push (.lit ⟨c, false⟩ f)) stack count names

/-- Read a pattern, ignoring case when `caseless` is set, and refuse it when
it nests deeper than `nestLimit`. -/
def Syntax.parse (caseless : Bool) (text : String) : Except PatternError Syntax := do
  let cs := text.toList
  let s ← readLoop (cs.length + 1) cs (Flags.initial caseless) ⟨[], []⟩ [] 0 []
  if s.depth ≤ nestLimit then .ok s else .error .nestTooDeep

end RestDispatch.Regex
