import RestDispatch.Regex.Automaton.Machine

/-!
# Alternations of literals as a trie

An alternation whose branches are all literal texts becomes a trie of their
bytes (read backwards for a backward automaton), so that branches with a
common start share states. A node of the trie keeps its transitions in
*chunks*: a branch that ends at a node closes its current chunk, and later
branches only add transitions to the newest chunk, so that an earlier branch
keeps its preference over a later one.

Each chunk of a node becomes one state (a single byte range, or a list of
them), children first; a leaf is the end state itself. A node of several
chunks, or with a branch ending at it, becomes a union of its chunk states,
with the end state standing between chunks where a branch ends.
-/

namespace RestDispatch.Regex

set_option autoImplicit false

/-- A node of a trie: its transitions (byte and child) and the ends of its
closed chunks. -/
structure TrieNode where
  trans : List (Nat × Nat)
  chunks : Array (Nat × Nat)
  deriving Inhabited

/-- The start of the newest chunk of a node. -/
def TrieNode.activeStart (n : TrieNode) : Nat := (n.chunks.back?.map Prod.snd).getD 0

/-- The transitions of each chunk of a node, the newest last. -/
def TrieNode.chunkList (n : TrieNode) : List (List (Nat × Nat)) :=
  n.chunks.toList.map (fun (a, b) => (n.trans.drop a).take (b - a)) ++ [n.trans.drop n.activeStart]

/-- Follow a byte from a node in its newest chunk, adding a child when there
is none: the trie and the child. -/
def trieStep (nodes : Array TrieNode) (src b : Nat) : Array TrieNode × Nat :=
  let node := nodes.getD src default
  let start := node.activeStart
  let active := node.trans.drop start
  let before := active.takeWhile fun t => t.1 < b
  match active.drop before.length with
  | (c, child) :: _ => if c = b then (nodes, child) else
      let next := nodes.size
      let pos := start + before.length
      let node := { node with trans := node.trans.take pos ++ (b, next) :: node.trans.drop pos }
      ((nodes.setIfInBounds src node).push default, next)
  | [] =>
    let next := nodes.size
    let node := { node with trans := node.trans ++ [(b, next)] }
    ((nodes.setIfInBounds src node).push default, next)

/-- Mark that a branch ends at a node: close its newest chunk, unless the node
has no transitions and a branch ends there already. -/
def trieEnd (nodes : Array TrieNode) (id : Nat) : Array TrieNode :=
  nodes.modify id fun n =>
    if n.trans.isEmpty && !n.chunks.isEmpty then n
    else { n with chunks := n.chunks.push (n.activeStart, n.trans.length) }

/-- Add the bytes of a branch to a trie. -/
def trieAdd (nodes : Array TrieNode) (bytes : List Nat) : Array TrieNode :=
  let (nodes, last) := bytes.foldl (fun (nodes, here) b => trieStep nodes here b) (nodes, 0)
  trieEnd nodes last

/-- The state a node of the trie becomes; `fuel` bounds the depth. -/
def trieState (nodes : Array TrieNode) (final : Nat) : Nat → Nat → Build Nat
  | 0, _ => pure final
  | fuel + 1, id => do
    let node := nodes.getD id default
    let mut alts : Array Nat := #[]
    let mut first := true
    for chunk in node.chunkList do
      if !first then alts := alts.push final
      first := false
      let mut width := 0
      for (_, child) in chunk do
        if !(nodes.getD child default).trans.isEmpty then
          let _ ← trieState nodes final fuel child
        width := width + 1
      if width = 1 then alts := alts.push (← addState false 0)
      else if width > 1 then alts := alts.push (← addState false (8 * width))
    if alts.size = 1 then pure (alts.getD 0 final) else addState true (4 * alts.size)

/-- An alternation of literal texts, given by their bytes. -/
def trieRef (backward : Bool) (texts : List (List Nat)) : Build Ref := do
  let nodes := texts.foldl (fun ns bytes => trieAdd ns (if backward then bytes.reverse else bytes))
    #[default]
  let final ← addState false 0
  let start ← trieState nodes final (nodes.size + 1) 0
  pure ⟨start, final⟩

end RestDispatch.Regex
