import RestDispatch.Toml.Read

/-!
# TOML documents

A document is built statement by statement. Keys and values go into the table
of the last header, the root before any header. Each table is defined once:

* a header may name a table that exists only as the parent of an earlier header,
  and then takes it over; any other existing key refuses the header;
* a dotted key creates the tables on its path as dotted ones, and may only
  extend dotted tables, never one declared by a header or an inline table;
* an array-of-tables header appends a new table to its array, and a path that
  passes an array of tables goes into its last table;
* no path passes a value, and no key is given twice in one table.

A header's table is filled on its own and put in place when the next header
starts, so a table that a header takes over moves behind the keys written
since it was implied.
-/

namespace RestDispatch.Toml

set_option autoImplicit false

/-- Replace the node of a key. -/
def replaceNode (k : String) (n : Node) (entries : List (String × Node)) : List (String × Node) :=
  entries.map fun e => if e.1 == k then (k, n) else e

/-- The node of a key. -/
def nodeOf? (k : String) (entries : List (String × Node)) : Option Node :=
  (entries.find? (·.1 == k)).map Prod.snd

/-- Apply `f` to the table at `path`, creating missing tables with origin
`created`; a path through an array of tables goes into its last table, and a
path through a value fails. `f` sees the table's origin and entries and gives
them back changed, with a result. -/
def modifyAt {α : Type} (created : Origin)
    (f : Origin → List (String × Node) → Option (Origin × List (String × Node) × α)) :
    List String → Origin → List (String × Node) → Option (Origin × List (String × Node) × α)
  | [], o, entries => f o entries
  | k :: ks, o, entries =>
    match nodeOf? k entries with
    | none => do
      let (o', sub, a) ← modifyAt created f ks created []
      pure (o, entries ++ [(k, .table o' sub)], a)
    | some (.table o₁ sub) => do
      let (o', sub', a) ← modifyAt created f ks o₁ sub
      pure (o, replaceNode k (.table o' sub') entries, a)
    | some (.tables els) =>
      match els.getLast? with
      | some last => do
        let (_, last', a) ← modifyAt created f ks .header last
        pure (o, replaceNode k (.tables (els.dropLast ++ [last'])) entries, a)
      | none => none
    | some (.value _) => none

/-- A document being built: the root, the table of the last header apart from
it, that header's path, and whether it heads an array of tables. -/
structure Assembly where
  root : List (String × Node)
  current : List (String × Node)
  path : List String
  isArray : Bool

namespace Assembly

/-- The start of a document: the root section is open. -/
def start : Assembly := ⟨[], [], [], false⟩

/-- Add a key and value to the open table. -/
def addEntry (a : Assembly) (path : List String) (key : String) (v : Value) : Option Assembly :=
  let place (o : Origin) (es : List (String × Node)) : Option (Origin × List (String × Node) × Unit) :=
    if (o == .dotted) != !path.isEmpty then none
    else if es.any (·.1 == key) then none
    else some (o, es ++ [(key, .value v)], ())
  (modifyAt .dotted place path .header a.current).map fun (_, current, _) => { a with current }

/-- Put the open table in place in the root. -/
def close (a : Assembly) : Option (List (String × Node)) :=
  match a.path.getLast? with
  | none => some a.current
  | some key =>
    let place (o : Origin) (es : List (String × Node)) : Option (Origin × List (String × Node) × Unit) :=
      if a.isArray then
        match nodeOf? key es with
        | none => some (o, es ++ [(key, .tables [a.current])], ())
        | some (.tables els) => some (o, replaceNode key (.tables (els ++ [a.current])) es, ())
        | some _ => none
      else
        match nodeOf? key es with
        | none => some (o, es ++ [(key, .table .header a.current)], ())
        | some (.table o' _) =>
          if o' == .header then none else some (o, replaceNode key (.table .header a.current) es, ())
        | some _ => none
    (modifyAt .parent place a.path.dropLast .header a.root).map fun (_, root, _) => root

/-- Open the table of a header, closing the one before. -/
def openTable (a : Assembly) (path : List String) : Option Assembly := do
  let root ← a.close
  let key ← path.getLast?
  let take (o : Origin) (es : List (String × Node)) :
      Option (Origin × List (String × Node) × List (String × Node)) :=
    match nodeOf? key es with
    | none => some (o, es, [])
    | some (.table .parent sub) => some (o, es.filter (·.1 != key), sub)
    | some _ => none
  let (_, root, current) ← modifyAt .parent take path.dropLast .header root
  pure ⟨root, current, path, false⟩

/-- Open a new table of an array of tables, closing the one before. -/
def openArrayTable (a : Assembly) (path : List String) : Option Assembly := do
  let root ← a.close
  let key ← path.getLast?
  let mark (o : Origin) (es : List (String × Node)) : Option (Origin × List (String × Node) × Unit) :=
    match nodeOf? key es with
    | none => some (o, es ++ [(key, .tables [])], ())
    | some (.tables _) => some (o, es, ())
    | some _ => none
  let (_, root, _) ← modifyAt .parent mark path.dropLast .header root
  pure ⟨root, [], path, true⟩

/-- Apply one statement. -/
def apply (a : Assembly) : Statement → Option Assembly
  | .table path => a.openTable path
  | .tableArray path => a.openArrayTable path
  | .entry path key v => a.addEntry path key v

end Assembly

/-- The root table of a TOML document, or none when the text is not a valid document. -/
def parseDocument? (text : String) : Option (List (String × Node)) := do
  let statements ← statementsOf? text
  let a ← statements.foldlM Assembly.apply Assembly.start
  a.close

end RestDispatch.Toml
