import RestDispatch.Text.Case

/-!
# Files for configuration

The files a loader can read: a tree of files and directories below one
directory. A path is written relative to that directory with `/` between its
parts; empty parts and `.` are skipped, `..` steps up, and a path that steps
above the directory or starts with `/` names nothing in the tree. A path
written with a trailing `/` names only a directory. Every directory above a
file exists.

The extension of a path is the text after the last dot of its last part,
lower-cased; a part with no dot, or whose only dot leads it, has none.
-/

namespace RestDispatch

open RestDispatch.Text

set_option autoImplicit false

/-- What a path of a file tree holds. -/
inductive FileEntry where
  | file (bytes : List UInt8)
  | directory
  deriving Repr, DecidableEq, Inhabited

/-- Files and directories by their path parts; a later entry for a path wins. -/
structure FileTree where
  entries : List (List String × FileEntry)
  deriving Repr, Inhabited

namespace FileTree

/-- No files. -/
def empty : FileTree := ⟨[]⟩

/-- Write an entry at a path. -/
def write (t : FileTree) (path : List String) (e : FileEntry) : FileTree :=
  ⟨t.entries ++ [(path, e)]⟩

/-- What a path holds: the last entry written there, else a directory when it
is the root or lies above an entry. -/
def lookup (t : FileTree) (path : List String) : Option FileEntry :=
  match (t.entries.reverse.find? (·.1 == path)) with
  | some (_, e) => some e
  | none =>
    if path.isEmpty || t.entries.any (fun (p, _) => path.isPrefixOf p && p.length > path.length)
    then some .directory else none

end FileTree

/-- The parts of a path text, as written. -/
def pathParts (text : String) : List String :=
  text.splitOn "/"

/-- Resolve a relative path to its parts below the root, with whether it must
be a directory; none when it leaves the root. -/
def resolvePath (text : String) : Option (List String × Bool) :=
  if text.startsWith "/" then none
  else
    let parts := pathParts text
    let mustBeDirectory := match parts.getLast? with
      | some "" => parts.length > 1
      | some "." => true
      | _ => false
    let step (acc : Option (List String)) (p : String) : Option (List String) :=
      acc.bind fun stack =>
        if p == "" || p == "." then some stack
        else if p == ".." then (if stack.isEmpty then none else some stack.dropLast)
        else some (stack ++ [p])
    (parts.foldl step (some [])).map fun ps => (ps, mustBeDirectory)

/-- The extension of a path's last part, lower-cased, or the empty text. -/
def extensionOf (text : String) : String :=
  let parts := (pathParts text).filter fun p => p != "" && p != "."
  match parts.getLast? with
  | none => ""
  | some ".." => ""
  | some name =>
    let cs := name.toList
    let after := (cs.reverse.takeWhile (· != '.')).reverse
    if after.length == cs.length then ""
    else
      let before := cs.take (cs.length - after.length - 1)
      if before.isEmpty then "" else lowerText (String.ofList after)

/-- Text from UTF-8 bytes, none when they are not valid UTF-8. -/
def decodeUtf8? (bytes : List UInt8) : Option String :=
  String.fromUTF8? (ByteArray.mk bytes.toArray)

end RestDispatch
