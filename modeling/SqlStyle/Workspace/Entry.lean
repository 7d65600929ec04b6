import SqlStyle.Text.Basic
import SqlStyle.Workspace.Path

/-! # Files and directories

A directory tree as data. `find?` follows a path through it, and `filesBelow` lists the files of a
tree with the names that lead to them. -/

namespace SqlStyle

inductive Entry where
  /-- A file with its bytes, if they can be read. -/
  | file (contents : Option ByteArray)
  | directory (entries : List (String × Entry))

namespace Entry

/-- Follows names from an entry; `above` holds the directories over it, the nearest first. -/
def follow (above : List Entry) (e : Entry) : List String → Option Entry
  | [] => some e
  | name :: names =>
    match e with
    | file _ => none
    | directory entries =>
      if name == ".." then
        match above with
        | [] => none
        | up :: above => follow above up names
      else
        match entries.lookup name with
        | none => none
        | some child => follow (e :: above) child names

/-- The entry at a path from the working directory. What lies outside of it is not there. -/
def find? (e : Entry) (p : Path) : Option Entry :=
  if p.root.isEmpty then e.follow [] p.parts else none

mutual

/-- The files of a tree, each with the names that lead to it. -/
def filesBelow : Entry → List (List String × Option ByteArray)
  | file contents => [([], contents)]
  | directory entries => filesOf entries

/-- The files in entries of a directory. -/
def filesOf : List (String × Entry) → List (List String × Option ByteArray)
  | [] => []
  | (name, e) :: rest =>
    (filesBelow e).map (fun f => (name :: f.1, f.2)) ++ filesOf rest

end

mutual

/-- The tree with a file or directory put at the end of a chain of names. Directories on the way are
made. -/
def insertAt (leaf : Entry) : List String → List (String × Entry) → List (String × Entry)
  | [], entries => entries
  | [name], entries => if (entries.lookup name).isSome then entries else entries ++ [(name, leaf)]
  | name :: names, entries => insertInto leaf name names entries

/-- The entries of a directory with a leaf put below one of them. -/
def insertInto (leaf : Entry) (name : String) (names : List String) :
    List (String × Entry) → List (String × Entry)
  | [] => [(name, directory (insertAt leaf names []))]
  | (other, e) :: rest =>
    if other == name then
      match e with
      | directory inner => (other, directory (insertAt leaf names inner)) :: rest
      | file contents => (other, file contents) :: rest
    else (other, e) :: insertInto leaf name names rest

end

/-- A directory with an entry put at a path. -/
def insert (e : Entry) (p : Path) (leaf : Entry) : Entry :=
  match e with
  | directory entries => directory (insertAt leaf p.parts entries)
  | file contents => file contents

end Entry

/-- The text of a file: its bytes read as UTF-8, with line feeds for line ends. -/
def textOf? (contents : Option ByteArray) : Option Text :=
  (contents.bind String.fromUTF8?).map fun s => (Text.unifyNewlines s.toList).toArray

end SqlStyle
