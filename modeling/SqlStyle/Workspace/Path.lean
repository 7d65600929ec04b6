import SqlStyle.Text.Case
import SqlStyle.Text.Class

/-! # Paths

A path is a list of names, from a root or from the working directory. Repeated slashes and single
dots in its spelling say nothing and are dropped; a pair of dots goes up and is kept, since what it
means depends on the directories. Paths are ordered name by name. -/

namespace SqlStyle

structure Path where
  /-- The leading slashes; empty for a path from the working directory. -/
  root : String := ""
  parts : List String := []
deriving Repr, DecidableEq

namespace Path

/-- The root a spelling starts with. Two slashes are a root of their own, more count as one. -/
def rootOf (cs : List Char) : String :=
  match (cs.takeWhile (· == '/')).length with
  | 0 => ""
  | 2 => "//"
  | _ => "/"

def ofString (s : String) : Path where
  root := rootOf s.toList
  parts := ((Text.words (· == '/') s.toList).map String.ofList).filter (· != ".")

protected def toString (p : Path) : String :=
  if p.root.isEmpty && p.parts.isEmpty then "." else p.root ++ "/".intercalate p.parts

instance : ToString Path := ⟨Path.toString⟩

/-- The path of something below this one. -/
def below (p : Path) (names : List String) : Path := { p with parts := p.parts ++ names }

/-- The last dot of a name and what follows it. A dot at either end of the name begins no suffix. -/
def suffixOf (name : List Char) : List Char :=
  let extension := (name.reverse.takeWhile (· != '.')).reverse
  if extension.isEmpty || name.length ≤ extension.length + 1 then [] else '.' :: extension

/-- The suffix of the last name. -/
def suffix (p : Path) : String := String.ofList (suffixOf (p.parts.getLast?.getD "").toList)

/-- The suffixes of SQL files. -/
def sqlSuffixes : List String := [".sql", ".sqlm", ".sqlp", ".sqlt", ".gsql"]

/-- The path names an SQL file; capitals in its suffix do not matter. -/
def isSql (p : Path) : Bool := sqlSuffixes.contains (Text.lowerAscii p.suffix)

end Path

end SqlStyle
