import DataLayer.Text.Edit

/-! Paths of files. A path is a text that slashes cut into pieces; a piece is a name, or a dot for
staying, two dots for going up, or empty, which leads nowhere. -/

namespace DataLayer

/-- A path as it is walked. -/
structure WalkedPath where
  /-- Whether the path starts at the root of all directories. -/
  absolute : Bool
  /-- The names on the path, without empty ones. -/
  names : List String
  /-- Whether the path can only mean a directory. -/
  trailing : Bool
deriving DecidableEq, Repr

namespace Path

/-- The largest number of bytes in a path. -/
def largestSize : Nat := 4095

/-- The largest number of bytes in a name on a path. -/
def largestNameSize : Nat := 255

/-- Whether a path can lead anywhere at all. -/
def isUsable (path : String) : Bool :=
  path != "" && path.utf8ByteSize ≤ largestSize && !path.toList.contains '\x00'

/-- Whether a file or directory can have the name. -/
def canName (name : String) : Bool := name.utf8ByteSize ≤ largestNameSize

/-- The pieces of a path between its slashes. -/
def pieces (path : String) : List String := Text.pieces (· == '/') path

/-- Drops the pieces at the end that lead nowhere. -/
def dropIdle (pieces : List String) : List String :=
  (pieces.reverse.dropWhile fun piece => piece == "" || piece == ".").reverse

/-- The path without its last name; it is empty if nothing but that name is there. -/
def parent (path : String) : String :=
  Text.joinWith "/" (dropIdle (dropIdle (pieces path)).dropLast)

/-- Takes a path apart. -/
def walk (path : String) : WalkedPath :=
  let pieces := pieces path
  let last := pieces.getLast?
  { absolute := Text.startsWith "/" path
    names := pieces.filter (· != "")
    trailing := path != "" && (last == some "" || last == some "." || last == some "..") }

end Path

end DataLayer
