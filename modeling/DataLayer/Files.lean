import DataLayer.Failure
import DataLayer.Path

/-! Access to files, and file trees as values. Everything that reads or writes files does so
through `FileAccess`, so a run can be carried out on a file tree. Paths are taken relative to a
working directory, which is the root of a tree. -/

namespace DataLayer

/-- Why a file cannot be read as text. -/
inductive ReadFault where
  | notFound
  | isDirectory
  | notText
deriving DecidableEq, Repr

/-- The text shown for a fault. -/
def ReadFault.message : ReadFault → String
  | notFound => "No such file or directory (os error 2)"
  | isDirectory => "Is a directory (os error 21)"
  | notText => "stream did not contain valid UTF-8"

/-- Access to files inside a monad. -/
class FileAccess (m : Type → Type) where
  /-- Whether a path leads to a file or a directory. -/
  pathExists : String → m Bool
  /-- Whether a path leads to a directory. -/
  isDirectory : String → m Bool
  /-- Whether a path leads to a file. -/
  isFile : String → m Bool
  readText : String → m (Except ReadFault String)
  /-- Writes a file, and the directories on the way to it. -/
  writeText : (path text : String) → m (Except String Unit)

/-- What a path of a file tree leads to. -/
inductive FileEntry where
  | file (content : ByteArray)
  | directory

/-- Whether an entry is a directory. -/
def FileEntry.isDirectory : FileEntry → Bool
  | file _ => false
  | directory => true

/-- A file tree: the entries under their places. A place is a list of names below the root of the
tree; outside of the tree it begins with steps up or with a slash. The places on the way to an entry
are directories. -/
structure FileTree where
  entries : List (List String × FileEntry) := []
  /-- No place has two entries. -/
  distinct : (entries.map (·.1)).Nodup := by simp

namespace FileTree

/-- The root of all directories. -/
def absoluteRoot : List String := ["/"]

/-- Where a path starts. -/
def startOf (path : WalkedPath) : List String := if path.absolute then absoluteRoot else []

/-- Whether a place is the root of the tree or lies on the way up from it. -/
def isAncestor (place : List String) : Bool :=
  place.all (· == "..") || place == absoluteRoot

/-- The place one step up. -/
def placeAbove (place : List String) : List String :=
  if place = absoluteRoot then place
  else if isAncestor place then place ++ [".."]
  else place.dropLast

/-- The entry at a place. Outside of the tree there is nothing but the directories on the way up
and what was written there. -/
def entry? (tree : FileTree) (place : List String) : Option FileEntry :=
  if isAncestor place then some .directory
  else
    match tree.entries.lookup place with
    | some entry => some entry
    | none =>
      if tree.entries.any fun entry => place.isPrefixOf entry.1 then some .directory else none

/-- Whether there is a directory at the place. -/
def holdsDirectory (tree : FileTree) (place : List String) : Bool :=
  (tree.entry? place).any FileEntry.isDirectory

/-- Follows names from a place; every name but the last must lead to a directory. -/
def follow (tree : FileTree) (place : List String) : List String → Option (List String)
  | [] => some place
  | name :: rest =>
    if !tree.holdsDirectory place then none
    else if name = "." then tree.follow place rest
    else if name = ".." then tree.follow (placeAbove place) rest
    else tree.follow (place ++ [name]) rest

/-- The place that a path means, if the way to it exists. -/
def locate? (tree : FileTree) (path : String) : Option (List String) :=
  if Path.isUsable path then
    let walked := Path.walk path
    (tree.follow (startOf walked) walked.names).filter fun place =>
      !walked.trailing || tree.holdsDirectory place
  else
    none

/-- What a path leads to. -/
def find? (tree : FileTree) (path : String) : Option FileEntry :=
  (tree.locate? path).bind tree.entry?

/-- The tree with those of its entries that satisfy a condition. -/
def filter (tree : FileTree) (kept : List String × FileEntry → Bool) : FileTree where
  entries := tree.entries.filter kept
  distinct := tree.distinct.sublist (List.filter_sublist.map _)

@[simp] theorem entries_filter (tree : FileTree) (kept : List String × FileEntry → Bool) :
    (tree.filter kept).entries = tree.entries.filter kept := rfl

/-- Replaces or adds an entry. -/
def put (tree : FileTree) (place : List String) (entry : FileEntry) : FileTree where
  entries := (place, entry) :: (tree.filter (·.1 != place)).entries
  distinct := List.nodup_cons.mpr ⟨by simp, (tree.filter _).distinct⟩

@[simp] theorem entries_put (tree : FileTree) (place : List String) (entry : FileEntry) :
    (tree.put place entry).entries = (place, entry) :: tree.entries.filter (·.1 != place) := rfl

/-- The text under a path. -/
def readText (tree : FileTree) (path : String) : Except ReadFault String :=
  match tree.find? path with
  | none => .error .notFound
  | some .directory => .error .isDirectory
  | some (.file content) =>
    match String.fromUTF8? content with
    | some text => .ok text
    | none => .error .notText

/-- Adds a directory below another one, whose own entry is no longer needed. -/
def addDirectory (tree : FileTree) (place : List String) (name : String) : FileTree :=
  (tree.filter fun entry => !(entry.2.isDirectory && entry.1 == place)).put (place ++ [name])
    .directory

/-- Goes down a path and makes the directories that are missing. The answer says whether nothing
stood in the way. -/
def makeWay (tree : FileTree) (place : List String) : List String → FileTree × Bool
  | [] => (tree, true)
  | name :: rest =>
    if name = "." then tree.makeWay place rest
    else if name = ".." then tree.makeWay (placeAbove place) rest
    else
      match tree.entry? (place ++ [name]) with
      | some .directory => tree.makeWay (place ++ [name]) rest
      | some (.file _) => (tree, false)
      | none =>
        if Path.canName name then (tree.addDirectory place name).makeWay (place ++ [name]) rest
        else (tree, false)

/-- Makes the directory that a path leads to. An empty path means the root, which is there. -/
def makeDirectory (tree : FileTree) (path : String) : FileTree × Bool :=
  if path = "" then (tree, true)
  else if Path.isUsable path then
    let walked := Path.walk path
    tree.makeWay (startOf walked) walked.names
  else (tree, false)

/-- The place at which a path can be written. -/
def placeForFile? (tree : FileTree) (path : String) : Option (List String) :=
  if (Path.walk path).trailing then none
  else
    (tree.locate? path).filter fun place =>
      !tree.holdsDirectory place && place.getLast?.all Path.canName

/-- Writes a file under a path, with the directories on the way. A path that means a directory
cannot be written. -/
def writeFile (tree : FileTree) (path : String) (content : ByteArray) :
    FileTree × Except String Unit :=
  match tree.makeDirectory (Path.parent path) with
  | (grown, false) => (grown, .error "the directory cannot be made")
  | (grown, true) =>
    match grown.placeForFile? path with
    | some place => (grown.put place (.file content), .ok ())
    | none => (grown, .error "no file can stand there")

/-- Adds an entry under a path, if it can stand there. -/
def add (tree : FileTree) (path : String) : FileEntry → FileTree
  | .file content => (tree.writeFile path content).1
  | .directory => (tree.makeDirectory path).1

/-- A file tree with the given entries under their paths. -/
def ofEntries (entries : List (String × FileEntry)) : FileTree :=
  entries.foldl (fun tree entry => tree.add entry.1 entry.2) {}

/-- File access on a tree. -/
instance : FileAccess (StateM FileTree) where
  pathExists path := do return ((← get).find? path).isSome
  isDirectory path := do
    match (← get).find? path with
    | some .directory => return true
    | _ => return false
  isFile path := do
    match (← get).find? path with
    | some (.file _) => return true
    | _ => return false
  readText path := do return (← get).readText path
  writeText path text := do
    let written := (← get).writeFile path text.toUTF8
    set written.1
    return written.2

end FileTree

end DataLayer
