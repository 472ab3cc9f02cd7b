import GridRobot.FileSystem

/-! # File trees

A file system kept in memory: files and directories below one working directory. Paths are followed
one name at a time, as the operating system follows them. What lies above the working directory is
taken to be directories that hold nothing else. -/

namespace GridRobot

inductive FileNode where
  | file (bytes : ByteArray)
  | directory

/-- Files and directories by the names on the way to them, the latest made first. -/
structure FileTree where
  entries : List (List String × FileNode) := []

inductive Place where
  | inside (names : List String)
  /-- At or above the parent of the working directory. -/
  | above

namespace FileTree

/-! ## Errors -/

def noSuchFile : IoError := .system 2

def notADirectory : IoError := .system 20

def isADirectory : IoError := .system 21

def nameTooLong : IoError := .system 36

def greatestNameSize : Nat := 255

def greatestPathSize : Nat := 4095

/-! ## Following paths -/

/-- The pieces of a text between its slashes. -/
def cutAtSlashes : List Char → List (List Char)
  | [] => [[]]
  | c :: cs =>
    match cutAtSlashes cs with
    | [] => [[c]]
    | name :: names => if c = '/' then [] :: name :: names else (c :: name) :: names

/-- The names of a path. Two slashes in a row, and one at an end, have an empty name beside them. -/
def names (path : String) : List String :=
  (cutAtSlashes path.toList).map String.ofList

/-- What is at a place. The directories on the way to an entry exist. -/
def at? (tree : FileTree) : Place → Option FileNode
  | .above => some .directory
  | .inside [] => some .directory
  | .inside path =>
    match tree.entries.find? fun entry => entry.1 == path with
    | some entry => some entry.2
    | none =>
      if tree.entries.any fun entry => path.isPrefixOf entry.1 then some .directory else none

def makeDirectory (tree : FileTree) (way : List String) : FileTree :=
  if (tree.at? (.inside way)).isSome then tree else ⟨(way, .directory) :: tree.entries⟩

/-- Takes one name further on a path that is being made. A directory must exist to be left again. -/
def makeWay : FileTree × List String → String → FileTree × List String
  | (tree, way), name =>
    if name = "" ∨ name = "." then (tree, way)
    else if name = ".." then (tree.makeDirectory way, way.dropLast)
    else (tree, way ++ [name])

/-- Adds a file or a directory, in place of what its path led to before. Directories that the path
goes through are made where they are missing. -/
def insert (tree : FileTree) (path : String) (node : FileNode) : FileTree :=
  let (tree, way) := (names path).foldl makeWay (tree, [])
  ⟨(way, node) :: tree.entries⟩

def enter (tree : FileTree) (place : Place) (name : String) : Except IoError Place :=
  match tree.at? place with
  | none => .error noSuchFile
  | some (.file _) => .error notADirectory
  | some .directory =>
    if name = "" ∨ name = "." then .ok place
    else if name = ".." then
      match place with
      | .inside (first :: rest) => .ok (.inside (first :: rest).dropLast)
      | _ => .ok .above
    else if greatestNameSize < name.utf8ByteSize then .error nameTooLong
    else
      match place with
      | .above => .error noSuchFile
      | .inside path =>
        let next := Place.inside (path ++ [name])
        if (tree.at? next).isSome then .ok next else .error noSuchFile

def find (tree : FileTree) (path : String) : Except IoError Place :=
  match names path with
  | "" :: rest => rest.foldlM tree.enter (if rest = [] then .inside [] else .above)
  | path => path.foldlM tree.enter (.inside [])

def read (tree : FileTree) : FileSystem := fun path => do
  if path.contains '\x00' then throw .zeroInPath
  if path = "" then throw noSuchFile
  if greatestPathSize < path.utf8ByteSize then throw nameTooLong
  match tree.at? (← tree.find path) with
  | none => throw noSuchFile
  | some .directory => throw isADirectory
  | some (.file bytes) =>
    match String.fromUTF8? bytes with
    | some text => return text
    | none => throw .notText

end FileTree
end GridRobot
