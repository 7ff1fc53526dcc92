import MsgBindings.Files.FileFault
import MsgBindings.Files.PathText

/-!
Trees of files. A tree holds what is at each place, a list of names from the root; the root is a
directory. A path is walked part by part, and every part but the last has to lead to a directory.
-/
namespace MsgBindings

inductive FileNode where
  | directory
  | text (content : String)
  /-- A file whose content is no text. -/
  | binary
  deriving DecidableEq, Repr

structure FileTree where
  nodes : List (List String × FileNode)
  deriving DecidableEq, Repr

namespace FileTree

def empty : FileTree := ⟨[]⟩

def node? (t : FileTree) (place : List String) : Option FileNode :=
  if place.isEmpty then some .directory else t.nodes.lookup place

/-- Puts a node at a place, over the one that is there. -/
def putNode (place : List String) (node : FileNode) :
    List (List String × FileNode) → List (List String × FileNode)
  | [] => [(place, node)]
  | (place', node') :: rest =>
    if place' = place then (place, node) :: rest else (place', node') :: putNode place node rest

def put (t : FileTree) (place : List String) (node : FileNode) : FileTree :=
  ⟨putNode place node t.nodes⟩

/-- The number of bytes that a name may have. -/
def longestName : Nat := 255

/-- The number of bytes that a path may have. -/
def longestPath : Nat := 4095

/-- Checks that a place holds a directory. -/
def requireDirectory (t : FileTree) (place : List String) : Except FileFault Unit :=
  if t.node? place = some .directory then .ok () else .error .notADirectory

/-- The place of a name in the directory at a place. -/
def placeOf (t : FileTree) (place : List String) (name : String) :
    Except FileFault (List String) := do
  t.requireDirectory place
  if longestName < name.utf8ByteSize then throw .nameTooLong
  return place ++ [name]

/-- Walks the parts of a path from a place on. -/
def walk (t : FileTree) (place : List String) : List String → Except FileFault (List String)
  | [] => .ok place
  | "." :: rest => do
    t.requireDirectory place
    t.walk place rest
  | ".." :: rest => do
    t.requireDirectory place
    t.walk place.dropLast rest
  | name :: rest => do
    let next ← t.placeOf place name
    if (t.node? next).isNone then throw .notFound
    t.walk next rest

def checkPath (path : String) : Except FileFault Unit :=
  if path.isEmpty then .error .notFound
  else if path.toList.contains '\x00' then .error .nulInPath
  else if longestPath < path.utf8ByteSize then .error .nameTooLong
  else .ok ()

/-- What a path leads to. A slash at the end asks for a directory. -/
def find (t : FileTree) (path : String) : Except FileFault (List String × FileNode) := do
  checkPath path
  let parts := PathText.parts path ++ if PathText.endsInSlash path then ["."] else []
  let place ← t.walk [] parts
  match t.node? place with
  | some node => return (place, node)
  | none => throw .notFound

def read (t : FileTree) (path : String) : Except FileFault String := do
  match ← t.find path with
  | (_, .text content) => return content
  | (_, .binary) => throw .notText
  | (_, .directory) => throw .isADirectory

/-- The name of a node in the directory at a place, if it is a file in there. -/
def fileIn? (directory : List String) (entry : List String × FileNode) : Option String :=
  match entry.1.getLast? with
  | some name =>
    if entry.1.dropLast = directory ∧ entry.2 ≠ .directory then some name else none
  | none => none

/-- The names of the files in a directory. -/
def fileNames (t : FileTree) (path : String) : Except FileFault (List String) := do
  match ← t.find path with
  | (place, .directory) => return t.nodes.filterMap (fileIn? place)
  | _ => throw .notADirectory

def isDirectory (t : FileTree) (path : List String) : Bool :=
  match t.walk [] path with
  | .ok place => t.node? place == some .directory
  | .error _ => false

/-- Makes the directory that the parts of a path lead to. Its parent has to be there. -/
def makeDirectory (t : FileTree) (parts : List String) : Except FileFault FileTree := do
  match parts.getLast? with
  | none => throw .alreadyExists
  | some name =>
    let parent ← t.walk [] parts.dropLast
    if name = "." || name = ".." then
      t.requireDirectory parent
      throw .alreadyExists
    else
      let place ← t.placeOf parent name
      if (t.node? place).isSome then throw .alreadyExists
      return t.put place .directory

/-- Makes the directory at the first of the given paths, and where its parent is missing the ones
    after it first. An error leaves the tree as far as it has come. -/
def makeFirst (t : FileTree) : List (List String) → FileTree × Except FileFault Unit
  | [] => (t, .ok ())
  | path :: parents =>
    match t.makeDirectory path with
    | .ok t => (t, .ok ())
    | .error .notFound =>
      match t.makeFirst parents with
      | (t, .error e) => (t, .error e)
      | (t, .ok ()) =>
        match t.makeDirectory path with
        | .ok t => (t, .ok ())
        | .error e => (t, if t.isDirectory path then .ok () else .error e)
    | .error e => (t, if t.isDirectory path then .ok () else .error e)

/-- The parts of the parents of a path, the nearest one first. -/
def parents : List String → List (List String)
  | [] => []
  | part :: rest => (parents rest).map (part :: ·) ++ if rest.isEmpty then [] else [[part]]

/-- Makes a directory with all its parents, unless it is there. -/
def makeDirectories (t : FileTree) (path : String) : FileTree × Except FileFault Unit :=
  if path.isEmpty then (t, .ok ())
  else
    match checkPath path with
    | .error e => (t, .error e)
    | .ok () => t.makeFirst (PathText.parts path :: parents (PathText.significant path))

/-- Writes the text of a file, which need not be there. -/
def write (t : FileTree) (path content : String) : FileTree × Except FileFault Unit :=
  let result : Except FileFault FileTree := do
    checkPath path
    let parts := PathText.parts path
    match parts.getLast? with
    | none => throw .isADirectory
    | some name =>
      let parent ← t.walk [] parts.dropLast
      if name = "." || name = ".." || PathText.endsInSlash path then throw .isADirectory
      let place ← t.placeOf parent name
      if t.node? place = some .directory then throw .isADirectory
      return t.put place (.text content)
  match result with
  | .ok t => (t, .ok ())
  | .error e => (t, .error e)

end FileTree

end MsgBindings
