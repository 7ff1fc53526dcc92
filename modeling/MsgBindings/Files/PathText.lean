import MsgBindings.Text.Cut

/-!
Paths as texts. The parts of a path stand between slashes; empty parts do not count, and a part
`.` counts only at the start. Two texts with the same parts are the same path.
-/
namespace MsgBindings.PathText

def isAbsolute (path : String) : Bool := path.toList.head? == some '/'

/-- The parts of a path that are not empty. -/
def parts (path : String) : List String :=
  ((Text.cutBy (· == '/') path.toList).filter (!·.isEmpty)).map String.ofList

/-- Whether a path ends in a slash after its last part. -/
def endsInSlash (path : String) : Bool := path.toList.getLast? == some '/'

/-- The parts of a path that tell it from other paths. -/
def significant (path : String) : List String :=
  match parts path with
  | [] => []
  | first :: rest =>
    let rest := rest.filter (· != ".")
    if first = "." && isAbsolute path then rest else first :: rest

/-- What two texts of the same path have in common. -/
def key (path : String) : Bool × List String := (isAbsolute path, significant path)

/-- The name of the file that a path leads to, if its last part is a name. -/
def fileName? (path : String) : Option String :=
  (significant path).getLast?.filter fun name => name != "." && name != ".."

/-- The path of a file in a directory. -/
def join (directory name : String) : String :=
  if directory.isEmpty || endsInSlash directory then directory ++ name else directory ++ "/" ++ name

/-- The text before the mark of a message file, if a name ends in one. -/
def stem? (name : String) : Option String :=
  match name.toList.reverse with
  | 'g' :: 's' :: 'm' :: '.' :: rest => some (.ofList rest.reverse)
  | _ => none

/-- Whether a file in a directory is taken for a message file. -/
def isMessageFile (name : String) : Bool := (stem? name).any (!·.isEmpty)

end MsgBindings.PathText
