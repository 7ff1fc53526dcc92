import MsgBindings.Files.FileTree

/-!
What a run asks of the files around it. The same run works on a tree of files and on the files of
a system.
-/
namespace MsgBindings

/-- The operations on files that a run uses. -/
structure FileAccess (m : Type → Type) where
  fileNames : String → m (Except FileFault (List String))
  read : String → m (Except FileFault String)
  makeDirectories : String → m (Except FileFault Unit)
  write : String → String → m (Except FileFault Unit)

namespace FileTree

/-- An operation that leaves the tree as it is. -/
def look {α : Type} (operation : FileTree → α) : StateM FileTree α := fun t => (operation t, t)

/-- An operation that changes the tree. -/
def act (operation : FileTree → FileTree × Except FileFault Unit) :
    StateM FileTree (Except FileFault Unit) := fun t => let (t, result) := operation t; (result, t)

def access : FileAccess (StateM FileTree) where
  fileNames path := look (·.fileNames path)
  read path := look (·.read path)
  makeDirectories path := act (·.makeDirectories path)
  write path content := act (·.write path content)

end FileTree

end MsgBindings
