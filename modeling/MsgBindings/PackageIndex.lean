import MsgBindings.Catalog
import MsgBindings.FieldType
import MsgBindings.Target.Identifier

/-!
The index of a package: the modules of its messages and the paths of other packages. A reference
to a message of the package leads to a module beside the one that refers to it, and a reference
into another package to the path that is registered for that package.
-/
namespace MsgBindings

/-- The modules of the messages of a package and the paths of other packages. -/
structure PackageIndex where
  package : String
  modules : Catalog
  externals : Catalog
  deriving DecidableEq, Repr

namespace PackageIndex

def empty (package : String) : PackageIndex := ⟨package, [], []⟩

def module? (index : PackageIndex) (message : String) : Option String := index.modules.find? message

def insert (index : PackageIndex) (message : String) : PackageIndex :=
  { index with modules := index.modules.putNew message (Target.moduleName message) }

/-- Registers the path of another package; the last path of a package counts. -/
def withExternal (index : PackageIndex) (package path : String) : PackageIndex :=
  { index with externals := index.externals.put package path }

def ofMessages (package : String) (messages : List String) : PackageIndex :=
  messages.foldl insert (empty package)

/-- The path of the message that a type refers to, if it is registered. -/
def resolve (index : PackageIndex) : BaseType → Option String
  | .primitive _ _ => none
  | .message package name =>
    let identifier := Target.identifier name
    let sibling := (index.module? name).map fun module => s!"super::{module}::{identifier}"
    match package with
    | none => sibling
    | some package =>
      if package = index.package then sibling
      else (index.externals.find? package).map fun path => s!"{path}::{identifier}"

end PackageIndex

end MsgBindings
