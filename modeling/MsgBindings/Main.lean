import MsgBindings.CommandLine

/-!
The program: the command line run on the files of the system.
-/
namespace MsgBindings

/-- The fault that an error of the system stands for. -/
def faultOf : IO.Error → FileFault
  | .noFileOrDirectory _ _ _ => .notFound
  | .alreadyExists _ _ _ => .alreadyExists
  | .inappropriateType _ code _ => if code = 20 then .notADirectory else .isADirectory
  | e => .other (toString e)

/-- Runs an operation on a path, and gives the fault of the system if it fails. -/
def attempt {α : Type} (path : String) (operation : IO α) : IO (Except FileFault α) := do
  match FileTree.checkPath path with
  | .error fault => return .error fault
  | .ok () =>
    try return .ok (← operation)
    catch e => return .error (faultOf e)

def systemFileNames (path : String) : IO (List String) := do
  let entries ← ((← IO.currentDir) / path).readDir
  let files ← entries.toList.filterM fun entry => return !(← entry.path.isDir)
  return files.map (·.fileName)

def systemRead (path : String) : IO (Except FileFault String) := do
  match ← attempt path (IO.FS.readBinFile path) with
  | .error fault => return .error fault
  | .ok bytes => return (String.fromUTF8? bytes).elim (.error .notText) .ok

/-- The operations on the files of the system. -/
def systemFiles : FileAccess IO where
  fileNames path := attempt path (systemFileNames path)
  read := systemRead
  makeDirectories path :=
    if path.isEmpty then return .ok () else attempt path (IO.FS.createDirAll path)
  write path content := attempt path (IO.FS.writeFile path content)

end MsgBindings

/-- Runs the command line and ends with its exit code. -/
def main (arguments : List String) : IO UInt32 := do
  let header ← IO.getEnv MsgBindings.CommandLine.headerVariable
  let outcome ← MsgBindings.CommandLine.run MsgBindings.systemFiles arguments header
  IO.print outcome.output
  IO.eprint outcome.errors
  return outcome.exitCode.toUInt32
