import MsgBindings.Configuration
import MsgBindings.Files.FileAccess
import MsgBindings.Generation
import MsgBindings.Grouping

/-!
Generating the code of a package. All files are read first, then the code of all messages is
generated, and only then is anything written: a file for each message, and one that declares the
modules. The first file that is wrong ends the run, and so does the first message without code.
-/
namespace MsgBindings

/-- Why a file holds no message. -/
inductive InputFault where
  | definition (e : DefinitionError)
  | file (fault : FileFault)
  deriving DecidableEq, Repr

/-- Why a run fails. -/
inductive BatchError where
  | configuration (fault : ConfigurationFault)
  | parse (path : String) (fault : InputFault)
  | generate (path : String) (fault : GenerationFault)
  | file (path : String) (fault : FileFault)
  deriving DecidableEq, Repr

def InputFault.message : InputFault → String
  | definition e => e.message
  | file fault => s!"IO error: {fault.message}"

def BatchError.message : BatchError → String
  | configuration fault => fault.message
  | parse path fault => s!"Failed to parse {path}: {fault.message}"
  | generate path fault => s!"Failed to generate {path}: {fault.message}"
  | file path fault => s!"I/O error on {path}: {fault.message}"

/-- Reads the message in a file, given the outcome of reading its text. The file is named after
    the message. -/
def Message.ofFile (package path : String) (content : Except FileFault String) :
    Except InputFault Message :=
  match (PathText.fileName? path).bind PathText.stem? with
  | none => .error (.definition (.name path .notMessageFile))
  | some name =>
    match content with
    | .error fault => .error (.file fault)
    | .ok source => (Message.read package name source).mapError .definition

structure SourceMessage where
  path : String
  message : Message
  deriving DecidableEq, Repr

namespace Batch

/-- The paths without those that came before. -/
def withoutRepeats (seen : List (Bool × List String)) : List String → List String
  | [] => []
  | path :: rest =>
    if seen.contains (PathText.key path) then withoutRepeats seen rest
    else path :: withoutRepeats (PathText.key path :: seen) rest

/-- The message files of a directory, given the names of its files. -/
def discovered (directory : String) (names : List String) : List String :=
  ((names.filter PathText.isMessageFile).mergeSort fun a b => decide (a ≤ b)).map
    (PathText.join directory)

/-- The first fault of a message beside those of the package before it: its name or its module is
    taken. -/
def nameFault? (package : String) (before : List Message) (m : Message) : Option NameFault :=
  if before.any (·.name == m.name) then some (.duplicate package)
  else
    let module := Target.moduleName m.name
    (before.find? fun other => Target.moduleName other.name == module).map fun other =>
      .moduleTaken module other.name

/-- Reads the message of a file beside those before it. -/
def readInput (package : String) (before : List Message) (path : String)
    (content : Except FileFault String) : Except InputFault Message := do
  let m ← Message.ofFile package path content
  match nameFault? package before m with
  | some fault => throw (.definition (.name m.name fault))
  | none => return m

/-- Reads the messages of files, given the outcomes of reading their texts. The first component
    lists the files up to the one that ends the reading. -/
def readInputs (package : String) (before : List Message) :
    List (String × Except FileFault String) → List String × Except BatchError (List SourceMessage)
  | [] => ([], .ok [])
  | (path, content) :: rest =>
    match readInput package before path content with
    | .error fault => ([path], .error (.parse path fault))
    | .ok m =>
      let (paths, result) := readInputs package (before ++ [m]) rest
      (path :: paths, result.map (⟨path, m⟩ :: ·))

/-- The index of the messages with the paths of other packages. -/
def indexOf (package : String) (externals : Catalog) (messages : List Message) : PackageIndex :=
  externals.foldl (fun index (package, path) => index.withExternal package path)
    (PackageIndex.ofMessages package (messages.map (·.name)))

def generateAll (style : Style) (index : PackageIndex) (sources : List SourceMessage) :
    Except BatchError (List GeneratedModule) :=
  sources.mapM fun source =>
    (source.message.generate style index).mapError (BatchError.generate source.path)

/-- The text of the file that declares the modules, in the order of their names. -/
def declarationsText (style : Style) (modules : List GeneratedModule) : String :=
  let sorted := modules.mergeSort fun a b => decide (a.moduleName ≤ b.moduleName)
  style.headerText ++ String.join (sorted.map fun m => s!"pub mod {m.moduleName};\n") ++ "\n" ++
    String.join (sorted.map fun m => s!"pub use {m.moduleName}::{m.recordName};\n")

def declarationsFile : String := "mod.rs"

/-- The files to write, each with its text. -/
def outputs (style : Style) (directory : String) (modules : List GeneratedModule) :
    List (String × String) :=
  modules.map (fun m => (PathText.join directory m.fileName, m.code)) ++
    [(PathText.join directory declarationsFile, declarationsText style modules)]

/-- Everything between reading and writing: the files up to the one that ends the reading, and the
    files to write. -/
def compile (c : Configuration) (destination : Destination)
    (inputs : List (String × Except FileFault String)) :
    List String × Except BatchError (List (String × String)) :=
  let (paths, sources) := readInputs destination.package [] inputs
  (paths, do
    let sources ← sources
    let index := indexOf destination.package c.externals (sources.map (·.message))
    let modules ← generateAll c.style index sources
    return outputs c.style destination.outputDirectory modules)

structure Report where
  announced : List String
  result : Except BatchError Unit

section

variable {m : Type → Type} [Monad m] (files : FileAccess m)

/-- The message files of a run: those of the directory, then the others, none of them twice. -/
def inputPaths (c : Configuration) : m (Except BatchError (List String)) := do
  match c.inputDirectory with
  | none => return .ok (withoutRepeats [] c.inputFiles)
  | some directory =>
    match ← files.fileNames directory with
    | .error fault => return .error (.file directory fault)
    | .ok names => return .ok (withoutRepeats [] (discovered directory names ++ c.inputFiles))

/-- Writes files one after the other, up to the first that cannot be written. -/
def writeAll : List (String × String) → m (Except BatchError Unit)
  | [] => return .ok ()
  | (path, content) :: rest => do
    match ← files.write path content with
    | .error fault => return .error (.file path fault)
    | .ok () => writeAll rest

/-- Makes a directory and writes files. -/
def store (directory : String) (contents : List (String × String)) :
    m (Except BatchError Unit) := do
  match ← files.makeDirectories directory with
  | .error fault => return .error (.file directory fault)
  | .ok () => writeAll files contents

def runChecked (c : Configuration) (destination : Destination) : m Report := do
  match ← inputPaths files c with
  | .error e => return ⟨[], .error e⟩
  | .ok [] => return ⟨[], .error (.configuration .inputMissing)⟩
  | .ok paths =>
    let inputs ← paths.mapM fun path => return (path, ← files.read path)
    let (announced, contents) := compile c destination inputs
    let announced := if c.announcesInputs then announced else []
    match contents with
    | .error e => return ⟨announced, .error e⟩
    | .ok contents => return ⟨announced, ← store files destination.outputDirectory contents⟩

def run (c : Configuration) : m Report :=
  match c.check with
  | .error fault => return ⟨[], .error (.configuration fault)⟩
  | .ok destination => runChecked files c destination

end

def announcement (path : String) : String := s!"cargo:rerun-if-changed={path}\n"

def Report.printed (report : Report) : String := String.join (report.announced.map announcement)

end Batch

end MsgBindings
