import MsgBindings.Batch

/-!
The command line: a package, a directory with its messages and a directory for their code, with
options for the header, the derives and the paths of other packages. Arguments are taken from the
left. What an option or a place was given is looked at when the next argument needs it, so that an
argument that is unknown is refused before a value in front of it that is wrong.
-/
namespace MsgBindings.CommandLine

/-- What the command line can set. -/
inductive Parameter where
  | package
  | input
  | output
  | header
  | derive
  | external
  deriving DecidableEq, Repr

def Parameter.usage : Parameter → String
  | package => "<PACKAGE>"
  | input => "<INPUT_DIR>"
  | output => "<OUTPUT_DIR>"
  | header => "--header <HEADER>"
  | derive => "--derive <NAME>"
  | external => "--extern-package <PKG=PATH>"

def option? (name : String) : Option Parameter :=
  if name = "header" then some .header
  else if name = "derive" then some .derive
  else if name = "extern-package" then some .external
  else none

/-- What is asked for instead of a run. -/
inductive Information where
  | help
  | version
  deriving DecidableEq, Repr

/-- The information that a flag of a name asks for. -/
def flag? (name : String) : Option Information :=
  if name = "help" then some .help else if name = "version" then some .version else none

/-- The information that a flag of one letter asks for. -/
def letterFlag? (c : Char) : Option Information :=
  if c = 'h' then some .help else if c = 'V' then some .version else none

/-- Why a command line is refused. -/
inductive UsageFault where
  | unexpected (argument : String)
  | missingValue (parameter : Parameter)
  | repeated (parameter : Parameter)
  /-- A value for the path of another package has not both sides of its equals sign. -/
  | badExternal (value : String)
  | unneededValue (flag value : String)
  | missingArguments
  deriving DecidableEq, Repr

def UsageFault.message : UsageFault → String
  | unexpected argument => s!"error: unexpected argument '{argument}' found"
  | missingValue parameter =>
    s!"error: a value is required for '{parameter.usage}' but none was supplied"
  | repeated parameter => s!"error: the argument '{parameter.usage}' cannot be used multiple times"
  | badExternal value =>
    s!"error: invalid value '{value}' for '{Parameter.external.usage}': " ++
      s!"expected PKG=PATH, got '{value}'"
  | unneededValue flag value =>
    s!"error: unexpected value '{value}' for '--{flag}' found; no more were expected"
  | missingArguments => "error: the following required arguments were not provided:"

/-- Why the reading of a command line ends early. -/
inductive Halt where
  | information (i : Information)
  | refused (fault : UsageFault)
  deriving DecidableEq, Repr

/-- What a command line sets. -/
structure Arguments where
  package : Option String
  input : Option String
  output : Option String
  header : Option String
  derives : List String
  externals : List (String × String)
  deriving DecidableEq, Repr

namespace Arguments

def empty : Arguments := ⟨none, none, none, none, [], []⟩

/-- The two sides of the first equals sign, if neither is empty. -/
def splitExternal (value : String) : Option (String × String) :=
  match Text.splitFirst (· == '=') value.toList with
  | some (package, path) =>
    if package.isEmpty || path.isEmpty then none else some (.ofList package, .ofList path)
  | none => none

def set (a : Arguments) (parameter : Parameter) (value : String) : Except Halt Arguments :=
  match parameter with
  | .package => .ok { a with package := some value }
  | .input =>
    if value.isEmpty then .error (.refused (.missingValue .input))
    else .ok { a with input := some value }
  | .output =>
    if value.isEmpty then .error (.refused (.missingValue .output))
    else .ok { a with output := some value }
  | .header =>
    if a.header.isSome then .error (.refused (.repeated .header))
    else .ok { a with header := some value }
  | .derive => .ok { a with derives := a.derives ++ [value] }
  | .external =>
    match splitExternal value with
    | some external => .ok { a with externals := a.externals ++ [external] }
    | none => .error (.refused (.badExternal value))

end Arguments

/-- How far the reading of a command line has come. -/
structure Progress where
  arguments : Arguments
  /-- The parameter that was named last, with its value if that has been read. -/
  pending : Option (Parameter × Option String)
  /-- The places that are not taken yet. -/
  places : List Parameter
  /-- Whether only places are filled from here on. -/
  placesOnly : Bool
  deriving DecidableEq, Repr

namespace Progress

def start : Progress := ⟨.empty, none, [.package, .input, .output], false⟩

/-- Sets the parameter that was named last. -/
def settle (p : Progress) : Except Halt Progress :=
  match p.pending with
  | none => .ok p
  | some (parameter, none) => .error (.refused (.missingValue parameter))
  | some (parameter, some value) =>
    (p.arguments.set parameter value).map fun arguments => { p with arguments, pending := none }

/-- Takes an argument for the next place. -/
def takePlace (p : Progress) (argument : String) : Except Halt Progress :=
  match p.places with
  | [] => .error (.refused (.unexpected argument))
  | parameter :: places =>
    p.settle.map fun p => { p with pending := some (parameter, some argument), places }

/-- Takes an argument that is no option: a value that is asked for, or else a place. -/
def takeValue (p : Progress) (argument : String) : Except Halt Progress :=
  match p.pending with
  | some (parameter, none) => .ok { p with pending := some (parameter, some argument) }
  | _ => p.takePlace argument

/-- Ends the reading with information. -/
def inform (p : Progress) (i : Information) : Except Halt Progress := do
  let _ ← p.settle
  throw (.information i)

/-- Takes an option or a flag of a name, with the value behind its equals sign if it has one. -/
def takeNamed (p : Progress) (name : String) (value : Option String) : Except Halt Progress :=
  match option? name, flag? name, value with
  | some parameter, _, none => p.settle.map fun p => { p with pending := some (parameter, none) }
  | some parameter, _, some value => do
    let p ← p.settle
    { p with pending := some (parameter, some value) }.settle
  | none, some i, none => p.inform i
  | none, some _, some value => .error (.refused (.unneededValue name value))
  | none, none, _ => .error (.refused (.unexpected ("--" ++ name)))

/-- Takes flags of one letter. The first letter ends the reading, whatever it is. -/
def takeLetter (p : Progress) (c : Char) : Except Halt Progress :=
  match letterFlag? c with
  | some i => p.inform i
  | none => .error (.refused (.unexpected (.ofList ['-', c])))

def take (p : Progress) (argument : String) : Except Halt Progress :=
  if p.placesOnly then p.takePlace argument
  else
    match argument.toList with
    | ['-', '-'] => .ok { p with placesOnly := true }
    | '-' :: '-' :: rest =>
      match Text.splitFirst (· == '=') rest with
      | some (name, value) => p.takeNamed (.ofList name) (some (.ofList value))
      | none => p.takeNamed (.ofList rest) none
    | '-' :: c :: _ => p.takeLetter c
    | _ => p.takeValue argument

end Progress

/-- The derives that records have where none are asked for. -/
def usualDerives : List String := ["Debug", "Clone", "PartialEq"]

/-- The configuration of a run, where `header` is used if the arguments set none. -/
def Arguments.configuration (a : Arguments) (header : Option String) : Except Halt Configuration :=
  match a.package, a.input, a.output with
  | some package, some input, some output =>
    let c : Configuration :=
      { Configuration.empty with
        package := some package
        inputDirectory := some input
        outputDirectory := some output }
    let c := (a.header.or header).elim c c.withHeader
    let c := c.deriveAll (if a.derives.isEmpty then usualDerives else a.derives)
    .ok (a.externals.foldl (fun c (package, path) => c.withExternal package path) c)
  | _, _, _ => .error (.refused .missingArguments)

/-- Reads a command line, where `header` is used if it sets none. -/
def read (arguments : List String) (header : Option String) : Except Halt Configuration := do
  let p ← arguments.foldlM Progress.take .start
  (← p.settle).arguments.configuration header

def headerVariable : String := "ROSMSG_CODEGEN_HEADER"

/-- The name of the program with its version. -/
def versionText : String := "rosmsg-codegen 0.1.0\n"

def descriptionColumn : Nat := 35

/-- The value of a variable as the description of an option shows it. -/
def shownValue (value : String) : String :=
  value.replace "\n" ("\n" ++ .ofList (List.replicate descriptionColumn ' '))

/-- The description of the command line, with the value of the variable for the header. -/
def helpText (header : Option String) : String :=
  "Generate Rust types from a package of .msg message definitions\n\n" ++
  "Usage: rosmsg-codegen [OPTIONS] <PACKAGE> <INPUT_DIR> <OUTPUT_DIR>\n\n" ++
  "Arguments:\n" ++
  "  <PACKAGE>     Package the messages belong to\n" ++
  "  <INPUT_DIR>   Directory containing the `.msg` files\n" ++
  "  <OUTPUT_DIR>  Directory receiving one `.rs` file per message and a `mod.rs`\n\n" ++
  "Options:\n" ++
  "      --header <HEADER>            Header placed at the top of every generated file " ++
  "[env: " ++ headerVariable ++ "=" ++ shownValue (header.getD "") ++ "]\n" ++
  "      --derive <NAME>              Derive added to every generated struct (repeatable) " ++
  "[default: Debug Clone PartialEq]\n" ++
  "      --extern-package <PKG=PATH>  Resolve references into another package, e.g. " ++
  "`geometry_msgs=crate::geometry_msgs`\n" ++
  "  -h, --help                       Print help\n" ++
  "  -V, --version                    Print version\n"

/-- What a run of the program leaves besides files. -/
structure Outcome where
  exitCode : Nat
  output : String
  errors : String
  deriving DecidableEq, Repr

def Halt.outcome (header : Option String) : Halt → Outcome
  | information .help => ⟨0, helpText header, ""⟩
  | information .version => ⟨0, versionText, ""⟩
  | refused fault => ⟨2, "", fault.message ++ "\n"⟩

def reportOutcome (report : Batch.Report) : Outcome :=
  match report.result with
  | .ok () => ⟨0, report.printed, ""⟩
  | .error e => ⟨1, report.printed, s!"error: {e.message}\n"⟩

def run {m : Type → Type} [Monad m] (files : FileAccess m) (arguments : List String)
    (header : Option String) : m Outcome := do
  match read arguments header with
  | .error halt => return halt.outcome header
  | .ok c => return reportOutcome (← Batch.run files c)

end MsgBindings.CommandLine
