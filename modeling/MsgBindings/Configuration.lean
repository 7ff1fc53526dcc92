import MsgBindings.Catalog
import MsgBindings.Names
import MsgBindings.Style
import MsgBindings.Target.TypeReader

/-!
What a run is asked to do: the package, the directory and the files with its messages, where their
code goes and how it looks, and the paths of other packages. A configuration is built up setting by
setting and checked as a whole before it is used.
-/
namespace MsgBindings

structure Configuration where
  package : Option String
  style : Style
  /-- Whether the run announces the files that it depends on. -/
  announcesInputs : Bool
  outputDirectory : Option String
  /-- The directory all of whose message files are used. -/
  inputDirectory : Option String
  inputFiles : List String
  externals : Catalog
  deriving DecidableEq, Repr

inductive ConfigurationFault where
  | packageMissing
  | badPackage (package : String)
  | outputMissing
  | inputMissing
  | badDerive (derive : String)
  /-- What is registered for a package is no path. -/
  | badExternal (package path : String)
  deriving DecidableEq, Repr

def ConfigurationFault.message : ConfigurationFault → String
  | packageMissing => "Package name is required but not set"
  | badPackage package => s!"Invalid package name: {package}"
  | outputMissing => "Output directory is required but not set"
  | inputMissing => "No input files provided to generator"
  | badDerive derive =>
    s!"Invalid derive '{derive}': expected a path such as `Debug` or `serde::Serialize`"
  | badExternal package path => s!"Invalid Rust path '{path}' for extern package '{package}'"

/-- The settings that a run cannot do without. -/
structure Destination where
  package : String
  outputDirectory : String
  deriving DecidableEq, Repr

namespace Configuration

def empty : Configuration := ⟨none, .plain, false, none, none, [], []⟩

/-- Adds a derive, unless it is there. -/
def derive (c : Configuration) (name : String) : Configuration :=
  { c with style := c.style.addDerive name }

def deriveAll (c : Configuration) (names : List String) : Configuration := names.foldl derive c

/-- The derives for comparing values for equality. -/
def equalityDerives : List String := ["PartialEq", "Eq"]

/-- The derives for ordering values, with those that they need. -/
def orderDerives : List String := equalityDerives ++ ["PartialOrd", "Ord"]

def addRawLine (c : Configuration) (line : String) : Configuration :=
  { c with style := { c.style with rawLines := c.style.rawLines ++ [line] } }

def withHeader (c : Configuration) (header : String) : Configuration :=
  { c with style := { c.style with header := some header } }

def addFiles (c : Configuration) (files : List String) : Configuration :=
  { c with inputFiles := c.inputFiles ++ files }

/-- Registers the path of another package; the last path of a package counts. -/
def withExternal (c : Configuration) (package path : String) : Configuration :=
  { c with externals := c.externals.put package path }

def isPath (text : String) : Bool := (Target.Path.read? text.toList).isSome

/-- Checks the settings, in the order in which they are listed here. -/
def check (c : Configuration) : Except ConfigurationFault Destination := do
  let package ←
    match c.package with
    | none => throw .packageMissing
    | some package => if isPackageName package then pure package else throw (.badPackage package)
  let outputDirectory ←
    match c.outputDirectory with
    | none => throw .outputMissing
    | some directory => pure directory
  if c.inputDirectory.isNone && c.inputFiles.isEmpty then throw .inputMissing
  match c.style.derives.find? (!isPath ·) with
  | some derive => throw (.badDerive derive)
  | none => pure ()
  match List.find? (fun entry => !isPath entry.2) c.externals with
  | some (package, path) => throw (.badExternal package path)
  | none => pure ()
  return { package, outputDirectory }

end Configuration

end MsgBindings
