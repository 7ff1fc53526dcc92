import MsgBindings.DefinitionError
import MsgBindings.Text.Cut

/-!
The declarations of a message definition. A definition is read line by line: what stands after the
first `#` of a line is its comment, and what stands before it is a field, a constant or the header
of an enumeration. Lines without a declaration are passed over, but a declaration knows whether a
blank line is above it.
-/
namespace MsgBindings

/-- What a line declares, as it is written. -/
inductive Declaration where
  | field (type name : String) (default : Option String)
  | constant (type name value : String)
  | enumeration (name : String)
  deriving DecidableEq, Repr

structure SourceLine where
  /-- The number of the line, counted from one. -/
  number : Nat
  /-- The line without the blanks around it. -/
  text : String
  declaration : Declaration
  /-- The comment of the line, unless it is empty. -/
  comment : Option String
  /-- Whether a blank line stands between this declaration and the one before. -/
  followsBlank : Bool
  deriving DecidableEq, Repr

namespace Declaration

/-- The declaration and the comment of a line without blanks around it. -/
def splitComment (line : List Char) : List Char × Option String :=
  match Text.splitFirst (· == '#') line with
  | none => (line, none)
  | some (content, comment) =>
    let comment := Text.trim comment
    (Text.trimEnd content, if comment.isEmpty then none else some (.ofList comment))

/-- The text before and after the first equals sign that ends no `<=`, where `before` is the
    character in front of the text. A quote hides what follows it. -/
def splitEquals (before : Char) : List Char → Option (List Char × List Char)
  | [] => none
  | c :: rest =>
    if c = '"' ∨ c = '\'' then none
    else if c = '=' ∧ before ≠ '<' then some ([], rest)
    else (splitEquals c rest).map fun (name, value) => (c :: name, value)

def readMarker (content : List Char) : Except DefinitionError Declaration :=
  match Text.words content with
  | [] => .error (.field (.unknownMarker (.ofList content)))
  | marker :: rest =>
    if marker = "@enum".toList then
      match rest with
      | [] => .error (.enumeration .unnamed)
      | [name] => .ok (.enumeration (.ofList name))
      | _ :: extra :: _ => .error (.enumeration (.unexpected (.ofList extra)))
    else .error (.field (.unknownMarker (.ofList marker)))

/-- Reads a constant from the text before and after its equals sign. -/
def readConstant (declared value : List Char) : Except DefinitionError Declaration :=
  match Text.words declared with
  | [type, name] =>
    let value := Text.trim value
    if value.isEmpty then .error (.constant (.noValue (.ofList name)))
    else .ok (.constant (.ofList type) (.ofList name) (.ofList value))
  | _ => .error (.constant .form)

/-- Reads a field: a type, a name, and a default value where something follows the name. -/
def readField (content : List Char) : Except DefinitionError Declaration :=
  match Text.splitFirst Text.isBlank content with
  | none => .error (.field (.missingName (.ofList content)))
  | some (type, rest) =>
    let rest := Text.trimStart rest
    match Text.splitFirst Text.isBlank rest with
    | none => .ok (.field (.ofList type) (.ofList rest) none)
    | some (name, default) =>
      .ok (.field (.ofList type) (.ofList name) (some (.ofList (Text.trim default))))

def read (content : List Char) : Except DefinitionError Declaration :=
  if content.head? = some '@' then readMarker content
  else
    match splitEquals ' ' content with
    | some (declared, value) => readConstant declared value
    | none => readField content

end Declaration

namespace SourceLine

/-- Reads the declarations of the lines from `number` on, where `blank` says whether a blank line
    stands between the last declaration and these lines. -/
def readFrom (number : Nat) (blank : Bool) : List (List Char) →
    List (Except DefinitionError SourceLine)
  | [] => []
  | line :: rest =>
    let text := Text.trim line
    if text.isEmpty then readFrom (number + 1) true rest
    else
      let (content, comment) := Declaration.splitComment text
      if content.isEmpty then readFrom (number + 1) blank rest
      else
        (match Declaration.read content with
          | .ok declaration =>
            .ok ⟨number, .ofList text, declaration, comment, blank⟩
          | .error e => .error (e.onLine number (.ofList text))) :: readFrom (number + 1) false rest

/-- The lines of a definition that have a declaration, each one read or with what is wrong with
    it. -/
def readAll (source : String) : List (Except DefinitionError SourceLine) :=
  readFrom 1 false (Text.lines source.toList)

end SourceLine

end MsgBindings
