import MsgBindings.Text.CaseWords

/-!
Identifiers of generated code. A keyword is written as a raw identifier, and the few names that may
not be raw get an underscore at the end. The module and the file of a message are named after the
snake case of its name.
-/
namespace MsgBindings.Target

/-- The keywords that may be raw identifiers. -/
def keywords : List String :=
  ["as", "break", "const", "continue", "else", "enum", "extern", "false", "fn", "for", "if", "impl",
    "in", "let", "loop", "match", "mod", "move", "mut", "pub", "ref", "return", "static", "struct",
    "trait", "true", "type", "unsafe", "use", "where", "while", "async", "await", "dyn", "abstract",
    "become", "box", "do", "final", "gen", "macro", "override", "priv", "typeof", "unsized",
    "virtual", "yield", "try"]

/-- The names that are no identifiers and may not be raw either. -/
def reserved : List String := ["self", "Self", "super", "crate", "_"]

/-- A text with each character that no identifier holds replaced by an underscore, and with an
    underscore in front of a digit at the start. -/
def cleanIdentifier (name : List Char) : List Char :=
  let cleaned := name.map fun c => if Text.isAlphanumeric c || c == '_' then c else '_'
  match cleaned with
  | c :: _ => if c.isDigit then '_' :: cleaned else cleaned
  | [] => cleaned

/-- The identifier for a name. -/
def identifier (name : String) : String :=
  if name ∈ reserved then name ++ "_"
  else if name ∈ keywords then "r#" ++ name
  else .ofList (cleanIdentifier name.toList)

/-- The name of the module that holds a message. -/
def moduleName (message : String) : String :=
  identifier (.ofList (Text.snakeCase message.toList))

/-- The name of the file of a module: raw identifiers lose their mark. -/
def fileName (module : String) : String :=
  match module.toList with
  | 'r' :: '#' :: rest => .ofList rest ++ ".rs"
  | _ => module ++ ".rs"

end MsgBindings.Target
