/-!
Why a file or a directory cannot be used.
-/
namespace MsgBindings

/-- Why a file or a directory cannot be used. -/
inductive FileFault where
  | notFound
  | notADirectory
  | isADirectory
  | alreadyExists
  /-- The content of the file is no text. -/
  | notText
  | nameTooLong
  /-- The path holds the character that ends texts. -/
  | nulInPath
  | other (reason : String)
  deriving DecidableEq, Repr

namespace FileFault

def message : FileFault → String
  | notFound => "No such file or directory (os error 2)"
  | notADirectory => "Not a directory (os error 20)"
  | isADirectory => "Is a directory (os error 21)"
  | alreadyExists => "File exists (os error 17)"
  | notText => "stream did not contain valid UTF-8"
  | nameTooLong => "File name too long (os error 36)"
  | nulInPath => "file name contained an unexpected NUL byte"
  | other reason => reason

end FileFault

end MsgBindings
