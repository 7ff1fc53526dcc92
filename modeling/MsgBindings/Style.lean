/-!
What the code of all messages has in common: the derives of records and the text above the code.
-/
namespace MsgBindings

/-- What the code of all messages has in common. -/
structure Style where
  /-- The derives of records, as written. -/
  derives : List String
  header : Option String
  /-- Lines below the header. -/
  rawLines : List String
  deriving DecidableEq, Repr

namespace Style

/-- No derives and no text above the code. -/
def plain : Style := ⟨[], none, []⟩

/-- The derive that is written out as an implementation. -/
def defaultDerive : String := "Default"

def addDerive (style : Style) (derive : String) : Style :=
  if style.derives.contains derive then style
  else { style with derives := style.derives ++ [derive] }

/-- Whether records get a default value. -/
def wantsDefault (style : Style) : Bool := style.derives.any (· == defaultDerive)

/-- The derives that stand in front of records. -/
def recordDerives (style : Style) : List String := style.derives.filter (· != defaultDerive)

/-- The header and an empty line below it. -/
def headerText (style : Style) : String := (style.header.map (· ++ "\n\n")).getD ""

/-- What comes before the items of a file. -/
def preamble (style : Style) : String :=
  style.headerText ++
    if style.rawLines.isEmpty then "" else String.join (style.rawLines.map (· ++ "\n")) ++ "\n"

end Style

end MsgBindings
