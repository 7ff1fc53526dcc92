import MsgBindings.Target.ValueExpr

/-!
The texts of values. A value is written out as an expression before it is laid out in lines; its
elements stand behind each other with a comma and a space between them.
-/
namespace MsgBindings.Target

namespace ScalarExpr

def text : ScalarExpr → String
  | literal p v => (if hasMinus v then "-" else "") ++ unsignedText p v
  | owned text => ownedCall ++ stringLiteral text ++ ")"

/-- The texts of elements with commas between them. -/
def listText (elements : List ScalarExpr) : String := ", ".intercalate (elements.map text)

end ScalarExpr

/-- The call that makes an array by a function of the position. -/
def elementwiseCall : String := "::core::array::from_fn("

namespace ValueExpr

def text : ValueExpr → String
  | scalar e => e.text
  | array elements => s!"[{ScalarExpr.listText elements}]"
  | vector elements => s!"::std::vec![{ScalarExpr.listText elements}]"
  | default => defaultCall
  | defaults => elementwiseCall ++ "|_| " ++ defaultCall ++ ")"

end ValueExpr

end MsgBindings.Target
