import MsgBindings.Target.Identifier
import MsgBindings.Target.Token
import MsgBindings.Target.TypeExpr

/-!
Reading the paths and types of generated code. A reader takes tokens from the front; the grammar
has one function for each kind of node. The fuel of these functions bounds how deep they nest, and
a multiple of the number of tokens is always enough.
-/
namespace MsgBindings.Target

/-- A reader of tokens; it fails where they do not fit. -/
abbrev Reader := StateT (List Token) Option

namespace Reader

/-- Whether the next token is a mark. -/
def atMark (c : Char) : List Token → Bool
  | .mark d _ :: _ => d == c
  | _ => false

/-- Whether the next two tokens are a mark of two characters. -/
def atPair (c d : Char) : List Token → Bool
  | .mark c' true :: .mark d' _ :: _ => c' == c && d' == d
  | _ => false

def atWord (word : String) : List Token → Bool
  | .identifier text :: _ => text == word
  | _ => false

def atOpening (bracket : Bracket) : List Token → Bool
  | .opening b :: _ => b == bracket
  | _ => false

def atClosing (bracket : Bracket) : List Token → Bool
  | .closing b :: _ => b == bracket
  | _ => false

def atLifetime : List Token → Bool
  | .lifetime _ :: _ => true
  | _ => false

/-- Whether a word may name something. -/
def isName (word : String) : Bool :=
  !((word ∈ keywords && word != "gen") || word ∈ reserved)

def atName : List Token → Bool
  | .identifier text :: _ => isName text
  | _ => false

/-- Whether two colons come next that a group in parentheses follows. -/
def atCallColons (s : List Token) : Bool := atPair ':' ':' s && atOpening .round (s.drop 2)

/-- Whether arguments between angle brackets come next. -/
def atAngle (s : List Token) : Bool :=
  (atMark '<' s && !atPair '<' '=' s) || (atPair ':' ':' s && atMark '<' (s.drop 2))

/-- Whether a literal comes next, perhaps after a minus sign. -/
def atLiteral : List Token → Bool
  | .literal _ _ :: _ => true
  | .mark '-' _ :: .literal _ true :: _ => true
  | s => atWord "true" s || atWord "false" s

def atBound (s : List Token) : Bool :=
  (match s with
    | .identifier _ :: _ => true
    | _ => false) ||
  atPair ':' ':' s || atMark '?' s || atLifetime s || atOpening .round s

/-- Takes tokens that are known. -/
def skip (n : Nat) : Reader Unit := modify (List.drop n)

/-- Takes as many tokens as a test of the next ones asks for. -/
def require (test : List Token → Bool) (n : Nat) : Reader Unit := do
  guard (test (← get))
  skip n

/-- Takes tokens if a test of the next ones holds. -/
def optional (test : List Token → Bool) (n : Nat) : Reader Bool := do
  if test (← get) then
    skip n
    return true
  else return false

def word : Reader String := do
  match ← get with
  | .identifier text :: _ =>
    skip 1
    return text
  | _ => failure

def lifetime : Reader String := do
  match ← get with
  | .lifetime name :: _ =>
    skip 1
    return name
  | _ => failure

/-- Takes a literal, perhaps after a minus sign. -/
def literal : Reader ConstantExpr := do
  match ← get with
  | .literal text _ :: _ =>
    skip 1
    return .literal false text
  | .mark '-' _ :: .literal text true :: _ =>
    skip 2
    return .literal true text
  | .identifier text :: _ =>
    guard (text == "true" || text == "false")
    skip 1
    return .literal false text
  | _ => failure

/-- Takes the names of a path without arguments. -/
def names : (fuel : Nat) → Reader (List String)
  | 0 => failure
  | fuel + 1 => do
    let name ← word
    guard (isName name || name ∈ ["super", "self", "Self", "crate", "try"])
    if atPair ':' ':' (← get) then
      skip 2
      return name :: (← names fuel)
    else return [name]

/-- Takes a constant without braces. -/
def constant (fuel : Nat) : Reader ConstantExpr := do
  if atLiteral (← get) then literal
  else
    let isGlobal ← optional (atPair ':' ':') 2
    return .path isGlobal (← names fuel)

/-- Takes a constant argument: a literal or a constant in braces. -/
def constantArgument (fuel : Nat) : Reader ConstantExpr := do
  if ← optional (atOpening .curly) 1 then
    let content ← constant fuel
    require (atClosing .curly) 1
    return .block content
  else literal

/-- Takes the lifetimes up to the closing angle bracket. -/
def lifetimesToClose : (fuel : Nat) → Reader (List String)
  | 0 => failure
  | fuel + 1 => do
    if ← optional (atMark '>') 1 then return []
    let name ← lifetime
    if ← optional (atMark '>') 1 then return [name]
    require (atMark ',') 1
    return name :: (← lifetimesToClose fuel)

/-- Takes the lifetimes that a type is general in, if they are named here. -/
def generality (fuel : Nat) : Reader (Option (List String)) := do
  if ← optional (atWord "for") 1 then
    require (atMark '<') 1
    return some (← lifetimesToClose fuel)
  else return none

/-- Whether a type that is general in lifetimes may go on with the next token. -/
def atGeneral (s : List Token) : Bool :=
  atName s || ["fn", "unsafe", "extern", "super", "self", "Self", "crate"].any (atWord · s)

def conventionName : Reader (Option String) := do
  match ← get with
  | .literal text false :: _ =>
    guard (text.toList.head? == some '"')
    skip 1
    return some text
  | _ => return none

/-- Takes the words in front of a function type. -/
def functionQualifiers (lifetimes : Option (List String)) : Reader FunctionQualifiers := do
  let isUnsafe ← optional (atWord "unsafe") 1
  let convention ← if ← optional (atWord "extern") 1 then some <$> conventionName else pure none
  require (atWord "fn") 1
  return { lifetimes, isUnsafe, convention }

/-- Whether the name of a parameter comes next. -/
def atParameterName (s : List Token) : Bool :=
  (atName s || atWord "_" s) && atMark ':' (s.drop 1) && !atPair ':' ':' (s.drop 1)

def parameterName : Reader (Option String) := do
  if atParameterName (← get) then
    let name ← word
    skip 1
    return some name
  else return none

/-- Whether one of the bounds names a trait. -/
def hasTrait (bounds : List Bound) : Bool :=
  bounds.any fun b =>
    match b with
    | .trait _ _ _ _ _ => true
    | .lifetime _ => false

mutual

/-- Takes a type. Bounds joined by plus signs are one only if `plus` allows it. -/
def type : (fuel : Nat) → (plus : Bool) → Reader TypeExpr
  | 0, _ => failure
  | fuel + 1, plus => do
    let lifetimes ← generality fuel
    let s ← get
    guard (lifetimes.isNone || atGeneral s)
    if ← optional (atOpening .round) 1 then group fuel plus
    else if atWord "fn" s || atWord "unsafe" s || atWord "extern" s then
      let qualifiers ← functionQualifiers lifetimes
      require (atOpening .round) 1
      let parameters ← parametersToClose fuel
      return .function qualifiers parameters (← result fuel)
    else if atMark '<' s then item fuel
    else if atName s || atPair ':' ':' s ||
        ["super", "self", "Self", "crate"].any (atWord · s) then pathType fuel lifetimes plus
    else if ← optional (atWord "dyn") 1 then
      let bounds ← bounds fuel plus
      guard (hasTrait bounds)
      return .object true bounds
    else if ← optional (atOpening .square) 1 then
      let element ← type fuel true
      if ← optional (atMark ';') 1 then
        let size ← if atOpening .curly (← get) then constantArgument fuel else constant fuel
        require (atClosing .square) 1
        return .array element size
      else
        require (atClosing .square) 1
        return .slice element
    else if ← optional (atMark '*') 1 then
      if ← optional (atWord "const") 1 then return .pointer false (← type fuel false)
      else
        require (atWord "mut") 1
        return .pointer true (← type fuel false)
    else if ← optional (atMark '&') 1 then
      let name ← if atLifetime (← get) then some <$> lifetime else pure none
      let isMutable ← optional (atWord "mut") 1
      return .reference name isMutable (← type fuel false)
    else if ← optional (atMark '!') 1 then return .never
    else if ← optional (atWord "impl") 1 then
      let bounds ← bounds fuel plus
      guard (hasTrait bounds)
      return .implementing bounds
    else if ← optional (atWord "_") 1 then return .hole
    else
      guard (atLifetime s)
      let bounds ← bounds fuel true
      guard (hasTrait bounds)
      return .object false bounds

/-- Takes a type that starts with a name: a path, or bounds that a path begins. -/
def pathType : (fuel : Nat) → (lifetimes : Option (List String)) → (plus : Bool) → Reader TypeExpr
  | 0, _, _ => failure
  | fuel + 1, lifetimes, plus => do
    let isGlobal ← optional (atPair ':' ':') 2
    let segments ← calls fuel (← path fuel)
    let s ← get
    if lifetimes.isSome || (plus && atMark '+' s) then
      let more ← moreBounds fuel plus
      return .object false (.trait false lifetimes false isGlobal segments :: more)
    else return .path isGlobal segments

def item : (fuel : Nat) → Reader TypeExpr
  | 0 => failure
  | fuel + 1 => do
    require (atMark '<') 1
    let owner ← type fuel true
    let (isGlobal, through) ←
      if ← optional (atWord "as") 1 then
        let isGlobal ← optional (atPair ':' ':') 2
        pure (isGlobal, ← path fuel)
      else pure (false, [])
    require (atMark '>') 1
    require (atPair ':' ':') 2
    return .item owner isGlobal through (← calls fuel (← itemPath fuel))

/-- Takes the rest of a type after its first parenthesis. -/
def group : (fuel : Nat) → (plus : Bool) → Reader TypeExpr
  | 0, _ => failure
  | fuel + 1, plus => do
    if ← optional (atClosing .round) 1 then return .tuple []
    else if atMark '?' (← get) then
      let first ← bound fuel
      require (atClosing .round) 1
      match first with
      | .trait _ lifetimes isOptional isGlobal segments =>
        let more ← strictBounds fuel
        return .object false (.trait true lifetimes isOptional isGlobal segments :: more)
      | .lifetime _ => failure
    else
      let isObject := atLifetime (← get)
      let first ← type fuel true
      if !isObject && atMark ',' (← get) then
        skip 1
        return .tuple (first :: (← typesToClose fuel))
      else
        require (atClosing .round) 1
        match first.bound? with
        | some b =>
          if !isObject && plus && atMark '+' (← get) then
            return .object false (b :: (← strictBounds fuel))
          else return .parenthesized first
        | none => return .parenthesized first

def typesToClose : (fuel : Nat) → Reader (List TypeExpr)
  | 0 => failure
  | fuel + 1 => do
    if ← optional (atClosing .round) 1 then return []
    let first ← type fuel true
    if ← optional (atClosing .round) 1 then return [first]
    require (atMark ',') 1
    return first :: (← typesToClose fuel)

def parametersToClose : (fuel : Nat) → Reader (List Parameter)
  | 0 => failure
  | fuel + 1 => do
    if ← optional (atClosing .round) 1 then return []
    let name ← parameterName
    let first := Parameter.mk name (← type fuel true)
    if ← optional (atClosing .round) 1 then return [first]
    require (atMark ',') 1
    return first :: (← parametersToClose fuel)

/-- Takes the result of a function, if it is given. -/
def result : (fuel : Nat) → Reader (Option TypeExpr)
  | 0 => failure
  | fuel + 1 => do
    if ← optional (atPair '-' '>') 2 then return some (← type fuel false) else return none

/-- Takes the segments of a path. It ends before two colons that parentheses follow. -/
def path : (fuel : Nat) → Reader (List Segment)
  | 0 => failure
  | fuel + 1 => do
    let first ← segment fuel
    return first :: (← pathRest fuel)

def pathRest : (fuel : Nat) → Reader (List Segment)
  | 0 => failure
  | fuel + 1 => do
    let s ← get
    if atPair ':' ':' s && !atCallColons s then
      skip 2
      let first ← segment fuel
      return first :: (← pathRest fuel)
    else return []

/-- Takes the segments of the path of an item, which ends where no colons follow. -/
def itemPath : (fuel : Nat) → Reader (List Segment)
  | 0 => failure
  | fuel + 1 => do
    let first ← segment fuel
    if ← optional (atPair ':' ':') 2 then return first :: (← itemPath fuel) else return [first]

/-- Takes the parameters in parentheses that go on a path, and the segments after them. -/
def calls : (fuel : Nat) → List Segment → Reader (List Segment)
  | 0, _ => failure
  | fuel + 1, segments => do
    let s ← get
    if segments.getLast?.any Segment.isPlain && (atOpening .round s || atCallColons s) then
      let _ ← optional (atPair ':' ':') 2
      skip 1
      let inputs ← typesToClose fuel
      let output ← result fuel
      let segments := withLastArguments (.round inputs output) segments
      match output with
      | none | some (.parenthesized _) => calls fuel (segments ++ (← pathRest fuel))
      | _ => return segments
    else return segments

def segment : (fuel : Nat) → Reader Segment
  | 0 => failure
  | fuel + 1 => do
    let name ← word
    if name ∈ ["super", "self", "crate", "try"] then return .plain name
    guard (name == "Self" || isName name)
    if atAngle (← get) then
      let _ ← optional (atPair ':' ':') 2
      skip 1
      return .mk name (.angle (← argumentsToClose fuel))
    else return .plain name

/-- Takes the arguments up to the closing angle bracket. -/
def argumentsToClose : (fuel : Nat) → Reader (List Argument)
  | 0 => failure
  | fuel + 1 => do
    if ← optional (atMark '>') 1 then return []
    let first ← argument fuel
    if ← optional (atMark '>') 1 then return [first]
    require (atMark ',') 1
    return first :: (← argumentsToClose fuel)

def argument : (fuel : Nat) → Reader Argument
  | 0 => failure
  | fuel + 1 => do
    let s ← get
    if atLifetime s && !atMark '+' (s.drop 1) then return .lifetime (← lifetime)
    else if atLiteral s || atOpening .curly s then return .constant (← constantArgument fuel)
    else
      let first ← type fuel true
      match first.associated? with
      | none => return .type first
      | some (name, arguments) =>
        if ← optional (atMark '=') 1 then
          let s ← get
          if atLiteral s || atOpening .curly s then
            return .constantBinding name arguments (← constantArgument fuel)
          else return .binding name arguments (← type fuel true)
        else if ← optional (atMark ':') 1 then
          let s ← get
          if atMark ',' s || atMark '>' s then return .constraint name arguments []
          else return .constraint name arguments (← bounds fuel true)
        else return .type first

def bounds : (fuel : Nat) → (plus : Bool) → Reader (List Bound)
  | 0, _ => failure
  | fuel + 1, plus => do
    let first ← bound fuel
    return first :: (← moreBounds fuel plus)

/-- Takes the bounds after a first one, and the plus sign that may end them. -/
def moreBounds : (fuel : Nat) → (plus : Bool) → Reader (List Bound)
  | 0, _ => failure
  | fuel + 1, plus => do
    if plus && atMark '+' (← get) then
      skip 1
      if atBound (← get) then
        let first ← bound fuel
        return first :: (← moreBounds fuel plus)
      else return []
    else return []

/-- Takes the bounds after one in parentheses; each plus sign has a bound after it. -/
def strictBounds : (fuel : Nat) → Reader (List Bound)
  | 0 => failure
  | fuel + 1 => do
    if ← optional (atMark '+') 1 then
      let first ← bound fuel
      return first :: (← strictBounds fuel)
    else return []

def bound : (fuel : Nat) → Reader Bound
  | 0 => failure
  | fuel + 1 => do
    if atLifetime (← get) then return .lifetime (← lifetime)
    let isParenthesized ← optional (atOpening .round) 1
    let lifetimes ← generality fuel
    let isOptional ← optional (atMark '?') 1
    let lifetimes ←
      if lifetimes.isNone && isOptional then generality fuel else pure lifetimes
    let isGlobal ← optional (atPair ':' ':') 2
    let segments ← path fuel
    let s ← get
    let segments ←
      if segments.getLast?.any Segment.isPlain && (atOpening .round s || atCallColons s) then do
        let _ ← optional (atPair ':' ':') 2
        skip 1
        let inputs ← typesToClose fuel
        let output ← result fuel
        pure (withLastArguments (.round inputs output) segments)
      else pure segments
    if isParenthesized then require (atClosing .round) 1
    return .trait isParenthesized lifetimes isOptional isGlobal segments

end

/-- Reads all of a text, given what to take from its tokens. -/
def readAll {α : Type} (reader : (fuel : Nat) → Reader α) (text : List Char) : Option α := do
  let tokens ← Token.readAll text
  let (value, rest) ← reader (16 * (tokens.length + 1)) tokens
  if rest.isEmpty then some value else none

end Reader

def Path.read? (text : List Char) : Option Path :=
  Reader.readAll
    (fun fuel => do
      let isGlobal ← Reader.optional (Reader.atPair ':' ':') 2
      return ⟨isGlobal, ← Reader.path fuel⟩)
    text

/-- A text without its comments between slash and star. One that does not end takes the rest. -/
def dropComments : (inside : Bool) → List Char → List Char
  | _, [] => []
  | false, '/' :: '*' :: rest => dropComments true rest
  | true, '*' :: '/' :: rest => dropComments false rest
  | false, c :: rest => c :: dropComments false rest
  | true, _ :: rest => dropComments true rest

def TypeExpr.read? (text : List Char) : Option TypeExpr :=
  Reader.readAll (Reader.type · true) (Text.trim (dropComments false text))

end MsgBindings.Target
