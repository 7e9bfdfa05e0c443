import Crosswalk.Code.Grammar.Basic

/-! Reading expressions. The levels of binding are functions of the readers that lead back into them:
for whole expressions, for negations, for signed factors and for primaries. -/

namespace Crosswalk.Code.Grammar

/-- The readers that close the circle, each with less fuel than the one that uses it, the fuel itself for
loops, and the characters that strings may name. -/
structure Knot where
  names : Escapes.CharacterNames
  fuel : Nat
  expression : Reader Expr
  inversion : Reader Expr
  factor : Reader Expr
  primary : Reader Expr

/-! Operators -/

def binaryLevels : List (List (String × BinaryOp)) :=
  [[("*", .multiply), ("@", .matrixMultiply), ("/", .divide), ("//", .floorDivide),
    ("%", .remainder)],
   [("+", .add), ("-", .subtract)],
   [("<<", .shiftLeft), (">>", .shiftRight)],
   [("&", .bitAnd)],
   [("^", .bitXor)],
   [("|", .bitOr)]]

def operator? {α : Type} (table : List (String × α)) : Reader (Option α) := do
  match ← peek with
  | .symbol text =>
    match table.lookup text with
    | some op =>
      advance
      return some op
    | none => return none
  | _ => return none

/-- Operands of one level, grouped from the left. -/
def binaryLevel (fuel : Nat) (table : List (String × BinaryOp)) (operand : Reader Expr) :
    Reader Expr := do
  let position ← here
  let step (left : Expr) : Reader (Option Expr) := do
    match ← operator? table with
    | some op => return some (.binary position op left (← operand))
    | none => return none
  extend step fuel (← operand)

def comparisons : List (String × Comparison) :=
  [("==", .equal), ("!=", .notEqual), ("<", .less), ("<=", .lessEqual), (">", .greater),
   (">=", .greaterEqual)]

def comparison? : Reader (Option Comparison) := do
  if ← acceptWord "in" then return some .member
  if ← acceptWord "is" then
    return some (if ← acceptWord "not" then .isNot else .is)
  if (← atWord "not") ∧ (← peekSecond) = .keyword "in" then
    advance
    advance
    return some .notMember
  operator? comparisons

/-! Strings and numbers -/

def stringRun : Nat → Reader (List StringLiteral)
  | 0 => refuse
  | fuel + 1 => do
    match ← peek with
    | .string literal =>
      advance
      return literal :: (← stringRun fuel)
    | _ => return []

/-! Sequences -/

def closes (text : String) : Reader Bool := atSymbol text

namespace Knot

variable (k : Knot)

def bitOr : Reader Expr := binaryLevels.foldl (fun r table => binaryLevel k.fuel table r) k.factor

def comparison : Reader Expr := do
  let position ← here
  let first ← k.bitOr
  let step (found : List (Comparison × Expr)) :
      Reader (Option (List (Comparison × Expr))) := do
    match ← comparison? with
    | some op => return some ((op, ← k.bitOr) :: found)
    | none => return none
  match (← extend step k.fuel []).reverse with
  | [] => return first
  | found => return .compare position first (found.map (·.1)) (found.map (·.2))

def inversionOf : Reader Expr := do
  let position ← here
  if ← acceptWord "not" then return .unary position .not (← k.inversion)
  k.comparison

def logicalLevel (joint : String) (op : BoolOp) (operand : Reader Expr) : Reader Expr := do
  let position ← here
  let first ← operand
  let step (found : List Expr) : Reader (Option (List Expr)) := do
    if ← acceptWord joint then return some ((← operand) :: found)
    return none
  match (← extend step k.fuel []).reverse with
  | [] => return first
  | others => return .logical position op (first :: others)

def disjunction : Reader Expr :=
  k.logicalLevel "or" .or (k.logicalLevel "and" .and k.inversionOf)

/-- Whether a name follows, and after it a symbol. -/
def atNameBefore (text : String) : Reader Bool := do
  match ← peek with
  | .name .. => return (← peekSecond) = .symbol text
  | _ => return false

/-- An expression, or a name bound to one. -/
def namedExpression : Reader Expr := do
  let position ← here
  if ← atNameBefore ":=" then
    let id ← identifier
    advance
    return .named position (.name position id) (← k.expression)
  k.expression

def starredOr (value plain : Reader Expr) : Reader Expr := do
  let position ← here
  if ← acceptSymbol "*" then return .starred position (← value)
  plain

/-- An element of a display. -/
def element : Reader Expr := starredOr k.bitOr k.namedExpression

def starExpression : Reader Expr := starredOr k.bitOr k.expression

/-- Whether what follows cannot begin an expression, after a comma. -/
def sequenceEnds : Reader Bool := do
  match ← peek with
  | .newline | .endMarker | .dedent | .indent => return true
  | .symbol text => return [")", "]", "\x7d", ":", ";", "=", ":="].contains text || text.endsWith "="
  | .keyword word => return ["in", "for", "if", "else", "from", "as", "async"].contains word
  | _ => return false

/-- One expression, or several as a tuple. -/
def sequenceOf (item : Reader Expr) : Reader Expr := do
  let position ← here
  match ← commaList item sequenceEnds k.fuel with
  | ([e], false) => return e
  | (elements, _) => return .tuple position elements

def starExpressions : Reader Expr := k.sequenceOf k.starExpression

def yieldExpression : Reader Expr := do
  let position ← here
  word "yield"
  if ← acceptWord "from" then return .yieldFrom position (← k.expression)
  if ← sequenceEnds then return .yield position none
  return .yield position (some (← k.starExpressions))

def yieldOr (plain : Reader Expr) : Reader Expr := do
  if ← atWord "yield" then k.yieldExpression else plain

/-! Parameters -/

/-- How far a parameter list has come. -/
inductive ParameterStage
  | first | positional | afterSlash | afterBareStar | afterStar | closed
  deriving DecidableEq

structure ParameterState where
  stage : ParameterStage := .first
  defaults : Bool := false
  found : List Expr := []

/-- One parameter. Defaults, once begun, go on up to the star; a bare star needs a name after it. -/
def parameter (typing starTyping : Reader Unit) (s : ParameterState) :
    Reader ParameterState := do
  let add (stage : ParameterStage) (defaults : Bool) (e : Expr) : ParameterState :=
    ⟨stage, defaults, e :: s.found⟩
  if s.stage = .closed then refuse
  if ← acceptSymbol "/" then
    if s.stage = .positional then return add .afterSlash s.defaults (.parameter .slash none none)
    else refuse
  if ← acceptSymbol "**" then
    if s.stage = .afterBareStar then refuse
    let id ← identifier
    typing
    return add .closed s.defaults (.parameter .doubleStar (some id) none)
  if ← acceptSymbol "*" then
    if s.stage = .afterBareStar ∨ s.stage = .afterStar then refuse
    match ← peek with
    | .name .. =>
      let id ← identifier
      starTyping
      return add .afterStar s.defaults (.parameter .star (some id) none)
    | _ => return add .afterBareStar s.defaults (.parameter .star none none)
  let id ← identifier
  typing
  let default ← if ← acceptSymbol "=" then some <$> k.expression else pure none
  match s.stage with
  | .afterBareStar | .afterStar =>
    return add .afterStar s.defaults (.parameter .none (some id) default)
  | stage =>
    if s.defaults ∧ default.isNone then refuse
    let stage := if stage = .first then .positional else stage
    return add stage default.isSome (.parameter .none (some id) default)

def parametersFrom (typing starTyping : Reader Unit) (ends : Reader Bool) :
    Nat → ParameterState → Reader (List Expr)
  | 0, _ => refuse
  | fuel + 1, s => do
    let s ← k.parameter typing starTyping s
    let comma ← acceptSymbol ","
    if ← ends then
      if s.stage = .afterBareStar then refuse
      return s.found.reverse
    if comma then parametersFrom typing starTyping ends fuel s else refuse

def parameters (typing starTyping : Reader Unit) (ends : Reader Bool) :
    Reader (List Expr) := do
  if ← ends then return []
  k.parametersFrom typing starTyping ends k.fuel {}

def lambda : Reader Expr := do
  let position ← here
  word "lambda"
  let parameters ← k.parameters (pure ()) (pure ()) (closes ":")
  symbol ":"
  return .lambda position parameters (← k.expression)

def expressionOf : Reader Expr := do
  let position ← here
  if ← atWord "lambda" then k.lambda
  else
    let body ← k.disjunction
    if ← acceptWord "if" then
      let test ← k.disjunction
      word "else"
      return .conditional position test body (← k.expression)
    return body

/-! Calls and subscripts -/

/-- How far the arguments of a call have come. -/
inductive ArgumentStage
  | positional | keywords | mappings
  deriving DecidableEq

structure ArgumentState where
  stage : ArgumentStage := .positional
  arguments : List Expr := []
  keywords : List Expr := []

/-- Whether an argument follows that is more than an expression. -/
def atMarkedArgument : Reader Bool := do
  return (← atSymbol "*") || (← atSymbol "**") || (← atNameBefore "=")

def markedArgument (s : ArgumentState) : Reader ArgumentState := do
  let position ← here
  if ← acceptSymbol "*" then
    if s.stage = .mappings then refuse
    return { s with arguments := .starred position (← k.expression) :: s.arguments }
  if ← acceptSymbol "**" then
    return { s with stage := .mappings, keywords := .keyword none (← k.expression) :: s.keywords }
  let id ← identifier
  symbol "="
  let stage := if s.stage = .mappings then .mappings else .keywords
  return { s with stage, keywords := .keyword (some id) (← k.expression) :: s.keywords }

def argument (s : ArgumentState) : Reader ArgumentState := do
  if ← atMarkedArgument then k.markedArgument s
  else if s.stage = .positional then
    return { s with arguments := (← k.namedExpression) :: s.arguments }
  else refuse

def argumentsFrom : Nat → ArgumentState → Reader ArgumentState
  | 0, _ => refuse
  | fuel + 1, s => do
    let s ← k.argument s
    if ← acceptSymbol "," then
      if ← closes ")" then return s
      argumentsFrom fuel s
    else return s

/-- The arguments of a call, and the bracket after them. -/
def argumentsWith (s : ArgumentState) : Reader (List Expr × List Expr) := do
  let s ← k.argumentsFrom k.fuel s
  symbol ")"
  return (s.arguments.reverse, s.keywords.reverse)

def sliceBound : Reader (Option Expr) := do
  match ← peek with
  | .symbol ":" | .symbol "]" | .symbol "," => return none
  | _ => some <$> k.expression

def sliceFrom (position : Position) (lower : Option Expr) : Reader Expr := do
  let upper ← k.sliceBound
  let step ← if ← acceptSymbol ":" then k.sliceBound else pure none
  return .slice position lower upper step

def slice : Reader Expr := do
  let position ← here
  if ← acceptSymbol ":" then k.sliceFrom position none
  else if ← acceptSymbol "*" then return .starred position (← k.expression)
  else if ← atNameBefore ":=" then k.namedExpression
  else
    let e ← k.expression
    if ← acceptSymbol ":" then k.sliceFrom position (some e) else return e

/-- What stands between the brackets of a subscript. A starred index makes a tuple. -/
def index : Reader Expr := do
  let position ← here
  match ← commaList k.slice (closes "]") k.fuel with
  | ([.starred p e], _) => return .tuple position [.starred p e]
  | ([e], false) => return e
  | (elements, _) => return .tuple position elements

/-! Comprehensions -/

def atClause : Reader Bool := do
  match ← peek, ← peekSecond with
  | .keyword "for", _ => return true
  | .keyword "async", .keyword "for" => return true
  | _, _ => return false

/-- What a loop stores into. -/
def targets : Reader Expr := do
  let targets ← k.sequenceOf (starredOr k.primary k.primary)
  if targets.isTarget then return targets else refuse

def clause : Reader Expr := do
  let asynchronous ← acceptWord "async"
  word "for"
  let target ← k.targets
  word "in"
  let source ← k.disjunction
  let step (found : List Expr) : Reader (Option (List Expr)) := do
    if ← acceptWord "if" then return some ((← k.disjunction) :: found)
    return none
  let conditions ← extend step k.fuel []
  return .clause asynchronous target source conditions.reverse

def clauses : Reader (List Expr) := do
  let step (found : List Expr) : Reader (Option (List Expr)) := do
    if ← atClause then return some ((← k.clause) :: found)
    return none
  return (← extend step k.fuel []).reverse

def isStarred : Expr → Bool
  | .starred .. => true
  | _ => false

/-- What follows an opening parenthesis: a tuple, a generator or a group. -/
def parenthesized (position : Position) : Reader Expr := do
  if ← acceptSymbol ")" then return .tuple position []
  if ← atWord "yield" then
    let e ← k.yieldExpression
    symbol ")"
    return e
  let first ← k.element
  if ← atClause then
    if isStarred first then refuse
    let clauses ← k.clauses
    symbol ")"
    return .comprehension position .generator first clauses
  if ← acceptSymbol "," then
    if ← acceptSymbol ")" then return .tuple position [first]
    let (others, _) ← commaList k.element (closes ")") k.fuel
    symbol ")"
    return .tuple position (first :: others)
  symbol ")"
  if isStarred first then refuse else return first

def bracketed (position : Position) : Reader Expr := do
  if ← acceptSymbol "]" then return .list position []
  let first ← k.element
  if ← atClause then
    if isStarred first then refuse
    let clauses ← k.clauses
    symbol "]"
    return .comprehension position .list first clauses
  if ← acceptSymbol "," then
    if ← acceptSymbol "]" then return .list position [first]
    let (others, _) ← commaList k.element (closes "]") k.fuel
    symbol "]"
    return .list position (first :: others)
  symbol "]"
  return .list position [first]

def entry : Reader Expr := do
  if ← acceptSymbol "**" then return .entry none (← k.bitOr)
  let key ← k.expression
  symbol ":"
  return .entry (some key) (← k.expression)

/-- The rest of a dictionary after its first entry. -/
def entriesAfter (position : Position) (first : Expr) : Reader Expr := do
  match ← atClause, first with
  | true, .entry (some key) value =>
    let clauses ← k.clauses
    symbol "\x7d"
    return .dictComprehension position key value clauses
  | _, _ =>
    if ← acceptSymbol "," then
      if ← acceptSymbol "\x7d" then return .dict position [first]
      let (others, _) ← commaList k.entry (closes "\x7d") k.fuel
      symbol "\x7d"
      return .dict position (first :: others)
    symbol "\x7d"
    return .dict position [first]

def elementsAfter (position : Position) (first : Expr) : Reader Expr := do
  if ← atClause then
    if isStarred first then refuse
    let clauses ← k.clauses
    symbol "\x7d"
    return .comprehension position .set first clauses
  if ← acceptSymbol "," then
    if ← acceptSymbol "\x7d" then return .set position [first]
    let (others, _) ← commaList k.element (closes "\x7d") k.fuel
    symbol "\x7d"
    return .set position (first :: others)
  symbol "\x7d"
  return .set position [first]

def braced (position : Position) : Reader Expr := do
  if ← acceptSymbol "\x7d" then return .dict position []
  if ← atSymbol "**" then
    k.entriesAfter position (← k.entry)
  else
    let elementOnly := (← atSymbol "*") || (← atNameBefore ":=")
    let first ← k.element
    if ← acceptSymbol ":" then
      if elementOnly then refuse
      k.entriesAfter position (.entry (some first) (← k.expression))
    else k.elementsAfter position first

/-- The expression in a hole of an interpolated string, read as if in parentheses. -/
def embedded? (text : List Char) : Option Expr := do
  let tokens ← Lexer.tokens? ('(' :: text ++ [')'])
  let (e, _) ← k.starExpressions.run tokens
  return e

def atom : Reader Expr := do
  let position ← here
  match ← peek with
  | .name .. => return .name position (← identifier)
  | .keyword "True" =>
    advance
    return .constant position (.boolean true)
  | .keyword "False" =>
    advance
    return .constant position (.boolean false)
  | .keyword "None" =>
    advance
    return .constant position .none
  | .number value =>
    advance
    return .constant position (Literal.ofNumeral value)
  | .string _ =>
    match Literal.ofStrings? k.names k.embedded? position (← stringRun k.fuel) with
    | some e => return e
    | none => refuse
  | .symbol "..." =>
    advance
    return .constant position .ellipsis
  | .symbol "(" =>
    advance
    k.parenthesized position
  | .symbol "[" =>
    advance
    k.bracketed position
  | .symbol "\x7b" =>
    advance
    k.braced position
  | _ => refuse

/-- The bracketed arguments of a call; a lone generator needs no brackets of its own. -/
def callArguments : Reader (List Expr × List Expr) := do
  let position ← here
  symbol "("
  if ← acceptSymbol ")" then return ([], [])
  if ← atMarkedArgument then k.argumentsWith {}
  else
    let first ← k.namedExpression
    if ← atClause then
      let clauses ← k.clauses
      symbol ")"
      return ([.comprehension position .generator first clauses], [])
    if ← acceptSymbol ")" then return ([first], [])
    symbol ","
    if ← acceptSymbol ")" then return ([first], [])
    k.argumentsWith { arguments := [first] }

/-- One step outward from an atom. -/
def trailer (position : Position) (e : Expr) : Reader (Option Expr) := do
  if ← acceptSymbol "." then return some (.member position e (← identifier))
  if ← acceptSymbol "[" then
    let index ← k.index
    symbol "]"
    return some (.subscript position e index)
  if ← atSymbol "(" then
    let (arguments, keywords) ← k.callArguments
    return some (.call position e arguments keywords)
  return none

def primaryOf : Reader Expr := do
  let position ← here
  extend (k.trailer position) k.fuel (← k.atom)

def power : Reader Expr := do
  let position ← here
  let base ←
    if ← acceptWord "await" then .await position <$> k.primaryOf
    else k.primaryOf
  if ← acceptSymbol "**" then return .binary position .power base (← k.factor)
  return base

def signs : List (String × UnaryOp) := [("+", .plus), ("-", .minus), ("~", .invert)]

def factorOf : Reader Expr := do
  let position ← here
  match ← operator? signs with
  | some op => return .unary position op (← k.factor)
  | none => k.power

end Knot

section

variable (names : Escapes.CharacterNames)

mutual

def expression : Nat → Reader Expr
  | 0 => refuse
  | n + 1 => .later fun _ => Knot.expressionOf ⟨names, n, expression n, inversion n, factor n, primary n⟩

def inversion : Nat → Reader Expr
  | 0 => refuse
  | n + 1 => .later fun _ => Knot.inversionOf ⟨names, n, expression n, inversion n, factor n, primary n⟩

def factor : Nat → Reader Expr
  | 0 => refuse
  | n + 1 => .later fun _ => Knot.factorOf ⟨names, n, expression n, inversion n, factor n, primary n⟩

def primary : Nat → Reader Expr
  | 0 => refuse
  | n + 1 => .later fun _ => Knot.primaryOf ⟨names, n, expression n, inversion n, factor n, primary n⟩

end

def knot (fuel : Nat) : Knot :=
  ⟨names, fuel, expression names fuel, inversion names fuel, factor names fuel, primary names fuel⟩

/-- A whole text as an expression, or several as a tuple; empty lines may follow. -/
def wholeExpression (fuel : Nat) : Reader Expr := do
  let e ← (knot names fuel).sequenceOf (expression names fuel)
  let _ ← accept .newline
  expect .endMarker
  return e

end

end Crosswalk.Code.Grammar
