import Crosswalk.Code.Grammar.Pattern
import Crosswalk.Code.Statement

/-! Reading statements. Blocks lead back into statements through a reader with less fuel. -/

namespace Crosswalk.Code.Grammar

/-! Statements of one line -/

section

variable (k : Knot)

/-- Whether the statement ends here. -/
def atLineEnd : Reader Bool := do
  match ← peek with
  | .newline | .symbol ";" => return true
  | _ => return false

def assignments : Nat → Expr → Reader Unit
  | 0, _ => refuse
  | fuel + 1, target => do
    symbol "="
    if ¬ target.isTarget then refuse
    if ← atWord "yield" then
      let _ ← k.yieldExpression
    else
      let value ← k.starExpressions
      if ← atSymbol "=" then assignments fuel value

def augmented : List String :=
  ["+=", "-=", "*=", "/=", "//=", "%=", "@=", "&=", "|=", "^=", ">>=", "<<=", "**="]

def fieldStatement (position : Position) (target : Expr) : Reader Statement := do
  if ¬ target.isPlace then refuse
  symbol ":"
  let typing ← k.expression
  let hasValue ← acceptSymbol "="
  if hasValue then
    let _ ← k.yieldOr k.starExpressions
  return .field ⟨position, target, typing, hasValue⟩

def expressionStatement : Reader Statement := do
  let position ← here
  let first ← k.starExpressions
  match ← peek with
  | .symbol ":" => fieldStatement k position first
  | .symbol "=" =>
    assignments k k.fuel first
    return .other position
  | .symbol text =>
    if augmented.contains text then
      if ¬ first.isPlace then refuse
      advance
      let _ ← k.yieldOr k.starExpressions
    return .other position
  | _ => return .other position

def nameList : Reader Unit := do
  let step (_ : Unit) : Reader (Option Unit) := do
    if ← acceptSymbol "," then
      let _ ← identifier
      return some ()
    return none
  let _ ← identifier
  extend step k.fuel ()

def asName : Reader Unit := do
  if ← acceptWord "as" then
    let _ ← identifier

def importStatement : Reader Unit := do
  let item : Reader Unit := do
    let _ ← dottedName k.fuel
    asName
  let step (_ : Unit) : Reader (Option Unit) := do
    if ← acceptSymbol "," then
      item
      return some ()
    return none
  item
  extend step k.fuel ()

def importedName : Reader Unit := do
  let _ ← identifier
  asName

/-- The dots before a module name; the answer says whether there are any. -/
def leadingDots : Reader Bool := do
  let step (_ : Bool) : Reader (Option Bool) := do
    if (← acceptSymbol ".") || (← acceptSymbol "...") then return some true
    return none
  extend step k.fuel false

def fromStatement : Reader Unit := do
  let dots ← leadingDots k
  if ¬ (dots && (← atWord "import")) then
    let _ ← dottedName k.fuel
  word "import"
  if ← acceptSymbol "*" then return
  if ← acceptSymbol "(" then
    let _ ← commaList importedName (closes ")") k.fuel
    symbol ")"
  else
    let (_, comma) ← commaList importedName atLineEnd k.fuel
    if comma then refuse

def deleted : Reader Unit := do
  let targets ← k.sequenceOf k.primary
  if ¬ targets.isDeletable then refuse

def raised : Reader Unit := do
  if ← atLineEnd then return
  let _ ← k.expression
  if ← acceptWord "from" then
    let _ ← k.expression

def asserted : Reader Unit := do
  let _ ← k.expression
  if ← acceptSymbol "," then
    let _ ← k.expression

def simpleStatement : Reader Statement := do
  let position ← here
  let done (r : Reader Unit) : Reader Statement := do
    advance
    r
    return .other position
  match ← peek with
  | .keyword "pass" | .keyword "break" | .keyword "continue" => done (pure ())
  | .keyword "return" =>
    done do
      if ← atLineEnd then return
      let _ ← k.starExpressions
  | .keyword "raise" => done (raised k)
  | .keyword "global" | .keyword "nonlocal" => done (nameList k)
  | .keyword "del" => done (deleted k)
  | .keyword "assert" => done (asserted k)
  | .keyword "import" => done (importStatement k)
  | .keyword "from" => done (fromStatement k)
  | .keyword "yield" =>
    let _ ← k.yieldExpression
    return .other position
  | _ => expressionStatement k

def simpleLine : Nat → Reader (List Statement)
  | 0 => refuse
  | fuel + 1 => do
    let first ← simpleStatement k
    if ← acceptSymbol ";" then
      if ← accept .newline then return [first]
      return first :: (← simpleLine fuel)
    expect .newline
    return [first]

end

/-! Compound statements -/

section

variable (k : Knot) (statement : Reader (List Statement))

def statementsUntil (last : Lexeme) : Nat → Reader (List Statement)
  | 0 => refuse
  | fuel + 1 => do
    let first ← statement
    if (← peek) = last then return first
    return first ++ (← statementsUntil last fuel)

def block : Reader (List Statement) := do
  symbol ":"
  if ← accept .newline then
    expect .indent
    let body ← statementsUntil statement .dedent k.fuel
    expect .dedent
    return body
  simpleLine k k.fuel

def plainBlock : Reader Unit := do
  let _ ← block k statement

/-- The block of a word, if the word is there; the answer says so. -/
def blockAfter (keyword : String) : Reader Bool := do
  if ← acceptWord keyword then
    plainBlock k statement
    return true
  return false

def branches : Reader Unit := do
  let branch : Reader Unit := do
    let _ ← k.namedExpression
    plainBlock k statement
  let step (_ : Unit) : Reader (Option Unit) := do
    if ← acceptWord "elif" then
      branch
      return some ()
    return none
  branch
  extend step k.fuel ()
  let _ ← blockAfter k statement "else"

def whileLoop : Reader Unit := do
  let _ ← k.namedExpression
  plainBlock k statement
  let _ ← blockAfter k statement "else"

def forLoop : Reader Unit := do
  let _ ← k.targets
  word "in"
  let _ ← k.starExpressions
  plainBlock k statement
  let _ ← blockAfter k statement "else"

def withItem : Reader Unit := do
  let _ ← k.expression
  if ← acceptWord "as" then
    let target ← Knot.starredOr k.primary k.primary
    if ¬ target.isTarget then refuse

def withItems : Reader Unit := do
  let bracketed : Reader Unit := do
    symbol "("
    let _ ← commaList (withItem k) (closes ")") k.fuel
    symbol ")"
    if ¬ (← atSymbol ":") then refuse
  match ← attempt bracketed with
  | some () => return
  | none =>
    let (_, comma) ← commaList (withItem k) (closes ":") k.fuel
    if comma then refuse

def withStatement : Reader Unit := do
  withItems k
  plainBlock k statement

/-- The handlers of a try statement, all with a star or none; the answer says whether there are
any. -/
def handlers : Nat → Option Bool → Reader Bool
  | 0, _ => refuse
  | fuel + 1, star => do
    if ← acceptWord "except" then
      let starred ← acceptSymbol "*"
      if star = some (!starred) then refuse
      if starred || !(← atSymbol ":") then
        let _ ← k.expression
        asName
      plainBlock k statement
      handlers fuel (some starred)
    else return star.isSome

def tryStatement : Reader Unit := do
  plainBlock k statement
  if ← handlers k statement k.fuel none then
    let _ ← blockAfter k statement "else"
    let _ ← blockAfter k statement "finally"
  else if ¬ (← blockAfter k statement "finally") then refuse

def functionAfter : Reader Unit := do
  word "def"
  let _ ← identifier
  symbol "("
  let typing : Reader Unit := do
    if ← acceptSymbol ":" then
      let _ ← k.expression
  let starTyping : Reader Unit := do
    if ← acceptSymbol ":" then
      let _ ← k.starExpression
  let _ ← k.parameters typing starTyping (closes ")")
  symbol ")"
  if ← acceptSymbol "->" then
    let _ ← k.expression
  plainBlock k statement

def classAfter (decorators : List Expr) : Reader Statement := do
  let position ← here
  word "class"
  let name ← identifier
  if ← acceptSymbol "(" then
    if ¬ (← acceptSymbol ")") then
      let _ ← k.argumentsWith {}
  let body ← block k statement
  return .record ⟨name.text, position, decorators, body.filterMap Statement.field?, name.isName⟩

def decoratorList : Nat → Reader (List Expr)
  | 0 => refuse
  | fuel + 1 => do
    if ← acceptSymbol "@" then
      let decorator ← k.namedExpression
      expect .newline
      return decorator :: (← decoratorList fuel)
    else return []

/-- A definition and its decorators. -/
def definition : Reader Statement := do
  let decorators ← decoratorList k k.fuel
  let position ← here
  match ← peek with
  | .keyword "class" => classAfter k statement decorators
  | .keyword "async" =>
    advance
    functionAfter k statement
    return .other position
  | _ =>
    functionAfter k statement
    return .other position

def asyncStatement : Reader Unit := do
  word "async"
  match ← peek with
  | .keyword "for" =>
    advance
    forLoop k statement
  | .keyword "with" =>
    advance
    withStatement k statement
  | _ => functionAfter k statement

/-! Match statements. Their words are names elsewhere, so a line is read as one only if its end and
the line after it fit. -/

def matchHeader : Reader Unit := do
  expect (.name "match" rfl)
  let elements ← commaList k.element (closes ":") k.fuel
  match elements with
  | ([.starred ..], false) => refuse
  | _ => pure ()
  symbol ":"
  expect .newline
  expect .indent

def caseBlock : Reader Unit := do
  expect (.name "case" rfl)
  casePatterns k.names k.fuel
  if ← acceptWord "if" then
    let _ ← k.namedExpression
  plainBlock k statement

def caseBlocks : Nat → Reader Unit
  | 0 => refuse
  | fuel + 1 => do
    caseBlock k statement
    if ← accept .dedent then return else caseBlocks fuel

def statementOf : Reader (List Statement) := do
  let position ← here
  let after (r : Reader Unit) : Reader (List Statement) := do
    advance
    r
    return [.other position]
  match ← peek with
  | .keyword "if" => after (branches k statement)
  | .keyword "while" => after (whileLoop k statement)
  | .keyword "for" => after (forLoop k statement)
  | .keyword "with" => after (withStatement k statement)
  | .keyword "try" => after (tryStatement k statement)
  | .symbol "@" | .keyword "class" | .keyword "def" => return [← definition k statement]
  | .keyword "async" =>
    asyncStatement k statement
    return [.other position]
  | .name "match" _ =>
    match ← attempt (matchHeader k) with
    | some () =>
      caseBlocks k statement k.fuel
      return [.other position]
    | none => simpleLine k k.fuel
  | _ => simpleLine k k.fuel

end

section

variable (names : Escapes.CharacterNames)

def statement : Nat → Reader (List Statement)
  | 0 => refuse
  | n + 1 => .later fun _ => statementOf (knot names n) (statement n)

def wholeModule (fuel : Nat) : Reader (List Statement) := do
  if ← accept .endMarker then return []
  statementsUntil (statement names fuel) .endMarker fuel

end

end Crosswalk.Code.Grammar
