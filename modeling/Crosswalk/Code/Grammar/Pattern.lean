import Crosswalk.Code.Grammar.Expression

/-! Reading the patterns of a match statement. Nothing of them is kept. -/

namespace Crosswalk.Code.Grammar

/-- A name that a pattern may bind. -/
def captureName : Reader Unit := do
  if (← peek) = .name "_" rfl then refuse
  let _ ← identifier
  match ← peek with
  | .symbol text => if [".", "(", "="].contains text then refuse else return
  | _ => return

def isImaginary : Numeral → Bool
  | .imaginary .. => true
  | _ => false

def numeral : Reader Numeral := do
  match ← peek with
  | .number value =>
    advance
    return value
  | _ => refuse

/-- A number with a sign before it, or the sum of a real and an imaginary one. -/
def numberPattern : Reader Unit := do
  let _ ← acceptSymbol "-"
  let first ← numeral
  if (← acceptSymbol "+") || (← acceptSymbol "-") then
    if isImaginary first ∨ ¬ isImaginary (← numeral) then refuse

/-- A literal that a pattern compares with; none if something else follows. -/
def literalPattern (k : Knot) : Reader Bool := do
  match ← peek with
  | .number _ | .symbol "-" =>
    numberPattern
    return true
  | .string _ =>
    let _ ← k.atom
    return true
  | .keyword "None" | .keyword "True" | .keyword "False" =>
    advance
    return true
  | _ => return false

/-- A name and the names after its dots; the answer says whether there were any. -/
def dottedName (fuel : Nat) : Reader Bool := do
  let _ ← identifier
  let step (_ : Bool) : Reader (Option Bool) := do
    if ← acceptSymbol "." then
      let _ ← identifier
      return some true
    return none
  extend step fuel false

/-! Patterns in terms of the pattern reader inside them. -/

section

variable (k : Knot) (pattern : Reader Unit)

/-- A pattern, or a star before a name; the answer says which. -/
def maybeStarPattern : Reader Bool := do
  if ← acceptSymbol "*" then
    if ← accept (.name "_" rfl) then return true
    captureName
    return true
  pattern
  return false

def keyPattern : Reader Unit := do
  if ← literalPattern k then return
  if ← dottedName k.fuel then return else refuse

def mappingItem (closed : Bool) : Reader Bool := do
  if closed then refuse
  if ← acceptSymbol "**" then
    captureName
    return true
  keyPattern k
  symbol ":"
  pattern
  return false

def mappingItems : Nat → Bool → Reader Unit
  | 0, _ => refuse
  | fuel + 1, closed => do
    if ← acceptSymbol "\x7d" then return
    let closed ← mappingItem k pattern closed
    if ← acceptSymbol "," then mappingItems fuel closed else symbol "\x7d"

/-- The arguments of a class pattern; those with names come last. -/
def classItems : Nat → Bool → Reader Unit
  | 0, _ => refuse
  | fuel + 1, namedOnly => do
    if ← acceptSymbol ")" then return
    let byName ← Knot.atNameBefore "="
    if byName then
      advance
      advance
    else if namedOnly then refuse
    pattern
    if ← acceptSymbol "," then classItems fuel byName else symbol ")"

def namePattern : Reader Unit := do
  if ← accept (.name "_" rfl) then return
  let _ ← dottedName k.fuel
  if ← acceptSymbol "(" then classItems pattern k.fuel false
  else if ← atSymbol "=" then refuse

def closedPattern : Reader Unit := do
  if ← literalPattern k then return
  match ← peek with
  | .name .. => namePattern k pattern
  | .symbol "(" =>
    advance
    if ← acceptSymbol ")" then return
    let star ← maybeStarPattern pattern
    if ← acceptSymbol "," then
      if ← acceptSymbol ")" then return
      let _ ← commaList (maybeStarPattern pattern) (closes ")") k.fuel
      symbol ")"
    else
      symbol ")"
      if star then refuse
  | .symbol "[" =>
    advance
    if ← acceptSymbol "]" then return
    let _ ← commaList (maybeStarPattern pattern) (closes "]") k.fuel
    symbol "]"
  | .symbol "\x7b" =>
    advance
    mappingItems k pattern k.fuel false
  | _ => refuse

def patternOf : Reader Unit := do
  closedPattern k pattern
  let step (_ : Unit) : Reader (Option Unit) := do
    if ← acceptSymbol "|" then
      closedPattern k pattern
      return some ()
    return none
  extend step k.fuel ()
  if ← acceptWord "as" then captureName

end

section

variable (names : Escapes.CharacterNames)

def pattern : Nat → Reader Unit
  | 0 => refuse
  | n + 1 => .later fun _ => patternOf (knot names n) (pattern n)

/-- The patterns of a case, without brackets around several. -/
def casePatterns (fuel : Nat) : Reader Unit := do
  let items ← commaList (maybeStarPattern (pattern names fuel)) Knot.sequenceEnds fuel
  match items with
  | ([true], false) => refuse
  | _ => return

end

end Crosswalk.Code.Grammar
