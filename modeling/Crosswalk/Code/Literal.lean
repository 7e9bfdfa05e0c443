import Crosswalk.Code.Literal.Interpolation

/-! What numerals and strings stand for. Strings that follow one another are one string; bytes do not
mix with text, and one interpolated string makes the whole interpolated. -/

namespace Crosswalk.Code.Literal

open Text (CodePoint)

def ofNumeral : Numeral → Constant
  | .integer n => .integer n
  | .real digits exponent => .real (.ofDecimal digits exponent)
  | .imaginary digits exponent => .imaginary (.ofDecimal digits exponent)

def allBytes? (literals : List StringLiteral) : Option (List Nat) :=
  (literals.mapM fun l => Escapes.bytes? l.raw l.body).map List.flatten

section

variable (names : Escapes.CharacterNames)

def pieces? (expression? : List Char → Option Expr) (l : StringLiteral) :
    Option (List Interpolation.Piece) :=
  if l.formatted then Interpolation.pieces? names expression? l.raw l.body
  else (Escapes.text? names l.raw l.body).map fun t => [.text t]

def ofStrings? (expression? : List Char → Option Expr) (position : Position)
    (literals : List StringLiteral) : Option Expr :=
  if literals.all (·.bytes) then
    (allBytes? literals).map fun b => .constant position (.bytes b)
  else if literals.any (·.bytes) then none
  else do
    let found := Interpolation.join (← literals.mapM (pieces? names expression?)).flatten
    if literals.any (·.formatted) then
      return .interpolated position (found.map Interpolation.pieceExpr)
    let text := found.flatMap fun
      | .text t => t
      | .hole _ => []
    return .constant position (.text text ((literals.head?.map (·.marked)).getD false))

end

end Crosswalk.Code.Literal
