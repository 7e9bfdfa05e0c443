import Crosswalk.Code.Grammar.Statement
import Crosswalk.Text.Utf8

/-! Source text as a whole: a module, or one expression. What the grammar refuses has no reading, and
why is not told. The characters that strings may name are given. -/

namespace Crosswalk.Code

/-- A file may leave out the end of its last line. -/
def closeLastLine (text : List Char) : List Char :=
  match text.getLast? with
  | none | some '\n' => text
  | some _ => text ++ ['\n']

section

variable (names : Escapes.CharacterNames)

/-- The top-level statements of a module. -/
def parseModule? (source : String) : Option (List Statement) := do
  let text := closeLastLine (Text.Utf8.unifyLineEnds source.toList)
  let (body, _) ← (Grammar.wholeModule names (text.length + 2)).run (← Lexer.tokens? text)
  return body

def parseExpression? (source : String) : Option Expr := do
  let text := Text.Utf8.unifyLineEnds source.toList
  let (e, _) ← (Grammar.wholeExpression names (text.length + 2)).run (← Lexer.tokens? text)
  return e

end

end Crosswalk.Code
