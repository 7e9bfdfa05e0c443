import Crosswalk.Text.Compatibility
import Crosswalk.Text.IdentifierChars

/-! Tokens of source text. A position counts lines and bytes of a line from one. -/

namespace Crosswalk.Code

structure Position where
  line : Nat := 0
  column : Nat := 0
  deriving DecidableEq, Repr

inductive Numeral
  | integer (value : Nat)
  | real (digits : Nat) (exponent : Int)
  | imaginary (digits : Nat) (exponent : Int)
  deriving DecidableEq, Repr

/-- A string as written: what stands before and between its quotes. -/
structure StringLiteral where
  raw : Bool
  bytes : Bool
  formatted : Bool
  marked : Bool
  body : List Char
  deriving DecidableEq, Repr

/-- Whether a text is the spelling of a name. -/
def isSpelling (word : String) : Bool :=
  match Text.codePoints word with
  | [] => false
  | c :: rest => Text.isIdentifierStart c && rest.all Text.isIdentifierPart

inductive Lexeme
  | name (spelling : String) (valid : isSpelling spelling = true)
  | keyword (word : String)
  | number (value : Numeral)
  | string (literal : StringLiteral)
  | symbol (text : String)
  | newline
  | indent
  | dedent
  | endMarker
  deriving DecidableEq, Repr

structure Token where
  lexeme : Lexeme
  position : Position
  deriving DecidableEq, Repr

def keywords : List String :=
  ["False", "None", "True", "and", "as", "assert", "async", "await", "break", "class", "continue",
   "def", "del", "elif", "else", "except", "finally", "for", "from", "global", "if", "import", "in",
   "is", "lambda", "nonlocal", "not", "or", "pass", "raise", "return", "try", "while", "with",
   "yield"]

def isKeyword (word : String) : Bool := keywords.contains word

/-- Names are the same if their compatible forms are. -/
def canonicalName (spelling : String) : String :=
  Text.ofCodePoints (Text.compatible (Text.codePoints spelling))

/-- Whether a text is a name, which some spelling has as its compatible form. -/
def IsName (name : String) : Prop :=
  ∃ spelling, isSpelling spelling = true ∧ canonicalName spelling = name

structure Name where
  text : String
  isName : IsName text
  deriving DecidableEq, Repr

end Crosswalk.Code
