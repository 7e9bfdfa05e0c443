import Crosswalk.Text.CodePoints
import Crosswalk.Text.IdentifierChars
import Crosswalk.Text.Lowercase

/-! Names in lower case, with an underscore where a new word begins: before a capital that follows a
small letter or a digit, and before the last of several capitals if a small letter follows. Only letters
of ASCII make a boundary. -/

namespace Crosswalk.Naming

def isSmall (c : Char) : Bool := 'a' ≤ c && c ≤ 'z'
def isCapital (c : Char) : Bool := 'A' ≤ c && c ≤ 'Z'
def isDigit (c : Char) : Bool := '0' ≤ c && c ≤ '9'

/-- Whether a word begins between two characters, of which the second has a third after it. -/
def isBoundary (before c : Char) (after : Option Char) : Bool :=
  isCapital c && (isSmall before || isDigit before ||
    (isCapital before && (after.map isSmall).getD false))

def separated : Option Char → List Char → List Char
  | _, [] => []
  | before, c :: rest =>
    let boundary := match before with
      | some b => isBoundary b c rest.head?
      | none => false
    (if boundary then ['_', c] else [c]) ++ separated (some c) rest

def snakeCase (identifier : String) : String :=
  Text.lowercase (String.ofList (separated none identifier.toList))

end Crosswalk.Naming
