import Crosswalk.Code.Expr
import Crosswalk.Code.Literal.Escapes

/-! Interpolated strings: text with holes in braces. A hole holds an expression, and may show its own
text, name a conversion, and carry a format that is an interpolated string itself; formats nest once.
What an expression is, is left to the reader of expressions. -/

namespace Crosswalk.Code.Interpolation

open Text (CodePoint)

inductive Piece
  | text (value : List CodePoint)
  | hole (value : Expr)

/-- How a run of text ended. -/
inductive Ending
  | doubled
  | stopped
  deriving DecidableEq

structure Run where
  body : List Char
  ending : Ending
  rest : List Char

def Run.push (c : Char) (r : Run) : Run := { r with body := c :: r.body }

/-- A brace ends the run. At the outer level two of a kind stand for one. -/
def brace? (nested : Bool) (c : Char) (rest : List Char) : Option Run :=
  if nested then some ⟨[], .stopped, c :: rest⟩
  else if rest.head? = some c then some ⟨[c], .doubled, rest.drop 1⟩
  else if c = '\x7d' then none
  else some ⟨[], .stopped, c :: rest⟩

def isBrace (c : Char) : Bool := c == '\x7b' || c == '\x7d'

/-- A run of text. The braces around the name of a character are not braces of the string; `inName` says
that such a name has begun and not ended. -/
def textRun (raw nested inName : Bool) : List Char → Option Run
  | [] => some ⟨[], .stopped, []⟩
  | [c] => if isBrace c && !inName then brace? nested c [] else some ⟨[c], .stopped, []⟩
  | c :: d :: rest =>
    if inName then (textRun raw nested (c != '\x7d') (d :: rest)).map (·.push c)
    else if isBrace c then brace? nested c (d :: rest)
    else if c = '\\' ∧ ¬ raw then
      if isBrace d then (brace? nested d rest).map (·.push c)
      else
        let named := d == 'N' && rest.head? == some '\x7b'
        (textRun raw nested named rest).map fun r => (r.push d).push c
    else (textRun raw nested false (d :: rest)).map (·.push c)

/-! Finding the end of an expression -/

/-- Where the scan stands: inside a string, inside brackets, or over characters already judged. -/
structure Scan where
  skip : Nat := 0
  quote : Option (Char × Bool) := none
  brackets : List Char := []

def isTripled (c : Char) (rest : List Char) : Bool := [c, c].isPrefixOf rest

def closes (opening closing : Char) : Bool :=
  (opening == '(' && closing == ')') || (opening == '[' && closing == ']') ||
    (opening == '\x7b' && closing == '\x7d')

/-- What the scan makes of a character: it goes on, it stops before it, or there is an error. -/
inductive Verdict
  | go (scan : Scan)
  | stop
  | error

def insideString (s : Scan) (quote c : Char) (triple : Bool) (rest : List Char) : Verdict :=
  if c ≠ quote then .go s
  else if ¬ triple then .go { s with quote := none }
  else if isTripled c rest then .go { s with quote := none, skip := 2 }
  else .go s

def bracketLimit : Nat := 200

def outsideString (s : Scan) (c : Char) (rest : List Char) : Verdict :=
  if c = '\'' ∨ c = '"' then
    if isTripled c rest then .go { s with quote := some (c, true), skip := 2 }
    else .go { s with quote := some (c, false) }
  else if c = '[' ∨ c = '\x7b' ∨ c = '(' then
    if s.brackets.length < bracketLimit then .go { s with brackets := c :: s.brackets } else .error
  else if c = '#' then .error
  else if s.brackets.isEmpty ∧ "!:\x7d=<>".toList.contains c then
    if "!=<>".toList.contains c ∧ rest.head? = some '=' then .go { s with skip := 1 }
    else if c = '<' ∨ c = '>' then .go s
    else .stop
  else if c = ']' ∨ c = '\x7d' ∨ c = ')' then
    match s.brackets with
    | b :: outer => if closes b c then .go { s with brackets := outer } else .error
    | [] => .error
  else .go s

def verdict (s : Scan) (c : Char) (rest : List Char) : Verdict :=
  match s.skip with
  | n + 1 => .go { s with skip := n }
  | 0 =>
    if c = '\\' then .error
    else match s.quote with
      | some (quote, triple) => insideString s quote c triple rest
      | none => outsideString s c rest

/-- The text of an expression, and what follows from the character that ends it. -/
def expressionText (s : Scan) : List Char → Option (List Char × List Char)
  | [] => none
  | c :: rest =>
    match verdict s c rest with
    | .error => none
    | .stop => some ([], c :: rest)
    | .go s => (expressionText s rest).map fun (text, after) => (c :: text, after)

def isSpace (c : Char) : Bool := [' ', '\t', '\n', '\x0c'].contains c

def isWideSpace (c : Char) : Bool := isSpace c || c == '\x0b' || c == '\r'

/-! Holes -/

/-- The text an expression shows of itself: its own, the equals sign and the blanks after it. -/
def shownText? (text rest : List Char) : Option (List Char) × List Char :=
  match rest with
  | '=' :: after =>
    let blanks := after.takeWhile isWideSpace
    (some (text ++ '=' :: blanks), after.drop blanks.length)
  | _ => (none, rest)

def conversions : List (Char × Conversion) := [('s', .str), ('r', .repr), ('a', .ascii)]

def conversion? : List Char → Option (Option Conversion × List Char)
  | '!' :: c :: rest => (conversions.lookup c).map fun conversion => (some conversion, rest)
  | ['!'] => none
  | rest => some (none, rest)

def pieceExpr : Piece → Expr
  | .text value => .constant {} (.text value false)
  | .hole value => value

/-- Neighbouring texts are one text, and an empty one is none. -/
def join : List Piece → List Piece
  | [] => []
  | .hole e :: rest => .hole e :: join rest
  | .text a :: rest =>
    match join rest with
    | .text b :: rest => .text (a ++ b) :: rest
    | joined => if a.isEmpty then joined else .text a :: joined

/-- Two levels of holes: those of the string and those of their formats. -/
def depthLimit : Nat := 2

section

variable (names : Escapes.CharacterNames)

/-- The pieces up to the end, or up to the brace that ends a format. -/
def pieces (expression? : List Char → Option Expr) (raw : Bool) :
    Nat → Nat → List Char → Option (List Piece × List Char)
  | 0, _, _ => none
  | fuel + 1, depth, s => do
    let run ← textRun raw (0 < depth) false s
    let text ← Escapes.text? names raw run.body
    match run.ending, run.rest with
    | .doubled, rest =>
      let (more, rest) ← pieces expression? raw fuel depth rest
      return (.text text :: more, rest)
    | .stopped, '\x7b' :: rest =>
      if depthLimit ≤ depth then none
      let (source, rest) ← expressionText {} rest
      if source.all isSpace then none
      let value ← expression? source
      let (shown, rest) := shownText? source rest
      let (conversion, rest) ← conversion? rest
      let (format, rest) ← match rest with
        | ':' :: rest => do
          let (format, rest) ← pieces expression? raw fuel (depth + 1) rest
          pure (some (Expr.interpolated {} ((join format).map pieceExpr)), rest)
        | _ => pure (none, rest)
      let rest ← match rest with
        | '\x7d' :: rest => some rest
        | _ => none
      let conversion :=
        if shown.isSome && format.isNone && conversion.isNone then some .repr else conversion
      let (more, rest) ← pieces expression? raw fuel depth rest
      return (.text text :: .text ((shown.getD []).map Char.toNat) ::
        .hole (.hole value conversion format) :: more, rest)
    | .stopped, rest => return ([.text text], rest)

def pieces? (expression? : List Char → Option Expr) (raw : Bool) (body : List Char) :
    Option (List Piece) := do
  let (found, rest) ← pieces names expression? raw (2 * body.length + 2) 0 body
  if rest.isEmpty then some found else none

end

end Crosswalk.Code.Interpolation
