import Crosswalk.Code.Token.Numeral

/-! Cutting source text into tokens. Indentation is measured twice, with wide and with narrow tabs,
and both have to agree; inside brackets line ends and indentation count for nothing. Text that no
token can begin, a bracket that is not closed, and a string that is not closed are refused. -/

namespace Crosswalk.Code.Lexer

open Text (utf8Width)

structure Cursor where
  rest : List Char
  position : Position

def Position.after (p : Position) (c : Char) : Position :=
  if c = '\n' then ⟨p.line + 1, 1⟩ else ⟨p.line, p.column + utf8Width c.toNat⟩

def Cursor.drop (c : Cursor) : Nat → Cursor
  | 0 => c
  | n + 1 =>
    match c.rest with
    | [] => c
    | x :: rest => Cursor.drop ⟨rest, Position.after c.position x⟩ n

def Cursor.skipWhile (c : Cursor) (p : Char → Bool) : Cursor :=
  c.drop (c.rest.takeWhile p).length

/-- Moves on to a later part of the same text. -/
def Cursor.upTo (c : Cursor) (rest : List Char) : Cursor := c.drop (c.rest.length - rest.length)

structure State where
  cursor : Cursor
  lineStart : Bool
  brackets : List Char
  indents : List (Nat × Nat)

/-! Indentation -/

structure Margin where
  wide : Nat
  narrow : Nat

/-- The margin of a line. After a joined line the margin of the first line counts. -/
def margin (m : Margin) (first : Option Margin) : List Char → Option (Margin × List Char)
  | ' ' :: rest => margin ⟨m.wide + 1, m.narrow + 1⟩ first rest
  | '\t' :: rest => margin ⟨(m.wide / 8 + 1) * 8, m.narrow + 1⟩ first rest
  | '\x0c' :: rest => margin ⟨0, 0⟩ first rest
  | '\\' :: '\n' :: c :: rest =>
    let first := match first with
      | some f => some f
      | none => if m.wide = 0 then none else some m
    margin m first (c :: rest)
  | '\\' :: _ => none
  | rest =>
    match first with
    | some f => some (⟨f.wide, f.wide⟩, rest)
    | none => some (m, rest)

def indentLimit : Nat := 100

/-- The marks before a line of a margin, and the margins open after it. -/
def indentation (m : Margin) : List (Nat × Nat) → Option (List Lexeme × List (Nat × Nat))
  | [] => none
  | (wide, narrow) :: outer =>
    if m.wide = wide then
      if m.narrow = narrow then some ([], (wide, narrow) :: outer) else none
    else if wide < m.wide then
      if narrow < m.narrow ∧ outer.length + 2 ≤ indentLimit then
        some ([.indent], (m.wide, m.narrow) :: (wide, narrow) :: outer)
      else none
    else
      (indentation m outer).bind fun (marks, open') =>
        if marks.contains .indent then none else some (.dedent :: marks, open')

/-! Strings -/

structure Opening where
  raw : Bool
  bytes : Bool
  formatted : Bool
  marked : Bool

def openings : List String :=
  ["", "r", "u", "b", "f", "br", "rb", "fr", "rf"]

def lowerAscii (s : List Char) : List Char := s.map Char.toLower

def opening? (mark : List Char) : Option Opening :=
  let lowered := lowerAscii mark
  if openings.contains (String.ofList lowered) then
    some ⟨lowered.contains 'r', lowered.contains 'b', lowered.contains 'f', mark = ['u']⟩
  else none

/-- The text up to the closing quotes, and what follows them. A backslash covers the next
character. -/
def stringBody (quote : Char) (triple : Bool) : List Char → Option (List Char × List Char)
  | [] => none
  | '\\' :: c :: rest =>
    (stringBody quote triple rest).map fun (body, after) => ('\\' :: c :: body, after)
  | c :: rest =>
    if c == quote && !triple then some ([], rest)
    else if c == quote && [quote, quote].isPrefixOf rest then some ([], rest.drop 2)
    else if c == '\n' && !triple then none
    else (stringBody quote triple rest).map fun (body, after) => (c :: body, after)

def string? (opening : Opening) (quote : Char) (rest : List Char) :
    Option (StringLiteral × List Char) := do
  let triple := [quote, quote].isPrefixOf rest
  let (body, after) ← stringBody quote triple (if triple then rest.drop 2 else rest)
  return (⟨opening.raw, opening.bytes, opening.formatted, opening.marked, body⟩, after)

/-! Names and symbols -/

def beginsName (c : Char) : Bool := c.isAlpha || c == '_' || 0x80 ≤ c.toNat

def name? (spelling : List Char) : Option Lexeme :=
  let word := String.ofList spelling
  if valid : isSpelling word = true then
    some (if isKeyword word then .keyword word else .name word valid)
  else none

def symbols : List String :=
  ["...", "**=", "//=", "<<=", ">>=",
   "!=", "%=", "&=", "**", "*=", "+=", "-=", "->", "//", "/=", ":=", "<<", "<=", "==", ">=", ">>",
   "@=", "^=", "|=",
   "%", "&", "(", ")", "*", "+", ",", "-", ".", "/", ":", ";", "<", "=", ">", "@", "[", "]", "^",
   "\x7b", "|", "\x7d", "~"]

def symbol? (rest : List Char) : Option String :=
  if "<>".toList.isPrefixOf rest then none
  else symbols.find? fun s => s.toList.isPrefixOf rest

def closing? (c : Char) : Option Char :=
  if c = '(' then some ')' else if c = '[' then some ']' else if c = '\x7b' then some '\x7d'
  else none

def bracketLimit : Nat := 200

/-- The brackets to close after a symbol, the innermost first. -/
def bracketsAfter (symbol : String) (brackets : List Char) : Option (List Char) :=
  match symbol.toList with
  | [c] =>
    match closing? c with
    | some d => if brackets.length < bracketLimit then some (d :: brackets) else none
    | none =>
      if c = ')' ∨ c = ']' ∨ c = '\x7d' then
        match brackets with
        | b :: outer => if b = c then some outer else none
        | [] => none
      else some brackets
  | _ => some brackets

/-! One step -/

def isSpace (c : Char) : Bool := c == ' ' || c == '\t' || c == '\x0c'

def Cursor.skipComment (c : Cursor) : Cursor :=
  match c.rest with
  | '#' :: _ => c.skipWhile (· != '\n')
  | _ => c

def startLine (s : State) : Option (List Token × State) := do
  let (m, rest) ← margin ⟨0, 0⟩ none s.cursor.rest
  let cursor := s.cursor.upTo rest
  match rest with
  | '\n' :: _ => return ([], { s with cursor := cursor.drop 1 })
  | '#' :: _ =>
    let cursor := cursor.skipComment
    if cursor.rest.isEmpty then return ([], { s with cursor, lineStart := false })
    return ([], { s with cursor := cursor.drop 1 })
  | _ =>
    let (marks, indents) ← indentation m s.indents
    return (marks.map (⟨·, cursor.position⟩), { s with cursor, indents, lineStart := false })

def readName (s : State) : Option (Token × State) := do
  let cursor := s.cursor
  let spelling := cursor.rest.takeWhile Numeral.extendsName
  let next := cursor.drop spelling.length
  match next.rest, opening? spelling with
  | q :: rest, some opening =>
    if q == '\'' || q == '"' then
      let (literal, rest) ← string? opening q rest
      return (⟨.string literal, cursor.position⟩, { s with cursor := cursor.upTo rest })
    else
      let lexeme ← name? spelling
      return (⟨lexeme, cursor.position⟩, { s with cursor := next })
  | _, _ =>
    let lexeme ← name? spelling
    return (⟨lexeme, cursor.position⟩, { s with cursor := next })

def readNumber (s : State) : Option (Token × State) := do
  let (numeral, rest) ← Numeral.read? s.cursor.rest
  return (⟨.number numeral, s.cursor.position⟩, { s with cursor := s.cursor.upTo rest })

def readString (quote : Char) (s : State) : Option (Token × State) := do
  let (literal, rest) ← string? ⟨false, false, false, false⟩ quote (s.cursor.rest.drop 1)
  return (⟨.string literal, s.cursor.position⟩, { s with cursor := s.cursor.upTo rest })

def readSymbol (s : State) : Option (Token × State) := do
  let symbol ← symbol? s.cursor.rest
  let brackets ← bracketsAfter symbol s.brackets
  return (⟨.symbol symbol, s.cursor.position⟩,
    { s with cursor := s.cursor.drop symbol.length, brackets })

def readToken (s : State) : Option (Token × State) :=
  match s.cursor.rest with
  | [] => none
  | c :: after =>
    if beginsName c then readName s
    else if c.isDigit then readNumber s
    else if c == '.' && (after.head?.map Char.isDigit).getD false then readNumber s
    else if c == '\'' || c == '"' then readString c s
    else readSymbol s

/-- What one step yields: tokens and a state to go on from, or the end of the text. -/
inductive Step
  | more (tokens : List Token) (state : State)
  | done (position : Position)

def continueLine (s : State) : Option Step :=
  let cursor := (s.cursor.skipWhile isSpace).skipComment
  let s := { s with cursor }
  match cursor.rest with
  | [] => if s.brackets.isEmpty then some (.done cursor.position) else none
  | '\n' :: _ =>
    let next := { s with cursor := cursor.drop 1 }
    if s.brackets.isEmpty then
      some (.more [⟨.newline, cursor.position⟩] { next with lineStart := true })
    else some (.more [] next)
  | '\\' :: '\n' :: _ :: _ => some (.more [] { s with cursor := cursor.drop 2 })
  | _ => (readToken s).map fun (token, state) => .more [token] state

def step (s : State) : Option Step :=
  if s.lineStart then (startLine s).map fun (tokens, state) => .more tokens state
  else continueLine s

/-- Every step but two reads a character: the one that leaves the start of a line, and the last. -/
def run : Nat → State → Option (List Token)
  | 0, _ => none
  | fuel + 1, s => do
    match ← step s with
    | .done position => return [⟨.endMarker, position⟩]
    | .more tokens state => return tokens ++ (← run fuel state)

def tokens? (text : List Char) : Option (List Token) :=
  if text.contains '\x00' then none
  else run (2 * text.length + 3) ⟨⟨text, ⟨1, 1⟩⟩, true, [], [(0, 0)]⟩

end Crosswalk.Code.Lexer
