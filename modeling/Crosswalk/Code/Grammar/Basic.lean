import Crosswalk.Code.Literal
import Crosswalk.Code.Token.Lexer

/-! Readers of token lists. A reader takes tokens from the front or refuses; an alternative starts
again where the first one did. Loops run on a count that the number of tokens bounds. -/

namespace Crosswalk.Code.Grammar

/-- What is left when a reader is done is an end of what it was given. -/
structure Reader (α : Type) where
  run : List Token → Option (α × List Token)
  suffix : ∀ s a rest, run s = some (a, rest) → rest <:+ s

namespace Reader

def pure {α : Type} (a : α) : Reader α where
  run s := some (a, s)
  suffix s _ _ h := by
    cases h
    exact List.suffix_refl s

def bind {α β : Type} (r : Reader α) (next : α → Reader β) : Reader β where
  run s :=
    match r.run s with
    | some (a, rest) => (next a).run rest
    | none => none
  suffix s b rest h := by
    split at h
    · rename_i a mid hfirst
      exact ((next a).suffix mid b rest h).trans (r.suffix s a mid hfirst)
    · cases h

instance : Monad Reader where
  pure := pure
  bind := bind

/-- A reader that is made when it is used. -/
def later {α : Type} (r : Unit → Reader α) : Reader α := ⟨fun s => (r ()).run s, (r ()).suffix⟩

/-- Looks at the tokens and leaves them. -/
def look {α : Type} (f : List Token → α) : Reader α where
  run s := some (f s, s)
  suffix s _ _ h := by
    cases h
    exact List.suffix_refl s

end Reader

def refuse {α : Type} : Reader α := ⟨fun _ => none, fun _ _ _ h => nomatch h⟩

def peek : Reader Lexeme := .look fun s => (s.head?.map (·.lexeme)).getD .endMarker

def peekSecond : Reader Lexeme := .look fun s => (s[1]?.map (·.lexeme)).getD .endMarker

/-- Where the next token begins. -/
def here : Reader Position := .look fun s => (s.head?.map (·.position)).getD {}

def advance : Reader Unit where
  run s := some ((), s.drop 1)
  suffix s _ _ h := by
    cases h
    exact List.drop_suffix 1 s

def accept (lexeme : Lexeme) : Reader Bool := do
  if (← peek) = lexeme then
    advance
    return true
  else return false

def expect (lexeme : Lexeme) : Reader Unit := do
  if ← accept lexeme then pure () else refuse

def acceptSymbol (text : String) : Reader Bool := accept (.symbol text)
def acceptWord (word : String) : Reader Bool := accept (.keyword word)
def symbol (text : String) : Reader Unit := expect (.symbol text)
def word (text : String) : Reader Unit := expect (.keyword text)

def atSymbol (text : String) : Reader Bool := return (← peek) = .symbol text
def atWord (text : String) : Reader Bool := return (← peek) = .keyword text

def identifier : Reader Name := do
  match ← peek with
  | .name spelling valid =>
    advance
    return ⟨canonicalName spelling, spelling, valid, rfl⟩
  | _ => refuse

/-- The reading that succeeds, if one does. -/
def attempt {α : Type} (r : Reader α) : Reader (Option α) where
  run s :=
    match r.run s with
    | some (a, rest) => some (some a, rest)
    | none => some (none, s)
  suffix s _ rest h := by
    split at h
    · rename_i a _ hread
      cases h
      exact r.suffix s a rest hread
    · cases h
      exact List.suffix_refl s

/-- Repeats a step that says whether there was more to read. -/
def extend {α : Type} (step : α → Reader (Option α)) : Nat → α → Reader α
  | 0, _ => refuse
  | fuel + 1, a => do
    match ← step a with
    | some b => extend step fuel b
    | none => return a

/-- Items separated by commas, up to where `ends` holds; a comma may follow the last. At least one
item is read. The flag says whether a comma came last. -/
def commaList {α : Type} (item : Reader α) (ends : Reader Bool) : Nat → Reader (List α × Bool)
  | 0 => refuse
  | fuel + 1 => do
    let a ← item
    if ← acceptSymbol "," then
      if ← ends then return ([a], true)
      let (rest, comma) ← commaList item ends fuel
      return (a :: rest, comma)
    else return ([a], false)

end Crosswalk.Code.Grammar
