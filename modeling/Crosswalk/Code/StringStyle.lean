import Crosswalk.Text.Quoted

/-! String literals that do without backslashes as far as they can. Of the four kinds of quotes one is
taken that does not occur in the text; a text with all of them is quoted on one line. -/

namespace Crosswalk.Code.StringStyle

open Text (CodePoint)

def allQuotes : List String := ["'", "\"", "\"\"\"", "'''"]

def isTriple (quote : String) : Bool := quote.length == 3

/-- Line feeds and tabs are shown as they are, unless the whole text is to be visible. -/
def visibleForm (visible : Bool) (c : CodePoint) : String :=
  if ¬ visible ∧ (c = 0xa ∨ c = 0x9) then (Char.ofNat c).toString
  else Text.Quoted.escape 0x5c c

structure Shown where
  body : String
  quotes : List String

/-- Quotes the text on one line, and keeps a quote that is like the one it got. -/
def fallback (quotes : List String) (t : List CodePoint) : Shown :=
  let mark := (Char.ofNat (Text.Quoted.quoteFor t))
  ⟨Text.Quoted.body mark.toNat t,
    [(quotes.find? fun q => q.toList.contains mark).getD mark.toString]⟩

/-- The body of a literal and the quotes it may stand between, the best first. A quote that ends the
body does not come first if there is another; if there is none it is escaped. -/
def literal (quotes : List String) (visible : Bool) (t : List CodePoint) : Shown :=
  let body := (String.join (t.map (visibleForm visible))).toList
  let possible := quotes.filter fun q =>
    (!body.contains '\n' || isTriple q) && !Text.occurs q.toList body
  match possible, body.getLast? with
  | [], _ => fallback quotes t
  | _, none => ⟨"", possible⟩
  | _, some last =>
    let clashes (q : String) : Bool := q.toList.head? == some last
    let sorted := possible.filter (!clashes ·) ++ possible.filter clashes
    match sorted.head? with
    | some q =>
      if clashes q then ⟨String.ofList (body.dropLast ++ ['\\', last]), sorted⟩
      else ⟨String.ofList body, sorted⟩
    | none => ⟨String.ofList body, sorted⟩

def enclose (s : Shown) : String :=
  let quote := s.quotes.headD "'"
  quote ++ s.body ++ quote

/-- A literal on its own. -/
def plain (t : List CodePoint) : String := enclose (literal allQuotes false t)

/-- Texts that share their quotes; the flag says which are to be visible. Each narrows the choice for
the next. -/
def joined (texts : List (List CodePoint × Bool)) : String :=
  let step (acc : Shown) (text : List CodePoint × Bool) : Shown :=
    let shown := literal acc.quotes text.2 text.1
    ⟨acc.body ++ shown.body, shown.quotes⟩
  enclose (texts.foldl step ⟨"", allQuotes⟩)

end Crosswalk.Code.StringStyle
