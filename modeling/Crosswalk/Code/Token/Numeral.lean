import Crosswalk.Code.Token

/-! Reading a numeral. Digits may be grouped by single underscores, and no name may follow at once,
a few keywords apart. -/

namespace Crosswalk.Code.Numeral

/-- Digits with single underscores between them, and what follows. -/
def digitRun (isDigit : Char → Bool) : List Char → Option (List Char × List Char)
  | [] => some ([], [])
  | c :: rest =>
    if isDigit c then (digitRun isDigit rest).map fun (digits, after) => (c :: digits, after)
    else if c == '_' then
      match rest with
      | [] => none
      | d :: _ => if isDigit d then digitRun isDigit rest else none
    else some ([], c :: rest)

/-- Whether a character may stand inside a name; beyond ASCII all may, until the name is checked. -/
def extendsName (c : Char) : Bool := c.isAlphanum || c == '_' || 0x80 ≤ c.toNat

def endsBefore (rest : List Char) : Bool :=
  match rest with
  | [] => true
  | c :: _ =>
    !extendsName c ||
      ["and", "else", "for", "if", "in", "is", "or", "not"].any fun word =>
        word.toList.isPrefixOf rest

def value (base : Nat) (digits : List Char) : Nat :=
  digits.foldl (fun n c => base * n + (Text.hexDigit? c).getD 0) 0

def ended (numeral : Numeral) (rest : List Char) : Option (Numeral × List Char) :=
  if endsBefore rest then some (numeral, rest) else none

def based? (base : Nat) (isDigit : Char → Bool) (rest : List Char) :
    Option (Numeral × List Char) := do
  let (digits, rest) ← digitRun isDigit rest
  if digits.isEmpty then none else ended (.integer (value base digits)) rest

/-- A longer integer in base ten is refused. -/
def digitLimit : Nat := 4300

/-- An exponent, if the mark is followed by one. -/
def exponent? (rest : List Char) : Option (Option Int × List Char) :=
  match rest with
  | e :: sign :: after =>
    if e == 'e' || e == 'E' then
      if sign == '+' || sign == '-' then do
        let (digits, rest) ← digitRun Char.isDigit after
        let n : Int := value 10 digits
        if digits.isEmpty then none else some (some (if sign == '-' then -n else n), rest)
      else if sign.isDigit then do
        let (digits, rest) ← digitRun Char.isDigit (sign :: after)
        some (some (value 10 digits), rest)
      else some (none, rest)
    else some (none, rest)
  | _ => some (none, rest)

def fraction? (rest : List Char) : Option (Option (List Char) × List Char) :=
  match rest with
  | '.' :: d :: after =>
    if d.isDigit then (digitRun Char.isDigit (d :: after)).map fun (f, r) => (some f, r)
    else some (some [], d :: after)
  | ['.'] => some (some [], [])
  | _ => some (none, rest)

/-- An integer other than zero does not begin with a zero. -/
def decimalInteger? (digits : List Char) : Option Numeral :=
  let n := value 10 digits
  if n = 0 then some (.integer 0)
  else if digits.head? = some '0' ∨ digitLimit < digits.length then none
  else some (.integer n)

def decimal? (rest : List Char) : Option (Numeral × List Char) := do
  let (whole, rest) ← digitRun Char.isDigit rest
  let (fraction, rest) ← fraction? rest
  let (exponent, rest) ← exponent? rest
  let parts := fraction.getD []
  let digits := value 10 (whole ++ parts)
  let scale := exponent.getD 0 - parts.length
  match rest with
  | c :: after =>
    if c == 'j' || c == 'J' then ended (.imaginary digits scale) after
    else finish whole fraction exponent digits scale rest
  | [] => finish whole fraction exponent digits scale rest
where
  finish (whole : List Char) (fraction : Option (List Char)) (exponent : Option Int)
      (digits : Nat) (scale : Int) (rest : List Char) : Option (Numeral × List Char) :=
    match fraction, exponent with
    | none, none => do ended (← decimalInteger? whole) rest
    | _, _ => ended (.real digits scale) rest

def isHexDigit (c : Char) : Bool := (Text.hexDigit? c).isSome

def read? (rest : List Char) : Option (Numeral × List Char) :=
  match rest with
  | '0' :: mark :: after =>
    if mark == 'x' || mark == 'X' then based? 16 isHexDigit after
    else if mark == 'o' || mark == 'O' then based? 8 (fun c => '0' ≤ c && c ≤ '7') after
    else if mark == 'b' || mark == 'B' then based? 2 (fun c => c == '0' || c == '1') after
    else decimal? rest
  | _ => decimal? rest

example : read? "1_000)".toList = some (.integer 1000, [')']) := by decide
example : read? "007".toList = none := by decide
example : read? "1else".toList = some (.integer 1, "else".toList) := by decide
example : read? "2.5e-3j".toList = some (.imaginary 25 (-4), []) := by decide

end Crosswalk.Code.Numeral
