import Crosswalk.Text.CodePoints

/-! What the body of a string stands for. A backslash before a character that has no meaning after it
stays in the text. Which characters have names is given; any other name is refused. -/

namespace Crosswalk.Code.Escapes

open Text (CodePoint hexDigit? hexValue utf8Width)

/-- The characters written by a letter after a backslash, with what they stand for. -/
def letters : List (Char × CodePoint) :=
  [('\\', 0x5c), ('\'', 0x27), ('"', 0x22), ('a', 0x7), ('b', 0x8), ('f', 0xc), ('n', 0xa),
   ('r', 0xd), ('t', 0x9), ('v', 0xb)]

def isOctal (c : Char) : Bool := '0' ≤ c && c ≤ '7'

def octalValue (digits : List Char) : Nat := digits.foldl (fun n c => 8 * n + (c.toNat - 48)) 0

/-- Exactly `n` digits in base sixteen. -/
def hexRun? (n : Nat) (rest : List Char) : Option Nat :=
  let digits := rest.take n
  if digits.length = n ∧ digits.all (fun c => (hexDigit? c).isSome) then some (hexValue digits)
  else none

/-- The digits that follow the letter of a numeric escape. -/
def hexLength? (c : Char) (bytes : Bool) : Option Nat :=
  if c = 'x' then some 2
  else if bytes then none
  else if c = 'u' then some 4
  else if c = 'U' then some 8
  else none

/-- The character of a name, in whatever way the name is written. -/
abbrev CharacterNames := String → Option CodePoint

/-- A name in braces: the character it stands for, and how many characters the two braces hold. -/
def named? (names : CharacterNames) : List Char → Option (CodePoint × Nat)
  | '\x7b' :: rest => do
    let name := rest.takeWhile (· ≠ '\x7d')
    if name.length = rest.length ∨ name.isEmpty then none
    else return (← names (String.ofList name), name.length + 2)
  | _ => none

section

variable (names : CharacterNames)

/-- What one escape stands for, and how many characters after the backslash it takes. -/
def escape? (bytes : Bool) (c : Char) (rest : List Char) : Option (List CodePoint × Nat) :=
  if c = '\n' then some ([], 1)
  else match letters.lookup c with
    | some value => some ([value], 1)
    | none =>
      if isOctal c then
        let digits := (c :: rest).take 3 |>.takeWhile isOctal
        some ([octalValue digits], digits.length)
      else match hexLength? c bytes with
        | some n => do
          let value ← hexRun? n rest
          if 0x10ffff < value then none else some ([value], n + 1)
        | none =>
          if c = 'N' ∧ ¬ bytes then (named? names rest).map fun (value, n) => ([value], n + 1)
          else some ([0x5c, c.toNat], 1)

/-- The text of a body; `skip` characters belong to an escape already read. -/
def decodeFrom (bytes : Bool) (skip : Nat) : List Char → Option (List CodePoint)
  | [] => some []
  | c :: rest =>
    match skip with
    | skip + 1 => decodeFrom bytes skip rest
    | 0 =>
      if c = '\\' then
        match rest with
        | [] => some [0x5c]
        | d :: after => do
          let (here, taken) ← escape? names bytes d after
          return here ++ (← decodeFrom bytes taken rest)
      else (decodeFrom bytes 0 rest).map (c.toNat :: ·)

def text? (raw : Bool) (body : List Char) : Option (List CodePoint) :=
  if raw then some (body.map Char.toNat) else decodeFrom names false 0 body

end

def bytes? (raw : Bool) (body : List Char) : Option (List Nat) :=
  if body.any (fun c => 0x80 ≤ c.toNat) then none
  else if raw then some (body.map Char.toNat)
  else (decodeFrom (fun _ => none) true 0 body).map fun values => values.map (· % 256)

example (names : CharacterNames) : text? names false "a\\x41\\101\\q\\\nb".toList = 
    some [97, 65, 65, 92, 113, 98] := by rfl

example (names : CharacterNames) : text? names false "\\u12".toList = none := by rfl

end Crosswalk.Code.Escapes
