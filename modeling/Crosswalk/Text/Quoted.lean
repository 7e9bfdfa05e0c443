import Crosswalk.Text.Printable

/-! A text between quotes on one line. Single quotes are taken unless the text holds one and no double
quote; the quote and the backslash are escaped, so is all that cannot be shown. -/

namespace Crosswalk.Text.Quoted

def quoteFor (t : List CodePoint) : CodePoint :=
  if t.contains 0x27 && !t.contains 0x22 then 0x22 else 0x27

/-- The escape of a character that has no letter of its own. -/
def numericEscape (c : CodePoint) : String :=
  if c ≤ 0xff then "\\x" ++ hexDigits 2 c
  else if c ≤ 0xffff then "\\u" ++ hexDigits 4 c
  else "\\U" ++ hexDigits 8 c

def escape (quote c : CodePoint) : String :=
  if c = quote ∨ c = 0x5c then String.ofList ['\\', Char.ofNat c]
  else if c = 0x9 then "\\t"
  else if c = 0xa then "\\n"
  else if c = 0xd then "\\r"
  else if isPrintable c then (Char.ofNat c).toString
  else numericEscape c

def body (quote : CodePoint) (t : List CodePoint) : String := String.join (t.map (escape quote))

def encode (t : List CodePoint) : String :=
  let quote := quoteFor t
  let mark := (Char.ofNat quote).toString
  mark ++ body quote t ++ mark

/-- Bytes are quoted in the same way, but only the characters of ASCII are shown. -/
def escapeByte (quote b : Nat) : String :=
  if b < 0x80 then escape quote b else numericEscape b

def encodeBytes (bytes : List Nat) : String :=
  let quote := quoteFor bytes
  let mark := (Char.ofNat quote).toString
  "b" ++ mark ++ String.join (bytes.map (escapeByte quote)) ++ mark

end Crosswalk.Text.Quoted

namespace Crosswalk.Text

def quoted (s : String) : String := Quoted.encode (codePoints s)

end Crosswalk.Text
