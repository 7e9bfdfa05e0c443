import Crosswalk.Text.Split

/-! Code points as numbers, and tables of them kept as text: `lo-hi` covers a range, `lo-hi>t` sends
a range to the points from `t` on, `lo-hi/2>t` does so for every second point. Literals may hold lone
surrogates, so a text that comes from a literal is a list of code points and not a string. -/

namespace Crosswalk.Text

abbrev CodePoint := Nat

def codePoints (s : String) : List CodePoint := s.toList.map Char.toNat

def ofCodePoints (t : List CodePoint) : String := String.ofList (t.map Char.ofNat)

/-- The null character stands for what is no code point; every other character has one alone. -/
theorem eq_toNat_of_ofNat (n : Nat) (d : Char) (hd : 0 < d.toNat) (h : Char.ofNat n = d) :
    n = d.toNat := by
  subst h
  unfold Char.ofNat at hd ⊢
  by_cases hvalid : n.isValidChar
  · rw [dif_pos hvalid]
    rfl
  · rw [dif_neg hvalid] at hd
    exact absurd hd (by decide)

/-- The number of bytes a code point takes. -/
def utf8Width (c : CodePoint) : Nat :=
  if c < 0x80 then 1 else if c < 0x800 then 2 else if c < 0x10000 then 3 else 4

def hexDigit? (c : Char) : Option Nat :=
  if '0' ≤ c ∧ c ≤ '9' then some (c.toNat - 48)
  else if 'a' ≤ c ∧ c ≤ 'f' then some (c.toNat - 87)
  else if 'A' ≤ c ∧ c ≤ 'F' then some (c.toNat - 55)
  else none

def hexValue (s : List Char) : Nat :=
  s.foldl (fun n c => 16 * n + (hexDigit? c).getD 0) 0

/-- The digits of a number in base sixteen, at least `width` of them. -/
def hexDigits (width n : Nat) : String :=
  let digits := Nat.toDigits 16 n
  String.ofList (List.replicate (width - digits.length) '0' ++ digits)

structure Range where
  first : CodePoint
  last : CodePoint
  step : Nat := 1
  target : CodePoint := 0

def Range.covers (r : Range) (c : CodePoint) : Bool :=
  r.first ≤ c && c ≤ r.last && (c - r.first) % r.step == 0

def Range.send (r : Range) (c : CodePoint) : CodePoint := r.target + (c - r.first)

abbrev Ranges := List Range

def Ranges.contains (t : Ranges) (c : CodePoint) : Bool := t.any (·.covers c)

def Ranges.find? (t : Ranges) (c : CodePoint) : Option CodePoint :=
  (List.find? (·.covers c) t).map (·.send c)

def words (l : List Char) : List (List Char) :=
  (pieces (fun c => c == ' ' || c == '\n') l).filter (!·.isEmpty)

def entries (s : String) : List (List Char) := words s.toList

def Range.ofEntry (e : List Char) : Range :=
  let cut (c : Char) (l : List Char) := pieces (· == c) l
  match cut '>' e with
  | [source, target] =>
    match cut '/' source with
    | [s, step] => { extent s with step := hexValue step, target := hexValue target }
    | _ => { extent source with target := hexValue target }
  | _ => extent e
where
  extent (s : List Char) : Range :=
    match pieces (· == '-') s with
    | [a, b] => { first := hexValue a, last := hexValue b }
    | _ => { first := hexValue s, last := hexValue s }

def Ranges.ofText (s : String) : Ranges := (entries s).map Range.ofEntry

end Crosswalk.Text
