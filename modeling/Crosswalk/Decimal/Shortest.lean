import Crosswalk.Decimal.Binary64

/-! The fewest decimal digits that read back to a floating-point number. For one digit, two digits and
so on, the two neighbours of the number on the grid of that many digits are tried against the interval
of reals that round to the number; the first grid with a hit wins, and the nearer neighbour on it. -/

namespace Crosswalk.Decimal

/-- A decimal `digits * 10 ^ exponent`. -/
structure Scientific where
  digits : Nat
  exponent : Int
  deriving DecidableEq, Repr

/-- The reals that round to a number, as bounds over a common denominator. -/
structure Interval where
  low : Nat
  value : Nat
  high : Nat
  denominator : Nat
  closed : Bool

def Interval.ofFinite (m : Nat) (scale : Int) : Interval :=
  let low := if m = Nat.pow 2 52 ∧ Binary64.leastScale < scale then 4 * m - 1 else 4 * m - 2
  let up := if 0 ≤ scale then Nat.pow 2 scale.toNat else 1
  { low := low * up
    value := 4 * m * up
    high := (4 * m + 2) * up
    denominator := 4 * (if 0 ≤ scale then 1 else Nat.pow 2 (-scale).toNat)
    closed := m % 2 = 0 }

/-- `(n, d)` with `n / d = num / den / 10 ^ exponent`. -/
def shifted (num den : Nat) (exponent : Int) : Nat × Nat :=
  if 0 ≤ exponent then (num, den * Nat.pow 10 exponent.toNat)
  else (num * Nat.pow 10 (-exponent).toNat, den)

def Interval.holds (i : Interval) (c : Scientific) : Bool :=
  let (lowNum, den) := shifted i.low i.denominator c.exponent
  let (highNum, _) := shifted i.high i.denominator c.exponent
  let point := c.digits * den
  if i.closed then decide (lowNum ≤ point) && decide (point ≤ highNum)
  else decide (lowNum < point) && decide (point < highNum)

/-- The exponent of the leading digit. -/
def leadingExponent (num den : Nat) : Int :=
  if den ≤ num then ((Nat.toDigits 10 (num / den)).length : Int) - 1
  else
    let least := (List.range 400).find? (fun j => den ≤ num * Nat.pow 10 (j + 1))
    Int.negSucc (least.getD 0)

def Interval.candidate? (i : Interval) (exponent : Int) : Option Scientific :=
  let (n, d) := shifted i.value i.denominator exponent
  let below : Scientific := ⟨n / d, exponent⟩
  let above : Scientific := ⟨n / d + 1, exponent⟩
  match i.holds below, i.holds above with
  | true, true =>
    let r := 2 * (n % d)
    some (if r < d ∨ (r = d ∧ below.digits % 2 = 0) then below else above)
  | true, false => some below
  | false, true => some above
  | false, false => none

def shortest (m : Nat) (scale : Int) : Scientific :=
  if m = 0 then ⟨0, 0⟩
  else
    let i := Interval.ofFinite m scale
    let lead := leadingExponent i.value i.denominator
    ((List.range 17).findSome? fun (p : Nat) => i.candidate? (lead - p)).getD ⟨0, 0⟩

/-- How a decimal is laid out: positional for leading exponents from `lowest` to `highest`, with
`whole` after a number that has no fraction. -/
structure Layout where
  lowest : Int
  highest : Int
  whole : String

def trimZeros (digits : List Char) : List Char :=
  match (digits.reverse.dropWhile (· == '0')).reverse with
  | [] => ['0']
  | d => d

def Layout.exponentText (e : Int) : String :=
  let digits := Nat.toDigits 10 e.natAbs
  let padded := if digits.length < 2 then '0' :: digits else digits
  (if e < 0 then "e-" else "e+") ++ String.ofList padded

def Layout.text (layout : Layout) (x : Scientific) : String :=
  let all := Nat.toDigits 10 x.digits
  let digits := trimZeros all
  let lead : Int := x.exponent + all.length - 1
  let s := String.ofList
  if x.digits = 0 then "0" ++ layout.whole
  else if lead < layout.lowest ∨ layout.highest < lead then
    match digits with
    | [] => ""
    | [d] => s [d] ++ exponentText lead
    | d :: rest => s (d :: '.' :: rest) ++ exponentText lead
  else if lead < 0 then
    s ("0.".toList ++ List.replicate (-lead - 1).toNat '0' ++ digits)
  else
    let n := lead.toNat + 1
    if digits.length ≤ n then
      s (digits ++ List.replicate (n - digits.length) '0') ++ layout.whole
    else s (digits.take n ++ '.' :: digits.drop n)

end Crosswalk.Decimal
