/-! Floating-point numbers of 64 bits, not negative, and the one nearest to a decimal. A finite number
is `significand * 2 ^ scale`; of two nearest numbers the one with the even significand is taken. -/

namespace Crosswalk.Decimal

inductive Binary64
  | finite (significand : Nat) (scale : Int)
  | infinite
  deriving DecidableEq, Repr

/-- `(n, d)` with `n / d = num / den / 2 ^ scale`. -/
def unscaled (num den : Nat) (scale : Int) : Nat × Nat :=
  if 0 ≤ scale then (num, den * Nat.pow 2 scale.toNat) else (num * Nat.pow 2 (-scale).toNat, den)

/-- The quotient rounded to the nearest integer, a tie going to the even one. -/
def roundHalfEven (num den : Nat) : Nat :=
  let q := num / den
  let r := 2 * (num % den)
  if r < den ∨ (r = den ∧ q % 2 = 0) then q else q + 1

namespace Binary64

def leastScale : Int := -1074
def greatestScale : Int := 971

/-- The scale at which the significand of a quotient has 53 bits, or the least one. -/
def scaleFor (num den : Nat) : Int :=
  let guess : Int := (num.log2 : Int) - den.log2 - 52
  let (n, d) := unscaled num den guess
  max leastScale (if n < Nat.pow 2 52 * d then guess - 1 else guess)

def ofQuotient (num den : Nat) : Binary64 :=
  if num = 0 then .finite 0 leastScale
  else
    let scale := scaleFor num den
    let (n, d) := unscaled num den scale
    let m := roundHalfEven n d
    let (m, scale) := if m = Nat.pow 2 53 then (Nat.pow 2 52, scale + 1) else (m, scale)
    if greatestScale < scale then .infinite else .finite m scale

/-- The number nearest to `digits * 10 ^ exponent`. Exponents far outside the range are settled
without their powers. -/
def ofDecimal (digits : Nat) (exponent : Int) : Binary64 :=
  let size : Int := (Nat.toDigits 10 digits).length
  if digits = 0 ∨ exponent + size < -400 then .finite 0 leastScale
  else if 400 < exponent + size then .infinite
  else if 0 ≤ exponent then ofQuotient (digits * Nat.pow 10 exponent.toNat) 1
  else ofQuotient digits (Nat.pow 10 (-exponent).toNat)

end Binary64
end Crosswalk.Decimal
