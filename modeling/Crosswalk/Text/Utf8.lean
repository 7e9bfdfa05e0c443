/-! Reading bytes as UTF-8, and line ends as one character. A sequence is refused if it is cut short,
longer than need be, a surrogate or beyond the last code point. -/

namespace Crosswalk.Text.Utf8

/-- The value a continuation byte adds. -/
def continuation? (b : UInt8) : Option Nat :=
  if 0x80 ≤ b ∧ b ≤ 0xbf then some (b.toNat - 0x80) else none

def decodeTwo? (a b : UInt8) : Option Nat := do
  let x ← continuation? b
  let c := (a.toNat - 0xc0) * 0x40 + x
  if 0x80 ≤ c then some c else none

def decodeThree? (a b d : UInt8) : Option Nat := do
  let x ← continuation? b
  let y ← continuation? d
  let c := (a.toNat - 0xe0) * 0x1000 + x * 0x40 + y
  if 0x800 ≤ c ∧ ¬ (0xd800 ≤ c ∧ c ≤ 0xdfff) then some c else none

def decodeFour? (a b d e : UInt8) : Option Nat := do
  let x ← continuation? b
  let y ← continuation? d
  let z ← continuation? e
  let c := (a.toNat - 0xf0) * 0x40000 + x * 0x1000 + y * 0x40 + z
  if 0x10000 ≤ c ∧ c ≤ 0x10ffff then some c else none

def decode? : List UInt8 → Option (List Char)
  | [] => some []
  | a :: rest =>
    if a < 0x80 then (decode? rest).map (Char.ofNat a.toNat :: ·)
    else if 0xc0 ≤ a ∧ a < 0xe0 then
      match rest with
      | b :: rest => do
        let c ← decodeTwo? a b
        (decode? rest).map (Char.ofNat c :: ·)
      | _ => none
    else if 0xe0 ≤ a ∧ a < 0xf0 then
      match rest with
      | b :: d :: rest => do
        let c ← decodeThree? a b d
        (decode? rest).map (Char.ofNat c :: ·)
      | _ => none
    else if 0xf0 ≤ a ∧ a < 0xf8 then
      match rest with
      | b :: d :: e :: rest => do
        let c ← decodeFour? a b d e
        (decode? rest).map (Char.ofNat c :: ·)
      | _ => none
    else none

/-- A carriage return ends a line, alone or before a line feed. -/
def unifyLineEnds : List Char → List Char
  | [] => []
  | '\r' :: '\n' :: rest => '\n' :: unifyLineEnds rest
  | '\r' :: rest => '\n' :: unifyLineEnds rest
  | c :: rest => c :: unifyLineEnds rest

theorem unifyLineEnds_free (t : List Char) : '\r' ∉ unifyLineEnds t := by
  fun_induction unifyLineEnds t with
  | case1 => simp
  | case2 rest ih => simp [ih]
  | case3 rest _ ih => simp [ih]
  | case4 c rest _ hc ih =>
    have : c ≠ '\r' := fun h => hc h
    simp [ih, Ne.symm this]

end Crosswalk.Text.Utf8
