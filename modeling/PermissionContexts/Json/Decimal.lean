import PermissionContexts.Json.Binary

/-! # Numbers with a fraction

    A number that is no plain integer is held in 64-bit binary floating point by
    the programs that exchange settings. What is kept of it here is its **shortest
    decimal**: of the decimals that round to the same floating-point number, the
    one with the fewest digits, and of those the nearest.
-/

namespace PermissionContexts

/-- The number `± digits · 10^exponent`. The digits do not end in a zero, and the
    exponent of zero is zero. -/
structure Decimal where
  /-- Whether the number carries a minus sign; zero may. -/
  negative : Bool
  /-- The significant digits, as one natural number. -/
  digits : Nat
  /-- The power of ten that they count. -/
  exponent : Int
deriving DecidableEq, Repr

namespace Decimal

/-- A point `x · 10^p` of the decimal grid inside the interval of numbers that
    round to `m · 2^q`, the nearest one if there are two. -/
def gridPoint (m : Nat) (q p : Int) : Option Nat :=
  let grid := Nat.pow 10 p.toNat * Nat.pow 2 (2 - q).toNat
  let quarter := Nat.pow 2 (q - 2).toNat * Nat.pow 10 (-p).toNat
  let low := (if m = Nat.pow 2 52 ∧ -1074 < q then 4 * m - 1 else 4 * m - 2) * quarter
  let high := (4 * m + 2) * quarter
  let inside := fun x => if m % 2 = 0 then low ≤ x * grid ∧ x * grid ≤ high
    else low < x * grid ∧ x * grid < high
  let value := 4 * m * quarter
  let x := value / grid
  let belowNearer := 2 * (value % grid) < grid ∨ (2 * (value % grid) = grid ∧ x % 2 = 0)
  if inside x ∧ inside (x + 1) then some (if belowNearer then x else x + 1)
  else if inside x then some x
  else if inside (x + 1) then some (x + 1)
  else none

/-- The first grid that has a point, from `10^p` downwards over `n` grids. -/
def firstGrid (m : Nat) (q : Int) : Nat → Int → Option (Nat × Int)
  | 0, _ => none
  | n + 1, p =>
    match gridPoint m q p with
    | some x => some (x, p)
    | none => firstGrid m q n (p - 1)

/-- The shortest decimal that rounds to the positive number `m · 2^q`. Seventeen
    digits always suffice. -/
def shortestDecimal (m : Nat) (q : Int) : Nat × Int :=
  let top := (((m.log2 : Int) + q + 1) * 30103) / 100000 + 1
  (firstGrid m q 20 top).getD (m, q)

/-- Moves zeros at the end of `digits` into the exponent, `n` of them at most. -/
def stripZeros : Nat → Nat → Int → Nat × Int
  | 0, digits, e => (digits, e)
  | n + 1, digits, e => if digits % 10 = 0 then stripZeros n (digits / 10) (e + 1) else (digits, e)

/-- The zero with the given sign. -/
def zero (negative : Bool) : Decimal := ⟨negative, 0, 0⟩

/-- The decimal of a floating-point number. -/
def ofBinary (negative : Bool) (b : Binary) : Decimal :=
  if b.mantissa = 0 then zero negative
  else
    let shortest := shortestDecimal b.mantissa b.exponent
    let stripped := stripZeros 20 shortest.1 shortest.2
    ⟨negative, stripped.1, stripped.2⟩

/-- What is kept of the written number `± significand · 10^e`, or nothing when it is
    too large for the floating-point format. -/
def ofLiteral (negative : Bool) (significand : Nat) (e : Int) : Option Decimal :=
  (Binary.ofDecimal significand e).map (ofBinary negative)

/-- The digits of `n` in base ten. -/
def digitChars (n : Nat) : List Char :=
  Nat.toDigits 10 n

/-- An integer in base ten. -/
def intChars (n : Int) : List Char :=
  (if n < 0 then ['-'] else []) ++ digitChars n.natAbs

/-- An exponent, always with its sign. -/
def exponentChars (e : Int) : List Char :=
  (if e < 0 then '-' else '+') :: digitChars e.natAbs

/-- The number as text: positional from `1e-5` to below `1e+16`, with at least one
    digit after the point, and with an exponent elsewhere. -/
def chars (d : Decimal) : List Char :=
  let sign := if d.negative then ['-'] else []
  let ds := digitChars d.digits
  let point : Int := ds.length + d.exponent
  let body :=
    if d.digits = 0 then ['0', '.', '0']
    else if 0 ≤ d.exponent ∧ point ≤ 16 then
      ds ++ List.replicate d.exponent.toNat '0' ++ ['.', '0']
    else if 0 < point ∧ point ≤ 16 then
      ds.take point.toNat ++ '.' :: ds.drop point.toNat
    else if -5 < point ∧ point ≤ 0 then
      '0' :: '.' :: List.replicate (-point).toNat '0' ++ ds
    else
      let mantissa := if ds.length = 1 then ds else ds.take 1 ++ '.' :: ds.drop 1
      mantissa ++ 'e' :: exponentChars (point - 1)
  sign ++ body

end Decimal

end PermissionContexts
