/-! # Binary floating-point numbers

    The numbers of the 64-bit format, without their signs: `mantissa · 2^exponent`
    with at most 53 bits in the mantissa. Rounding goes to the nearest number of the
    format, and a tie to the even mantissa. Products and quotients are rounded once.

    A written number becomes such a number in few steps rather than exactly: its
    digits as an integer are rounded, and then multiplied or divided by a power of
    ten that is rounded itself. So the last digit of a long number may differ from
    what was written, and programs that read it this way agree on the result.
-/

namespace PermissionContexts

/-- The number `mantissa · 2^exponent`. -/
structure Binary where
  /-- The significant bits. -/
  mantissa : Nat
  /-- The power of two that they count. -/
  exponent : Int
deriving DecidableEq, Repr

namespace Binary

/-- Zero. -/
def zero : Binary := ⟨0, 0⟩

/-- The fraction `num / den` divided by `2^q`, as a fraction. -/
def scaleDown (num den : Nat) (q : Int) : Nat × Nat :=
  (num * Nat.pow 2 (-q).toNat, den * Nat.pow 2 q.toNat)

/-- The number nearest to the fraction `num / den`, or nothing when that is out of
    range. -/
def ofRatio (num den : Nat) : Option Binary :=
  let guess : Int := (num.log2 : Int) - den.log2 - 52
  let floorAt := fun q => let f := scaleDown num den q; f.1 / f.2
  let q := max (if floorAt guess < Nat.pow 2 52 then guess - 1 else guess) (-1074)
  let f := scaleDown num den q
  let m := f.1 / f.2
  let r := f.1 % f.2
  let m := if f.2 < 2 * r ∨ (2 * r = f.2 ∧ m % 2 = 1) then m + 1 else m
  let b : Binary := if m = Nat.pow 2 53 then ⟨Nat.pow 2 52, q + 1⟩ else ⟨m, q⟩
  if b.exponent ≤ 971 then some b else none

/-- The numerator of the number. -/
def num (b : Binary) : Nat :=
  b.mantissa * Nat.pow 2 b.exponent.toNat

/-- The denominator of the number. -/
def den (b : Binary) : Nat :=
  Nat.pow 2 (-b.exponent).toNat

/-- The rounded product. -/
def times (a b : Binary) : Option Binary :=
  ofRatio (a.num * b.num) (a.den * b.den)

/-- The rounded quotient by a number that is not zero. -/
def dividedBy (a b : Binary) : Option Binary :=
  ofRatio (a.num * b.den) (a.den * b.num)

/-- The rounded power of ten. -/
def powerOfTen (n : Nat) : Option Binary :=
  ofRatio (Nat.pow 10 n) 1

/-- The greatest power of ten in the format. -/
def maxPower : Nat := 308

/-- `b` divided `n` times by the greatest power of ten. Zero stays as it is. -/
def divideOut : Nat → Binary → Option Binary
  | 0, b => some b
  | n + 1, b =>
    if b.mantissa = 0 then some zero
    else
      match (powerOfTen maxPower).bind b.dividedBy with
      | some b => divideOut n b
      | none => none

/-- `b` times `10^e`, or nothing when that is out of range. Below the least power of
    ten the quotient is taken in several steps. -/
def scale (b : Binary) (e : Int) : Option Binary :=
  if b.mantissa = 0 then some zero
  else if 0 ≤ e then
    if e.natAbs ≤ maxPower then (powerOfTen e.natAbs).bind b.times else none
  else do
    let rounds := (e.natAbs - 1) / maxPower
    let b ← divideOut rounds b
    let p ← powerOfTen (e.natAbs - maxPower * rounds)
    b.dividedBy p

/-- The number `significand · 10^e`, or nothing when that is out of range. -/
def ofDecimal (significand : Nat) (e : Int) : Option Binary :=
  (ofRatio significand 1).bind fun b => b.scale e

end Binary

end PermissionContexts
