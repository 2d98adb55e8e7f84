-- SUMMARY: Binary floating-point numbers of 64 bits as exact integers: rounding, product, quotient, and two ways to give a decimal a value.

/-!
# Binary64

A finite number is a sign, a significand below `2^53` and an exponent of two between `-1074` and
`971`. Arithmetic is exact arithmetic on naturals followed by one rounding to the nearest number,
a half going to the even significand. A result above the largest number is `none`.
-/

namespace WikiMarkup

/-- The number `±significand · 2^exponent`. -/
structure Binary64 where
  negative : Bool
  significand : Nat
  exponent : Int
  deriving DecidableEq, Repr

namespace Binary64

/-! ## Rounding -/

/-- The least exponent, that of the numbers next to zero. -/
def minExponent : Int := -1074

/-- The greatest exponent. -/
def maxExponent : Int := 971

/-- The least significand of 53 bits. -/
def leastNormal : Nat := 0x10000000000000

/-- Significands lie below this. -/
def significandBound : Nat := 0x20000000000000

/-- Zero of either sign. -/
def zero (negative : Bool) : Binary64 := ⟨negative, 0, minExponent⟩

/-- The natural nearest to `num / den`; of two, the even one. -/
def nearest (num den : Nat) : Nat :=
  let q := num / den
  let twice := 2 * (num % den)
  if twice < den then q else if den < twice then q + 1 else q + q % 2

/-- `num / den` divided by `2^exponent`, as a numerator and a denominator. -/
def shifted (num den : Nat) (exponent : Int) : Nat × Nat :=
  if 0 ≤ exponent then (num, den * Nat.pow 2 exponent.toNat) else (num * Nat.pow 2 (-exponent).toNat, den)

/-- The exponent at which `num / den` has a whole part of 53 bits, or the least one. -/
def exponentOf (num den : Nat) : Int :=
  let guess := max ((num.log2 : Int) - den.log2 - 53) minExponent
  let (n, d) := shifted num den guess
  if n / d < significandBound then guess else guess + 1

/-- The number nearest to `num / den`. -/
def round (negative : Bool) (num den : Nat) : Option Binary64 :=
  if num = 0 then some (zero negative)
  else
    let e := exponentOf num den
    let (n, d) := shifted num den e
    let m := nearest n d
    let (m, e) := if m = significandBound then (leastNormal, e + 1) else (m, e)
    if maxExponent < e then none else some ⟨negative, m, e⟩

/-! ## Arithmetic -/

/-- The magnitude as a numerator and a denominator. -/
def ratio (f : Binary64) : Nat × Nat :=
  if 0 ≤ f.exponent then (f.significand * Nat.pow 2 f.exponent.toNat, 1)
  else (f.significand, Nat.pow 2 (-f.exponent).toNat)

/-- The rounded product. -/
def mul (f g : Binary64) : Option Binary64 :=
  round (f.negative != g.negative) (f.ratio.1 * g.ratio.1) (f.ratio.2 * g.ratio.2)

/-- The rounded quotient, for a divisor other than zero. -/
def div (f g : Binary64) : Option Binary64 :=
  round (f.negative != g.negative) (f.ratio.1 * g.ratio.2) (f.ratio.2 * g.ratio.1)

/-- The same magnitude with the given sign. -/
def withSign (negative : Bool) (f : Binary64) : Binary64 :=
  { f with negative }

/-! ## Decimals -/

/-- The greatest power of ten that is below the largest number. -/
def maxPower : Nat := 308

/-- `f · 10^exponent`: one product or one quotient where the power of ten is itself a number, and
first quotients by `10^308` where it is too small. Each step rounds. -/
def scaleByTen : Nat → Binary64 → Int → Option Binary64
  | fuel, f, exponent =>
    if exponent.natAbs ≤ maxPower then do
      let power ← round false (Nat.pow 10 exponent.natAbs) 1
      if 0 ≤ exponent then f.mul power else f.div power
    else if f.significand = 0 then some f
    else if 0 ≤ exponent then none
    else
      match fuel with
      | 0 => some f
      | fuel + 1 => do
        let power ← round false (Nat.pow 10 maxPower) 1
        let g ← f.div power
        scaleByTen fuel g (exponent + maxPower)

/-- The value given to `±significand · 10^exponent`: the significand is rounded first, then
scaled. The result can differ from the nearest number in its last bit. -/
def ofDecimal (negative : Bool) (significand : Nat) (exponent : Int) : Option Binary64 := do
  let f ← round false significand 1
  let g ← scaleByTen exponent.natAbs f exponent
  some (g.withSign negative)

/-- A power of ten beyond every number: ten to a greater one is too large, and one over it rounds
to zero. -/
def farPower : Nat := 400

/-- The number nearest to `±significand · 10^exponent`. None if it is too large. -/
def nearestDecimal (negative : Bool) (significand : Nat) (exponent : Int) : Option Binary64 :=
  if significand = 0 then some (zero negative)
  else if farPower < exponent then none
  else if exponent + significand.log2 < -farPower then some (zero negative)
  else if 0 ≤ exponent then round negative (significand * Nat.pow 10 exponent.toNat) 1
  else round negative significand (Nat.pow 10 (-exponent).toNat)

end Binary64

end WikiMarkup
