-- SUMMARY: The shortest decimal that reads back as a given binary number, and its usual text.
import WikiMarkup.Number.Binary64

/-!
# Shortest decimals

The reals that round to a number form an interval around it, which holds its ends exactly when the
significand is even. `shortest` takes the greatest power of ten that has a multiple in the
interval, and of the multiples the one nearest to the number. `text` writes it with a decimal
point, positionally while the point falls near the digits and with an exponent otherwise.
-/

namespace WikiMarkup.Binary64

/-! ## Digits -/

/-- `base^exponent` as a numerator and a denominator. -/
def powerRatio (base : Nat) (exponent : Int) : Nat × Nat :=
  if 0 ≤ exponent then (Nat.pow base exponent.toNat, 1) else (1, Nat.pow base (-exponent).toNat)

/-- The multiple of `10^k` nearest to `f` among those that read back as `f`, as its factor.

All quantities are counted in quarters of the unit of the significand: `f` is `4 · significand`, the
upper end of its interval two more, and the lower end two less, or one less where the unit below is
half as large. -/
def multipleIn (f : Binary64) (k : Int) : Option Nat :=
  let unit := powerRatio 2 (f.exponent - 2)
  let power := powerRatio 10 k
  let a := power.1 * unit.2
  let b := unit.1 * power.2
  let middle := 4 * f.significand * b
  let low := (4 * f.significand - if f.significand = leastNormal ∧ minExponent < f.exponent then 1 else 2) * b
  let high := (4 * f.significand + 2) * b
  let inside := fun c : Nat =>
    if f.significand % 2 = 0 then low ≤ c * a ∧ c * a ≤ high else low < c * a ∧ c * a < high
  let below := middle / a
  let above := below + 1
  let gapBelow := middle - below * a
  let gapAbove := above * a - middle
  let nearer :=
    if gapBelow < gapAbove then below
    else if gapAbove < gapBelow then above
    else below + below % 2
  if inside below ∧ inside above then some nearer
  else if inside below then some below
  else if inside above then some above
  else none

/-- Lowers the power of ten from `10^k` until it has a multiple that reads back. -/
def shortestFrom (f : Binary64) : Nat → Int → Nat × Int
  | 0, k => (0, k)
  | fuel + 1, k =>
    match multipleIn f k with
    | some c => (c, k)
    | none => shortestFrom f fuel (k - 1)

/-- A factor `c` and an exponent `k` such that `c · 10^k` is the shortest decimal that reads back as
the magnitude of `f`. -/
def shortest (f : Binary64) : Nat × Int :=
  if f.significand = 0 then (0, 0)
  else
    let bits := (f.significand.log2 : Int) + f.exponent + 1
    shortestFrom f 24 (bits * 30103 / 100000 + 2)

/-! ## Text -/

/-- The text of an integer, with a sign only if it is negative. -/
def integerText (i : Int) : List Char :=
  if i < 0 then '-' :: Nat.toDigits 10 i.natAbs else Nat.toDigits 10 i.natAbs

/-- The text of an exponent: its sign, and two digits or more. -/
def exponentText (e : Int) : List Char :=
  let digits := Nat.toDigits 10 e.natAbs
  (if e < 0 then '-' else '+') :: (if e.natAbs < 10 then '0' :: digits else digits)

/-- The digits of `c · 10^k` with a decimal point: positional where the point stands at most
sixteen places after the first digit or at most four zeros before it, and otherwise the first
digit, the rest after a point, and the exponent. -/
def decimalText (c : Nat) (k : Int) : List Char :=
  let digits := Nat.toDigits 10 c
  let point : Int := digits.length + k
  if 0 ≤ k ∧ point ≤ 16 then digits ++ List.replicate k.toNat '0' ++ ['.', '0']
  else if 0 < point ∧ point ≤ 16 then
    digits.take point.toNat ++ '.' :: digits.drop point.toNat
  else if -5 < point ∧ point ≤ 0 then
    ['0', '.'] ++ List.replicate (-point).toNat '0' ++ digits
  else
    match digits with
    | [d] => d :: 'e' :: exponentText (point - 1)
    | d :: ds => d :: '.' :: ds ++ 'e' :: exponentText (point - 1)
    | [] => []

/-- The text of a number: its shortest decimal, with a sign if it is negative. -/
def text (f : Binary64) : List Char :=
  let digits := if f.significand = 0 then ['0', '.', '0'] else decimalText f.shortest.1 f.shortest.2
  if f.negative then '-' :: digits else digits

end WikiMarkup.Binary64
