import GraphQLInput.Decimal
/-!
# Finite binary64 numbers

A finite number of the 64-bit binary format is a sign and a magnitude. Magnitudes are counted in
their order, from zero: the count of a number is the 63-bit word that encodes it. Quotients of whole
numbers are rounded to the nearest magnitude, a tie to the even one.
-/
namespace GraphQLInput

/-- From the word `0x7FF0000000000000` on, which encodes infinity, no magnitude is finite. -/
structure Binary64 where
  negative : Bool
  magnitude : Nat
  finite : magnitude < 0x7FF0000000000000
  deriving DecidableEq

namespace Binary64

def zero (negative : Bool) : Binary64 :=
  ⟨negative, 0, by decide⟩

/-- How often the spacing of the smallest magnitudes doubles up to this one. -/
def scale (magnitude : Nat) : Nat :=
  magnitude / 0x10000000000000 - 1

/-- The smallest positive number is `2 ^ (-leastPower)`. -/
def leastPower : Nat :=
  1074

/-- How many smallest positive numbers make one. -/
def unitsInOne : Nat :=
  1 <<< leastPower

/-- A magnitude is its significand times `2 ^ scale` smallest numbers. -/
def significand (magnitude : Nat) : Nat :=
  if magnitude < 0x10000000000000 then magnitude
  else 0x10000000000000 + magnitude % 0x10000000000000

/-- The magnitude nearest to a quotient, as if there were no greatest one. -/
def nearest (num den : Nat) : Nat :=
  let units := num * unitsInOne
  let scale := (units / den).log2 - 52
  scale * 0x10000000000000 + roundDiv units (den <<< scale)

/-- The number nearest to a quotient with a sign, nothing beyond the greatest finite one. -/
def ofRatio? (negative : Bool) (num den : Nat) : Option Binary64 :=
  if h : nearest num den < 0x7FF0000000000000 then some ⟨negative, nearest num den, h⟩ else none

private theorem roundDiv_scale_le (units : Nat) :
    roundDiv units (1 <<< (units.log2 - 52)) ≤ 0x20000000000000 := by
  rw [Nat.one_shiftLeft]
  have hs : units < 2 ^ 53 * 2 ^ (units.log2 - 52) := by
    rw [← Nat.pow_add]
    exact Nat.lt_of_lt_of_le Nat.lt_log2_self (Nat.pow_le_pow_right (by decide) (by omega))
  have hq : units / 2 ^ (units.log2 - 52) < 2 ^ 53 :=
    Nat.div_lt_of_lt_mul (by rwa [Nat.mul_comm])
  have hr := roundDiv_le_succ units (2 ^ (units.log2 - 52))
  omega

private theorem log2_mul_shiftLeft_lt {n a : Nat} (e : Nat) (ha : 0 < a) (hn : n < 1 <<< a) :
    (n * 1 <<< e).log2 < a + e := by
  rw [Nat.one_shiftLeft] at hn ⊢
  by_cases h0 : n = 0
  · subst h0
    rw [Nat.zero_mul, Nat.log2_zero]
    omega
  · rw [Nat.log2_lt (Nat.mul_ne_zero h0 (Nat.pos_iff_ne_zero.1 (Nat.two_pow_pos e))), Nat.pow_add]
    exact Nat.mul_lt_mul_of_pos_right hn (Nat.two_pow_pos e)

theorem nearest_one_lt {n : Nat} (hn : n < 0x20000000000000000) :
    nearest n 1 < 0x7FF0000000000000 := by
  have hl : (n * unitsInOne).log2 < 65 + leastPower :=
    log2_mul_shiftLeft_lt leastPower (by decide) hn
  have he : leastPower = 1074 := rfl
  have hr := roundDiv_scale_le (n * unitsInOne)
  simp only [nearest, Nat.div_one, Nat.one_shiftLeft] at hr ⊢
  omega

/-- The number nearest to a whole number that fits in 64 bits or a sign and 64 bits. -/
def ofInt (n : Int) (h : n.natAbs < 0x20000000000000000) : Binary64 :=
  ⟨n < 0, nearest n.natAbs 1, nearest_one_lt h⟩

/-- The number nearest to a decimal one. Numbers whose leading digit is far outside the range of the
format are settled by it alone. -/
def ofDecimal? (negative : Bool) (d : Decimal) : Option Binary64 :=
  if d.coefficient = 0 ∨ d.magnitude < -400 then some (zero negative)
  else if 400 < d.magnitude then none
  else ofRatio? negative d.ratio.1 d.ratio.2

/-- Reads a decimal text, nothing where it is none or its value is beyond the finite numbers. -/
def read? (text : String) : Option Binary64 :=
  (Decimal.read? text).bind fun (negative, d) => ofDecimal? negative d

/-!
## The shortest decimal text

For one digit, two digits and so on, the two neighbours of the number on the grid of that many
digits are tried. The first grid that holds one which reads back gives the digits: of two, the
nearer one, and of two at one distance the one that ends in an even digit. Seventeen digits always
read back.
-/

/-- The absolute value as a quotient of whole numbers. -/
def ratio (x : Binary64) : Nat × Nat :=
  (significand x.magnitude <<< scale x.magnitude, unitsInOne)

/-- The power of ten of the leading digit of a positive quotient. -/
def leadingPower (num den : Nat) : Int :=
  ((Nat.toDigits 10 (num * Nat.pow 10 400 / den)).length : Int) - 401

def readsBack (x : Binary64) (d : Decimal) : Bool :=
  (ofDecimal? x.negative d).any (· = x)

/-- The better of the two neighbours of a quotient on the grid `10 ^ exponent` that reads back. -/
def onGrid? (x : Binary64) (num den : Nat) (exponent : Int) : Option Decimal :=
  let (num, den) :=
    if 0 ≤ exponent then (num, den * Nat.pow 10 exponent.toNat)
    else (num * Nat.pow 10 (-exponent).toNat, den)
  let below : Decimal := ⟨num / den, exponent⟩
  let above : Decimal := ⟨num / den + 1, exponent⟩
  match readsBack x below, readsBack x above with
  | true, true => some ⟨roundDiv num den, exponent⟩
  | true, false => some below
  | false, true => some above
  | false, false => none

/-- The fewest digits that read back, and the nearest to the number among these. -/
def shortest (x : Binary64) : Decimal :=
  let (num, den) := x.ratio
  let power := leadingPower num den
  if x.magnitude = 0 then ⟨0, 0⟩
  else ((List.range 17).findSome? fun (n : Nat) => onGrid? x num den (power - n)).getD ⟨0, 0⟩

/-- The text of a number in a layout, its sign in front also for zero. -/
def text (layout : Decimal.Layout) (x : Binary64) : String :=
  (if x.negative then "-" else "") ++ x.shortest.text layout

end Binary64

end GraphQLInput
