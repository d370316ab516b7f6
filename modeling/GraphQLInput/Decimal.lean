/-!
# Decimal numbers

A decimal number is a whole coefficient times a power of ten. Numbers are read from the notation
that documents and JSON share: an optional minus, digits, an optional fraction and an optional
exponent. A layout says how one is written.
-/
namespace GraphQLInput

/-- The number `coefficient * 10 ^ exponent`. -/
structure Decimal where
  coefficient : Nat
  exponent : Int
  deriving DecidableEq, Repr

/-- The quotient rounded to the nearest whole number, a half to the even neighbour. -/
def roundDiv (num den : Nat) : Nat :=
  let q := num / den
  let r := num % den
  if 2 * r < den then q else if den < 2 * r then q + 1 else q + q % 2

theorem roundDiv_le_succ (num den : Nat) : roundDiv num den ≤ num / den + 1 := by
  simp only [roundDiv]
  split
  · omega
  · split <;> omega

namespace Digits

/-- The whole number that the digits denote, nothing for no digit or another character. -/
def read? (cs : List Char) : Option Nat :=
  if !cs.isEmpty && cs.all Char.isDigit then some (Nat.ofDigitChars 10 cs 0) else none

theorem read?_toDigits (n : Nat) : read? (Nat.toDigits 10 n) = some n := by
  have hd : (Nat.toDigits 10 n).all Char.isDigit = true :=
    List.all_eq_true.2 fun _ h => Nat.isDigit_of_mem_toDigits (by decide) (by decide) h
  simp [read?, hd, Nat.toDigits_ne_nil, Nat.ofDigitChars_toDigits]

/-- An optional sign before digits. -/
def readSigned? : List Char → Option Int
  | '-' :: cs => (read? cs).map fun n => -(n : Int)
  | '+' :: cs => (read? cs).map fun n => (n : Int)
  | cs => (read? cs).map fun n => (n : Int)

end Digits

/-- The whole number that a text of an optional sign and digits denotes. -/
def integer? (text : String) : Option Int :=
  Digits.readSigned? text.toList

/-- A text of digits, fraction and exponent as a sign and a decimal number. -/
def Decimal.read? (text : String) : Option (Bool × Decimal) := do
  let cs := text.toList
  let negative := cs.head? == some '-'
  let cs := if negative then cs.tail else cs
  let mantissa := cs.takeWhile fun c => c ≠ 'e' ∧ c ≠ 'E'
  let whole := mantissa.takeWhile (· ≠ '.')
  let fraction := mantissa.drop (whole.length + 1)
  let coefficient ← Digits.read? (whole ++ fraction)
  let exponent ← match cs.drop mantissa.length with
    | [] => some 0
    | _ :: digits => Digits.readSigned? digits
  return (negative, ⟨coefficient, exponent - fraction.length⟩)

namespace Decimal

/-- The number as a quotient of whole numbers. -/
def ratio (d : Decimal) : Nat × Nat :=
  if 0 ≤ d.exponent then (d.coefficient * Nat.pow 10 d.exponent.toNat, 1)
  else (d.coefficient, Nat.pow 10 (-d.exponent).toNat)

/-- The power of ten of the leading digit. -/
def magnitude (d : Decimal) : Int :=
  (Nat.toDigits 10 d.coefficient).length - 1 + d.exponent

/-- How numbers are written: from which power of ten of the leading digit to which in positional
notation, always with a fraction, and otherwise with a signed exponent. -/
structure Layout where
  leastPositional : Int
  greatestPositional : Int

/-- The digits of the coefficient without the zeros at its end. -/
def significant (d : Decimal) : List Char :=
  ((Nat.toDigits 10 d.coefficient).reverse.dropWhile (· = '0')).reverse

def positional (digits : List Char) (magnitude : Int) : List Char :=
  if magnitude < 0 then
    '0' :: '.' :: (List.replicate (-magnitude - 1).toNat '0' ++ digits)
  else
    let places := magnitude.toNat + 1
    let whole := digits.take places ++ List.replicate (places - digits.length) '0'
    let fraction := if digits.length ≤ places then ['0'] else digits.drop places
    whole ++ '.' :: fraction

def scientific (digits : List Char) (magnitude : Int) : List Char :=
  let fraction := if digits.length ≤ 1 then [] else '.' :: digits.drop 1
  let sign := if magnitude < 0 then '-' else '+'
  digits.take 1 ++ fraction ++ 'e' :: sign :: Nat.toDigits 10 magnitude.natAbs

/-- The text of a decimal number in a layout; zero is positional. -/
def text (layout : Layout) (d : Decimal) : String :=
  let digits := d.significant
  if digits.isEmpty then "0.0"
  else if layout.leastPositional ≤ d.magnitude ∧ d.magnitude ≤ layout.greatestPositional then
    String.ofList (positional digits d.magnitude)
  else String.ofList (scientific digits d.magnitude)

end Decimal

end GraphQLInput
