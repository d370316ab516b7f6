import GraphQLInput.Literal.Read
/-!
# Numbers read back from their texts

The decimal text of a whole number denotes that number, read as an integer and rounded as a floating
point number. Every floating point number has a text that denotes it exactly, so it reads back too.
-/
namespace GraphQLInput

namespace Digits

private theorem isDigit_of_read? {cs : List Char} {n : Nat} (h : read? cs = some n) :
    ∀ c ∈ cs, c.isDigit = true := by
  rw [read?] at h
  split at h
  · rename_i hd
    rw [Bool.and_eq_true] at hd
    exact List.all_eq_true.1 hd.2
  · cases h

private theorem readSigned?_of_read? {cs : List Char} {n : Nat} (h : read? cs = some n) :
    readSigned? cs = some (n : Int) := by
  unfold readSigned?
  split
  · exact absurd (isDigit_of_read? h '-' List.mem_cons_self) (by decide)
  · exact absurd (isDigit_of_read? h '+' List.mem_cons_self) (by decide)
  · rw [h]
    rfl

private theorem length_toDigits_mono {m n : Nat} (h : m ≤ n) :
    (Nat.toDigits 10 m).length ≤ (Nat.toDigits 10 n).length := by
  have hn : n < 10 ^ (Nat.toDigits 10 n).length :=
    (Nat.length_toDigits_le_iff (by decide) Nat.length_toDigits_pos).1 (Nat.le_refl _)
  exact (Nat.length_toDigits_le_iff (by decide) Nat.length_toDigits_pos).2 (Nat.lt_of_le_of_lt h hn)

end Digits

private theorem toList_toString_int (i : Int) :
    (toString i).toList = (if i < 0 then ['-'] else []) ++ Nat.toDigits 10 i.natAbs := by
  rw [Int.toString_eq_repr, Int.repr_eq_if]
  by_cases hi : 0 ≤ i
  · have habs : i.toNat = i.natAbs := by omega
    rw [if_pos hi, if_neg (by omega), Nat.toList_repr, habs, List.nil_append]
  · have habs : (-i).toNat = i.natAbs := by omega
    rw [if_neg hi, if_pos (by omega), String.toList_append, Nat.toList_repr, habs]
    rfl

/-- The text of a whole number denotes it. -/
theorem integer?_toString (i : Int) : integer? (toString i) = some i := by
  have hd := Digits.read?_toDigits i.natAbs
  rw [integer?, toList_toString_int]
  by_cases hi : i < 0
  · have hneg : -(i.natAbs : Int) = i := by omega
    rw [if_pos hi, List.singleton_append, Digits.readSigned?, hd]
    exact congrArg some hneg
  · have hpos : (i.natAbs : Int) = i := by omega
    rw [if_neg hi, List.nil_append, Digits.readSigned?_of_read? hd, hpos]

namespace Decimal

/-- Digits denote their number, times a power of ten where an exponent follows. -/
theorem read?_of_digits {text : String} {negative : Bool} {digits suffix : List Char} {n : Nat}
    {e : Int} (ht : text.toList = (if negative then ['-'] else []) ++ (digits ++ suffix))
    (hn : Digits.read? digits = some n)
    (he : suffix = [] ∧ e = 0 ∨ ∃ es, suffix = 'e' :: es ∧ Digits.readSigned? es = some e) :
    read? text = some (negative, ⟨n, e⟩) := by
  have hd : ∀ c ∈ digits, c.isDigit = true := Digits.isDigit_of_read? hn
  have hmark : ∀ c ∈ digits, (decide (c ≠ 'e' ∧ c ≠ 'E')) = true := by
    intro c hc
    rw [decide_eq_true_iff]
    constructor <;> rintro rfl <;> exact absurd (hd _ hc) (by decide)
  have hpoint : ∀ c ∈ digits, (decide (c ≠ '.')) = true := by
    intro c hc
    rw [decide_eq_true_iff]
    rintro rfl
    exact absurd (hd _ hc) (by decide)
  have hhead : (text.toList.head? == some '-') = negative := by
    rw [ht]
    cases negative with
    | true => rfl
    | false =>
        cases digits with
        | nil => cases hn
        | cons c cs =>
            have hc : c ≠ '-' := by
              rintro rfl
              exact absurd (hd _ List.mem_cons_self) (by decide)
            simp [hc]
  have htail : (if negative then text.toList.tail else text.toList) = digits ++ suffix := by
    rw [ht]
    cases negative <;> rfl
  have hmantissa : (digits ++ suffix).takeWhile (fun c => c ≠ 'e' ∧ c ≠ 'E') = digits := by
    rw [List.takeWhile_append_of_pos hmark]
    rcases he with ⟨rfl, -⟩ | ⟨es, rfl, -⟩ <;> simp
  have hwhole : digits.takeWhile (· ≠ '.') = digits := by
    simpa using @List.takeWhile_append_of_pos _ _ digits [] hpoint
  have hfraction : digits.drop (digits.length + 1) = [] :=
    List.drop_of_length_le (Nat.le_succ _)
  rw [read?]
  simp only [hhead, htail, hmantissa, hwhole, hfraction, List.append_nil, hn, List.drop_left]
  rcases he with ⟨rfl, rfl⟩ | ⟨es, rfl, hes⟩
  · simp
  · simp [hes]

end Decimal

theorem Literal.wholeNumber?_text (n : WholeNumber) :
    Literal.wholeNumber? n.text = if n.val < 0x8000000000000000 then some n else none := by
  rw [wholeNumber?, WholeNumber.text, integer?_toString, Option.filter_some]
  by_cases h : n.val < 0x8000000000000000
  · rw [if_pos (decide_eq_true h), if_pos h, Option.bind_some, WholeNumber.ofInt?_val]
  · rw [if_neg (mt of_decide_eq_true h), if_neg h, Option.bind_none]

private theorem roundDiv_mul (n : Nat) {den : Nat} (hden : 0 < den) :
    roundDiv (n * den) den = n := by
  simp only [roundDiv, Nat.mul_mod_left, Nat.mul_zero, hden, if_true, Nat.mul_div_cancel _ hden]

namespace Binary64

private theorem scale_add_significand (magnitude : Nat) :
    scale magnitude * 0x10000000000000 + significand magnitude = magnitude := by
  rw [significand, scale]
  split <;> omega

private theorem significand_lt (magnitude : Nat) : significand magnitude < 0x20000000000000 := by
  rw [significand]
  split <;> omega

private theorem significand_pos {magnitude : Nat} (h : magnitude ≠ 0) :
    0 < significand magnitude := by
  rw [significand]
  split <;> omega

private theorem shiftLeft_pos {n : Nat} (h : 0 < n) (e : Nat) : 0 < n <<< e := by
  rw [Nat.shiftLeft_eq]
  exact Nat.mul_pos h (Nat.two_pow_pos e)

private theorem log2_shiftLeft {n : Nat} (h : 0 < n) (e : Nat) : (n <<< e).log2 = n.log2 + e := by
  have hlower := Nat.mul_le_mul_right (2 ^ e) (Nat.log2_self_le (Nat.ne_of_gt h))
  have hupper := Nat.mul_lt_mul_of_pos_right (@Nat.lt_log2_self n) (Nat.two_pow_pos e)
  rw [← Nat.pow_add] at hlower hupper
  rw [Nat.log2_eq_iff (Nat.ne_of_gt (shiftLeft_pos h e)), Nat.shiftLeft_eq]
  exact ⟨hlower, Nat.lt_of_lt_of_eq hupper (by rw [Nat.add_right_comm])⟩

private theorem log2_scaled (magnitude : Nat) :
    (significand magnitude <<< scale magnitude).log2 - 52 = scale magnitude := by
  by_cases hzero : magnitude = 0
  · subst hzero
    decide
  have hpos := significand_pos hzero
  have hlt := significand_lt magnitude
  have hlog : (significand magnitude <<< scale magnitude).log2 =
      (significand magnitude).log2 + scale magnitude := by
    exact log2_shiftLeft hpos _
  have hupper : (significand magnitude).log2 < 53 :=
    (Nat.log2_lt (Nat.pos_iff_ne_zero.1 hpos)).2 hlt
  rw [hlog]
  by_cases hm : magnitude < 0x10000000000000
  · have hscale : scale magnitude = 0 := by
      rw [scale]
      omega
    omega
  · have hlower : 52 ≤ (significand magnitude).log2 := by
      rw [Nat.le_log2 (Nat.pos_iff_ne_zero.1 hpos), significand, if_neg hm]
      exact Nat.le_add_right _ _
    omega

/-- A quotient that is a number of the format is rounded to that number. -/
theorem nearest_exact {num den magnitude : Nat} (hden : 0 < den)
    (h : num * unitsInOne = significand magnitude <<< scale magnitude * den) :
    nearest num den = magnitude := by
  have hround : roundDiv (significand magnitude <<< scale magnitude * den)
      (den <<< scale magnitude) = significand magnitude := by
    have hswap : significand magnitude <<< scale magnitude * den =
        significand magnitude * den <<< scale magnitude := by
      rw [Nat.shiftLeft_eq, Nat.shiftLeft_eq, Nat.mul_assoc, Nat.mul_comm (2 ^ _)]
    rw [hswap]
    exact roundDiv_mul _ (shiftLeft_pos hden _)
  rw [nearest]
  simp only [h, Nat.mul_div_cancel _ hden, log2_scaled]
  rw [hround]
  exact scale_add_significand magnitude

private theorem nearest_zero : nearest 0 1 = 0 :=
  nearest_exact Nat.one_pos (by simp [significand])

private theorem read?_of_decimal {text : String} {negative : Bool} {d : Decimal}
    (h : Decimal.read? text = some (negative, d)) : read? text = ofDecimal? negative d := by
  rw [read?, h]
  rfl

private theorem ofDecimal?_of_zero {negative : Bool} {d : Decimal} (h : d.coefficient = 0) :
    ofDecimal? negative d = some (zero negative) :=
  if_pos (.inl h)

private theorem ofDecimal?_of_ne_zero {negative : Bool} {d : Decimal} (h : d.coefficient ≠ 0)
    (hlower : -400 ≤ d.magnitude) (hupper : d.magnitude ≤ 400) :
    ofDecimal? negative d = ofRatio? negative d.ratio.1 d.ratio.2 := by
  rw [ofDecimal?, if_neg (not_or.2 ⟨h, Int.not_lt.2 hlower⟩), if_neg (Int.not_lt.2 hupper)]

/-- The text of a whole number is read as the floating point number nearest to it. -/
theorem read?_text (n : WholeNumber) : read? n.text = some n.toBinary64 := by
  have hlower := n.lower
  have hupper := n.upper
  have hdecimal : Decimal.read? n.text = some (decide (n.val < 0), ⟨n.val.natAbs, 0⟩) := by
    apply Decimal.read?_of_digits _ (Digits.read?_toDigits _) (.inl ⟨rfl, rfl⟩)
    rw [WholeNumber.text, toList_toString_int, List.append_nil]
    simp only [decide_eq_true_eq]
  have hlength : (Nat.toDigits 10 n.val.natAbs).length ≤ 20 :=
    (Nat.length_toDigits_le_iff (by decide) (by decide)).2 (by omega)
  rw [read?_of_decimal hdecimal, WholeNumber.toBinary64, ofInt]
  by_cases hzero : n.val.natAbs = 0
  · rw [ofDecimal?_of_zero hzero]
    simp only [hzero, nearest_zero, zero]
  · rw [ofDecimal?_of_ne_zero hzero (by simp only [Decimal.magnitude]; omega)
      (by simp only [Decimal.magnitude]; omega)]
    simp only [ofRatio?, Decimal.ratio, Int.le_refl, if_true, Int.toNat_zero, Nat.pow_eq,
      Nat.pow_zero, Nat.mul_one]
    exact dif_pos (nearest_one_lt (by omega))

/-- How many units of `10 ^ (-1074)` a magnitude is. -/
def exactCoefficient (magnitude : Nat) : Nat :=
  significand magnitude <<< scale magnitude * Nat.pow 5 leastPower

/-- The decimal text that denotes the number exactly, of more digits than are needed. -/
def exactText (x : Binary64) : String :=
  String.ofList ((if x.negative then ['-'] else []) ++
    (Nat.toDigits 10 (exactCoefficient x.magnitude) ++
      'e' :: '-' :: Nat.toDigits 10 leastPower))

private theorem powerOfFive_pos : 0 < Nat.pow 5 leastPower := by
  decide +kernel

private theorem exactCoefficient_pos {magnitude : Nat} (h : magnitude ≠ 0) :
    0 < exactCoefficient magnitude :=
  Nat.mul_pos (shiftLeft_pos (significand_pos h) _) powerOfFive_pos

private theorem length_exactCoefficient_gt {magnitude : Nat} (h : magnitude ≠ 0) :
    700 < (Nat.toDigits 10 (exactCoefficient magnitude)).length := by
  have hleast : 700 < (Nat.toDigits 10 (Nat.pow 5 leastPower)).length := by decide +kernel
  refine Nat.lt_of_lt_of_le hleast (Digits.length_toDigits_mono ?_)
  exact Nat.le_mul_of_pos_left _ (shiftLeft_pos (significand_pos h) _)

private theorem exactCoefficient_lt {magnitude greatest : Nat} (h : scale magnitude ≤ greatest) :
    exactCoefficient magnitude < 0x20000000000000 <<< greatest * Nat.pow 5 leastPower := by
  apply Nat.mul_lt_mul_of_pos_right _ powerOfFive_pos
  rw [Nat.shiftLeft_eq, Nat.shiftLeft_eq]
  exact Nat.mul_lt_mul_of_lt_of_le (significand_lt magnitude)
    (Nat.pow_le_pow_right (by decide) h) (Nat.two_pow_pos _)

private theorem length_exactCoefficient_le {magnitude : Nat} (h : magnitude < 0x7FF0000000000000) :
    (Nat.toDigits 10 (exactCoefficient magnitude)).length ≤ 1400 := by
  have hscale : scale magnitude ≤ 2045 := by
    rw [scale]
    omega
  have hgreatest : (Nat.toDigits 10 (0x20000000000000 <<< 2045 * Nat.pow 5 leastPower)).length ≤
      1400 := by decide +kernel
  refine Nat.le_trans (Digits.length_toDigits_mono ?_) hgreatest
  exact Nat.le_of_lt (exactCoefficient_lt hscale)

private theorem nearest_exactCoefficient (magnitude : Nat) :
    nearest (exactCoefficient magnitude) (Nat.pow 10 leastPower) = magnitude := by
  have hpos : 0 < Nat.pow 10 leastPower := by decide +kernel
  have hten : Nat.pow 5 leastPower * unitsInOne = Nat.pow 10 leastPower := by decide +kernel
  refine nearest_exact hpos ?_
  rw [exactCoefficient, Nat.mul_assoc, hten]

private theorem decimalRead?_exactText (x : Binary64) :
    Decimal.read? x.exactText = some (x.negative, ⟨exactCoefficient x.magnitude, -leastPower⟩) := by
  have hexponent : Digits.readSigned? ('-' :: Nat.toDigits 10 leastPower) =
      some (-(leastPower : Int)) := by
    rw [Digits.readSigned?, Digits.read?_toDigits]
    rfl
  refine Decimal.read?_of_digits ?_ (Digits.read?_toDigits _) (.inr ⟨_, rfl, hexponent⟩)
  rw [exactText, String.toList_ofList]

private theorem ofDecimal?_exact {negative : Bool} {magnitude : Nat}
    (h : magnitude < 0x7FF0000000000000) (hzero : magnitude ≠ 0) :
    ofDecimal? negative ⟨exactCoefficient magnitude, -leastPower⟩ =
      some ⟨negative, magnitude, h⟩ := by
  have hmore := length_exactCoefficient_gt hzero
  have hless := length_exactCoefficient_le h
  have hleast : (leastPower : Int) = 1074 := rfl
  have hratio : Decimal.ratio ⟨exactCoefficient magnitude, -leastPower⟩ =
      (exactCoefficient magnitude, Nat.pow 10 leastPower) := by
    rw [Decimal.ratio, if_neg (by simp only; omega), Int.neg_neg, Int.toNat_natCast]
  rw [ofDecimal?_of_ne_zero, hratio, ofRatio?]
  · simp only [nearest_exactCoefficient, h, dif_pos]
  · exact Nat.ne_of_gt (exactCoefficient_pos hzero)
  · simp only [Decimal.magnitude]
    omega
  · simp only [Decimal.magnitude]
    omega

/-- Every floating point number is denoted by a text. -/
theorem read?_exactText (x : Binary64) : read? x.exactText = some x := by
  rw [read?_of_decimal (decimalRead?_exactText x)]
  obtain ⟨negative, magnitude, hfinite⟩ := x
  by_cases hzero : magnitude = 0
  · subst hzero
    exact ofDecimal?_of_zero (by simp [exactCoefficient, significand])
  · exact ofDecimal?_exact hfinite hzero

end Binary64

end GraphQLInput
