import ConnectionJobs.Double.Nearest
import ConnectionJobs.Double.Shortest
import Mathlib.Data.Int.Log
import Mathlib.Data.Rat.Floor
import Mathlib.Tactic.Linarith
import Mathlib.Tactic.NormNum
import Mathlib.Tactic.Ring

/-!
# Doubles that are read back

A double is written as a decimal and read as the double nearest to it. Two things make this give the number back.
The nearest double depends only on the number that is written, not on the fraction it is written as: the scale of the
significand is the binary logarithm of the number (`scaleFor_eq`), and rounding does not see common factors. And the
double nearest to the exact value of a double is that double, so that the search for the shortest decimal, which
checks what it finds, has the exact decimal to fall back on.
-/

namespace ConnectionJobs

/-- Rounding a quotient does not see common factors. -/
theorem roundedQuotient_mul (n d : Nat) {c : Nat} (hc : 0 < c) :
    roundedQuotient (n * c) (d * c) = roundedQuotient n d := by
  unfold roundedQuotient
  have below (a b : Nat) : 2 * (a * c) < b * c ↔ 2 * a < b := by
    rw [← Nat.mul_assoc]
    exact Nat.mul_lt_mul_right hc
  have above (a b : Nat) : b * c < 2 * (a * c) ↔ b < 2 * a := by
    rw [← Nat.mul_assoc]
    exact Nat.mul_lt_mul_right hc
  simp only [Nat.mul_div_mul_right n d hc, Nat.mul_mod_mul_right, below, above, gt_iff_lt]

theorem roundedQuotient_one (n : Nat) : roundedQuotient n 1 = n := by
  unfold roundedQuotient
  rw [Nat.div_one, Nat.mod_one]
  rfl

namespace Double

/-! ## The nearest double depends on the number alone -/

/-- The value of a scaled fraction. -/
theorem scaledFraction_div (n d : Nat) (s : Int) :
    ((scaledFraction n d s).1 : ℚ) / (scaledFraction n d s).2 = (n : ℚ) / d / 2 ^ s := by
  unfold scaledFraction
  simp only [Nat.pow_eq]
  obtain ⟨k, rfl | rfl⟩ := s.eq_nat_or_neg
  · rw [Int.toNat_natCast, Int.toNat_neg_natCast, zpow_natCast, Nat.pow_zero, Nat.mul_one]
    push_cast
    rw [div_div]
  · rw [neg_neg, Int.toNat_natCast, Int.toNat_neg_natCast, zpow_neg, zpow_natCast, Nat.pow_zero, Nat.mul_one]
    push_cast
    rw [div_inv_eq_mul, mul_div_right_comm]

theorem scaledFraction_pos {d : Nat} (hd : 0 < d) (n : Nat) (s : Int) : 0 < (scaledFraction n d s).2 :=
  Nat.mul_pos hd (Nat.pow_pos (by decide))

/-- The binary logarithm of a natural number, as bounds on its value. -/
theorem log2_bounds {n : Nat} (hn : 0 < n) : (2 : ℚ) ^ (n.log2 : Int) ≤ n ∧ (n : ℚ) < 2 ^ ((n.log2 : Int) + 1) := by
  constructor
  · rw [zpow_natCast]
    exact_mod_cast Nat.log2_self_le hn.ne'
  · rw [← Nat.cast_succ, zpow_natCast]
    exact_mod_cast Nat.lt_log2_self

section Scale

variable {n d : Nat}

theorem quotient_pos (hn : 0 < n) (hd : 0 < d) : (0 : ℚ) < (n : ℚ) / d :=
  div_pos (by exact_mod_cast hn) (by exact_mod_cast hd)

/-- The logarithm of a quotient is at most the difference of the logarithms. -/
theorem log_quotient_lt (hn : 0 < n) (hd : 0 < d) :
    Int.log 2 ((n : ℚ) / d) < (n.log2 : Int) + 1 - d.log2 := by
  have hd' : (0 : ℚ) < d := by exact_mod_cast hd
  rw [← Int.lt_zpow_iff_log_lt (by decide) (quotient_pos hn hd), div_lt_iff₀ hd']
  refine (log2_bounds hn).2.trans_le ?_
  have split : (2 : ℚ) ^ ((n.log2 : Int) + 1) = 2 ^ ((n.log2 : Int) + 1 - d.log2) * 2 ^ (d.log2 : Int) := by
    rw [← zpow_add₀ two_ne_zero, sub_add_cancel]
  push_cast
  rw [split]
  exact mul_le_mul_of_nonneg_left (log2_bounds hd).1 (zpow_nonneg zero_le_two _)

/-- The logarithm of a quotient is at least one less than the difference of the logarithms. -/
theorem le_log_quotient (hn : 0 < n) (hd : 0 < d) :
    (n.log2 : Int) - (d.log2 + 1) ≤ Int.log 2 ((n : ℚ) / d) := by
  have hd' : (0 : ℚ) < d := by exact_mod_cast hd
  rw [← Int.zpow_le_iff_le_log (by decide) (quotient_pos hn hd), le_div_iff₀ hd']
  refine le_trans ?_ (log2_bounds hn).1
  have split : (2 : ℚ) ^ (n.log2 : Int) = 2 ^ ((n.log2 : Int) - (d.log2 + 1)) * 2 ^ ((d.log2 : Int) + 1) := by
    rw [← zpow_add₀ two_ne_zero, sub_add_cancel]
  push_cast
  rw [split]
  exact mul_le_mul_of_nonneg_left (log2_bounds hd).2.le (zpow_nonneg zero_le_two _)

/-- A number scaled by `2 ^ s` has at most fifty-three bits when its logarithm is below `s + 53`. -/
theorem scaledFraction_lt_iff (hn : 0 < n) (hd : 0 < d) (s : Int) :
    (scaledFraction n d s).1 / (scaledFraction n d s).2 < 9007199254740992 ↔
      Int.log 2 ((n : ℚ) / d) < s + 53 := by
  have hs : (0 : ℚ) < (scaledFraction n d s).2 := by exact_mod_cast scaledFraction_pos hd n s
  rw [Nat.div_lt_iff_lt_mul (scaledFraction_pos hd n s),
    ← Int.lt_zpow_iff_log_lt (by decide) (quotient_pos hn hd)]
  rw [← Nat.cast_lt (α := ℚ), Nat.cast_mul, ← div_lt_iff₀ hs, scaledFraction_div, div_lt_iff₀ (zpow_pos two_pos _)]
  have split : (2 : ℚ) ^ (s + 53) = 9007199254740992 * 2 ^ s := by
    rw [zpow_add₀ two_ne_zero, mul_comm, show (9007199254740992 : ℚ) = 2 ^ (53 : Int) by norm_num]
  push_cast
  rw [split]

/-- **The scale of a significand** is the binary logarithm of the number, less the fifty-two bits after the first. -/
theorem scaleFor_eq (hn : 0 < n) (hd : 0 < d) :
    scaleFor n d = max (Int.log 2 ((n : ℚ) / d) - 52) (-1074) := by
  have high := log_quotient_lt hn hd
  have low := le_log_quotient hn hd
  unfold scaleFor
  simp only [scaledFraction_lt_iff hn hd, sub_add_cancel]
  refine congrArg (max · (-1074)) ?_
  by_cases less : Int.log 2 ((n : ℚ) / d) < (n.log2 : Int) - d.log2
  · rw [if_pos less]
    omega
  · rw [if_neg less]
    omega

end Scale

theorem scaleFor_mul {n d c : Nat} (hn : 0 < n) (hd : 0 < d) (hc : 0 < c) :
    scaleFor (n * c) (d * c) = scaleFor n d := by
  rw [scaleFor_eq (Nat.mul_pos hn hc) (Nat.mul_pos hd hc), scaleFor_eq hn hd, Nat.cast_mul, Nat.cast_mul,
    mul_div_mul_right _ _ (by exact_mod_cast hc.ne')]

theorem nearest_zero (negative : Bool) (d : Nat) : nearest negative 0 d = zero negative := by
  unfold nearest
  exact if_pos rfl

theorem nearest_of_pos (negative : Bool) {n d : Nat} (hn : 0 < n) :
    nearest negative n d = assemble negative
      (roundedQuotient (scaledFraction n d (scaleFor n d)).1 (scaledFraction n d (scaleFor n d)).2) (scaleFor n d) := by
  unfold nearest
  exact if_neg (by rw [beq_iff_eq]; exact hn.ne')

theorem nearest_mul {n d c : Nat} (negative : Bool) (hd : 0 < d) (hc : 0 < c) :
    nearest negative (n * c) (d * c) = nearest negative n d := by
  obtain rfl | hn := n.eq_zero_or_pos
  · rw [Nat.zero_mul, nearest_zero, nearest_zero]
  · rw [nearest_of_pos negative (Nat.mul_pos hn hc), nearest_of_pos negative hn, scaleFor_mul hn hd hc]
    unfold scaledFraction
    rw [Nat.mul_right_comm n c, Nat.mul_right_comm d c, roundedQuotient_mul _ _ hc]

/-- **The nearest double depends only on the number.** -/
theorem nearest_congr {n d n' d' : Nat} (negative : Bool) (hd : 0 < d) (hd' : 0 < d') (same : n * d' = n' * d) :
    nearest negative n d = nearest negative n' d' := by
  rw [← nearest_mul negative hd hd', same, Nat.mul_comm d d', nearest_mul negative hd' hd]

/-! ## Decimals -/

theorem toDigits_mul_ten {n : Nat} (hn : 0 < n) : Nat.toDigits 10 (n * 10) = Nat.toDigits 10 n ++ ['0'] := by
  rw [Nat.toDigits_of_base_le (by decide) (by omega), Nat.mul_div_cancel n (by decide), Nat.mul_mod_left]
  rfl

theorem length_toDigits_mul_pow {n : Nat} (hn : 0 < n) (k : Nat) :
    (Nat.toDigits 10 (n * 10 ^ k)).length = (Nat.toDigits 10 n).length + k := by
  induction k with
  | zero => rw [Nat.pow_zero, Nat.mul_one, Nat.add_zero]
  | succ k ih =>
    rw [Nat.pow_succ, ← Nat.mul_assoc, toDigits_mul_ten (Nat.mul_pos hn (Nat.pow_pos (by decide))),
      List.length_append, ih]
    rfl

theorem ofDecimal_zero (negative : Bool) (e : Int) : ofDecimal negative 0 e = zero negative := by
  unfold ofDecimal
  exact if_pos rfl

/-- **A power of ten may move** between the digits and the exponent. -/
theorem ofDecimal_mul_pow (negative : Bool) (digits k : Nat) (e : Int) :
    ofDecimal negative (digits * 10 ^ k) (e - k) = ofDecimal negative digits e := by
  obtain rfl | hn := digits.eq_zero_or_pos
  · rw [Nat.zero_mul, ofDecimal_zero, ofDecimal_zero]
  · have nonzero (m : Nat) (hm : 0 < m) : ¬ (m == 0) = true := by
      rw [beq_iff_eq]
      exact hm.ne'
    have magnitude : ((Nat.toDigits 10 (digits * 10 ^ k)).length : Int) + (e - k) =
        (Nat.toDigits 10 digits).length + e := by
      rw [length_toDigits_mul_pow hn]
      push_cast
      ring
    have same : nearest negative (digits * 10 ^ k * Nat.pow 10 (e - k).toNat) (Nat.pow 10 (-(e - k)).toNat) =
        nearest negative (digits * Nat.pow 10 e.toNat) (Nat.pow 10 (-e).toNat) := by
      refine nearest_congr negative (Nat.pow_pos (by decide)) (Nat.pow_pos (by decide)) ?_
      simp only [Nat.pow_eq, Nat.mul_assoc, ← Nat.pow_add]
      congr 2
      omega
    unfold ofDecimal
    rw [if_neg (nonzero _ (Nat.mul_pos hn (Nat.pow_pos (by decide)))), if_neg (nonzero _ hn)]
    simp only [magnitude, same]

/-! ## A double is nearest to itself -/

variable {x : Double}

/-- What finite doubles look like: normal or subnormal. -/
theorem significand_cases (x : Double) :
    (x.exponent.val = 0 ∧ x.significand = x.fraction.val ∧ x.scale = -1074 ∧ x.significand < 4503599627370496) ∨
      (0 < x.exponent.val ∧ x.significand = 4503599627370496 + x.fraction.val ∧
        x.scale = (x.exponent.val : Int) - 1075 ∧ 4503599627370496 ≤ x.significand ∧
        x.significand < 9007199254740992) := by
  have bound := x.fraction.isLt
  unfold significand scale
  by_cases subnormal : x.exponent.val = 0
  · left
    rw [if_pos (by rw [beq_iff_eq]; exact subnormal), if_pos (by rw [beq_iff_eq]; exact subnormal)]
    exact ⟨subnormal, rfl, rfl, bound⟩
  · right
    rw [if_neg (by rw [beq_iff_eq]; exact subnormal), if_neg (by rw [beq_iff_eq]; exact subnormal)]
    exact ⟨by omega, rfl, rfl, by omega, by omega⟩

theorem significand_pos (nonzero : x.isZero = false) : 0 < x.significand := by
  obtain ⟨h, e, -, -⟩ | ⟨-, -, -, h, -⟩ := significand_cases x
  · rw [e]
    refine Nat.pos_of_ne_zero fun zero => ?_
    unfold isZero at nonzero
    rw [h, zero] at nonzero
    exact nomatch nonzero
  · omega

theorem ofFields_fields (x : Double) : ofFields x.negative x.exponent.val x.fraction.val = x := by
  obtain ⟨negative, exponent, fraction⟩ := x
  unfold ofFields
  congr 1
  · exact Fin.ext (Nat.mod_eq_of_lt exponent.isLt)
  · exact Fin.ext (Nat.mod_eq_of_lt fraction.isLt)

theorem numerator_pos (nonzero : x.isZero = false) : 0 < x.numerator :=
  Nat.mul_pos (significand_pos nonzero) (Nat.pow_pos (by decide))

theorem denominator_pos (x : Double) : 0 < x.denominator := Nat.pow_pos (by decide)

/-- The significand and the scale make the number. -/
theorem assemble_significand (finite : x.isFinite = true) : assemble x.negative x.significand x.scale = x := by
  have bound := x.exponent.isLt
  have finite' : x.exponent.val ≠ 2047 := by simpa [isFinite] using finite
  have fields := ofFields_fields x
  unfold assemble
  obtain ⟨h, e, scale, small⟩ | ⟨h, e, scale, large, small⟩ := significand_cases x
  · rw [if_neg (by omega)]
    simp only
    rw [h] at fields
    rw [if_pos small, e, fields]
  · rw [if_neg (by omega)]
    simp only
    rw [if_neg (by omega), scale, if_neg (by omega), e, Nat.add_sub_cancel_left,
      show ((x.exponent.val : Int) - 1075 + 1075).toNat = x.exponent.val by omega, fields]

/-- The magnitude of a number as a fraction is its significand times a power of two. -/
theorem numerator_div_denominator (x : Double) :
    (x.numerator : ℚ) / x.denominator = x.significand * 2 ^ x.scale := by
  unfold numerator denominator
  simp only [Nat.pow_eq]
  obtain ⟨k, h | h⟩ := x.scale.eq_nat_or_neg
  · rw [h, Int.toNat_natCast, Int.toNat_neg_natCast, zpow_natCast, Nat.pow_zero, Nat.cast_one, div_one]
    push_cast
    rfl
  · rw [h, neg_neg, Int.toNat_natCast, Int.toNat_neg_natCast, zpow_neg, zpow_natCast, Nat.pow_zero, Nat.mul_one]
    push_cast
    rfl

/-- **The scale of a number is the scale of its magnitude.** -/
theorem scaleFor_numerator (nonzero : x.isZero = false) : scaleFor x.numerator x.denominator = x.scale := by
  have positive := significand_pos nonzero
  have hq : (0 : ℚ) < x.significand * 2 ^ x.scale := mul_pos (by exact_mod_cast positive) (zpow_pos two_pos _)
  rw [scaleFor_eq (numerator_pos nonzero) x.denominator_pos, numerator_div_denominator]
  -- The bits of the significand add to the scale.
  have shifted (k : Nat) : (2 : ℚ) ^ (k + x.scale) = ((2 ^ k : Nat) : ℚ) * 2 ^ x.scale := by
    rw [zpow_add₀ two_ne_zero, zpow_natCast]
    push_cast
    rfl
  have below {k : Nat} (h : x.significand < 2 ^ k) : Int.log 2 ((x.significand : ℚ) * 2 ^ x.scale) < k + x.scale := by
    rw [← Int.lt_zpow_iff_log_lt (by decide) hq]
    push_cast
    rw [shifted]
    exact mul_lt_mul_of_pos_right (by exact_mod_cast h) (zpow_pos two_pos _)
  have above {k : Nat} (h : 2 ^ k ≤ x.significand) : k + x.scale ≤ Int.log 2 ((x.significand : ℚ) * 2 ^ x.scale) := by
    rw [← Int.zpow_le_iff_le_log (by decide) hq]
    push_cast
    rw [shifted]
    exact mul_le_mul_of_nonneg_right (by exact_mod_cast h) (zpow_nonneg zero_le_two _)
  obtain ⟨-, -, scale, small⟩ | ⟨normal, -, scale, large, small⟩ := significand_cases x
  · have high := below (k := 52) small
    push_cast at high
    omega
  · have high := below (k := 53) small
    have low := above (k := 52) large
    push_cast at high low
    omega

/-- **A double is the one nearest to its exact value.** -/
theorem nearest_numerator (finite : x.isFinite = true) (nonzero : x.isZero = false) :
    nearest x.negative x.numerator x.denominator = x := by
  rw [nearest_of_pos _ (numerator_pos nonzero), scaleFor_numerator nonzero]
  have scaled : scaledFraction x.numerator x.denominator x.scale =
      (x.significand * (2 ^ x.scale.toNat * 2 ^ (-x.scale).toNat), 1 * (2 ^ x.scale.toNat * 2 ^ (-x.scale).toNat)) := by
    unfold scaledFraction numerator denominator
    simp only [Nat.pow_eq, Nat.mul_assoc, Nat.one_mul]
    rw [Nat.mul_comm (2 ^ (-x.scale).toNat)]
  rw [scaled, roundedQuotient_mul _ _ (by positivity), roundedQuotient_one]
  exact assemble_significand finite

/-! ## The shortest decimal reads back -/

theorem readsAs_iff {d : Decimal} : x.readsAs d = true ↔ ofDecimal x.negative d.digits d.exponent = x := by
  unfold readsAs
  rw [beq_iff_eq]

/-- A factor of at most a power of ten adds at most so many digits. -/
theorem length_toDigits_mul_le (a : Nat) {b k : Nat} (hb : b ≤ 10 ^ k) :
    (Nat.toDigits 10 (a * b)).length ≤ (Nat.toDigits 10 a).length + k := by
  have length : 0 < (Nat.toDigits 10 a).length := Nat.length_toDigits_pos
  have below : a < 10 ^ (Nat.toDigits 10 a).length := (Nat.length_toDigits_le_iff (by decide) length).mp le_rfl
  rw [Nat.length_toDigits_le_iff (by decide) (by omega), Nat.pow_add]
  exact (Nat.mul_le_mul_left a hb).trans_lt (Nat.mul_lt_mul_of_pos_right below (Nat.pow_pos (by decide)))

/-- A finite number has at most 310 digits before the point. -/
theorem length_numerator (finite : x.isFinite = true) : (Nat.toDigits 10 x.numerator).length ≤ 310 := by
  have bound := x.exponent.isLt
  have finite' : x.exponent.val ≠ 2047 := by simpa [isFinite] using finite
  have significand : x.significand ≤ 9007199254740992 := by
    obtain ⟨-, -, -, small⟩ | ⟨-, -, -, -, small⟩ := significand_cases x <;> omega
  have scale : x.scale.toNat ≤ 971 := by
    obtain ⟨-, -, scale, -⟩ | ⟨-, -, scale, -⟩ := significand_cases x <;> omega
  rw [Nat.length_toDigits_le_iff (by decide) (by decide)]
  refine lt_of_le_of_lt (Nat.mul_le_mul significand (Nat.pow_le_pow_right (by decide) scale)) ?_
  decide +kernel

/-- **The exact decimal of a number reads back as the number.** -/
theorem readsAs_exactDecimal (finite : x.isFinite = true) (nonzero : x.isZero = false) :
    x.readsAs x.exactDecimal = true := by
  have shift : (-x.scale).toNat ≤ 1074 := by
    obtain ⟨-, -, scale, -⟩ | ⟨normal, -, scale, -⟩ := significand_cases x <;> omega
  have nearest_self := nearest_numerator finite nonzero
  have denominator : x.denominator = 2 ^ (-x.scale).toNat := rfl
  rw [readsAs_iff]
  unfold exactDecimal
  simp only [Nat.pow_eq]
  generalize (-x.scale).toNat = k at shift denominator ⊢
  have digits : 5 ^ k ≤ x.numerator * 5 ^ k := Nat.le_mul_of_pos_left _ (numerator_pos nonzero)
  have positive : 0 < x.numerator * 5 ^ k := (Nat.pow_pos (by decide)).trans_le digits
  have high : (Nat.toDigits 10 (x.numerator * 5 ^ k)).length ≤ 310 + k :=
    (length_toDigits_mul_le _ (Nat.pow_le_pow_left (by decide) k)).trans
      (Nat.add_le_add_right (length_numerator finite) k)
  have low : k < (Nat.toDigits 10 (x.numerator * 5 ^ k)).length + 331 := by
    obtain ⟨i, j, hi, hj, small⟩ : ∃ i j, i = 743 ∧ j = 331 ∧ 2 ^ i ≤ 5 ^ j := ⟨743, 331, rfl, rfl, by decide +kernel⟩
    rw [← hj]
    refine Nat.lt_of_not_le fun short => ?_
    obtain ⟨m, rfl⟩ : ∃ m, k = m + j := ⟨k - j, by omega⟩
    have length : 0 < (Nat.toDigits 10 (x.numerator * 5 ^ (m + j))).length := Nat.length_toDigits_pos
    have below := (Nat.length_toDigits_le_iff (by decide) (show 0 < m by omega)).mp (Nat.le_of_add_le_add_right short)
    refine absurd (digits.trans_lt below) (Nat.not_lt.mpr ?_)
    rw [show (10 : Nat) = 5 * 2 from rfl, Nat.mul_pow, Nat.pow_add]
    exact Nat.mul_le_mul_left _ ((Nat.pow_le_pow_right (by decide) (show m ≤ i by omega)).trans small)
  unfold ofDecimal
  rw [if_neg (by rw [beq_iff_eq]; exact positive.ne')]
  simp only
  rw [if_neg (by omega), if_neg (by omega), Int.toNat_neg_natCast, neg_neg, Int.toNat_natCast]
  refine Eq.trans (nearest_congr _ (Nat.pow_pos (by decide)) x.denominator_pos ?_) nearest_self
  rw [denominator]
  simp only [Nat.pow_eq, Nat.pow_zero, Nat.mul_one, Nat.mul_assoc, ← Nat.mul_pow]

theorem of_ite_ite {p : Decimal → Bool} {a b d : Decimal}
    (found : (if p a then some a else if p b then some b else none) = some d) : p d = true := by
  split at found
  · rename_i h
    rwa [← Option.some.inj found]
  · split at found
    · rename_i h
      rwa [← Option.some.inj found]
    · exact nomatch found

/-- A decimal that is found reads back as the number. -/
theorem readsAs_of_decimalWith? {tie : Tie} {count : Nat} {d : Decimal} (found : decimalWith? tie x count = some d) :
    x.readsAs d = true :=
  of_ite_ite found

theorem shortestFrom_zero (tie : Tie) (x : Double) (count : Nat) : shortestFrom tie x 0 count = x.exactDecimal := rfl

theorem shortestFrom_succ (tie : Tie) (x : Double) (fuel count : Nat) :
    shortestFrom tie x (fuel + 1) count =
      (decimalWith? tie x count).getD (shortestFrom tie x fuel (count + 1)) := by
  -- The search for one length is generalized first, or it would be evaluated to see what it finds.
  delta shortestFrom shortestFrom._f
  generalize decimalWith? tie x = search
  dsimp only
  cases search count <;> rfl

/-- **The shortest decimal reads back as the number.** -/
theorem readsAs_shortest (tie : Tie) (finite : x.isFinite = true) (nonzero : x.isZero = false) :
    x.readsAs (shortest tie x) = true := by
  have search (fuel count : Nat) : x.readsAs (shortestFrom tie x fuel count) = true := by
    induction fuel generalizing count with
    | zero =>
      rw [shortestFrom_zero]
      exact readsAs_exactDecimal finite nonzero
    | succ fuel ih =>
      rw [shortestFrom_succ]
      have found (d : Decimal) : decimalWith? tie x count = some d → x.readsAs d = true := readsAs_of_decimalWith?
      generalize decimalWith? tie x count = result at found
      cases result with
      | some d => exact found d rfl
      | none => exact ih (count + 1)
  unfold shortest
  rw [if_neg (Bool.eq_false_iff.mp nonzero)]
  exact search 17 1

end Double

end ConnectionJobs
