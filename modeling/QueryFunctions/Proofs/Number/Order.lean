import Mathlib.Order.Compare
import QueryFunctions.Proofs.Number.Integers

/-! The order of binary floating point numbers. Rounding keeps the order of what is rounded, and
since it leads from units back to magnitudes, magnitudes are ordered as their units are. So the
rank of finite numbers goes by their values, except that it tells the zeros apart. -/

namespace QueryFunctions.Binary64

variable {x y : Binary64} {m n : ℤ} {a b d : Nat}

/-! ### Rounding -/

theorem div_le_roundQuotient (num den : Nat) : num / den ≤ roundQuotient num den := by
  unfold roundQuotient
  dsimp only
  split_ifs <;> omega

theorem roundQuotient_le_succ (num den : Nat) : roundQuotient num den ≤ num / den + 1 := by
  unfold roundQuotient
  dsimp only
  split_ifs <;> omega

theorem roundQuotient_mono (h : a ≤ b) (den : Nat) :
    roundQuotient a den ≤ roundQuotient b den := by
  rcases (Nat.div_le_div_right h : a / den ≤ b / den).lt_or_eq with hlt | heq
  · calc roundQuotient a den
      _ ≤ a / den + 1 := roundQuotient_le_succ a den
      _ ≤ b / den := hlt
      _ ≤ roundQuotient b den := div_le_roundQuotient b den
  · -- Between the same two neighbours, the remainders decide.
    have hrest : a % den ≤ b % den := by
      have ha := Nat.div_add_mod a den
      have hb := Nat.div_add_mod b den
      rw [heq] at ha
      omega
    unfold roundQuotient
    dsimp only
    rw [heq]
    split_ifs <;> omega

/-- The exponent that rounding finds for a quotient. -/
def foundExponent (num den : Nat) : Nat := Nat.log2 (num / den) - 52

theorem roundUnits_eq (num den : Nat) : roundUnits num den =
    min (foundExponent num den * hiddenBit + roundQuotient num (den <<< foundExponent num den))
      infiniteMagnitude := rfl

theorem foundExponent_mono (h : a ≤ b) (den : Nat) :
    foundExponent a den ≤ foundExponent b den := by
  unfold foundExponent
  rw [Nat.log2_eq_log_two, Nat.log2_eq_log_two]
  exact Nat.sub_le_sub_right (Nat.log_mono_right (Nat.div_le_div_right h)) 52

/-- Fractions have the hidden bit, unless the exponent is the least one. -/
theorem hiddenBit_le_roundQuotient (h : 0 < foundExponent a d) :
    hiddenBit ≤ roundQuotient a (d <<< foundExponent a d) := by
  have hne : a / d ≠ 0 := by
    intro hzero
    rw [foundExponent, hzero] at h
    exact absurd h (by decide)
  refine le_trans ?_ (div_le_roundQuotient a _)
  rw [Nat.shiftLeft_eq, ← Nat.div_div_eq_div_mul, Nat.le_div_iff_mul_le (Nat.two_pow_pos _),
    hiddenBit_eq, ← pow_add]
  unfold foundExponent at h ⊢
  rw [Nat.add_sub_cancel' (by omega)]
  exact Nat.log2_self_le hne

/-- No fraction is rounded to more than the next power of two. -/
theorem roundQuotient_le_hiddenBit (a d : Nat) :
    roundQuotient a (d <<< foundExponent a d) ≤ 2 * hiddenBit := by
  refine (roundQuotient_le_succ a _).trans ?_
  rw [Nat.shiftLeft_eq, ← Nat.div_div_eq_div_mul, Nat.succ_le_iff,
    Nat.div_lt_iff_lt_mul (Nat.two_pow_pos _)]
  have hbits : 2 * hiddenBit = 2 ^ 53 := by decide
  calc a / d
    _ < 2 ^ (Nat.log2 (a / d) + 1) := Nat.lt_log2_self
    _ ≤ 2 ^ (53 + foundExponent a d) :=
      Nat.pow_le_pow_right Nat.two_pos (by unfold foundExponent; omega)
    _ = 2 * hiddenBit * 2 ^ foundExponent a d := by rw [pow_add, hbits]

theorem roundUnits_mono (h : a ≤ b) (d : Nat) : roundUnits a d ≤ roundUnits b d := by
  rw [roundUnits_eq, roundUnits_eq]
  refine min_le_min_right _ ?_
  rcases (foundExponent_mono h d).lt_or_eq with hlt | heq
  · calc foundExponent a d * hiddenBit + roundQuotient a (d <<< foundExponent a d)
      _ ≤ foundExponent a d * hiddenBit + 2 * hiddenBit :=
        Nat.add_le_add_left (roundQuotient_le_hiddenBit a d) _
      _ = (foundExponent a d + 1) * hiddenBit + hiddenBit := by ring
      _ ≤ foundExponent b d * hiddenBit + roundQuotient b (d <<< foundExponent b d) :=
        Nat.add_le_add (Nat.mul_le_mul_right _ hlt)
          (hiddenBit_le_roundQuotient (Nat.zero_lt_of_lt hlt))
  · rw [heq]
    exact Nat.add_le_add_left (roundQuotient_mono h _) _

/-! ### Magnitudes -/

/-- A magnitude with fewer units is less, for rounding leads back to it. -/
theorem lt_of_unitsOf_lt (ha : a < infiniteMagnitude) (hb : b < infiniteMagnitude)
    (h : unitsOf a < unitsOf b) : a < b := by
  have hle : a ≤ b := by
    have hround := roundUnits_mono (Nat.mul_le_mul_right 1 h.le) 1
    rwa [roundUnits_unitsOf ha Nat.one_pos, roundUnits_unitsOf hb Nat.one_pos] at hround
  refine hle.lt_of_ne ?_
  rintro rfl
  exact Nat.lt_irrefl _ h

/-! ### Ranks -/

theorem rank_of_negative (h : x.negative = true) : x.rank = -(x.magnitude : ℤ) - 1 := by
  rw [rank, if_pos h]

theorem rank_of_not_negative (h : x.negative = false) : x.rank = x.magnitude := by
  rw [rank, h]
  rfl

/-- The rank is the signed integer that the bits are, where those of a negative number other
than the sign are inverted. -/
theorem rank_eq_toBits (x : Binary64) : x.rank =
    if x.toBits < signBit then (x.toBits : ℤ) else (signBit : ℤ) - 1 - x.toBits := by
  have hlt : x.magnitude < signBit := x.magnitude_lt
  cases h : x.negative with
  | true =>
    have hbits : x.toBits = signBit + x.magnitude := by rw [toBits, h, if_pos rfl]
    rw [rank_of_negative h, hbits, if_neg (by omega)]
    push_cast
    ring
  | false =>
    have hbits : x.toBits = x.magnitude := by
      rw [toBits, h, if_neg Bool.false_ne_true, Nat.zero_add]
    rw [rank_of_not_negative h, hbits, if_pos hlt]

/-- What has the lower value has the lower rank. -/
theorem rank_lt_of_units_lt (hx : x.isFinite = true) (hy : y.isFinite = true)
    (h : x.units < y.units) : x.rank < y.rank := by
  have hxmag : x.magnitude < infiniteMagnitude := of_decide_eq_true hx
  have hymag : y.magnitude < infiniteMagnitude := of_decide_eq_true hy
  rw [units_eq_signed, units_eq_signed] at h
  cases hxneg : x.negative with
  | true =>
    rw [rank_of_negative hxneg]
    cases hyneg : y.negative with
    | true =>
      rw [hxneg, hyneg] at h
      have hlt := lt_of_unitsOf_lt hymag hxmag (by simpa [signed] using h)
      rw [rank_of_negative hyneg]
      omega
    | false =>
      rw [rank_of_not_negative hyneg]
      omega
  | false =>
    rw [rank_of_not_negative hxneg]
    cases hyneg : y.negative with
    | true =>
      -- A value below a negative one is negative.
      rw [hxneg, hyneg] at h
      simp only [signed, Bool.false_eq_true, if_false, if_true] at h
      omega
    | false =>
      rw [hxneg, hyneg] at h
      have hlt := lt_of_unitsOf_lt hxmag hymag (by simpa [signed] using h)
      rw [rank_of_not_negative hyneg]
      exact_mod_cast hlt

theorem rank_lt_nan (h : x.magnitude ≤ infiniteMagnitude) : x.rank < nan.rank := by
  have hnan : nan.rank = 0x7FF8000000000000 := rfl
  have hinfinite : infiniteMagnitude < 0x7FF8000000000000 := by decide
  rw [hnan]
  cases hneg : x.negative with
  | true => rw [rank_of_negative hneg]; omega
  | false => rw [rank_of_not_negative hneg]; omega

/-! ### Integers -/

theorem magnitude_ofInt_le (n : ℤ) : (ofInt n).magnitude ≤ infiniteMagnitude := Nat.min_le_right ..

theorem two_pow_mul_shiftLeft (j k : Nat) : 2 ^ j * 1 <<< k = 1 * 1 <<< (j + k) := by
  rw [Nat.one_shiftLeft, Nat.one_shiftLeft, ← pow_add, Nat.one_mul]

theorem isInt_ofInt_of_le (h : n.natAbs ≤ 2 ^ 53) : (ofInt n).IsInt n := by
  rcases h.lt_or_eq with hlt | heq
  · exact isInt_ofInt hlt
  · have hshift : 2 ^ 53 * unitsPerOne = 1 * 1 <<< (53 + 1074) := two_pow_mul_shiftLeft 53 1074
    have hrepresentable : Representable (n.natAbs * unitsPerOne) := by
      rw [heq, hshift]
      exact representable_shifted (by decide) (by decide)
    have hround := isInt_ofUnits_of_representable Nat.one_pos hrepresentable (n < 0)
    rwa [Nat.mul_one, signed_natAbs_of_lt] at hround

theorem rank_ofInt_mono (h : m ≤ n) : (ofInt m).rank ≤ (ofInt n).rank := by
  have hrounded {j k : ℤ} (hle : j.natAbs ≤ k.natAbs) :
      (ofInt j).magnitude ≤ (ofInt k).magnitude :=
    roundUnits_mono (Nat.mul_le_mul_right _ hle) 1
  have hnegative (k : ℤ) : (ofInt k).negative = decide (k < 0) := rfl
  by_cases hm : m < 0
  · rw [rank_of_negative ((hnegative m).trans (decide_eq_true hm))]
    by_cases hn : n < 0
    · have hle := @hrounded n m (by omega)
      rw [rank_of_negative ((hnegative n).trans (decide_eq_true hn))]
      omega
    · rw [rank_of_not_negative ((hnegative n).trans (decide_eq_false hn))]
      omega
  · have hn : ¬ n < 0 := by omega
    have hle := @hrounded m n (by omega)
    rw [rank_of_not_negative ((hnegative m).trans (decide_eq_false hm)),
      rank_of_not_negative ((hnegative n).trans (decide_eq_false hn))]
    exact_mod_cast hle

theorem rank_ofInt_lt (hm : m.natAbs ≤ 2 ^ 53) (hn : n.natAbs ≤ 2 ^ 53) (h : m < n) :
    (ofInt m).rank < (ofInt n).rank := by
  have hx := isInt_ofInt_of_le hm
  have hy := isInt_ofInt_of_le hn
  have hpos : (0 : ℤ) < unitsPerOne := by exact_mod_cast unitsPerOne_pos
  refine rank_lt_of_units_lt hx.finite hy.finite ?_
  rw [hx.units, hy.units]
  exact mul_lt_mul_of_pos_right h hpos

end QueryFunctions.Binary64
