import Mathlib.Algebra.Order.Field.Power
import Mathlib.Data.Nat.Log
import Mathlib.Tactic.Ring
import QueryFunctions.Number.Binary64

/-! Values of binary floating point numbers, and which of them rounding leaves as they are.
The value of a number is defined from the fields of its bits; in units it is an integer. A
magnitude is found again from its units, also when they come as a quotient: what can be
represented is not changed by rounding. -/

namespace QueryFunctions.Binary64

theorem ext {x y : Binary64} (hnegative : x.negative = y.negative)
    (hmagnitude : x.magnitude = y.magnitude) : x = y := by
  cases x
  cases y
  simp_all

theorem ofBits_toBits (x : Binary64) : ofBits x.toBits = x := by
  obtain ⟨negative, magnitude, hlt⟩ := x
  refine ext ?_ ?_
  · cases negative <;> simp [ofBits, toBits, signBit] <;> omega
  · cases negative <;> simp [ofBits, toBits, signBit] <;> omega

theorem toBits_ofBits {bits : Nat} (h : bits < 2 ^ 64) : (ofBits bits).toBits = bits := by
  unfold toBits ofBits signBit
  dsimp only
  by_cases hsign : bits / 0x8000000000000000 % 2 = 1
  · rw [decide_eq_true hsign, if_pos rfl]
    omega
  · rw [decide_eq_false hsign, if_neg Bool.false_ne_true]
    omega

/-! ### Magnitudes in units -/

theorem hiddenBit_eq : hiddenBit = 2 ^ 52 := by decide

theorem hiddenBit_pos : 0 < hiddenBit := by decide

/-- Small magnitudes count units. -/
theorem unitsOf_of_lt {m : Nat} (h : m < hiddenBit) : unitsOf m = m := by
  unfold unitsOf
  rw [Nat.div_eq_of_lt h, Nat.mod_eq_of_lt h]

theorem div_hiddenBit (e : Nat) {f : Nat} (hf : f < hiddenBit) :
    ((e + 1) * hiddenBit + f) / hiddenBit = e + 1 := by
  rw [Nat.add_comm, Nat.add_mul_div_right _ _ hiddenBit_pos, Nat.div_eq_of_lt hf, Nat.zero_add]

theorem mod_hiddenBit (e : Nat) {f : Nat} (hf : f < hiddenBit) :
    ((e + 1) * hiddenBit + f) % hiddenBit = f := by
  rw [Nat.add_comm, Nat.add_mul_mod_self_right, Nat.mod_eq_of_lt hf]

theorem unitsOf_of_div {m e : Nat} (h : m / hiddenBit = e + 1) :
    unitsOf m = (hiddenBit + m % hiddenBit) * 2 ^ e := by
  simp only [unitsOf, h, Nat.shiftLeft_eq]

/-- The others are a fraction with the hidden bit, shifted by the exponent. -/
theorem unitsOf_shifted (e : Nat) {f : Nat} (hf : f < hiddenBit) :
    unitsOf ((e + 1) * hiddenBit + f) = (hiddenBit + f) * 2 ^ e := by
  rw [unitsOf_of_div (div_hiddenBit e hf), mod_hiddenBit e hf]

theorem small_or_shifted (m : Nat) :
    m < hiddenBit ∨ ∃ e f, f < hiddenBit ∧ m = (e + 1) * hiddenBit + f := by
  rcases Nat.lt_or_ge m hiddenBit with h | h
  · exact .inl h
  · have hpos : 0 < m / hiddenBit := Nat.div_pos h hiddenBit_pos
    refine .inr ⟨m / hiddenBit - 1, m % hiddenBit, Nat.mod_lt m hiddenBit_pos, ?_⟩
    rw [Nat.sub_add_cancel hpos, Nat.mul_comm, Nat.div_add_mod]

theorem one_shiftLeft_pos (n : Nat) : 0 < 1 <<< n := by
  rw [Nat.one_shiftLeft]
  exact Nat.two_pow_pos n

theorem unitsPerOne_pos : 0 < unitsPerOne := one_shiftLeft_pos 1074

/-! ### Values -/

/-- The value of a finite number: its sign, the 11 bits of the exponent and the 52 bits of the
fraction. Numbers whose exponent bits are all zero have no hidden bit. -/
def value (x : Binary64) : ℚ :=
  let exponent : ℕ := x.magnitude / 2 ^ 52
  let fraction : ℕ := x.magnitude % 2 ^ 52
  (if x.negative then -1 else 1) *
    if exponent = 0 then (fraction : ℚ) * 2 ^ (-1074 : ℤ)
    else (2 ^ 52 + fraction : ℚ) * 2 ^ ((exponent : ℤ) - 1075)

theorem one_shiftLeft_cast (n : Nat) : ((1 <<< n : Nat) : ℚ) = 2 ^ (n : ℤ) := by
  rw [Nat.one_shiftLeft, Nat.cast_pow, Nat.cast_ofNat, zpow_natCast]

theorem unitsPerOne_cast : (unitsPerOne : ℚ) = 2 ^ (1074 : ℤ) := one_shiftLeft_cast 1074

theorem unitsPerOne_cast_ne_zero : (unitsPerOne : ℚ) ≠ 0 := Nat.cast_ne_zero.mpr unitsPerOne_pos.ne'

theorem unitsOf_cast (m : Nat) : (unitsOf m : ℚ) =
    (if m / hiddenBit = 0 then ((m % hiddenBit : ℕ) : ℚ) * 2 ^ (-1074 : ℤ)
      else (hiddenBit + (m % hiddenBit : ℕ) : ℚ) * 2 ^ (((m / hiddenBit : ℕ) : ℤ) - 1075)) *
        unitsPerOne := by
  have htwo : (2 : ℚ) ≠ 0 := two_ne_zero
  rw [unitsPerOne_cast]
  rcases small_or_shifted m with h | ⟨e, f, hf, rfl⟩
  · have hexponent : (-1074 : ℤ) + 1074 = 0 := rfl
    rw [if_pos (Nat.div_eq_of_lt h), Nat.mod_eq_of_lt h, unitsOf_of_lt h, mul_assoc,
      ← zpow_add₀ htwo, hexponent, zpow_zero, mul_one]
  · have hexponent : ((e + 1 : ℕ) : ℤ) - 1075 + 1074 = e := by
      push_cast
      ring
    rw [div_hiddenBit e hf, mod_hiddenBit e hf, unitsOf_shifted e hf,
      if_neg (Nat.succ_ne_zero e), mul_assoc, ← zpow_add₀ htwo, hexponent, zpow_natCast,
      Nat.cast_mul, Nat.cast_add, Nat.cast_pow, Nat.cast_ofNat]

/-- The units of a number make up its value. -/
theorem units_cast (x : Binary64) : (x.units : ℚ) = x.value * unitsPerOne := by
  have hrat : (2 : ℚ) ^ 52 = hiddenBit := by
    rw [hiddenBit_eq, Nat.cast_pow, Nat.cast_ofNat]
  unfold units value
  rw [← hiddenBit_eq, hrat, mul_assoc, ← unitsOf_cast]
  cases x.negative
  · simp
  · simp

theorem units_eq_iff {x y : Binary64} : x.units = y.units ↔ x.value = y.value := by
  rw [← mul_left_inj' unitsPerOne_cast_ne_zero, ← units_cast, ← units_cast, Int.cast_inj]

/-- What is not finite is infinite or no number. -/
theorem isFinite_eq_false_iff {x : Binary64} :
    x.isFinite = false ↔ x.isNaN = true ∨ ∃ negative, x = infinity negative := by
  unfold isFinite isNaN
  rw [decide_eq_false_iff_not, Nat.not_lt, decide_eq_true_iff, Nat.le_iff_lt_or_eq]
  refine or_congr_right ⟨fun h => ⟨x.negative, ext rfl h.symm⟩, ?_⟩
  rintro ⟨negative, rfl⟩
  rfl

/-! ### Rounding what can be represented -/

theorem roundQuotient_mul (n : Nat) {d : Nat} (hd : 0 < d) : roundQuotient (n * d) d = n := by
  unfold roundQuotient
  rw [Nat.mul_mod_left, Nat.mul_div_cancel n hd, if_pos (by simpa using hd)]

/-- Rounding leaves `n * 2 ^ e` units as they are, where `e` is the exponent that it finds. -/
theorem roundUnits_of_log2 {u d n e : Nat} (hd : 0 < d) (hlog : Nat.log2 u - 52 = e)
    (hu : u = n * 2 ^ e) :
    roundUnits (u * d) d = min (e * hiddenBit + n) infiniteMagnitude := by
  have hquotient : u * d = n * (d <<< e) := by
    rw [hu, Nat.shiftLeft_eq]
    ring
  have hshift : 0 < d <<< e := by
    rw [Nat.shiftLeft_eq]
    exact Nat.mul_pos hd (Nat.two_pow_pos e)
  have hround : roundQuotient (u * d) (d <<< e) = n := by
    rw [hquotient, roundQuotient_mul n hshift]
  simp only [roundUnits, Nat.mul_div_cancel u hd, hlog, hround]

/-- The highest bit of a fraction with the hidden bit, shifted by an exponent. -/
theorem log2_shifted (e : Nat) {f : Nat} (hf : f < hiddenBit) :
    Nat.log2 ((hiddenBit + f) * 2 ^ e) = 52 + e := by
  have hne : (hiddenBit + f) * 2 ^ e ≠ 0 :=
    (Nat.mul_pos (Nat.add_pos_left hiddenBit_pos f) (Nat.two_pow_pos e)).ne'
  have hnext : 2 ^ (52 + e + 1) = 2 * hiddenBit * 2 ^ e := by rw [hiddenBit_eq]; ring
  rw [Nat.log2_eq_iff hne, hnext, pow_add, ← hiddenBit_eq]
  constructor
  · exact Nat.mul_le_mul_right _ (Nat.le_add_right ..)
  · exact Nat.mul_lt_mul_of_pos_right (by omega) (Nat.two_pow_pos e)

theorem log2_of_lt_hiddenBit {m : Nat} (h : m < hiddenBit) : Nat.log2 m - 52 = 0 := by
  rcases Nat.eq_zero_or_pos m with rfl | hpos
  · rfl
  · have hlt := (Nat.log2_lt hpos.ne').mpr (hiddenBit_eq ▸ h)
    exact Nat.sub_eq_zero_of_le hlt.le

/-- A magnitude is found again from its units, also as a quotient. -/
theorem roundUnits_unitsOf {m d : Nat} (hfinite : m < infiniteMagnitude) (hd : 0 < d) :
    roundUnits (unitsOf m * d) d = m := by
  rcases small_or_shifted m with h | ⟨e, f, hf, rfl⟩
  case inl =>
    rw [unitsOf_of_lt h, roundUnits_of_log2 hd (log2_of_lt_hiddenBit h) (Nat.mul_one m).symm,
      Nat.zero_mul, Nat.zero_add, Nat.min_eq_left hfinite.le]
  case inr =>
    have hlog : Nat.log2 ((hiddenBit + f) * 2 ^ e) - 52 = e := by
      rw [log2_shifted e hf, Nat.add_sub_cancel_left]
    have hmagnitude : e * hiddenBit + (hiddenBit + f) = (e + 1) * hiddenBit + f := by ring
    rw [unitsOf_shifted e hf, roundUnits_of_log2 hd hlog rfl, hmagnitude,
      Nat.min_eq_left hfinite.le]

theorem unitsOf_zero : unitsOf 0 = 0 := unitsOf_of_lt hiddenBit_pos

/-- Magnitudes with the same units are the same. -/
theorem eq_of_unitsOf_eq {m n : Nat} (hm : m < infiniteMagnitude) (hn : n < infiniteMagnitude)
    (h : unitsOf m = unitsOf n) : m = n := by
  rw [← roundUnits_unitsOf hm Nat.one_pos, ← roundUnits_unitsOf hn Nat.one_pos, h]

/-- A number of units that some finite magnitude has. -/
def Representable (u : Nat) : Prop := ∃ m, m < infiniteMagnitude ∧ unitsOf m = u

/-- A number of 53 bits with the highest of them set is a fraction with the hidden bit. -/
theorem representable_of_le {s e : Nat} (hle : hiddenBit ≤ s) (hlt : s < 2 * hiddenBit)
    (he : e ≤ 2045) : Representable (s * 1 <<< e) := by
  obtain ⟨f, rfl⟩ := Nat.exists_eq_add_of_le hle
  have hf : f < hiddenBit := by omega
  refine ⟨(e + 1) * hiddenBit + f, ?_, by rw [unitsOf_shifted e hf, Nat.one_shiftLeft]⟩
  have hinfinite : infiniteMagnitude = 2047 * hiddenBit := by decide
  calc (e + 1) * hiddenBit + f < (e + 1 + 1) * hiddenBit := by
        rw [Nat.succ_mul (e + 1)]
        exact Nat.add_lt_add_left hf _
    _ ≤ 2047 * hiddenBit := Nat.mul_le_mul_right _ (by omega)
    _ = infiniteMagnitude := hinfinite.symm

/-- What can be represented: 53 bits, shifted by an exponent that is not too large. -/
theorem representable_shifted {s e : Nat} (hs : s < 2 ^ 53) (he : e ≤ 2045) :
    Representable (s * 1 <<< e) := by
  have hbits : 2 ^ 53 = 2 * hiddenBit := by decide
  rw [hbits] at hs
  -- Without the highest bit, the exponent is lowered until the bit is there or none is left.
  induction e generalizing s with
  | zero =>
    rcases Nat.lt_or_ge s hiddenBit with hlt | hge
    · have hfinite : s < infiniteMagnitude := hlt.trans (by decide)
      exact ⟨s, hfinite, by rw [unitsOf_of_lt hlt, Nat.shiftLeft_zero, Nat.mul_one]⟩
    · exact representable_of_le hge hs he
  | succ e ih =>
    rcases Nat.lt_or_ge s hiddenBit with hlt | hge
    · obtain ⟨m, hm, hunits⟩ :=
        ih (Nat.mul_lt_mul_of_pos_left hlt Nat.two_pos) (Nat.le_of_succ_le he)
      refine ⟨m, hm, hunits.trans ?_⟩
      rw [Nat.one_shiftLeft, Nat.one_shiftLeft, pow_succ]
      ring
    · exact representable_of_le hge hs he

/-- Rounding a quotient that can be represented is exact. -/
theorem Representable.roundUnits {u d : Nat} (h : Representable u) (hd : 0 < d) :
    roundUnits (u * d) d < infiniteMagnitude ∧ unitsOf (roundUnits (u * d) d) = u := by
  obtain ⟨m, hm, rfl⟩ := h
  rw [roundUnits_unitsOf hm hd]
  exact ⟨hm, rfl⟩

end QueryFunctions.Binary64
