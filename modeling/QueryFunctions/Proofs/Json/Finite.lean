import QueryFunctions.Json.Numeral
import QueryFunctions.Proofs.Number.Order

/-! Numerals have finite values. Digits are read only as far as they fit in 64 bits, a product
that is not finite is refused, and powers of ten that are divided by are at least one. So scaling
comes to finite numbers only, and a numeral is refused for nothing but its size. -/

namespace QueryFunctions

namespace Binary64

variable {x y : Binary64} {m n : Nat}

theorem isFinite_ofUnits_of_le {negative : Bool} (h : m ≤ n)
    (hn : (ofUnits negative n 1).isFinite = true) : (ofUnits negative m 1).isFinite = true :=
  decide_eq_true ((roundUnits_mono h 1).trans_lt (of_decide_eq_true hn))

/-- Dividing by one or more does not lead out of the finite numbers. -/
theorem isFinite_div (hx : x.isFinite = true) (hy : y.isFinite = true)
    (hone : unitsPerOne ≤ unitsOf y.magnitude) : (x.div y).isFinite = true := by
  have hfinite : x.magnitude < infiniteMagnitude := of_decide_eq_true hx
  have hpos : 0 < unitsOf y.magnitude := unitsPerOne_pos.trans_le hone
  have hzero : y.isZero = false := by
    refine decide_eq_false fun h => ?_
    rw [h, unitsOf_zero] at hpos
    exact hpos.false
  have hle : roundUnits (unitsOf x.magnitude * unitsPerOne) (unitsOf y.magnitude) ≤ x.magnitude :=
    calc
      _ ≤ roundUnits (unitsOf x.magnitude * unitsOf y.magnitude) (unitsOf y.magnitude) :=
        roundUnits_mono (Nat.mul_le_mul_left _ hone) _
      _ = x.magnitude := roundUnits_unitsOf hfinite hpos
  rw [div_of_isFinite hx hy hzero]
  exact decide_eq_true (hle.trans_lt hfinite)

end Binary64

namespace Numeral

open Binary64

/-! ### Numerals -/

theorem magnitude_powerOfTen_mono {j k : Nat} (h : j ≤ k) :
    (powerOfTen j).magnitude ≤ (powerOfTen k).magnitude :=
  roundUnits_mono (Nat.mul_le_mul_right _ (Nat.pow_le_pow_right (by decide) h)) 1

theorem isFinite_maxPower : (powerOfTen maxPower).isFinite = true := by decide +kernel

theorem unitsOf_powerOfTen_zero : unitsOf (powerOfTen 0).magnitude = unitsPerOne := by
  decide +kernel

theorem isFinite_powerOfTen {k : Nat} (h : k ≤ maxPower) : (powerOfTen k).isFinite = true :=
  decide_eq_true ((magnitude_powerOfTen_mono h).trans_lt (of_decide_eq_true isFinite_maxPower))

theorem unitsPerOne_le_powerOfTen {k : Nat} (h : k ≤ maxPower) :
    unitsPerOne ≤ unitsOf (powerOfTen k).magnitude := by
  rw [← unitsOf_powerOfTen_zero]
  refine Nat.not_lt.mp fun hlt => ?_
  have hfinite := of_decide_eq_true (isFinite_powerOfTen h)
  have hone := of_decide_eq_true (isFinite_powerOfTen (Nat.zero_le maxPower))
  exact (lt_of_unitsOf_lt hfinite hone hlt).not_ge (magnitude_powerOfTen_mono (Nat.zero_le k))

theorem isFinite_div_powerOfTen {x : Binary64} (hx : x.isFinite = true) {k : Nat}
    (h : k ≤ maxPower) : (x.div (powerOfTen k)).isFinite = true :=
  isFinite_div hx (isFinite_powerOfTen h) (unitsPerOne_le_powerOfTen h)

theorem isFinite_mul_powerOfTen_zero {x : Binary64} (hx : x.isFinite = true) :
    (x.mul (powerOfTen 0)).isFinite = true := by
  have hfinite : x.magnitude < infiniteMagnitude := of_decide_eq_true hx
  rw [mul_of_isFinite hx (isFinite_powerOfTen (Nat.zero_le _)), unitsOf_powerOfTen_zero]
  exact decide_eq_true ((roundUnits_unitsOf hfinite unitsPerOne_pos).trans_lt hfinite)

/-- Powers of ten scale a finite number to a finite one, or not at all. -/
theorem scale?_isFinite {fuel : Nat} {x y : Binary64} {exponent : ℤ} (hx : x.isFinite = true)
    (h : scale? fuel x exponent = some y) : y.isFinite = true := by
  induction fuel generalizing x exponent with
  | zero => exact Option.some.inj h ▸ hx
  | succ fuel ih =>
    unfold scale? at h
    dsimp only at h
    split_ifs at h with hpower hpositive hfinite hzero
    · exact Option.some.inj h ▸ hfinite
    · exact Option.some.inj h ▸ isFinite_div_powerOfTen hx hpower
    · exact Option.some.inj h ▸ hx
    · exact ih (isFinite_div_powerOfTen hx le_rfl) h

theorem accumulate_le {limit : Nat} (cs : List Char) {n : Nat} (h : n ≤ limit) :
    (accumulate limit n cs).1 ≤ limit := by
  induction cs generalizing n with
  | nil => exact h
  | cons c cs ih =>
    unfold accumulate
    dsimp only
    split_ifs with hnext
    · exact ih hnext
    · exact h

theorem isFinite_digits {digits : Nat} (h : digits ≤ maxDigits) :
    (ofUnits false (digits * unitsPerOne) 1).isFinite = true := by
  have hlimit : (ofUnits false (maxDigits * unitsPerOne) 1).isFinite = true := by decide +kernel
  exact isFinite_ofUnits_of_le (Nat.mul_le_mul_right _ h) hlimit

/-- Digits that are scaled make a number: that it is finite is asked in vain. -/
theorem toFloat?_eq_none_iff {negative : Bool} {digits : Nat} {exponent : ℤ}
    (hdigits : digits ≤ maxDigits) :
    toFloat? negative digits exponent = none ↔
      scale? 4 (.ofUnits false (digits * unitsPerOne) 1) exponent = none := by
  unfold toFloat?
  cases hscale : scale? 4 (.ofUnits false (digits * unitsPerOne) 1) exponent with
  | none => exact iff_of_true rfl rfl
  | some x =>
    have hx : x.isFinite = true := scale?_isFinite (isFinite_digits hdigits) hscale
    have hsigned : (if negative then x.neg else x).isFinite = true := by
      cases negative <;> exact hx
    refine iff_of_false ?_ nofun
    change JsonNumber.ofFloat? _ ≠ none
    rw [JsonNumber.ofFloat?, dif_pos hsigned]
    exact nofun

/-- A finite number is divided by any power of ten. -/
theorem scale?_isSome_of_nonpos {fuel : Nat} {x : Binary64} {exponent : ℤ}
    (hx : x.isFinite = true) (hexponent : exponent ≤ 0) :
    (scale? fuel x exponent).isSome = true := by
  induction fuel generalizing x exponent with
  | zero => rfl
  | succ fuel ih =>
    unfold scale?
    dsimp only
    split_ifs with hpower hpositive hfinite hzero hpositive
    · rfl
    · have hnone : exponent.natAbs = 0 := by omega
      rw [hnone] at hfinite
      exact absurd (isFinite_mul_powerOfTen_zero hx) hfinite
    · rfl
    · rfl
    · omega
    · refine ih (isFinite_div_powerOfTen hx le_rfl) ?_
      omega

theorem toFloat?_isSome_of_nonpos {negative : Bool} {digits : Nat} {exponent : ℤ}
    (hdigits : digits ≤ maxDigits) (hexponent : exponent ≤ 0) :
    (toFloat? negative digits exponent).isSome = true := by
  rw [Option.isSome_iff_ne_none, Ne, toFloat?_eq_none_iff hdigits, ← Ne,
    ← Option.isSome_iff_ne_none]
  exact scale?_isSome_of_nonpos (isFinite_digits hdigits) hexponent

/-- A numeral whose whole part fits in 64 bits is refused for nothing but an exponent without a
minus sign. -/
theorem value?_isSome {n : Numeral} (hwhole : (accumulate maxDigits 0 n.whole).2 = 0)
    (hexponent : ∀ below digits, n.exponent = some (below, digits) → below = true) :
    n.value?.isSome = true := by
  have hle := accumulate_le n.whole (Nat.zero_le maxDigits)
  have hdigits := accumulate_le (n.fraction.getD []) hle
  unfold value?
  dsimp only
  rw [hwhole]
  split
  · split_ifs
    · rfl
    · exact toFloat?_isSome_of_nonpos hle le_rfl
    · rfl
  · split
    · exact toFloat?_isSome_of_nonpos hdigits (by omega)
    next below digits hspelt =>
      obtain rfl := hexponent below digits hspelt
      split
      · exact toFloat?_isSome_of_nonpos hdigits (by rw [if_pos rfl]; omega)
      · rw [if_pos (Bool.or_true _)]
        exact toFloat?_isSome_of_nonpos (Nat.zero_le _) le_rfl

end Numeral

end QueryFunctions
