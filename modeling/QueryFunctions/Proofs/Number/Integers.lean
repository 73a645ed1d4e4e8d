import QueryFunctions.Proofs.Number.Exact

/-! The integers among the binary floating point numbers. Below `2 ^ 53` every integer is a
number, and sums, differences, products and quotients that are such integers again are
exact. -/

namespace QueryFunctions.Binary64

variable {x y : Binary64} {m n : ℤ}

/-! ### Signs -/

def signed (negative : Bool) (k : Nat) : ℤ := if negative then -(k : ℤ) else k

theorem units_eq_signed (x : Binary64) : x.units = signed x.negative (unitsOf x.magnitude) := rfl

theorem signed_zero (negative : Bool) : signed negative 0 = 0 := by cases negative <;> rfl

theorem signed_left_injective {a b : Bool} {k : Nat} (hne : signed a k ≠ 0)
    (h : signed a k = signed b k) : a = b := by
  unfold signed at hne h
  cases a <;> cases b <;> simp at hne h ⊢ <;> omega

theorem natAbs_signed (negative : Bool) (k : Nat) : (signed negative k).natAbs = k := by
  cases negative <;> simp [signed]

theorem signed_not (negative : Bool) (k : Nat) : signed (!negative) k = -signed negative k := by
  cases negative <;> simp [signed]

theorem signed_mul (a b : Bool) (j k : Nat) : signed a j * signed b k = signed (a != b) (j * k) := by
  cases a <;> cases b <;> simp [signed]

theorem signed_mul_cast (negative : Bool) (j k : Nat) :
    signed negative (j * k) = signed negative j * k := by
  cases negative <;> simp [signed]

theorem signed_natAbs_of_lt (n : ℤ) : signed (n < 0) n.natAbs = n := by
  unfold signed
  split_ifs with h <;> simp at h <;> omega

/-! ### Which numbers are integers -/

/-- A finite number that is the integer `n`. -/
structure IsInt (x : Binary64) (n : ℤ) : Prop where
  finite : x.isFinite = true
  units : x.units = n * unitsPerOne

theorem isInt_iff_value : x.IsInt n ↔ x.isFinite = true ∧ x.value = n := by
  have hunits : x.units = n * unitsPerOne ↔ x.value = n := by
    rw [← mul_left_inj' unitsPerOne_cast_ne_zero, ← units_cast]
    norm_cast
  exact ⟨fun h => ⟨h.finite, hunits.mp h.units⟩, fun h => ⟨h.1, hunits.mpr h.2⟩⟩

/-- The sign of an integer is that of the number, and its magnitude a number of ones. -/
theorem isInt_iff_signed : x.IsInt n ↔ x.isFinite = true ∧
    n = signed x.negative n.natAbs ∧ unitsOf x.magnitude = n.natAbs * unitsPerOne := by
  constructor
  · rintro ⟨hfinite, hunits⟩
    rw [units_eq_signed] at hunits
    have hmagnitude : unitsOf x.magnitude = n.natAbs * unitsPerOne := by
      have habs := congrArg Int.natAbs hunits
      rwa [natAbs_signed, Int.natAbs_mul, Int.natAbs_natCast] at habs
    rw [hmagnitude, signed_mul_cast] at hunits
    have hpos : (unitsPerOne : ℤ) ≠ 0 := by exact_mod_cast unitsPerOne_pos.ne'
    exact ⟨hfinite, (Int.eq_of_mul_eq_mul_right hpos hunits).symm, hmagnitude⟩
  · rintro ⟨hfinite, hsign, hmagnitude⟩
    refine ⟨hfinite, ?_⟩
    rw [units_eq_signed, hmagnitude, signed_mul_cast, ← hsign]

theorem toInt?_eq_some_iff : x.toInt? = some n ↔ x.IsInt n := by
  have hdef : x.toInt? = if x.isFinite && unitsOf x.magnitude % unitsPerOne = 0 then
      some (signed x.negative (unitsOf x.magnitude / unitsPerOne)) else none := by
    unfold toInt? signed
    norm_cast
  rw [hdef, isInt_iff_signed]
  constructor
  · intro h
    split_ifs at h with hwhole
    obtain ⟨hfinite, hmod⟩ : x.isFinite = true ∧ unitsOf x.magnitude % unitsPerOne = 0 := by
      simpa using hwhole
    obtain rfl := Option.some.inj h
    rw [natAbs_signed]
    exact ⟨hfinite, rfl, (Nat.div_mul_cancel (Nat.dvd_of_mod_eq_zero hmod)).symm⟩
  · rintro ⟨hfinite, hsign, hmagnitude⟩
    rw [hfinite, hmagnitude, Nat.mul_mod_left, Nat.mul_div_cancel _ unitsPerOne_pos, ← hsign]
    rfl

theorem isInt_neg (h : x.IsInt n) : x.neg.IsInt (-n) := by
  refine ⟨h.finite, ?_⟩
  have hneg : x.neg.units = -x.units := signed_not ..
  rw [hneg, h.units, neg_mul]

/-- An integer that can be represented is rounded to itself. -/
theorem isInt_ofUnits_of_representable {k d : Nat} (hd : 0 < d)
    (hk : Representable (k * unitsPerOne)) (negative : Bool) :
    (ofUnits negative (k * unitsPerOne * d) d).IsInt (signed negative k) := by
  obtain ⟨hfinite, hunits⟩ := hk.roundUnits hd
  refine ⟨decide_eq_true hfinite, ?_⟩
  rw [units_eq_signed]
  exact (congrArg _ hunits).trans (signed_mul_cast ..)

theorem isInt_ofUnits {k d : Nat} (hd : 0 < d) (hk : k < 2 ^ 53) (negative : Bool) :
    (ofUnits negative (k * unitsPerOne * d) d).IsInt (signed negative k) :=
  isInt_ofUnits_of_representable hd (representable_shifted hk (by decide : 1074 ≤ 2045)) negative

/-! ### Conversion -/

theorem isInt_ofInt (h : n.natAbs < 2 ^ 53) : (ofInt n).IsInt n := by
  have hround := isInt_ofUnits Nat.one_pos h (n < 0)
  rwa [Nat.mul_one, signed_natAbs_of_lt] at hround

theorem IsInt.magnitude_lt (h : x.IsInt n) : x.magnitude < infiniteMagnitude :=
  of_decide_eq_true h.finite

theorem IsInt.magnitude_ofInt (h : x.IsInt n) : (ofInt n).magnitude = x.magnitude := by
  have hmagnitude : n.natAbs * unitsPerOne = unitsOf x.magnitude * 1 := by
    rw [Nat.mul_one, (isInt_iff_signed.mp h).2.2]
  exact (congrArg (roundUnits · 1) hmagnitude).trans (roundUnits_unitsOf h.magnitude_lt Nat.one_pos)

theorem IsInt.magnitude_eq_zero_iff (h : x.IsInt n) : x.magnitude = 0 ↔ n = 0 := by
  have hmagnitude := (isInt_iff_signed.mp h).2.2
  constructor
  · intro hzero
    rw [hzero, unitsOf_zero] at hmagnitude
    have hprod := Nat.mul_eq_zero.mp hmagnitude.symm
    exact Int.natAbs_eq_zero.mp (hprod.resolve_right unitsPerOne_pos.ne')
  · rintro rfl
    rw [Int.natAbs_zero, Nat.zero_mul, ← unitsOf_zero] at hmagnitude
    exact eq_of_unitsOf_eq h.magnitude_lt (by decide) hmagnitude

theorem IsInt.negative_eq (h : x.IsInt n) (hn : n ≠ 0) : decide (n < 0) = x.negative := by
  have hsign := (isInt_iff_signed.mp h).2.1
  cases hnegative : x.negative with
  | false =>
    rw [hnegative] at hsign
    exact decide_eq_false (hsign ▸ Int.not_lt.mpr (Int.natCast_nonneg _))
  | true =>
    have hle : n = -(n.natAbs : ℤ) := by rwa [hnegative] at hsign
    exact decide_eq_true (by omega)

/-- The number that an integer comes from is found again, but for the sign of zero. -/
theorem ofInt_of_isInt (h : x.IsInt n) : ofInt n = if x = zero.neg then zero else x := by
  have hmagnitude := h.magnitude_ofInt
  by_cases hn : n = 0
  · subst hn
    have hzero := h.magnitude_eq_zero_iff.mpr rfl
    have hofInt : ofInt 0 = zero := ext rfl (hmagnitude.trans hzero)
    rw [hofInt]
    split_ifs with hx
    · rfl
    · refine (ext ?_ hzero).symm
      cases hnegative : x.negative with
      | false => rfl
      | true => exact absurd (ext hnegative hzero) hx
  · have hx : x ≠ zero.neg := by
      rintro rfl
      exact hn (h.magnitude_eq_zero_iff.mp rfl)
    rw [if_neg hx]
    exact ext (h.negative_eq hn) hmagnitude

/-- Finite numbers with the same value are the same, except for the zeros. -/
theorem eq_of_units_eq (hx : x.isFinite = true) (hy : y.isFinite = true)
    (h : x.units = y.units) (hne : x.units ≠ 0) : x = y := by
  have hunits := congrArg Int.natAbs h
  rw [units_eq_signed, units_eq_signed, natAbs_signed, natAbs_signed] at hunits
  have hmagnitude := eq_of_unitsOf_eq (of_decide_eq_true hx) (of_decide_eq_true hy) hunits
  refine ext ?_ hmagnitude
  rw [units_eq_signed, units_eq_signed, hunits] at h
  rw [units_eq_signed, hunits] at hne
  exact signed_left_injective hne h

/-! ### Arithmetic -/

theorem isNaN_of_isFinite (h : x.isFinite = true) : x.isNaN = false :=
  decide_eq_false (Nat.not_lt.mpr (of_decide_eq_true h).le)

theorem add_of_isFinite (hx : x.isFinite = true) (hy : y.isFinite = true) :
    x.add y = ofUnits
      (if x.units + y.units = 0 then x.negative && y.negative else x.units + y.units < 0)
      (x.units + y.units).natAbs 1 := by
  simp [Binary64.add, isNaN_of_isFinite hx, isNaN_of_isFinite hy, hx, hy]

theorem mul_of_isFinite (hx : x.isFinite = true) (hy : y.isFinite = true) :
    x.mul y = ofUnits (x.negative != y.negative)
      (unitsOf x.magnitude * unitsOf y.magnitude) unitsPerOne := by
  simp [Binary64.mul, isNaN_of_isFinite hx, isNaN_of_isFinite hy, hx, hy]

theorem div_of_isFinite (hx : x.isFinite = true) (hy : y.isFinite = true)
    (hzero : y.isZero = false) :
    x.div y = ofUnits (x.negative != y.negative)
      (unitsOf x.magnitude * unitsPerOne) (unitsOf y.magnitude) := by
  simp [Binary64.div, isNaN_of_isFinite hx, isNaN_of_isFinite hy, hx, hy, hzero]

/-- An integer in units, over any number of ones and with its sign, is rounded to itself. -/
theorem isInt_ofUnits_of_eq {negative : Bool} {u d : Nat} (hd : 0 < d) (hn : n.natAbs < 2 ^ 53)
    (hu : u = n.natAbs * unitsPerOne * d) (hsign : signed negative n.natAbs = n) :
    (ofUnits negative u d).IsInt n := by
  have hround := isInt_ofUnits hd hn negative
  rwa [hsign, ← hu] at hround

theorem IsInt.add (hx : x.IsInt m) (hy : y.IsInt n) (h : (m + n).natAbs < 2 ^ 53) :
    (x.add y).IsInt (m + n) := by
  have hpos : (0 : ℤ) < unitsPerOne := by exact_mod_cast unitsPerOne_pos
  have hsum : x.units + y.units = (m + n) * unitsPerOne := by rw [hx.units, hy.units, add_mul]
  rw [add_of_isFinite hx.finite hy.finite, hsum]
  refine isInt_ofUnits_of_eq Nat.one_pos h ?_ ?_
  · rw [Int.natAbs_mul, Int.natAbs_natCast, Nat.mul_one]
  · by_cases hzero : m + n = 0
    · rw [hzero, Int.natAbs_zero, signed_zero]
    · have hneg : (m + n) * (unitsPerOne : ℤ) < 0 ↔ m + n < 0 := by
        rw [mul_neg_iff]
        exact ⟨fun h => (h.resolve_left fun h => hpos.not_gt h.2).1, fun h => .inr ⟨h, hpos⟩⟩
      rw [if_neg (mul_ne_zero hzero hpos.ne'), decide_eq_decide.mpr hneg, signed_natAbs_of_lt]

theorem IsInt.sub (hx : x.IsInt m) (hy : y.IsInt n) (h : (m - n).natAbs < 2 ^ 53) :
    (x.sub y).IsInt (m - n) := by
  rw [sub_eq_add_neg] at h ⊢
  exact hx.add (isInt_neg hy) h

theorem IsInt.mul (hx : x.IsInt m) (hy : y.IsInt n) (h : (m * n).natAbs < 2 ^ 53) :
    (x.mul y).IsInt (m * n) := by
  obtain ⟨-, hm, hmx⟩ := isInt_iff_signed.mp hx
  obtain ⟨-, hn, hny⟩ := isInt_iff_signed.mp hy
  rw [mul_of_isFinite hx.finite hy.finite, hmx, hny]
  refine isInt_ofUnits_of_eq unitsPerOne_pos h ?_ ?_
  · rw [Int.natAbs_mul]
    ring
  · rw [Int.natAbs_mul, ← signed_mul, ← hm, ← hn]

theorem IsInt.div {q : ℤ} (hx : x.IsInt (q * n)) (hy : y.IsInt n) (hn : n ≠ 0)
    (h : q.natAbs < 2 ^ 53) : (x.div y).IsInt q := by
  obtain ⟨-, hqx, hmx⟩ := isInt_iff_signed.mp hx
  obtain ⟨-, hny, hmy⟩ := isInt_iff_signed.mp hy
  have hzero : y.isZero = false :=
    decide_eq_false fun hmagnitude => hn (hy.magnitude_eq_zero_iff.mp hmagnitude)
  have hpos : 0 < n.natAbs := Int.natAbs_pos.mpr hn
  rw [div_of_isFinite hx.finite hy.finite hzero, hmx, hmy]
  refine isInt_ofUnits_of_eq (Nat.mul_pos hpos unitsPerOne_pos) h ?_ ?_
  · rw [Int.natAbs_mul]
    ring
  · have hbne (a b : Bool) : ((a != b) != b) = a := by cases a <;> cases b <;> rfl
    refine Int.eq_of_mul_eq_mul_right hn ?_
    calc signed (x.negative != y.negative) q.natAbs * n
        = signed (x.negative != y.negative) q.natAbs * signed y.negative n.natAbs := by
          rw [← hny]
      _ = signed x.negative (q * n).natAbs := by rw [signed_mul, hbne, Int.natAbs_mul]
      _ = q * n := hqx.symm

theorem isFinite_div_zero (hy : y.isZero = true) :
    (x.div y).isFinite = false := by
  have hfinite : y.isFinite = true := by
    have hmagnitude : y.magnitude = 0 := of_decide_eq_true hy
    exact decide_eq_true (hmagnitude ▸ by decide)
  have hinfinity (negative : Bool) : (infinity negative).isFinite = false := rfl
  have hnan : nan.isFinite = false := rfl
  simp only [div, hy, hfinite, Bool.not_true, Bool.false_eq_true, if_true, if_false]
  split_ifs
  · exact hnan
  · exact hinfinity _
  · exact hnan
  · exact hinfinity _

end QueryFunctions.Binary64
