import QueryFunctions.Json.Value
import QueryFunctions.Proofs.Number.Integers

/-! Numbers as JSON values. An integer of safe magnitude is kept as an integer, any other
finite number as it is, and what is infinite or no number as null. Nothing is lost by this but
the sign of zero, and numbers of one value are kept as one JSON value. -/

namespace QueryFunctions.Json

open Binary64 (IsInt)

variable {x y : Binary64} {n : ℤ}

/-! ### The three ways -/

theorem ofFloat_of_isFinite (hx : x.isFinite = true) : ofFloat x = .number (.float x hx) := by
  unfold ofFloat JsonNumber.ofFloat?
  rw [dif_pos hx]

theorem ofFloat_of_not_isFinite (hx : x.isFinite = false) : ofFloat x = .null := by
  unfold ofFloat JsonNumber.ofFloat?
  rw [dif_neg (by simp [hx])]

theorem ofBinary64_of_isInt (h : x.IsInt n) (hn : n.natAbs ≤ maxSafeInteger) :
    ofBinary64 x = .number (.int n) := by
  unfold ofBinary64
  rw [Binary64.toInt?_eq_some_iff.mpr h]
  exact if_pos hn

theorem ofBinary64_of_isFinite (hx : x.isFinite = true)
    (h : ∀ n, x.IsInt n → maxSafeInteger < n.natAbs) :
    ofBinary64 x = .number (.float x hx) := by
  unfold ofBinary64
  rw [ofFloat_of_isFinite hx]
  cases hint : x.toInt? with
  | none => rfl
  | some n => exact if_neg (Nat.not_le.mpr (h n (Binary64.toInt?_eq_some_iff.mp hint)))

theorem ofBinary64_of_not_isFinite (hx : x.isFinite = false) : ofBinary64 x = .null := by
  unfold ofBinary64
  cases hint : x.toInt? with
  | none => exact ofFloat_of_not_isFinite hx
  | some n =>
    have hfinite := (Binary64.toInt?_eq_some_iff.mp hint).finite
    rw [hx] at hfinite
    cases hfinite

/-- A finite number is a safe integer, or it is kept as it is. -/
theorem safe_or_float (hx : x.isFinite = true) :
    (∃ n, x.IsInt n ∧ n.natAbs ≤ maxSafeInteger ∧ ofBinary64 x = .number (.int n)) ∨
      (∀ n, x.IsInt n → maxSafeInteger < n.natAbs) ∧ ofBinary64 x = .number (.float x hx) := by
  by_cases h : ∃ n, x.IsInt n ∧ n.natAbs ≤ maxSafeInteger
  · obtain ⟨n, hint, hn⟩ := h
    exact .inl ⟨n, hint, hn, ofBinary64_of_isInt hint hn⟩
  · have hlarge (n : ℤ) (hint : x.IsInt n) : maxSafeInteger < n.natAbs :=
      Nat.not_le.mp fun hn => h ⟨n, hint, hn⟩
    exact .inr ⟨hlarge, ofBinary64_of_isFinite hx hlarge⟩

/-! ### What is kept -/

theorem ofBinary64_eq_null_iff : ofBinary64 x = .null ↔ x.isFinite = false := by
  constructor
  · intro h
    rw [← Bool.not_eq_true]
    intro hx
    rcases safe_or_float hx with ⟨n, -, -, hkept⟩ | ⟨-, hkept⟩
    · rw [h] at hkept
      cases hkept
    · rw [h] at hkept
      cases hkept
  · exact ofBinary64_of_not_isFinite

theorem ofBinary64_eq_int_iff :
    ofBinary64 x = .number (.int n) ↔ x.IsInt n ∧ n.natAbs ≤ maxSafeInteger := by
  constructor
  · intro h
    have hx : x.isFinite = true := by
      rw [← Bool.not_eq_false]
      intro hx
      rw [ofBinary64_of_not_isFinite hx] at h
      cases h
    rcases safe_or_float hx with ⟨m, hint, hm, hkept⟩ | ⟨-, hkept⟩
    · rw [hkept] at h
      cases h
      exact ⟨hint, hm⟩
    · rw [hkept] at h
      cases h
  · exact fun h => ofBinary64_of_isInt h.1 h.2

theorem toBinary64_ofBinary64 (hx : x.isFinite = true) :
    (ofBinary64 x).toBinary64 = if x = Binary64.zero.neg then .zero else x := by
  rcases safe_or_float hx with ⟨n, hint, -, hkept⟩ | ⟨hlarge, hkept⟩
  · rw [hkept]
    exact Binary64.ofInt_of_isInt hint
  · have hne : x ≠ Binary64.zero.neg := by
      rintro rfl
      exact absurd (hlarge 0 ⟨hx, rfl⟩) (Nat.not_lt_zero _)
    rw [hkept, if_neg hne]
    rfl

theorem units_ofBinary64 (hx : x.isFinite = true) :
    (ofBinary64 x).toBinary64.units = x.units := by
  rw [toBinary64_ofBinary64 hx]
  split_ifs with h
  · rw [h]
    rfl
  · rfl

/-- Two numbers are kept as one JSON value if and only if they have the same value. -/
theorem ofBinary64_inj (hx : x.isFinite = true) (hy : y.isFinite = true) :
    ofBinary64 x = ofBinary64 y ↔ x.value = y.value := by
  rw [← Binary64.units_eq_iff]
  constructor
  · intro h
    rw [← units_ofBinary64 hx, h, units_ofBinary64 hy]
  · intro h
    rcases safe_or_float hx with ⟨n, hint, hsafe, hkept⟩ | ⟨hlarge, -⟩
    · have hint' : y.IsInt n := ⟨hy, h ▸ hint.units⟩
      rw [hkept, ofBinary64_of_isInt hint' hsafe]
    · have hne : x.units ≠ 0 := fun hzero =>
        absurd (hlarge 0 ⟨hx, by rw [hzero, zero_mul]⟩) (Nat.not_lt_zero _)
      rw [Binary64.eq_of_units_eq hx hy h hne]

/-- How a number is kept. Exactly what is infinite or no number becomes null. A finite number
is read back bit for bit, but for the negative zero, which is read back as the positive one. It
is kept as an integer exactly if it is one of magnitude at most `2 ^ 53 - 1`, and as it is
otherwise; and finite numbers are kept as one JSON value exactly if they have one value. -/
theorem numbers_kept_canonically (x : Binary64) :
    (ofBinary64 x = .null ↔ x.isNaN = true ∨ ∃ negative, x = .infinity negative) ∧
    ∀ hx : x.isFinite = true,
      (ofBinary64 x).toBinary64 = (if x = Binary64.zero.neg then .zero else x) ∧
      (∀ n : ℤ, ofBinary64 x = .number (.int n) ↔ x.value = n ∧ n.natAbs ≤ 2 ^ 53 - 1) ∧
      ((¬ ∃ n : ℤ, x.value = n ∧ n.natAbs ≤ 2 ^ 53 - 1) →
        ofBinary64 x = .number (.float x hx)) ∧
      ∀ y, y.isFinite = true → (ofBinary64 x = ofBinary64 y ↔ x.value = y.value) := by
  have hbound : maxSafeInteger = 2 ^ 53 - 1 := by decide
  refine ⟨ofBinary64_eq_null_iff.trans Binary64.isFinite_eq_false_iff, fun hx => ?_⟩
  have hint (n : ℤ) : x.IsInt n ↔ x.value = n := by
    rw [Binary64.isInt_iff_value, and_iff_right hx]
  refine ⟨toBinary64_ofBinary64 hx, fun n => ?_, fun hnot => ?_, fun y => ofBinary64_inj hx⟩
  case refine_1 => rw [ofBinary64_eq_int_iff, hint, hbound]
  case refine_2 =>
    refine ofBinary64_of_isFinite hx fun n hn => Nat.not_le.mp fun hle => hnot ⟨n, ?_, ?_⟩
    · exact (hint n).mp hn
    · rwa [← hbound]

end QueryFunctions.Json
