import QueryFunctions.Function.Argument
import QueryFunctions.Proofs.Number.Order

/-! JSON values compared as numbers. Values are ordered by the rank of the number that each is
taken for, which makes one total preorder of them all. What is no number comes last; integers
are in order however they are rounded, and up to `2 ^ 53` none of them are taken for the same. -/

namespace QueryFunctions

namespace Json

variable {v w : Json} {m n : ℤ} {x : Binary64}

/-! ### Ranks of values -/

theorem toBinary64_of_kind (h : v.kind ≠ .number) : v.toBinary64 = .nan := by
  cases v with
  | number a => exact absurd rfl h
  | null | bool | string | array | object => rfl

theorem compareNumeric_eq_swap (v w : Json) : v.compareNumeric w = (w.compareNumeric v).swap := by
  unfold compareNumeric
  exact Std.OrientedOrd.eq_swap

theorem compareNumeric_ne_gt : v.compareNumeric w ≠ .gt ↔ v.toBinary64.rank ≤ w.toBinary64.rank :=
  compare_le_iff_le

theorem compareNumeric_eq : v.compareNumeric w = .eq ↔ v.toBinary64.rank = w.toBinary64.rank :=
  compare_eq_iff_eq

theorem compareNumeric_gt : v.compareNumeric w = .gt ↔ w.toBinary64.rank < v.toBinary64.rank :=
  compare_gt_iff_gt

theorem magnitude_toBinary64_le (a : JsonNumber) :
    a.toBinary64.magnitude ≤ Binary64.infiniteMagnitude := by
  cases a with
  | int n => exact Binary64.magnitude_ofInt_le n
  | float x finite => exact (of_decide_eq_true finite).le

theorem rank_lt_of_kind (a : JsonNumber) (hv : v.kind ≠ .number) :
    a.toBinary64.rank < v.toBinary64.rank := by
  rw [toBinary64_of_kind hv]
  exact Binary64.rank_lt_nan (magnitude_toBinary64_le a)

/-! ### Integers -/

theorem compareNumeric_int (hm : m.natAbs ≤ 2 ^ 53) (hn : n.natAbs ≤ 2 ^ 53) :
    (number (.int m)).compareNumeric (number (.int n)) = compare m n := by
  rcases lt_trichotomy m n with hlt | rfl | hgt
  · rw [compare_lt_iff_lt.mpr hlt]
    exact compare_lt_iff_lt.mpr (Binary64.rank_ofInt_lt hm hn hlt)
  · rw [compare_eq_iff_eq.mpr rfl]
    exact compareNumeric_eq.mpr rfl
  · rw [compare_gt_iff_gt.mpr hgt]
    exact compareNumeric_gt.mpr (Binary64.rank_ofInt_lt hn hm hgt)

/-- Only the negative zero is told from the integer of its value. -/
theorem compareNumeric_int_float (h : x.IsInt n) :
    (number (.int n)).compareNumeric (number (.float x h.finite)) =
      if x = Binary64.zero.neg then .gt else .eq := by
  have hread := Binary64.ofInt_of_isInt h
  split_ifs at hread ⊢ with hzero
  · subst hzero
    refine compareNumeric_gt.mpr ?_
    change Binary64.zero.neg.rank < (Binary64.ofInt n).rank
    rw [hread]
    decide
  · exact compareNumeric_eq.mpr (congrArg Binary64.rank hread)

/-- Values compared as numbers are in one total preorder. Comparing them the other way round
gives the reverse, and what is not greater than something not greater is not greater. All that
is no number is equal, and greater than every number. Among integers a lower one is never
greater, and up to `2 ^ 53` they compare as integers do; a floating point number is equal to the
integer of its value, except that the negative zero comes before it. -/
theorem compared_in_total_preorder :
    (∀ v w : Json, v.compareNumeric w = (w.compareNumeric v).swap) ∧
    (∀ u v w : Json, u.compareNumeric v ≠ .gt → v.compareNumeric w ≠ .gt →
      u.compareNumeric w ≠ .gt) ∧
    (∀ v w : Json, v.kind ≠ .number → w.kind ≠ .number → v.compareNumeric w = .eq) ∧
    (∀ (v : Json) (a : JsonNumber), v.kind ≠ .number → v.compareNumeric (.number a) = .gt) ∧
    (∀ m n : ℤ, m ≤ n → (number (.int m)).compareNumeric (number (.int n)) ≠ .gt) ∧
    (∀ m n : ℤ, m.natAbs ≤ 2 ^ 53 → n.natAbs ≤ 2 ^ 53 →
      (number (.int m)).compareNumeric (number (.int n)) = compare m n) ∧
    ∀ (n : ℤ) (x : Binary64) (hx : x.isFinite = true), x.value = n →
      (number (.int n)).compareNumeric (number (.float x hx)) =
        if x = Binary64.zero.neg then .gt else .eq := by
  refine ⟨compareNumeric_eq_swap, fun u v w huv hvw => ?_, fun v w hv hw => ?_,
    fun v a hv => ?_, fun m n hmn => ?_, fun m n => compareNumeric_int, fun n x hx hn => ?_⟩
  case refine_1 =>
    rw [compareNumeric_ne_gt] at huv hvw ⊢
    exact huv.trans hvw
  case refine_2 => rw [compareNumeric_eq, toBinary64_of_kind hv, toBinary64_of_kind hw]
  case refine_3 => exact compareNumeric_gt.mpr (rank_lt_of_kind a hv)
  case refine_4 => exact compareNumeric_ne_gt.mpr (Binary64.rank_ofInt_mono hmn)
  case refine_5 => exact compareNumeric_int_float (Binary64.isInt_iff_value.mpr ⟨hx, hn⟩)

/-- The zeros before what is no number, the least integer that is taken for another one, and
integers of both signs. -/
theorem compared_in_total_preorder_zeros :
    (number (.float Binary64.zero.neg rfl)).compareNumeric null ≠ .gt ∧
      null.compareNumeric (array []) = .eq ∧
      (string "7").compareNumeric (number (.int 18446744073709551615)) = .gt ∧
      (number (.int 9007199254740992)).compareNumeric (number (.int 9007199254740993)) ≠ .gt ∧
      (number (.int (-9007199254740992))).compareNumeric (number (.int 9007199254740991)) = .lt ∧
      (number (.int 0)).compareNumeric (number (.float Binary64.zero.neg rfl)) = .gt := by
  obtain ⟨-, htrans, hothers, hlast, hmono, hexact, hzero⟩ := compared_in_total_preorder
  obtain ⟨hfinite, hwhole⟩ := Binary64.isInt_iff_value.mp (⟨rfl, rfl⟩ : Binary64.zero.neg.IsInt 0)
  refine ⟨?_, hothers null (array []) (by decide) (by decide),
    hlast (string "7") (.int 18446744073709551615) (by decide),
    hmono _ _ (by decide), hexact _ _ (by decide) (by decide), hzero 0 _ hfinite hwhole⟩
  exact htrans _ (number (.int 0)) _ (by decide) (by decide)

end Json

end QueryFunctions
