import QueryFunctions.Proofs.Json.Canonical
import QueryFunctions.Proofs.Library.PatternCalls

/-! Arithmetic on integers. Calls with two integers of safe magnitude, however they are
written, come to the exact integer wherever that is safe too; a division by zero comes to
null. -/

namespace QueryFunctions

open Binary64 (IsInt)

/-- A number that is the integer `n`, written as an integer or as a floating point number. -/
inductive JsonNumber.Spells : JsonNumber → ℤ → Prop
  | int (n : ℤ) : Spells (.int n) n
  | float {x : Binary64} {n : ℤ} (finite : x.isFinite = true) (whole : x.value = n) :
    Spells (.float x finite) n

theorem JsonNumber.Spells.isInt {a : JsonNumber} {n : ℤ} (h : a.Spells n)
    (hn : n.natAbs ≤ 2 ^ 53 - 1) : a.toBinary64.IsInt n := by
  cases h with
  | int => exact Binary64.isInt_ofInt (by omega)
  | float finite whole => exact Binary64.isInt_iff_value.mpr ⟨finite, whole⟩

namespace Library

variable {limits : Pattern.Limits} {name : String} {op : Binary64 → Binary64 → Binary64}

theorem onValues_arithmetic
    (hresolve : (Environment.standard.withLimits limits).resolve name =
      .ok ⟨name, .exact [.number, .number], arithmetic op⟩) (a b : JsonNumber) :
    onValues limits name [.number a, .number b] =
      .value (.ofBinary64 (op a.toBinary64 b.toBinary64)) := by
  refine onValues_eq hresolve rfl fun host => ?_
  change Run.outcome (if (op a.toBinary64 b.toBinary64).isFinite then _ else _) = _
  cases hfinite : (op a.toBinary64 b.toBinary64).isFinite with
  | true => rfl
  | false =>
    rw [Json.ofBinary64_of_not_isFinite hfinite]
    rfl

theorem onValues_add (limits : Pattern.Limits) (a b : JsonNumber) :
    onValues limits "add" [.number a, .number b] =
      .value (.ofBinary64 (a.toBinary64.add b.toBinary64)) :=
  onValues_arithmetic rfl a b

theorem onValues_subtract (limits : Pattern.Limits) (a b : JsonNumber) :
    onValues limits "subtract" [.number a, .number b] =
      .value (.ofBinary64 (a.toBinary64.sub b.toBinary64)) :=
  onValues_arithmetic rfl a b

theorem onValues_multiply (limits : Pattern.Limits) (a b : JsonNumber) :
    onValues limits "multiply" [.number a, .number b] =
      .value (.ofBinary64 (a.toBinary64.mul b.toBinary64)) :=
  onValues_arithmetic rfl a b

theorem onValues_divide (limits : Pattern.Limits) (a b : JsonNumber) :
    onValues limits "divide" [.number a, .number b] =
      .value (.ofBinary64 (a.toBinary64.div b.toBinary64)) :=
  onValues_arithmetic rfl a b

/-- Arithmetic is exact on the safe integers. Two numbers that are such integers, each written
as an integer or as a floating point number, have exactly the sum, the difference and the
product that they should, where these are safe too, and the quotient, where it is an integer.
The quotient of any number by a zero is null, and no call fails. -/
theorem safe_integers_exact (limits : Pattern.Limits) :
    (∀ (a b : JsonNumber) (m n : ℤ), a.Spells m → b.Spells n →
      m.natAbs ≤ 2 ^ 53 - 1 → n.natAbs ≤ 2 ^ 53 - 1 →
        ((m + n).natAbs ≤ 2 ^ 53 - 1 →
          onValues limits "add" [.number a, .number b] = .value (.number (.int (m + n)))) ∧
        ((m - n).natAbs ≤ 2 ^ 53 - 1 →
          onValues limits "subtract" [.number a, .number b] = .value (.number (.int (m - n)))) ∧
        ((m * n).natAbs ≤ 2 ^ 53 - 1 →
          onValues limits "multiply" [.number a, .number b] = .value (.number (.int (m * n)))) ∧
        (n ≠ 0 → n ∣ m →
          onValues limits "divide" [.number a, .number b] = .value (.number (.int (m / n))))) ∧
    (∀ a b : JsonNumber, b.Spells 0 →
      onValues limits "divide" [.number a, .number b] = .value .null) ∧
    ∀ a b : JsonNumber, ∀ name ∈ ["add", "subtract", "multiply", "divide"],
      ∃ v, onValues limits name [.number a, .number b] = .value v := by
  have hkept {x : Binary64} {k : ℤ} (h : x.IsInt k) (hk : k.natAbs ≤ 2 ^ 53 - 1) :
      Json.ofBinary64 x = .number (.int k) := Json.ofBinary64_of_isInt h hk
  refine ⟨fun a b m n ha hb hm hn => ?_, fun a b hb => ?_, fun a b => ?_⟩
  case refine_1 =>
    have hx := ha.isInt hm
    have hy := hb.isInt hn
    refine ⟨fun h => ?_, fun h => ?_, fun h => ?_, fun hne hdvd => ?_⟩
    · rw [onValues_add, hkept (hx.add hy (by omega)) h]
    · rw [onValues_subtract, hkept (hx.sub hy (by omega)) h]
    · rw [onValues_multiply, hkept (hx.mul hy (by omega)) h]
    · obtain ⟨q, rfl⟩ := hdvd
      have hq : q.natAbs ≤ 2 ^ 53 - 1 := by
        rw [Int.natAbs_mul] at hm
        exact (Nat.le_mul_of_pos_left _ (Int.natAbs_pos.mpr hne)).trans hm
      rw [mul_comm] at hx
      rw [onValues_divide, hkept (hx.div hy hne (by omega)) hq, Int.mul_ediv_cancel_left q hne]
  case refine_2 =>
    have hzero : b.toBinary64.isZero = true :=
      decide_eq_true ((hb.isInt (Nat.zero_le _)).magnitude_eq_zero_iff.mpr rfl)
    rw [onValues_divide, Json.ofBinary64_of_not_isFinite (Binary64.isFinite_div_zero hzero)]
  case refine_3 =>
    intro name hname
    simp only [List.mem_cons, List.not_mem_nil, or_false] at hname
    rcases hname with rfl | rfl | rfl | rfl
    · exact ⟨_, onValues_add limits a b⟩
    · exact ⟨_, onValues_subtract limits a b⟩
    · exact ⟨_, onValues_multiply limits a b⟩
    · exact ⟨_, onValues_divide limits a b⟩

/-- Zero times a negative number, a sum at the bound, a quotient of two negative numbers, and a
quotient by a negative zero. -/
theorem safe_integers_exact_bound :
    onValues {} "multiply" [.number (.int 0), .number (.float (.ofInt (-3)) (by decide +kernel))] =
        .value (.number (.int 0)) ∧
      onValues {} "add"
          [.number (.float (.ofInt 9007199254740990) (by decide +kernel)), .number (.int 1)] =
        .value (.number (.int 9007199254740991)) ∧
      onValues {} "divide"
          [.number (.int (-12)), .number (.float (.ofInt (-3)) (by decide +kernel))] =
        .value (.number (.int 4)) ∧
      onValues {} "divide" [.number (.int 7), .number (.float Binary64.zero.neg rfl)] =
        .value .null := by
  have hfloat {n : ℤ} (h : n.natAbs < 2 ^ 53) (finite : (Binary64.ofInt n).isFinite = true) :
      (JsonNumber.float (.ofInt n) finite).Spells n :=
    .float finite (Binary64.isInt_iff_value.mp (Binary64.isInt_ofInt h)).2
  have hthree := hfloat (by decide : (-3 : ℤ).natAbs < 2 ^ 53) (by decide +kernel)
  have hlarge := hfloat (by decide : (9007199254740990 : ℤ).natAbs < 2 ^ 53) (by decide +kernel)
  have hzero : (JsonNumber.float Binary64.zero.neg rfl).Spells 0 :=
    .float rfl (Binary64.isInt_iff_value.mp (⟨rfl, rfl⟩ : Binary64.zero.neg.IsInt 0)).2
  obtain ⟨hexact, hnull, -⟩ := safe_integers_exact {}
  refine ⟨?_, ?_, ?_, hnull _ _ hzero⟩
  · exact (hexact _ _ 0 (-3) (.int 0) hthree (by decide) (by decide)).2.2.1 (by decide)
  · exact (hexact _ _ _ 1 hlarge (.int 1) (by decide) (by decide)).1 (by decide)
  · exact (hexact _ _ (-12) (-3) (.int _) hthree (by decide) (by decide)).2.2.2 (by decide)
      (by decide)

end Library

end QueryFunctions
