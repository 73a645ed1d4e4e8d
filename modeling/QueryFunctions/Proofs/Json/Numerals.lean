import Mathlib.Data.List.Basic
import Mathlib.Data.List.Forall2
import Mathlib.Data.List.TakeDrop
import Mathlib.Data.List.TakeWhile
import Mathlib.Tactic.SplitIfs
import QueryFunctions.Json.Spelling

/-! Where numerals end in a text. A numeral is read the same whatever comes after it, if what comes
after it begins neither with a digit nor with the mark of a part that may be missing. -/

namespace QueryFunctions

namespace Numeral

variable {cs rest digits : List Char} {stops : List Char}

/-- A text that neither begins with a digit nor with one of some other characters. -/
def StopsAt (stops rest : List Char) : Prop :=
  ∀ c, rest.head? = some c → c.isDigit = false ∧ c ∉ stops

theorem StopsAt.mono {more : List Char} (h : StopsAt more rest) (hmore : stops ⊆ more) :
    StopsAt stops rest :=
  fun c hc => ⟨(h c hc).1, fun hmem => (h c hc).2 (hmore hmem)⟩

theorem StopsAt.append {read : List Char} (h : StopsAt stops rest)
    (hread : ∀ c, read.head? = some c → c.isDigit = false ∧ c ∉ stops) :
    StopsAt stops (read ++ rest) := by
  cases read with
  | nil => exact h
  | cons c cs => exact fun d hd => hread d hd

theorem scanDigits?_append (hne : digits ≠ []) (hdigits : ∀ c ∈ digits, c.isDigit = true)
    (hrest : StopsAt [] rest) : scanDigits? (digits ++ rest) = some (digits, rest) := by
  have hspan : (digits ++ rest).span Char.isDigit = (digits, rest) := by
    rw [List.span_eq_takeWhile_dropWhile, List.takeWhile_append_of_pos hdigits,
      List.dropWhile_append_of_pos hdigits]
    cases rest with
    | nil => simp
    | cons c cs =>
      have hc : ¬ c.isDigit = true := by simp [(hrest c rfl).1]
      rw [List.takeWhile_cons_of_neg hc, List.dropWhile_cons_of_neg hc, List.append_nil]
  obtain ⟨d, ds, rfl⟩ := List.exists_cons_of_ne_nil hne
  rw [scanDigits?, hspan]

theorem scanDigits?_eq_some (h : scanDigits? cs = some (digits, rest)) :
    cs = digits ++ rest ∧ digits ≠ [] ∧ ∀ c ∈ digits, c.isDigit = true := by
  unfold scanDigits? at h
  rw [List.span_eq_takeWhile_dropWhile] at h
  split at h
  · cases h
  next taken left hne heq =>
    obtain ⟨rfl, rfl⟩ := Prod.mk.inj (Option.some.inj h)
    obtain ⟨rfl, rfl⟩ := Prod.mk.inj heq
    refine ⟨List.takeWhile_append_dropWhile.symm, fun hnil => ?_, fun c => List.mem_takeWhile_imp⟩
    exact hne hnil

theorem scanFraction?_local {fraction : Option (List Char)}
    (h : scanFraction? cs = some (fraction, rest)) :
    ∃ read, cs = read ++ rest ∧ (∀ c, read.head? = some c → c = '.') ∧
      ∀ later, StopsAt ['.'] later → scanFraction? (read ++ later) = some (fraction, later) := by
  unfold scanFraction? at h
  split at h
  next cs =>
    obtain ⟨⟨digits, left⟩, hdigits, heq⟩ := Option.map_eq_some_iff.mp h
    obtain ⟨rfl, rfl⟩ := Prod.mk.inj heq
    obtain ⟨rfl, hne, hall⟩ := scanDigits?_eq_some hdigits
    refine ⟨'.' :: digits, rfl, fun c hc => (Option.some.inj hc).symm, fun later hlater => ?_⟩
    rw [List.cons_append, scanFraction?,
      scanDigits?_append hne hall (hlater.mono (List.nil_subset _))]
    rfl
  next hdot =>
    obtain ⟨rfl, rfl⟩ := Prod.mk.inj (Option.some.inj h)
    refine ⟨[], rfl, fun c hc => (by cases hc), fun later hlater => ?_⟩
    rw [List.nil_append]
    unfold scanFraction?
    split
    · exact absurd (List.mem_singleton_self _) (hlater '.' rfl).2
    · rfl

theorem scanDigits?_cons_eq_none {c : Char} (h : c.isDigit = false) :
    scanDigits? (c :: cs) = none := by
  have hc : ¬ c.isDigit = true := by simp [h]
  rw [scanDigits?, List.span_eq_takeWhile_dropWhile, List.takeWhile_cons_of_neg hc]

/-- How an exponent is signed, and whether it is negative. -/
def signs : List (List Char × Bool) := [(['-'], true), (['+'], false), ([], false)]

theorem scanExponent?_eq_some_iff {exponent : Option (Bool × List Char)} {c : Char}
    (hc : c = 'e' ∨ c = 'E') :
    scanExponent? (c :: cs) = some (exponent, rest) ↔
      ∃ sign ∈ signs, ∃ after digits, cs = sign.1 ++ after ∧
        scanDigits? after = some (digits, rest) ∧ exponent = some (sign.2, digits) := by
  have hmark : (c = 'e' || c = 'E') = true := by simpa using hc
  constructor
  · intro h
    unfold scanExponent? at h
    dsimp only at h
    rw [if_pos hmark] at h
    obtain ⟨⟨digits, left⟩, hdigits, hread⟩ := Option.bind_eq_some_iff.mp h
    obtain ⟨rfl, rfl⟩ := Prod.mk.inj (Option.some.inj hread)
    split at hdigits
    case h_1 cs => exact ⟨(['-'], true), by simp [signs], cs, digits, rfl, hdigits, rfl⟩
    case h_2 cs => exact ⟨(['+'], false), by simp [signs], cs, digits, rfl, hdigits, rfl⟩
    case h_3 => exact ⟨([], false), by simp [signs], cs, digits, rfl, hdigits, rfl⟩
  · rintro ⟨sign, hsign, after, digits, rfl, hdigits, rfl⟩
    unfold scanExponent?
    dsimp only
    rw [if_pos hmark]
    simp only [signs, List.mem_cons, List.not_mem_nil, or_false] at hsign
    rcases hsign with rfl | rfl | rfl
    · exact Option.bind_eq_some_iff.mpr ⟨(digits, rest), hdigits, rfl⟩
    · exact Option.bind_eq_some_iff.mpr ⟨(digits, rest), hdigits, rfl⟩
    · rw [List.nil_append]
      split
      · rw [scanDigits?_cons_eq_none rfl] at hdigits
        cases hdigits
      · rw [scanDigits?_cons_eq_none rfl] at hdigits
        cases hdigits
      · exact Option.bind_eq_some_iff.mpr ⟨(digits, rest), hdigits, rfl⟩

theorem scanExponent?_local {exponent : Option (Bool × List Char)}
    (h : scanExponent? cs = some (exponent, rest)) :
    ∃ read, cs = read ++ rest ∧ (∀ c, read.head? = some c → c = 'e' ∨ c = 'E') ∧
      ∀ later, StopsAt ['e', 'E'] later →
        scanExponent? (read ++ later) = some (exponent, later) := by
  by_cases hmark : ∃ c more, cs = c :: more ∧ (c = 'e' ∨ c = 'E')
  · obtain ⟨c, more, rfl, hc⟩ := hmark
    obtain ⟨sign, hsign, after, digits, rfl, hdigits, rfl⟩ := (scanExponent?_eq_some_iff hc).mp h
    obtain ⟨rfl, hne, hall⟩ := scanDigits?_eq_some hdigits
    refine ⟨c :: (sign.1 ++ digits), by simp, fun d hd => ?_, fun later hlater => ?_⟩
    · obtain rfl := Option.some.inj hd
      exact hc
    · rw [List.cons_append, List.append_assoc]
      exact (scanExponent?_eq_some_iff hc).mpr ⟨sign, hsign, _, digits, rfl,
        scanDigits?_append hne hall (hlater.mono (List.nil_subset _)), rfl⟩
  · have hnone (text : List Char) (htext : ¬ ∃ c more, text = c :: more ∧ (c = 'e' ∨ c = 'E')) :
        scanExponent? text = some (none, text) := by
      cases text with
      | nil => rfl
      | cons c more =>
        have hc : ¬ (c = 'e' || c = 'E') = true := by simpa using fun hc => htext ⟨c, more, rfl, hc⟩
        exact if_neg hc
    rw [hnone cs hmark] at h
    obtain ⟨rfl, rfl⟩ := Prod.mk.inj (Option.some.inj h)
    refine ⟨[], rfl, fun c hc => (by cases hc), fun later hlater => hnone later ?_⟩
    rintro ⟨c, more, rfl, hc⟩
    exact (hlater c rfl).2 (by simpa using hc)

/-- Takes a numeral from after its sign. -/
def scanUnsigned? (negative : Bool) (cs : List Char) : Option (Numeral × List Char) := do
  let (whole, cs) ← scanDigits? cs
  if whole.head? = some '0' && whole.length ≠ 1 then none
  else
    let (fraction, cs) ← scanFraction? cs
    let (exponent, cs) ← scanExponent? cs
    some (⟨negative, whole, fraction, exponent⟩, cs)

theorem scan?_minus (cs : List Char) : scan? ('-' :: cs) = scanUnsigned? true cs := rfl

theorem scan?_of_head? (h : cs.head? ≠ some '-') : scan? cs = scanUnsigned? false cs := by
  unfold scan?
  dsimp only
  split
  · exact absurd rfl h
  · rfl

theorem scanUnsigned?_eq_some_iff {negative : Bool} {n : Numeral} :
    scanUnsigned? negative cs = some (n, rest) ↔
      ∃ middle last, n.negative = negative ∧ scanDigits? cs = some (n.whole, middle) ∧
        ¬ (n.whole.head? = some '0' && n.whole.length ≠ 1) = true ∧
        scanFraction? middle = some (n.fraction, last) ∧
        scanExponent? last = some (n.exponent, rest) := by
  constructor
  · intro h
    obtain ⟨⟨whole, middle⟩, hwhole, h⟩ := Option.bind_eq_some_iff.mp h
    dsimp only at h
    split_ifs at h with hzero
    obtain ⟨⟨fraction, last⟩, hfraction, h⟩ := Option.bind_eq_some_iff.mp h
    obtain ⟨⟨exponent, left⟩, hexponent, h⟩ := Option.bind_eq_some_iff.mp h
    obtain ⟨rfl, rfl⟩ := Prod.mk.inj (Option.some.inj h)
    exact ⟨middle, last, rfl, hwhole, hzero, hfraction, hexponent⟩
  · rintro ⟨middle, last, rfl, hwhole, hzero, hfraction, hexponent⟩
    refine Option.bind_eq_some_iff.mpr ⟨_, hwhole, ?_⟩
    dsimp only
    rw [if_neg hzero]
    exact Option.bind_eq_some_iff.mpr ⟨_, hfraction,
      Option.bind_eq_some_iff.mpr ⟨_, hexponent, rfl⟩⟩

theorem scanUnsigned?_local {negative : Bool} {n : Numeral}
    (h : scanUnsigned? negative cs = some (n, rest)) :
    ∃ d read, cs = d :: (read ++ rest) ∧ d.isDigit = true ∧
      ∀ later, StopsAt ['.', 'e', 'E'] later →
        scanUnsigned? negative (d :: (read ++ later)) = some (n, later) := by
  obtain ⟨middle, last, hnegative, hwhole, hzero, hfraction, hexponent⟩ :=
    scanUnsigned?_eq_some_iff.mp h
  obtain ⟨rfl, hne, hdigits⟩ := scanDigits?_eq_some hwhole
  obtain ⟨fractionText, rfl, hpoint, hfractionLocal⟩ := scanFraction?_local hfraction
  obtain ⟨exponentText, rfl, hmark, hexponentLocal⟩ := scanExponent?_local hexponent
  obtain ⟨d, ds, hds⟩ := List.exists_cons_of_ne_nil hne
  refine ⟨d, ds ++ (fractionText ++ exponentText), by simp [hds], hdigits d (by simp [hds]),
    fun later hlater => ?_⟩
  have hstop₁ : StopsAt ['.'] (exponentText ++ later) := by
    refine (hlater.mono (by simp)).append fun c hc => ?_
    rcases hmark c hc with rfl | rfl <;> decide
  have hstop₂ : StopsAt [] (fractionText ++ (exponentText ++ later)) := by
    refine (hstop₁.mono (List.nil_subset _)).append fun c hc => ?_
    rw [hpoint c hc]
    decide
  have htext : d :: (ds ++ (fractionText ++ exponentText) ++ later) =
      n.whole ++ (fractionText ++ (exponentText ++ later)) := by simp [hds]
  rw [htext]
  exact scanUnsigned?_eq_some_iff.mpr ⟨_, _, hnegative, scanDigits?_append hne hdigits hstop₂,
    hzero, hfractionLocal _ hstop₁, hexponentLocal _ (hlater.mono (by simp))⟩

/-- A numeral is read whatever comes after it, if that does not go on with it. -/
theorem scan?_local {n : Numeral} (h : scan? cs = some (n, rest)) :
    ∃ c read, cs = c :: (read ++ rest) ∧ (c = '-' ∨ c.isDigit = true) ∧
      ∀ later, StopsAt ['.', 'e', 'E'] later →
        scan? (c :: (read ++ later)) = some (n, later) := by
  by_cases hsign : cs.head? = some '-'
  · obtain ⟨after, rfl⟩ := List.head?_eq_some_iff.mp hsign
    obtain ⟨d, read, rfl, -, hlocal⟩ := scanUnsigned?_local ((scan?_minus after).symm.trans h)
    exact ⟨'-', d :: read, rfl, .inl rfl, hlocal⟩
  · rw [scan?_of_head? hsign] at h
    obtain ⟨d, read, rfl, hd, hlocal⟩ := scanUnsigned?_local h
    refine ⟨d, read, rfl, .inr hd, fun later hlater => ?_⟩
    rw [scan?_of_head? (by simpa using hsign)]
    exact hlocal later hlater

end Numeral

end QueryFunctions
