import Mathlib.Data.List.Nodup
import QueryFunctions.Proofs.Library.PatternCalls

/-! Replacing single characters. What becomes of a character is decided at its first place in the
first list, so later places of it do not count, nor does what the second list holds beyond the
end of the first. Where the second list repeats nothing, exchanging the two lists leads back. -/

namespace QueryFunctions.Library

variable {text source target other : List Char} {c : Char} {i index : Nat}

/-! ### First places -/

/-- The first place of a character in a list. -/
def FirstAt (source : List Char) (index : Nat) (c : Char) : Prop :=
  source[index]? = some c ∧ ∀ earlier, earlier < index → source[earlier]? ≠ some c

theorem idxOf?_eq_some_iff_firstAt : source.idxOf? c = some index ↔ FirstAt source index c := by
  rw [List.idxOf?_eq_some_iff]
  constructor
  · rintro ⟨hlt, hhere, hfirst⟩
    refine ⟨List.getElem?_eq_some_iff.mpr ⟨hlt, hhere⟩, fun earlier hearlier hthere => ?_⟩
    exact hfirst earlier hearlier (List.getElem?_eq_some_iff.mp hthere).2
  · rintro ⟨hhere, hfirst⟩
    obtain ⟨hlt, hget⟩ := List.getElem?_eq_some_iff.mp hhere
    refine ⟨hlt, hget, fun earlier hearlier hthere => hfirst earlier hearlier ?_⟩
    exact List.getElem?_eq_some_iff.mpr ⟨Nat.lt_trans hearlier hlt, hthere⟩

theorem exists_firstAt (h : c ∈ source) : ∃ index, FirstAt source index c := by
  cases hindex : source.idxOf? c with
  | none => exact absurd h (List.idxOf?_eq_none_iff.mp hindex)
  | some index => exact ⟨index, idxOf?_eq_some_iff_firstAt.mp hindex⟩

/-- Without repetitions every place is a first one. -/
theorem firstAt_of_nodup (hnodup : source.Nodup) (h : source[index]? = some c) :
    FirstAt source index c := by
  obtain ⟨hlt, -⟩ := List.getElem?_eq_some_iff.mp h
  refine ⟨h, fun earlier hearlier hthere => ?_⟩
  exact List.nodup_iff_getElem?_ne_getElem?.mp hnodup earlier index hearlier hlt
    (hthere.trans h.symm)

theorem translateChar_of_firstAt (h : FirstAt source index c) (target : List Char) :
    translateChar source target c = target[index]? := by
  rw [translateChar, idxOf?_eq_some_iff_firstAt.mpr h]

theorem translateChar_of_not_mem (h : c ∉ source) (target : List Char) :
    translateChar source target c = some c := by
  rw [translateChar, List.idxOf?_eq_none_iff.mpr h]

/-! ### The way back -/

/-- A character that has been replaced is found again, with the lists exchanged. -/
theorem translateChar_back (hlength : source.length = target.length) (hnodup : target.Nodup)
    (hc : c ∈ target → c ∈ source) :
    (translateChar source target c).bind (translateChar target source) = some c := by
  by_cases hmem : c ∈ source
  · obtain ⟨index, hfirst⟩ := exists_firstAt hmem
    obtain ⟨hlt, -⟩ := List.getElem?_eq_some_iff.mp hfirst.1
    have hsome : target[index]?.isSome = true := by simpa using hlength ▸ hlt
    obtain ⟨d, hthere⟩ := Option.isSome_iff_exists.mp hsome
    rw [translateChar_of_firstAt hfirst, hthere, Option.bind_some,
      translateChar_of_firstAt (firstAt_of_nodup hnodup hthere)]
    exact hfirst.1
  · rw [translateChar_of_not_mem hmem, Option.bind_some,
      translateChar_of_not_mem fun htarget => hmem (hc htarget)]

theorem translate_translate (hlength : source.length = target.length)
    (hnodup : target.Nodup) (htext : ∀ c ∈ text, c ∈ target → c ∈ source) :
    translate (translate text source target) target source = text := by
  unfold translate
  rw [List.filterMap_filterMap]
  calc text.filterMap (fun c => (translateChar source target c).bind (translateChar target source))
    _ = text.filterMap some :=
      List.filterMap_congr fun c hc => translateChar_back hlength hnodup (htext c hc)
    _ = text := List.filterMap_some

/-! ### What does not count -/

/-- The place holds a character that the list has before. -/
def RepeatsAt (source : List Char) (index : Nat) : Prop :=
  ∃ c earlier, earlier < index ∧ source[earlier]? = some c ∧ source[index]? = some c

theorem FirstAt.ne_of_repeatsAt (h : FirstAt source i c) (hrepeats : RepeatsAt source index) :
    i ≠ index := by
  rintro rfl
  obtain ⟨c', earlier, hearlier, hthere, hhere⟩ := hrepeats
  obtain rfl := Option.some.inj (hhere.symm.trans h.1)
  exact h.2 earlier hearlier hthere

/-- Deleting at another place moves a first place at most by one, and in every list alike. -/
theorem FirstAt.eraseIdx (h : FirstAt source i c) (hne : i ≠ index) :
    ∃ j, FirstAt (source.eraseIdx index) j c ∧
      ∀ target : List Char, (target.eraseIdx index)[j]? = target[i]? := by
  rcases Nat.lt_or_gt_of_ne hne with hlt | hgt
  · have hsame (k : Nat) (hk : k ≤ i) (list : List Char) :
        (list.eraseIdx index)[k]? = list[k]? :=
      List.getElem?_eraseIdx_of_lt (Nat.lt_of_le_of_lt hk hlt)
    refine ⟨i, ⟨?_, fun earlier hearlier => ?_⟩, hsame i (Nat.le_refl i)⟩
    · rw [hsame i (Nat.le_refl i), h.1]
    · rw [hsame earlier (Nat.le_of_lt hearlier)]
      exact h.2 earlier hearlier
  · have hmoved (list : List Char) : (list.eraseIdx index)[i - 1]? = list[i]? := by
      rw [List.getElem?_eraseIdx, if_neg (by omega), Nat.sub_add_cancel (by omega)]
    refine ⟨i - 1, ⟨by rw [hmoved, h.1], fun earlier hearlier => ?_⟩, hmoved⟩
    rw [List.getElem?_eraseIdx]
    split_ifs
    · exact h.2 earlier (by omega)
    · exact h.2 (earlier + 1) (by omega)

theorem translateChar_eraseIdx (hrepeats : RepeatsAt source index) (target : List Char)
    (c : Char) :
    translateChar (source.eraseIdx index) (target.eraseIdx index) c =
      translateChar source target c := by
  by_cases hmem : c ∈ source
  · obtain ⟨i, hfirst⟩ := exists_firstAt hmem
    obtain ⟨j, hmoved, hget⟩ := hfirst.eraseIdx (hfirst.ne_of_repeatsAt hrepeats)
    rw [translateChar_of_firstAt hmoved, translateChar_of_firstAt hfirst, hget]
  · rw [translateChar_of_not_mem hmem,
      translateChar_of_not_mem fun h => hmem (List.mem_of_mem_eraseIdx h)]

theorem translateChar_congr (h : ∀ i, i < source.length → target[i]? = other[i]?) (c : Char) :
    translateChar source target c = translateChar source other c := by
  by_cases hmem : c ∈ source
  · obtain ⟨i, hfirst⟩ := exists_firstAt hmem
    obtain ⟨hlt, -⟩ := List.getElem?_eq_some_iff.mp hfirst.1
    rw [translateChar_of_firstAt hfirst, translateChar_of_firstAt hfirst, h i hlt]
  · rw [translateChar_of_not_mem hmem, translateChar_of_not_mem hmem]

theorem translate_eraseIdx (hrepeats : RepeatsAt source index) (text target : List Char) :
    translate text (source.eraseIdx index) (target.eraseIdx index) =
      translate text source target :=
  List.filterMap_congr fun c _ => translateChar_eraseIdx hrepeats target c

theorem translate_congr (h : ∀ i, i < source.length → target[i]? = other[i]?)
    (text : List Char) : translate text source target = translate text source other :=
  List.filterMap_congr fun c _ => translateChar_congr h c

/-! ### Calls -/

theorem onTexts_translate (limits : Pattern.Limits) (text source target : String) :
    onTexts limits "translate" [text, source, target] =
      .value (.string (.ofList (translate text.toList source.toList target.toList))) := by
  have hresolve : (Environment.standard.withLimits limits).resolve "translate" =
      .ok ⟨"translate", .exact [.string, .string, .string], translateBody⟩ := rfl
  obtain ⟨host, -, hcall⟩ := Environment.onTexts_eq [text, source, target] hresolve rfl
  exact hcall

/-- The text without the character at a place, if there is one. -/
def dropAt (text : String) (index : Nat) : String := .ofList (text.toList.eraseIdx index)

/-- Replacing characters goes by their first places. It is undone by exchanging the two lists, if
they have one length, neither repeats a character, and the text has only such characters of the
second that are in the first too. Deleting a later repetition from the first list, together with
what stands at its place in the second, changes no result, nor does any change of the second
list beyond the length of the first. -/
theorem translation_by_first_places (limits : Pattern.Limits) :
    (∀ text source target : String, source.length = target.length →
      source.toList.Nodup → target.toList.Nodup →
      (∀ c ∈ text.toList, c ∈ target.toList → c ∈ source.toList) →
      ∃ there, onTexts limits "translate" [text, source, target] = .value (.string there) ∧
        onTexts limits "translate" [there, target, source] = .value (.string text)) ∧
    (∀ (text source target : String) (index : Nat), RepeatsAt source.toList index →
      ∃ result, onTexts limits "translate" [text, source, target] = .value (.string result) ∧
        onTexts limits "translate" [text, dropAt source index, dropAt target index] =
          .value (.string result)) ∧
    ∀ text source target other : String,
      (∀ i, i < source.length → target.toList[i]? = other.toList[i]?) →
      ∃ result, onTexts limits "translate" [text, source, target] = .value (.string result) ∧
        onTexts limits "translate" [text, source, other] = .value (.string result) := by
  refine ⟨fun text source target hlength _ hnodup htext => ?_,
    fun text source target index hrepeats => ?_, fun text source target other hagree => ?_⟩
  case refine_1 =>
    refine ⟨_, onTexts_translate limits text source target, ?_⟩
    rw [← String.length_toList, ← String.length_toList] at hlength
    rw [onTexts_translate, String.toList_ofList, translate_translate hlength hnodup htext,
      String.ofList_toList]
  case refine_2 =>
    refine ⟨_, onTexts_translate limits text source target, ?_⟩
    rw [onTexts_translate, dropAt, dropAt, String.toList_ofList, String.toList_ofList,
      translate_eraseIdx hrepeats]
  case refine_3 =>
    refine ⟨_, onTexts_translate limits text source target, ?_⟩
    rw [← String.length_toList] at hagree
    rw [onTexts_translate, translate_congr hagree]

/-- Characters that are exchanged, with one among them that the first list lacks; a repetition
at a place that the second list has, and one beyond its end; and a second list that is cut to the
length of the first. -/
theorem translation_by_first_places_exchange :
    (∃ there, onTexts {} "translate" ["bäbxc", "äbx", "bä😀"] = .value (.string there) ∧
        onTexts {} "translate" [there, "bä😀", "äbx"] = .value (.string "bäbxc")) ∧
      (∃ result, onTexts {} "translate" ["äbäc", "abäabc", "123"] = .value (.string result) ∧
        onTexts {} "translate" ["äbäc", "abäac", "123"] = .value (.string result)) ∧
      (∃ result, onTexts {} "translate" ["abac", "aabc", "1234"] = .value (.string result) ∧
        onTexts {} "translate" ["abac", "abc", "134"] = .value (.string result)) ∧
      ∃ result, onTexts {} "translate" ["abc", "ab", "xyz"] = .value (.string result) ∧
        onTexts {} "translate" ["abc", "ab", "xy"] = .value (.string result) := by
  obtain ⟨hback, hrepeated, hbeyond⟩ := translation_by_first_places {}
  refine ⟨?_, ?_, ?_, ?_⟩
  · have htext : ∀ c ∈ "bäbxc".toList, c ∈ "bä😀".toList → c ∈ "äbx".toList := by simp
    exact hback "bäbxc" "äbx" "bä😀" (by decide) (by decide) (by decide) htext
  · exact hrepeated "äbäc" "abäabc" "123" 4 ⟨'b', 1, by decide, rfl, rfl⟩
  · exact hrepeated "abac" "aabc" "1234" 1 ⟨'a', 0, by decide, rfl, rfl⟩
  · refine hbeyond "abc" "ab" "xyz" "xy" fun i hi => ?_
    have hcases : i = 0 ∨ i = 1 := Nat.le_one_iff_eq_zero_or_eq_one.mp (Nat.le_of_lt_succ hi)
    rcases hcases with rfl | rfl <;> rfl

end QueryFunctions.Library
