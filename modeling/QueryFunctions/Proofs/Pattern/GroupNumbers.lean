import Mathlib.Algebra.Group.Nat.Defs
import QueryFunctions.Proofs.Pattern.TemplateGrammar

/-! The numbers of groups. A number is read digit by digit, and the number with one digit more is
computed before it is compared with that of the last group. The main statement is that a run of
digits is read to the end of its longest prefix that is the number of a group, and the rest is read
as if the text began there. No number that is computed on the way has more than one digit more than
that of the last group, so 64 bits hold them all where they hold that bound. -/

namespace QueryFunctions.Pattern

namespace Template

/-- What reading a number comes to: the numbers that are computed on the way, in order, the number
that is read, and the text that is left. -/
structure NumberRead (α : Type) where
  computed : List α
  number : α
  rest : List Char

/-- What reading a number comes to if the numbers are taken for others. -/
def NumberRead.map {α β : Type} (f : α → β) (read : NumberRead α) : NumberRead β :=
  ⟨read.computed.map f, f read.number, read.rest⟩

/-- Reads on in a number: digits go to it one after another, as long as what comes of it may be
kept. -/
def readDigits {α : Type} (next : α → Nat → α) (keep : α → Bool) :
    α → List Char → NumberRead α
  | number, [] => ⟨[], number, []⟩
  | number, c :: cs =>
    match digit? c with
    | none => ⟨[], number, c :: cs⟩
    | some digit =>
      if keep (next number digit) then
        let read := readDigits next keep (next number digit) cs
        ⟨next number digit :: read.computed, read.number, read.rest⟩
      else ⟨[next number digit], number, c :: cs⟩

/-- Reads on in a number up to `last`. -/
abbrev readNumber (last : Nat) : Nat → List Char → NumberRead Nat :=
  readDigits (fun number digit => number * 10 + digit) (· ≤ last)

/-- Reads on in a number up to `last` in 64 bits, where sums and products may wrap around. -/
abbrev readWord (last : UInt64) : UInt64 → List Char → NumberRead UInt64 :=
  readDigits (fun number digit => number * 10 + .ofNat digit) (· ≤ last)

section

variable {α : Type} {next : α → Nat → α} {keep : α → Bool} {number : α} {digit : Nat} {c : Char}
  {cs : List Char}

theorem readDigits_of_none (h : digit? c = none) :
    readDigits next keep number (c :: cs) = ⟨[], number, c :: cs⟩ := by
  rw [readDigits, h]

theorem readDigits_of_keep (h : digit? c = some digit) (hkeep : keep (next number digit) = true) :
    readDigits next keep number (c :: cs) =
      ⟨next number digit :: (readDigits next keep (next number digit) cs).computed,
        (readDigits next keep (next number digit) cs).number,
        (readDigits next keep (next number digit) cs).rest⟩ := by
  rw [readDigits, h]
  exact if_pos hkeep

theorem readDigits_of_not_keep (h : digit? c = some digit)
    (hkeep : keep (next number digit) = false) :
    readDigits next keep number (c :: cs) = ⟨[next number digit], number, c :: cs⟩ := by
  rw [readDigits, h]
  exact if_neg (Bool.not_eq_true _ ▸ hkeep)

end

variable {names : List (Option String)} {last number digit : Nat} {c : Char}
  {cs digits more rest : List Char}

theorem readNumber_of_le (h : digit? c = some digit) (hle : number * 10 + digit ≤ last) :
    readNumber last number (c :: cs) =
      ⟨(number * 10 + digit) :: (readNumber last (number * 10 + digit) cs).computed,
        (readNumber last (number * 10 + digit) cs).number,
        (readNumber last (number * 10 + digit) cs).rest⟩ :=
  readDigits_of_keep h (decide_eq_true hle)

theorem readNumber_of_lt (h : digit? c = some digit) (hlt : last < number * 10 + digit) :
    readNumber last number (c :: cs) = ⟨[number * 10 + digit], number, c :: cs⟩ :=
  readDigits_of_not_keep h (decide_eq_false (Nat.not_le.mpr hlt))

theorem digit?_le (h : digit? c = some digit) : digit ≤ 9 := by
  unfold digit? at h
  split at h
  next hdigit =>
    obtain rfl := Option.some.inj h
    exact Nat.sub_le_sub_right (Char.isDigit_iff_toNat.mp hdigit).2 _
  next => cases h

theorem digit?_of_not_isDigit (h : ¬ c.isDigit = true) : digit? c = none := by
  rw [digit?, if_neg h]

/-! ### The numbers on the way -/

/-- A digit more makes a number up to `last` at most ten times `last` and nine. -/
theorem computed_le (h : number ≤ last) (cs : List Char) :
    ∀ n ∈ (readNumber last number cs).computed, n ≤ 10 * last + 9 := by
  induction cs generalizing number with
  | nil => exact List.forall_mem_nil _
  | cons c cs ih =>
    cases hdigit : digit? c with
    | none =>
      rw [readNumber, readDigits_of_none hdigit]
      exact List.forall_mem_nil _
    | some digit =>
      have hnext : number * 10 + digit ≤ 10 * last + 9 := by
        have := digit?_le hdigit
        omega
      by_cases hle : number * 10 + digit ≤ last
      · rw [readNumber_of_le hdigit hle]
        exact List.forall_mem_cons.mpr ⟨hnext, ih hle⟩
      · rw [readNumber_of_lt hdigit (Nat.not_le.mp hle)]
        exact List.forall_mem_singleton.mpr hnext

/-- One digit more is computed in 64 bits as it should be, if the greatest number allows for it. -/
theorem toNat_nextWord {word : UInt64} (h : word.toNat ≤ last)
    (hlast : last ≤ (2 ^ 64 - 10) / 10) (hdigit : digit ≤ 9) :
    (word * 10 + .ofNat digit).toNat = word.toNat * 10 + digit := by
  have hten : (10 : UInt64).toNat = 10 := rfl
  have hword : (UInt64.ofNat digit).toNat = digit :=
    UInt64.toNat_ofNat_of_lt' (Nat.lt_of_le_of_lt hdigit (by decide))
  rw [UInt64.toNat_add, UInt64.toNat_mul, hten, hword]
  omega

/-- Reading a number in 64 bits is reading it as it is, whatever its length, if 64 bits hold one
digit more than the greatest number has. -/
theorem map_readWord {limit word : UInt64} (hlimit : limit.toNat ≤ (2 ^ 64 - 10) / 10)
    (h : word.toNat ≤ limit.toNat) (cs : List Char) :
    (readWord limit word cs).map UInt64.toNat = readNumber limit.toNat word.toNat cs := by
  induction cs generalizing word with
  | nil => rfl
  | cons c cs ih =>
    cases hdigit : digit? c with
    | none =>
      rw [readWord, readNumber, readDigits_of_none hdigit, readDigits_of_none hdigit]
      rfl
    | some digit =>
      have hnext := toNat_nextWord h hlimit (digit?_le hdigit)
      by_cases hle : word * 10 + .ofNat digit ≤ limit
      · have hle' := UInt64.le_iff_toNat_le.mp hle
        have hread : readWord limit word (c :: cs) = _ :=
          readDigits_of_keep hdigit (decide_eq_true hle)
        rw [hread, readNumber_of_le hdigit (hnext ▸ hle'), ← hnext, ← ih hle']
        rfl
      · have hlt : limit.toNat < word.toNat * 10 + digit := by
          rwa [UInt64.le_iff_toNat_le, hnext, Nat.not_le] at hle
        have hread : readWord limit word (c :: cs) = _ :=
          readDigits_of_not_keep hdigit (decide_eq_false hle)
        rw [hread, readNumber_of_lt hdigit hlt, ← hnext]
        rfl

/-! ### The number that is read -/

/-- The reader of templates reads a number so, and reads on after it as if the text began there. -/
theorem readParts_number (number : Nat) (cs : List Char) :
    readParts names (.number number) cs =
      (readParts names .plain (readNumber (names.length - 1) number cs).rest).map
        (.group (readNumber (names.length - 1) number cs).number :: ·) := by
  induction cs generalizing number with
  | nil => rfl
  | cons c cs ih =>
    conv_lhs => rw [readParts]
    cases hdigit : digit? c with
    | none =>
      rw [readNumber, readDigits_of_none hdigit]
      rfl
    | some digit =>
      dsimp only
      by_cases hle : number * 10 + digit ≤ names.length - 1
      · rw [if_pos hle, ih, readNumber_of_le hdigit hle]
      · rw [if_neg hle, readNumber_of_lt hdigit (Nat.not_le.mp hle)]
        rfl

theorem LongestNumber.exists_readNumber (h : LongestNumber last (digits ++ more) rest) :
    ∃ computed, readNumber last (decimal digits) (more ++ rest) =
      ⟨computed, decimal (digits ++ more), rest⟩ := by
  induction more generalizing digits with
  | nil =>
    rw [List.append_nil] at h ⊢
    rw [List.nil_append]
    cases rest with
    | nil => exact ⟨_, rfl⟩
    | cons c cs =>
      by_cases hc : c.isDigit = true
      · have hlt : last < decimal digits * 10 + (c.toNat - '0'.toNat) := by
          rw [← decimal_concat, ← Nat.not_le]
          intro hle
          cases h.longest [c] (List.prefix_append [c] cs) (by simpa using hc) hle
        exact ⟨_, readNumber_of_lt (digit?_of_isDigit hc) hlt⟩
      · exact ⟨_, readDigits_of_none (digit?_of_not_isDigit hc)⟩
  | cons c cs ih =>
    have hsplit : digits ++ c :: cs = digits ++ [c] ++ cs := by simp
    rw [hsplit] at h ⊢
    have hle : decimal digits * 10 + (c.toNat - '0'.toNat) ≤ last := by
      rw [← decimal_concat]
      exact (decimal_le_append _ cs).trans h.le
    have hc : c.isDigit = true := h.isDigit c (by simp)
    obtain ⟨computed, hread⟩ := ih h
    rw [List.cons_append, readNumber_of_le (digit?_of_isDigit hc) hle, ← decimal_concat, hread]
    exact ⟨_, rfl⟩

/-- In a run of digits, the prefixes that are a number up to `last` are those of the longest such
number. -/
theorem LongestNumber.le_iff_prefix {read left after start : List Char}
    (h : LongestNumber last read (left ++ after))
    (hleft : ∀ c ∈ left, c.isDigit = true) (hstart : start <+: read ++ left) :
    decimal start ≤ last ↔ start <+: read := by
  constructor
  · intro hle
    rcases List.prefix_or_prefix_of_prefix hstart (List.prefix_append read left) with hin | hover
    · exact hin
    · obtain ⟨more, rfl⟩ := hover
      have hmore : more <+: left := (List.prefix_append_right_inj read).mp hstart
      have hnil := h.longest more (hmore.trans (List.prefix_append left after))
        (fun c hc => hleft c (hmore.subset hc)) hle
      rw [hnil, List.append_nil]
  · rintro ⟨more, rfl⟩
    exact (decimal_le_append start more).trans h.le

/-- What comes after a run of digits and is none does not make a number longer. -/
theorem LongestNumber.append {read left after : List Char} (h : LongestNumber last read left)
    (hafter : ∀ c, after.head? = some c → c.isDigit = false) :
    LongestNumber last read (left ++ after) := by
  refine ⟨h.ne_nil, h.isDigit, h.le, fun more hmore hdigits hle => ?_⟩
  rcases List.prefix_or_prefix_of_prefix hmore (List.prefix_append left after) with hin | hover
  · exact h.longest more hin hdigits hle
  · obtain ⟨beyond, rfl⟩ := hover
    cases beyond with
    | nil =>
      rw [List.append_nil] at hle ⊢
      exact h.longest left (List.prefix_refl left) (fun c hc => hdigits c (by simp [hc])) hle
    | cons c cs =>
      obtain ⟨rest, rfl⟩ := (List.prefix_append_right_inj left).mp hmore
      have hnot := hafter c rfl
      rw [hdigits c (by simp)] at hnot
      cases hnot

/-! ### Templates with numbers -/

/-- A template whose reading goes on as that of another text has the parts of the other one. -/
theorem template_eq_map {compiled : Compiled} {text other : String}
    (f : List TemplatePart → List TemplatePart)
    (h : readParts compiled.groupNames .plain text.toList =
      (readParts compiled.groupNames .plain other.toList).map f) :
    compiled.template text = (compiled.template other).map fun template => ⟨f template.parts⟩ := by
  rw [Compiled.template, Compiled.template, parse, parse, h]
  cases readParts compiled.groupNames .plain other.toList <;> rfl

/-- After a dollar sign that is read as one, a run of digits whose first one is the number of a
group is read to the end of its longest prefix that is the number of a group. What comes after this
prefix is read as if the text began there. Every number that is computed on the way is at most ten
times the number of the last group and nine. Where 64 bits hold that bound, reading the number in
64 bits computes the same numbers, however long the run is. -/
theorem number_read_to_longest (compiled : Compiled) :
    (∀ number cs, readParts compiled.groupNames (.number number) cs =
      (readParts compiled.groupNames .plain (readNumber compiled.groupCount number cs).rest).map
        (.group (readNumber compiled.groupCount number cs).number :: ·)) ∧
    ∀ (text : String) (es : List Element) (d : Char) (ds after : List Char),
      Reads compiled.groupNames text.toList es ('$' :: d :: (ds ++ after)) →
      (∀ c ∈ d :: ds, c.isDigit = true) →
      (∀ c, after.head? = some c → c.isDigit = false) →
      decimal [d] ≤ compiled.groupCount →
      ∃ read left computed, d :: ds = read ++ left ∧
        (∀ start, start <+: d :: ds → (decimal start ≤ compiled.groupCount ↔ start <+: read)) ∧
        compiled.template text = (compiled.template (.ofList (left ++ after))).map (fun template =>
          ⟨es.foldr cons (.group (decimal read) :: template.parts)⟩) ∧
        readNumber compiled.groupCount (decimal [d]) (ds ++ after) =
          ⟨computed, decimal read, left ++ after⟩ ∧
        (∀ n ∈ computed, n ≤ 10 * compiled.groupCount + 9) ∧
        (compiled.groupCount ≤ (2 ^ 64 - 10) / 10 →
          (readWord (.ofNat compiled.groupCount) (.ofNat (decimal [d])) (ds ++ after)).map
            UInt64.toNat = ⟨computed, decimal read, left ++ after⟩) := by
  refine ⟨readParts_number, fun text es d ds after hreads hrun hafter hfirst => ?_⟩
  obtain ⟨more, left, rfl, hshort⟩ := exists_longestNumber ds [d] (by simp)
    (by simpa using hrun d List.mem_cons_self) hfirst
  have hleft : ∀ c ∈ left, c.isDigit = true := fun c hc => hrun c (by simp [hc])
  have hlongest := hshort.append hafter
  rw [List.append_assoc] at hreads ⊢
  obtain ⟨computed, hread⟩ := hlongest.exists_readNumber
  refine ⟨d :: more, left, computed, rfl, fun start hstart =>
    hlongest.le_iff_prefix hleft hstart, ?_, hread, ?_, fun hbound => ?_⟩
  case refine_1 =>
    have hstarts : Starts compiled.groupNames ('$' :: d :: (more ++ (left ++ after)))
        (.group (decimal (d :: more))) (left ++ after) := .numbered hlongest
    refine template_eq_map (fun parts => es.foldr cons (.group (decimal (d :: more)) :: parts)) ?_
    rw [readParts_reads hreads, readParts_starts hstarts, String.toList_ofList]
    cases readParts compiled.groupNames .plain (left ++ after) <;> rfl
  case refine_2 =>
    have hcomputed := computed_le hfirst (more ++ (left ++ after))
    rwa [hread] at hcomputed
  case refine_3 =>
    have hlast : (UInt64.ofNat compiled.groupCount).toNat = compiled.groupCount :=
      UInt64.toNat_ofNat_of_lt' (Nat.lt_of_le_of_lt hbound (by decide))
    have hstart : (UInt64.ofNat (decimal [d])).toNat = decimal [d] :=
      UInt64.toNat_ofNat_of_lt' (Nat.lt_of_le_of_lt (hfirst.trans hbound) (by decide))
    rw [map_readWord (by rwa [hlast]) (by rwa [hlast, hstart]), hlast, hstart, hread]
    rfl

/-- With twelve groups, the number after an escaped sign is that of the last group, in spite of the
zero in front of it, and its last digit is text. -/
theorem number_read_to_longest_zero :
    ∃ read left computed, "0129".toList = read ++ left ∧
      (∀ start, start <+: "0129".toList → (decimal start ≤ 12 ↔ start <+: read)) ∧
      Compiled.template ⟨[], .empty, List.replicate 13 none⟩ "\\$$0129b" =
        (Compiled.template ⟨[], .empty, List.replicate 13 none⟩ (.ofList (left ++ ['b']))).map
          (fun template => ⟨cons (.char '$') (.group (decimal read) :: template.parts)⟩) ∧
      readNumber 12 0 "129b".toList = ⟨computed, decimal read, left ++ ['b']⟩ ∧
      (∀ n ∈ computed, n ≤ 129) ∧
      (readWord 12 0 "129b".toList).map UInt64.toNat = ⟨computed, decimal read, left ++ ['b']⟩ := by
  have hdigits : ∀ c ∈ ['0', '1', '2', '9'], c.isDigit = true := by simp
  have hend (c : Char) (hc : ['b'].head? = some c) : c.isDigit = false := by
    obtain rfl := Option.some.inj hc
    rfl
  have hreads : Reads (List.replicate 13 none) "\\$$0129b".toList [.char '$']
      ('$' :: '0' :: (['1', '2', '9'] ++ ['b'])) := .next .escaped .done
  obtain ⟨read, left, computed, hsplit, hlongest, htemplate, hread, hcomputed, hword⟩ :=
    (number_read_to_longest ⟨[], .empty, List.replicate 13 none⟩).2 "\\$$0129b" _ '0'
      ['1', '2', '9'] ['b'] hreads hdigits hend (by decide)
  exact ⟨read, left, computed, hsplit, hlongest, htemplate, hread, hcomputed, hword (by decide)⟩

end Template

end QueryFunctions.Pattern
