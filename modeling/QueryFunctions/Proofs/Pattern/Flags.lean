import Mathlib.Data.List.Perm.Basic
import Mathlib.Tactic.SplitIfs
import QueryFunctions.Pattern.Compiled

/-! Sets of flags. A set that has been read holds exactly the flags whose letters stand in
the text, and it is all that compiling a pattern takes from the text. A text is read if its
characters are such letters, each once; otherwise the first character that offends is
named. -/

namespace QueryFunctions.Pattern

namespace FlagSet

/-- Whether a set has the flag of a letter. -/
def has (set : FlagSet) (c : Char) : Bool := (set.flag? c).any (·.1)

variable {set more : FlagSet} {c : Char} {cs : List Char} {refusal : Refusal}

theorem has_eq (set : FlagSet) (c : Char) : set.has c =
    (c == 'i' && set.ignoreCase || c == 'm' && set.multiLine || c == 's' && set.dotAll ||
      c == 'q' && set.literal) := by
  unfold has flag?
  split <;> simp_all

theorem has_add {flag : Char} (h : set.add flag = .ok more) (c : Char) :
    more.has c = (set.has c || c == flag) := by
  unfold add flag? at h
  split at h
  case h_1 => simp at h
  case h_2 => simp at h
  case h_3 later hlater =>
    obtain rfl : later = more := by simpa using h
    rw [has_eq, has_eq]
    split at hlater
    case h_5 => simp at hlater
    all_goals
      obtain ⟨hoff, rfl⟩ := Prod.mk.inj (Option.some.inj hlater)
      simp only [hoff, Bool.and_true, Bool.and_false]
      grind

theorem has_addAll {flags : List Char} (h : set.addAll flags = .ok more) (c : Char) :
    more.has c = (set.has c || flags.contains c) := by
  induction flags generalizing set with
  | nil =>
    obtain rfl : set = more := by simpa [addAll] using h
    simp
  | cons flag flags ih =>
    unfold addAll at h
    cases hadd : set.add flag with
    | error refusal => simp [hadd, bind, Except.bind] at h
    | ok next =>
      have hnext : next.addAll flags = .ok more := by simpa [hadd, bind, Except.bind] using h
      rw [ih hnext, has_add hadd c, List.contains_cons, Bool.or_assoc]

/-- A text of flags names exactly the flags whose letters it holds. -/
theorem has_parse {flags : String} (h : parse flags = .ok set) (c : Char) :
    set.has c = flags.toList.contains c := by
  have hnone : ({} : FlagSet).has c = false := by
    unfold has flag?
    split <;> rfl
  rw [has_addAll h, hnone, Bool.false_or]

theorem literal_of_mem {flags : String} (h : parse flags = .ok set) (hq : 'q' ∈ flags.toList) :
    set.literal = true := by
  have hhas : set.literal = flags.toList.contains 'q' := has_parse h 'q'
  simpa [hhas] using hq

theorem ignoreCase_of_not_mem {flags : String} (h : parse flags = .ok set)
    (hi : 'i' ∉ flags.toList) : set.ignoreCase = false := by
  have hhas : set.ignoreCase = flags.toList.contains 'i' := has_parse h 'i'
  simpa [hhas] using hi

/-! ### Which texts are read -/

def letters : List Char := ['i', 'm', 's', 'q']

/-- Letters of flags, none of them twice. -/
def Proper (cs : List Char) : Prop := cs.Nodup ∧ ∀ c ∈ cs, c ∈ letters

/-- The set of the flags whose letters are given. -/
def ofLetters (cs : List Char) : FlagSet where
  ignoreCase := cs.contains 'i'
  multiLine := cs.contains 'm'
  dotAll := cs.contains 's'
  literal := cs.contains 'q'

/-- What refuses a character after others, and in which words: it is no flag's letter, or one
that was there before. -/
inductive Offends (seen : List Char) (c : Char) : Refusal → String → Prop
  | unknown (outside : c ∉ letters) :
    Offends seen c (.flagUnknown c) ("invalid flag '" ++ c.toString ++ "'")
  | repeated (again : c ∈ seen) :
    Offends seen c (.flagRepeated c) ("duplicate flag '" ++ c.toString ++ "'")

theorem eq_ofLetters (h : ∀ c, set.has c = cs.contains c) : set = ofLetters cs := by
  obtain ⟨ignoreCase, multiLine, dotAll, literal⟩ := set
  exact (FlagSet.mk.injEq ..).mpr ⟨h 'i', h 'm', h 's', h 'q'⟩

theorem flag?_eq_none_iff : set.flag? c = none ↔ c ∉ letters := by
  unfold flag?
  split <;> simp_all [letters]

/-- A character is no flag's letter, or the set has it, or it is added. -/
theorem add_cases (set : FlagSet) (c : Char) :
    (c ∉ letters ∧ set.add c = .error (.flagUnknown c)) ∨
      (set.has c = true ∧ set.add c = .error (.flagRepeated c)) ∨
        c ∈ letters ∧ set.has c = false ∧ ∃ more, set.add c = .ok more := by
  unfold add has
  cases hflag : set.flag? c with
  | none => exact .inl ⟨flag?_eq_none_iff.mp hflag, rfl⟩
  | some found =>
    have hin : c ∈ letters := by
      by_contra hout
      rw [flag?_eq_none_iff.mpr hout] at hflag
      cases hflag
    obtain ⟨b, more⟩ := found
    cases b with
    | true => exact .inr (.inl ⟨rfl, rfl⟩)
    | false => exact .inr (.inr ⟨hin, rfl, more, rfl⟩)

theorem addAll_cons_of_ok {cs : List Char} (h : set.add c = .ok more) :
    set.addAll (c :: cs) = more.addAll cs := by
  rw [addAll, h]
  rfl

theorem addAll_cons_of_error {cs : List Char} (h : set.add c = .error refusal) :
    set.addAll (c :: cs) = .error refusal := by
  rw [addAll, h]
  rfl

/-- Letters that are neither in the set nor twice among themselves can be added, and only
they. -/
theorem exists_addAll_iff : (∃ more, set.addAll cs = .ok more) ↔
    cs.Nodup ∧ ∀ c ∈ cs, c ∈ letters ∧ set.has c = false := by
  induction cs generalizing set with
  | nil => simp [addAll]
  | cons c cs ih =>
    rw [List.nodup_cons, List.forall_mem_cons]
    rcases set.add_cases c with ⟨hout, hadd⟩ | ⟨hhas, hadd⟩ | ⟨hin, hhas, more, hadd⟩
    · simp [addAll_cons_of_error hadd, hout]
    · simp [addAll_cons_of_error hadd, hhas]
    · rw [addAll_cons_of_ok hadd, ih]
      have hmore (d : Char) : more.has d = false ↔ set.has d = false ∧ d ≠ c := by
        rw [has_add hadd, Bool.or_eq_false_iff, beq_eq_false_iff_ne]
      simp only [hmore, hin, hhas]
      grind

/-- Where letters cannot be added there is a first one that is refused. -/
theorem addAll_error (h : set.addAll cs = .error refusal) : ∃ seen c rest next,
    cs = seen ++ c :: rest ∧ set.addAll seen = .ok next ∧ next.add c = .error refusal := by
  induction cs generalizing set with
  | nil => simp [addAll] at h
  | cons c cs ih =>
    cases hadd : set.add c with
    | error refusal' =>
      rw [addAll_cons_of_error hadd] at h
      exact ⟨[], c, cs, set, rfl, rfl, hadd.trans h⟩
    | ok more =>
      rw [addAll_cons_of_ok hadd] at h
      obtain ⟨seen, d, rest, next, hcs, hseen, hd⟩ := ih h
      exact ⟨c :: seen, d, rest, next, congrArg _ hcs, (addAll_cons_of_ok hadd).trans hseen, hd⟩

/-- What comes after the first character that is refused is not looked at. -/
theorem addAll_append_of_error {next : FlagSet} (h : set.addAll cs = .ok next)
    (hc : next.add c = .error refusal) (later : List Char) :
    set.addAll (cs ++ c :: later) = .error refusal := by
  induction cs generalizing set with
  | nil =>
    obtain rfl : set = next := by simpa [addAll] using h
    exact addAll_cons_of_error hc
  | cons d cs ih =>
    cases hadd : set.add d with
    | error refusal' => simp [addAll_cons_of_error hadd] at h
    | ok more =>
      rw [addAll_cons_of_ok hadd] at h
      rw [List.cons_append, addAll_cons_of_ok hadd, ih h]

/-- A text is read if its characters are letters of flags, each once, and as the set of
them. -/
theorem parse_eq_ok_iff {flags : String} :
    parse flags = .ok set ↔ Proper flags.toList ∧ set = ofLetters flags.toList := by
  have hproper : (∃ more, parse flags = .ok more) ↔ Proper flags.toList := by
    have hempty (c : Char) : ({} : FlagSet).has c = false := by simp [has_eq]
    simp only [parse, exists_addAll_iff, hempty, and_true]
    rfl
  constructor
  · intro h
    exact ⟨hproper.mp ⟨set, h⟩, eq_ofLetters (has_parse h)⟩
  · rintro ⟨h, rfl⟩
    obtain ⟨more, hmore⟩ := hproper.mpr h
    rwa [← eq_ofLetters (has_parse hmore)]

theorem parse_of_not_proper {flags : String} (h : ¬ Proper flags.toList) :
    ∃ seen c rest refusal, flags.toList = seen ++ c :: rest ∧ Proper seen ∧
      Offends seen c refusal refusal.message ∧
      ∀ later, parse (.ofList (seen ++ c :: later)) = .error refusal := by
  cases hparse : parse flags with
  | ok set => exact absurd (parse_eq_ok_iff.mp hparse).1 h
  | error refusal =>
    obtain ⟨seen, c, rest, next, hflags, hseen, hc⟩ := addAll_error hparse
    have hread : parse (.ofList seen) = .ok next := by rwa [parse, String.toList_ofList]
    have hproper : Proper seen := by
      simpa using (parse_eq_ok_iff.mp hread).1
    refine ⟨seen, c, rest, refusal, hflags, hproper, ?_, fun later => ?_⟩
    · rcases next.add_cases c with ⟨hout, hadd⟩ | ⟨hhas, hadd⟩ | ⟨-, -, more, hadd⟩
      · obtain rfl := Except.error.inj (hadd.symm.trans hc)
        exact .unknown hout
      · obtain rfl := Except.error.inj (hadd.symm.trans hc)
        have hagain : c ∈ seen := by simpa [hhas] using has_parse hread c
        exact .repeated hagain
      · rw [hc] at hadd
        cases hadd
    · rw [parse, String.toList_ofList]
      exact addAll_append_of_error hseen hc later

theorem Proper.parse_perm {flags flags' : String} (h : Proper flags.toList)
    (hperm : flags'.toList.Perm flags.toList) : parse flags' = parse flags := by
  have hproper : Proper flags'.toList :=
    ⟨hperm.nodup_iff.mpr h.1, fun c hc => h.2 c (hperm.mem_iff.mp hc)⟩
  have hsame : ofLetters flags'.toList = ofLetters flags.toList := by
    simp only [ofLetters, List.contains_eq_mem, hperm.mem_iff]
  rw [parse_eq_ok_iff.mpr ⟨h, rfl⟩, parse_eq_ok_iff.mpr ⟨hproper, hsame.symm⟩]

end FlagSet

/-- A compiled pattern is what its source means in the modes of the flags. -/
theorem compile_ok {set : FlagSet} {limits : Limits} {pattern : String} {compiled : Compiled}
    (h : compile set limits pattern = .ok compiled) :
    exprOf set.modes (set.source pattern.toList) = .ok compiled.expr ∧
      compiled.groupNames = compiled.expr.groupNames := by
  unfold compile build at h
  cases hexpr : exprOf set.modes (set.source pattern.toList) with
  | error fault => simp [hexpr] at h
  | ok e =>
    simp only [hexpr] at h
    split_ifs at h
    obtain rfl := Except.ok.inj h
    exact ⟨rfl, rfl⟩

end QueryFunctions.Pattern
