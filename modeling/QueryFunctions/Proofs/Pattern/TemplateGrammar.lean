import Mathlib.Data.List.Basic
import Mathlib.Data.List.Infix
import QueryFunctions.Proofs.Pattern.Templates

/-! The grammar of templates. A text is read from the left, one element after another: a
character that stands for itself, a character after a backslash, a group by its name, a group
by its number. The main statement is that a text is a template exactly if it can be read so to
its end, that the template then consists of these elements, and that otherwise the fault is
that of the one place where nothing more can be read. -/

namespace QueryFunctions.Pattern

/-! ### Elements -/

/-- The least things that a template is made of: characters and groups. -/
inductive Element where
  | char (c : Char)
  | group (index : Nat)
  deriving DecidableEq

def TemplatePart.elements : TemplatePart → List Element
  | .text chars => chars.map .char
  | .group index => [.group index]

def Template.elements (template : Template) : List Element :=
  template.parts.flatMap TemplatePart.elements

namespace Template

/-- No text among the parts is empty, and no two texts are neighbours. -/
def Merged : List TemplatePart → Prop
  | [] => True
  | .text chars :: parts => chars ≠ [] ∧ (∀ more, parts.head? ≠ some (.text more)) ∧ Merged parts
  | .group _ :: parts => Merged parts

def cons : Element → List TemplatePart → List TemplatePart
  | .char c, parts => consChar c parts
  | .group index, parts => .group index :: parts

@[simp] theorem elements_cons (e : Element) (parts : List TemplatePart) :
    elements ⟨cons e parts⟩ = e :: elements ⟨parts⟩ := by
  cases e with
  | group index => rfl
  | char c =>
    change elements ⟨consChar c parts⟩ = _
    unfold consChar
    split <;> rfl

theorem Merged.onto {parts : List TemplatePart} (h : Merged parts) (e : Element) :
    Merged (cons e parts) := by
  cases e with
  | group index => exact h
  | char c =>
    cases parts with
    | nil => exact ⟨by simp, by simp, trivial⟩
    | cons part parts =>
      cases part with
      | text chars => exact ⟨by simp, h.2⟩
      | group index => exact ⟨by simp, by simp, h⟩

def ofElements (elements : List Element) : List TemplatePart := elements.foldr cons []

@[simp] theorem ofElements_cons (e : Element) (es : List Element) :
    ofElements (e :: es) = cons e (ofElements es) := rfl

@[simp] theorem elements_ofElements (es : List Element) : elements ⟨ofElements es⟩ = es := by
  induction es with
  | nil => rfl
  | cons e es ih => rw [ofElements_cons, elements_cons, ih]

theorem merged_ofElements (es : List Element) : Merged (ofElements es) := by
  induction es with
  | nil => trivial
  | cons e es ih => exact ih.onto e

/-- Characters in front of parts that do not start with a text are a text of their own. -/
theorem foldr_cons_chars {chars : List Char} {parts : List TemplatePart} (hne : chars ≠ [])
    (hhead : ∀ more, parts.head? ≠ some (.text more)) :
    (chars.map Element.char).foldr cons parts = .text chars :: parts := by
  induction chars with
  | nil => exact absurd rfl hne
  | cons c cs ih =>
    rw [List.map_cons, List.foldr_cons]
    by_cases hcs : cs = []
    · subst hcs
      change consChar c parts = _
      unfold consChar
      split
      · exact absurd rfl (hhead _)
      · rfl
    · rw [ih hcs]
      rfl

/-- Merged parts are those that their elements make. -/
theorem Merged.ofElements_elements {parts : List TemplatePart} (h : Merged parts) :
    ofElements (elements ⟨parts⟩) = parts := by
  induction parts with
  | nil => rfl
  | cons part parts ih =>
    cases part with
    | group index =>
      change .group index :: ofElements (elements ⟨parts⟩) = _
      rw [ih h]
    | text chars =>
      obtain ⟨hne, hhead, hparts⟩ := h
      have hsplit : ofElements (elements ⟨.text chars :: parts⟩) =
          (chars.map Element.char).foldr Template.cons (ofElements (elements ⟨parts⟩)) :=
        List.foldr_append
      rw [hsplit, ih hparts, foldr_cons_chars hne hhead]

/-! ### Numbers and names -/

/-- The number that decimal digits are. -/
abbrev decimal (digits : List Char) : Nat := Nat.ofDigitChars 10 digits 0

theorem decimal_concat (digits : List Char) (c : Char) :
    decimal (digits ++ [c]) = decimal digits * 10 + (c.toNat - '0'.toNat) := by
  simp [decimal, Nat.ofDigitChars_append, Nat.ofDigitChars_cons, Nat.mul_comm]

theorem decimal_le_append (digits more : List Char) :
    decimal digits ≤ decimal (digits ++ more) := by
  induction more using List.reverseRecOn with
  | nil => simp
  | append_singleton more c ih =>
    rw [← List.append_assoc, decimal_concat]
    omega

/-- Digits at the start of a text, of which `rest` is left, that are a number up to `last`;
one digit more, and they are not. -/
structure LongestNumber (last : Nat) (digits rest : List Char) : Prop where
  ne_nil : digits ≠ []
  isDigit : ∀ c ∈ digits, c.isDigit = true
  le : decimal digits ≤ last
  longest : ∀ more, more <+: rest → (∀ c ∈ more, c.isDigit = true) →
    decimal (digits ++ more) ≤ last → more = []

/-- The number of the group with a name: the first one, if there are several. -/
structure IsNamed (names : List (Option String)) (name : String) (index : Nat) : Prop where
  here : names[index]? = some (some name)
  first : ∀ i, i < index → names[i]? ≠ some (some name)

/-! ### Reading -/

/-- The element that a text starts with, and the rest of the text after it. -/
inductive Starts (names : List (Option String)) : List Char → Element → List Char → Prop where
  | plain {c rest} : c ≠ '\\' → c ≠ '$' → Starts names (c :: rest) (.char c) rest
  | escaped {c rest} : Starts names ('\\' :: c :: rest) (.char c) rest
  | named {name rest index} : '}' ∉ name → IsNamed names (String.ofList name) index →
      Starts names ('$' :: '{' :: (name ++ '}' :: rest)) (.group index) rest
  | numbered {digits rest} : LongestNumber (names.length - 1) digits rest →
      Starts names ('$' :: (digits ++ rest)) (.group (decimal digits)) rest

/-- The elements that a text starts with, and the rest of the text after them. -/
inductive Reads (names : List (Option String)) : List Char → List Element → List Char → Prop where
  | done {text} : Reads names text [] text
  | next {text e middle es rest} : Starts names text e middle → Reads names middle es rest →
      Reads names text (e :: es) rest

/-- Texts that start with no element, and what is wrong with them. -/
inductive Breaks (names : List (Option String)) : List Char → TemplateFault → Prop where
  | escape : Breaks names ['\\'] .escapeUnfinished
  | unclosed {rest} : '}' ∉ rest → Breaks names ('$' :: '{' :: rest) .nameUnclosed
  | unknown {name rest} : '}' ∉ name → some (String.ofList name) ∉ names →
      Breaks names ('$' :: '{' :: (name ++ '}' :: rest)) (.nameUnknown (String.ofList name))
  | beyond {d rest} : d.isDigit = true → names.length - 1 < decimal [d] →
      Breaks names ('$' :: d :: rest) (.groupUnknown (decimal [d]))
  | illegal {rest} : (∀ c, rest.head? = some c → c ≠ '{' ∧ c.isDigit = false) →
      Breaks names ('$' :: rest) .referenceIllegal

variable {names : List (Option String)} {text middle rest rest' : List Char}
  {es es' : List Element} {fault : TemplateFault}

/-! ### What the reader does at an element -/

theorem groupNamed?_eq_some {name : String} {index : Nat} (h : IsNamed names name index) :
    groupNamed? names name = some index := by
  obtain ⟨hlt, hindex⟩ := List.getElem?_eq_some_iff.mp h.here
  refine List.findIdx?_eq_some_iff_getElem.mpr ⟨hlt, by simp [hindex], fun i hi => ?_⟩
  have hother := h.first i hi
  rw [List.getElem?_eq_getElem (hi.trans hlt)] at hother
  simpa using hother

theorem groupNamed?_eq_none {name : String} (h : some name ∉ names) :
    groupNamed? names name = none := by
  refine List.findIdx?_eq_none_iff.mpr fun other hother => ?_
  simp only [decide_eq_false_iff_not]
  rintro rfl
  exact h hother

theorem exists_isNamed {name : String} (h : some name ∈ names) :
    ∃ index, IsNamed names name index := by
  cases hfind : groupNamed? names name with
  | none =>
    have := List.findIdx?_eq_none_iff.mp hfind _ h
    simp at this
  | some index =>
    obtain ⟨hlt, hhere, hfirst⟩ := List.findIdx?_eq_some_iff_getElem.mp hfind
    refine ⟨index, by simpa [List.getElem?_eq_getElem hlt] using hhere, fun i hi => ?_⟩
    have hother := hfirst i hi
    rw [List.getElem?_eq_getElem (hi.trans hlt)]
    simpa using hother

theorem readParts_name (read name : List Char) (h : '}' ∉ name) :
    readParts names (.name read) (name ++ '}' :: rest) =
      match groupNamed? names (String.ofList (read.reverse ++ name)) with
      | some group => (readParts names .plain rest).map (.group group :: ·)
      | none => .error (.nameUnknown (String.ofList (read.reverse ++ name))) := by
  induction name generalizing read with
  | nil =>
    rw [List.nil_append, List.append_nil]
    exact if_pos rfl
  | cons c cs ih =>
    have hc : c ≠ '}' := fun heq => h (by simp [heq])
    rw [List.cons_append, readParts, if_neg hc, ih _ fun hcs => h (List.mem_cons_of_mem _ hcs)]
    simp

theorem readParts_name_unclosed (read : List Char) (h : '}' ∉ rest) :
    readParts names (.name read) rest = .error .nameUnclosed := by
  induction rest generalizing read with
  | nil => rfl
  | cons c cs ih =>
    have hc : c ≠ '}' := fun heq => h (by simp [heq])
    rw [readParts, if_neg hc]
    exact ih _ fun hcs => h (List.mem_cons_of_mem _ hcs)

theorem digit?_of_isDigit {c : Char} (h : c.isDigit = true) :
    digit? c = some (c.toNat - '0'.toNat) := by
  rw [digit?, if_pos h]

theorem ne_brace_of_isDigit {c : Char} (h : c.isDigit = true) : c ≠ '{' := by
  rintro rfl
  exact absurd h (by decide)

/-- A digit after a dollar sign starts a number, if it is the number of a group itself. -/
theorem readParts_dollar_digit {d : Char} (h : d.isDigit = true) (rest : List Char) :
    readParts names .dollar (d :: rest) =
      if decimal [d] ≤ names.length - 1 then readParts names (.number (decimal [d])) rest
      else .error (.groupUnknown (decimal [d])) := by
  have hvalue : decimal [d] = d.toNat - '0'.toNat := by
    simp [decimal, Nat.ofDigitChars_cons]
  rw [readParts, if_neg (ne_brace_of_isDigit h), digit?_of_isDigit h, hvalue]

/-- Digits are taken in as long as they make the number of a group. -/
theorem readParts_digits (digits more : List Char) (hmore : ∀ c ∈ more, c.isDigit = true)
    (hle : decimal (digits ++ more) ≤ names.length - 1) :
    readParts names (.number (decimal digits)) (more ++ rest) =
      readParts names (.number (decimal (digits ++ more))) rest := by
  induction more generalizing digits with
  | nil => simp
  | cons c cs ih =>
    have hsplit : digits ++ c :: cs = digits ++ [c] ++ cs := by simp
    have hnext : decimal digits * 10 + (c.toNat - '0'.toNat) ≤ names.length - 1 := by
      rw [← decimal_concat]
      exact (decimal_le_append _ cs).trans (hsplit ▸ hle)
    rw [List.cons_append, readParts, digit?_of_isDigit (hmore c (by simp))]
    dsimp only
    rw [if_pos hnext, ← decimal_concat,
      ih (digits ++ [c]) (fun d hd => hmore d (List.mem_cons_of_mem _ hd)) (hsplit ▸ hle), hsplit]

/-- What comes after the longest number is read as if the text began there. -/
theorem readParts_number_ended {digits : List Char}
    (h : LongestNumber (names.length - 1) digits rest) :
    readParts names (.number (decimal digits)) rest =
      (readParts names .plain rest).map (.group (decimal digits) :: ·) := by
  cases rest with
  | nil => rfl
  | cons c cs =>
    conv_lhs => rw [readParts]
    by_cases hc : c.isDigit = true
    · have hbeyond : ¬ decimal digits * 10 + (c.toNat - '0'.toNat) ≤ names.length - 1 := by
        intro hle
        rw [← decimal_concat] at hle
        have := h.longest [c] (by simp) (by simpa using hc) hle
        simp at this
      rw [digit?_of_isDigit hc]
      dsimp only
      rw [if_neg hbeyond]
      rfl
    · rw [digit?, if_neg hc]
      rfl

theorem readParts_starts {e : Element} (h : Starts names text e rest) :
    readParts names .plain text = (readParts names .plain rest).map (cons e) := by
  cases h with
  | plain hbackslash hdollar =>
    exact readPlain_of_ne (not_or.mpr ⟨hbackslash, hdollar⟩) _
  | escaped => rfl
  | @named name rest index hname hnamed =>
    change readParts names .dollar ('{' :: (name ++ '}' :: rest)) = _
    rw [readParts, if_pos rfl, readParts_name [] name hname, List.reverse_nil, List.nil_append,
      groupNamed?_eq_some hnamed]
    rfl
  | @numbered digits rest hnumber =>
    cases digits with
    | nil => exact absurd rfl hnumber.ne_nil
    | cons d ds =>
      have hd : d.isDigit = true := hnumber.isDigit d (by simp)
      have hfirst : decimal [d] ≤ names.length - 1 := (decimal_le_append [d] ds).trans hnumber.le
      change readParts names .dollar (d :: (ds ++ rest)) = _
      rw [readParts_dollar_digit hd, if_pos hfirst, readParts_digits [d] ds
        (fun c hc => hnumber.isDigit c (List.mem_cons_of_mem _ hc)) hnumber.le]
      exact readParts_number_ended hnumber

theorem readParts_breaks (h : Breaks names text fault) :
    readParts names .plain text = .error fault := by
  cases h with
  | escape => rfl
  | @unclosed rest hrest =>
    change readParts names .dollar ('{' :: rest) = _
    rw [readParts, if_pos rfl, readParts_name_unclosed [] hrest]
  | @unknown name rest hname hnone =>
    change readParts names .dollar ('{' :: (name ++ '}' :: rest)) = _
    rw [readParts, if_pos rfl, readParts_name [] name hname, List.reverse_nil, List.nil_append,
      groupNamed?_eq_none hnone]
  | @beyond d rest hd hbeyond =>
    change readParts names .dollar (d :: rest) = _
    rw [readParts_dollar_digit hd, if_neg (Nat.not_le.mpr hbeyond)]
  | @illegal rest hrest =>
    change readParts names .dollar rest = _
    cases rest with
    | nil => rfl
    | cons c cs =>
      obtain ⟨hbrace, hdigit⟩ := hrest c rfl
      rw [readParts, if_neg hbrace, digit?, if_neg (by simp [hdigit])]

/-! ### Every text can be read up to its end or to a fault -/

/-- Digits that are a number up to `last` can be made the longest such number. -/
theorem exists_longestNumber {last : Nat} (text digits : List Char) (hne : digits ≠ [])
    (hdigits : ∀ c ∈ digits, c.isDigit = true) (hle : decimal digits ≤ last) :
    ∃ more rest, text = more ++ rest ∧ LongestNumber last (digits ++ more) rest := by
  induction text generalizing digits with
  | nil =>
    refine ⟨[], [], rfl, ?_⟩
    rw [List.append_nil]
    exact ⟨hne, hdigits, hle, fun more hmore _ _ => List.prefix_nil.mp hmore⟩
  | cons c cs ih =>
    by_cases hnext : c.isDigit = true ∧ decimal (digits ++ [c]) ≤ last
    · obtain ⟨more, rest, rfl, hlongest⟩ := ih (digits ++ [c]) (by simp)
        (by simpa [or_imp, forall_and, hnext.1] using hdigits) hnext.2
      exact ⟨c :: more, rest, rfl, by simpa using hlongest⟩
    · refine ⟨[], c :: cs, rfl, ?_⟩
      rw [List.append_nil]
      refine ⟨hne, hdigits, hle, fun more hmore hmoreDigits hmoreLe => ?_⟩
      cases more with
      | nil => rfl
      | cons d ds =>
        obtain ⟨rfl, -⟩ := List.cons_prefix_cons.mp hmore
        have hsplit : digits ++ d :: ds = digits ++ [d] ++ ds := by simp
        rw [hsplit] at hmoreLe
        exact absurd ⟨hmoreDigits d (by simp), (decimal_le_append _ ds).trans hmoreLe⟩ hnext

theorem starts_or_breaks_dollar (rest : List Char) :
    (∃ e later, Starts names ('$' :: rest) e later) ∨
      ∃ fault, Breaks names ('$' :: rest) fault := by
  by_cases hbrace : rest.head? = some '{'
  case pos =>
    obtain ⟨rest, rfl⟩ := List.head?_eq_some_iff.mp hbrace
    by_cases hclosed : '}' ∈ rest
    · obtain ⟨name, later, rfl, hname⟩ := List.eq_append_cons_of_mem hclosed
      by_cases hnamed : some (String.ofList name) ∈ names
      · obtain ⟨index, hindex⟩ := exists_isNamed hnamed
        exact .inl ⟨_, _, .named hname hindex⟩
      · exact .inr ⟨_, .unknown hname hnamed⟩
    · exact .inr ⟨_, .unclosed hclosed⟩
  case neg =>
    by_cases hdigit : ∃ d, rest.head? = some d ∧ d.isDigit = true
    · obtain ⟨d, hhead, hd⟩ := hdigit
      obtain ⟨rest, rfl⟩ := List.head?_eq_some_iff.mp hhead
      by_cases hle : decimal [d] ≤ names.length - 1
      · obtain ⟨more, later, rfl, hlongest⟩ := exists_longestNumber rest [d] (by simp)
          (by simpa using hd) hle
        exact .inl ⟨_, _, .numbered hlongest⟩
      · exact .inr ⟨_, .beyond hd (Nat.not_le.mp hle)⟩
    · refine .inr ⟨_, .illegal fun c hc => ⟨?_, ?_⟩⟩
      · rintro rfl
        exact hbrace hc
      · simpa using fun hd => hdigit ⟨c, hc, hd⟩

theorem starts_or_breaks (names : List (Option String)) (hne : text ≠ []) :
    (∃ e rest, Starts names text e rest) ∨ ∃ fault, Breaks names text fault := by
  cases text with
  | nil => exact absurd rfl hne
  | cons c rest =>
    by_cases hdollar : c = '$'
    · subst hdollar
      exact starts_or_breaks_dollar rest
    · by_cases hbackslash : c = '\\'
      · subst hbackslash
        cases rest with
        | nil => exact .inr ⟨_, .escape⟩
        | cons d rest => exact .inl ⟨_, _, .escaped⟩
      · exact .inl ⟨_, _, .plain hbackslash hdollar⟩

theorem Starts.length_lt {e : Element} (h : Starts names text e rest) :
    rest.length < text.length := by
  cases h with
  | numbered hnumber =>
    have := List.length_pos_iff.mpr hnumber.ne_nil
    simp only [List.length_cons, List.length_append]
    omega
  | _ =>
    simp only [List.length_cons, List.length_append]
    omega

theorem exists_reads (names : List (Option String)) (text : List Char) :
    ∃ es rest, Reads names text es rest ∧ (rest = [] ∨ ∃ fault, Breaks names rest fault) := by
  induction hn : text.length using Nat.strong_induction_on generalizing text with
  | _ n ih =>
    by_cases hne : text = []
    · exact ⟨[], text, .done, .inl hne⟩
    · rcases starts_or_breaks names hne with ⟨e, middle, hstarts⟩ | hbreaks
      · obtain ⟨es, rest, hreads, hend⟩ := ih _ (hn ▸ hstarts.length_lt) middle rfl
        exact ⟨e :: es, rest, .next hstarts hreads, hend⟩
      · exact ⟨[], text, .done, .inr hbreaks⟩

theorem readParts_reads (h : Reads names text es rest) :
    readParts names .plain text =
      (readParts names .plain rest).map fun parts => es.foldr cons parts := by
  induction h with
  | done =>
    cases readParts names .plain _ <;> rfl
  | next hstarts _ ih =>
    rw [readParts_starts hstarts, ih]
    cases readParts names .plain _ <;> rfl

/-! ### A text is read in one way only -/

theorem LongestNumber.exists_cons {last : Nat} {digits : List Char}
    (h : LongestNumber last digits rest) : ∃ d ds, digits = d :: ds ∧ d.isDigit = true := by
  obtain ⟨d, ds, rfl⟩ := List.exists_cons_of_ne_nil h.ne_nil
  exact ⟨d, ds, rfl, h.isDigit d (by simp)⟩

theorem LongestNumber.unique {last : Nat} {digits digits' : List Char}
    (h : LongestNumber last digits rest) (h' : LongestNumber last digits' rest')
    (heq : digits ++ rest = digits' ++ rest') : digits = digits' ∧ rest = rest' := by
  rcases List.append_eq_append_iff.mp heq with ⟨more, rfl, rfl⟩ | ⟨more, rfl, rfl⟩
  · have hnil := h.longest more (List.prefix_append _ _)
      (fun c hc => h'.isDigit c (List.mem_append_right _ hc)) h'.le
    simp [hnil]
  · have hnil := h'.longest more (List.prefix_append _ _)
      (fun c hc => h.isDigit c (List.mem_append_right _ hc)) h.le
    simp [hnil]

theorem starts_plain {c : Char} {e : Element} (hbackslash : c ≠ '\\') (hdollar : c ≠ '$')
    (h : Starts names (c :: text) e rest) : e = .char c ∧ rest = text := by
  cases h with
  | plain => exact ⟨rfl, rfl⟩
  | escaped => exact absurd rfl hbackslash
  | named => exact absurd rfl hdollar
  | numbered => exact absurd rfl hdollar

theorem starts_backslash {e : Element} (h : Starts names ('\\' :: text) e rest) :
    ∃ c, text = c :: rest ∧ e = .char c := by
  cases h with
  | plain hbackslash => exact absurd rfl hbackslash
  | escaped => exact ⟨_, rfl, rfl⟩

/-- A dollar sign is followed by a name in braces or by a number. -/
theorem starts_dollar {e : Element} (h : Starts names ('$' :: text) e rest) :
    (∃ name index, '}' ∉ name ∧ IsNamed names (String.ofList name) index ∧
      text = '{' :: (name ++ '}' :: rest) ∧ e = .group index) ∨
    ∃ digits, LongestNumber (names.length - 1) digits rest ∧ text = digits ++ rest ∧
      e = .group (decimal digits) := by
  cases h with
  | plain _ hdollar => exact absurd rfl hdollar
  | named hname hnamed => exact .inl ⟨_, _, hname, hnamed, rfl, rfl⟩
  | numbered hnumber => exact .inr ⟨_, hnumber, rfl, rfl⟩

theorem IsNamed.unique {name : String} {index index' : Nat} (h : IsNamed names name index)
    (h' : IsNamed names name index') : index = index' := by
  rcases Nat.lt_trichotomy index index' with hlt | heq | hlt
  · exact absurd h.here (h'.first index hlt)
  · exact heq
  · exact absurd h'.here (h.first index' hlt)

theorem name_unique {name name' : List Char} (hname : '}' ∉ name) (hname' : '}' ∉ name')
    (heq : name ++ '}' :: rest = name' ++ '}' :: rest') : name = name' ∧ rest = rest' := by
  have htake (name rest : List Char) (h : '}' ∉ name) :
      (name ++ '}' :: rest).takeWhile (· != '}') = name := by
    rw [List.takeWhile_append_of_pos fun c hc => by simpa using ne_of_mem_of_not_mem hc h]
    simp
  have hnames : name = name' := by
    rw [← htake name rest hname, heq, htake name' rest' hname']
  subst hnames
  exact ⟨rfl, (List.cons.inj (List.append_cancel_left heq)).2⟩

theorem LongestNumber.ne_brace {last : Nat} {digits : List Char}
    (h : LongestNumber last digits rest) : digits ++ rest ≠ '{' :: text := by
  obtain ⟨d, ds, rfl, hd⟩ := h.exists_cons
  exact fun heq => ne_brace_of_isDigit hd (List.cons.inj heq).1

theorem Starts.unique {e e' : Element} (h : Starts names text e rest)
    (h' : Starts names text e' rest') : e = e' ∧ rest = rest' := by
  cases h with
  | plain hbackslash hdollar =>
    obtain ⟨rfl, rfl⟩ := starts_plain hbackslash hdollar h'
    exact ⟨rfl, rfl⟩
  | escaped =>
    obtain ⟨c, heq, rfl⟩ := starts_backslash h'
    obtain ⟨rfl, rfl⟩ := List.cons.inj heq
    exact ⟨rfl, rfl⟩
  | @named name rest index hname hnamed =>
    rcases starts_dollar h' with ⟨name', index', hname', hnamed', heq, rfl⟩ | ⟨_, hnumber, heq, -⟩
    · obtain ⟨rfl, rfl⟩ := name_unique hname hname' (List.cons.inj heq).2
      exact ⟨congrArg _ (hnamed.unique hnamed'), rfl⟩
    · exact absurd heq.symm hnumber.ne_brace
  | @numbered digits rest hnumber =>
    rcases starts_dollar h' with ⟨_, _, -, -, heq, -⟩ | ⟨digits', hnumber', heq, rfl⟩
    · exact absurd heq hnumber.ne_brace
    · obtain ⟨rfl, rfl⟩ := hnumber.unique hnumber' heq
      exact ⟨rfl, rfl⟩

theorem Breaks.not_starts {e : Element} (h : Breaks names text fault) :
    ¬ Starts names text e rest := by
  intro hstarts
  cases h with
  | escape =>
    obtain ⟨c, heq, -⟩ := starts_backslash hstarts
    simp at heq
  | unclosed hopen =>
    rcases starts_dollar hstarts with ⟨name, _, -, -, heq, -⟩ | ⟨_, hnumber, heq, -⟩
    · obtain rfl := (List.cons.inj heq).2
      exact hopen (by simp)
    · exact hnumber.ne_brace heq.symm
  | unknown hname hnone =>
    rcases starts_dollar hstarts with ⟨name', index, hname', hnamed, heq, -⟩ | ⟨_, hnumber, heq, -⟩
    · obtain ⟨rfl, rfl⟩ := name_unique hname hname' (List.cons.inj heq).2
      exact hnone (List.mem_of_getElem? hnamed.here)
    · exact hnumber.ne_brace heq.symm
  | @beyond d tail hd hbeyond =>
    rcases starts_dollar hstarts with ⟨_, _, -, -, heq, -⟩ | ⟨digits, hnumber, heq, -⟩
    · exact ne_brace_of_isDigit hd (List.cons.inj heq).1
    · obtain ⟨_, ds, rfl, -⟩ := hnumber.exists_cons
      obtain ⟨rfl, -⟩ := List.cons.inj heq
      have hle : decimal [d] ≤ names.length - 1 := (decimal_le_append [d] ds).trans hnumber.le
      omega
  | illegal hillegal =>
    rcases starts_dollar hstarts with ⟨_, _, -, -, rfl, -⟩ | ⟨digits, hnumber, rfl, -⟩
    · exact (hillegal _ rfl).1 rfl
    · obtain ⟨d, ds, rfl, hd⟩ := hnumber.exists_cons
      have hnot := (hillegal d rfl).2
      simp [hd] at hnot

/-- Where nothing more can be read, every other reading has stopped there or before. -/
theorem Reads.prefix_of_breaks (h : Reads names text es rest) (hbreaks : Breaks names rest fault)
    (h' : Reads names text es' rest') : es' <+: es := by
  induction h generalizing es' with
  | done =>
    cases h' with
    | done => exact List.nil_prefix
    | next hstarts _ => exact absurd hstarts hbreaks.not_starts
  | next hstarts _ ih =>
    cases h' with
    | done => exact List.nil_prefix
    | next hstarts' hreads' =>
      obtain ⟨rfl, rfl⟩ := hstarts.unique hstarts'
      exact List.cons_prefix_cons.mpr ⟨rfl, ih hbreaks hreads'⟩

/-! ### Templates are the texts that can be read -/

theorem readParts_of_reads (h : Reads names text es []) :
    readParts names .plain text = .ok (ofElements es) := by
  rw [readParts_reads h]
  rfl

theorem readParts_of_reads_breaks (h : Reads names text es rest)
    (hbreaks : Breaks names rest fault) : readParts names .plain text = .error fault := by
  rw [readParts_reads h, readParts_breaks hbreaks]
  rfl

/-- The parts that are read are merged, and their elements are a reading of the text. -/
theorem readParts_eq_ok_iff {parts : List TemplatePart} :
    readParts names .plain text = .ok parts ↔
      Reads names text (elements ⟨parts⟩) [] ∧ Merged parts := by
  constructor
  · intro h
    obtain ⟨es, rest, hreads, rfl | ⟨fault, hbreaks⟩⟩ := exists_reads names text
    · rw [readParts_of_reads hreads] at h
      obtain rfl := Except.ok.inj h
      rw [elements_ofElements]
      exact ⟨hreads, merged_ofElements es⟩
    · rw [readParts_of_reads_breaks hreads hbreaks] at h
      cases h
  · rintro ⟨hreads, hmerged⟩
    rw [readParts_of_reads hreads, hmerged.ofElements_elements]

theorem readParts_eq_error_iff :
    readParts names .plain text = .error fault ↔
      ∃ es rest, Reads names text es rest ∧ Breaks names rest fault := by
  constructor
  · intro h
    obtain ⟨es, rest, hreads, rfl | ⟨fault', hbreaks⟩⟩ := exists_reads names text
    · rw [readParts_of_reads hreads] at h
      cases h
    · rw [readParts_of_reads_breaks hreads hbreaks] at h
      obtain rfl := Except.error.inj h
      exact ⟨es, rest, hreads, hbreaks⟩
  · rintro ⟨es, rest, hreads, hbreaks⟩
    exact readParts_of_reads_breaks hreads hbreaks

theorem parse_eq_ok_iff {text : String} {template : Template} :
    parse names text = .ok template ↔
      readParts names .plain text.toList = .ok template.parts := by
  unfold parse
  cases hread : readParts names .plain text.toList with
  | error fault => simp [Except.map]
  | ok parts => cases template; simp [Except.map]

theorem parse_merged {text : String} {template : Template}
    (h : parse names text = .ok template) : Merged template.parts :=
  (readParts_eq_ok_iff.mp (parse_eq_ok_iff.mp h)).2

theorem parse_eq_error_iff {text : String} :
    parse names text = .error fault ↔
      readParts names .plain text.toList = .error fault := by
  unfold parse
  cases hread : readParts names .plain text.toList <;> simp [Except.map]

/-- A text is a template for a pattern exactly if it can be read to its end. The template then
consists of the elements that are read, with neighbouring characters put together. A text that
cannot be read to its end has the fault of the place where the reading breaks off, and every
other reading from the left stops at this place or before it. -/
theorem accepts_grammar (compiled : Compiled) (text : String) :
    (∀ template, compiled.template text = .ok template ↔
      Reads compiled.groupNames text.toList template.elements [] ∧ Merged template.parts) ∧
    ((∃ template, compiled.template text = .ok template) ↔
      ∃ es, Reads compiled.groupNames text.toList es []) ∧
    (∀ refusal, compiled.template text = .error refusal ↔
      ∃ fault es rest, refusal = .template fault ∧
        Reads compiled.groupNames text.toList es rest ∧ Breaks compiled.groupNames rest fault) ∧
    ∀ es rest fault, Reads compiled.groupNames text.toList es rest →
      Breaks compiled.groupNames rest fault →
      ∀ es' rest', Reads compiled.groupNames text.toList es' rest' → es' <+: es := by
  have hok (template : Template) : compiled.template text = .ok template ↔
      Reads compiled.groupNames text.toList template.elements [] ∧ Merged template.parts :=
    Compiled.template_eq_ok_iff.trans (parse_eq_ok_iff.trans readParts_eq_ok_iff)
  refine ⟨hok, ⟨?_, ?_⟩, fun refusal => ?_, fun es rest fault h hbreaks es' rest' h' => ?_⟩
  case refine_1 =>
    rintro ⟨template, htemplate⟩
    exact ⟨_, ((hok template).mp htemplate).1⟩
  case refine_2 =>
    rintro ⟨es, hreads⟩
    refine ⟨⟨ofElements es⟩, (hok _).mpr ⟨?_, merged_ofElements es⟩⟩
    rwa [elements_ofElements]
  case refine_3 =>
    rw [Compiled.template_eq_error_iff]
    simp only [parse_eq_error_iff, readParts_eq_error_iff]
    constructor
    · rintro ⟨fault, rfl, es, rest, hreads, hbreaks⟩
      exact ⟨fault, es, rest, rfl, hreads, hbreaks⟩
    · rintro ⟨fault, es, rest, rfl, hreads, hbreaks⟩
      exact ⟨fault, rfl, es, rest, hreads, hbreaks⟩
  case refine_4 => exact h.prefix_of_breaks hbreaks h'

/-- A name, a number that ends before its last digit and an escaped sign are read, and the
number after them is that of no group. -/
theorem accepts_grammar_break : ∃ es rest,
    Reads [none, some "a", none] "$\x7ba\x7d$29\\$$3".toList es rest ∧
      Breaks [none, some "a", none] rest (.groupUnknown 3) ∧
      ∀ es' rest', Reads [none, some "a", none] "$\x7ba\x7d$29\\$$3".toList es' rest' →
        es' <+: es := by
  obtain ⟨-, -, herror, hleftmost⟩ :=
    accepts_grammar ⟨[], .empty, [none, some "a", none]⟩ "$\x7ba\x7d$29\\$$3"
  obtain ⟨fault, es, rest, hfault, hreads, hbreaks⟩ :=
    (herror (.template (.groupUnknown 3))).mp rfl
  obtain rfl := (Refusal.template.inj hfault).symm
  exact ⟨es, rest, hreads, hbreaks, hleftmost es rest _ hreads hbreaks⟩

end Template

end QueryFunctions.Pattern
