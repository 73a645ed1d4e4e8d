import QueryFunctions.Proofs.Json.Numerals

/-! Where values can be cut out of a text. Whatever is scanned is scanned the same wherever its text
stands, if what comes after it may come after a value. So an array is spelt by any texts of its
items with commas between them, or by space if it has none, and by nothing else. -/

namespace QueryFunctions.Spelling

variable {α : Type} {cs text rest : List Char} {close : Char}

/-! ### Space -/

def Space (text : List Char) : Prop := ∀ c ∈ text, isSpace c = true

theorem exists_skipSpace (cs : List Char) : ∃ space, Space space ∧ cs = space ++ skipSpace cs :=
  ⟨cs.takeWhile isSpace, fun _ => List.mem_takeWhile_imp, List.takeWhile_append_dropWhile.symm⟩

theorem skipSpace_append {space : List Char} (hspace : Space space)
    (h : ∀ c, text.head? = some c → isSpace c = false) : skipSpace (space ++ text) = text := by
  rw [skipSpace, List.dropWhile_append_of_pos hspace]
  cases text with
  | nil => rfl
  | cons c cs => exact List.dropWhile_cons_of_neg (by simp [h c rfl])

/-! ### Strings -/

/-- The characters at the start of a string that stand for one of its parts. -/
def IsPart (written : List Char) (part : Part) : Prop :=
  ∀ cs, scanString? (written ++ cs) =
    (scanString? cs).map fun (parts, rest) => (part :: parts, rest)

theorem isPart_unit {a b c d : Char} {p q r s : Nat} (ha : hexValue? a = some p)
    (hb : hexValue? b = some q) (hc : hexValue? c = some r) (hd : hexValue? d = some s) :
    IsPart ['\\', 'u', a, b, c, d] (.unit (((p * 16 + q) * 16 + r) * 16 + s)) := by
  intro cs
  change scanString? ('\\' :: 'u' :: a :: b :: c :: d :: cs) = _
  rw [scanString?, ha, hb, hc, hd]
  cases scanString? cs <;> rfl

theorem isPart_escape {c d : Char} (h : escaped? c = some d) : IsPart ['\\', c] (.char d) := by
  have hc : c ≠ 'u' := by
    rintro rfl
    cases h
  intro cs
  change scanString? ('\\' :: c :: cs) = _
  rw [scanString?.eq_3 _ _ fun _ _ _ _ _ heq _ => hc heq, h]
  cases scanString? cs <;> rfl

theorem isPart_char {c : Char} (hquote : c ≠ '"') (h : ¬ (c.toNat < 32 || c = '\\') = true) :
    IsPart [c] (.char c) := by
  have hc : c ≠ '\\' := by
    rintro rfl
    exact h rfl
  intro cs
  change scanString? (c :: cs) = _
  rw [scanString?.eq_4 _ _ hquote (fun _ _ _ _ _ heq _ => hc heq) fun _ _ heq _ => hc heq,
    if_neg h]
  cases scanString? cs <;> rfl

theorem scanString?_local {parts : List Part} (h : scanString? cs = some (parts, rest)) :
    ∃ read, cs = read ++ rest ∧ ∀ later, scanString? (read ++ later) = some (parts, later) := by
  have hnext {written cs : List Char} {part : Part} {parts : List Part}
      (ih : ∀ {parts}, scanString? cs = some (parts, rest) →
        ∃ read, cs = read ++ rest ∧ ∀ later, scanString? (read ++ later) = some (parts, later))
      (hpart : IsPart written part) (h : scanString? (written ++ cs) = some (parts, rest)) :
      ∃ read, written ++ cs = read ++ rest ∧
        ∀ later, scanString? (read ++ later) = some (parts, later) := by
    rw [hpart cs] at h
    obtain ⟨⟨others, left⟩, hothers, heq⟩ := Option.map_eq_some_iff.mp h
    obtain ⟨rfl, rfl⟩ := Prod.mk.inj heq
    obtain ⟨read, rfl, hlocal⟩ := ih hothers
    refine ⟨written ++ read, (List.append_assoc ..).symm, fun later => ?_⟩
    rw [List.append_assoc, hpart, hlocal later]
    rfl
  induction cs using scanString?.induct generalizing parts with
  | case1 cs =>
    obtain ⟨rfl, rfl⟩ := Prod.mk.inj (Option.some.inj h)
    exact ⟨['"'], rfl, fun _ => rfl⟩
  | case2 a b c d cs ih =>
    have hparts := h
    rw [scanString?] at hparts
    obtain ⟨p, ha, hparts⟩ := Option.bind_eq_some_iff.mp hparts
    obtain ⟨q, hb, hparts⟩ := Option.bind_eq_some_iff.mp hparts
    obtain ⟨r, hc, hparts⟩ := Option.bind_eq_some_iff.mp hparts
    obtain ⟨s, hd, hparts⟩ := Option.bind_eq_some_iff.mp hparts
    exact hnext ih (isPart_unit ha hb hc hd) h
  | case3 c cs hunit ih =>
    have hparts := h
    rw [scanString?.eq_3 _ _ hunit] at hparts
    obtain ⟨d, hd, -⟩ := Option.bind_eq_some_iff.mp hparts
    exact hnext ih (isPart_escape hd) h
  | case4 c cs hquote hunit hescape hc =>
    rw [scanString?.eq_4 _ _ hquote hunit hescape, if_pos hc] at h
    cases h
  | case5 c cs hquote _ _ hc ih => exact hnext ih (isPart_char hquote hc) h
  | case6 => cases h

theorem scanText?_local {s : Option String} (h : scanText? cs = some (s, rest)) :
    ∃ read, cs = read ++ rest ∧ ∀ later, scanText? (read ++ later) = some (s, later) := by
  obtain ⟨⟨parts, left⟩, hparts, heq⟩ := Option.map_eq_some_iff.mp h
  obtain ⟨rfl, rfl⟩ := Prod.mk.inj heq
  obtain ⟨read, rfl, hlocal⟩ := scanString?_local hparts
  refine ⟨read, rfl, fun later => ?_⟩
  rw [scanText?, hlocal later]
  rfl

/-! ### Elements -/

/-- Whether a character may come right after a value. -/
def isEnd (c : Char) : Bool := isSpace c || c = ',' || c = ']' || c = '}'

/-- A text that does not go on with a value before it. -/
def Ends (rest : List Char) : Prop := ∀ c, rest.head? = some c → isEnd c = true

/-- A scanner with fuel takes a text for an element whatever comes after it, if the fuel is more
than the text is long. The text does not begin with what may come after a value. -/
structure Scans (element : Nat → List Char → Option (α × List Char)) (read : List Char) (a : α) :
    Prop where
  starts : ∃ c cs, read = c :: cs ∧ isEnd c = false
  scan : ∀ fuel rest, read.length < fuel → Ends rest → element fuel (read ++ rest) = some (a, rest)

/-- What a scanner takes for an element, it takes for the same element everywhere. -/
def Local (element : Nat → List Char → Option (α × List Char)) (fuel : Nat) : Prop :=
  ∀ cs a rest, element fuel cs = some (a, rest) → ∃ read, cs = read ++ rest ∧ Scans element read a

/-- A text is that of an element with space around it. -/
def Spells (element : Nat → List Char → Option (α × List Char)) (text : List Char) (a : α) :
    Prop :=
  ∃ before read after, text = before ++ (read ++ after) ∧ Space before ∧ Scans element read a ∧
    Space after

variable {element : Nat → List Char → Option (α × List Char)} {read : List Char} {a : α}
  {items : List α} {texts : List (List Char)}

theorem ends_of_space (h : Space text) : Ends text := by
  intro c hc
  simp [isEnd, h c (List.mem_of_head? hc)]

/-- Space can be put in front of what may come after a value. -/
theorem Ends.space_append {space : List Char} (hspace : Space space) (h : Ends rest) :
    Ends (space ++ rest) := by
  cases space with
  | nil => exact h
  | cons c cs =>
    intro d hd
    obtain rfl := Option.some.inj hd
    simp [isEnd, hspace c List.mem_cons_self]

theorem Scans.skipSpace (h : Scans element read a) {space : List Char} (hspace : Space space) :
    skipSpace (space ++ (read ++ rest)) = read ++ rest := by
  obtain ⟨⟨c, cs, rfl, hc⟩, -⟩ := h
  refine skipSpace_append hspace fun d hd => ?_
  obtain rfl := Option.some.inj hd
  cases hspace : isSpace c with
  | false => rfl
  | true => simp [isEnd, hspace] at hc

/-- An element is taken from its text, and what is left begins at what comes after it. -/
theorem Spells.scan (h : Spells element text a) {c : Char} (hc : isEnd c = true)
    (hspace : isSpace c = false) {fuel : Nat} (hfuel : text.length < fuel) :
    ∃ left, element fuel (Spelling.skipSpace (text ++ c :: rest)) = some (a, left) ∧
      Spelling.skipSpace left = c :: rest := by
  obtain ⟨before, read, after, rfl, hbefore, hscans, hafter⟩ := h
  have hskip : Spelling.skipSpace (before ++ (read ++ (after ++ c :: rest))) =
      read ++ (after ++ c :: rest) := hscans.skipSpace hbefore
  have hends : Ends (after ++ c :: rest) :=
    Ends.space_append hafter fun d hd => by rwa [← Option.some.inj hd]
  refine ⟨after ++ c :: rest, ?_, skipSpace_append hafter fun d hd => ?_⟩
  · simp only [List.append_assoc, hskip]
    exact hscans.scan fuel _ (by simp only [List.length_append] at hfuel; omega) hends
  · rwa [← Option.some.inj hd]

section

variable {scanner : List Char → Option (α × List Char)} {left more : List Char} {count : Nat}

theorem scanElements?_last (h : scanner (Spelling.skipSpace cs) = some (a, left))
    (hleft : Spelling.skipSpace left = close :: rest) :
    scanElements? close scanner (count + 1) cs = some ([a], rest) := by
  rw [scanElements?, h]
  simp only [Option.bind_eq_bind, Option.bind_some, hleft, if_true]

theorem scanElements?_next (hclose : close ≠ ',')
    (h : scanner (Spelling.skipSpace cs) = some (a, left))
    (hleft : Spelling.skipSpace left = ',' :: more) :
    scanElements? close scanner (count + 1) cs =
      (scanElements? close scanner count more).map fun (others, rest) => (a :: others, rest) := by
  rw [scanElements?, h]
  simp only [Option.bind_eq_bind, Option.bind_some, hleft, if_neg hclose.symm, if_true]
  cases scanElements? close scanner count more <;> rfl

theorem scanElements?_eq_some
    (h : scanElements? close scanner (count + 1) cs = some (items, rest)) :
    ∃ a left, scanner (Spelling.skipSpace cs) = some (a, left) ∧
      ((Spelling.skipSpace left = close :: rest ∧ items = [a]) ∨
        ∃ more others, Spelling.skipSpace left = ',' :: more ∧
          scanElements? close scanner count more = some (others, rest) ∧ items = a :: others) := by
  rw [scanElements?] at h
  obtain ⟨⟨a, left⟩, hfirst, h⟩ := Option.bind_eq_some_iff.mp h
  refine ⟨a, left, hfirst, ?_⟩
  dsimp only at h
  split at h
  next c more hleft =>
    split_ifs at h with hclose hcomma
    · obtain ⟨rfl, rfl⟩ := Prod.mk.inj (Option.some.inj h)
      exact .inl ⟨hclose ▸ hleft, rfl⟩
    · obtain ⟨⟨others, last⟩, hothers, h⟩ := Option.bind_eq_some_iff.mp h
      obtain ⟨rfl, rfl⟩ := Prod.mk.inj (Option.some.inj h)
      exact .inr ⟨more, others, hcomma ▸ hleft, hothers, rfl⟩
  next => cases h

end

/-- Elements are taken from their texts with commas between them, up to the closing character. -/
theorem scanElements?_intercalate (hclose : close = ']' ∨ close = '}') (hne : texts ≠ [])
    (h : List.Forall₂ (Spells element) texts items) {fuel count : Nat}
    (hfuel : ([','].intercalate texts).length < fuel)
    (hcount : ([','].intercalate texts).length < count) (rest : List Char) :
    scanElements? close (element fuel) count ([','].intercalate texts ++ close :: rest) =
      some (items, rest) := by
  have hend : isEnd close = true ∧ isSpace close = false ∧ close ≠ ',' := by
    rcases hclose with rfl | rfl <;> decide
  -- The bound on the number of elements goes down by one at each comma, and so does the length.
  induction h generalizing count with
  | nil => exact absurd rfl hne
  | @cons text a texts items hfirst hrest ih =>
    obtain ⟨count, rfl⟩ := Nat.exists_eq_succ_of_ne_zero (Nat.ne_zero_of_lt hcount)
    cases texts with
    | nil =>
      cases hrest
      rw [List.intercalate_singleton] at hfuel ⊢
      obtain ⟨left, hscan, hleft⟩ := hfirst.scan hend.1 hend.2.1 hfuel
      exact scanElements?_last hscan hleft
    | cons next texts =>
      rw [List.intercalate_cons_cons] at hfuel hcount ⊢
      simp only [List.length_append, List.length_singleton] at hfuel hcount
      simp only [List.append_assoc, List.cons_append, List.nil_append]
      have hcomma : isEnd ',' = true ∧ isSpace ',' = false := by decide
      have hlength : text.length < fuel := by omega
      obtain ⟨left, hscan, hleft⟩ := hfirst.scan hcomma.1 hcomma.2 hlength
      rw [scanElements?_next hend.2.2 hscan hleft, ih (by simp) (by omega) (by omega)]
      rfl

theorem exists_texts_of_scanElements? {fuel : Nat} (hlocal : Local element fuel) {count : Nat}
    (h : scanElements? close (element fuel) count cs = some (items, rest)) :
    ∃ texts, texts ≠ [] ∧ cs = [','].intercalate texts ++ close :: rest ∧
      List.Forall₂ (Spells element) texts items := by
  induction count generalizing cs items with
  | zero => cases h
  | succ count ih =>
    obtain ⟨a, left, hfirst, hleft⟩ := scanElements?_eq_some h
    obtain ⟨before, hbefore, hcs⟩ := exists_skipSpace cs
    obtain ⟨after, hafter, hleftText⟩ := exists_skipSpace left
    obtain ⟨read, hread, hscans⟩ := hlocal _ _ _ hfirst
    have hspells : Spells element (before ++ (read ++ after)) a :=
      ⟨before, read, after, rfl, hbefore, hscans, hafter⟩
    rcases hleft with ⟨hend, rfl⟩ | ⟨more, others, hcomma, hothers, rfl⟩
    · refine ⟨[before ++ (read ++ after)], by simp, ?_, .cons hspells .nil⟩
      rw [hcs, hread, hleftText, hend]
      simp
    · obtain ⟨texts, hne, rfl, htexts⟩ := ih hothers
      refine ⟨(before ++ (read ++ after)) :: texts, by simp, ?_, .cons hspells htexts⟩
      obtain ⟨next, texts, rfl⟩ := List.exists_cons_of_ne_nil hne
      rw [List.intercalate_cons_cons, hcs, hread, hleftText, hcomma]
      simp

/-! ### Sequences -/

/-- The texts between the opening and the closing character of a sequence. -/
inductive Enclosed (element : Nat → List Char → Option (α × List Char)) :
    List Char → List α → Prop
  | space {body : List Char} (h : Space body) : Enclosed element body []
  | elements {texts : List (List Char)} {items : List α} (hne : texts ≠ [])
    (h : List.Forall₂ (Spells element) texts items) :
    Enclosed element ([','].intercalate texts) items

theorem enclosed_intercalate (h : List.Forall₂ (Spells element) texts items) :
    Enclosed element ([','].intercalate texts) items := by
  cases h with
  | nil => exact .space (List.forall_mem_nil _)
  | cons hfirst hrest => exact .elements (List.cons_ne_nil _ _) (.cons hfirst hrest)

/-- A text of elements goes on with an element after its space. -/
theorem exists_skipSpace_intercalate (hne : texts ≠ [])
    (h : List.Forall₂ (Spells element) texts items) (rest : List Char) :
    ∃ c cs, Spelling.skipSpace ([','].intercalate texts ++ rest) = c :: cs ∧ isEnd c = false := by
  obtain ⟨text, others, rfl⟩ := List.exists_cons_of_ne_nil hne
  obtain ⟨a, -, ⟨before, read, after, rfl, hbefore, hscans, -⟩, -, -⟩ :=
    List.forall₂_cons_left_iff.mp h
  have hfirst (more : List Char) :
      ∃ c cs, Spelling.skipSpace ((before ++ (read ++ after)) ++ more) = c :: cs ∧
        isEnd c = false := by
    obtain ⟨c, cs, rfl, hc⟩ := hscans.starts
    refine ⟨c, cs ++ (after ++ more), ?_, hc⟩
    have hskip : Spelling.skipSpace (before ++ (c :: cs ++ (after ++ more))) =
        c :: cs ++ (after ++ more) := hscans.skipSpace hbefore
    simpa only [List.append_assoc, List.cons_append] using hskip
  cases others with
  | nil => simpa only [List.intercalate_singleton] using hfirst rest
  | cons next others =>
    simpa only [List.intercalate_cons_cons, List.append_assoc] using
      hfirst ([','] ++ ([','].intercalate (next :: others) ++ rest))

/-- A sequence is taken from its text whatever comes after it. -/
theorem Enclosed.scan (hclose : close = ']' ∨ close = '}') {body : List Char}
    (h : Enclosed element body items) {fuel : Nat} (hfuel : body.length < fuel)
    (rest : List Char) :
    scanSequence? close (element fuel) (body ++ close :: rest) = some (items, rest) := by
  have hend : isEnd close = true ∧ isSpace close = false := by
    rcases hclose with rfl | rfl <;> decide
  cases h with
  | space hspace =>
    have hskip : Spelling.skipSpace (body ++ close :: rest) = close :: rest :=
      skipSpace_append hspace fun c hc => by
        obtain rfl := Option.some.inj hc
        exact hend.2
    rw [scanSequence?, hskip]
    exact if_pos rfl
  | elements hne htexts =>
    obtain ⟨c, cs, hskip, hc⟩ := exists_skipSpace_intercalate hne htexts (close :: rest)
    have hfirst : c ≠ close := by
      rintro rfl
      rw [hend.1] at hc
      cases hc
    rw [scanSequence?, hskip]
    dsimp only
    rw [if_neg hfirst]
    exact scanElements?_intercalate hclose hne htexts hfuel (by simp) rest

/-- What is taken for a sequence is one. -/
theorem exists_enclosed_of_scanSequence? {fuel : Nat} (hlocal : Local element fuel)
    (h : scanSequence? close (element fuel) cs = some (items, rest)) :
    ∃ body, cs = body ++ close :: rest ∧ Enclosed element body items := by
  unfold scanSequence? at h
  split at h
  next c left hskip =>
    split_ifs at h with hclose
    · obtain ⟨rfl, rfl⟩ := Prod.mk.inj (Option.some.inj h)
      obtain ⟨space, hspace, hcs⟩ := exists_skipSpace cs
      refine ⟨space, ?_, .space hspace⟩
      rw [← hclose, ← hskip]
      exact hcs
    · obtain ⟨texts, hne, hcs, htexts⟩ := exists_texts_of_scanElements? hlocal h
      exact ⟨_, hcs, .elements hne htexts⟩
  next => cases h

/-! ### Fields -/

theorem scanField?_eq_some_iff {value : List Char → Option (Spelling × List Char)}
    {name : Option String} {v : Spelling} :
    scanField? value cs = some ((name, v), rest) ↔
      ∃ after middle last, cs = '"' :: after ∧ scanText? after = some (name, middle) ∧
        Spelling.skipSpace middle = ':' :: last ∧
        value (Spelling.skipSpace last) = some (v, rest) := by
  constructor
  · intro h
    unfold scanField? at h
    split at h
    next after =>
      obtain ⟨⟨name, middle⟩, hname, h⟩ := Option.bind_eq_some_iff.mp h
      dsimp only at h
      split at h
      next last hcolon =>
        obtain ⟨⟨v, left⟩, hvalue, h⟩ := Option.bind_eq_some_iff.mp h
        cases h
        exact ⟨after, middle, last, rfl, hname, hcolon, hvalue⟩
      next => cases h
    next => cases h
  · rintro ⟨after, middle, last, rfl, hname, hcolon, hvalue⟩
    refine Option.bind_eq_some_iff.mpr ⟨_, hname, ?_⟩
    dsimp only
    rw [hcolon]
    exact Option.bind_eq_some_iff.mpr ⟨_, hvalue, rfl⟩

theorem scanField?_local {fuel : Nat} (hlocal : Local scan? fuel) :
    Local (fun fuel => scanField? (scan? fuel)) fuel := by
  rintro cs ⟨name, v⟩ rest h
  obtain ⟨after, middle, last, rfl, hname, hcolon, hvalue⟩ := scanField?_eq_some_iff.mp h
  obtain ⟨nameText, rfl, hnameLocal⟩ := scanText?_local hname
  obtain ⟨before, hbefore, hmiddle⟩ := exists_skipSpace middle
  obtain ⟨between, hbetween, hlast⟩ := exists_skipSpace last
  obtain ⟨valueText, hread, hscans⟩ := hlocal _ _ _ hvalue
  refine ⟨'"' :: (nameText ++ (before ++ ':' :: (between ++ valueText))), ?_,
    ⟨'"', _, rfl, by decide⟩, fun fuel later hfuel hlater => ?_⟩
  · rw [hmiddle, hcolon, hlast, hread]
    simp
  · simp only [List.length_cons, List.length_append] at hfuel
    refine scanField?_eq_some_iff.mpr ⟨nameText ++ (before ++ ':' :: (between ++ (valueText ++
      later))), before ++ ':' :: (between ++ (valueText ++ later)),
      between ++ (valueText ++ later), by simp, hnameLocal _, ?_, ?_⟩
    · exact skipSpace_append hbefore fun c hc => by
        obtain rfl := Option.some.inj hc
        decide
    · rw [hscans.skipSpace hbetween]
      exact hscans.scan fuel later (by omega) hlater

/-! ### Values -/

theorem scan?_numeral {c : Char} (hc : c = '-' ∨ c.isDigit = true) (fuel : Nat)
    (cs : List Char) :
    scan? (fuel + 1) (c :: cs) =
      (Numeral.scan? (c :: cs)).map fun (n, rest) => (.number n, rest) := by
  have hne {d : Char} (hd : d ≠ '-' ∧ d.isDigit = false) : c ≠ d := by
    rintro rfl
    rcases hc with rfl | hdigit
    · exact hd.1 rfl
    · rw [hd.2] at hdigit
      cases hdigit
  unfold scan?
  split
  case h_7 => rfl
  all_goals
    next heq => exact absurd (List.cons.inj heq).1 (hne (by decide))

theorem isEnd_iff {c : Char} :
    isEnd c = true ↔ c ∈ [' ', '\n', '\t', '\r', ',', ']', '}'] := by
  simp [isEnd, isSpace, or_assoc]

/-- What comes after a value does not go on with a numeral. -/
theorem Ends.stopsAt (h : Ends rest) : Numeral.StopsAt ['.', 'e', 'E'] rest := by
  have hends : ∀ c ∈ [' ', '\n', '\t', '\r', ',', ']', '}'],
      c.isDigit = false ∧ c ∉ ['.', 'e', 'E'] := by simp
  exact fun c hc => hends c (isEnd_iff.mp (h c hc))

theorem not_isEnd_of_numeral {c : Char} (hc : c = '-' ∨ c.isDigit = true) : isEnd c = false := by
  have hends : ∀ c ∈ [' ', '\n', '\t', '\r', ',', ']', '}'], c ≠ '-' ∧ c.isDigit = false := by
    simp
  rw [Bool.eq_false_iff]
  intro hend
  obtain ⟨hminus, hdigit⟩ := hends c (isEnd_iff.mp hend)
  rw [hdigit] at hc
  exact hc.elim hminus Bool.false_ne_true

theorem scans_word {v : Spelling} {c : Char} {cs : List Char} (hc : isEnd c = false)
    (h : ∀ fuel rest, scan? (fuel + 1) (c :: (cs ++ rest)) = some (v, rest)) :
    Scans scan? (c :: cs) v := by
  refine ⟨⟨c, cs, rfl, hc⟩, fun fuel rest hfuel _ => ?_⟩
  obtain ⟨fuel, rfl⟩ := Nat.exists_eq_succ_of_ne_zero (Nat.ne_zero_of_lt hfuel)
  exact h fuel rest

theorem scans_string {s : Option String}
    (h : ∀ rest, scanText? (read ++ rest) = some (s, rest)) :
    Scans scan? ('"' :: read) (.string s) :=
  scans_word (by decide) fun fuel rest => by
    change (scanText? (read ++ rest)).map _ = _
    rw [h rest]
    rfl

theorem scans_numeral {n : Numeral} {c : Char} (hc : c = '-' ∨ c.isDigit = true)
    (h : ∀ rest, Numeral.StopsAt ['.', 'e', 'E'] rest →
      Numeral.scan? (c :: (read ++ rest)) = some (n, rest)) :
    Scans scan? (c :: read) (.number n) := by
  refine ⟨⟨c, read, rfl, not_isEnd_of_numeral hc⟩, fun fuel rest hfuel hrest => ?_⟩
  obtain ⟨fuel, rfl⟩ := Nat.exists_eq_succ_of_ne_zero (Nat.ne_zero_of_lt hfuel)
  rw [List.cons_append, scan?_numeral hc, h rest hrest.stopsAt]
  rfl

/-- A sequence between its brackets is taken for what is made of its elements. -/
theorem Enclosed.scans {opening : Char} {make : List α → Spelling} {body : List Char}
    (h : Enclosed element body items) (hopening : isEnd opening = false)
    (hclose : close = ']' ∨ close = '}')
    (hscan : ∀ fuel cs, scan? (fuel + 1) (opening :: cs) =
      (scanSequence? close (element fuel) cs).map fun (items, rest) => (make items, rest)) :
    Scans scan? (opening :: (body ++ [close])) (make items) := by
  refine ⟨⟨opening, _, rfl, hopening⟩, fun fuel rest hfuel _ => ?_⟩
  obtain ⟨fuel, rfl⟩ := Nat.exists_eq_succ_of_ne_zero (Nat.ne_zero_of_lt hfuel)
  have hbody : body.length < fuel := by
    simp only [List.length_cons, List.length_append, List.length_nil] at hfuel
    omega
  rw [List.cons_append, List.append_assoc, List.singleton_append, hscan,
    h.scan hclose hbody rest]
  rfl

theorem Enclosed.scans_array {body : List Char} {items : List Spelling}
    (h : Enclosed scan? body items) : Scans scan? ('[' :: (body ++ [']'])) (.array items) :=
  h.scans (by decide) (.inl rfl) fun _ _ => rfl

theorem Enclosed.scans_object {body : List Char} {fields : List (Option String × Spelling)}
    (h : Enclosed (fun fuel => scanField? (scan? fuel)) body fields) :
    Scans scan? ('{' :: (body ++ ['}'])) (.object fields) :=
  h.scans (by decide) (.inr rfl) fun _ _ => rfl

/-- Values can be cut out. -/
theorem scan?_local (fuel : Nat) : Local scan? fuel := by
  -- What is scanned with less fuel are the elements of a sequence, or the values of its fields.
  induction fuel with
  | zero => exact fun cs v rest h => by cases h
  | succ fuel ih =>
    intro cs v rest h
    unfold scan? at h
    split at h
    case h_1 cs =>
      cases h
      exact ⟨['n', 'u', 'l', 'l'], rfl, scans_word (by decide) fun _ _ => rfl⟩
    case h_2 cs =>
      cases h
      exact ⟨['t', 'r', 'u', 'e'], rfl, scans_word (by decide) fun _ _ => rfl⟩
    case h_3 cs =>
      cases h
      exact ⟨['f', 'a', 'l', 's', 'e'], rfl, scans_word (by decide) fun _ _ => rfl⟩
    case h_4 cs =>
      obtain ⟨⟨s, left⟩, hs, heq⟩ := Option.map_eq_some_iff.mp h
      cases heq
      obtain ⟨read, rfl, hread⟩ := scanText?_local hs
      exact ⟨'"' :: read, rfl, scans_string hread⟩
    case h_5 cs =>
      obtain ⟨⟨items, left⟩, hitems, heq⟩ := Option.map_eq_some_iff.mp h
      cases heq
      obtain ⟨body, rfl, hbody⟩ := exists_enclosed_of_scanSequence? ih hitems
      exact ⟨'[' :: (body ++ [']']), by simp, hbody.scans_array⟩
    case h_6 cs =>
      obtain ⟨⟨fields, left⟩, hfields, heq⟩ := Option.map_eq_some_iff.mp h
      cases heq
      obtain ⟨body, rfl, hbody⟩ := exists_enclosed_of_scanSequence? (scanField?_local ih) hfields
      exact ⟨'{' :: (body ++ ['}']), by simp, hbody.scans_object⟩
    case h_7 =>
      obtain ⟨⟨n, left⟩, hn, heq⟩ := Option.map_eq_some_iff.mp h
      cases heq
      obtain ⟨c, read, rfl, hc, hread⟩ := Numeral.scan?_local hn
      exact ⟨c :: read, rfl, scans_numeral hc hread⟩

/-! ### Whole texts -/

theorem parse?_eq_some_iff {text : String} {v : Spelling} :
    parse? text = some v ↔ Spells scan? text.toList v := by
  unfold parse?
  dsimp only
  constructor
  · intro h
    split at h
    next v rest hscan =>
      split_ifs at h with hrest
      obtain rfl := Option.some.inj h
      obtain ⟨before, hbefore, htext⟩ := exists_skipSpace text.toList
      obtain ⟨after, hafter, hleft⟩ := exists_skipSpace rest
      obtain ⟨read, hread, hscans⟩ := scan?_local _ _ _ _ hscan
      rw [List.isEmpty_iff.mp hrest, List.append_nil] at hleft
      exact ⟨before, read, after, by rw [← hleft, ← hread, ← htext], hbefore, hscans, hafter⟩
    next => cases h
  · rintro ⟨before, read, after, htext, hbefore, hscans, hafter⟩
    have hlength : read.length < text.toList.length + 1 := by
      simp only [htext, List.length_append]
      omega
    have hskip : Spelling.skipSpace text.toList = read ++ after := by
      rw [htext]
      exact hscans.skipSpace hbefore
    have hend : Spelling.skipSpace after = [] := List.dropWhile_eq_nil_iff.mpr hafter
    rw [hskip, hscans.scan _ after hlength (ends_of_space hafter)]
    simp only [hend, List.isEmpty_nil, if_true]

/-- An array is spelt by texts of its items with commas between them. -/
theorem exists_enclosed_of_scans {items : List Spelling} (h : Scans scan? read (.array items)) :
    ∃ body, read = '[' :: (body ++ [']']) ∧ Enclosed scan? body items := by
  have hscan := h.scan (read.length + 1) [] (Nat.lt_succ_self _) fun c hc => by cases hc
  rw [List.append_nil] at hscan
  unfold scan? at hscan
  split at hscan
  case h_5 cs =>
    obtain ⟨⟨others, left⟩, hitems, heq⟩ := Option.map_eq_some_iff.mp hscan
    cases heq
    obtain ⟨body, rfl, hbody⟩ := exists_enclosed_of_scanSequence? (scan?_local _) hitems
    exact ⟨body, rfl, hbody⟩
  case h_4 | h_6 | h_7 =>
    obtain ⟨_, -, heq⟩ := Option.map_eq_some_iff.mp hscan
    cases heq
  all_goals cases hscan

def arrayText (elements : List String) : String := "[" ++ ",".intercalate elements ++ "]"

theorem toList_arrayText (elements : List String) :
    (arrayText elements).toList =
      '[' :: ([','].intercalate (elements.map String.toList) ++ [']']) := by
  simp [arrayText, String.toList_intercalate]

theorem forall₂_spells_iff {elements : List String} {items : List Spelling} :
    List.Forall₂ (Spells scan?) (elements.map String.toList) items ↔
      List.Forall₂ (fun element item => parse? element = some item) elements items := by
  rw [List.forall₂_map_left_iff]
  simp only [parse?_eq_some_iff]

theorem parse?_arrayText {elements : List String} {items : List Spelling}
    (h : List.Forall₂ (fun element item => parse? element = some item) elements items) :
    parse? (arrayText elements) = some (.array items) := by
  refine parse?_eq_some_iff.mpr ⟨[], _, [], ?_, List.forall_mem_nil _,
    (enclosed_intercalate (forall₂_spells_iff.mpr h)).scans_array, List.forall_mem_nil _⟩
  rw [toList_arrayText]
  simp

theorem exists_elements_of_parse? {text : String} {items : List Spelling}
    (h : parse? text = some (.array items)) :
    ∃ elements, List.Forall₂ (fun element item => parse? element = some item) elements items := by
  obtain ⟨before, read, after, -, -, hscans, -⟩ := parse?_eq_some_iff.mp h
  obtain ⟨body, -, hbody⟩ := exists_enclosed_of_scans hscans
  cases hbody with
  | space => exact ⟨[], .nil⟩
  | @elements texts _ _ htexts =>
    refine ⟨texts.map String.ofList, forall₂_spells_iff.mp ?_⟩
    simpa using htexts

end QueryFunctions.Spelling
