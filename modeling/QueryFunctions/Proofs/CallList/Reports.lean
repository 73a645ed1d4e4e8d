import QueryFunctions.Proofs.CallList.Decoding
import QueryFunctions.Proofs.Json.Scanning
import QueryFunctions.Proofs.Library.Endings

/-! What running a list of calls prints. A list is read as a whole or not at all, so one element
that is no call is enough for nothing to be printed. If all are calls, each prints the line that it
prints on its own, whether it comes to a value or fails, and whatever the others come to. -/

namespace QueryFunctions

namespace Call

/-- The text of an element of a list is that of a call. -/
def Decodes (element : String) (call : Call) : Prop :=
  ∃ item, Spelling.parse? element = some item ∧ ReadFrom (Json.maxDepth - 3) item call

theorem value_or_failure (call : Call) :
    (∃ v, (Environment.standard.call call.function call.args).outcome = .value v) ∨
      ∃ failure,
        (Environment.standard.call call.function call.args).outcome = .failure failure := by
  have hending : Environment.Ending call.function call.args
      (Environment.standard.call call.function call.args).outcome :=
    Environment.standard_ending {} call.function call.args
  generalize (Environment.standard.call call.function call.args).outcome = outcome at hending ⊢
  cases hending with
  | yielded => exact .inl ⟨_, rfl⟩
  | _ => exact .inr ⟨_, rfl⟩

end Call

namespace Report

open Call Spelling

variable {text element : String} {elements first second : List String} {items : List Spelling}
  {item : Spelling} {calls : List Call} {call : Call}

/-! ### Lists that are read -/

theorem ofFile_toUTF8 (text : String) : ofFile (some text.toUTF8) = ofText text := by
  have htext : String.fromUTF8? text.toUTF8 = some text := dif_pos text.isValidUTF8
  rw [ofFile, Option.bind_some, htext]

theorem ofText_of_readFrom (h : parse? text = some (.array items))
    (hcalls : List.Forall₂ (ReadFrom (Json.maxDepth - 3)) items calls) :
    ofText text = ⟨0, String.join (calls.map line)⟩ := by
  have hread : parseList? text = some calls := by
    unfold parseList?
    rw [h]
    exact mapM_eq_some_iff.mpr (hcalls.imp fun _ _ h => ofSpelling?_eq_some_iff.mpr h)
  rw [ofText, hread]

theorem ofText_of_not_readFrom (h : parse? text = some (.array items)) (hitem : item ∈ items)
    (hnot : ∀ call, ¬ ReadFrom (Json.maxDepth - 3) item call) : ofText text = unreadable := by
  have hread : parseList? text = none := by
    rw [Option.eq_none_iff_forall_ne_some]
    intro calls hcalls
    unfold parseList? at hcalls
    rw [h] at hcalls
    obtain ⟨call, -, hcall⟩ := exists_mem_of_forall₂ (mapM_eq_some_iff.mp hcalls) hitem
    exact hnot call (ofSpelling?_eq_some_iff.mp hcall)
  rw [ofText, hread]

/-! ### Lists of texts -/

theorem ofText_arrayText (h : List.Forall₂ Decodes elements calls) :
    ofText (arrayText elements) = ⟨0, String.join (calls.map line)⟩ := by
  obtain ⟨items, hitems, hcalls⟩ := exists_forall₂_between h
  exact ofText_of_readFrom (parse?_arrayText hitems) hcalls

/-- What a list prints whose only element has a text. -/
def printedAlone (element : String) : String := (ofText (arrayText [element])).printed

theorem ofText_arrayText_singleton (h : Decodes element call) :
    ofText (arrayText [element]) = ⟨0, call.line⟩ := by
  rw [ofText_arrayText (.cons h .nil)]
  simp

theorem map_printedAlone (h : List.Forall₂ Decodes elements calls) :
    elements.map printedAlone = calls.map line := by
  induction h with
  | nil => rfl
  | cons hfirst _ ih =>
    rw [List.map_cons, List.map_cons, ih, printedAlone, ofText_arrayText_singleton hfirst]

/-- A text of an array comes to the same as texts of its items in a list. -/
theorem exists_elements (h : parse? text = some (.array items)) :
    ∃ elements, List.Forall₂ (fun element item => parse? element = some item) elements items ∧
      ofText text = ofText (arrayText elements) := by
  obtain ⟨elements, helements⟩ := exists_elements_of_parse? h
  refine ⟨elements, helements, ?_⟩
  rw [ofText, ofText, parseList?, parseList?, h, parse?_arrayText helements]

theorem ofText_of_decodes (h : ∀ element ∈ elements, ∃ call, Decodes element call) :
    ofText (arrayText elements) = ⟨0, String.join (elements.map printedAlone)⟩ := by
  obtain ⟨calls, hcalls⟩ := exists_forall₂ h
  rw [ofText_arrayText hcalls, map_printedAlone hcalls]

theorem ofText_of_not_decodes (h : ∀ element ∈ elements, ∃ item, parse? element = some item)
    (helement : element ∈ elements) (hnot : ∀ call, ¬ Decodes element call) :
    ofText (arrayText elements) = unreadable := by
  obtain ⟨items, hitems⟩ := exists_forall₂ h
  obtain ⟨item, hitem, hparse⟩ := exists_mem_of_forall₂ hitems helement
  exact ofText_of_not_readFrom (parse?_arrayText hitems) hitem
    fun call hcall => hnot call ⟨item, hparse, hcall⟩

/-- A call on its own prints one line, with the value that it comes to or with its failure. -/
theorem ofText_singleton_line (h : Decodes element call) :
    ∃ result, ofText (arrayText [element]) =
        ⟨0, call.function ++ "(..) => " ++ result ++ "\n"⟩ ∧
      ((∃ v, (Environment.standard.call call.function call.args).outcome = .value v ∧
          result = v.text) ∨
        ∃ failure, (Environment.standard.call call.function call.args).outcome =
            .failure failure ∧ result = failure.describe) := by
  refine ⟨_, ofText_arrayText_singleton h, ?_⟩
  rcases call.value_or_failure with ⟨v, hv⟩ | ⟨failure, hfailure⟩
  · exact .inl ⟨v, hv, by rw [hv]; rfl⟩
  · exact .inr ⟨failure, hfailure, by rw [hfailure]; rfl⟩

/-- A list of calls is decoded as a whole, and then its calls are run one by one. Any text of an
array stands for a list of texts of its elements. If all of them are calls, the exit code is 0 and
each prints what it prints as the only one, be it a value or a failure, so lists that are appended
print what they print one after the other. If one of them is not a call, nothing is printed and the
exit code is 1. An argument refers to an expression if it is an object with one field of the name
`expression` and this field is a string, and any other is the value of its JSON text. -/
theorem calls_all_or_none :
    (∀ text items, parse? text = some (.array items) →
      ∃ elements, List.Forall₂ (fun element item => parse? element = some item) elements items ∧
        ofFile (some text.toUTF8) = ofText (arrayText elements)) ∧
    (∀ elements, (∀ element ∈ elements, ∃ item, parse? element = some item) →
      ((∀ element ∈ elements, ∃ call, Decodes element call) →
        ofText (arrayText elements) = ⟨0, String.join (elements.map printedAlone)⟩) ∧
      ((∃ element ∈ elements, ∀ call, ¬ Decodes element call) →
        ofText (arrayText elements) = ⟨1, ""⟩)) ∧
    (∀ first second, (∀ element ∈ first ++ second, ∃ call, Decodes element call) →
      ofText (arrayText (first ++ second)) =
        ⟨0, (ofText (arrayText first)).printed ++ (ofText (arrayText second)).printed⟩) ∧
    (∀ element call, Decodes element call →
      ∃ result, ofText (arrayText [element]) =
          ⟨0, call.function ++ "(..) => " ++ result ++ "\n"⟩ ∧
        ((∃ v, (Environment.standard.call call.function call.args).outcome = .value v ∧
            result = v.text) ∨
          ∃ failure, (Environment.standard.call call.function call.args).outcome =
              .failure failure ∧ result = failure.describe)) ∧
    ∀ item, ((∃ arg, argument? (Json.maxDepth - 3) item = some arg) ↔
        ∃ v, item.value? (Json.maxDepth - 3) = some v) ∧
      ∀ arg, argument? (Json.maxDepth - 3) item = some arg →
        (∀ source, arg = .expression source ↔ RefersTo source item) ∧
        ∀ v, arg = .value v ↔
          (∀ source, ¬ RefersTo source item) ∧ item.value? Json.maxDepth = some v := by
  refine ⟨fun text items h => ?_, fun elements hitems => ⟨ofText_of_decodes, ?_⟩,
    fun first second h => ?_, fun _ _ => ofText_singleton_line,
    fun item => ⟨exists_argument?_iff, fun arg h => argument?_eq_some h (Nat.sub_le _ _)⟩⟩
  case refine_1 =>
    rw [ofFile_toUTF8]
    exact exists_elements h
  case refine_2 =>
    rintro ⟨element, helement, hnot⟩
    exact ofText_of_not_decodes hitems helement hnot
  case refine_3 =>
    obtain ⟨hfirst, hsecond⟩ := List.forall_mem_append.mp h
    rw [ofText_of_decodes h, ofText_of_decodes hfirst, ofText_of_decodes hsecond,
      List.map_append, String.join_append]

/-- A call that fails does not keep the next one from printing its line, but an element that is not
a call keeps both from it. -/
theorem calls_all_or_none_failing :
    ofText (arrayText ["[\"nope\"]", "[\"concat\", [\"a\", null]]"]) =
      ⟨0, (ofText (arrayText ["[\"nope\"]"])).printed ++
        (ofText (arrayText ["[\"concat\", [\"a\", null]]"])).printed⟩ ∧
    (∃ result, ofText (arrayText ["[\"nope\"]"]) = ⟨0, "nope" ++ "(..) => " ++ result ++ "\n"⟩) ∧
    ofText (arrayText ["[\"nope\"]", "[\"concat\", [\"a\", null]]", "2"]) = ⟨1, ""⟩ := by
  have hnope : parse? "[\"nope\"]" = some (.array [.string (some "nope")]) := rfl
  have hconcat : parse? "[\"concat\", [\"a\", null]]" =
    some (.array [.string (some "concat"), .array [.string (some "a"), .null]]) := rfl
  have hnumber : parse? "2" = some (.number ⟨false, ['2'], none, none⟩) := rfl
  have hcall : Decodes "[\"nope\"]" ⟨"nope", []⟩ := ⟨_, hnope, _, .single, .nil⟩
  have hother : Decodes "[\"concat\", [\"a\", null]]"
      ⟨"concat", [.value (.string "a"), .value .null]⟩ :=
    ⟨_, hconcat, _, .array, .cons rfl (.cons rfl .nil)⟩
  have hnot (call : Call) : ¬ Decodes "2" call := by
    rintro ⟨item, hitem, _, hgives, -⟩
    rw [hnumber] at hitem
    cases hitem
    cases hgives
  obtain ⟨-, helements, happend, halone, -⟩ := calls_all_or_none
  refine ⟨happend ["[\"nope\"]"] ["[\"concat\", [\"a\", null]]"] ?_, ?_,
    (helements ["[\"nope\"]", "[\"concat\", [\"a\", null]]", "2"] ?_).2
      ⟨"2", .tail _ (.tail _ (.head _)), hnot⟩⟩
  case refine_1 =>
    exact List.forall_mem_cons.mpr
      ⟨⟨_, hcall⟩, List.forall_mem_cons.mpr ⟨⟨_, hother⟩, List.forall_mem_nil _⟩⟩
  case refine_2 =>
    obtain ⟨result, hresult, -⟩ := halone _ _ hcall
    exact ⟨result, hresult⟩
  case refine_3 =>
    exact List.forall_mem_cons.mpr ⟨⟨_, hnope⟩, List.forall_mem_cons.mpr ⟨⟨_, hconcat⟩,
      List.forall_mem_cons.mpr ⟨⟨_, hnumber⟩, List.forall_mem_nil _⟩⟩⟩

end Report

end QueryFunctions
