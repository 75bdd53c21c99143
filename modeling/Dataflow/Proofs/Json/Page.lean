import Dataflow.Proofs.Json.Reader

/-! Values in JSON text with one item a line. Line breaks and the blanks after them are gaps, so
that such a text is read like one in a single line. -/
namespace Dataflow.Json

/-! ### Text -/

theorem isGap_newline (level : Nat) : IsGap (newline level) := by
  intro c hc
  rcases List.mem_cons.1 hc with rfl | hc
  · decide
  · rw [(List.mem_replicate.1 hc).2]
    decide

theorem pageItems_eq_spread (level : Nat) (items : List Json) :
    pageItems level items = spread (newline level) (items.map (page level)) := by
  induction items with
  | nil => rfl
  | cons v items ih =>
    cases items with
    | nil => simp [pageItems, spread, laterTexts]
    | cons w items => simpa [pageItems, spread, laterTexts] using ih

/-- What stands after the colon of a member. -/
def pageMember (level : Nat) (v : Json) : List Char := ' ' :: page level v

theorem pageMembers_eq_spread (level : Nat) (members : List (String × Json)) :
    pageMembers level members =
      spread (newline level) (members.map fun e => namedText (e.1, pageMember level e.2)) := by
  induction members with
  | nil => rfl
  | cons e members ih =>
    cases members with
    | nil => simp [pageMembers, spread, laterTexts, namedText, pageMember]
    | cons d members => simpa [pageMembers, spread, laterTexts, namedText, pageMember] using ih

/-- An array that is empty has nothing between its brackets, another one a line break before the
closing one. -/
theorem exists_page_array (level : Nat) (items : List Json) : ∃ close, IsGap close ∧ ∀ rest,
    (array items).page level ++ rest = '[' ::
      (spread (newline (level + 1)) (items.map (page (level + 1))) ++ (close ++ ']' :: rest)) := by
  cases items with
  | nil => exact ⟨[], isGap_nil, fun rest => rfl⟩
  | cons v items =>
    refine ⟨newline level, isGap_newline level, fun rest => ?_⟩
    rw [← pageItems_eq_spread]
    simp [page]

theorem exists_page_object (level : Nat) (members : List (String × Json)) :
    ∃ close, IsGap close ∧ ∀ rest, (object members).page level ++ rest = '{' ::
      (spread (newline (level + 1))
        (members.map fun e => namedText (e.1, pageMember (level + 1) e.2)) ++
          (close ++ '}' :: rest)) := by
  cases members with
  | nil => exact ⟨[], isGap_nil, fun rest => rfl⟩
  | cons e members =>
    refine ⟨newline level, isGap_newline level, fun rest => ?_⟩
    rw [← pageMembers_eq_spread]
    simp [page]

theorem startsItem_page {v : Json} (h : v.IsFloatFree) (level : Nat) :
    StartsItem (v.page level) := by
  cases h with
  | array =>
    obtain ⟨close, -, hpage⟩ := exists_page_array level _
    have hrest := hpage []
    rw [List.append_nil] at hrest
    exact ⟨'[', _, hrest, by decide, by decide⟩
  | object =>
    obtain ⟨close, -, hpage⟩ := exists_page_object level _
    have hrest := hpage []
    rw [List.append_nil] at hrest
    exact ⟨'{', _, hrest, by decide, by decide⟩
  | null => exact startsItem_line .null
  | bool b => exact startsItem_line (.bool b)
  | integer n => exact startsItem_line (.integer n)
  | string s => exact startsItem_line (.string s)

/-! ### Reading back -/

/-- A value without floats that nests no deeper than may be read is read back. -/
theorem readValue_page {depth : Nat} {v : Json} (hv : v.NestsWithin depth) (hfloat : v.IsFloatFree)
    (level : Nat) {rest : List Char} (hrest : EndsNumber rest) :
    readValue depth (v.page level ++ rest) = .ok (v, rest) := by
  induction hv generalizing level rest with
  | null => exact readValue_line .null hfloat hrest
  | bool b => exact readValue_line (.bool b) hfloat hrest
  | number n => exact readValue_line (.number n) hfloat hrest
  | string s => exact readValue_line (.string s) hfloat hrest
  | @array depth items h ih =>
    cases hfloat with
    | array hfloat =>
      obtain ⟨close, hclose, hpage⟩ := exists_page_array level items
      have hitems := readItems_spread (isGap_newline (level + 1)) hclose
        (fun v hv => startsItem_page (hfloat v hv) (level + 1))
        (fun v hv rest => ih v hv (hfloat v hv) (level + 1)) rest
      rw [hpage, readValue_openBracket, hitems]
      rfl
  | @object depth members h ih =>
    cases hfloat with
    | object hfloat =>
      obtain ⟨close, hclose, hpage⟩ := exists_page_object level members
      have hvalue : ∀ e ∈ members, ∀ rest, EndsNumber rest →
          readValue depth (pageMember (level + 1) e.2 ++ rest) = .ok (e.2, rest) := by
        intro e he rest hrest
        rw [pageMember, List.cons_append, readValue_space depth (by decide)]
        exact ih e he (hfloat e he) (level + 1) hrest
      have hmembers := readMembers_spread (isGap_newline (level + 1)) hclose
        (textsRead_readMember [] hvalue) rest
      rw [List.map_map] at hmembers
      rw [hpage, readValue_openBrace]
      exact bind_eq_ok_iff.2 ⟨(members, rest), hmembers, rfl⟩

/-! ### Texts -/

variable {v : Json}

/-- A value is read from the text that it is written as, also where a line ends after it. -/
theorem ofText_line {text : List Char}
    (h : readValue maxDepth (text ++ ['\n']) = .ok (v, ['\n'])) :
    ofText (String.ofList text ++ "\n") = .ok v := by
  refine readText_eq_ok_iff.2 ⟨['\n'], ?_, rfl⟩
  rw [String.toList_append, String.toList_ofList]
  exact h

theorem ofText_compact_newline (hv : v.NestsWithin maxDepth) (hfloat : v.IsFloatFree) :
    ofText (v.compact ++ "\n") = .ok v :=
  ofText_line (readValue_line hv hfloat (endsNumber_space (by decide) []))

theorem ofText_pretty (hv : v.NestsWithin maxDepth) (hfloat : v.IsFloatFree) :
    ofText v.pretty = .ok v := by
  have hends : EndsNumber [] := nofun
  have hread := readValue_page hv hfloat 0 hends
  rw [List.append_nil] at hread
  exact readText_eq_ok_iff.2 ⟨[], by rwa [pretty, String.toList_ofList], rfl⟩

theorem ofText_pretty_newline (hv : v.NestsWithin maxDepth) (hfloat : v.IsFloatFree) :
    ofText (v.pretty ++ "\n") = .ok v :=
  ofText_line (readValue_page hv hfloat 0 (endsNumber_space (by decide) []))

end Dataflow.Json
