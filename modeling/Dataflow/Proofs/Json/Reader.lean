import Dataflow.Json.Reader
import Dataflow.Proofs.Json.Container

/-! Values in JSON text. A value without floats is read back as it was if it nests no deeper than
may be read, and what has been read never does. -/
namespace Dataflow.Json

open Text (skipSpace skipSpace_cons)

/-! ### One value -/

theorem readValue_null (depth : Nat) (rest : List Char) :
    readValue depth ('n' :: 'u' :: 'l' :: 'l' :: rest) = .ok (.null, rest) := by
  rw [readValue]
  rfl

theorem readValue_bool (depth : Nat) (b : Bool) (rest : List Char) :
    readValue depth ((Json.bool b).line ++ rest) = .ok (.bool b, rest) := by
  cases b <;> rw [readValue, line] <;> rfl

theorem readValue_quote (depth : Nat) (cs : List Char) :
    readValue depth ('"' :: cs) = do
      let (s, rest) ← readString cs
      return (.string s, rest) := by
  rw [readValue]
  rfl

theorem readValue_minus (depth : Nat) (cs : List Char) :
    readValue depth ('-' :: cs) = do
      let (n, rest) ← readNumber true cs
      return (.number n, rest) := by
  rw [readValue]
  rfl

theorem readValue_digit (depth : Nat) {c : Char} (h : c.isDigit) (cs : List Char) :
    readValue depth (c :: cs) = do
      let (n, rest) ← readNumber false (c :: cs)
      return (.number n, rest) := by
  unfold readValue
  rw [skipSpace_cons (not_isSpace_of_isDigit h)]
  split
  all_goals rename_i heq
  all_goals cases heq
  all_goals first
    | exact absurd h (by decide)
    | rw [if_pos h]

theorem readValue_openBracket (depth : Nat) (cs : List Char) :
    readValue (depth + 1) ('[' :: cs) = do
      let (items, rest) ← readItems (readValue depth) cs
      return (.array items, rest) := by
  rw [readValue]
  rfl

theorem readValue_openBrace (depth : Nat) (cs : List Char) :
    readValue (depth + 1) ('{' :: cs) = do
      let (members, rest) ← readMembers (readMember (readValue depth)) [] cs
      return (.object members, rest) := by
  rw [readValue]
  rfl

/-! ### Reading back -/

theorem readValue_integer (depth : Nat) (n : WordInt) {rest : List Char} (h : EndsNumber rest) :
    readValue depth (decimal n.val ++ rest) = .ok (.number (.integer n), rest) := by
  have hread := readNumber_toDigits n h
  unfold decimal
  split
  · rename_i hneg
    rw [decide_eq_true hneg] at hread
    rw [List.cons_append, readValue_minus, hread]
    rfl
  · rename_i hneg
    rw [decide_eq_false hneg] at hread
    obtain ⟨c, cs, hcs, hdigit, -⟩ := exists_toDigits_eq_cons n.val.natAbs
    rw [hcs, List.cons_append] at hread ⊢
    rw [readValue_digit depth hdigit, hread]
    rfl

/-- Members are kept in the order in which they are written. -/
theorem textsRead_readMember {value : Reader Json} {text : Json → List Char}
    (kept : List (String × Json)) {members : List (String × Json)}
    (h : ∀ e ∈ members, ∀ rest, EndsNumber rest → value (text e.2 ++ rest) = .ok (e.2, rest)) :
    TextsRead (readMember value) kept (members.map fun e => (e.1, text e.2)) (kept ++ members) := by
  induction members generalizing kept with
  | nil =>
    rw [List.append_nil]
    exact .nil kept
  | cons e members ih =>
    obtain ⟨name, v⟩ := e
    have hmembers := ih (kept ++ [(name, v)]) fun d hd => h d (List.mem_cons_of_mem _ hd)
    rw [List.append_assoc, List.singleton_append] at hmembers
    refine .cons (fun rest hrest => ?_) hmembers
    rw [readMember, readColon_colon, ok_bind, h (name, v) List.mem_cons_self rest hrest]
    rfl

/-- A value without floats that nests no deeper than may be read is read back. -/
theorem readValue_line {depth : Nat} {v : Json} (hv : v.NestsWithin depth) (hfloat : v.IsFloatFree)
    {rest : List Char} (hrest : EndsNumber rest) :
    readValue depth (v.line ++ rest) = .ok (v, rest) := by
  induction hv generalizing rest with
  | null =>
    rw [line]
    exact readValue_null _ rest
  | bool b => exact readValue_bool _ b rest
  | number n =>
    cases hfloat with
    | integer n =>
      rw [line, Number.text]
      exact readValue_integer _ n hrest
  | string s =>
    rw [line, quoted_append, readValue_quote, readString_escape]
    rfl
  | @array depth items h ih =>
    cases hfloat with
    | array hfloat =>
      have hitems := readItems_spread isGap_nil isGap_nil (fun v hv => startsItem_line (hfloat v hv))
        (fun v hv rest => ih v hv (hfloat v hv)) rest
      rw [line_array_append, lineItems_eq_spread, readValue_openBracket]
      rw [List.nil_append] at hitems
      rw [hitems]
      rfl
  | @object depth members h ih =>
    cases hfloat with
    | object hfloat =>
      have hmembers := readMembers_lineMembers
        (textsRead_readMember [] fun e he rest => ih e he (hfloat e he)) rest
      rw [line_object_append, readValue_openBrace, hmembers]
      rfl

/-! ### What has been read -/

theorem nestsWithin_of_readValue {depth : Nat} {cs rest : List Char} {v : Json}
    (h : readValue depth cs = .ok (v, rest)) : v.NestsWithin depth := by
  induction depth using Nat.strongRecOn generalizing cs v rest with
  | ind depth ih =>
    unfold readValue at h
    split at h
    · cases h
    · obtain ⟨_, -, h⟩ := bind_eq_ok_iff.1 h
      cases h
      exact .null
    · obtain ⟨_, -, h⟩ := bind_eq_ok_iff.1 h
      cases h
      exact .bool true
    · obtain ⟨_, -, h⟩ := bind_eq_ok_iff.1 h
      cases h
      exact .bool false
    · obtain ⟨⟨n, _⟩, -, h⟩ := bind_eq_ok_iff.1 h
      cases h
      exact .number n
    · obtain ⟨⟨s, _⟩, -, h⟩ := bind_eq_ok_iff.1 h
      cases h
      exact .string s
    · split at h
      · cases h
      · rename_i depth
        obtain ⟨⟨items, _⟩, hitems, h⟩ := bind_eq_ok_iff.1 h
        cases h
        exact .array (readItems_forall (ih depth depth.lt_add_one) hitems)
    · split at h
      · cases h
      · rename_i depth
        obtain ⟨⟨members, _⟩, hmembers, h⟩ := bind_eq_ok_iff.1 h
        cases h
        have hvalue {cs rest : List Char} {v : Json} : readValue depth cs = .ok (v, rest) →
            v.NestsWithin depth := ih depth depth.lt_add_one
        exact .object (keeps_readMembers (keeps_readMember hvalue)
          (fun _ he => absurd he List.not_mem_nil) hmembers)
    · split at h
      · obtain ⟨⟨n, _⟩, -, h⟩ := bind_eq_ok_iff.1 h
        cases h
        exact .number n
      · cases h

/-! ### Texts -/

theorem readText_eq_ok_iff {reader : Reader α} {text : String} {a : α} :
    readText reader text = .ok a ↔
      ∃ rest, reader text.toList = .ok (a, rest) ∧ skipSpace rest = [] := by
  rw [readText, mapError_eq_ok_iff, bind_eq_ok_iff]
  constructor
  · rintro ⟨⟨b, rest⟩, hread, h⟩
    dsimp only at h
    split at h
    · rename_i hrest
      cases h
      exact ⟨rest, hread, hrest⟩
    · cases h
  · rintro ⟨rest, hread, hrest⟩
    refine ⟨(a, rest), hread, ?_⟩
    dsimp only
    rw [hrest]
    rfl

theorem readText_compact {reader : Reader α} {v : Json} {a : α}
    (h : reader (v.line ++ []) = .ok (a, [])) : readText reader v.compact = .ok a := by
  refine readText_eq_ok_iff.2 ⟨[], ?_, rfl⟩
  rwa [compact, String.toList_ofList, ← List.append_nil v.line]

theorem readText_compact_refused {reader : Reader α} {v : Json} {reason : Reason}
    (h : FailsFor reason (reader (v.line ++ []))) :
    (readText reader v.compact).mapError Error.reason = .error reason := by
  obtain ⟨fault, hfault, rfl⟩ := h
  rw [List.append_nil] at hfault
  rw [readText, compact, String.toList_ofList, hfault]
  change Except.error (fault.toError v.line).reason = _
  rw [Fault.toError]
  split <;> rfl

end Dataflow.Json

namespace Dataflow

/-! ### Canonical values -/

namespace Value

theorem ofJson_json (v : Value) : ofJson v.json = v := by
  cases v with
  | mk json h => simp only [ofJson, h]

theorem read_line {depth : Nat} {v : Value} (hv : v.json.NestsWithin depth)
    (hfloat : v.json.IsFloatFree) {rest : List Char} (hrest : Json.EndsNumber rest) :
    read depth (v.json.line ++ rest) = .ok (v, rest) := by
  rw [read, Json.readValue_line hv hfloat hrest, ok_bind]
  simp only [ofJson_json]
  rfl

theorem nestsWithin_of_read {depth : Nat} {cs rest : List Char} {v : Value}
    (h : read depth cs = .ok (v, rest)) : v.json.NestsWithin depth := by
  obtain ⟨⟨w, rest⟩, hw, h⟩ := bind_eq_ok_iff.1 h
  cases h
  exact (Json.nestsWithin_of_readValue hw).canonical

end Value

end Dataflow
