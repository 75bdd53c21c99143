import Dataflow.Json.Record
import Dataflow.Proofs.Json.Reader

/-! Records in JSON text, and the values that their fields hold. A record that is written as an
object is read member by member. In whatever form a record was written, what each of its fields
preserves holds of the draft that it was finished from. -/
namespace Dataflow.Json

open Text (skipSpace_cons)

/-! ### Values of fields -/

theorem readAlternative_eq_ok_iff {name : String} {decode : Json → Option α} {depth : Nat}
    {cs rest : List Char} {a : α} :
    readAlternative name decode depth cs = .ok (a, rest) ↔
      ∃ v, readValue depth cs = .ok (v, rest) ∧ decode v = some a := by
  rw [readAlternative, bind_eq_ok_iff]
  constructor
  · rintro ⟨⟨v, _⟩, hread, h⟩
    cases hdecode : decode v with
    | none => simp [hdecode] at h
    | some b =>
      simp only [hdecode] at h
      cases h
      exact ⟨v, hread, hdecode⟩
  · rintro ⟨v, hread, hdecode⟩
    refine ⟨(v, rest), hread, ?_⟩
    simp only [hdecode]
    rfl

theorem readAlternative_line (name : String) {decode : Json → Option α} {depth : Nat} {v : Json}
    {a : α} (hv : v.NestsWithin depth) (hfloat : v.IsFloatFree) (h : decode v = some a)
    {rest : List Char} (hrest : EndsNumber rest) :
    readAlternative name decode depth (v.line ++ rest) = .ok (a, rest) :=
  readAlternative_eq_ok_iff.2 ⟨v, readValue_line hv hfloat hrest, h⟩

theorem expectString_line (s : String) (rest : List Char) :
    expectString ((Json.string s).line ++ rest) = .ok (s, rest) := by
  rw [line, quoted_append]
  exact readString_escape s rest

theorem expectBool_line (b : Bool) (rest : List Char) :
    expectBool ((Json.bool b).line ++ rest) = .ok (b, rest) := by
  cases b <;> rw [line] <;> rfl

theorem expectList_line {item : Nat → Reader α} {encode : α → Json} {depth : Nat} {as : List α}
    (hfloat : ∀ a ∈ as, (encode a).IsFloatFree)
    (h : ∀ a ∈ as, ∀ rest, EndsNumber rest → item depth ((encode a).line ++ rest) = .ok (a, rest))
    (rest : List Char) :
    expectList item (depth + 1) ((array (as.map encode)).line ++ rest) = .ok (as, rest) := by
  rw [line_array_append]
  exact readItems_lineItems hfloat h rest

theorem readOption_null (reader : Reader α) (rest : List Char) :
    readOption reader (Json.null.line ++ rest) = .ok (none, rest) := by
  rw [line]
  rfl

/-- What starts otherwise than `null` is read as it is. -/
theorem readOption_eq_map {reader : Reader α} {c : Char} (hspace : ¬ Text.isSpace c)
    (hnull : c ≠ 'n') (cs : List Char) :
    readOption reader (c :: cs) = (reader (c :: cs)).map fun p => (some p.1, p.2) := by
  unfold readOption
  rw [skipSpace_cons hspace]
  split
  · rename_i heq
    exact absurd (List.cons.inj heq).1 hnull
  · cases reader (c :: cs) <;> rfl

theorem readOption_cons {reader : Reader α} {c : Char} (hspace : ¬ Text.isSpace c) (hnull : c ≠ 'n')
    {cs rest : List Char} {a : α} (h : reader (c :: cs) = .ok (a, rest)) :
    readOption reader (c :: cs) = .ok (some a, rest) := by
  rw [readOption_eq_map hspace hnull, h]
  rfl

theorem exists_read_of_readOption {reader : Reader α} {cs rest : List Char} {a : α}
    (h : readOption reader cs = .ok (some a, rest)) : ∃ cs rest, reader cs = .ok (a, rest) := by
  unfold readOption at h
  split at h
  · obtain ⟨_, -, h⟩ := bind_eq_ok_iff.1 h
    cases h
  · obtain ⟨⟨b, _⟩, hread, h⟩ := bind_eq_ok_iff.1 h
    cases h
    exact ⟨_, _, hread⟩

/-! ### Values of another type -/

section

variable {v : Json} {rest : List Char}

/-- A value that opens no container is read before it is refused. -/
theorem mismatch_scalar (expected : String) (hv : v.NestsWithin 0) (hfloat : v.IsFloatFree)
    (hrest : EndsNumber rest) :
    mismatch expected (v.line ++ rest) = .here (.wrongType v.found expected) rest := by
  have hread := readValue_line hv hfloat hrest
  obtain ⟨c, cs, hline, hopens⟩ := exists_line_eq_cons hfloat
  rw [hline, List.cons_append] at hread ⊢
  unfold mismatch
  rw [skipSpace_cons hopens.not_isSpace]
  split
  · rename_i heq
    cases heq
    cases hopens with
    | digit n h => exact absurd h (by decide)
    | array => cases hv
  · rename_i heq
    cases heq
    cases hopens with
    | digit n h => exact absurd h (by decide)
    | object => cases hv
  · rw [hread]

theorem reason_mismatch_line (expected : String) (hfloat : v.IsFloatFree)
    (hrest : EndsNumber rest) :
    (mismatch expected (v.line ++ rest)).reason = .wrongType v.found expected := by
  cases hfloat with
  | null => rw [mismatch_scalar expected .null .null hrest, Fault.here]
  | bool b => rw [mismatch_scalar expected (.bool b) (.bool b) hrest, Fault.here]
  | integer n => rw [mismatch_scalar expected (.number _) (.integer n) hrest, Fault.here]
  | string s => rw [mismatch_scalar expected (.string s) (.string s) hrest, Fault.here]
  | array =>
    rw [line_array_append]
    rfl
  | object =>
    rw [line_object_append]
    rfl

theorem expectString_refused (h : ∀ s, v ≠ .string s) (hfloat : v.IsFloatFree)
    (hrest : EndsNumber rest) :
    FailsFor (.wrongType v.found "a string") (expectString (v.line ++ rest)) := by
  have hreason := reason_mismatch_line "a string" hfloat hrest
  obtain ⟨c, cs, hline, hopens⟩ := exists_line_eq_cons hfloat
  rw [hline, List.cons_append] at hreason ⊢
  unfold expectString
  rw [skipSpace_cons hopens.not_isSpace]
  split
  · rename_i heq
    cases heq
    cases hopens with
    | digit n h => exact absurd h (by decide)
    | string s => exact absurd rfl (h s)
  · exact ⟨_, rfl, hreason⟩

theorem readOption_refused {reader : Reader α} {reason : Reason} (h : v ≠ .null)
    (hfloat : v.IsFloatFree) (hreader : FailsFor reason (reader (v.line ++ rest))) :
    FailsFor reason (readOption reader (v.line ++ rest)) := by
  obtain ⟨c, cs, hline, hopens⟩ := exists_line_eq_cons hfloat
  have hnull : c ≠ 'n' := by
    rintro rfl
    cases hopens with
    | null => exact h rfl
    | digit n h => exact absurd h (by decide)
  rw [hline, List.cons_append] at hreader ⊢
  rw [readOption_eq_map hopens.not_isSpace hnull]
  exact hreader.map _

end

/-! ### Records -/

theorem exists_of_read_reading {name : String} {get : σ → Option α} {put : σ → α → σ}
    {reader : Nat → Reader α} {depth : Nat} {s s' : σ} {cs rest : List Char}
    (h : (Field.reading name get put reader).read depth s cs = .ok (s', rest)) :
    ∃ a, reader depth cs = .ok (a, rest) ∧ s' = put s a := by
  obtain ⟨⟨a, _⟩, ha, h⟩ := bind_eq_ok_iff.1 h
  cases h
  exact ⟨a, ha, rfl⟩

namespace Record

/-- A member of a record is read with the reader of its field. -/
theorem readMember_colon {r : Record σ β} {name fieldName : String} {get : σ → Option α}
    {put : σ → α → σ} {reader : Nat → Reader α} {s : σ} {depth : Nat} {cs rest : List Char} {a : α}
    (hfind : r.find? name = some (.reading fieldName get put reader)) (hset : get s = none)
    (h : reader depth cs = .ok (a, rest)) :
    r.readMember depth s name (':' :: cs) = .ok (put s a, rest) := by
  simp only [readMember, hfind, Field.reading, hset, readColon_colon, h, ok_bind,
    Option.isSome_none]
  rfl

theorem read_of_bracket {r : Record σ α} {depth : Nat} {cs rest : List Char}
    (h : Text.skipSpace cs = '[' :: rest) : r.read (depth + 1) cs = r.readList depth rest := by
  unfold read
  rw [h]
  rfl

theorem read_of_brace {r : Record σ α} {depth : Nat} {cs rest : List Char}
    (h : Text.skipSpace cs = '{' :: rest) : r.read (depth + 1) cs = r.readObject depth rest := by
  unfold read
  rw [h]
  rfl

/-- A record that is written as an object is what its members make of the blank draft. -/
theorem read_line {r : Record σ α} {depth : Nat} {members : List (String × Json)} {s : σ} {a : α}
    (h : MembersRead (r.readMember depth) r.blank members s) (hfinish : r.finish s = .ok a)
    (rest : List Char) : r.read (depth + 1) ((object members).line ++ rest) = .ok (a, rest) := by
  have hobject : r.readObject depth (lineMembers members ++ '}' :: rest) = .ok (a, rest) := by
    rw [readObject, readMembers_lineMembers h, ok_bind]
    simp only [hfinish]
    rfl
  rw [line_object_append]
  exact hobject

/-! ### Two records read together -/

/-- Fields of one name that read alike, each into its own draft. -/
structure FieldsAgree (r : σ → τ → Prop) (depth : Nat) (f : Field σ) (f' : Field τ) : Prop where
  name_eq : f.name = f'.name
  isSet_eq : ∀ s t, r s t → f.isSet s = f'.isSet t
  read : Parallel r (f.read depth) (f'.read depth)

theorem fieldsAgree_reading {r : σ → τ → Prop} {q : α → β → Prop} {depth : Nat} {name : String}
    {get : σ → Option α} {put : σ → α → σ} {reader : Nat → Reader α} {get' : τ → Option β}
    {put' : τ → β → τ} {reader' : Nat → Reader β}
    (hget : ∀ s t, r s t → (get s).isSome = (get' t).isSome)
    (hput : ∀ s t a b, r s t → q a b → r (put s a) (put' t b))
    (hread : ∀ cs a rest, reader depth cs = .ok (a, rest) →
      ∃ b, reader' depth cs = .ok (b, rest) ∧ q a b) :
    FieldsAgree r depth (.reading name get put reader) (.reading name get' put' reader') := by
  refine ⟨rfl, hget, fun s t cs s' rest hst h => ?_⟩
  obtain ⟨a, ha, rfl⟩ := exists_of_read_reading h
  obtain ⟨b, hb, hab⟩ := hread cs a rest ha
  exact ⟨put' t b, bind_eq_ok_iff.2 ⟨(b, rest), hb, rfl⟩, hput s t a b hst hab⟩

section

variable {r : σ → τ → Prop} {depth : Nat} {fields : List (Field σ)} {fields' : List (Field τ)}

theorem rel_find? (h : List.Forall₂ (FieldsAgree r depth) fields fields') (name : String) :
    Option.Rel (FieldsAgree r depth) (fields.find? (·.name = name))
      (fields'.find? (·.name = name)) := by
  induction h with
  | nil => exact .none
  | @cons f f' fields fields' hf _ ih =>
    rw [List.find?_cons, List.find?_cons, hf.name_eq]
    split
    · exact .some hf
    · exact ih

theorem exists_readFields (h : List.Forall₂ (FieldsAgree r depth) fields fields') {count n : Nat}
    {s s' : σ} {t : τ} {cs rest : List Char} (hst : r s t)
    (hread : readFields depth fields count s cs = .ok ((s', n), rest)) :
    ∃ t', readFields depth fields' count t cs = .ok ((t', n), rest) ∧ r s' t' := by
  induction h generalizing count s t cs with
  | nil =>
    obtain ⟨_, hend, hread⟩ := bind_eq_ok_iff.1 hread
    cases hread
    exact ⟨t, by rw [readFields, hend]; rfl, hst⟩
  | @cons f f' fields fields' hf _ ih =>
    rw [readFields] at hread ⊢
    obtain ⟨turn, hturn, hread⟩ := bind_eq_ok_iff.1 hread
    cases turn with
    | done rest =>
      cases hread
      exact ⟨t, by rw [hturn]; rfl, hst⟩
    | more rest =>
      obtain ⟨⟨s, _⟩, hfield, hread⟩ := bind_eq_ok_iff.1 hread
      obtain ⟨t, hfield', hst⟩ := hf.read hst hfield
      obtain ⟨t', hread', hst'⟩ := ih hst hread
      exact ⟨t', by simp only [hturn, hfield', hread', ok_bind], hst'⟩

variable {record : Record σ α} {record' : Record τ β}

theorem parallel_readMember
    (h : List.Forall₂ (FieldsAgree r depth) record.fields record'.fields) (name : String) :
    Parallel r (fun s => record.readMember depth s name)
      fun t => record'.readMember depth t name := by
  intro s t cs s' rest hst hread
  replace hread : record.readMember depth s name cs = .ok (s', rest) := hread
  have hfind : Option.Rel (FieldsAgree r depth) (record.find? name) (record'.find? name) :=
    rel_find? h name
  dsimp only
  unfold readMember at hread ⊢
  cases hf : record.find? name with
  | none =>
    simp only [hf] at hread hfind
    generalize record'.find? name = found at hfind
    cases hfind
    obtain ⟨_, hcolon, hread⟩ := bind_eq_ok_iff.1 hread
    obtain ⟨_, hskip, hread⟩ := bind_eq_ok_iff.1 hread
    cases hread
    exact ⟨t, by simp only [hcolon, hskip, ok_bind]; rfl, hst⟩
  | some f =>
    simp only [hf] at hread hfind
    generalize record'.find? name = found at hfind
    cases hfind with
    | @some _ f' hff' =>
      dsimp only
      rw [← hff'.isSet_eq s t hst]
      split at hread
      · cases hread
      · rename_i hset
        obtain ⟨_, hcolon, hread⟩ := bind_eq_ok_iff.1 hread
        obtain ⟨t', hread', hst'⟩ := hff'.read hst hread
        exact ⟨t', by rw [if_neg hset, hcolon, ok_bind, hread'], hst'⟩

/-- What one record is read from, the other one is read from too unless its draft cannot be
finished. The two drafts go together. -/
theorem exists_drafts_of_read (hblank : r record.blank record'.blank)
    (h : List.Forall₂ (FieldsAgree r depth) record.fields record'.fields) {cs rest : List Char}
    {a : α} (hread : record.read (depth + 1) cs = .ok (a, rest)) :
    ∃ s t, r s t ∧ record.finish s = .ok a ∧
      ∀ b, record'.finish t = .ok b → record'.read (depth + 1) cs = .ok (b, rest) := by
  unfold read at hread
  split at hread
  · cases hread
  · cases hread
  · -- the list of the fields
    rename_i depth' list heq hdepth
    cases hdepth
    obtain ⟨⟨⟨s, n⟩, _⟩, hfields, hread⟩ := bind_eq_ok_iff.1 hread
    obtain ⟨t, hfields', hst⟩ := exists_readFields h hblank (mapError_eq_ok_iff.1 hfields)
    cases hfinish : record.finish s with
    | error name => simp [hfinish] at hread
    | ok b =>
      simp only [hfinish] at hread
      cases hread
      refine ⟨s, t, hst, hfinish, fun b hb => ?_⟩
      rw [read_of_bracket heq]
      refine bind_eq_ok_iff.2 ⟨((t, n), rest), mapError_eq_ok_iff.2 hfields', ?_⟩
      simp only [hb]
      rfl
  · -- the object with the fields as members
    rename_i members heq
    cases heq
    obtain ⟨⟨s, _⟩, hmembers, hread⟩ := bind_eq_ok_iff.1 hread
    obtain ⟨t, hmembers', hst⟩ := parallel_readMembers (parallel_readMember h) hblank hmembers
    cases hfinish : record.finish s with
    | error name => simp [hfinish] at hread
    | ok b =>
      simp only [hfinish] at hread
      cases hread
      refine ⟨s, t, hst, hfinish, fun b hb => ?_⟩
      rw [read_of_brace ‹_›]
      refine bind_eq_ok_iff.2 ⟨(t, rest), hmembers', ?_⟩
      simp only [hb]
      rfl
  · cases hread

end

/-- A record comes from a draft that has what each of its fields preserves. -/
theorem exists_draft_of_read {r : Record σ α} {depth : Nat} {p : σ → Prop} (hblank : p r.blank)
    (hfield : ∀ field ∈ r.fields, Keeps p (field.read depth)) {cs rest : List Char} {a : α}
    (h : r.read (depth + 1) cs = .ok (a, rest)) : ∃ s, p s ∧ r.finish s = .ok a := by
  have hfields : List.Forall₂ (FieldsAgree (fun s t => s = t ∧ p s) depth) r.fields r.fields := by
    refine List.forall₂_same.2 fun field hmem => ⟨rfl, ?_, keeps_iff_parallel.1 (hfield field hmem)⟩
    rintro s _ ⟨rfl, -⟩
    rfl
  obtain ⟨s, _, ⟨-, hs⟩, hfinish, -⟩ := exists_drafts_of_read ⟨rfl, hblank⟩ hfields h
  exact ⟨s, hs, hfinish⟩

end Record

end Dataflow.Json
