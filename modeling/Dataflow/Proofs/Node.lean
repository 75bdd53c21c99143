import Dataflow.Node
import Dataflow.Proofs.Json.Record

/-! Nodes in JSON. The identifier is written as a member among the attributes, which is why no
attribute that has been read is named like it. -/
namespace Dataflow

theorem SortedMap.ofList_entries (m : SortedMap α) : ofList m.entries = m := by
  cases m with
  | mk entries h => simp only [ofList, sortEntries_of_ascending h]

namespace Node

open Json (MembersRead)

/-! ### Bounds on attributes -/

/-- The attributes of a node that has been read at some depth. -/
structure IsReadable (depth : Nat) (n : Node) : Prop where
  name_ne : ∀ e ∈ n.attributes.entries, e.1 ≠ "id"
  nestsWithin : ∀ e ∈ n.attributes.entries, e.2.json.NestsWithin depth

def IsFloatFree (n : Node) : Prop := ∀ e ∈ n.attributes.entries, e.2.json.IsFloatFree

/-- An identifier opens no container. -/
theorem nestsWithin_toJson_iff {depth : Nat} {n : Node} :
    n.toJson.NestsWithin (depth + 1) ↔ ∀ e ∈ n.attributes.entries, e.2.json.NestsWithin depth := by
  rw [toJson, Json.nestsWithin_object_iff, List.forall_mem_append, List.forall_mem_map]
  refine and_iff_right fun e he => ?_
  obtain ⟨id, -, rfl⟩ := Option.map_eq_some_iff.1 (Option.mem_toList.1 he)
  exact .string id

/-! ### What has been read -/

/-- What has been read of a node so far. -/
def Draft.IsReadable (depth : Nat) (d : Draft) : Prop :=
  ∀ e ∈ d.attributes, e.1 ≠ "id" ∧ e.2.json.NestsWithin depth

theorem keeps_readMember (depth : Nat) (name : String) :
    Json.Keeps (Draft.IsReadable depth) fun d => readMember depth d name := by
  intro d cs d' rest hd hread
  replace hread : readMember depth d name cs = .ok (d', rest) := hread
  unfold readMember at hread
  split at hread
  · split at hread
    · cases hread
    · obtain ⟨_, -, hread⟩ := bind_eq_ok_iff.1 hread
      obtain ⟨⟨_, _⟩, -, hread⟩ := bind_eq_ok_iff.1 hread
      cases hread
      exact hd
  · rename_i hname
    obtain ⟨_, -, hread⟩ := bind_eq_ok_iff.1 hread
    obtain ⟨⟨v, _⟩, hv, hread⟩ := bind_eq_ok_iff.1 hread
    cases hread
    intro e he
    rcases List.mem_append.1 he with he | he
    · exact hd e he
    · rw [List.mem_singleton.1 he]
      exact ⟨hname, Value.nestsWithin_of_read hv⟩

theorem isReadable_of_read {depth : Nat} {cs rest : List Char} {n : Node}
    (h : read (depth + 1) cs = .ok (n, rest)) : n.IsReadable depth := by
  unfold read at h
  split at h
  · cases h
  · rename_i heq
    cases heq
    obtain ⟨⟨d, _⟩, hread, h⟩ := bind_eq_ok_iff.1 h
    cases h
    have hblank : Draft.IsReadable depth {} := fun _ he => absurd he List.not_mem_nil
    have hd : d.IsReadable depth := Json.keeps_readMembers (keeps_readMember depth) hblank hread
    exact ⟨fun e he => (hd e (mem_sortEntries he)).1, fun e he => (hd e (mem_sortEntries he)).2⟩
  · cases h

/-! ### Reading back -/

theorem read_openBrace (depth : Nat) (cs : List Char) :
    read (depth + 1) ('{' :: cs) = do
      let (d, rest) ← Json.readMembers (readMember depth) {} cs
      return (ofDraft d, rest) := rfl

theorem readMember_id_eq_map {depth : Nat} {d : Draft} (hd : d.id? = none) (cs : List Char) :
    readMember depth d "id" (':' :: cs) =
      (Json.readOption Json.expectString cs).map fun p => ({ d with id? := some p.1 }, p.2) := by
  simp only [readMember, ↓reduceIte, hd, Option.isSome_none, Bool.false_eq_true,
    Json.readColon_colon, ok_bind]
  cases Json.readOption Json.expectString cs <;> rfl

theorem readMember_id {depth : Nat} (d : Draft) (hd : d.id? = none) (id : String)
    (rest : List Char) :
    readMember depth d "id" (':' :: ((Json.string id).line ++ rest)) =
      .ok ({ d with id? := some (some id) }, rest) := by
  have hid : Json.readOption Json.expectString ((Json.string id).line ++ rest) =
      .ok (some id, rest) := by
    rw [Json.line, Json.quoted_append]
    exact Json.readOption_cons (by decide) (by decide) (Json.readString_escape id rest)
  rw [readMember_id_eq_map hd, hid]
  rfl

theorem membersRead_attributes {depth : Nat} (d : Draft) {entries : List (String × Value)}
    (hname : ∀ e ∈ entries, e.1 ≠ "id") (hnests : ∀ e ∈ entries, e.2.json.NestsWithin depth)
    (hfloat : ∀ e ∈ entries, e.2.json.IsFloatFree) :
    MembersRead (readMember depth) d (entries.map fun e => (e.1, e.2.json))
      { d with attributes := d.attributes ++ entries } := by
  induction entries generalizing d with
  | nil =>
    rw [List.append_nil]
    exact .nil d
  | cons e entries ih =>
    obtain ⟨name, v⟩ := e
    have hentries := ih { d with attributes := d.attributes ++ [(name, v)] }
      (fun e he => hname e (List.mem_cons_of_mem _ he))
      (fun e he => hnests e (List.mem_cons_of_mem _ he))
      (fun e he => hfloat e (List.mem_cons_of_mem _ he))
    rw [List.append_assoc, List.singleton_append] at hentries
    refine .cons (fun rest hrest => ?_) hentries
    have hv := Value.read_line (hnests (name, v) List.mem_cons_self)
      (hfloat (name, v) List.mem_cons_self) hrest
    simp only [readMember, if_neg (hname (name, v) List.mem_cons_self), Json.readColon_colon,
      ok_bind, hv]
    rfl

/-- A node is what its members make of the blank draft. -/
theorem read_object {depth : Nat} {members : List (String × Json)} {d : Draft}
    (h : MembersRead (readMember depth) {} members d) (rest : List Char) :
    read (depth + 1) ((Json.object members).line ++ rest) = .ok (ofDraft d, rest) := by
  rw [Json.line_object_append, read_openBrace, Json.readMembers_lineMembers h, ok_bind]
  rfl

/-- The members with which a node is written start with its identifier. -/
theorem membersRead_id (depth : Nat) (id? : Option String) :
    MembersRead (readMember depth) {} (id?.map fun id => ("id", Json.string id)).toList
      { id? := id?.map some } := by
  cases id? with
  | none => exact .nil _
  | some id => exact .cons (fun rest _ => readMember_id {} rfl id rest) (.nil _)

theorem read_line {depth : Nat} {n : Node} (h : n.IsReadable depth) (hfloat : n.IsFloatFree)
    (rest : List Char) : read (depth + 1) (n.toJson.line ++ rest) = .ok (n, rest) := by
  obtain ⟨id?, attributes⟩ := n
  have hmembers := (membersRead_id depth id?).append
    (membersRead_attributes { id? := id?.map some } h.name_ne h.nestsWithin hfloat)
  have hnode : ofDraft { id? := id?.map some, attributes := attributes.entries } =
      ⟨id?, attributes⟩ := by
    rw [ofDraft, SortedMap.ofList_entries]
    cases id? <;> rfl
  rw [← List.map_append] at hmembers
  rw [toJson, read_object hmembers]
  simp only [List.nil_append, hnode]

end Node

end Dataflow
