import Dataflow.Proofs.Node

/-! Nodes that are written and read again. The identifier and the attributes share one object, so an
attribute that is named like the identifier is taken for it: next to an identifier it comes second
and is refused, without one it has to be a string or null and is no attribute any more. Nodes
without such an attribute are the same again, and no other nodes are ever read. -/
namespace Dataflow

/-! ### Entries -/

theorem lookup_filter_ne (name : String) (entries : List (String × α)) (n : String) :
    (entries.filter (·.1 ≠ name)).lookup n = if n = name then none else entries.lookup n := by
  induction entries with
  | nil => simp
  | cons e rest ih =>
    obtain ⟨m, v⟩ := e
    by_cases hm : m = name
    · subst hm
      rw [List.filter_cons_of_neg (by simp), ih, lookup_cons_eq_ite]
      split <;> rfl
    · rw [List.filter_cons_of_pos (by simpa using hm), lookup_cons_eq_ite, lookup_cons_eq_ite, ih]
      by_cases hn : n = m
      · subst hn
        simp [hm]
      · simp [hn]

namespace SortedMap

/-- The map without what it has under this name. -/
def erase (m : SortedMap α) (name : String) : SortedMap α :=
  ⟨m.entries.filter (·.1 ≠ name), m.ascending.filter _⟩

@[simp] theorem entries_erase (m : SortedMap α) (name : String) :
    (m.erase name).entries = m.entries.filter (·.1 ≠ name) := rfl

theorem find?_erase (m : SortedMap α) (name n : String) :
    (m.erase name).find? n = if n = name then none else m.find? n :=
  lookup_filter_ne name m.entries n

theorem find?_eq_none_iff {m : SortedMap α} {name : String} :
    m.find? name = none ↔ ∀ e ∈ m.entries, e.1 ≠ name := by
  rw [find?, List.lookup_eq_none_iff]
  exact forall₂_congr fun e _ => bne_iff_ne.trans ne_comm

/-- What has a name stands between entries that do not have it. -/
theorem exists_entries_eq {m : SortedMap α} {name : String} {v : α} (h : m.find? name = some v) :
    ∃ before later, m.entries = before ++ (name, v) :: later ∧
      (m.erase name).entries = before ++ later ∧
      (∀ e ∈ before, e.1 ≠ name) ∧ ∀ e ∈ later, e.1 ≠ name := by
  obtain ⟨before, later, hsplit, hbefore⟩ := List.lookup_eq_some_iff.1 h
  have hlater : ∀ e ∈ later, e.1 ≠ name := by
    have hascending := m.ascending
    rw [Ascending, hsplit] at hascending
    obtain ⟨-, hrest, -⟩ := List.pairwise_append.1 hascending
    intro e he heq
    have hlt := (List.pairwise_cons.1 hrest).1 e he
    rw [heq] at hlt
    exact String.lt_irrefl name hlt
  have hbefore : ∀ e ∈ before, e.1 ≠ name := fun e he => (bne_iff_ne.1 (hbefore e he)).symm
  have hkept : before.filter (·.1 ≠ name) = before :=
    List.filter_eq_self.2 fun e he => decide_eq_true (hbefore e he)
  have hkept' : later.filter (·.1 ≠ name) = later :=
    List.filter_eq_self.2 fun e he => decide_eq_true (hlater e he)
  refine ⟨before, later, hsplit, ?_, hbefore, hlater⟩
  rw [entries_erase, hsplit, List.filter_append, List.filter_cons_of_neg (by simp), hkept, hkept']

end SortedMap

namespace Node

open Json (MembersRead FailsFor EndsNumber)

/-! ### Identifiers -/

/-- The identifier that this value stands for where one is read. -/
def identifier? : Json → Option (Option String)
  | .string s => some (some s)
  | .null => some none
  | _ => none

section

variable {depth : Nat} {d : Draft} {v : Json} {rest : List Char}

theorem readMember_identifier (hd : d.id? = none) {id? : Option String}
    (hv : identifier? v = some id?) (rest : List Char) :
    readMember depth d "id" (':' :: (v.line ++ rest)) = .ok ({ d with id? := some id? }, rest) := by
  unfold identifier? at hv
  split at hv
  · cases hv
    exact readMember_id d hd _ rest
  · cases hv
    rw [readMember_id_eq_map hd, Json.readOption_null]
    rfl
  · cases hv

theorem readMember_id_refused (hd : d.id? = none) (hv : identifier? v = none)
    (hfloat : v.IsFloatFree) (hrest : EndsNumber rest) :
    FailsFor (.wrongType v.found "a string")
      (readMember depth d "id" (':' :: (v.line ++ rest))) := by
  have hstring : ∀ s, v ≠ .string s := by
    rintro s rfl
    cases hv
  have hnull : v ≠ .null := by
    rintro rfl
    cases hv
  have hrefused := Json.expectString_refused hstring hfloat hrest
  rw [readMember_id_eq_map hd]
  exact (Json.readOption_refused hnull hfloat hrefused).map _

theorem readMember_id_repeated (hd : d.id?.isSome) (cs : List Char) :
    FailsFor (.repeatedField "id") (readMember depth d "id" cs) := by
  refine ⟨.floating (.repeatedField "id") cs, ?_, rfl⟩
  simp only [readMember, ↓reduceIte, hd]
  rfl

theorem read_object_refused {reason : Json.Reason} {members : List (String × Json)} {name : String}
    (h : MembersRead (readMember depth) {} members d)
    (hmember : ∀ rest, EndsNumber rest →
      FailsFor reason (readMember depth d name (':' :: (v.line ++ rest))))
    (later : List (String × Json)) (rest : List Char) : FailsFor reason
      (read (depth + 1) ((Json.object (members ++ (name, v) :: later)).line ++ rest)) := by
  rw [Json.line_object_append, read_openBrace]
  exact (Json.readMembers_lineMembers_refused h hmember later rest).bind _

end

/-! ### What is read again -/

/-- What a node becomes when it is written and read again, or the reason why it is refused. -/
def reread (n : Node) : Except Json.Reason Node :=
  match n.attributes.find? "id" with
  | none => .ok n
  | some v =>
    if n.id?.isSome then .error (.repeatedField "id")
    else
      match identifier? v.json with
      | some id? => .ok ⟨id?, n.attributes.erase "id"⟩
      | none => .error (.wrongType v.json.found "a string")

/-- The attribute that is named like the identifier stands between members that are read. -/
theorem exists_membersRead {depth : Nat} {n : Node} {v : Value}
    (h : n.attributes.find? "id" = some v)
    (hnests : ∀ e ∈ n.attributes.entries, e.2.json.NestsWithin depth) (hfloat : n.IsFloatFree) :
    ∃ members before later, n.toJson = .object (members ++ ("id", v.json) :: later) ∧
      v.json.IsFloatFree ∧
      MembersRead (readMember depth) {} members { id? := n.id?.map some, attributes := before } ∧
      ∀ d : Draft, d.attributes = before → MembersRead (readMember depth) d later
        { d with attributes := (n.attributes.erase "id").entries } := by
  obtain ⟨before, later, hsplit, herase, hbefore, hlater⟩ := SortedMap.exists_entries_eq h
  have hmem : ∀ e, e ∈ n.attributes.entries ↔ e ∈ before ∨ e = ("id", v) ∨ e ∈ later := by
    simp [hsplit]
  have hid := (membersRead_id depth n.id?).append (membersRead_attributes _ hbefore
    (fun e he => hnests e ((hmem e).2 (.inl he))) fun e he => hfloat e ((hmem e).2 (.inl he)))
  rw [← List.map_append] at hid
  refine ⟨_, before, later.map fun e => (e.1, e.2.json), ?_,
    hfloat _ ((hmem _).2 (.inr (.inl rfl))), hid, fun d hd => ?_⟩
  · rw [toJson, hsplit]
    simp
  · rw [herase, ← hd]
    exact membersRead_attributes d hlater (fun e he => hnests e ((hmem e).2 (.inr (.inr he))))
      fun e he => hfloat e ((hmem e).2 (.inr (.inr he)))

theorem readText_compact_eq_reread {depth : Nat} {n : Node}
    (hnests : n.toJson.NestsWithin (depth + 1)) (hfloat : n.IsFloatFree) :
    (Json.readText (read (depth + 1)) n.toJson.compact).mapError Json.Error.reason = n.reread := by
  have hdepth := nestsWithin_toJson_iff.1 hnests
  rw [reread]
  cases hname : n.attributes.find? "id" with
  | none =>
    have hreadable : n.IsReadable depth := ⟨SortedMap.find?_eq_none_iff.1 hname, hdepth⟩
    rw [Json.readText_compact (read_line hreadable hfloat [])]
    rfl
  | some v =>
    obtain ⟨members, before, later, hjson, hv, hmembers, hlater⟩ :=
      exists_membersRead hname hdepth hfloat
    rw [hjson]
    dsimp only
    split
    · rename_i hid
      have hset : (n.id?.map some).isSome := by simpa using hid
      exact Json.readText_compact_refused (read_object_refused hmembers
        (fun rest _ => readMember_id_repeated hset _) later [])
    · rename_i hid
      have hunset : n.id?.map some = none := by simpa using hid
      cases hidentifier : identifier? v.json with
      | none =>
        exact Json.readText_compact_refused (read_object_refused hmembers
          (fun rest hrest => readMember_id_refused hunset hidentifier hv hrest) later [])
      | some id? =>
        have hall : MembersRead (readMember depth) {} (members ++ ("id", v.json) :: later)
            { id? := some id?, attributes := (n.attributes.erase "id").entries } := by
          rw [MembersRead, List.map_append]
          exact hmembers.append (.cons
            (fun rest _ => readMember_identifier hunset hidentifier rest) (hlater _ rfl))
        rw [Json.readText_compact (read_object hall []), ofDraft, SortedMap.ofList_entries]
        rfl

section

variable {n : Node} (hnests : n.toJson.NestsWithin Json.maxDepth) (hfloat : n.IsFloatFree)
include hnests hfloat

theorem ofText_compact_eq_reread :
    (ofText n.toJson.compact).mapError Json.Error.reason = n.reread := by
  have hdepth : n.toJson.NestsWithin (126 + 1) := hnests
  exact readText_compact_eq_reread hdepth hfloat

theorem ofText_compact_eq_ok_iff {m : Node} :
    ofText n.toJson.compact = .ok m ↔ n.reread = .ok m := by
  rw [← ofText_compact_eq_reread hnests hfloat, mapError_eq_ok_iff]

theorem exists_ofText_compact_eq_error_iff {reason : Json.Reason} :
    (∃ e, ofText n.toJson.compact = .error e ∧ e.reason = reason) ↔ n.reread = .error reason := by
  rw [← ofText_compact_eq_reread hnests hfloat, mapError_eq_error_iff]

end

/-- What is taken for the identifier is lost as an attribute. -/
theorem reread_eq_self_iff {n : Node} : n.reread = .ok n ↔ n.attributes.find? "id" = none := by
  rw [reread]
  cases hname : n.attributes.find? "id" with
  | none => simp
  | some v =>
    have hlost (id? : Option String) : (⟨id?, n.attributes.erase "id"⟩ : Node) ≠ n := by
      intro heq
      have hsame : n.attributes.erase "id" = n.attributes := congrArg attributes heq
      have hfind := n.attributes.find?_erase "id" "id"
      rw [hsame, hname] at hfind
      simp at hfind
    simp only [reduceCtorEq, iff_false]
    split
    · nofun
    · split
      · exact fun heq => hlost _ (Except.ok.inj heq)
      · nofun

/-! ### What has been read -/

theorem isReadable_of_ofText {text : String} {n : Node} (h : ofText text = .ok n) :
    n.IsReadable 126 := by
  obtain ⟨_, hread, -⟩ := Json.readText_eq_ok_iff.1 h
  exact isReadable_of_read hread

/-! ### Main statement -/

/-- A node without floats is the same when it has been written and read again exactly if it has no
attribute named like the identifier. Such an attribute is a repeated member next to an identifier.
Without one it is lost: a string becomes the identifier, null nothing, and all else is refused. No
node that has been read has such an attribute, so if it has no floats it stays as it is. -/
theorem ofText_compact_iff_find? :
    (∀ n : Node, n.toJson.NestsWithin Json.maxDepth → n.IsFloatFree →
      (ofText n.toJson.compact = .ok n ↔ n.attributes.find? "id" = none) ∧
      ∀ v, n.attributes.find? "id" = some v →
        (∀ id, n.id? = some id → ∃ e, ofText n.toJson.compact = .error e ∧
          e.reason = .repeatedField "id") ∧
        (n.id? = none →
          ((∀ s, v.json ≠ .string s) → v.json ≠ .null →
            ∃ e, ofText n.toJson.compact = .error e ∧
              e.reason = .wrongType v.json.found "a string") ∧
          (∀ s, v.json = .string s →
            ofText n.toJson.compact = .ok ⟨some s, n.attributes.erase "id"⟩) ∧
          (v.json = .null →
            ofText n.toJson.compact = .ok ⟨none, n.attributes.erase "id"⟩))) ∧
    ∀ text m, ofText text = .ok m →
      m.attributes.find? "id" = none ∧ (m.IsFloatFree → ofText m.toJson.compact = .ok m) := by
  refine ⟨fun n hnests hfloat => ⟨?_, fun v hv => ?_⟩, fun text m h => ?_⟩
  · rw [ofText_compact_eq_ok_iff hnests hfloat, reread_eq_self_iff]
  · simp only [ofText_compact_eq_ok_iff hnests hfloat,
      exists_ofText_compact_eq_error_iff hnests hfloat]
    refine ⟨fun id hid => ?_, fun hid => ⟨fun hstring hnull => ?_, fun s hs => ?_, fun hnull => ?_⟩⟩
    · simp [reread, hv, hid]
    · have hnone : identifier? v.json = none := by
        unfold identifier?
        split
        · exact absurd ‹_› (hstring _)
        · exact absurd ‹_› hnull
        · rfl
      simp [reread, hv, hid, hnone]
    · simp [reread, hv, hid, hs, identifier?]
    · simp [reread, hv, hid, hnull, identifier?]
  · have hreadable := isReadable_of_ofText h
    have hname := SortedMap.find?_eq_none_iff.2 hreadable.name_ne
    refine ⟨hname, fun hfloat => ?_⟩
    have hnests : m.toJson.NestsWithin Json.maxDepth :=
      nestsWithin_toJson_iff.2 hreadable.nestsWithin
    exact (ofText_compact_eq_ok_iff hnests hfloat).2 (reread_eq_self_iff.2 hname)

/-- A node with this identifier and an attribute that is named like one. -/
def disguised (id? : Option String) : Node :=
  ({ id? := id? : Node }.set "id" (.ofString "reader")).set "rows" (.ofInt64 4)

theorem entries_disguised (id? : Option String) : (disguised id?).attributes.entries =
    [("id", .ofString "reader"), ("rows", .ofInt64 4)] := rfl

theorem nestsWithin_disguised (id? : Option String) :
    (disguised id?).toJson.NestsWithin Json.maxDepth := by
  refine nestsWithin_toJson_iff.2 fun e he => ?_
  rw [entries_disguised, List.mem_pair] at he
  obtain rfl | rfl := he
  · exact .string "reader"
  · exact .number _

theorem isFloatFree_disguised (id? : Option String) : (disguised id?).IsFloatFree := by
  intro e he
  rw [entries_disguised, List.mem_pair] at he
  obtain rfl | rfl := he
  · exact .string "reader"
  · exact .integer _

/-- The attribute becomes the identifier, and from then on the node stays. Next to an identifier it
is refused. -/
theorem ofText_compact_iff_find?_disguised :
    ofText (disguised none).toJson.compact =
      .ok ((withId "reader").set "rows" (.ofInt64 4)) ∧
    ofText ((withId "reader").set "rows" (.ofInt64 4)).toJson.compact =
      .ok ((withId "reader").set "rows" (.ofInt64 4)) ∧
    ∃ e, ofText (disguised (some "writer")).toJson.compact = .error e ∧
      e.reason = .repeatedField "id" := by
  obtain ⟨hwritten, hread⟩ := ofText_compact_iff_find?
  obtain ⟨-, hnone⟩ := hwritten _ (nestsWithin_disguised none) (isFloatFree_disguised none)
  obtain ⟨-, hsome⟩ := hwritten _ (nestsWithin_disguised (some "writer"))
    (isFloatFree_disguised (some "writer"))
  have hfirst : ofText (disguised none).toJson.compact =
      .ok ((withId "reader").set "rows" (.ofInt64 4)) :=
    ((hnone (.ofString "reader") rfl).2 rfl).2.1 "reader" rfl
  refine ⟨hfirst, (hread _ _ hfirst).2 fun e he => ?_,
    (hsome (.ofString "reader") rfl).1 "writer" rfl⟩
  cases List.mem_singleton.1 he
  exact .integer _

end Node

end Dataflow
