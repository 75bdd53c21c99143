/-! Maps from names to values that list their entries in increasing order of the names. -/
namespace Dataflow

/-! ### Entries in order -/

/-- Puts an entry in its place; it replaces the one with the same name. -/
def insertEntry (name : String) (value : α) : List (String × α) → List (String × α)
  | [] => [(name, value)]
  | (n, v) :: rest =>
    if name < n then (name, value) :: (n, v) :: rest
    else if name = n then (name, value) :: rest
    else (n, v) :: insertEntry name value rest

def Ascending (entries : List (String × α)) : Prop := entries.Pairwise (·.1 < ·.1)

theorem mem_insertEntry {name : String} {value : α} {entries : List (String × α)} {e : String × α}
    (h : e ∈ insertEntry name value entries) : e = (name, value) ∨ e ∈ entries := by
  induction entries with
  | nil => simp_all [insertEntry]
  | cons e' rest ih =>
    simp only [insertEntry] at h
    split at h
    · exact List.mem_cons.1 h
    · split at h
      · exact (List.mem_cons.1 h).imp_right (List.mem_cons_of_mem _)
      · rcases List.mem_cons.1 h with rfl | h
        · exact .inr List.mem_cons_self
        · exact (ih h).imp_right (List.mem_cons_of_mem _)

/-- An entry after all others goes to the end. -/
theorem insertEntry_of_lt {name : String} {value : α} {entries : List (String × α)}
    (h : ∀ e ∈ entries, e.1 < name) :
    insertEntry name value entries = entries ++ [(name, value)] := by
  induction entries with
  | nil => rfl
  | cons e rest ih =>
    have hlt := h e List.mem_cons_self
    rw [insertEntry, if_neg (String.lt_asymm hlt),
      if_neg (fun heq => String.lt_irrefl _ (heq ▸ hlt)),
      ih fun e he => h e (List.mem_cons_of_mem _ he), List.cons_append]

theorem Ascending.insertEntry {entries : List (String × α)} (h : Ascending entries) (name : String)
    (value : α) : Ascending (insertEntry name value entries) := by
  induction entries with
  | nil => exact List.pairwise_singleton _ _
  | cons e rest ih =>
    obtain ⟨n, v⟩ := e
    obtain ⟨hn, hrest⟩ := List.pairwise_cons.1 h
    simp only [Dataflow.insertEntry]
    split
    · rename_i hlt
      refine List.pairwise_cons.2 ⟨fun e he => ?_, h⟩
      rcases List.mem_cons.1 he with rfl | he
      · exact hlt
      · exact String.lt_trans hlt (hn e he)
    · split
      · rename_i _ heq
        exact List.pairwise_cons.2 ⟨fun e he => heq ▸ hn e he, hrest⟩
      · rename_i hnlt hne
        refine List.pairwise_cons.2 ⟨fun e he => ?_, ih hrest⟩
        rcases mem_insertEntry he with rfl | he
        · have hle : n ≤ name := String.not_lt.1 hnlt
          exact Decidable.byContradiction fun hge =>
            hne (String.le_antisymm (String.not_lt.1 hge) hle)
        · exact hn e he

theorem lookup_cons_eq_ite (m : String) (v : α) (rest : List (String × α)) (n : String) :
    ((m, v) :: rest).lookup n = if n = m then some v else rest.lookup n := by
  by_cases h : n = m
  · simp [h]
  · simp [List.lookup_cons, h, beq_eq_false_iff_ne.2 h]

theorem lookup_insertEntry (name : String) (value : α) (entries : List (String × α)) (n : String) :
    (insertEntry name value entries).lookup n =
      if n = name then some value else entries.lookup n := by
  induction entries with
  | nil => exact lookup_cons_eq_ite name value [] n
  | cons e rest ih =>
    obtain ⟨m, v⟩ := e
    simp only [insertEntry]
    split
    · exact lookup_cons_eq_ite name value _ n
    · split
      · rename_i _ heq
        subst heq
        simp only [lookup_cons_eq_ite]
        split <;> rfl
      · rename_i _ hne
        simp only [lookup_cons_eq_ite, ih]
        by_cases heq : n = m
        · rw [if_pos heq, if_pos heq, if_neg fun h => hne (h.symm.trans heq)]
        · rw [if_neg heq, if_neg heq]

/-! ### Sorting -/

/-- Puts entries in order. Of several with one name the last stays. -/
def sortEntries (entries : List (String × α)) : List (String × α) :=
  entries.foldl (fun sorted e => insertEntry e.1 e.2 sorted) []

theorem mem_sortEntries {entries : List (String × α)} {e : String × α}
    (h : e ∈ sortEntries entries) : e ∈ entries := by
  suffices hs : ∀ sorted : List (String × α),
      e ∈ entries.foldl (fun sorted e => insertEntry e.1 e.2 sorted) sorted →
        e ∈ sorted ∨ e ∈ entries from (hs [] h).resolve_left List.not_mem_nil
  clear h
  induction entries with
  | nil => exact fun _ h => .inl h
  | cons d rest ih =>
    intro sorted h
    rcases ih _ h with h | h
    · rcases mem_insertEntry h with rfl | h
      · exact .inr List.mem_cons_self
      · exact .inl h
    · exact .inr (List.mem_cons_of_mem _ h)

theorem ascending_sortEntries (entries : List (String × α)) : Ascending (sortEntries entries) := by
  suffices h : ∀ sorted : List (String × α), Ascending sorted →
      Ascending (entries.foldl (fun sorted e => insertEntry e.1 e.2 sorted) sorted) from
    h [] List.Pairwise.nil
  induction entries with
  | nil => exact fun _ h => h
  | cons e rest ih => exact fun sorted h => ih _ (h.insertEntry e.1 e.2)

/-- Entries in order stay as they are. -/
theorem sortEntries_of_ascending {entries : List (String × α)} (h : Ascending entries) :
    sortEntries entries = entries := by
  suffices hs : ∀ sorted : List (String × α), Ascending (sorted ++ entries) →
      entries.foldl (fun sorted e => insertEntry e.1 e.2 sorted) sorted = sorted ++ entries from
    hs [] h
  clear h
  induction entries with
  | nil => intro sorted _; simp
  | cons e rest ih =>
    intro sorted h
    have hlt : ∀ d ∈ sorted, d.1 < e.1 := fun d hd =>
      (List.pairwise_append.1 h).2.2 d hd e List.mem_cons_self
    rw [List.foldl_cons, insertEntry_of_lt hlt, ih _ (by simpa using h)]
    simp

/-! ### Maps -/

structure SortedMap (α : Type) where
  entries : List (String × α)
  ascending : Ascending entries

namespace SortedMap

def empty : SortedMap α := ⟨[], List.Pairwise.nil⟩

def insert (m : SortedMap α) (name : String) (value : α) : SortedMap α :=
  ⟨insertEntry name value m.entries, m.ascending.insertEntry name value⟩

def ofList (entries : List (String × α)) : SortedMap α :=
  ⟨sortEntries entries, ascending_sortEntries entries⟩

def find? (m : SortedMap α) (name : String) : Option α := m.entries.lookup name

@[simp] theorem find?_empty (name : String) : (empty : SortedMap α).find? name = none := rfl

theorem find?_insert (m : SortedMap α) (name : String) (value : α) (n : String) :
    (m.insert name value).find? n = if n = name then some value else m.find? n :=
  lookup_insertEntry name value m.entries n

instance [DecidableEq α] : DecidableEq (SortedMap α) := fun a b =>
  decidable_of_iff (a.entries = b.entries)
    ⟨fun h => by cases a; cases b; cases h; rfl, fun h => h ▸ rfl⟩

end SortedMap

end Dataflow
