import Mathlib.Data.List.Forall2

/-! Loops over a list that stop at the first item for which their body fails. What such a loop
returns is told without it: by the items it has passed, or by the least index at which it fails. -/
namespace Dataflow

/-! ### Results -/

@[simp] theorem ok_bind (a : α) (f : α → Except ε β) : (Except.ok a >>= f) = f a := rfl

theorem bind_eq_ok_iff {x : Except ε α} {f : α → Except ε β} {b : β} :
    x >>= f = .ok b ↔ ∃ a, x = .ok a ∧ f a = .ok b := by
  cases x <;> simp [bind, Except.bind]

theorem bind_eq_error_iff {x : Except ε α} {f : α → Except ε β} {e : ε} :
    x >>= f = .error e ↔ x = .error e ∨ ∃ a, x = .ok a ∧ f a = .error e := by
  cases x <;> simp [bind, Except.bind]

theorem pure_eq_ok_iff {a b : α} : (pure a : Except ε α) = .ok b ↔ a = b := by
  simp [pure, Except.pure]

theorem map_eq_ok_iff {x : Except ε α} {f : α → β} {b : β} :
    x.map f = .ok b ↔ ∃ a, x = .ok a ∧ f a = b := by
  cases x <;> simp [Except.map]

theorem map_eq_error_iff {x : Except ε α} {f : α → β} {e : ε} :
    x.map f = .error e ↔ x = .error e := by
  cases x <;> simp [Except.map]

theorem mapError_eq_ok_iff {x : Except ε α} {f : ε → ε'} {a : α} :
    x.mapError f = .ok a ↔ x = .ok a := by
  cases x <;> simp [Except.mapError]

theorem mapError_eq_error_iff {x : Except ε α} {f : ε → ε'} {e : ε'} :
    x.mapError f = .error e ↔ ∃ d, x = .error d ∧ f d = e := by
  cases x <;> simp [Except.mapError]

theorem toOption_eq_some_iff {x : Except ε α} {a : α} : x.toOption = some a ↔ x = .ok a := by
  cases x <;> simp [Except.toOption]

/-! ### Runs -/

theorem takeWhile_append_of_head {p : α → Bool} {l rest : List α} (hl : ∀ a ∈ l, p a)
    (hrest : ∀ a ∈ rest.head?, ¬ p a) : (l ++ rest).takeWhile p = l := by
  rw [List.takeWhile_append_of_pos hl]
  cases rest with
  | nil => simp
  | cons a rest => rw [List.takeWhile_cons_of_neg (hrest a rfl), List.append_nil]

theorem dropWhile_append_of_head {p : α → Bool} {l rest : List α} (hl : ∀ a ∈ l, p a)
    (hrest : ∀ a ∈ rest.head?, ¬ p a) : (l ++ rest).dropWhile p = rest := by
  rw [List.dropWhile_append_of_pos hl]
  cases rest with
  | nil => simp
  | cons a rest => rw [List.dropWhile_cons_of_neg (hrest a rfl)]

/-- A run that ends within the first of two parts does not look into the second one. -/
theorem takeWhile_append_of_prefix {p : α → Bool} {l rest : List α}
    (h : (l ++ rest).takeWhile p <+: l) : (l ++ rest).takeWhile p = l.takeWhile p := by
  rw [List.takeWhile_append] at h ⊢
  split
  · rename_i hall
    rw [if_pos hall] at h
    have hmore : rest.takeWhile p = [] := by
      have hlength := h.length_le
      rw [List.length_append] at hlength
      exact List.length_eq_zero_iff.1 (by omega)
    rw [hmore, List.append_nil]
    exact ((List.takeWhile_prefix p).eq_of_length hall).symm
  · rfl

theorem length_le_length_flatMap {f : α → List β} (h : ∀ a, f a ≠ []) (l : List α) :
    l.length ≤ (l.flatMap f).length := by
  induction l with
  | nil => simp
  | cons a l ih =>
    have := List.length_pos_of_ne_nil (h a)
    rw [List.flatMap_cons, List.length_append, List.length_cons]
    omega

/-! ### Related lists -/

theorem exists_getElem?_of_forall₂ {r : α → β → Prop} {l : List α} {bs : List β}
    (h : List.Forall₂ r l bs) {i : Nat} {a : α} (ha : l[i]? = some a) :
    ∃ b, bs[i]? = some b ∧ r a b := by
  induction h generalizing i with
  | nil => simp at ha
  | cons hab _ ih =>
    cases i with
    | zero =>
      rw [List.getElem?_cons_zero, Option.some.injEq] at ha
      subst ha
      exact ⟨_, List.getElem?_cons_zero, hab⟩
    | succ i =>
      rw [List.getElem?_cons_succ] at ha ⊢
      exact ih ha

theorem exists_mem_of_forall₂ {r : α → β → Prop} {l : List α} {bs : List β}
    (h : List.Forall₂ r l bs) {a : α} (ha : a ∈ l) : ∃ b ∈ bs, r a b := by
  obtain ⟨i, hi⟩ := List.mem_iff_getElem?.1 ha
  obtain ⟨b, hb, hab⟩ := exists_getElem?_of_forall₂ h hi
  exact ⟨b, List.mem_iff_getElem?.2 ⟨i, hb⟩, hab⟩

/-- A list is related to some list if each of its items is to something. -/
theorem exists_forall₂_iff {r : α → β → Prop} {l : List α} :
    (∃ bs, List.Forall₂ r l bs) ↔ ∀ a ∈ l, ∃ b, r a b := by
  constructor
  · rintro ⟨bs, h⟩ a ha
    obtain ⟨b, -, hab⟩ := exists_mem_of_forall₂ h ha
    exact ⟨b, hab⟩
  · intro h
    induction l with
    | nil => exact ⟨[], .nil⟩
    | cons a l ih =>
      obtain ⟨b, hab⟩ := h a List.mem_cons_self
      obtain ⟨bs, hbs⟩ := ih fun c hc => h c (List.mem_cons_of_mem a hc)
      exact ⟨b :: bs, .cons hab hbs⟩

/-! ### The first place -/

/-- The item `a` at index `i` has the property and none before it has. -/
def FirstAt (p : Nat → α → Prop) (l : List α) (i : Nat) (a : α) : Prop :=
  l[i]? = some a ∧ p i a ∧ ∀ j < i, ∀ b, l[j]? = some b → ¬ p j b

namespace FirstAt

theorem not_nil {p : Nat → α → Prop} {i : Nat} {a : α} : ¬ FirstAt p [] i a := by
  rintro ⟨h, -, -⟩
  simp at h

theorem cons_iff {p : Nat → α → Prop} {b : α} {l : List α} {i : Nat} {a : α} :
    FirstAt p (b :: l) i a ↔
      (i = 0 ∧ a = b ∧ p 0 b) ∨
        ∃ j, i = j + 1 ∧ ¬ p 0 b ∧ FirstAt (fun k => p (k + 1)) l j a := by
  constructor
  · rintro ⟨hi, hp, hlt⟩
    cases i with
    | zero =>
      simp only [List.getElem?_cons_zero, Option.some.injEq] at hi
      subst hi
      exact .inl ⟨rfl, rfl, hp⟩
    | succ j =>
      refine .inr ⟨j, rfl, hlt 0 (by omega) b rfl, by simpa using hi, hp, fun k hk c hc => ?_⟩
      exact hlt (k + 1) (by omega) c (by simpa using hc)
  · rintro (⟨rfl, rfl, hp⟩ | ⟨j, rfl, hb, hi, hp, hlt⟩)
    · exact ⟨rfl, hp, fun j hj => by omega⟩
    · refine ⟨by simpa using hi, hp, fun k hk c hc => ?_⟩
      cases k with
      | zero =>
        simp only [List.getElem?_cons_zero, Option.some.injEq] at hc
        exact hc ▸ hb
      | succ k => exact hlt k (by omega) c (by simpa using hc)

theorem map_iff {p : Nat → β → Prop} {f : α → β} {l : List α} {i : Nat} {b : β} :
    FirstAt p (l.map f) i b ↔ ∃ a, b = f a ∧ FirstAt (fun j a => p j (f a)) l i a := by
  constructor
  · rintro ⟨hi, hp, hlt⟩
    rw [List.getElem?_map, Option.map_eq_some_iff] at hi
    obtain ⟨a, ha, rfl⟩ := hi
    refine ⟨a, rfl, ha, hp, fun j hj c hc => hlt j hj (f c) ?_⟩
    rw [List.getElem?_map, hc, Option.map_some]
  · rintro ⟨a, rfl, ha, hp, hlt⟩
    refine ⟨by rw [List.getElem?_map, ha, Option.map_some], hp, fun j hj c hc => ?_⟩
    rw [List.getElem?_map, Option.map_eq_some_iff] at hc
    obtain ⟨d, hd, rfl⟩ := hc
    exact hlt j hj d hd

end FirstAt

/-! ### Loops -/

/-- Applies `f` to the items and their numbers, counted from `index` on. -/
def traverseFrom (f : Nat → α → Except ε β) : (index : Nat) → List α → Except ε (List β)
  | _, [] => .ok []
  | index, a :: l => do
    let b ← f index a
    let bs ← traverseFrom f (index + 1) l
    return b :: bs

theorem traverseFrom_map (f : Nat → α → Except ε β) (g : β → γ) (index : Nat) (l : List α) :
    (traverseFrom f index l).map (List.map g) =
      traverseFrom (fun i a => (f i a).map g) index l := by
  induction l generalizing index with
  | nil => rfl
  | cons a l ih =>
    simp only [traverseFrom, ← ih]
    cases f index a with
    | error e => rfl
    | ok b => cases traverseFrom f (index + 1) l <;> rfl

/-- If the body succeeds by a rule that ignores the number, the loop applies the rule to all. -/
theorem traverseFrom_eq_ok_iff {f : Nat → α → Except ε β} {r : α → β → Prop}
    (hf : ∀ i a b, f i a = .ok b ↔ r a b) (index : Nat) (l : List α) (bs : List β) :
    traverseFrom f index l = .ok bs ↔ List.Forall₂ r l bs := by
  induction l generalizing index bs with
  | nil => simp [traverseFrom, eq_comm]
  | cons a l ih =>
    simp only [traverseFrom, bind_eq_ok_iff, pure_eq_ok_iff, hf, ih]
    constructor
    · rintro ⟨b, hb, cs, hcs, rfl⟩
      exact .cons hb hcs
    · rintro (_ | ⟨hb, hcs⟩)
      exact ⟨_, hb, _, hcs, rfl⟩

/-- The loop fails as its body does at the first place where it fails. -/
theorem traverseFrom_eq_error_iff {f : Nat → α → Except ε β} (index : Nat) (l : List α) (e : ε) :
    traverseFrom f index l = .error e ↔
      ∃ i a, FirstAt (fun i a => ∃ e, f (index + i) a = .error e) l i a ∧
        f (index + i) a = .error e := by
  induction l generalizing index with
  | nil => simp [traverseFrom, FirstAt.not_nil]
  | cons a l ih =>
    have hshift : (fun k b => ∃ e, f (index + (k + 1)) b = .error e) =
        fun k b => ∃ e, f (index + 1 + k) b = .error e := by
      funext k b
      rw [Nat.add_assoc, Nat.add_comm 1]
    simp only [FirstAt.cons_iff, hshift, Nat.add_zero]
    cases ha : f index a with
    | error d =>
      simp only [traverseFrom, ha, bind_eq_error_iff]
      constructor
      · rintro (h | ⟨b, h, -⟩)
        · exact ⟨0, a, .inl ⟨rfl, rfl, d, rfl⟩, ha.trans h⟩
        · cases h
      · rintro ⟨i, b, ⟨rfl, rfl, -⟩ | ⟨j, -, hne, -⟩, he⟩
        · exact .inl (ha.symm.trans he)
        · exact absurd ⟨d, rfl⟩ hne
    | ok b =>
      have hstep : traverseFrom f index (a :: l) = .error e ↔
          traverseFrom f (index + 1) l = .error e := by
        simp [traverseFrom, ha, bind_eq_error_iff, pure, Except.pure]
      rw [hstep, ih]
      constructor
      · rintro ⟨i, c, hi, he⟩
        refine ⟨i + 1, c, .inr ⟨i, rfl, by simp, hi⟩, ?_⟩
        rwa [Nat.add_comm i, ← Nat.add_assoc]
      · rintro ⟨i, c, ⟨-, -, d, hd⟩ | ⟨j, rfl, -, hj⟩, he⟩
        · cases hd
        · exact ⟨j, c, hj, by rwa [Nat.add_comm j, ← Nat.add_assoc] at he⟩

/-! ### Optional results -/

theorem mapM_map_eq_some_map {encode : α → β} {decode : β → Option γ} {f : α → γ} {l : List α}
    (h : ∀ a ∈ l, decode (encode a) = some (f a)) : (l.map encode).mapM decode = some (l.map f) := by
  induction l with
  | nil => rfl
  | cons a l ih =>
    simp [h a List.mem_cons_self, ih fun b hb => h b (List.mem_cons_of_mem a hb)]

theorem mapM_map_eq_some {encode : α → β} {decode : β → Option α} {l : List α}
    (h : ∀ a ∈ l, decode (encode a) = some a) : (l.map encode).mapM decode = some l := by
  have hmap := mapM_map_eq_some_map (f := id) h
  rwa [List.map_id] at hmap

theorem mapM_eq_some_iff_forall₂ {decode : β → Option α} {l : List β} {as : List α} :
    l.mapM decode = some as ↔ List.Forall₂ (fun b a => decode b = some a) l as := by
  constructor
  · intro h
    induction l generalizing as with
    | nil =>
      cases h
      exact .nil
    | cons b l ih =>
      rw [List.mapM_cons] at h
      obtain ⟨a, ha, h⟩ := Option.bind_eq_some_iff.1 h
      obtain ⟨as, has, h⟩ := Option.bind_eq_some_iff.1 h
      cases h
      exact .cons ha (ih has)
  · intro h
    induction h with
    | nil => rfl
    | cons ha _ ih => simp [ha, ih]

theorem exists_mem_of_mapM_eq_some {decode : β → Option α} {l : List β} {as : List α}
    (h : l.mapM decode = some as) : ∀ a ∈ as, ∃ b, decode b = some a := by
  intro a ha
  obtain ⟨b, -, hb⟩ := exists_mem_of_forall₂ (mapM_eq_some_iff_forall₂.1 h).flip ha
  exact ⟨b, hb⟩

end Dataflow
