import Dataflow.Diagnostic
import Dataflow.Proofs.Resolution.Sizes

/-! Repairs of a node with which a shape does not resolve. Where the hint asks for an integer under
some name, an attribute with one moves the failure to the right, and no name has to be given one
twice. Only the name `id` cannot be mended in this way: it asks for the identifier, which is never an
integer. -/
namespace Dataflow

/-! ### What a hint asks for -/

namespace ResolveError

/-- The hint that goes with the failure asks for an integer under this name. -/
def Wants (e : ResolveError) (name : String) : Prop :=
  e.hint = "set an integer attribute '" ++ name ++ "' on the node" ∨
    e.hint = "attribute '" ++ name ++ "' must hold an integer"

theorem getElem?_toList_append {s : String} {i : Nat} (h : i < s.toList.length) (t u : String) :
    (s ++ t ++ u).toList[i]? = s.toList[i]? := by
  rw [String.append_assoc, String.toList_append, List.getElem?_append_left h]

theorem append_append_inj {p s t u : String} : p ++ s ++ u = p ++ t ++ u ↔ s = t := by
  rw [String.append_left_inj, String.append_right_inj]

/-- The second letter of the hint. It tells the hints apart. -/
def letter : ResolveError → Char
  | missingContext _ => 'a'
  | unresolvedSymbol _ _ => 'e'
  | wrongAttributeType _ _ => 't'
  | invalidDescriptor _ _ => 'h'

theorem getElem?_hint (e : ResolveError) : e.hint.toList[1]? = some e.letter := by
  cases e with
  | missingContext name =>
    change "pass the owning node so symbolic dimensions can be looked up".toList[1]? = some 'a'
    decide
  | unresolvedSymbol name node => exact getElem?_toList_append (by decide) _ _
  | wrongAttributeType name actual => exact getElem?_toList_append (by decide) _ _
  | invalidDescriptor index value =>
    change "shape entries must be sizes >= 0, -1 for flexible, or attribute names".toList[1]? =
      some 'h'
    decide

theorem wants_iff {e : ResolveError} {name : String} :
    e.Wants name ↔ (∃ node, e = .unresolvedSymbol name node) ∨
      ∃ actual, e = .wrongAttributeType name actual := by
  have hletter (d : ResolveError) (h : e.hint = d.hint) : e.letter = d.letter := by
    apply Option.some.inj
    rw [← getElem?_hint, ← getElem?_hint, h]
  constructor
  · rintro (h | h)
    · have := hletter (.unresolvedSymbol name "") h
      cases e with
      | unresolvedSymbol n node =>
        exact .inl ⟨node, congrArg (unresolvedSymbol · node) (append_append_inj.1 h)⟩
      | _ => simp [letter] at this
    · have := hletter (.wrongAttributeType name .null) h
      cases e with
      | wrongAttributeType n actual =>
        exact .inr ⟨actual, congrArg (wrongAttributeType · actual) (append_append_inj.1 h)⟩
      | _ => simp [letter] at this
  · rintro (⟨node, rfl⟩ | ⟨actual, rfl⟩)
    · exact .inl rfl
    · exact .inr rfl

end ResolveError

/-! ### Where a shape fails -/

namespace Dim

/-- Either no attribute helps or the hint asks for one. -/
theorem Fails.invalid_or_wants {node : Context} {index : Nat} {d : Dim} {e : ResolveError}
    (h : d.Fails (some node) index e) :
    (∃ n, e = .invalidDescriptor index n) ∨ ∃ name, d = .symbol name ∧ e.Wants name := by
  cases h with
  | invalid => exact .inl ⟨_, rfl⟩
  | absent => exact .inr ⟨_, rfl, ResolveError.wants_iff.2 (.inl ⟨_, rfl⟩)⟩
  | noInteger => exact .inr ⟨_, rfl, ResolveError.wants_iff.2 (.inr ⟨_, rfl⟩)⟩

theorem Fails.eq_symbol {node : Context} {index : Nat} {d : Dim} {e : ResolveError} {name : String}
    (h : d.Fails (some node) index e) (hwants : e.Wants name) : d = .symbol name := by
  rcases ResolveError.wants_iff.1 hwants with ⟨_, rfl⟩ | ⟨_, rfl⟩ <;> cases h <;> rfl

end Dim

namespace Shape

/-- The dimensions before this index resolve, and the one at it fails for the reason. -/
def FailsAt (shape : Shape) (node : Context) (index : Nat) (e : ResolveError) : Prop :=
  ∃ d, FirstAt (fun _ d => ¬ ∃ n, d.ResolvesTo (some node) n) shape index d ∧
    d.Fails (some node) index e

theorem resolve_eq_error_iff_failsAt {shape : Shape} {node : Context} {e : ResolveError} :
    shape.resolve (some node) = .error e ↔ ∃ i, shape.FailsAt node i e :=
  resolve_eq_error_iff (fun _ _ _ => Dim.resolveDim_eq_ok_iff)
    fun _ _ _ => Dim.resolveDim_eq_error_iff

theorem FailsAt.lt_length {shape : Shape} {node : Context} {index : Nat} {e : ResolveError}
    (h : shape.FailsAt node index e) : index < shape.length := by
  obtain ⟨d, ⟨hd, -⟩, -⟩ := h
  exact (List.getElem?_eq_some_iff.1 hd).1

/-- The name that is asked for is in the shape, and there is no integer under it. -/
theorem FailsAt.of_wants {shape : Shape} {node : Context} {index : Nat} {e : ResolveError}
    {name : String} (h : shape.FailsAt node index e) (hwants : e.Wants name) :
    shape[index]? = some (.symbol name) ∧ ∀ k, node.attribute? name ≠ some (.ofInt64 k) := by
  obtain ⟨d, ⟨hd, hnot, -⟩, hfails⟩ := h
  obtain rfl := hfails.eq_symbol hwants
  exact ⟨hd, fun k hk => hnot ⟨k, Dim.resolvesTo_symbol_iff.2 hk⟩⟩

end Shape

/-! ### One repair -/

namespace Node

/-- What is set under the name of the identifier is never asked for. -/
theorem context_set_id (n : Node) (v : Value) : (n.set "id" v).context = n.context := by
  have hattribute : (n.set "id" v).attribute? = n.attribute? := by
    funext name
    rw [attribute?_set, if_neg fun h => h.1 h.2]
  rw [context, hattribute]
  rfl

theorem attribute?_set_self (n : Node) {name : String} (h : name ≠ "id") (v : Value) :
    (n.set name v).attribute? name = some v := by
  rw [attribute?_set, if_pos ⟨h, rfl⟩]

theorem attribute?_set_of_ne (n : Node) {name other : String} (h : other ≠ name) (v : Value) :
    (n.set name v).attribute? other = n.attribute? other := by
  rw [attribute?_set, if_neg fun h' => h h'.2]

end Node

/-- Dimensions that resolve still do when an integer is set. -/
theorem Dim.exists_resolvesTo_set {n : Node} {d : Dim} (name : String) (k : Int64)
    (h : ∃ m, d.ResolvesTo (some n.context) m) :
    ∃ m, d.ResolvesTo (some (n.set name (.ofInt64 k)).context) m := by
  obtain ⟨m, h⟩ := h
  cases d with
  | size i => exact ⟨m, resolvesTo_size_iff.2 (resolvesTo_size_iff.1 h)⟩
  | symbol other =>
    simp only [resolvesTo_symbol_iff, Node.attribute?_context, Node.attribute?_set] at h ⊢
    split
    · exact ⟨k, rfl⟩
    · exact ⟨m, h⟩

/-- A repair moves the failure to the right. -/
theorem Shape.FailsAt.lt_of_set {shape : Shape} {n : Node} {i j : Nat} {e e' : ResolveError}
    {name : String} {k : Int64} (h : shape.FailsAt n.context i e) (hwants : e.Wants name)
    (hname : name ≠ "id") (h' : shape.FailsAt (n.set name (.ofInt64 k)).context j e') : i < j := by
  have hsymbol := (h.of_wants hwants).1
  obtain ⟨_, ⟨-, -, hbefore⟩, -⟩ := h
  obtain ⟨d, ⟨hd, hnot, -⟩, -⟩ := h'
  by_contra hle
  apply hnot
  rcases Nat.lt_or_eq_of_le (Nat.not_lt.1 hle) with hlt | rfl
  · exact Dim.exists_resolvesTo_set name k (not_not.1 (hbefore j hlt d hd))
  · rw [hsymbol, Option.some.injEq] at hd
    subst hd
    exact ⟨k, Dim.resolvesTo_symbol_iff.2 (n.attribute?_set_self hname _)⟩

/-! ### Repairs one after another -/

/-- Each repair sets the attribute that the failure before it asks for, to whatever integer. -/
inductive Repairs (shape : Shape) : Node → List (String × Int64) → Node → Prop
  | done (n : Node) : Repairs shape n [] n
  | next {n m : Node} {e : ResolveError} {name : String} {k : Int64}
      {repairs : List (String × Int64)} (h : shape.resolve (some n.context) = .error e)
      (hwants : e.Wants name) (hname : name ≠ "id")
      (hrest : Repairs shape (n.set name (.ofInt64 k)) repairs m) :
      Repairs shape n ((name, k) :: repairs) m

namespace Repairs

variable {shape : Shape} {n m : Node} {repairs : List (String × Int64)}

theorem mem_shape (h : Repairs shape n repairs m) : ∀ r ∈ repairs, .symbol r.1 ∈ shape := by
  induction h with
  | done n => exact fun _ hr => absurd hr List.not_mem_nil
  | next h hwants _ _ ih =>
    obtain ⟨i, hi⟩ := Shape.resolve_eq_error_iff_failsAt.1 h
    intro r hr
    rcases List.mem_cons.1 hr with rfl | hr
    · exact List.mem_of_getElem? (hi.of_wants hwants).1
    · exact ih r hr

/-- What is to be repaired holds no integer before. -/
theorem attribute?_ne (h : Repairs shape n repairs m) :
    ∀ r ∈ repairs, ∀ k, n.attribute? r.1 ≠ some (.ofInt64 k) := by
  induction h with
  | done n => exact fun _ hr => absurd hr List.not_mem_nil
  | @next n m e name k repairs h hwants hname _ ih =>
    obtain ⟨i, hi⟩ := Shape.resolve_eq_error_iff_failsAt.1 h
    intro r hr
    rcases List.mem_cons.1 hr with rfl | hr
    · exact (hi.of_wants hwants).2
    · have hne : r.1 ≠ name := by
        intro heq
        exact ih r hr k (heq ▸ n.attribute?_set_self hname (.ofInt64 k))
      intro j
      rw [← n.attribute?_set_of_ne hne (.ofInt64 k)]
      exact ih r hr j

/-- After a repair there is an integer under its name, so that it is not asked for again. -/
theorem nodup (h : Repairs shape n repairs m) : (repairs.map Prod.fst).Nodup := by
  induction h with
  | done n => exact List.nodup_nil
  | @next n m e name k repairs h hwants hname hrest ih =>
    refine List.nodup_cons.2 ⟨fun hmem => ?_, ih⟩
    obtain ⟨r, hr, rfl⟩ := List.mem_map.1 hmem
    exact hrest.attribute?_ne r hr k (n.attribute?_set_self hname (.ofInt64 k))

end Repairs

/-- No more repairs are possible, since none is asked for or only under the name of the
identifier. -/
def Shape.IsMended (shape : Shape) (n : Node) : Prop :=
  ∀ e, shape.resolve (some n.context) = .error e →
    (∃ i k, e = .invalidDescriptor i k) ∨ .symbol "id" ∈ shape ∧ e.Wants "id"

/-- A node whose failure lies so far from the end of the shape can be repaired. The distance goes
down with each repair. -/
theorem exists_repairs_of_le (shape : Shape) (size : String → Int64) (distance : Nat) (n : Node)
    (h : ∀ i e, shape.FailsAt n.context i e → shape.length ≤ i + distance) :
    ∃ repairs m, Repairs shape n repairs m ∧ (∀ r ∈ repairs, r.2 = size r.1) ∧
      shape.IsMended m := by
  induction distance generalizing n with
  | zero =>
    refine ⟨[], n, .done n, fun _ hr => absurd hr List.not_mem_nil, fun e he => ?_⟩
    obtain ⟨i, hi⟩ := Shape.resolve_eq_error_iff_failsAt.1 he
    have := hi.lt_length
    have := h i e hi
    omega
  | succ distance ih =>
    by_cases hmended : shape.IsMended n
    · exact ⟨[], n, .done n, fun _ hr => absurd hr List.not_mem_nil, hmended⟩
    simp only [Shape.IsMended, not_forall, not_or] at hmended
    obtain ⟨e, he, hvalid, hid⟩ := hmended
    obtain ⟨i, hi⟩ := Shape.resolve_eq_error_iff_failsAt.1 he
    obtain ⟨d, -, hfails⟩ := id hi
    rcases hfails.invalid_or_wants with ⟨k, rfl⟩ | ⟨name, rfl, hwants⟩
    · exact absurd ⟨i, k, rfl⟩ hvalid
    have hname : name ≠ "id" := by
      rintro rfl
      exact hid ⟨List.mem_of_getElem? (hi.of_wants hwants).1, hwants⟩
    have hcloser : ∀ j e', shape.FailsAt (n.set name (.ofInt64 (size name))).context j e' →
        shape.length ≤ j + distance := by
      intro j e' hj
      have := hi.lt_of_set hwants hname hj
      have := h i e hi
      omega
    obtain ⟨repairs, m, hrepairs, hsize, hm⟩ := ih _ hcloser
    refine ⟨(name, size name) :: repairs, m, .next he hwants hname hrepairs, ?_, hm⟩
    exact List.forall_mem_cons.2 ⟨rfl, hsize⟩

/-! ### Main statement -/

namespace Shape

/-- If the hint asks for an integer under a name and it is set, the shape resolves or fails further
to the right, unless the name is that of the identifier: what is set under it changes nothing. In a
row of repairs each name comes once at most, and whatever integers are set, a row of them leads to
a node with which the shape resolves, or fails for a size that is not valid or over the name of the
identifier. -/
theorem resolve_repaired (shape : Shape) (n : Node) :
    (∀ i e name, shape.FailsAt n.context i e → e.Wants name → name ≠ "id" → ∀ k : Int64,
      (∃ v, shape.resolve (some (n.set name (.ofInt64 k)).context) = .ok v) ∨
        ∃ j e', i < j ∧ shape.FailsAt (n.set name (.ofInt64 k)).context j e') ∧
    (∀ v, shape.resolve (some (n.set "id" v).context) = shape.resolve (some n.context)) ∧
    (∀ repairs m, Repairs shape n repairs m →
      (repairs.map Prod.fst).Nodup ∧ ∀ r ∈ repairs, .symbol r.1 ∈ shape) ∧
    ∀ size : String → Int64, ∃ repairs m, Repairs shape n repairs m ∧
      (∀ r ∈ repairs, r.2 = size r.1) ∧
      ∀ e, shape.resolve (some m.context) = .error e →
        (∃ i k, e = .invalidDescriptor i k) ∨ .symbol "id" ∈ shape ∧ e.Wants "id" := by
  refine ⟨fun i e name h hwants hname k => ?_, fun v => ?_, fun repairs m h => ?_, fun size => ?_⟩
  · cases hset : shape.resolve (some (n.set name (.ofInt64 k)).context) with
    | ok v => exact .inl ⟨v, rfl⟩
    | error e' =>
      obtain ⟨j, hj⟩ := resolve_eq_error_iff_failsAt.1 hset
      exact .inr ⟨j, e', h.lt_of_set hwants hname hj, hj⟩
  · rw [n.context_set_id]
  · exact ⟨h.nodup, h.mem_shape⟩
  · exact exists_repairs_of_le shape size shape.length n fun i _ _ => Nat.le_add_left _ i

/-- Its two names come three times. -/
def stack : Shape := [.symbol "batch", .size 3, .symbol "rows", .symbol "batch"]

/-- A node that can be repaired to resolve it. -/
def bare : Node := Node.withId "reader"

theorem failsAt_bare : stack.FailsAt bare.context 0 (.unresolvedSymbol "batch" "reader") := by
  refine ⟨.symbol "batch", ⟨rfl, ?_, fun j hj => absurd hj (Nat.not_lt_zero j)⟩, .absent rfl⟩
  rintro ⟨n, hn⟩
  cases Dim.resolvesTo_symbol_iff.1 hn

/-- The first repair mends both dimensions with this name, the second one the rest. -/
theorem resolve_repaired_stack :
    stack.resolve (some bare.context) = .error (.unresolvedSymbol "batch" "reader") ∧
    (∃ j e, 0 < j ∧ stack.FailsAt (bare.set "batch" (.ofInt64 4)).context j e) ∧
    ∃ m, Repairs stack bare [("batch", 4), ("rows", -1)] m ∧
      stack.resolve (some m.context) = .ok [4, 3, -1, 4] ∧ ["batch", "rows"].Nodup := by
  obtain ⟨hprogress, -, hruns, -⟩ := resolve_repaired stack bare
  have hfirst : stack.resolve (some bare.context) =
      .error (.unresolvedSymbol "batch" "reader") := by rfl
  have hsecond : stack.resolve (some (bare.set "batch" (.ofInt64 4)).context) =
      .error (.unresolvedSymbol "rows" "reader") := by rfl
  have hwants (name : String) : (ResolveError.unresolvedSymbol name "reader").Wants name := .inl rfl
  have hrun : Repairs stack bare [("batch", 4), ("rows", -1)] _ :=
    .next hfirst (hwants "batch") (by decide)
      (.next hsecond (hwants "rows") (by decide) (.done _))
  refine ⟨hfirst, ?_, _, hrun, by rfl, (hruns _ _ hrun).1⟩
  rcases hprogress 0 _ "batch" failsAt_bare (hwants "batch") (by decide) 4 with ⟨v, hv⟩ | h
  · rw [hsecond] at hv
    cases hv
  · exact h

/-- The hint for the name of the identifier can be followed in vain. -/
theorem not_resolve_repaired : ¬ ∀ (shape : Shape) (n : Node) (i : Nat) (e : ResolveError)
    (name : String) (k : Int64), -1 ≤ k → shape.FailsAt n.context i e → e.Wants name →
      (∃ v, shape.resolve (some (n.set name (.ofInt64 k)).context) = .ok v) ∨
        ∃ j e', i < j ∧ shape.FailsAt (n.set name (.ofInt64 k)).context j e' := by
  intro hall
  have hfails : FailsAt [.symbol "id"] (Node.context {}) 0
      (.unresolvedSymbol "id" Context.anonymous) := by
    refine ⟨.symbol "id", ⟨rfl, ?_, fun j hj => absurd hj (Nat.not_lt_zero j)⟩, .absent rfl⟩
    rintro ⟨n, hn⟩
    cases Dim.resolvesTo_symbol_iff.1 hn
  rcases hall [.symbol "id"] {} 0 _ "id" 3 (by decide) hfails (.inl rfl) with
    ⟨v, hv⟩ | ⟨j, e, hlt, hj⟩
  · cases hv
  · have := hj.lt_length
    simp only [List.length_singleton] at this
    omega

end Shape

end Dataflow
