import Dataflow.Proofs.Resolution.Sizes
import Mathlib.Data.List.Induction

/-! Resolution with a node that has been set up by setting its attributes one after another. Of the
values under one name the last counts, and it gives a size if it is an integer that a size can be.
The name `id` never gives one, whatever has been set under it. -/
namespace Dataflow

/-! ### Kinds of values -/

theorem WordInt.isSome_toInt64?_iff {n : WordInt} :
    n.toInt64?.isSome ↔ n.val < 0x8000000000000000 := by
  have hrange := n.inRange
  rw [toInt64?, int64OfInt?, Int64.toInt_minValue, Int64.toInt_maxValue]
  split <;> simp <;> omega

namespace Json

/-- What a value is called in the reason why it gives no size. -/
inductive IsCalled : Json → String → Prop
  | null : IsCalled .null "null"
  | bool (b : Bool) : IsCalled (.bool b) "bool"
  | narrow {n : WordInt} (h : n.val < 0x8000000000000000) : IsCalled (.number (.integer n)) "int"
  | wide {n : WordInt} (h : 0x8000000000000000 ≤ n.val) :
      IsCalled (.number (.integer n)) "int (out of range)"
  | float (x : Binary64) : IsCalled (.number (.float x)) "float"
  | string (s : String) : IsCalled (.string s) "str"
  | array (items : List Json) : IsCalled (.array items) "list"
  | object (members : List (String × Json)) : IsCalled (.object members) "dict"

theorem isCalled_display_kind (v : Json) : v.IsCalled v.kind.display := by
  cases v with
  | null => exact .null
  | bool b => exact .bool b
  | number n =>
    cases n with
    | integer n =>
      rw [kind]
      split
      · exact .narrow (WordInt.isSome_toInt64?_iff.1 ‹_›)
      · exact .wide (by simpa [WordInt.isSome_toInt64?_iff] using ‹¬ n.toInt64?.isSome›)
    | float x => exact .float x
  | string s => exact .string s
  | array items => exact .array items
  | object members => exact .object members

theorem IsCalled.unique {v : Json} {s t : String} (hs : v.IsCalled s) (ht : v.IsCalled t) :
    s = t := by
  cases hs <;> cases ht <;> first | rfl | omega

theorem kind_display_inj {j k : Kind} : j.display = k.display ↔ j = k := by
  cases j <;> cases k <;> simp [Kind.display]

theorem isCalled_display_iff {v : Json} {k : Kind} : v.IsCalled k.display ↔ v.kind = k := by
  constructor
  · intro h
    exact kind_display_inj.1 (v.isCalled_display_kind.unique h)
  · rintro rfl
    exact v.isCalled_display_kind

end Json

/-! ### Settings -/

/-- The value is the last one that is set under the name. -/
def LastSet (settings : List (String × Value)) (name : String) (v : Value) : Prop :=
  ∃ before after, settings = before ++ (name, v) :: after ∧ ∀ e ∈ after, e.1 ≠ name

theorem lastSet_iff {settings : List (String × Value)} {name : String} {v : Value} :
    LastSet settings name v ↔ settings.reverse.lookup name = some v := by
  rw [List.lookup_eq_some_iff]
  constructor
  · rintro ⟨before, after, rfl, hafter⟩
    refine ⟨after.reverse, before.reverse, by simp, fun e he => ?_⟩
    exact bne_iff_ne.2 (hafter e (List.mem_reverse.1 he)).symm
  · rintro ⟨after, before, h, hafter⟩
    refine ⟨before.reverse, after.reverse, ?_, fun e he => ?_⟩
    · rw [← List.reverse_reverse settings, h]
      simp
    · exact (bne_iff_ne.1 (hafter e (List.mem_reverse.1 he))).symm

namespace Node

/-- A node with this identifier, or without one, after these attributes have been set in order. -/
def built (id? : Option String) (settings : List (String × Value)) : Node :=
  settings.foldl (fun n e => n.set e.1 e.2) { id? }

variable {id? : Option String} {settings : List (String × Value)}

theorem built_concat (e : String × Value) :
    built id? (settings ++ [e]) = (built id? settings).set e.1 e.2 := by
  simp [built]

theorem id?_built : (built id? settings).id? = id? := by
  induction settings using List.reverseRecOn with
  | nil => rfl
  | append_singleton settings e ih => rw [built_concat, set, ih]

theorem find?_built (name : String) :
    (built id? settings).attributes.find? name = settings.reverse.lookup name := by
  induction settings using List.reverseRecOn with
  | nil => rfl
  | append_singleton settings e ih =>
    obtain ⟨m, v⟩ := e
    rw [built_concat, set, SortedMap.find?_insert, ih, List.reverse_append, List.reverse_singleton,
      List.singleton_append, lookup_cons_eq_ite]

theorem attribute?_built_id : (built id? settings).attribute? "id" = id?.map .ofString := by
  rw [attribute?, if_pos rfl, id?_built]

theorem attribute?_built_eq_some_iff {name : String} (h : name ≠ "id") {v : Value} :
    (built id? settings).attribute? name = some v ↔ LastSet settings name v := by
  rw [attribute?, if_neg h, find?_built, lastSet_iff]

theorem attribute?_built_eq_none_iff {name : String} (h : name ≠ "id") :
    (built id? settings).attribute? name = none ↔ ∀ e ∈ settings, e.1 ≠ name := by
  rw [attribute?, if_neg h, find?_built, List.lookup_eq_none_iff]
  simp only [List.mem_reverse, bne_iff_ne, ne_comm]

/-- An identifier is no integer. -/
theorem attribute?_built_eq_ofInt64_iff {name : String} {n : Int64} :
    (built id? settings).attribute? name = some (.ofInt64 n) ↔
      name ≠ "id" ∧ LastSet settings name (.ofInt64 n) := by
  by_cases hname : name = "id"
  · subst hname
    rw [attribute?_built_id]
    refine iff_of_false (fun h => ?_) (fun h => h.1 rfl)
    obtain ⟨id, -, h⟩ := Option.map_eq_some_iff.1 h
    cases h
  · rw [attribute?_built_eq_some_iff hname]
    exact (and_iff_right hname).symm

end Node

/-! ### One dimension -/

namespace Dim

/-- The settings give the dimension this size. -/
inductive IsGiven (settings : List (String × Value)) : Dim → Int64 → Prop
  | size {n : Int64} (h : -1 ≤ n) : IsGiven settings (.size n) n
  | symbol {name : String} {n : Int64} (hname : name ≠ "id")
      (h : LastSet settings name (.ofInt64 n)) : IsGiven settings (.symbol name) n

/-- Why the dimension with this number does not resolve with a node that has this identifier and
these settings. -/
inductive IsRefused (id? : Option String) (settings : List (String × Value)) :
    Nat → Dim → ResolveError → Prop
  | size {index : Nat} {n : Int64} (h : n < -1) :
      IsRefused id? settings index (.size n) (.invalidDescriptor index n)
  | neverSet {index : Nat} {name : String} (hname : name ≠ "id")
      (h : ∀ e ∈ settings, e.1 ≠ name) :
      IsRefused id? settings index (.symbol name)
        (.unresolvedSymbol name (Node.built id? settings).label)
  | noIdentifier {index : Nat} (h : id? = none) :
      IsRefused id? settings index (.symbol "id")
        (.unresolvedSymbol "id" (Node.built id? settings).label)
  | noSize {index : Nat} {name : String} {v : Value} {kind : Json.Kind} (hname : name ≠ "id")
      (h : LastSet settings name v) (hsize : ∀ n, v ≠ .ofInt64 n)
      (hkind : v.json.IsCalled kind.display) :
      IsRefused id? settings index (.symbol name) (.wrongAttributeType name kind)
  | identifier {index : Nat} {id : String} (h : id? = some id) :
      IsRefused id? settings index (.symbol "id") (.wrongAttributeType "id" .str)

variable {id? : Option String} {settings : List (String × Value)} {index : Nat}

theorem resolvesTo_built_iff {d : Dim} {n : Int64} :
    d.ResolvesTo (some (Node.built id? settings).context) n ↔ d.IsGiven settings n := by
  cases d with
  | size m =>
    rw [resolvesTo_size_iff]
    constructor
    · rintro ⟨hm, rfl⟩
      exact .size hm
    · rintro ⟨hm⟩
      exact ⟨hm, rfl⟩
  | symbol name =>
    rw [resolvesTo_symbol_iff, Node.attribute?_context, Node.attribute?_built_eq_ofInt64_iff]
    constructor
    · rintro ⟨hname, h⟩
      exact .symbol hname h
    · rintro (_ | ⟨hname, h⟩)
      exact ⟨hname, h⟩

/-- The name of the identifier fails for another reason with a node that has one. -/
theorem resolveDim_built_id_eq_error_iff {e : ResolveError} :
    resolveDim (some (Node.built id? settings).context) index (.symbol "id") = .error e ↔
      (Dim.symbol "id").IsRefused id? settings index e := by
  rw [resolveDim_symbol_eq_error_iff, Node.attribute?_context, Node.label_context,
    Node.attribute?_built_id]
  cases id? with
  | none =>
    constructor
    · rintro (⟨-, rfl⟩ | ⟨v, h, -, -⟩)
      · exact .noIdentifier rfl
      · cases h
    · rintro (_ | ⟨hname, -⟩ | _ | ⟨hname, -⟩ | h)
      · exact absurd rfl hname
      · exact .inl ⟨rfl, rfl⟩
      · exact absurd rfl hname
      · cases h
  | some id =>
    constructor
    · rintro (⟨h, -⟩ | ⟨_, ⟨⟩, -, rfl⟩)
      · cases h
      · exact .identifier rfl
    · rintro (_ | ⟨hname, -⟩ | h | ⟨hname, -⟩ | _)
      · exact absurd rfl hname
      · cases h
      · exact absurd rfl hname
      · exact .inr ⟨_, rfl, nofun, rfl⟩

theorem resolveDim_built_eq_error_iff {d : Dim} {e : ResolveError} :
    resolveDim (some (Node.built id? settings).context) index d = .error e ↔
      d.IsRefused id? settings index e := by
  cases d with
  | size m =>
    rw [resolveDim_size_eq_error_iff]
    constructor
    · rintro ⟨hm, rfl⟩
      exact .size hm
    · rintro ⟨hm⟩
      exact ⟨hm, rfl⟩
  | symbol name =>
    by_cases hname : name = "id"
    · exact hname ▸ resolveDim_built_id_eq_error_iff
    · simp only [resolveDim_symbol_eq_error_iff, Node.attribute?_context, Node.label_context,
        Node.attribute?_built_eq_some_iff hname, Node.attribute?_built_eq_none_iff hname]
      constructor
      · rintro (⟨h, rfl⟩ | ⟨v, h, hsize, rfl⟩)
        · exact .neverSet hname h
        · exact .noSize hname h hsize v.json.isCalled_display_kind
      · rintro (_ | ⟨-, h⟩ | _ | ⟨-, h, hsize, hkind⟩ | _)
        · exact .inl ⟨h, rfl⟩
        · exact absurd rfl hname
        · exact .inr ⟨_, h, hsize, congrArg _ (Json.isCalled_display_iff.1 hkind).symm⟩
        · exact absurd rfl hname

end Dim

/-! ### Shapes -/

namespace Shape

theorem exists_forall₂_isGiven_iff {settings : List (String × Value)} {shape : Shape} :
    (∃ v, List.Forall₂ (Dim.IsGiven settings) shape v) ↔
      (∀ n, .size n ∈ shape → -1 ≤ n) ∧
        ∀ name, .symbol name ∈ shape → name ≠ "id" ∧ ∃ n, LastSet settings name (.ofInt64 n) := by
  rw [exists_forall₂_iff]
  constructor
  · intro h
    refine ⟨fun n hn => ?_, fun name hname => ?_⟩
    · obtain ⟨_, ⟨hvalid⟩⟩ := h _ hn
      exact hvalid
    · obtain ⟨n, hn⟩ := h _ hname
      cases hn with
      | symbol hid hset => exact ⟨hid, n, hset⟩
  · rintro ⟨hsize, hsymbol⟩ d hd
    cases d with
    | size n => exact ⟨n, .size (hsize n hd)⟩
    | symbol name =>
      obtain ⟨hid, n, hset⟩ := hsymbol name hd
      exact ⟨n, .symbol hid hset⟩

/-- Without a node only sizes resolve. -/
theorem resolve_none_eq_ok_iff {shape : Shape} {v : List Int64} :
    shape.resolve none = .ok v ↔ shape = ofSizes v ∧ ∀ n ∈ v, -1 ≤ n := by
  constructor
  · intro h
    have hsizes : List.Forall₂ (fun d n => d = .size n) shape v := by
      apply (resolve_eq_ok_iff.1 h).imp
      rintro _ _ ⟨-⟩
      rfl
    obtain rfl := forall₂_eq_size_iff.1 hsizes
    exact ⟨rfl, (resolve_ofSizes_eq_ok_iff.1 h).2⟩
  · rintro ⟨rfl, hv⟩
    exact resolve_ofSizes_eq_ok_iff.2 ⟨rfl, hv⟩

theorem resolve_none_eq_error_iff {shape : Shape} {e : ResolveError} :
    shape.resolve none = .error e ↔
      ∃ i d, FirstAt (fun _ d => ¬ ∃ n, d = .size n ∧ -1 ≤ n) shape i d ∧
        ((∃ n, n < -1 ∧ d = .size n ∧ e = .invalidDescriptor i n) ∨
          ∃ name, d = .symbol name ∧ e = .missingContext name) := by
  apply resolve_eq_error_iff
  · intro i d n
    cases d with
    | size m =>
      rw [Dim.resolveDim_size_eq_ok_iff, Dim.size.injEq, and_comm]
      exact and_congr_right fun h => h ▸ Iff.rfl
    | symbol name => simp [resolveDim, resolveSymbol]
  · intro i d e
    cases d with
    | size m => simp [Dim.resolveDim_size_eq_error_iff]
    | symbol name => simp [resolveDim, resolveSymbol, eq_comm]

/-! ### Main statement -/

/-- With a node that has been set up by setting attributes a shape resolves exactly if its sizes are
valid and the last value under each of its names is an integer that a size can be, none of the names
being that of the identifier. The sizes are these then, dimension for dimension. Otherwise the
leftmost dimension that is not like this gives the reason. So it is without a node, but there no
name resolves. -/
theorem resolve_built (id? : Option String) (settings : List (String × Value)) (shape : Shape) :
    ((∃ v, shape.resolve (some (Node.built id? settings).context) = .ok v) ↔
      (∀ n, .size n ∈ shape → -1 ≤ n) ∧
        ∀ name, .symbol name ∈ shape → name ≠ "id" ∧ ∃ n, LastSet settings name (.ofInt64 n)) ∧
    (∀ v, shape.resolve (some (Node.built id? settings).context) = .ok v ↔
      List.Forall₂ (Dim.IsGiven settings) shape v) ∧
    (∀ name n, (Node.built id? settings).context.size? name = some n ↔
      name ≠ "id" ∧ LastSet settings name (.ofInt64 n)) ∧
    (∀ e, shape.resolve (some (Node.built id? settings).context) = .error e ↔
      ∃ i d, FirstAt (fun _ d => ¬ ∃ n, d.IsGiven settings n) shape i d ∧
        d.IsRefused id? settings i e) ∧
    (∀ v, shape.resolve none = .ok v ↔ shape = ofSizes v ∧ ∀ n ∈ v, -1 ≤ n) ∧
    ∀ e, shape.resolve none = .error e ↔
      ∃ i d, FirstAt (fun _ d => ¬ ∃ n, d = .size n ∧ -1 ≤ n) shape i d ∧
        ((∃ n, n < -1 ∧ d = .size n ∧ e = .invalidDescriptor i n) ∨
          ∃ name, d = .symbol name ∧ e = .missingContext name) := by
  have hok (v : List Int64) : shape.resolve (some (Node.built id? settings).context) = .ok v ↔
      List.Forall₂ (Dim.IsGiven settings) shape v := by
    have hdim : Dim.ResolvesTo (some (Node.built id? settings).context) = Dim.IsGiven settings := by
      funext d n
      exact propext Dim.resolvesTo_built_iff
    rw [resolve_eq_ok_iff, hdim]
  refine ⟨?_, hok, fun name n => ?_, fun e => ?_, fun v => resolve_none_eq_ok_iff,
    fun e => resolve_none_eq_error_iff⟩
  · simp only [hok]
    exact exists_forall₂_isGiven_iff
  · simp only [Context.size?, Option.bind_eq_some_iff, Value.toInt64?_eq_some_iff, exists_eq_right]
    exact Node.attribute?_built_eq_ofInt64_iff
  · refine resolve_eq_error_iff (fun _ _ _ => ?_) fun _ _ _ => Dim.resolveDim_built_eq_error_iff
    exact Dim.resolveDim_eq_ok_iff.trans Dim.resolvesTo_built_iff

end Shape

end Dataflow
