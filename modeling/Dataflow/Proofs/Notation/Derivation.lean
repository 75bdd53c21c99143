import Dataflow.Notation.Reading
import Mathlib.Data.List.Induction

/-! The productions of contract notation as relations between tokens and what they say, and the
machine that reads them. After every list of tokens that it reads its state tells how far their
derivation has come, so that it accepts just the lists that derive from the grammar. -/
namespace Dataflow.Notation

/-! ### Productions -/

/-- `dim := int | ident` -/
inductive DerivesDim : Token → Dim → Prop
  | int (n : Int64) : DerivesDim (.int n) (.size n)
  | ident (name : String) : DerivesDim (.ident name) (.symbol name)

/-- `dim (',' dim)*` -/
inductive DerivesDims : List Token → Shape → Prop
  | one {t : Token} {d : Dim} (h : DerivesDim t d) : DerivesDims [t] [d]
  | more {ts : List Token} {shape : Shape} {t : Token} {d : Dim} (hs : DerivesDims ts shape)
      (h : DerivesDim t d) : DerivesDims (ts ++ [.comma, t]) (shape ++ [d])

/-- `shape := '[' (dim (',' dim)* ','?)? ']'` -/
inductive DerivesShape : List Token → Shape → Prop
  | empty : DerivesShape [.openBracket, .closeBracket] []
  | plain {ts : List Token} {shape : Shape} (h : DerivesDims ts shape) :
      DerivesShape (.openBracket :: ts ++ [.closeBracket]) shape
  | trailing {ts : List Token} {shape : Shape} (h : DerivesDims ts shape) :
      DerivesShape (.openBracket :: ts ++ [.comma, .closeBracket]) shape

/-- `dtype := ident ('.' ident)*` with the identifiers. -/
inductive DerivesDtype : List Token → List String → Prop
  | one (name : String) : DerivesDtype [.ident name] [name]
  | more {ts : List Token} {names : List String} (hs : DerivesDtype ts names) (name : String) :
      DerivesDtype (ts ++ [.dot, .ident name]) (names ++ [name])

/-- `dtype?` with the name that the identifiers make. -/
inductive DerivesName : List Token → Option String → Prop
  | absent : DerivesName [] none
  | present {ts : List Token} {names : List String} (h : DerivesDtype ts names) :
      DerivesName ts (some (".".intercalate names))

/-- `'?'? '...'?` -/
def marks (optional variadic : Bool) : List Token :=
  (if optional then [.question] else []) ++ if variadic then [.ellipsis] else []

/-- `notation := dtype? shape '?'? '...'?` -/
inductive Derives : List Token → Notation → Prop
  | mk {ds ts : List Token} {dtype? : Option String} {shape : Shape} (hd : DerivesName ds dtype?)
      (hs : DerivesShape ts shape) (optional variadic : Bool) :
      Derives (ds ++ ts ++ marks optional variadic) ⟨dtype?, shape, optional, variadic⟩

/-- A text says this if all of it is tokens and they derive it. -/
structure Reads (text : String) (n : Notation) : Prop where
  noStrays : strays text = []
  derives : Derives ((tokens text).map Prod.fst) n

theorem DerivesDtype.ne_nil {ts : List Token} {names : List String} (h : DerivesDtype ts names) :
    names ≠ [] := by
  cases h <;> simp

theorem DerivesDtype.intercalate_concat {ts : List Token} {names : List String}
    (h : DerivesDtype ts names) (name : String) :
    ".".intercalate (names ++ [name]) = ".".intercalate names ++ "." ++ name := by
  rw [String.intercalate_append_of_ne_nil h.ne_nil (by simp), String.intercalate_singleton]

/-! ### Runs of the machine -/

/-- Reads one token. -/
def step (p : State × Notation) (t : Token) : Option (State × Notation) :=
  (p.1.next? t).map (·, p.2.extend p.1 t)

/-- Reads tokens from the start on. -/
def run (ts : List Token) : Option (State × Notation) := ts.foldlM step (.start, {})

theorem run_append (ts us : List Token) :
    run (ts ++ us) = (run ts).bind fun p => us.foldlM step p := List.foldlM_append

theorem ofTokens_eq_ok_iff {stop : Nat} {s : State} {n m : Notation}
    {tokens : List (Token × Text.Span)} : ofTokens stop s n tokens = .ok m ↔
      ∃ s', (tokens.map Prod.fst).foldlM step (s, n) = some (s', m) ∧ s'.Accepts := by
  induction tokens generalizing s n with
  | nil =>
    simp only [ofTokens, List.map_nil, List.foldlM_nil, pure, Option.some.injEq, Prod.mk.injEq]
    split
    · rename_i hs
      constructor
      · rintro ⟨⟩
        exact ⟨s, ⟨rfl, rfl⟩, hs⟩
      · rintro ⟨s', ⟨rfl, rfl⟩, -⟩
        rfl
    · rename_i hs
      constructor
      · rintro ⟨⟩
      · rintro ⟨s', ⟨rfl, rfl⟩, hs'⟩
        exact absurd hs' hs
  | cons t tokens ih =>
    obtain ⟨t, span⟩ := t
    simp only [ofTokens, List.map_cons, List.foldlM_cons, step]
    cases hs : s.next? t with
    | none => simp
    | some s' => simpa using ih

/-! ### What one token adds -/

@[simp] theorem extend_dotted_ident (n : Notation) (name : String) :
    n.extend .dotted (.ident name) = { n with dtype? := n.dtype?.map (· ++ "." ++ name) } := rfl

@[simp] theorem extend_listing_int (n : Notation) (size : Int64) :
    n.extend .listing (.int size) = { n with shape := n.shape ++ [.size size] } := rfl

@[simp] theorem extend_listing_ident (n : Notation) (name : String) :
    n.extend .listing (.ident name) = { n with shape := n.shape ++ [.symbol name] } := rfl

@[simp] theorem extend_closeBracket (n : Notation) (s : State) : n.extend s .closeBracket = n := by
  cases s <;> rfl

@[simp] theorem extend_marked_ellipsis (n : Notation) :
    n.extend .marked .ellipsis = { n with variadic := true } := rfl

/-! ### What a state stands for -/

/-- What may have been read when the machine is in a state. -/
inductive Reached : State → List Token → Notation → Prop
  | start : Reached .start [] {}
  | named {ts : List Token} {names : List String} (h : DerivesDtype ts names) :
      Reached .named ts { dtype? := some (".".intercalate names) }
  | dotted {ts : List Token} {names : List String} (h : DerivesDtype ts names) :
      Reached .dotted (ts ++ [.dot]) { dtype? := some (".".intercalate names) }
  | opened {ds : List Token} {dtype? : Option String} (hd : DerivesName ds dtype?) :
      Reached .listing (ds ++ [.openBracket]) { dtype? }
  | listing {ds ts : List Token} {dtype? : Option String} {shape : Shape}
      (hd : DerivesName ds dtype?) (hs : DerivesDims ts shape) :
      Reached .listing (ds ++ .openBracket :: ts ++ [.comma]) { dtype?, shape }
  | listed {ds ts : List Token} {dtype? : Option String} {shape : Shape}
      (hd : DerivesName ds dtype?) (hs : DerivesDims ts shape) :
      Reached .listed (ds ++ .openBracket :: ts) { dtype?, shape }
  | closed {ds ts : List Token} {dtype? : Option String} {shape : Shape}
      (hd : DerivesName ds dtype?) (hs : DerivesShape ts shape) :
      Reached .closed (ds ++ ts) { dtype?, shape }
  | marked {ds ts : List Token} {dtype? : Option String} {shape : Shape}
      (hd : DerivesName ds dtype?) (hs : DerivesShape ts shape) :
      Reached .marked (ds ++ ts ++ [.question]) { dtype?, shape, optional := true }
  | complete {ds ts : List Token} {dtype? : Option String} {shape : Shape}
      (hd : DerivesName ds dtype?) (hs : DerivesShape ts shape) (optional : Bool) :
      Reached .complete (ds ++ ts ++ marks optional true)
        { dtype?, shape, optional, variadic := true }

/-- One more token leads to what the next state stands for. -/
theorem Reached.step {s s' : State} {ts : List Token} {n : Notation} {t : Token}
    (h : Reached s ts n) (hs : s.next? t = some s') : Reached s' (ts ++ [t]) (n.extend s t) := by
  match h, t, hs with
  | .start, .ident name, rfl => exact .named (.one name)
  | .start, .openBracket, rfl => exact .opened .absent
  | .named hd, .dot, rfl => exact .dotted hd
  | .named hd, .openBracket, rfl => exact .opened (.present hd)
  | .dotted hd, .ident name, rfl =>
    have hnamed := Reached.named (hd.more name)
    rw [hd.intercalate_concat] at hnamed
    simpa using hnamed
  | .opened hd, .int n, rfl => simpa using Reached.listed hd (.one (.int n))
  | .opened hd, .ident name, rfl => simpa using Reached.listed hd (.one (.ident name))
  | .opened hd, .closeBracket, rfl => simpa using Reached.closed hd .empty
  | .listing hd hds, .int n, rfl => simpa using Reached.listed hd (hds.more (.int n))
  | .listing hd hds, .ident name, rfl =>
    simpa using Reached.listed hd (hds.more (.ident name))
  | .listing hd hds, .closeBracket, rfl => simpa using Reached.closed hd (.trailing hds)
  | .listed hd hds, .comma, rfl => exact .listing hd hds
  | .listed hd hds, .closeBracket, rfl => simpa using Reached.closed hd (.plain hds)
  | .closed hd hshape, .question, rfl => exact .marked hd hshape
  | .closed hd hshape, .ellipsis, rfl => exact .complete hd hshape false
  | .marked hd hshape, .ellipsis, rfl =>
    simpa [marks] using Reached.complete hd hshape true

theorem reached_of_run {ts : List Token} {s : State} {n : Notation} (h : run ts = some (s, n)) :
    Reached s ts n := by
  induction ts using List.reverseRecOn generalizing s n with
  | nil =>
    cases h
    exact .start
  | append_singleton ts t ih =>
    rw [run_append] at h
    obtain ⟨⟨s', n'⟩, hts, h⟩ := Option.bind_eq_some_iff.1 h
    obtain ⟨s'', hnext, heq⟩ : ∃ s'', s'.next? t = some s'' ∧ (s'', n'.extend s' t) = (s, n) := by
      simpa [Notation.step] using h
    cases heq
    exact (ih hts).step hnext

/-! ### Runs over derived tokens -/

theorem run_dtype {ts : List Token} {names : List String} (h : DerivesDtype ts names) :
    run ts = some (.named, { dtype? := some (".".intercalate names) }) := by
  induction h with
  | one name => rfl
  | @more ts names hs name ih =>
    rw [run_append, ih, hs.intercalate_concat]
    rfl

/-- The opening bracket leads from a name, or from the start without one, into the list. -/
theorem run_name_openBracket {ds : List Token} {dtype? : Option String} (h : DerivesName ds dtype?)
    (ts : List Token) : run (ds ++ .openBracket :: ts) = ts.foldlM step (.listing, { dtype? }) := by
  cases h with
  | absent => rfl
  | present h =>
    rw [run_append, run_dtype h]
    rfl

theorem step_dim {t : Token} {d : Dim} (h : DerivesDim t d) (n : Notation) :
    step (.listing, n) t = some (.listed, { n with shape := n.shape ++ [d] }) := by
  cases h <;> rfl

theorem step_listed_comma (n : Notation) : step (.listed, n) .comma = some (.listing, n) := rfl

theorem foldlM_step_dims {ts : List Token} {shape : Shape} (h : DerivesDims ts shape)
    (n : Notation) :
    ts.foldlM step (.listing, n) = some (.listed, { n with shape := n.shape ++ shape }) := by
  induction h with
  | one h => simp [step_dim h]
  | more hs h ih =>
    simp [List.foldlM_append, ih, step_listed_comma, step_dim h]

theorem run_shape {ds ts : List Token} {dtype? : Option String} {shape : Shape}
    (hd : DerivesName ds dtype?) (hs : DerivesShape ts shape) :
    run (ds ++ ts) = some (.closed, { dtype?, shape }) := by
  have hclose (s : State) (m : Notation) (hs : s = .listing ∨ s = .listed) :
      step (s, m) .closeBracket = some (.closed, m) := by
    rcases hs with rfl | rfl <;> rfl
  cases hs with
  | empty => simp [run_name_openBracket hd, hclose]
  | plain hs =>
    rw [List.cons_append, run_name_openBracket hd]
    simp [List.foldlM_append, foldlM_step_dims hs, hclose]
  | trailing hs =>
    rw [List.cons_append, run_name_openBracket hd]
    simp [List.foldlM_append, foldlM_step_dims hs, hclose, step_listed_comma]

/-- The state in which the text ends. -/
def finalState (optional variadic : Bool) : State :=
  if variadic then .complete else if optional then .marked else .closed

theorem accepts_finalState (optional variadic : Bool) : (finalState optional variadic).Accepts := by
  cases optional <;> cases variadic <;> decide

theorem run_of_derives {ts : List Token} {n : Notation} (h : Derives ts n) :
    run ts = some (finalState n.optional n.variadic, n) := by
  obtain ⟨hd, hs, optional, variadic⟩ := h
  rw [run_append, run_shape hd hs]
  cases optional <;> cases variadic <;> rfl

/-- The machine accepts where a derivation may end. -/
theorem derives_of_reached {s : State} {ts : List Token} {n : Notation} (h : Reached s ts n)
    (hs : s.Accepts) : Derives ts n := by
  cases h with
  | start | named | dotted | opened | listing | listed => exact absurd hs (by decide)
  | closed hd hshape => simpa [marks] using Derives.mk hd hshape false false
  | marked hd hshape => simpa [marks] using Derives.mk hd hshape true false
  | complete hd hshape optional => exact .mk hd hshape optional true

theorem derives_iff_run {ts : List Token} {n : Notation} :
    Derives ts n ↔ ∃ s, run ts = some (s, n) ∧ s.Accepts :=
  ⟨fun h => ⟨_, run_of_derives h, accepts_finalState _ _⟩,
    fun ⟨_, hrun, hs⟩ => derives_of_reached (reached_of_run hrun) hs⟩

/-! ### Texts -/

theorem spelled_eq_ok_iff {text : String} {n : Notation} :
    spelled text = .ok n ↔ Derives ((tokens text).map Prod.fst) n :=
  ofTokens_eq_ok_iff.trans derives_iff_run.symm

theorem ofText_eq_ok_iff {text : String} {n : Notation} : ofText text = .ok n ↔ Reads text n := by
  rw [ofText]
  constructor
  · intro h
    split at h
    · rename_i hstrays hspelled
      cases h
      exact ⟨hstrays, spelled_eq_ok_iff.1 hspelled⟩
    · cases h
  · rintro ⟨hstrays, hderives⟩
    rw [hstrays, spelled_eq_ok_iff.2 hderives]

end Dataflow.Notation
