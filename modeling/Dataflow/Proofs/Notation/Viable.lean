import Dataflow.Proofs.Notation.Derivation

/-! Where notation goes wrong. Reading stops at the first token with which no sentence of the
grammar goes on, or at the end of a text that has no such token and is no sentence yet, and tells
what goes on there in some sentence. Every state leads to the end of a sentence, so that the machine
goes on exactly with tokens that begin one. -/
namespace Dataflow.Notation

open Text (Span byteLength)

/-! ### Sentences and their beginnings -/

/-- The tokens derive from the grammar, whatever they say. -/
def IsSentence (ts : List Token) : Prop := ∃ n, Derives ts n

/-- A sentence begins with these tokens. -/
def IsViable (ts : List Token) : Prop := ∃ us, IsSentence (ts ++ us)

/-- What comes after these tokens in some sentence: a token of some class, or nothing. -/
inductive Follows (ts : List Token) : Expected → Prop
  | token {t : Token} {us : List Token} (h : IsSentence (ts ++ t :: us)) : Follows ts t.expected
  | endOfInput (h : IsSentence ts) : Follows ts .endOfInput

theorem IsSentence.isViable {ts : List Token} (h : IsSentence ts) : IsViable ts :=
  ⟨[], by rwa [List.append_nil]⟩

theorem IsViable.of_append {ts us : List Token} (h : IsViable (ts ++ us)) : IsViable ts := by
  obtain ⟨vs, hvs⟩ := h
  exact ⟨us ++ vs, by rwa [← List.append_assoc]⟩

theorem IsViable.of_prefix {ts us : List Token} (hp : ts <+: us) (h : IsViable us) :
    IsViable ts := by
  obtain ⟨vs, rfl⟩ := hp
  exact h.of_append

/-! ### The machine -/

/-- Tokens that lead from a state to the end of a sentence. -/
def State.completion : State → List Token
  | start | named => [.openBracket, .closeBracket]
  | dotted => [.ident "x", .openBracket, .closeBracket]
  | listing | listed => [.closeBracket]
  | closed | marked | complete => []

theorem exists_foldlM_completion (s : State) (n : Notation) :
    ∃ s' m, s.completion.foldlM step (s, n) = some (s', m) ∧ s'.Accepts := by
  cases s <;> exact ⟨_, _, rfl, by decide⟩

theorem isSentence_iff_run {ts : List Token} :
    IsSentence ts ↔ ∃ s n, run ts = some (s, n) ∧ s.Accepts := by
  simp only [IsSentence, derives_iff_run]
  exact exists_comm

/-- The machine reads a list of tokens as long as it may become a sentence. -/
theorem isViable_iff_run {ts : List Token} : IsViable ts ↔ ∃ s n, run ts = some (s, n) := by
  constructor
  · intro ⟨us, h⟩
    obtain ⟨s', m, hrun, -⟩ := isSentence_iff_run.1 h
    rw [run_append] at hrun
    obtain ⟨⟨s, n⟩, hts, -⟩ := Option.bind_eq_some_iff.1 hrun
    exact ⟨s, n, hts⟩
  · intro ⟨s, n, h⟩
    obtain ⟨s', m, hcompletion, haccepts⟩ := exists_foldlM_completion s n
    refine ⟨s.completion, isSentence_iff_run.2 ⟨s', m, ?_, haccepts⟩⟩
    rw [run_append, h]
    exact hcompletion

section State
variable {ts : List Token} {s : State} {n : Notation}

theorem isSentence_iff_accepts (h : run ts = some (s, n)) : IsSentence ts ↔ s.Accepts := by
  rw [isSentence_iff_run, h]
  simp

theorem isViable_concat_iff (h : run ts = some (s, n)) (t : Token) :
    IsViable (ts ++ [t]) ↔ t.expected ∈ s.expected := by
  have hnext := s.isSome_next? t
  rw [isViable_iff_run, run_append, h]
  cases ht : s.next? t with
  | none => simpa [step, ht] using hnext
  | some s' => simpa [step, ht] using hnext

/-- Every class but the end of the text is that of some token. -/
theorem exists_token_expected {e : Expected} (h : e ≠ .endOfInput) :
    ∃ t : Token, t.expected = e := by
  cases e with
  | int => exact ⟨.int 0, rfl⟩
  | ident => exact ⟨.ident "x", rfl⟩
  | openBracket => exact ⟨.openBracket, rfl⟩
  | closeBracket => exact ⟨.closeBracket, rfl⟩
  | comma => exact ⟨.comma, rfl⟩
  | dot => exact ⟨.dot, rfl⟩
  | ellipsis => exact ⟨.ellipsis, rfl⟩
  | question => exact ⟨.question, rfl⟩
  | endOfInput => exact absurd rfl h

/-- A state expects what follows in some sentence. -/
theorem mem_expected_iff_follows (h : run ts = some (s, n)) (e : Expected) :
    e ∈ s.expected ↔ Follows ts e := by
  constructor
  · intro he
    by_cases hend : e = .endOfInput
    · rw [hend] at he ⊢
      exact .endOfInput ((isSentence_iff_accepts h).2 he)
    · obtain ⟨t, rfl⟩ := exists_token_expected hend
      obtain ⟨us, hus⟩ := (isViable_concat_iff h t).2 he
      rw [List.append_assoc] at hus
      exact .token hus
  · intro hfollows
    cases hfollows with
    | @token t us hsentence =>
      have hviable : IsViable ((ts ++ [t]) ++ us) := by
        rw [List.append_assoc]
        exact hsentence.isViable
      exact (isViable_concat_iff h t).1 hviable.of_append
    | endOfInput hsentence => exact (isSentence_iff_accepts h).1 hsentence

end State

/-! ### Where reading stops -/

/-- The shortest of the beginnings of a list that begin no sentence. -/
structure IsShortestBlocked (ts us : List Token) : Prop where
  begins : us <+: ts
  blocked : ¬ IsViable us
  shortest : ∀ vs, vs <+: ts → ¬ IsViable vs → us.length ≤ vs.length

theorem isShortestBlocked_concat {ts : List Token} {t : Token} (hviable : IsViable ts)
    (hblocked : ¬ IsViable (ts ++ [t])) (rest : List Token) :
    IsShortestBlocked (ts ++ t :: rest) (ts ++ [t]) where
  begins := ⟨rest, by simp⟩
  blocked := hblocked
  shortest vs hvs hnot := by
    by_contra hlt
    rw [List.length_append, List.length_singleton] at hlt
    have hbegins : vs <+: ts :=
      List.prefix_of_prefix_length_le hvs (List.prefix_append ts (t :: rest)) (by omega)
    exact hnot (hviable.of_prefix hbegins)

/-- These are all the classes that follow the tokens in some sentence, each once. -/
structure ListsFollowing (ts : List Token) (expected : List Expected) : Prop where
  nodup : expected.Nodup
  mem_iff : ∀ e, e ∈ expected ↔ Follows ts e

theorem listsFollowing_expected {ts : List Token} {s : State} {n : Notation}
    (h : run ts = some (s, n)) : ListsFollowing ts s.expected where
  nodup := by cases s <;> decide
  mem_iff := mem_expected_iff_follows h

/-- The first thing out of place: the last token of the shortest beginning that begins no sentence,
or the end of the text where every beginning may still become one. -/
inductive IsFirstMisplaced (stop : Nat) (tokens : List (Token × Span)) : Misplaced → Prop
  | token {before after : List (Token × Span)} {t : Token} {span : Span} {expected : List Expected}
      (htokens : tokens = before ++ (t, span) :: after)
      (hshortest : IsShortestBlocked (tokens.map Prod.fst) (before.map Prod.fst ++ [t]))
      (hexpected : ListsFollowing (before.map Prod.fst) expected) :
      IsFirstMisplaced stop tokens ⟨some t, span, expected⟩
  | endOfInput {expected : List Expected}
      (hviable : ∀ us, us <+: tokens.map Prod.fst → IsViable us)
      (hsentence : ¬ IsSentence (tokens.map Prod.fst))
      (hexpected : ListsFollowing (tokens.map Prod.fst) expected) :
      IsFirstMisplaced stop tokens ⟨none, ⟨stop, stop⟩, expected⟩

/-- Reading on after some tokens stops at the first thing out of place in all of them. -/
theorem isFirstMisplaced_of_ofTokens {stop : Nat} {before rest : List (Token × Span)} {s : State}
    {n : Notation} {what : Misplaced} (hrun : run (before.map Prod.fst) = some (s, n))
    (h : ofTokens stop s n rest = .error what) : IsFirstMisplaced stop (before ++ rest) what := by
  induction rest generalizing before s n with
  | nil =>
    rw [ofTokens] at h
    split at h
    · cases h
    · rename_i haccepts
      cases h
      rw [List.append_nil]
      have hviable : IsViable (before.map Prod.fst) := isViable_iff_run.2 ⟨s, n, hrun⟩
      exact .endOfInput (fun us hus => hviable.of_prefix hus)
        (mt (isSentence_iff_accepts hrun).1 haccepts) (listsFollowing_expected hrun)
  | cons p rest ih =>
    obtain ⟨t, span⟩ := p
    rw [ofTokens] at h
    split at h
    · rename_i s' hnext
      have hstep : run ((before ++ [(t, span)]).map Prod.fst) = some (s', n.extend s t) := by
        rw [List.map_append, run_append, hrun]
        simp [step, hnext]
      have hall := ih hstep h
      rwa [List.append_assoc, List.singleton_append] at hall
    · rename_i hnext
      cases h
      have hviable : IsViable (before.map Prod.fst) := isViable_iff_run.2 ⟨s, n, hrun⟩
      have hblocked : ¬ IsViable (before.map Prod.fst ++ [t]) := by
        rw [isViable_concat_iff hrun]
        have hsome := s.isSome_next? t
        simpa [hnext] using hsome
      refine .token rfl ?_ (listsFollowing_expected hrun)
      rw [List.map_append, List.map_cons]
      exact isShortestBlocked_concat hviable hblocked _

theorem isFirstMisplaced_of_spelled {text : String} {what : Misplaced}
    (h : spelled text = .error what) :
    IsFirstMisplaced (byteLength text.toList) (tokens text) what := by
  have hstart : run (([] : List (Token × Span)).map Prod.fst) = some (.start, {}) := rfl
  exact isFirstMisplaced_of_ofTokens hstart h

/-! ### Texts -/

theorem isSentence_iff_spelled {text : String} :
    IsSentence ((tokens text).map Prod.fst) ↔ ∃ n, spelled text = .ok n := by
  simp only [IsSentence, spelled_eq_ok_iff]

theorem ofText_of_faults {text : String} (h : faults text ≠ []) :
    ofText text = .error (.malformed (faults text)) := by
  rw [ofText]
  split
  · rename_i hstrays hspelled
    simp [faults, hstrays, hspelled] at h
  · rfl

/-- Integers, and no other tokens, go by a phrase. -/
theorem display_expected_eq_iff (t : Token) :
    t.expected.display = "something else" ↔ ∃ n, t = .int n := by
  cases t <;> simp [Token.expected, Expected.display]

/-- What is wrong with a text are its stray characters and, exactly if its tokens are no sentence,
the first thing out of place after them. Each way in then fails with one message for each of
these, in this order. -/
theorem faults_firstMisplaced (text : String) :
    (IsSentence ((tokens text).map Prod.fst) ↔ faults text = (strays text).map .stray) ∧
    (IsSentence ((tokens text).map Prod.fst) ↔ ∃ n, spelled text = .ok n) ∧
    (¬ IsSentence ((tokens text).map Prod.fst) → ∃ what,
      faults text = (strays text).map .stray ++ [.misplaced what] ∧
        IsFirstMisplaced (byteLength text.toList) (tokens text) what) ∧
    (∀ t : Token, t.expected.display = "something else" ↔ ∃ n, t = .int n) ∧
    (faults text ≠ [] →
      (∃ e, readSpec text = .error e ∧ e.messages = (faults text).map Fault.placedMessage) ∧
      (∃ e, readInput text = .error e ∧ e.messages = (faults text).map Fault.placedMessage) ∧
      ∃ e, readShape text = .error e ∧ e.messages = (faults text).map Fault.placedMessage) := by
  refine ⟨?_, isSentence_iff_spelled, fun hnot => ?_, display_expected_eq_iff, fun hfaults => ?_⟩
  · rw [isSentence_iff_spelled, faults]
    cases spelled text with
    | ok n => simp
    | error what => simp
  · rw [isSentence_iff_spelled] at hnot
    cases hspelled : spelled text with
    | ok n => exact absurd ⟨n, hspelled⟩ hnot
    | error what =>
      refine ⟨what, ?_, isFirstMisplaced_of_spelled hspelled⟩
      rw [faults, hspelled]
  · have hmalformed := ofText_of_faults hfaults
    have hspec : readSpec text = .error ⟨text, .malformed (faults text)⟩ := by
      rw [readSpec, specOf, hmalformed]
      rfl
    have hinput : readInput text = .error ⟨text, .malformed (faults text)⟩ := by
      rw [readInput, inputOf, hmalformed]
      rfl
    have hshape : readShape text = .error ⟨text, .malformed (faults text)⟩ := by
      rw [readShape, shapeOf, hmalformed]
      rfl
    exact ⟨⟨_, hspec, rfl⟩, ⟨_, hinput, rfl⟩, ⟨_, hshape, rfl⟩⟩

/-- A semicolon is passed over, and then the second number has nothing before it to separate it. -/
theorem faults_firstMisplaced_semicolon :
    ¬ IsSentence ((tokens "x[1 ; 2]").map Prod.fst) ∧
    IsFirstMisplaced 8 (tokens "x[1 ; 2]")
      ⟨some (.int 2), ⟨6, 7⟩, [.comma, .closeBracket]⟩ ∧
    ∃ e, readShape "x[1 ; 2]" = .error e ∧ e.messages =
      ["unexpected character ';' at 4..5", "found '2' expected ',', or ']' at 6..7"] := by
  have hfaults : faults "x[1 ; 2]" = [.stray ⟨[';'], ⟨4, 5⟩, none⟩,
      .misplaced ⟨some (.int 2), ⟨6, 7⟩, [.comma, .closeBracket]⟩] := by decide +kernel
  have hstrays : strays "x[1 ; 2]" = [⟨[';'], ⟨4, 5⟩, none⟩] := by decide +kernel
  have hmessages : (faults "x[1 ; 2]").map Fault.placedMessage =
      ["unexpected character ';' at 4..5", "found '2' expected ',', or ']' at 6..7"] := by
    decide +kernel
  obtain ⟨hnone, -, hfirst, -, hread⟩ := faults_firstMisplaced "x[1 ; 2]"
  have hnot : ¬ IsSentence ((tokens "x[1 ; 2]").map Prod.fst) := by
    rw [hnone, hfaults, hstrays]
    decide
  obtain ⟨what, hwhat, hmisplaced⟩ := hfirst hnot
  rw [hfaults, hstrays] at hwhat
  cases hwhat
  obtain ⟨-, -, hshape⟩ := hread (by rw [hfaults]; exact List.cons_ne_nil _ _)
  rw [hmessages] at hshape
  exact ⟨hnot, hmisplaced, hshape⟩

end Dataflow.Notation
