import Dataflow.Text.Span
import Mathlib.Data.List.Infix

/-! Places in a text. A span that begins and ends between characters takes a run of characters out
of the text, and the span determines which. -/
namespace Dataflow.Text

theorem byteLength_pos {cs : List Char} (h : cs ≠ []) : 0 < byteLength cs := by
  obtain ⟨c, cs, rfl⟩ := List.exists_cons_of_ne_nil h
  have := c.utf8Size_pos
  rw [byteLength_cons]
  omega

theorem byteLength_le_of_prefix {xs ys : List Char} (h : xs <+: ys) :
    byteLength xs ≤ byteLength ys := by
  obtain ⟨zs, rfl⟩ := h
  rw [byteLength_append]
  exact Nat.le_add_right _ _

/-- Of two beginnings of a text the one with no more bytes begins the other. -/
theorem prefix_of_byteLength_le {cs xs ys : List Char} (hx : xs <+: cs) (hy : ys <+: cs)
    (h : byteLength xs ≤ byteLength ys) : xs <+: ys := by
  obtain hbegins | ⟨zs, rfl⟩ := List.prefix_or_prefix_of_prefix hx hy
  · exact hbegins
  · have hzs : zs = [] := by
      by_contra hne
      have := byteLength_pos hne
      rw [byteLength_append] at h
      omega
    rw [hzs, List.append_nil]

/-- Two beginnings of a text with equally many bytes are the same. -/
theorem eq_of_byteLength_eq {cs xs ys : List Char} (hx : xs <+: cs) (hy : ys <+: cs)
    (h : byteLength xs = byteLength ys) : xs = ys :=
  antisymm (prefix_of_byteLength_le hx hy h.le) (prefix_of_byteLength_le hy hx h.ge)

namespace Span

/-- The first span ends before the second begins, or where it does. -/
def Precedes (a b : Span) : Prop := a.stop ≤ b.start

def Covers (s : Span) (i : Nat) : Prop := s.start ≤ i ∧ i < s.stop

/-- The span begins before this place and ends after it. -/
def Straddles (s : Span) (place : Nat) : Prop := s.start < place ∧ place < s.stop

instance (s : Span) (place : Nat) : Decidable (s.Straddles place) :=
  inferInstanceAs (Decidable (_ ∧ _))

/-- The span after this many bytes have been put in at a place that it does not straddle. -/
def moved (place count : Nat) (s : Span) : Span :=
  if place ≤ s.start then ⟨s.start + count, s.stop + count⟩ else s

/-- The span takes the characters `cs` out of the text, which goes on with `after`. -/
def Cuts (s : Span) (text : String) (cs after : List Char) : Prop :=
  ∃ before, text.toList = before ++ cs ++ after ∧
    s = ⟨byteLength before, byteLength before + byteLength cs⟩

variable {s : Span} {text : String} {cs after : List Char}

theorem Cuts.start_lt_stop (h : s.Cuts text cs after) (hne : cs ≠ []) : s.start < s.stop := by
  obtain ⟨before, -, rfl⟩ := h
  have := byteLength_pos hne
  show byteLength before < byteLength before + byteLength cs
  omega

theorem Cuts.stop_le (h : s.Cuts text cs after) : s.stop ≤ byteLength text.toList := by
  obtain ⟨before, htext, rfl⟩ := h
  rw [htext, byteLength_append, byteLength_append]
  exact Nat.le_add_right _ _

theorem Cuts.unique {cs' after' : List Char} (h : s.Cuts text cs after)
    (h' : s.Cuts text cs' after') : cs = cs' ∧ after = after' := by
  obtain ⟨before, htext, rfl⟩ := h
  obtain ⟨before', htext', hspan⟩ := h'
  simp only [Span.mk.injEq] at hspan
  obtain ⟨hstart, hstop⟩ := hspan
  have hbefore : before = before' := by
    refine eq_of_byteLength_eq (?_ : before <+: text.toList) ?_ hstart
    · exact ⟨cs ++ after, by rw [htext, List.append_assoc]⟩
    · exact ⟨cs' ++ after', by rw [htext', List.append_assoc]⟩
  subst hbefore
  have hrest : cs ++ after = cs' ++ after' := by
    have hboth := htext.symm.trans htext'
    rwa [List.append_assoc, List.append_assoc, List.append_cancel_left_eq] at hboth
  have hcs : cs = cs' := by
    refine eq_of_byteLength_eq (List.prefix_append cs after) ?_ (by omega)
    rw [hrest]
    exact List.prefix_append cs' after'
  subst hcs
  exact ⟨rfl, List.append_cancel_left hrest⟩

/-- What is put in where a span does not straddle leaves it with the same characters. -/
theorem Cuts.moved {a w b : String} (h : s.Cuts (a ++ b) cs after)
    (hs : ¬ s.Straddles (byteLength a.toList)) :
    ∃ after', (s.moved (byteLength a.toList) (byteLength w.toList)).Cuts (a ++ w ++ b) cs after' := by
  obtain ⟨before, htext, rfl⟩ := h
  rw [String.toList_append] at htext
  have ha : a.toList <+: before ++ cs ++ after := htext ▸ List.prefix_append _ _
  by_cases hplace : byteLength a.toList ≤ byteLength before
  · -- the span stands after the place
    have hbefore : before <+: before ++ cs ++ after := ⟨cs ++ after, by rw [List.append_assoc]⟩
    obtain ⟨rest, rfl⟩ := prefix_of_byteLength_le ha hbefore hplace
    have hb : b.toList = rest ++ cs ++ after := by simpa using htext
    refine ⟨after, a.toList ++ w.toList ++ rest, ?_, ?_⟩
    · simp [hb]
    · rw [Span.moved, if_pos hplace]
      simp only [byteLength_append, mk.injEq]
      omega
  · have hstop : byteLength (before ++ cs) ≤ byteLength a.toList := by
      rw [byteLength_append]
      by_contra hlt
      exact hs ⟨Nat.lt_of_not_le hplace, Nat.lt_of_not_le hlt⟩
    obtain ⟨rest, hrest⟩ := prefix_of_byteLength_le (List.prefix_append _ _) ha hstop
    refine ⟨rest ++ w.toList ++ b.toList, before, ?_, ?_⟩
    · simp [← hrest]
    · rw [Span.moved, if_neg hplace]

end Span

end Dataflow.Text
