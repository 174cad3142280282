import Mathlib.Data.List.Basic
import TraceLog.Proofs.Entries
import TraceLog.Text.Split

/-!
# Trimmed Texts, and Texts in Pieces

Trimming takes the gaps away at both ends of a text, and what it leaves has no blank at either
end. These two facts determine it: a text that stands between two gaps is what trimming them gives
as soon as it has no blank at an end itself.

Cutting a text at a separator goes along the text: the first piece ends at the first separator, and
the pieces behind it are those of the rest. `Text.piece_induction` is induction along that.

## Main results

* `Text.trim_gaps`, `Text.trim_between`: what trimming gives for a text between two gaps.
* `Text.strip_eq_iff`: the texts that trimming does not change.
* `Text.splitOn_append_cons`, `Text.piece_induction`: the first piece of a text.
-/

namespace TraceLog.Text

variable {sep : Char} {s before after piece : List Char}

/-! ### Trimming -/

/-- No blank stands at either end of a text. -/
structure IsTrimmed (s : List Char) : Prop where
  first : ∀ c ∈ s.head?, isBlank c = false
  last : ∀ c ∈ s.getLast?, isBlank c = false

instance (s : List Char) : Decidable (IsTrimmed s) :=
  @decidable_of_iff' _ (_ ∧ _) ⟨fun h => ⟨h.first, h.last⟩, fun h => ⟨h.1, h.2⟩⟩
    (@instDecidableAnd _ _ (Option.decidableForallMem _) (Option.decidableForallMem _))

/-- Two gaps one after the other are a gap. -/
theorem IsGap.append {gap gap' : List Char} (h : IsGap gap) (h' : IsGap gap') :
    IsGap (gap ++ gap') :=
  List.forall_mem_append.mpr ⟨h, h'⟩

/-- What is trimmed at the end of a text is a gap. -/
theorem exists_trim_append_gap (s : List Char) :
    ∃ gap, IsGap gap ∧ trimStart s = trim s ++ gap := by
  obtain ⟨gap, hgap, hend⟩ := exists_gap_append_trimStart (trimStart s).reverse
  refine ⟨gap.reverse, fun c hc => hgap c (List.mem_reverse.mp hc), ?_⟩
  rw [trim, trimEnd, ← List.reverse_append]
  exact List.reverse_eq_iff.mp hend

/-- A text is what trimming leaves, between two gaps. -/
theorem exists_gaps_append_trim (s : List Char) :
    ∃ before after, IsGap before ∧ IsGap after ∧ s = before ++ trim s ++ after := by
  obtain ⟨before, hbefore, hstart⟩ := exists_gap_append_trimStart s
  obtain ⟨after, hafter, hend⟩ := exists_trim_append_gap s
  refine ⟨before, after, hbefore, hafter, ?_⟩
  rw [List.append_assoc, ← hend]
  exact hstart

/-- Trimming leaves no blank at either end. -/
theorem isTrimmed_trim (s : List Char) : IsTrimmed (trim s) := by
  constructor
  · intro c hc
    obtain ⟨gap, -, hend⟩ := exists_trim_append_gap s
    refine head?_dropWhile isBlank s c ?_
    change c ∈ (trimStart s).head?
    rw [hend]
    exact List.mem_head?_append_of_mem_head? hc
  · rw [trim, trimEnd, List.getLast?_reverse]
    exact head?_dropWhile isBlank _

/-- **A text between two gaps** is what trimming them gives, if it has no blank at an end. -/
theorem trim_gaps (hbefore : IsGap before) (hs : IsTrimmed s) (hafter : IsGap after) :
    trim (before ++ (s ++ after)) = s := by
  by_cases hne : s = []
  · rw [hne, trim_eq_nil_iff, List.nil_append]
    exact hbefore.append hafter
  have hstart : trimStart (before ++ (s ++ after)) = s ++ after := by
    refine dropWhile_append_of_head? hbefore fun c hc => hs.first c ?_
    rwa [List.head?_append_of_ne_nil _ hne] at hc
  have hend : trimEnd (s ++ after) = s := by
    rw [trimEnd, List.reverse_append, dropWhile_append_of_head?, List.reverse_reverse]
    · exact fun c hc => hafter c (List.mem_reverse.mp hc)
    · rw [List.head?_reverse]
      exact hs.last
  rw [trim, hstart, hend]

/-- Gaps around a text are trimmed with the rest. -/
theorem trim_between (hbefore : IsGap before) (s : List Char) (hafter : IsGap after) :
    trim (before ++ s ++ after) = trim s := by
  obtain ⟨front, back, hfront, hback, hs⟩ := exists_gaps_append_trim s
  have hwider : before ++ s ++ after = (before ++ front) ++ (trim s ++ (back ++ after)) := by
    conv_lhs => rw [hs]
    simp only [List.append_assoc]
  rw [hwider, trim_gaps (hbefore.append hfront) (isTrimmed_trim s) (hback.append hafter)]

/-- A gap behind a text is trimmed with the rest. -/
theorem trim_append_gap (s : List Char) (h : IsGap after) : trim (s ++ after) = trim s := by
  have hempty : IsGap [] := List.forall_mem_nil _
  rw [← trim_between hempty s h, List.nil_append]

/-- **The texts that trimming does not change** have no blank at either end. -/
theorem strip_eq_iff {s : String} : strip s = s ↔ IsTrimmed s.toList := by
  rw [strip]
  constructor
  · intro h
    have htrimmed := isTrimmed_trim s.toList
    rwa [← String.toList_ofList (l := trim s.toList), h] at htrimmed
  · intro h
    have hempty : IsGap [] := List.forall_mem_nil _
    have htrim := trim_gaps hempty h hempty
    rw [List.nil_append, List.append_nil] at htrim
    rw [htrim, String.ofList_toList]

/-! ### Pieces -/

/-- A text without the separator is one piece. -/
theorem splitOn_of_not_mem (h : sep ∉ piece) : splitOn sep piece = [piece] := by
  induction piece with
  | nil => rfl
  | cons c piece ih =>
      obtain ⟨hc, hpiece⟩ := not_or.mp (List.mem_cons.not.mp h)
      rw [splitOn, if_neg (Ne.symm hc), ih hpiece]

/-- **The first piece** ends at the first separator. -/
theorem splitOn_append_cons (h : sep ∉ piece) (s : List Char) :
    splitOn sep (piece ++ sep :: s) = piece :: splitOn sep s := by
  induction piece with
  | nil => rw [List.nil_append, splitOn, if_pos rfl]
  | cons c piece ih =>
      obtain ⟨hc, hpiece⟩ := not_or.mp (List.mem_cons.not.mp h)
      rw [List.cons_append, splitOn, if_neg (Ne.symm hc), ih hpiece]

/-- Induction along the pieces of a text. -/
theorem piece_induction {motive : List Char → Prop} (sep : Char)
    (last : ∀ piece, sep ∉ piece → motive piece)
    (cons : ∀ piece rest, sep ∉ piece → motive rest → motive (piece ++ sep :: rest))
    (s : List Char) : motive s := by
  induction hlength : s.length using Nat.strong_induction_on generalizing s with
  | _ n ih =>
      by_cases hmem : sep ∈ s
      · obtain ⟨piece, rest, rfl, hpiece⟩ := List.eq_append_cons_of_mem hmem
        have hshorter : rest.length < n := by
          rw [← hlength, List.length_append, List.length_cons]
          omega
        exact cons piece rest hpiece (ih rest.length hshorter rest rfl)
      · exact last s hmem

end TraceLog.Text
