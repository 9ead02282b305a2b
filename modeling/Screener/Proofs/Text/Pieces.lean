import Mathlib.Data.List.Basic

/-!
# Pieces between separators

The pieces of a list that is cut at a separator.  No piece has the separator in it, and each is made
of what the list holds.  Pieces that are put together hold nothing but themselves and the separator.
-/

namespace Screener.Text

variable {α : Type} [DecidableEq α]

theorem not_mem_of_mem_splitOn {separator : α} {cs piece : List α}
    (hpiece : piece ∈ cs.splitOn separator) : separator ∉ piece := by
  induction cs generalizing piece with
  | nil =>
      rw [List.splitOn_nil, List.mem_singleton] at hpiece
      rw [hpiece]
      exact List.not_mem_nil
  | cons c rest ih =>
      rw [List.splitOn_cons_eq_if_modifyHead] at hpiece
      split at hpiece
      · rcases List.mem_cons.mp hpiece with rfl | hrest
        · exact List.not_mem_nil
        · exact ih hrest
      · next hc =>
        obtain ⟨first, others, hsplit⟩ :=
          List.exists_cons_of_ne_nil (List.splitOn_ne_nil separator rest)
        rw [hsplit] at ih
        rw [hsplit, List.modifyHead_cons] at hpiece
        rcases List.mem_cons.mp hpiece with rfl | hothers
        · rw [List.mem_cons, not_or]
          exact ⟨fun heq => hc (beq_iff_eq.mpr heq.symm), ih List.mem_cons_self⟩
        · exact ih (List.mem_cons_of_mem first hothers)

theorem subset_of_mem_splitOn {separator : α} {cs piece : List α}
    (hpiece : piece ∈ cs.splitOn separator) : piece ⊆ cs := by
  induction cs generalizing piece with
  | nil =>
      rw [List.splitOn_nil, List.mem_singleton] at hpiece
      rw [hpiece]
      exact List.Subset.refl []
  | cons c rest ih =>
      rw [List.splitOn_cons_eq_if_modifyHead] at hpiece
      split at hpiece
      · rcases List.mem_cons.mp hpiece with rfl | hrest
        · exact List.nil_subset _
        · exact List.subset_cons_of_subset c (ih hrest)
      · obtain ⟨first, others, hsplit⟩ :=
          List.exists_cons_of_ne_nil (List.splitOn_ne_nil separator rest)
        rw [hsplit] at ih
        rw [hsplit, List.modifyHead_cons] at hpiece
        rcases List.mem_cons.mp hpiece with rfl | hothers
        · exact List.cons_subset_cons c (ih List.mem_cons_self)
        · exact List.subset_cons_of_subset c (ih (List.mem_cons_of_mem first hothers))

theorem eq_or_mem_of_mem_intercalate {α : Type} {separator c : α} {pieces : List (List α)}
    (hc : c ∈ [separator].intercalate pieces) : c = separator ∨ ∃ piece ∈ pieces, c ∈ piece := by
  induction pieces with
  | nil => cases hc
  | cons first others ih =>
      by_cases hothers : others = []
      · rw [hothers, List.intercalate_singleton] at hc
        exact .inr ⟨first, List.mem_cons_self, hc⟩
      · rw [List.intercalate_cons_of_ne_nil hothers, List.mem_append, List.mem_append,
          List.mem_singleton] at hc
        rcases hc with (hc | rfl) | hc
        · exact .inr ⟨first, List.mem_cons_self, hc⟩
        · exact .inl rfl
        · rcases ih hc with rfl | ⟨piece, hpiece, hc⟩
          · exact .inl rfl
          · exact .inr ⟨piece, List.mem_cons_of_mem first hpiece, hc⟩

end Screener.Text
