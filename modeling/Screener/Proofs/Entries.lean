import Mathlib.Data.List.Nodup

/-!
# Entries with keys

Names, places and numbers are looked up in lists of entries, of which the first with the right key
counts.  If no key occurs twice, the entries are what can be found.
-/

namespace Screener

variable {α β : Type} [BEq α] [LawfulBEq α]

theorem lookup_eq_some_iff {entries : List (α × β)}
    (hdistinct : (entries.map Prod.fst).Nodup) {a : α} {b : β} :
    entries.lookup a = some b ↔ (a, b) ∈ entries := by
  induction entries with
  | nil => simp
  | cons entry rest ih =>
      obtain ⟨hfirst, hrest⟩ := List.nodup_cons.mp hdistinct
      rw [List.lookup_cons]
      by_cases heq : a = entry.1
      · have hnotMem : (a, b) ∉ rest := fun hmem =>
          hfirst (heq ▸ List.mem_map_of_mem (f := Prod.fst) hmem)
        simp [heq, heq ▸ hnotMem, Prod.ext_iff, eq_comm]
      · have hne : (a, b) ≠ entry := fun hentry => heq (by rw [← hentry])
        simp [beq_false_of_ne heq, ih hrest, hne]

/-- Without the entries of a key, the entries of other keys are found as before. -/
theorem lookup_filter_ne (entries : List (α × β)) {key other : α} (hother : other ≠ key) :
    (entries.filter fun entry => entry.1 != key).lookup other = entries.lookup other := by
  induction entries with
  | nil => rfl
  | cons entry rest ih =>
      obtain ⟨first, value⟩ := entry
      by_cases hfirst : first = key
      · have hskip : (other == first) = false := by
          rw [hfirst]
          exact beq_false_of_ne hother
        rw [List.filter_cons_of_neg (by simp [hfirst]), ih, List.lookup_cons, hskip]
      · rw [List.filter_cons_of_pos (by simpa using hfirst), List.lookup_cons, List.lookup_cons, ih]

end Screener
