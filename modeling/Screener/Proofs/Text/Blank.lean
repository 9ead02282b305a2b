import Mathlib.Data.List.DropRight
import Screener.Text.Blank

/-!
# Trimmed texts

Trimming a text removes the blank characters at its ends and nothing else, so more of them do not
matter (`trim_padded`) and a text without any is kept (`trim_eq_self`).
-/

namespace Screener.Text

/-- Whether all characters are blank. -/
def IsBlank (cs : List Char) : Prop := ∀ c ∈ cs, isBlank c = true

theorem trim_eq_rdropWhile (cs : List Char) : trim cs = (cs.dropWhile isBlank).rdropWhile isBlank :=
  rfl

theorem trim_eq_self {cs : List Char} (hfirst : ∀ c ∈ cs.head?, isBlank c = false)
    (hlast : ∀ c ∈ cs.getLast?, isBlank c = false) : trim cs = cs := by
  have hleft : cs.dropWhile isBlank = cs := by
    cases cs with
    | nil => rfl
    | cons c rest =>
        apply List.dropWhile_cons_of_neg
        rw [hfirst c rfl]
        exact Bool.false_ne_true
  rw [trim_eq_rdropWhile, hleft, List.rdropWhile_eq_self_iff]
  intro hne
  rw [hlast _ (List.getLast?_eq_some_getLast hne)]
  exact Bool.false_ne_true

theorem mem_of_mem_trim {c : Char} {cs : List Char} (hc : c ∈ trim cs) : c ∈ cs :=
  (List.dropWhile_sublist isBlank).mem ((List.rdropWhile_prefix isBlank _).mem hc)

theorem head?_trim {cs : List Char} {c : Char} (hc : c ∈ (trim cs).head?) : isBlank c = false := by
  have hprefix : trim cs <+: cs.dropWhile isBlank := List.rdropWhile_prefix isBlank _
  have hhead : (cs.dropWhile isBlank).head? = some c := by
    obtain ⟨after, hafter⟩ := hprefix
    rw [← hafter, List.head?_append, hc]
    rfl
  have hnot := List.head?_dropWhile_not isBlank cs
  rw [hhead] at hnot
  simpa using hnot

theorem getLast?_trim {cs : List Char} {c : Char} (hc : c ∈ (trim cs).getLast?) :
    isBlank c = false := by
  obtain ⟨hne, rfl⟩ := List.mem_getLast?_eq_getLast hc
  exact Bool.eq_false_iff.mpr (List.rdropWhile_last_not isBlank (cs.dropWhile isBlank) hne)

/-- A trimmed text is trimmed. -/
theorem trim_trim (cs : List Char) : trim (trim cs) = trim cs :=
  trim_eq_self (fun _ => head?_trim) fun _ => getLast?_trim

/-- Blank characters around a text do not matter. -/
theorem trim_padded {before after : List Char} (hbefore : IsBlank before) (hafter : IsBlank after)
    (cs : List Char) : trim (before ++ cs ++ after) = trim cs := by
  have hright : ∀ ds : List Char, (ds ++ after).rdropWhile isBlank = ds.rdropWhile isBlank := by
    intro ds
    rw [List.rdropWhile, List.reverse_append, List.dropWhile_append_of_pos]
    · rfl
    · exact fun c hc => hafter c (List.mem_reverse.mp hc)
  rw [trim_eq_rdropWhile, trim_eq_rdropWhile, List.append_assoc, List.dropWhile_append_of_pos hbefore,
    List.dropWhile_append]
  split
  · next hblank =>
    have hnil : after.dropWhile isBlank = [] := List.dropWhile_eq_nil_iff.mpr hafter
    rw [List.isEmpty_iff.mp hblank, hnil]
  · exact hright _

end Screener.Text
