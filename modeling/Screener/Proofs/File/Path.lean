import Screener.File.Path
import Screener.Proofs.Text.Pieces

/-!
# Names below directories

The path of a name below a directory goes through the names of the directory and then to this one
(`Path.names_join`), so different names have different paths (`Path.components_join_injective`).
-/

namespace Screener.Path

/-- Whether a name can stand between two slashes. -/
structure IsStep (name : String) : Prop where
  given : name ≠ ""
  solid : '/' ∉ name.toList

/-- The names of a path are made of its characters. -/
theorem mem_of_mem_names {path name : String} (hname : name ∈ names path) :
    IsStep name ∧ name.toList ⊆ path.toList := by
  obtain ⟨cs, hcs, rfl⟩ := List.mem_map.mp hname
  obtain ⟨hpiece, hgiven⟩ := List.mem_filter.mp hcs
  rw [String.toList_ofList]
  refine ⟨⟨by simpa [← String.toList_inj] using hgiven, ?_⟩, Text.subset_of_mem_splitOn hpiece⟩
  rw [String.toList_ofList]
  exact Text.not_mem_of_mem_splitOn hpiece

theorem names_of_isStep {name : String} (hname : IsStep name) : names name = [name] := by
  rw [names, List.splitOn_eq_singleton hname.solid]
  simp [hname.given]

theorem names_append (path : String) {name : String} (hname : IsStep name) :
    names (path ++ "/" ++ name) = names path ++ [name] := by
  have hcs : (path ++ "/" ++ name).toList = path.toList ++ '/' :: name.toList := by
    simp [String.toList_append]
  rw [← names_of_isStep hname, names, names, names, hcs, List.splitOn_append_cons_self,
    List.filter_append, List.map_append]

theorem isAbsolute_of_isStep {name : String} (hname : IsStep name) : isAbsolute name = false := by
  rw [isAbsolute, decide_eq_false_iff_not]
  intro hhead
  exact hname.solid (List.mem_of_head? hhead)

theorem names_append_slash (path : String) : names (path ++ "/") = names path := by
  have hcs : (path ++ "/").toList = path.toList ++ '/' :: [] := by simp [String.toList_append]
  rw [names, names, hcs, List.splitOn_append_cons_self]
  simp

/-- A path that ends with a slash, without it. -/
theorem exists_append_slash {path : String} (hslash : path.toList.getLast? = some '/') :
    ∃ start, path = start ++ "/" := by
  obtain ⟨cs, hcs⟩ := List.getLast?_eq_some_iff.mp hslash
  exact ⟨String.ofList cs, by rw [← String.toList_inj, hcs]; simp [String.toList_append]⟩

/-- A path of a name is the name after characters of the directory and a slash. -/
theorem exists_join (directory : String) {name : String} (hname : IsStep name) :
    ∃ start, join directory name = start ++ name ∧ start.toList ⊆ '/' :: directory.toList := by
  unfold join
  rw [isAbsolute_of_isStep hname]
  split
  · exact ⟨"", by simp, by simp⟩
  split
  · exact ⟨directory, rfl, List.subset_cons_self _ _⟩
  · exact ⟨directory ++ "/", rfl, by simp [String.toList_append]⟩

theorem join_append_slash (start : String) {name : String} (hname : IsStep name) :
    join (start ++ "/") name = start ++ "/" ++ name := by
  rw [join, isAbsolute_of_isStep hname, if_neg (by simp), if_pos (by simp [String.toList_append])]

theorem names_join (directory : String) {name : String} (hname : IsStep name) :
    names (join directory name) = names directory ++ [name] := by
  unfold join
  rw [isAbsolute_of_isStep hname]
  by_cases hempty : directory.isEmpty = true
  · rw [if_pos (.inr hempty), names_of_isStep hname, String.isEmpty_iff.mp hempty]
    rfl
  rw [if_neg (by simp [hempty])]
  split
  case isFalse => exact names_append directory hname
  case isTrue hslash =>
    -- the slash at the end of the directory is the one before the name
    obtain ⟨start, rfl⟩ := exists_append_slash hslash
    rw [names_append start hname, names_append_slash]

/-- The last component of the path of a name below a directory is the name. -/
theorem getLast?_components_join (directory : String) {name : String} (hname : IsStep name)
    (hpoint : name ≠ ".") : (components (join directory name)).getLast? = some name := by
  rw [components, names_join directory hname]
  cases names directory with
  | nil => simp [hpoint]
  | cons first rest =>
      have hrest : (rest ++ [name]).filter (· ≠ ".") = rest.filter (· ≠ ".") ++ [name] := by
        simp [hpoint]
      simp only [List.cons_append, hrest]
      split <;> simp [List.getLast?_cons]

end Screener.Path
