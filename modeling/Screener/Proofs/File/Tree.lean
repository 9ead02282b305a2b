import Screener.File.Tree
import Screener.Proofs.Entries
import Screener.Proofs.File.Path
import Screener.Proofs.Formula.Results

/-!
# Sound file trees

In a sound tree every item has its own place, with a proper name below a directory of the tree.  The
empty tree is sound, and nothing that is made in a sound tree makes it unsound.  In a sound tree the
names of a directory are those of its items (`FileTree.mem_names_iff`), and the path of such a name
leads to the item, if the path is not too long (`FileTree.find_join`).
-/

namespace Screener.FileTree

variable {tree : FileTree} {place : List String} {name : String} {item : Item}

/-- A name that an item can have. -/
structure IsItemName (name : String) : Prop extends Path.IsStep name where
  nonzero : '\x00' ∉ name.toList
  inside : name ≠ "." ∧ name ≠ ".."
  fits : name.utf8ByteSize ≤ longestName

/-- A tree in which every item has its own place below a directory. -/
structure IsSound (tree : FileTree) : Prop where
  distinct : (tree.items.map Prod.fst).Nodup
  below : ∀ entry ∈ tree.items, ∃ place name, entry.1 = place ++ [name] ∧ IsItemName name ∧
    tree.item? place = some .directory

theorem isSound_empty : empty.IsSound where
  distinct := List.nodup_nil
  below := by simp [empty]

theorem not_isOutside_append (place : List String) (hname : IsItemName name) :
    isOutside (place ++ [name]) = false := by
  simp [isOutside, hname.inside.2]

/-! ### Items and their places -/

theorem item?_eq_some_iff (hsound : tree.IsSound) (hname : IsItemName name) :
    tree.item? (place ++ [name]) = some item ↔ (place ++ [name], item) ∈ tree.items := by
  rw [item?, not_isOutside_append place hname]
  exact lookup_eq_some_iff hsound.distinct

/-- A new item at a place changes no other place. -/
theorem item?_put_of_ne (item : Item) {other : List String} (hne : other ≠ place) :
    (tree.put place item).item? other = tree.item? other := by
  simp only [put, item?, List.lookup_cons, beq_false_of_ne hne, lookup_filter_ne _ hne]

/-- An item below a directory, where there is no directory, leaves a tree sound. -/
theorem IsSound.put (hsound : tree.IsSound) (item : Item) (hname : IsItemName name)
    (habove : tree.item? place = some .directory)
    (hfree : tree.item? (place ++ [name]) ≠ some .directory) :
    (tree.put (place ++ [name]) item).IsSound where
  distinct := by
    have hrest := (hsound.distinct.sublist
      (List.Sublist.map Prod.fst (List.filter_sublist (p := (·.1 != place ++ [name])))))
    refine List.nodup_cons.mpr ⟨?_, hrest⟩
    simp
  below := by
    intro entry hentry
    rcases List.mem_cons.mp hentry with rfl | hentry
    · refine ⟨place, name, rfl, hname, ?_⟩
      rw [item?_put_of_ne item (by simp)]
      exact habove
    · obtain ⟨above, last, hplace, hlast, hdirectory⟩ :=
        hsound.below entry (List.mem_of_mem_filter hentry)
      refine ⟨above, last, hplace, hlast, ?_⟩
      have hne : above ≠ place ++ [name] := fun heq => hfree (by rw [← heq, hdirectory])
      rw [item?_put_of_ne item hne]
      exact hdirectory

/-- What is not the root or above it lies in a directory. -/
theorem IsSound.dropLast (hsound : tree.IsSound) (hinside : isOutside place = false)
    (hitem : tree.item? place = some item) : tree.item? place.dropLast = some .directory := by
  rw [item?, hinside] at hitem
  obtain ⟨above, last, hplace, -, hdirectory⟩ :=
    hsound.below _ ((lookup_eq_some_iff hsound.distinct).mp hitem)
  rw [show place = above ++ [last] from hplace, List.dropLast_concat]
  exact hdirectory

/-! ### Steps through a tree -/

/-- A step that goes on to a name. -/
theorem enter_of_isItemName (hname : IsItemName name)
    (hplace : tree.item? place = some .directory) :
    tree.enter place name = .ok (place ++ [name]) := by
  simp [enter, hplace, hname.inside.1, hname.inside.2, Nat.not_lt.mpr hname.fits]

/-- A step leads to a directory that is there, or from a directory to a name in it. -/
theorem enter_eq_ok {next : List String} (hsound : tree.IsSound)
    (hname : Path.IsStep name) (hnonzero : '\x00' ∉ name.toList)
    (henter : tree.enter place name = .ok next) : tree.item? next = some .directory ∨
      next = place ++ [name] ∧ IsItemName name ∧ tree.item? place = some .directory := by
  unfold enter at henter
  split at henter
  case h_1 => cases henter
  case h_2 => cases henter
  case h_3 hplace =>
    split_ifs at henter with hpoint htwo houtside hlong
    · cases henter
      exact .inl hplace
    · cases henter
      left
      rw [item?, if_pos (by simpa [isOutside, htwo] using houtside)]
    · cases henter
      exact .inl (hsound.dropLast (by simpa using houtside) hplace)
    · cases henter
      exact .inr ⟨rfl, ⟨hname, hnonzero, ⟨hpoint, htwo⟩, Nat.not_lt.mp hlong⟩, hplace⟩

/-- The last name of a path that a file system would look at. -/
theorem isStep_lastName {path : String} (hcheck : checkPath path = .ok ()) :
    Path.IsStep ((Path.names path).getLast?.getD ".") ∧
      '\x00' ∉ ((Path.names path).getLast?.getD ".").toList := by
  have hnonzero : '\x00' ∉ path.toList := fun hmem => by simp [checkPath, hmem] at hcheck
  cases hlast : (Path.names path).getLast? with
  | none => exact ⟨⟨by decide, by decide⟩, by decide⟩
  | some name =>
      obtain ⟨hstep, hsubset⟩ := Path.mem_of_mem_names (List.mem_of_getLast? hlast)
      exact ⟨hstep, fun hmem => hnonzero (hsubset hmem)⟩

theorem IsSound.makeDirectory {path : String} {made : FileTree} (hsound : tree.IsSound)
    (hmade : tree.makeDirectory path = .ok made) : made.IsSound := by
  obtain ⟨_, hcheck, hmade⟩ := bind_eq_ok hmade
  obtain ⟨hstep, hnonzero⟩ := isStep_lastName hcheck
  obtain ⟨directory, -, hmade⟩ := bind_eq_ok hmade
  obtain ⟨place, henter, hmade⟩ := bind_eq_ok hmade
  split at hmade
  case h_2 => cases hmade
  case h_1 hfree =>
    cases hmade
    rcases enter_eq_ok hsound hstep hnonzero henter with hthere | ⟨rfl, hname, habove⟩
    · rw [hfree] at hthere
      cases hthere
    · exact hsound.put .directory hname habove (by rw [hfree]; exact nofun)

theorem IsSound.writeBytes {path : String} {bytes : ByteArray} {made : FileTree}
    (hsound : tree.IsSound) (hmade : tree.writeBytes path bytes = .ok made) : made.IsSound := by
  obtain ⟨_, hcheck, hmade⟩ := bind_eq_ok hmade
  obtain ⟨hstep, hnonzero⟩ := isStep_lastName hcheck
  obtain ⟨directory, -, hmade⟩ := bind_eq_ok hmade
  obtain ⟨place, henter, hmade⟩ := bind_eq_ok hmade
  have hput (hfree : tree.item? place ≠ some .directory) :
        (tree.put place (.file bytes)).IsSound := by
    rcases enter_eq_ok hsound hstep hnonzero henter with hthere | ⟨rfl, hname, habove⟩
    · exact absurd hthere hfree
    · exact hsound.put _ hname habove hfree
  dsimp only at hmade
  split at hmade
  case isTrue => cases hmade
  case isFalse =>
    split at hmade
    case h_1 => cases hmade
    case h_2 hfile =>
      cases hmade
      exact hput (by rw [hfile]; exact nofun)
    case h_3 hfree =>
      cases hmade
      exact hput (by rw [hfree]; exact nofun)

theorem IsSound.makeEach {paths : List String} (hsound : tree.IsSound) :
    (tree.makeEach paths).2.IsSound := by
  induction paths generalizing tree with
  | nil => exact hsound
  | cons path rest ih =>
      rw [FileTree.makeEach]
      split
      case h_1 made hmade => exact ih (hsound.makeDirectory hmade)
      case h_2 =>
        split
        · exact ih hsound
        · exact hsound

/-- Making directories leaves a tree sound, also where it breaks off. -/
theorem IsSound.makeOutwards {missing paths : List String} (hsound : tree.IsSound) :
    (tree.makeOutwards missing paths).2.IsSound := by
  induction paths generalizing missing with
  | nil => exact hsound.makeEach
  | cons path rest ih =>
      rw [FileTree.makeOutwards]
      split
      case h_1 made hmade => exact (hsound.makeDirectory hmade).makeEach
      case h_2 => exact ih
      case h_3 =>
        split
        · exact hsound.makeEach
        · exact hsound

theorem IsSound.makeDirectories (hsound : tree.IsSound) (path : String) :
    (tree.makeDirectories path).2.IsSound :=
  hsound.makeOutwards

/-! ### Paths into directories -/

theorem of_find_eq_ok {path : String} (hfind : tree.find path = .ok (place, item)) :
    checkPath path = .ok () ∧ (steps path).foldlM tree.enter [] = .ok place ∧
      tree.item? place = some item := by
  obtain ⟨_, hcheck, hfind⟩ := bind_eq_ok hfind
  obtain ⟨found, hsteps, hfind⟩ := bind_eq_ok hfind
  split at hfind
  case h_1 item hitem =>
    cases hfind
    exact ⟨hcheck, hsteps, hitem⟩
  case h_2 => cases hfind

/-- The names of a path to a directory lead to it. -/
theorem foldlM_names {directory : String}
    (hfind : tree.find directory = .ok (place, .directory)) :
    (Path.names directory).foldlM tree.enter [] = .ok place := by
  obtain ⟨-, hsteps, hdirectory⟩ := of_find_eq_ok hfind
  rw [steps] at hsteps
  split_ifs at hsteps
  case neg => simpa using hsteps
  case pos =>
    -- the step that the slash at the end stands for leads nowhere else
    rw [List.foldlM_append] at hsteps
    obtain ⟨reached, hnames, hpoint⟩ := bind_eq_ok hsteps
    rw [hnames]
    simp only [List.foldlM_cons, List.foldlM_nil, bind_pure] at hpoint
    unfold enter at hpoint
    split at hpoint
    case h_1 => cases hpoint
    case h_2 => cases hpoint
    case h_3 => simpa using hpoint

theorem checkPath_eq_ok_iff {path : String} : checkPath path = .ok () ↔
    '\x00' ∉ path.toList ∧ path ≠ "" ∧ path.utf8ByteSize < longestPath := by
  unfold checkPath
  split_ifs <;> simp_all

theorem steps_join (directory : String) (hname : Path.IsStep name) :
    steps (Path.join directory name) = Path.names directory ++ [name] := by
  obtain ⟨start, hjoin, -⟩ := Path.exists_join directory hname
  have hslash : (Path.join directory name).toList.getLast? ≠ some '/' := by
    intro hlast
    have hgiven : name.toList ≠ [] := fun hnil => hname.given (String.toList_eq_nil_iff.mp hnil)
    rw [hjoin, String.toList_append, List.getLast?_append_of_ne_nil _ hgiven] at hlast
    exact hname.solid (List.mem_of_getLast? hlast)
  rw [steps, Path.names_join directory hname, if_neg hslash, List.append_nil]

theorem checkPath_join {directory : String} (hname : IsItemName name)
    (hcheck : checkPath directory = .ok ()) : checkPath (Path.join directory name) =
      if (Path.join directory name).utf8ByteSize < longestPath then .ok ()
      else .error .nameTooLong := by
  obtain ⟨start, hjoin, hsubset⟩ := Path.exists_join directory hname.toIsStep
  have hnonzero : '\x00' ∉ (Path.join directory name).toList := by
    intro hmem
    rw [hjoin, String.toList_append, List.mem_append] at hmem
    rcases hmem with hmem | hmem
    · rcases List.mem_cons.mp (hsubset hmem) with hslash | hmem
      · cases hslash
      · exact (checkPath_eq_ok_iff.mp hcheck).1 hmem
    · exact hname.nonzero hmem
  have hgiven : (Path.join directory name).isEmpty = false := by
    rw [hjoin]
    simp [hname.given]
  simp only [checkPath, hnonzero, hgiven, if_false, Bool.false_eq_true]
  split_ifs <;> first | rfl | omega

/-- The path of a name in a directory leads to what the name stands for. -/
theorem find_join {directory : String} (hname : IsItemName name)
    (hfind : tree.find directory = .ok (place, .directory)) :
    tree.find (Path.join directory name) =
      if (Path.join directory name).utf8ByteSize < longestPath then
        match tree.item? (place ++ [name]) with
        | some item => .ok (place ++ [name], item)
        | none => .error .notFound
      else .error .nameTooLong := by
  have hnames := foldlM_names hfind
  obtain ⟨hcheck, -, hplace⟩ := of_find_eq_ok hfind
  rw [find, checkPath_join hname hcheck, steps_join directory hname.toIsStep, List.foldlM_append,
    hnames]
  split
  case isFalse => rfl
  case isTrue =>
    simp only [List.foldlM_cons, List.foldlM_nil, enter_of_isItemName hname hplace, bind,
      Except.bind, pure, Except.pure]
    cases tree.item? (place ++ [name]) <;> rfl

/-! ### Names in directories -/

/-- The directory of a tree in which a list of names was found. -/
theorem exists_of_names_eq_ok {path : String} {names : List String}
    (hnames : tree.names path = .ok names) : ∃ place, tree.find path = .ok (place, .directory) ∧
      names = tree.items.filterMap fun entry =>
        if entry.1.dropLast = place then entry.1.getLast? else none := by
  obtain ⟨⟨place, item⟩, hfind, hitem⟩ := bind_eq_ok hnames
  cases item with
  | file bytes => cases hitem
  | directory =>
      cases hitem
      exact ⟨place, hfind, rfl⟩

theorem mem_names_iff {path : String} {names : List String} (hsound : tree.IsSound)
    (hnames : tree.names path = .ok names) (hfind : tree.find path = .ok (place, .directory)) :
    name ∈ names ↔ ∃ item, (place ++ [name], item) ∈ tree.items := by
  obtain ⟨found, hfound, rfl⟩ := exists_of_names_eq_ok hnames
  obtain rfl : found = place := by
    rw [hfind] at hfound
    cases hfound
    rfl
  rw [List.mem_filterMap]
  constructor
  · rintro ⟨⟨place, item⟩, hentry, hlast⟩
    obtain ⟨above, last, hplace, -, -⟩ := hsound.below _ hentry
    dsimp only at hplace hlast
    subst hplace
    split_ifs at hlast with habove
    rw [List.dropLast_concat] at habove
    rw [List.getLast?_concat, Option.some.injEq] at hlast
    exact ⟨item, by rw [← habove, ← hlast]; exact hentry⟩
  · rintro ⟨item, hentry⟩
    exact ⟨_, hentry, by simp⟩

/-- No name occurs twice in a directory. -/
theorem nodup_names {path : String} {names : List String} (hsound : tree.IsSound)
    (hnames : tree.names path = .ok names) : names.Nodup := by
  obtain ⟨place, -, rfl⟩ := exists_of_names_eq_ok hnames
  have hplaces : (tree.items.map Prod.fst).filterMap
      (fun place' => if place'.dropLast = place then place'.getLast? else none) =
        tree.items.filterMap fun entry =>
          if entry.1.dropLast = place then entry.1.getLast? else none := List.filterMap_map
  rw [← hplaces]
  refine List.Nodup.filterMap ?_ hsound.distinct
  intro first second name hfirst hsecond
  simp only [Option.mem_def] at hfirst hsecond
  split_ifs at hfirst hsecond with habove habove'
  rw [List.getLast?_eq_some_iff] at hfirst hsecond
  obtain ⟨start, rfl⟩ := hfirst
  obtain ⟨start', rfl⟩ := hsecond
  rw [List.dropLast_concat] at habove habove'
  rw [habove, habove']

end Screener.FileTree
