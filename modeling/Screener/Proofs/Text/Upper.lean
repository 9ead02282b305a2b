import Screener.Proofs.Text.Pieces
import Screener.Text.Blank
import Screener.Text.Upper

/-!
# What upper-casing keeps

Upper-casing replaces a character by one or more others, or keeps it.  No table has an entry for a
blank character or a comma or for what another entry gives, and none gives a blank character or a
comma (`Upper.upperChar_cases`).  So a text in upper case is kept as it is (`upper_upper`), and
blank characters and commas stay where they are: a text may be trimmed or cut at its commas before
it is put in upper case or afterwards (`trim_upper`, `splitOn_upper`).

The tables are compared as sets of code points, each a binary number with a digit for every code
point.  Two such sets are disjoint if their numbers have no digit in common, which is found out by
calculation.
-/

namespace Screener.Text

namespace Upper

/-! ## Sets of code points -/

/-- The code points of a set, as the digits of a binary number. -/
def bits (codes : List Nat) : Nat := codes.foldr (fun code set => set ||| 1 <<< code) 0

theorem testBit_bits (codes : List Nat) (n : Nat) : (bits codes).testBit n = true ↔ n ∈ codes := by
  induction codes with
  | nil => simp [bits]
  | cons code rest ih =>
      have hbits : bits (code :: rest) = bits rest ||| 1 <<< code := rfl
      rw [hbits, Nat.testBit_or, Bool.or_eq_true, ih, Nat.one_shiftLeft, Nat.testBit_two_pow,
        decide_eq_true_iff, List.mem_cons, or_comm, eq_comm]

theorem not_mem_of_bits {first second : List Nat} (hnone : bits first &&& bits second = 0) {n : Nat}
    (hfirst : n ∈ first) : n ∉ second := by
  intro hsecond
  have hboth : (bits first &&& bits second).testBit n = true := by
    rw [Nat.testBit_and, (testBit_bits first n).mpr hfirst, (testBit_bits second n).mpr hsecond,
      Bool.and_self]
  rw [hnone, Nat.zero_testBit] at hboth
  cases hboth

/-- The code points of a run. -/
def Run.points (run : Run) : List Nat :=
  List.range' run.first ((run.last - run.first) / run.step + 1) run.step

/-- The code point that a run gives for one of its own. -/
def Run.image (run : Run) (n : Nat) : Nat := (n + run.offset).toNat

/-- The code points with another upper case. -/
def sources : List Nat := expansions.map Prod.fst ++ runs.flatMap Run.points

/-- The code points in the upper case of others. -/
def images : List Nat :=
  expansions.flatMap Prod.snd ++ runs.flatMap fun run => run.points.map run.image

/-- The code points of the comma and of the blank characters. -/
def separators : List Nat :=
  [0x2C] ++ List.range' 9 5 ++ [0x20, 0x85, 0xA0, 0x1680] ++ List.range' 0x2000 11 ++
    [0x2028, 0x2029, 0x202F, 0x205F, 0x3000]

theorem images_not_sources : bits images &&& bits sources = 0 := by decide +kernel

theorem images_not_separators : bits images &&& bits separators = 0 := by decide +kernel

theorem separators_not_sources : bits separators &&& bits sources = 0 := by decide +kernel

theorem images_valid : ∀ code ∈ images, code.isValidChar := by decide +kernel

theorem expansions_ne_nil : ∀ entry ∈ expansions, entry.2 ≠ [] := by decide +kernel

theorem mem_separators_iff (c : Char) : c.toNat ∈ separators ↔ c = ',' ∨ isBlank c = true := by
  have hcomma : c = ',' ↔ c.toNat = 0x2C := by rw [← Char.toNat_inj]; rfl
  simp only [separators, isBlank, hcomma, List.mem_append, List.mem_cons, List.mem_range'_1,
    List.not_mem_nil, or_false, Bool.or_eq_true, Bool.and_eq_true, decide_eq_true_eq]
  omega

/-! ## Looking characters up -/

theorem toNat_ofNat {code : Nat} (hcode : code ∈ images) : (Char.ofNat code).toNat = code := by
  rw [Char.ofNat, dif_pos (images_valid code hcode)]
  rfl

theorem mem_of_lookup {n : Nat} {codes : List Nat} (hlookup : expansions.lookup n = some codes) :
    n ∈ sources ∧ codes ≠ [] ∧ ∀ code ∈ codes, code ∈ images := by
  obtain ⟨before, after, hsplit, -⟩ := List.lookup_eq_some_iff.mp hlookup
  have hentry : (n, codes) ∈ expansions := by rw [hsplit]; simp
  refine ⟨List.mem_append_left _ (List.mem_map_of_mem hentry), expansions_ne_nil _ hentry, ?_⟩
  intro code hcode
  exact List.mem_append_left _ (List.mem_flatMap.mpr ⟨_, hentry, hcode⟩)

theorem mem_points {run : Run} {n : Nat} (hcovers : run.covers n = true) : n ∈ run.points := by
  simp only [Run.covers, Bool.and_eq_true, decide_eq_true_eq] at hcovers
  obtain ⟨⟨hfirst, hlast⟩, hstep⟩ := hcovers
  have hindex : run.step * ((n - run.first) / run.step) = n - run.first :=
    Nat.mul_div_cancel' (Nat.dvd_of_mod_eq_zero hstep)
  refine List.mem_range'.mpr ⟨(n - run.first) / run.step, ?_, by omega⟩
  exact Nat.lt_succ_of_le (Nat.div_le_div_right (by omega))

theorem mem_of_find? {n : Nat} {run : Run} (hfind : runs.find? (·.covers n) = some run) :
    n ∈ sources ∧ run.image n ∈ images := by
  have hrun : run ∈ runs := List.mem_of_find?_eq_some hfind
  have hcovers := List.find?_some hfind
  have hpoint : n ∈ run.points := mem_points hcovers
  refine ⟨List.mem_append_right _ (List.mem_flatMap.mpr ⟨run, hrun, hpoint⟩), ?_⟩
  exact List.mem_append_right _ (List.mem_flatMap.mpr ⟨run, hrun, List.mem_map_of_mem hpoint⟩)

/-- Below 128 only letters have another upper case, and the tables know them. -/
theorem upperChar_ascii : ∀ n < 128, upperChar (Char.ofNat n) = [Char.ofNat n] ∨
    n ∈ sources ∧ n - 32 ∈ images ∧ upperChar (Char.ofNat n) = [Char.ofNat (n - 32)] := by
  decide +kernel

/-- A character is its own upper case, or the tables say what is. -/
theorem upperChar_cases (c : Char) :
    upperChar c = [c] ∨ c.toNat ∈ sources ∧
      ∃ codes, codes ≠ [] ∧ (∀ code ∈ codes, code ∈ images) ∧ upperChar c = codes.map Char.ofNat := by
  by_cases hascii : c.toNat < 128
  · rcases upperChar_ascii c.toNat hascii with hkept | ⟨hsource, himage, hupper⟩
    · rw [Char.ofNat_toNat] at hkept
      exact .inl hkept
    · rw [Char.ofNat_toNat] at hupper
      exact .inr ⟨hsource, [c.toNat - 32], by simp, by simpa using himage, hupper⟩
  rw [upperChar, if_neg hascii]
  cases hlookup : expansions.lookup c.toNat with
  | some codes =>
      obtain ⟨hsource, hcodes, himages⟩ := mem_of_lookup hlookup
      exact .inr ⟨hsource, codes, hcodes, himages, rfl⟩
  | none =>
      cases hfind : runs.find? (·.covers c.toNat) with
      | none => exact .inl rfl
      | some run =>
          obtain ⟨hsource, himage⟩ := mem_of_find? hfind
          exact .inr ⟨hsource, [run.image c.toNat], by simp, by simpa using himage, rfl⟩

/-- A character that no table knows is its own upper case. -/
theorem upperChar_of_not_mem {c : Char} (hc : c.toNat ∉ sources) : upperChar c = [c] :=
  (upperChar_cases c).resolve_right fun h => hc h.1

end Upper

/-! ## Upper case of texts -/

open Upper

theorem upperChar_ne_nil (c : Char) : upperChar c ≠ [] := by
  rcases upperChar_cases c with hkept | ⟨-, codes, hcodes, -, hupper⟩
  · rw [hkept]
    exact List.cons_ne_nil c []
  · rw [hupper]
    exact mt List.map_eq_nil_iff.mp hcodes

/-- What is in the upper case of a character is its own upper case. -/
theorem upperChar_of_mem {c d : Char} (hd : d ∈ upperChar c) : upperChar d = [d] := by
  rcases upperChar_cases c with hkept | ⟨-, codes, -, himages, hupper⟩
  · rw [hkept, List.mem_singleton] at hd
    rw [hd, hkept]
  · rw [hupper] at hd
    obtain ⟨code, hcode, rfl⟩ := List.mem_map.mp hd
    apply upperChar_of_not_mem
    rw [toNat_ofNat (himages code hcode)]
    exact not_mem_of_bits images_not_sources (himages code hcode)

/-- Blank characters and commas are kept. -/
theorem upperChar_of_mem_separators {c : Char} (hc : c.toNat ∈ separators) : upperChar c = [c] :=
  upperChar_of_not_mem (not_mem_of_bits separators_not_sources hc)

/-- Blank characters and commas are the upper case of nothing else. -/
theorem not_mem_separators_of_mem {c d : Char} (hc : c.toNat ∉ separators) (hd : d ∈ upperChar c) :
    d.toNat ∉ separators := by
  rcases upperChar_cases c with hkept | ⟨-, codes, -, himages, hupper⟩
  · rw [hkept, List.mem_singleton] at hd
    rwa [hd]
  · rw [hupper] at hd
    obtain ⟨code, hcode, rfl⟩ := List.mem_map.mp hd
    rw [toNat_ofNat (himages code hcode)]
    exact not_mem_of_bits images_not_separators (himages code hcode)

/-- Blank characters are kept, and no others get blank. -/
theorem upperChar_of_isBlank {c : Char} (hc : isBlank c = true) : upperChar c = [c] :=
  upperChar_of_mem_separators ((mem_separators_iff c).mpr (.inr hc))

theorem not_isBlank_of_mem_upperChar {c d : Char} (hc : isBlank c = false) (hd : d ∈ upperChar c) :
    isBlank d = false := by
  by_cases hcomma : c = ','
  · have hkept : upperChar ',' = [','] := upperChar_of_mem_separators (by decide)
    rw [hcomma, hkept, List.mem_singleton] at hd
    rw [hd]
    rfl
  · have hsource : c.toNat ∉ separators := by simp [mem_separators_iff, hcomma, hc]
    have himage := not_mem_separators_of_mem hsource hd
    rw [mem_separators_iff, not_or, Bool.not_eq_true] at himage
    exact himage.2

/-- Only a comma has a comma in its upper case. -/
theorem comma_not_mem_upper {cs : List Char} (hcs : ',' ∉ cs) : ',' ∉ upper cs := by
  intro hmem
  obtain ⟨c, hc, hcomma⟩ := List.mem_flatMap.mp hmem
  by_cases hsource : c.toNat ∈ separators
  · rw [upperChar_of_mem_separators hsource, List.mem_singleton] at hcomma
    exact hcs (hcomma ▸ hc)
  · exact not_mem_separators_of_mem hsource hcomma (by decide)

@[simp] theorem upper_cons (c : Char) (cs : List Char) : upper (c :: cs) = upperChar c ++ upper cs :=
  List.flatMap_cons

theorem upper_eq_nil_iff {cs : List Char} : upper cs = [] ↔ cs = [] := by
  cases cs with
  | nil => simp
  | cons c rest => simp [upperChar_ne_nil]

/-- A text in upper case is kept. -/
theorem upper_upper (cs : List Char) : upper (upper cs) = upper cs := by
  have hkept : ∀ ds : List Char, (∀ d ∈ ds, upperChar d = [d]) → upper ds = ds := by
    intro ds hds
    induction ds with
    | nil => rfl
    | cons d rest ih =>
        obtain ⟨hd, hrest⟩ := List.forall_mem_cons.mp hds
        rw [upper_cons, hd, ih hrest, List.singleton_append]
  apply hkept
  intro d hd
  obtain ⟨c, -, hd⟩ := List.mem_flatMap.mp hd
  exact upperChar_of_mem hd

/-- Replacing characters changes nothing about the blank ones in front if these are kept and no
others get blank. -/
theorem dropWhile_flatMap (replace : Char → List Char)
    (hkept : ∀ c, isBlank c = true → replace c = [c])
    (hgiven : ∀ c, replace c ≠ [])
    (hsolid : ∀ c, isBlank c = false → ∀ d ∈ replace c, isBlank d = false) (cs : List Char) :
    (cs.flatMap replace).dropWhile isBlank = (cs.dropWhile isBlank).flatMap replace := by
  induction cs with
  | nil => rfl
  | cons c rest ih =>
      rw [List.flatMap_cons]
      cases hblank : isBlank c with
      | true =>
          rw [hkept c hblank, List.singleton_append, List.dropWhile_cons_of_pos hblank,
            List.dropWhile_cons_of_pos hblank, ih]
      | false =>
          obtain ⟨d, ds, hd⟩ := List.exists_cons_of_ne_nil (hgiven c)
          have hsolid' : ¬isBlank d = true := by
            rw [hsolid c hblank d (by rw [hd]; exact List.mem_cons_self)]
            exact Bool.false_ne_true
          rw [List.dropWhile_cons_of_neg (by rw [hblank]; exact Bool.false_ne_true),
            List.flatMap_cons, hd, List.cons_append, List.dropWhile_cons_of_neg hsolid']

/-- A text may be trimmed before or after it is put in upper case. -/
theorem trim_upper (cs : List Char) : trim (upper cs) = upper (trim cs) := by
  have hleft : ∀ ds, trimLeft (upper ds) = upper (trimLeft ds) :=
    dropWhile_flatMap upperChar (fun c => upperChar_of_isBlank) upperChar_ne_nil
      fun c hc d => not_isBlank_of_mem_upperChar hc
  have hright : ∀ ds, trimRight (upper ds) = upper (trimRight ds) := by
    intro ds
    have hreverse := dropWhile_flatMap (fun c => (upperChar c).reverse)
      (fun c hc => by rw [upperChar_of_isBlank hc, List.reverse_singleton])
      (fun c => mt List.reverse_eq_nil_iff.mp (upperChar_ne_nil c))
      (fun c hc d hd => not_isBlank_of_mem_upperChar hc (List.mem_reverse.mp hd)) ds.reverse
    calc trimRight (upper ds)
        = ((ds.reverse.flatMap fun c => (upperChar c).reverse).dropWhile isBlank).reverse := by
          rw [trimRight, upper, List.reverse_flatMap]
          rfl
      _ = upper (trimRight ds) := by
          rw [hreverse, List.reverse_flatMap, upper, trimRight]
          congr 1
          funext c
          exact List.reverse_reverse _
  rw [trim, hleft, hright, trim]

/-- A text may be cut at its commas before or after it is put in upper case. -/
theorem splitOn_upper (cs : List Char) : (upper cs).splitOn ',' = (cs.splitOn ',').map upper := by
  have hjoin : ∀ pieces : List (List Char),
      upper ([','].intercalate pieces) = [','].intercalate (pieces.map upper) := by
    intro pieces
    induction pieces with
    | nil => rfl
    | cons piece rest ih =>
        cases rest with
        | nil => simp
        | cons next rest =>
            have hcomma : upper [','] = [','] := rfl
            rw [List.intercalate_cons_cons, upper_append, upper_append, ih, hcomma]
            exact List.intercalate_cons_cons.symm
  calc (upper cs).splitOn ','
      = ([','].intercalate ((cs.splitOn ',').map upper)).splitOn ',' := by
        rw [← hjoin, List.intercalate_splitOn]
    _ = (cs.splitOn ',').map upper := by
        apply List.splitOn_intercalate
        · intro piece hpiece
          obtain ⟨before, hbefore, rfl⟩ := List.mem_map.mp hpiece
          exact comma_not_mem_upper (not_mem_of_mem_splitOn hbefore)
        · exact mt List.map_eq_nil_iff.mp (List.splitOn_ne_nil _ _)

end Screener.Text
