/-!
# Cutting texts into pieces

Cutting a text at the first separator or at its line ends, and counting its bytes.
-/

namespace Screener.Text

/-- The text before and the text after the first occurrence of `separator`. -/
def splitFirst (separator : Char) : List Char → Option (List Char × List Char)
  | [] => none
  | c :: rest =>
    if c = separator then some ([], rest)
    else (splitFirst separator rest).map fun (before, after) => (c :: before, after)

theorem splitFirst_eq_some_iff {separator : Char} {cs before after : List Char} :
    splitFirst separator cs = some (before, after) ↔
      cs = before ++ separator :: after ∧ separator ∉ before := by
  induction cs generalizing before with
  | nil => simp [splitFirst]
  | cons c rest ih =>
    rw [splitFirst]
    split
    · next h =>
      subst h
      cases before with
      | nil => simp [eq_comm]
      | cons first before =>
        simp only [Option.some.injEq, Prod.mk.injEq, reduceCtorEq, false_and, List.cons_append,
          List.cons.injEq, List.mem_cons, not_or, false_iff]
        rintro ⟨⟨hfirst, -⟩, hne, -⟩
        exact hne hfirst
    · next h =>
      cases before with
      | nil => simp [h]
      | cons first before =>
        simp only [Option.map_eq_some_iff, Prod.mk.injEq, Prod.exists, List.cons.injEq,
          List.cons_append, List.mem_cons, not_or]
        constructor
        · rintro ⟨before, after, hrest, ⟨rfl, rfl⟩, rfl⟩
          obtain ⟨rfl, hmem⟩ := ih.1 hrest
          exact ⟨⟨rfl, rfl⟩, Ne.symm h, hmem⟩
        · rintro ⟨⟨rfl, hrest⟩, -, hmem⟩
          exact ⟨before, after, ih.2 ⟨hrest, hmem⟩, ⟨rfl, rfl⟩, rfl⟩

/-- The number of bytes of a text in UTF-8. -/
def byteLength : List Char → Nat
  | [] => 0
  | c :: rest => c.utf8Size + byteLength rest

@[simp] theorem byteLength_nil : byteLength [] = 0 := rfl

@[simp] theorem byteLength_cons (c : Char) (cs : List Char) :
    byteLength (c :: cs) = c.utf8Size + byteLength cs := rfl

theorem byteLength_append (first second : List Char) :
    byteLength (first ++ second) = byteLength first + byteLength second := by
  induction first with
  | nil => simp
  | cons c rest ih =>
      rw [List.cons_append, byteLength_cons, byteLength_cons, ih]
      omega

/-- The lines of a text: what stands between line feeds, a carriage return before the line feed
removed; a line feed at the very end opens no further line. -/
def lines (cs : List Char) : List (List Char) :=
  let all := cs.splitOn '\n'
  let closed := all.dropLast.map fun line => (['\r'].isSuffixOf? line).getD line
  match all.getLast? with
  | some [] | none => closed
  | some last => closed ++ [last]

end Screener.Text
