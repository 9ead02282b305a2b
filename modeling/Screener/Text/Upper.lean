import Screener.Text.Upper.Table

/-!
# Upper case

Upper-casing works character by character and may lengthen a text: `ß` becomes `SS`.
-/

namespace Screener.Text

/-- The upper case of a character, one or more characters. -/
def upperChar (c : Char) : List Char :=
  if c.toNat < 128 then [c.toUpper]
  else match Upper.expansions.lookup c.toNat with
    | some codes => codes.map Char.ofNat
    | none => match Upper.runs.find? (·.covers c.toNat) with
      | some run => [Char.ofNat (c.toNat + run.offset).toNat]
      | none => [c]

/-- The upper case of a text. -/
def upper (cs : List Char) : List Char := cs.flatMap upperChar

@[simp] theorem upper_nil : upper [] = [] := rfl

@[simp] theorem upper_append (cs ds : List Char) : upper (cs ++ ds) = upper cs ++ upper ds := by
  simp [upper]

/-- The lower case of the ASCII letters; every other character is kept. -/
def asciiLower (cs : List Char) : List Char := cs.map Char.toLower

end Screener.Text
