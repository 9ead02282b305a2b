import Screener.Text.Blank
import Screener.Text.Pieces

/-!
# Lexemes

A formula is written as words with blank characters between them, so its lexemes are the maximal
runs of characters that are not blank.  Each carries the byte of the text at which it starts.
-/

namespace Screener

/-- A word of a formula and the byte at which it starts. -/
structure Lexeme where
  text : String
  position : Nat
  deriving Repr, DecidableEq

namespace Lexeme

open Text

/-- The lexemes of a text that starts at byte `position`. -/
def scan (position : Nat) (cs : List Char) : List Lexeme :=
  match cs with
  | [] => []
  | c :: rest =>
    if isBlank c then scan (position + c.utf8Size) rest
    else
      let word := c :: rest.takeWhile (!isBlank ·)
      ⟨String.ofList word, position⟩ ::
        scan (position + byteLength word) (rest.dropWhile (!isBlank ·))
termination_by cs.length
decreasing_by
  · simp
  · have := (List.dropWhile_suffix (l := rest) (!isBlank ·)).length_le
    simp
    omega

/-- The lexemes of a text from left to right. -/
def ofText (text : String) : List Lexeme := scan 0 text.toList

end Lexeme

end Screener
