import Screener.Text.Invisible

/-!
# Quoted texts

A text in quotes, on one line and without invisible characters: quotes and backslashes have a
backslash before them, and what cannot be seen is written as an escape.
-/

namespace Screener.Text

/-- The escapes that have a letter or a digit of their own. -/
def shortEscapes : List (Char × Char) :=
  [('"', '"'), ('\\', '\\'), ('\n', 'n'), ('\r', 'r'), ('\t', 't'), ('\x00', '0')]

/-- A character inside quotes. -/
def quotedChar (c : Char) : List Char :=
  match shortEscapes.lookup c with
  | some letter => ['\\', letter]
  | none =>
    if isInvisible c then "\\u\x7b".toList ++ Nat.toDigits 16 c.toNat ++ ['\x7d'] else [c]

/-- A text in quotes. -/
def quoted (text : String) : String :=
  String.ofList ('"' :: text.toList.flatMap quotedChar ++ ['"'])

end Screener.Text
