import Screener.Proofs.Formula.Results
import Screener.Tickers

/-!
# Lists of tickers that can be read

A text is read as a list of tickers exactly if there is something between any two of its commas
and no ticker occurs twice, and the tickers are then those of its pieces (`Tickers.read_eq_ok_iff`).
-/

namespace Screener.Tickers

open Text

/-- The ticker that a piece of a list stands for. -/
def ofPiece (piece : List Char) : String := String.ofList (upper (trim piece))

/-- The tickers that the pieces of a text stand for. -/
def named (text : String) : List String := (text.toList.splitOn ',').map ofPiece

/-- No piece of the text is blank, and no two stand for one ticker. -/
structure Proper (text : String) : Prop where
  given : ∀ piece ∈ text.toList.splitOn ',', trim piece ≠ []
  distinct : (named text).Nodup

theorem readPieces_cons (seen : List String) (piece : List Char) (rest : List (List Char)) :
    readPieces seen (piece :: rest) =
      if (trim piece).isEmpty then .error .emptyToken
      else if ofPiece piece ∈ seen then .error (.duplicate (ofPiece piece))
      else (readPieces (ofPiece piece :: seen) rest).map (ofPiece piece :: ·) := rfl

theorem readPieces_cons_eq_ok_iff {seen : List String} {piece : List Char}
    {rest : List (List Char)} {tickers : List String} :
    readPieces seen (piece :: rest) = .ok tickers ↔
      trim piece ≠ [] ∧ ofPiece piece ∉ seen ∧
        ∃ others, readPieces (ofPiece piece :: seen) rest = .ok others ∧
          ofPiece piece :: others = tickers := by
  simp only [readPieces_cons, List.isEmpty_iff]
  split
  · next hblank => simp [hblank]
  split
  · next hseen => simp [hseen]
  · next hblank hseen =>
    constructor
    · intro h
      exact ⟨hblank, hseen, map_eq_ok h⟩
    · rintro ⟨-, -, others, hothers, rfl⟩
      rw [hothers]
      rfl

/-- Pieces are read if none is blank, and their tickers differ from each other and from those that
have been seen. -/
theorem readPieces_eq_ok_iff {seen : List String} {pieces : List (List Char)}
    {tickers : List String} :
    readPieces seen pieces = .ok tickers ↔
      (∀ piece ∈ pieces, trim piece ≠ []) ∧ (pieces.map ofPiece).Nodup ∧
        (∀ ticker ∈ pieces.map ofPiece, ticker ∉ seen) ∧ pieces.map ofPiece = tickers := by
  induction pieces generalizing seen tickers with
  | nil => simp [readPieces]
  | cons piece rest ih =>
      rw [List.map_cons, List.nodup_cons, List.forall_mem_cons, List.forall_mem_cons]
      simp only [readPieces_cons_eq_ok_iff, ih, List.mem_cons, not_or]
      constructor
      · rintro ⟨hpiece, hnew, _, ⟨hgiven, hdistinct, hothers, rfl⟩, rfl⟩
        have hdiffers : ofPiece piece ∉ rest.map ofPiece := fun hmem => (hothers _ hmem).1 rfl
        exact ⟨⟨hpiece, hgiven⟩, ⟨hdiffers, hdistinct⟩, ⟨hnew, fun t ht => (hothers t ht).2⟩, rfl⟩
      · rintro ⟨⟨hpiece, hgiven⟩, ⟨hdiffers, hdistinct⟩, ⟨hnew, hothers⟩, rfl⟩
        refine ⟨hpiece, hnew, _, ⟨hgiven, hdistinct, fun t ht => ⟨?_, hothers t ht⟩, rfl⟩, rfl⟩
        rintro rfl
        exact hdiffers ht

theorem read_eq_ok_iff {text : String} {tickers : List String} :
    read text = .ok tickers ↔ Proper text ∧ named text = tickers := by
  rw [read, readPieces_eq_ok_iff]
  constructor
  · rintro ⟨hgiven, hdistinct, -, htickers⟩
    exact ⟨⟨hgiven, hdistinct⟩, htickers⟩
  · rintro ⟨⟨hgiven, hdistinct⟩, htickers⟩
    exact ⟨hgiven, hdistinct, by simp, htickers⟩

end Screener.Tickers
