import Mathlib.Data.List.Forall2
import Screener.Proofs.Text.Blank
import Screener.Proofs.Text.Upper
import Screener.Proofs.Tickers

/-!
# The normal form of a list of tickers

A list of tickers is read from the left, up to the first piece that is blank or stands for a ticker
that has occurred (`Tickers.Blames`).  If there is none, the tickers are in normal form: written with
commas between them they are read as what they are.  Upper and lower case do not matter, nor do blank
characters around the pieces (`Tickers.read_normalForm`).

A ticker is itself in normal form if it is read as itself (`Tickers.IsNormal`): it is trimmed, in upper
case, not empty and without a comma.  A list of different tickers can be written with commas exactly
if all of them are (`Tickers.read_intercalate_eq_ok_iff`).
-/

namespace Screener.Tickers

open Text

/-! ## The first piece that cannot be read -/

/-- Why a piece cannot be read after those that stand for the tickers `seen`. -/
inductive Blames (seen : List String) (piece : List Char) : TickerError → Prop
  | blank (hblank : trim piece = []) : Blames seen piece .emptyToken
  | again (hgiven : trim piece ≠ []) (hseen : ofPiece piece ∈ seen) :
      Blames seen piece (.duplicate (ofPiece piece))

theorem Blames.congr {seen seen' : List String} (hsame : ∀ ticker, ticker ∈ seen ↔ ticker ∈ seen')
    {piece : List Char} {e : TickerError} : Blames seen piece e ↔ Blames seen' piece e := by
  constructor
  · rintro (hblank | ⟨hgiven, hseen⟩)
    · exact .blank hblank
    · exact .again hgiven ((hsame _).mp hseen)
  · rintro (hblank | ⟨hgiven, hseen⟩)
    · exact .blank hblank
    · exact .again hgiven ((hsame _).mpr hseen)

/-- One piece is to blame, or one of those after it. -/
theorem readPieces_cons_eq_error_iff {seen : List String} {piece : List Char}
    {rest : List (List Char)} {e : TickerError} :
    readPieces seen (piece :: rest) = .error e ↔
      Blames seen piece e ∨ trim piece ≠ [] ∧ ofPiece piece ∉ seen ∧
        readPieces (ofPiece piece :: seen) rest = .error e := by
  rw [readPieces_cons]
  by_cases hblank : trim piece = []
  · rw [if_pos (List.isEmpty_iff.mpr hblank)]
    constructor
    · intro herror
      cases herror
      exact .inl (.blank hblank)
    · rintro (hblames | ⟨hgiven, -⟩)
      · cases hblames with
        | blank => rfl
        | again hgiven => exact absurd hblank hgiven
      · exact absurd hblank hgiven
  rw [if_neg (mt List.isEmpty_iff.mp hblank)]
  by_cases hseen : ofPiece piece ∈ seen
  · rw [if_pos hseen]
    constructor
    · intro herror
      cases herror
      exact .inl (.again hblank hseen)
    · rintro (hblames | ⟨-, hnew, -⟩)
      · cases hblames with
        | blank hblank' => exact absurd hblank' hblank
        | again => rfl
      · exact absurd hseen hnew
  rw [if_neg hseen]
  constructor
  · intro herror
    exact .inr ⟨hblank, hseen, map_eq_error herror⟩
  · rintro (hblames | ⟨-, -, herror⟩)
    · cases hblames with
      | blank hblank' => exact absurd hblank' hblank
      | again _ hseen' => exact absurd hseen' hseen
    · rw [herror]
      rfl

theorem readPieces_eq_error_iff {seen : List String} {pieces : List (List Char)}
    {e : TickerError} :
    readPieces seen pieces = .error e ↔
      ∃ before piece after, pieces = before ++ piece :: after ∧
        (∃ tickers, readPieces seen before = .ok tickers) ∧
        Blames (seen ++ before.map ofPiece) piece e := by
  induction pieces generalizing seen with
  | nil => simp [readPieces]
  | cons piece rest ih =>
      rw [readPieces_cons_eq_error_iff]
      constructor
      · rintro (hblames | ⟨hgiven, hnew, herror⟩)
        · exact ⟨[], piece, rest, rfl, ⟨[], rfl⟩, by simpa using hblames⟩
        · obtain ⟨before, found, after, rfl, ⟨tickers, htickers⟩, hblames⟩ := ih.mp herror
          refine ⟨piece :: before, found, after, rfl, ⟨ofPiece piece :: tickers, ?_⟩, ?_⟩
          · exact readPieces_cons_eq_ok_iff.mpr ⟨hgiven, hnew, tickers, htickers, rfl⟩
          · refine (Blames.congr fun ticker => ?_).mp hblames
            simp [or_left_comm]
      · rintro ⟨before, found, after, hsplit, ⟨tickers, htickers⟩, hblames⟩
        cases before with
        | nil =>
            obtain ⟨rfl, rfl⟩ := List.cons.inj hsplit
            exact .inl (by simpa using hblames)
        | cons first before =>
            obtain ⟨rfl, rfl⟩ := List.cons.inj hsplit
            obtain ⟨hgiven, hnew, others, hothers, -⟩ := readPieces_cons_eq_ok_iff.mp htickers
            refine .inr ⟨hgiven, hnew, ih.mpr ⟨before, found, after, rfl, ⟨others, hothers⟩, ?_⟩⟩
            refine (Blames.congr fun ticker => ?_).mp hblames
            simp [or_left_comm]

/-! ## What does not matter -/

theorem ofPiece_eq_empty_iff (piece : List Char) : ofPiece piece = "" ↔ trim piece = [] := by
  rw [ofPiece, ← String.toList_eq_nil_iff, String.toList_ofList, upper_eq_nil_iff]

/-- Only what the pieces stand for matters; nothing is what blank pieces stand for. -/
theorem readPieces_congr {pieces pieces' : List (List Char)}
    (hsame : pieces.map ofPiece = pieces'.map ofPiece) (seen : List String) :
    readPieces seen pieces = readPieces seen pieces' := by
  induction pieces generalizing pieces' seen with
  | nil =>
      obtain rfl : pieces' = [] := List.map_eq_nil_iff.mp hsame.symm
      rfl
  | cons piece rest ih =>
      cases pieces' with
      | nil => cases hsame
      | cons piece' rest' =>
          obtain ⟨hpiece, hrest⟩ := List.cons.inj hsame
          have hblank : (trim piece).isEmpty = (trim piece').isEmpty := by
            rw [Bool.eq_iff_iff, List.isEmpty_iff, List.isEmpty_iff, ← ofPiece_eq_empty_iff,
              ← ofPiece_eq_empty_iff, hpiece]
          rw [readPieces_cons, readPieces_cons, hblank, hpiece, ih hrest]

theorem read_congr {text text' : String} (hsame : named text = named text') :
    read text = read text' := readPieces_congr hsame []

/-- A piece in upper case stands for the same ticker. -/
theorem ofPiece_upper (piece : List Char) : ofPiece (upper piece) = ofPiece piece := by
  rw [ofPiece, trim_upper, upper_upper, ofPiece]

theorem ofPiece_ofPiece (piece : List Char) : ofPiece (ofPiece piece).toList = ofPiece piece := by
  rw [ofPiece, ofPiece, String.toList_ofList, trim_upper, upper_upper, trim_trim]

/-- No ticker has a comma. -/
theorem comma_not_mem_of_mem_named {text ticker : String} (hticker : ticker ∈ named text) :
    ',' ∉ ticker.toList := by
  obtain ⟨piece, hpiece, rfl⟩ := List.mem_map.mp hticker
  rw [ofPiece, String.toList_ofList]
  exact comma_not_mem_upper (mt mem_of_mem_trim (not_mem_of_mem_splitOn hpiece))

/-- A piece with blank characters around it. -/
def Padded (piece padded : List Char) : Prop :=
  ∃ before after, IsBlank before ∧ IsBlank after ∧ padded = before ++ piece ++ after

theorem Padded.ofPiece_eq {piece padded : List Char} (hpadded : Padded piece padded) :
    ofPiece padded = ofPiece piece := by
  obtain ⟨before, after, hbefore, hafter, rfl⟩ := hpadded
  rw [ofPiece, trim_padded hbefore hafter, ofPiece]

theorem Padded.comma_not_mem {piece padded : List Char} (hpadded : Padded piece padded)
    (hpiece : ',' ∉ piece) : ',' ∉ padded := by
  obtain ⟨before, after, hbefore, hafter, rfl⟩ := hpadded
  have hcomma : ¬isBlank ',' = true := by decide
  rw [List.mem_append, List.mem_append]
  rintro ((hmem | hmem) | hmem)
  · exact hcomma (hbefore _ hmem)
  · exact hpiece hmem
  · exact hcomma (hafter _ hmem)

theorem map_ofPiece_of_padded {pieces padded : List (List Char)}
    (hpadded : List.Forall₂ Padded pieces padded) : padded.map ofPiece = pieces.map ofPiece := by
  induction hpadded with
  | nil => rfl
  | cons hfirst _ ih => rw [List.map_cons, List.map_cons, hfirst.ofPiece_eq, ih]

theorem comma_not_mem_of_padded {pieces padded : List (List Char)}
    (hpadded : List.Forall₂ Padded pieces padded) (hpieces : ∀ piece ∈ pieces, ',' ∉ piece) :
    ∀ piece ∈ padded, ',' ∉ piece := by
  induction hpadded with
  | nil => exact hpieces
  | cons hfirst _ ih =>
      rw [List.forall_mem_cons] at hpieces ⊢
      exact ⟨hfirst.comma_not_mem hpieces.1, ih hpieces.2⟩

/-- The tickers of pieces with commas between them. -/
theorem named_intercalate {pieces : List (List Char)} (hpieces : pieces ≠ [])
    (hcomma : ∀ piece ∈ pieces, ',' ∉ piece) :
    named (String.ofList ([','].intercalate pieces)) = pieces.map ofPiece := by
  rw [named, String.toList_ofList, List.splitOn_intercalate ',' hcomma hpieces]

theorem named_join {tickers : List String} (htickers : tickers ≠ [])
    (hcomma : ∀ ticker ∈ tickers, ',' ∉ ticker.toList) :
    named (",".intercalate tickers) = tickers.map (ofPiece ·.toList) := by
  have htext : ",".intercalate tickers =
      String.ofList ([','].intercalate (tickers.map String.toList)) := by
    rw [← String.ofList_toList (s := ",".intercalate tickers), String.toList_intercalate]
    rfl
  rw [htext, named_intercalate (mt List.map_eq_nil_iff.mp htickers), List.map_map]
  · rfl
  · exact List.forall_mem_map.mpr hcomma

theorem named_ne_nil (text : String) : named text ≠ [] :=
  mt List.map_eq_nil_iff.mp (List.splitOn_ne_nil ',' text.toList)

/-- The tickers of a text are those of their list with commas. -/
theorem named_join_named (text : String) : named (",".intercalate (named text)) = named text := by
  rw [named_join (named_ne_nil text) fun ticker => comma_not_mem_of_mem_named]
  nth_rewrite 2 [named]
  rw [named, List.map_map]
  exact List.map_congr_left fun piece _ => ofPiece_ofPiece piece

/-! ## The normal form -/

/-- What reading a text as a list of tickers comes to. -/
structure HasNormalForm (text : String) : Prop where
  /-- It fails at the first piece that is to blame. -/
  fails (e : TickerError) : read text = .error e ↔
    ∃ before piece after, text.toList.splitOn ',' = before ++ piece :: after ∧
      ((∀ earlier ∈ before, trim earlier ≠ []) ∧ (before.map ofPiece).Nodup) ∧
      Blames (before.map ofPiece) piece e
  /-- Otherwise it gives what the pieces stand for. -/
  gives (tickers : List String) : read text = .ok tickers ↔
    ((∀ piece ∈ text.toList.splitOn ',', trim piece ≠ []) ∧ (named text).Nodup) ∧
      named text = tickers
  distinct (tickers : List String) : read text = .ok tickers → tickers.Nodup ∧ "" ∉ tickers
  readsBack (tickers : List String) : read text = .ok tickers →
    read (",".intercalate tickers) = .ok tickers
  inUpperCase : read (String.ofList (upper text.toList)) = read text
  padded (pieces : List (List Char)) : List.Forall₂ Padded (text.toList.splitOn ',') pieces →
    read (String.ofList ([','].intercalate pieces)) = read text

/-- **Lists of tickers have a normal form.** -/
theorem read_normalForm (text : String) : HasNormalForm text where
  fails := by
    intro e
    rw [read, readPieces_eq_error_iff]
    simp only [readPieces_eq_ok_iff, List.nil_append, List.not_mem_nil, not_false_eq_true,
      implies_true, true_and, exists_and_left, exists_eq', and_true]
  gives := by
    intro tickers
    rw [read_eq_ok_iff]
    exact and_congr_left' ⟨fun h => ⟨h.given, h.distinct⟩, fun h => ⟨h.1, h.2⟩⟩
  distinct := by
    intro tickers hread
    obtain ⟨⟨hgiven, hdistinct⟩, rfl⟩ := read_eq_ok_iff.mp hread
    refine ⟨hdistinct, fun hempty => ?_⟩
    obtain ⟨piece, hpiece, hnone⟩ := List.mem_map.mp hempty
    exact hgiven piece hpiece ((ofPiece_eq_empty_iff piece).mp hnone)
  readsBack := by
    intro tickers hread
    obtain ⟨-, rfl⟩ := read_eq_ok_iff.mp hread
    rw [read_congr (named_join_named text), hread]
  inUpperCase := by
    apply read_congr
    rw [named, String.toList_ofList, splitOn_upper, List.map_map, named]
    exact List.map_congr_left fun piece _ => ofPiece_upper piece
  padded := by
    intro pieces hpadded
    have hpieces : pieces ≠ [] := by
      rintro rfl
      exact List.splitOn_ne_nil ',' text.toList (List.forall₂_nil_right_iff.mp hpadded)
    have hcomma := comma_not_mem_of_padded hpadded fun piece => not_mem_of_mem_splitOn
    apply read_congr
    rw [named_intercalate hpieces hcomma, map_ofPiece_of_padded hpadded, named]

/-- Letters of which there are several in upper case do not make pieces, and repetitions are found
in upper case. -/
example : read " krw-btc ,ß" = .ok ["KRW-BTC", "SS"] ∧ read "ss, ,ß" = .error .emptyToken ∧
    read "ss,ß, " = .error (.duplicate "SS") := by decide +kernel

/-! ## Tickers in normal form -/

/-- Whether a ticker is what reading makes of it: trimmed and in upper case, not empty and without a
comma. -/
structure IsNormal (ticker : String) : Prop where
  given : ticker ≠ ""
  single : ',' ∉ ticker.toList
  kept : ofPiece ticker.toList = ticker

/-- What is read is in normal form. -/
theorem isNormal_of_read_eq_ok {text : String} {tickers : List String}
    (hread : read text = .ok tickers) {ticker : String} (hticker : ticker ∈ tickers) :
    IsNormal ticker := by
  obtain ⟨⟨hgiven, -⟩, rfl⟩ := read_eq_ok_iff.mp hread
  have hcomma := comma_not_mem_of_mem_named hticker
  obtain ⟨piece, hpiece, rfl⟩ := List.mem_map.mp hticker
  exact ⟨mt (ofPiece_eq_empty_iff piece).mp (hgiven piece hpiece), hcomma, ofPiece_ofPiece piece⟩

/-- Different tickers can be written as a list exactly if all of them are in normal form. -/
theorem read_intercalate_eq_ok_iff {tickers : List String} (htickers : tickers ≠ []) :
    read (",".intercalate tickers) = .ok tickers ↔
      tickers.Nodup ∧ ∀ ticker ∈ tickers, IsNormal ticker := by
  constructor
  · intro hread
    obtain ⟨⟨-, hdistinct⟩, hnamed⟩ := read_eq_ok_iff.mp hread
    exact ⟨hnamed ▸ hdistinct, fun ticker hticker => isNormal_of_read_eq_ok hread hticker⟩
  · rintro ⟨hdistinct, hnormal⟩
    have hnamed : named (",".intercalate tickers) = tickers := by
      rw [named_join htickers fun ticker hticker => (hnormal ticker hticker).single]
      exact (List.map_congr_left fun ticker hticker => (hnormal ticker hticker).kept).trans
        (List.map_id tickers)
    refine read_eq_ok_iff.mpr ⟨⟨fun piece hpiece hblank => ?_, by rwa [hnamed]⟩, hnamed⟩
    have hempty : "" ∈ tickers := by
      rw [← hnamed, ← (ofPiece_eq_empty_iff piece).mpr hblank]
      exact List.mem_map_of_mem hpiece
    exact (hnormal "" hempty).given rfl

end Screener.Tickers
