import Screener.Proofs.Formula.Kinds
import Screener.Proofs.Formula.Sessions

/-!
# Missing entries

A missing entry stands for not knowing.  If some of the missing entries of a series are filled in,
no matter with what, whatever has been concluded from the present ones is still concluded
(`Series.FilledIn.combine`): a calculation or a comparison gives an entry only where both operands
have one, and `AND` and `OR` are decided by one operand only where no value of the other one would
change them.  A lag moves missing entries like others.

So if the columns of the indicators are filled in, the series of formulas are, and nothing fails
that has not failed before (`FilledSeries.related`).
-/

namespace Screener

/-- The second entry is the first one; only if that is missing, it may be anything. -/
def Fills {α : Type} (a a' : Option α) : Prop := ∀ value, a = some value → a' = some value

namespace Fills

variable {α β : Type}

theorem refl (a : Option α) : Fills a a := fun _ ha => ha

theorem none (a' : Option α) : Fills Option.none a' := nofun

/-- An operation that gives nothing where an entry is missing. -/
theorem present {f : Option α → Option α → Option β} (hleft : ∀ b, f Option.none b = Option.none)
    (hright : ∀ a, f a Option.none = Option.none) {a a' b b' : Option α} (ha : Fills a a')
    (hb : Fills b b') : Fills (f a b) (f a' b') := by
  cases a with
  | none =>
      rw [hleft]
      exact none _
  | some x =>
      cases b with
      | none =>
          rw [hright]
          exact none _
      | some y =>
          rw [ha x rfl, hb y rfl]
          exact refl _

/-- What one operand decides, it decides whatever the other one is. -/
theorem decide3 (decisive : Bool) {a a' b b' : Option Bool} (ha : Fills a a') (hb : Fills b b') :
    Fills (Series.decide3 decisive a b) (Series.decide3 decisive a' b') := by
  by_cases hdecided : a = some decisive ∨ b = some decisive
  · have hdecided' : a' = some decisive ∨ b' = some decisive :=
      hdecided.imp (ha decisive) (hb decisive)
    unfold Series.decide3
    rw [if_pos hdecided, if_pos hdecided']
    exact refl _
  · cases a with
    | none =>
        unfold Series.decide3
        rw [if_neg hdecided]
        exact none _
    | some x =>
        cases b with
        | none =>
            unfold Series.decide3
            rw [if_neg hdecided]
            exact none _
        | some y =>
            rw [ha x rfl, hb y rfl]
            exact refl _

end Fills

/-- Columns whose entries fill in those of others, row by row. -/
abbrev FilledRows {α : Type} (rows rows' : List (Option α)) : Prop := List.Forall₂ Fills rows rows'

namespace FilledRows

variable {α β γ : Type}

theorem refl (rows : List (Option α)) : FilledRows rows rows :=
  List.forall₂_same.mpr fun entry _ => .refl entry

theorem zipWith {f : Option α → Option β → Option γ}
    (hf : ∀ {a a' b b'}, Fills a a' → Fills b b' → Fills (f a b) (f a' b'))
    {left left' : List (Option α)} {right right' : List (Option β)} (hleft : FilledRows left left')
    (hright : FilledRows right right') :
    FilledRows (List.zipWith f left right) (List.zipWith f left' right') := by
  induction hleft generalizing right right' with
  | nil => exact .nil
  | cons hentry _ ih =>
      cases hright with
      | nil => exact .nil
      | cons hentry' hrest => exact .cons (hf hentry hentry') (ih hrest)

theorem zipPresent (f : α → α → β) {left left' right right' : List (Option α)}
    (hleft : FilledRows left left') (hright : FilledRows right right') :
    FilledRows (Series.zipPresent f left right) (Series.zipPresent f left' right') :=
  zipWith (Fills.present (fun _ => rfl) fun a => by cases a <;> rfl) hleft hright

theorem shiftRows {rows rows' : List (Option α)} (hrows : FilledRows rows rows') (periods : Int) :
    FilledRows (Series.shiftRows rows periods) (Series.shiftRows rows' periods) := by
  have hlength : rows'.length = rows.length := hrows.length_eq.symm
  unfold Series.shiftRows
  rw [hlength]
  by_cases hperiods : 0 ≤ periods
  · rw [if_pos hperiods, if_pos hperiods]
    exact List.rel_append (refl _) (List.forall₂_take _ hrows)
  · rw [if_neg hperiods, if_neg hperiods]
    exact List.rel_append (List.forall₂_drop _ hrows) (refl _)

/-- An entry that is present is there in the filled column too. -/
theorem getElem?_eq_some {rows rows' : List (Option α)} (hrows : FilledRows rows rows') {row : Nat}
    {value : α} (hentry : rows[row]? = some (some value)) : rows'[row]? = some (some value) := by
  induction hrows generalizing row with
  | nil => cases hentry
  | cons hfirst _ ih =>
      cases row with
      | zero =>
          obtain rfl := Option.some.inj hentry
          exact congrArg some (hfirst value rfl)
      | succ row => exact ih hentry

end FilledRows

namespace Series

/-- A series of the same kind and length that has all entries of the first one. -/
inductive FilledIn : Series → Series → Prop
  | numbers {rows rows' : List (Option Float)} (hrows : FilledRows rows rows') :
      FilledIn (.numbers rows) (.numbers rows')
  | truths {rows rows' : List (Option Bool)} (hrows : FilledRows rows rows') :
      FilledIn (.truths rows) (.truths rows')

namespace FilledIn

variable {s s' : Series}

theorem kind (hfilled : FilledIn s s') : s'.kind = s.kind := by
  cases hfilled <;> rfl

theorem length (hfilled : FilledIn s s') : s'.length = s.length := by
  cases hfilled with
  | numbers hrows => exact hrows.length_eq.symm
  | truths hrows => exact hrows.length_eq.symm

theorem shift (hfilled : FilledIn s s') (periods : Int) :
    FilledIn (s.shift periods) (s'.shift periods) := by
  cases hfilled with
  | numbers hrows => exact .numbers (hrows.shiftRows periods)
  | truths hrows => exact .truths (hrows.shiftRows periods)

theorem onNumbers? (op : Operator) {left left' right right' : List (Option Float)}
    (hleft : FilledRows left left') (hright : FilledRows right right') :
    Option.Rel FilledIn (Series.onNumbers? op left right) (Series.onNumbers? op left' right') := by
  cases op with
  | add | sub | mul | div => exact .some (.numbers (hleft.zipPresent _ hright))
  | gt | ge | lt | le | eq | ne => exact .some (.truths (hleft.zipPresent _ hright))
  | and | or => exact .none

theorem onTruths? (op : Operator) {left left' right right' : List (Option Bool)}
    (hleft : FilledRows left left') (hright : FilledRows right right') :
    Option.Rel FilledIn (Series.onTruths? op left right) (Series.onTruths? op left' right') := by
  cases op with
  | and | or => exact .some (.truths (hleft.zipWith (Fills.decide3 _) hright))
  | eq | ne => exact .some (.truths (hleft.zipPresent _ hright))
  | add | sub | mul | div | gt | ge | lt | le => exact .none

/-- Operators conclude nothing from missing entries. -/
theorem combine (op : Operator) {left left' right right' : Series} (hleft : FilledIn left left')
    (hright : FilledIn right right') :
    Agree FilledIn (Series.combine op left right) (Series.combine op left' right') := by
  have hmismatch : mismatch op left' right' = mismatch op left right := by
    rw [mismatch, mismatch, hleft.kind, hright.kind]
  unfold Series.combine
  rw [hmismatch, hleft.length, hright.length]
  by_cases hlength : left.length ≠ right.length
  · rw [if_pos hlength, if_pos hlength]
    exact .error _
  · rw [if_neg hlength, if_neg hlength]
    -- the kinds are the same on both sides, so the operator is taken on both or on neither
    cases hleft with
    | @numbers l l' hl =>
        cases hright with
        | @numbers r r' hr =>
            have hresult := onNumbers? op hl hr
            dsimp only
            generalize Series.onNumbers? op l r = result? at hresult ⊢
            generalize Series.onNumbers? op l' r' = result?' at hresult ⊢
            cases hresult with
            | some hfilled => exact .ok hfilled
            | none => exact .error _
        | truths hr => exact .error _
    | @truths l l' hl =>
        cases hright with
        | numbers hr => exact .error _
        | @truths r r' hr =>
            have hresult := onTruths? op hl hr
            dsimp only
            generalize Series.onTruths? op l r = result? at hresult ⊢
            generalize Series.onTruths? op l' r' = result?' at hresult ⊢
            cases hresult with
            | some hfilled => exact .ok hfilled
            | none => exact .error _

end FilledIn

end Series

/-! ## Filled indicators -/

/-- On a frame, the indicators of the second registry have the names of those of the first and fail
as they do, and where they give one value for each row, they may fill in missing ones. -/
structure Registry.FilledIn (frame : Frame) (registry registry' : Registry) : Prop where
  names (name : String) : registry'.contains name = registry.contains name
  calls {name : String} {indicator indicator' : Indicator}
    (hindicator : registry.get? name = some indicator)
    (hindicator' : registry'.get? name = some indicator') (arguments : List Float) :
    Agree (fun rows rows' => rows.length = frame.size ∧ FilledRows rows rows')
      (indicator frame arguments) (indicator' frame arguments)

/-- A series with one entry for each row of its frame, and one that fills it in. -/
structure FilledSeries (frame : Frame) (s s' : Series) : Prop where
  length : s.length = frame.size
  filled : s.FilledIn s'

namespace FilledSeries

variable {frame : Frame} {registry registry' : Registry}

theorem shift {s s' : Series} (hfilled : FilledSeries frame s s') (periods : Int) :
    FilledSeries frame (s.shift periods) (s'.shift periods) where
  length := by rw [Series.length_shift, hfilled.length]
  filled := hfilled.filled.shift periods

theorem combine (op : Operator) {left right left' right' : Series}
    (hleft : FilledSeries frame left left') (hright : FilledSeries frame right right') :
    Agree (FilledSeries frame) (Series.combine op left right)
      (Series.combine op left' right') := by
  have hlength : left.length = right.length := hleft.length.trans hright.length.symm
  have hagree := Series.FilledIn.combine op hleft.filled hright.filled
  generalize hresult : Series.combine op left right = result at hagree ⊢
  generalize Series.combine op left' right' = result' at hagree ⊢
  cases hagree with
  | ok hfilled =>
      have hlengthResult := Series.length_of_combine_eq_ok hlength hresult
      exact .ok ⟨hlengthResult.trans hleft.length, hfilled⟩
  | error e => exact .error e

theorem compute (hregistry : registry.FilledIn frame registry') (c : Call) :
    Agree (FilledSeries frame) (Environment.compute ⟨frame, registry⟩ c)
      (Environment.compute ⟨frame, registry'⟩ c) := by
  have hname := hregistry.names c.name
  unfold Registry.contains at hname
  unfold Environment.compute
  cases hindicator : registry.get? c.name with
  | none =>
      rw [hindicator] at hname
      have hindicator' : registry'.get? c.name = none := by simpa using hname
      rw [hindicator']
      exact .error _
  | some indicator =>
      rw [hindicator] at hname
      obtain ⟨indicator', hindicator'⟩ := Option.isSome_iff_exists.mp hname
      have hcall := hregistry.calls hindicator hindicator' c.arguments
      rw [hindicator']
      dsimp only
      generalize indicator frame c.arguments = result at hcall ⊢
      generalize indicator' frame c.arguments = result' at hcall ⊢
      cases hcall with
      | ok hrows => exact .ok ⟨hrows.1, .numbers hrows.2⟩
      | error e => exact .error _

/-- Formulas fill in no more than the indicators do, and lose nothing. -/
theorem related (hregistry : registry.FilledIn frame registry') :
    Related (FilledSeries frame) ⟨frame, registry⟩ ⟨frame, registry'⟩ where
  kind hfilled := hfilled.filled.kind
  length hfilled := ⟨hfilled.length, hfilled.filled.length.trans hfilled.length⟩
  combine := combine
  literal value := ⟨List.length_replicate, .numbers (.refl _)⟩
  column read := by
    refine ⟨?_, .numbers (.refl _)⟩
    simp [Series.ofNumbers, Series.length, Frame.size]
  call := compute hregistry

end FilledSeries

end Screener
