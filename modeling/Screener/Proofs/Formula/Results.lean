/-!
# Results that may be failures

A computation in `Except` that succeeds has succeeded in each of its steps, and changing a value or a
failure changes nothing else.
-/

namespace Screener

variable {ε φ α β : Type}

theorem exists_of_toBool {x : Except ε α} (h : x.toBool = true) : ∃ a, x = .ok a := by
  cases x with
  | error e => cases h
  | ok a => exact ⟨a, rfl⟩

theorem bind_eq_ok {x : Except ε α} {f : α → Except ε β} {b : β} (h : x >>= f = .ok b) :
    ∃ a, x = .ok a ∧ f a = .ok b := by
  cases x with
  | error e => cases h
  | ok a => exact ⟨a, rfl, h⟩

theorem bind_eq_ok_iff {x : Except ε α} {f : α → Except ε β} {b : β} :
    x >>= f = .ok b ↔ ∃ a, x = .ok a ∧ f a = .ok b := by
  constructor
  · exact bind_eq_ok
  · rintro ⟨a, rfl, hf⟩
    exact hf

theorem bind_eq_error {x : Except ε α} {f : α → Except ε β} {e : ε} (h : x >>= f = .error e) :
    x = .error e ∨ ∃ a, x = .ok a ∧ f a = .error e := by
  cases x with
  | error e' =>
      cases h
      exact .inl rfl
  | ok a => exact .inr ⟨a, rfl, h⟩

/-- A result that is not looked at only has to be there. -/
theorem discard_eq_ok_iff {x : Except ε α} {u : Unit} :
    discard x = .ok u ↔ ∃ a, x = .ok a := by
  cases x with
  | error e => exact ⟨nofun, nofun⟩
  | ok a => exact ⟨fun _ => ⟨a, rfl⟩, fun _ => rfl⟩

theorem map_eq_ok {x : Except ε α} {f : α → β} {b : β} (h : x.map f = .ok b) :
    ∃ a, x = .ok a ∧ f a = b := by
  cases x with
  | error e => cases h
  | ok a =>
      cases h
      exact ⟨a, rfl, rfl⟩

theorem map_eq_error {x : Except ε α} {f : α → β} {e : ε} (h : x.map f = .error e) :
    x = .error e := by
  cases x with
  | error e' =>
      cases h
      rfl
  | ok a => cases h

theorem mapError_eq_ok {x : Except ε α} {f : ε → φ} {a : α} (h : x.mapError f = .ok a) :
    x = .ok a := by
  cases x with
  | error e => cases h
  | ok found =>
      cases h
      rfl

/-- Steps that fail one after another fail at one of them. -/
theorem exists_of_mapM_eq_error {steps : List α} {f : α → Except ε β} {e : ε}
    (h : steps.mapM f = .error e) : ∃ a ∈ steps, f a = .error e := by
  induction steps with
  | nil => cases h
  | cons a rest ih =>
      rw [List.mapM_cons] at h
      rcases bind_eq_error h with ha | ⟨b, -, hrest⟩
      · exact ⟨a, List.mem_cons_self, ha⟩
      · rcases bind_eq_error hrest with hlater | ⟨values, -, hvalues⟩
        · obtain ⟨other, hother, he⟩ := ih hlater
          exact ⟨other, List.mem_cons_of_mem a hother, he⟩
        · cases hvalues

theorem forall_of_mapM_eq_ok {P : β → Prop} {steps : List α} {f : α → Except ε β} {values : List β}
    (h : steps.mapM f = .ok values) (hf : ∀ a b, f a = .ok b → P b) : ∀ b ∈ values, P b := by
  induction steps generalizing values with
  | nil =>
      cases h
      exact nofun
  | cons a rest ih =>
      rw [List.mapM_cons] at h
      obtain ⟨b, hb, h⟩ := bind_eq_ok h
      obtain ⟨others, hothers, h⟩ := bind_eq_ok h
      cases h
      exact List.forall_mem_cons.mpr ⟨hf a b hb, ih hothers⟩

/-- Steps from given values back to them. -/
theorem mapM_map_eq_ok {f : α → Except ε β} {g : β → α} {values : List β}
    (h : ∀ b ∈ values, f (g b) = .ok b) : (values.map g).mapM f = .ok values := by
  induction values with
  | nil => rfl
  | cons b rest ih =>
      obtain ⟨hb, hrest⟩ := List.forall_mem_cons.mp h
      rw [List.map_cons, List.mapM_cons, hb, ih hrest]
      rfl

theorem mapError_map (x : Except ε α) (f : α → β) (g : ε → φ) :
    (x.map f).mapError g = (x.mapError g).map f := by
  cases x <;> rfl

/-- What is put before a list in two steps can be put there in one. -/
theorem map_append_map (x : Except ε (List α)) (first second : List α) :
    (x.map (second ++ ·)).map (first ++ ·) = x.map ((first ++ second) ++ ·) := by
  cases x with
  | error e => rfl
  | ok rest => exact congrArg Except.ok (List.append_assoc first second rest).symm

end Screener
