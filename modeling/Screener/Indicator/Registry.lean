import Screener.Decimal.Layout
import Screener.Frame

/-!
# Indicators by name

An indicator turns the rows of a frame and a list of numbers, its arguments, into one value for
each row, missing where it has not seen enough rows.  Formulas call indicators by name, and a
registry says what each name stands for.
-/

namespace Screener

/-- Why an indicator refuses its arguments. -/
inductive IndicatorError where
  | arity (expected actual : Nat)
  | invalidPeriod (index : Nat) (value : Float)
  | notFinite (index : Nat) (value : Float)
  deriving Repr, BEq

/-- The wording of a refusal. -/
def IndicatorError.message : IndicatorError → String
  | .arity expected actual => s!"expected {expected} parameters, got {actual}"
  | .invalidPeriod index value =>
    s!"parameter {index} must be a positive integer, got " ++ Decimal.plain.text value
  | .notFinite index value =>
    s!"parameter {index} must be a finite number, got " ++ Decimal.plain.text value

/-- A computation over the rows of a frame with numeric arguments. -/
abbrev Indicator := Frame → List Float → Except IndicatorError (List (Option Float))

namespace Indicator

/-- Refuses any number of arguments but `expected`. -/
def checkArity (expected : Nat) (arguments : List Float) : Except IndicatorError Unit :=
  if arguments.length = expected then .ok () else .error (.arity expected arguments.length)

/-- The greatest number of rows that an argument can stand for: the greatest number of 64 bits. -/
def mostRows : Nat := 18446744073709551615

/-- An argument as a number of rows: a finite whole number of at least one.  Numbers beyond 64 bits
become the greatest number of 64 bits. -/
def period (index : Nat) (value : Float) : Except IndicatorError Nat :=
  match (Decimal.Parts.ofFloat value).natural?.filter (1 ≤ ·) with
  | some rows => .ok (min rows mostRows)
  | none => .error (.invalidPeriod index value)

/-- An argument as a finite number. -/
def multiplier (index : Nat) (value : Float) : Except IndicatorError Float :=
  if value.isFinite then .ok value else .error (.notFinite index value)

end Indicator

/-- What the names of indicators stand for. -/
structure Registry where
  entries : List (String × Indicator)

namespace Registry

/-- The registry without names. -/
def empty : Registry := ⟨[]⟩

/-- Gives a name to an indicator; what the name stood for before is forgotten. -/
def register (registry : Registry) (name : String) (indicator : Indicator) : Registry :=
  ⟨(name, indicator) :: registry.entries.filter fun entry => entry.1 != name⟩

/-- What a name stands for. -/
def get? (registry : Registry) (name : String) : Option Indicator := registry.entries.lookup name

/-- Whether a name stands for an indicator. -/
def contains (registry : Registry) (name : String) : Bool := (registry.get? name).isSome

/-- Whether no name stands for anything. -/
def isEmpty (registry : Registry) : Bool := registry.entries.isEmpty

/-- The names in ascending order. -/
def names (registry : Registry) : List String :=
  (registry.entries.map Prod.fst).mergeSort fun a b => decide (a ≤ b)

@[simp] theorem get?_empty (name : String) : empty.get? name = none := rfl

theorem get?_register (registry : Registry) (name other : String) (indicator : Indicator) :
    (registry.register name indicator).get? other =
      if other = name then some indicator else registry.get? other := by
  unfold get? register
  by_cases h : other = name
  · simp [h]
  · have hb : (other == name) = false := by simpa using h
    simp only [List.lookup_cons, hb, h, if_false]
    induction registry.entries with
    | nil => rfl
    | cons entry rest ih =>
      obtain ⟨key, value⟩ := entry
      by_cases he : key = name
      · have hk : (other == key) = false := by simpa [he] using h
        simpa [List.filter_cons, he, List.lookup_cons, hb] using ih
      · by_cases ho : other = key <;> simp [he, List.lookup_cons, ho, ih]

end Registry

end Screener
