import Screener.Formula.Basic

/-!
# Bindings

Definitions are kept in the order in which they were made, newest first, and are never removed:
the number of a definition is the number of definitions made before it.  A name stands for its
latest definition.
-/

namespace Screener

/-- Definitions and the names that stand for them. -/
structure Bindings where
  /-- All definitions, newest first. -/
  formulas : List Formula
  /-- The number of the latest definition of each name. -/
  names : List (String × Nat)

namespace Bindings

/-- No definitions. -/
def empty : Bindings := ⟨[], []⟩

/-- The definition with a number. -/
def formula? (bindings : Bindings) (definition : Nat) : Option Formula :=
  bindings.formulas.reverse[definition]?

/-- The number of the definition that a name stands for. -/
def find? (bindings : Bindings) (name : String) : Option Nat := bindings.names.lookup name

/-- Whether a name stands for a definition. -/
def contains (bindings : Bindings) (name : String) : Bool := (bindings.find? name).isSome

/-- The number of names. -/
def size (bindings : Bindings) : Nat := bindings.names.length

/-- Whether no name stands for a definition. -/
def isEmpty (bindings : Bindings) : Bool := bindings.names.isEmpty

/-- Adds a definition without a name. -/
def add (bindings : Bindings) (formula : Formula) : Bindings :=
  { bindings with formulas := formula :: bindings.formulas }

/-- The number that the next definition gets. -/
def next (bindings : Bindings) : Nat := bindings.formulas.length

/-- Adds a definition and makes a name stand for it. -/
def define (bindings : Bindings) (name : String) (formula : Formula) : Bindings where
  formulas := formula :: bindings.formulas
  names := (name, bindings.next) :: bindings.names.filter fun entry => entry.1 != name

end Bindings

end Screener
