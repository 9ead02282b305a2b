import Mathlib.Data.List.Forall2
import Screener.Scan.Report

/-!
# What reports say about tickers

The entries of a report bear the tickers that they are about.  A report that is made of labelled
outcomes says about a ticker what the outcomes with its label say (`Report.about_ofOutcomes`), in the
order of the outcomes (`Report.ofOutcomes_sublist`).
-/

namespace Screener

/-! ## Lists of labelled entries -/

section Labelled

variable {α τ : Type} {entry : τ → Option α} {label : α → String} {key : τ → String}
  (hlabel : ∀ position a, entry position = some a → label a = key position)

include hlabel

/-- The entries with a label are those of the positions with it. -/
private theorem filter_filterMap_label (ticker : String) (positions : List τ) :
    (positions.filterMap entry).filter (label · == ticker) =
      (positions.filter (key · == ticker)).filterMap entry := by
  rw [List.filter_filterMap, List.filterMap_filter]
  refine List.filterMap_congr fun first _ => ?_
  cases hentry : entry first with
  | none => exact (ite_self none).symm
  | some a =>
      rw [Option.filter, hlabel first a hentry]

/-- The labels of the entries are in the order of the positions. -/
private theorem map_label_filterMap_sublist (positions : List τ) :
    ((positions.filterMap entry).map label).Sublist (positions.map key) := by
  induction positions with
  | nil => exact .slnil
  | cons first rest ih =>
      rw [List.filterMap_cons, List.map_cons]
      cases hentry : entry first with
      | none => exact ih.cons (key first)
      | some a =>
          rw [List.map_cons, hlabel first a hentry]
          exact ih.cons_cons (key first)

end Labelled

private theorem fst_of_map_eq_some {α : Type} {value : Option α} {ticker : String}
    {entry : String × α} (hentry : value.map (fun a => (ticker, a)) = some entry) :
    entry.1 = ticker := by
  obtain ⟨a, -, rfl⟩ := Option.map_eq_some_iff.mp hentry
  rfl

private theorem eq_of_ite_eq_some {holds : Bool} {ticker entry : String}
    (hentry : (if holds then some ticker else none) = some entry) : entry = ticker := by
  cases holds with
  | false => cases hentry
  | true =>
      cases hentry
      rfl

namespace Report

/-- One report after another. -/
def append (first second : Report) : Report where
  results := first.results ++ second.results
  skipped := first.skipped ++ second.skipped
  failures := first.failures ++ second.failures

/-- The entries of a report about one ticker. -/
def about (report : Report) (ticker : String) : Report where
  results := report.results.filter (·.1 == ticker)
  skipped := report.skipped.filter (· == ticker)
  failures := report.failures.filter (·.1 == ticker)

/-- Two reports that differ at most in the reasons for the failures of some tickers. -/
structure SameBut (excepted : String → Prop) (report other : Report) : Prop where
  results : report.results = other.results
  skipped : report.skipped = other.skipped
  failures : List.Forall₂ (fun failure failure' => failure.1 = failure'.1 ∧
    (failure.2 = failure'.2 ∨ excepted failure.1)) report.failures other.failures
  version : report.version = other.version

/-! ## Reports on outcomes -/

section Singleton

variable (ticker : String) (o : Outcome)

theorem results_ofOutcomes_singleton (bar : Bar Float) :
    (ofOutcomes [(ticker, o)]).results = [(ticker, bar)] ↔ o = .qualified bar := by
  cases o <;> simp [ofOutcomes, Outcome.bar?]

theorem skipped_ofOutcomes_singleton :
    (ofOutcomes [(ticker, o)]).skipped = [ticker] ↔ o = .skipped := by
  cases o <;> simp [ofOutcomes, Outcome.isSkipped]

theorem failures_ofOutcomes_singleton (reason : String) :
    (ofOutcomes [(ticker, o)]).failures = [(ticker, reason)] ↔ o = .failed reason := by
  cases o <;> simp [ofOutcomes, Outcome.reason?]

theorem ofOutcomes_singleton_eq_nil :
    (ofOutcomes [(ticker, o)]).results = [] ∧ (ofOutcomes [(ticker, o)]).skipped = [] ∧
      (ofOutcomes [(ticker, o)]).failures = [] ↔ o = .rejected := by
  cases o <;> simp [ofOutcomes, Outcome.bar?, Outcome.isSkipped, Outcome.reason?]

theorem length_ofOutcomes_singleton_le :
    (ofOutcomes [(ticker, o)]).results.length + (ofOutcomes [(ticker, o)]).skipped.length +
      (ofOutcomes [(ticker, o)]).failures.length ≤ 1 := by
  cases o <;> simp [ofOutcomes, Outcome.bar?, Outcome.isSkipped, Outcome.reason?]

end Singleton

variable (outcomes : List (String × Outcome))

theorem ofOutcomes_append (first second : List (String × Outcome)) :
    ofOutcomes (first ++ second) = (ofOutcomes first).append (ofOutcomes second) := by
  simp only [ofOutcomes, append, List.filterMap_append]

/-- The lists of a report are in the order of the outcomes. -/
theorem ofOutcomes_sublist :
    ((ofOutcomes outcomes).results.map Prod.fst).Sublist (outcomes.map Prod.fst) ∧
      (ofOutcomes outcomes).skipped.Sublist (outcomes.map Prod.fst) ∧
      ((ofOutcomes outcomes).failures.map Prod.fst).Sublist (outcomes.map Prod.fst) := by
  have hskipped : ((ofOutcomes outcomes).skipped.map id).Sublist (outcomes.map Prod.fst) :=
    map_label_filterMap_sublist (fun _ _ => eq_of_ite_eq_some) outcomes
  rw [List.map_id] at hskipped
  refine ⟨?_, hskipped, ?_⟩
  · exact map_label_filterMap_sublist (fun _ _ => fst_of_map_eq_some) outcomes
  · exact map_label_filterMap_sublist (fun _ _ => fst_of_map_eq_some) outcomes

/-- The entries about a ticker are those for its own outcomes. -/
theorem about_ofOutcomes (ticker : String) :
    (ofOutcomes outcomes).about ticker = ofOutcomes (outcomes.filter (·.1 == ticker)) := by
  have hresults : (ofOutcomes outcomes).results.filter (·.1 == ticker) =
      (ofOutcomes (outcomes.filter (·.1 == ticker))).results :=
    filter_filterMap_label (fun _ _ => fst_of_map_eq_some) ticker outcomes
  have hskipped : (ofOutcomes outcomes).skipped.filter (· == ticker) =
      (ofOutcomes (outcomes.filter (·.1 == ticker))).skipped :=
    filter_filterMap_label (fun _ _ => eq_of_ite_eq_some) ticker outcomes
  have hfailures : (ofOutcomes outcomes).failures.filter (·.1 == ticker) =
      (ofOutcomes (outcomes.filter (·.1 == ticker))).failures :=
    filter_filterMap_label (fun _ _ => fst_of_map_eq_some) ticker outcomes
  rw [about, hresults, hskipped, hfailures]
  rfl

/-! ## Reports that differ in reasons only -/

namespace SameBut

variable {excepted : String → Prop}

theorem refl (report : Report) : SameBut excepted report report where
  results := rfl
  skipped := rfl
  failures := List.forall₂_same.mpr fun _ _ => ⟨rfl, .inl rfl⟩
  version := rfl

theorem append {first first' second second' : Report} (hfirst : SameBut excepted first first')
    (hsecond : SameBut excepted second second') :
    SameBut excepted (first.append second) (first'.append second') where
  results := by
    rw [Report.append, hfirst.results, hsecond.results]
    rfl
  skipped := by
    rw [Report.append, hfirst.skipped, hsecond.skipped]
    rfl
  failures := List.rel_append hfirst.failures hsecond.failures
  version := rfl

/-- A failure for another reason. -/
theorem failed {ticker reason reason' : String} (hexcepted : excepted ticker) :
    SameBut excepted (ofOutcomes [(ticker, .failed reason)])
      (ofOutcomes [(ticker, .failed reason')]) where
  results := rfl
  skipped := rfl
  failures := .cons ⟨rfl, .inr hexcepted⟩ .nil
  version := rfl

end SameBut

end Report

end Screener
