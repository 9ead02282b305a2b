import Screener.Proofs.Scan.Reports
import Screener.Proofs.Scan.Source
import Screener.Proofs.Scan.Tasks

/-!
# The second scan isolates tickers and loses none

The second scan starts a task for every position of a watchlist, asks once for the history of each,
in its order, and sorts what it makes of the answers into a report.  Each position has one entry or
none, and the answer for its ticker decides which (`Service.accounts`): a failure of the source, a
crash or a formula that cannot be evaluated concern no other position
(`Service.about_reported_congr`).  The names that the system gives to the tasks are seen in the
reasons for crashes and nowhere else (`Service.sameBut_reported`).

All this holds for as many permits as can be given out.  A scan that is to give out more crashes
before it starts or asks anything.
-/

namespace Screener

/-! ## What becomes of a ticker -/

namespace Service

variable (service : Service (StateM (List Fetch))) (source : Source) (rule : HistoryRule)

/-- What is asked about a ticker. -/
def fetch (ticker : String) : Fetch := ⟨ticker, rule.timeframe, service.settings.historyLimit⟩

/-- What becomes of a ticker in a task. -/
def verdict (task : String × String) : Outcome :=
  outcome service.registry rule task.2 (source.history (service.fetch rule task.1))

/-- The report on tickers in their tasks. -/
def reported (tasks : List (String × String)) : Report :=
  .ofOutcomes (tasks.map fun task => (task.1, service.verdict source rule task))

/-- The task that asks for a ticker crashes. -/
def Crashes (ticker : String) : Prop :=
  ∃ message, source.history (service.fetch rule ticker) = .error (.crash message)

/-- What becomes of a ticker in a task, by the answer for it and by what its own bars say. -/
inductive Becomes (ticker task : String) : Outcome → Prop
  | unanswered (failure : Failure)
      (hanswer : source.history (service.fetch rule ticker) = .error (.failure failure)) :
      Becomes ticker task (.failed failure.message)
  | crashed (message : Option String)
      (hanswer : source.history (service.fetch rule ticker) = .error (.crash message)) :
      Becomes ticker task (.failed (crashReason task message))
  | skipped (hanswer : source.history (service.fetch rule ticker) = .ok []) :
      Becomes ticker task .skipped
  | qualified (bars : List (Bar Float)) (bar : Bar Float)
      (hanswer : source.history (service.fetch rule ticker) = .ok bars)
      (hlast : bars.getLast? = some bar)
      (htrue : matchesLatestBar (Frame.ofBars bars) service.registry rule = .ok true) :
      Becomes ticker task (.qualified bar)
  | rejected (bars : List (Bar Float))
      (hanswer : source.history (service.fetch rule ticker) = .ok bars) (hbars : bars ≠ [])
      (hfalse : matchesLatestBar (Frame.ofBars bars) service.registry rule = .ok false) :
      Becomes ticker task .rejected
  | unevaluated (bars : List (Bar Float)) (failure : Failure)
      (hanswer : source.history (service.fetch rule ticker) = .ok bars) (hbars : bars ≠ [])
      (hfails : matchesLatestBar (Frame.ofBars bars) service.registry rule = .error failure) :
      Becomes ticker task (.failed failure.message)

theorem becomes_verdict (ticker task : String) :
    service.Becomes source rule ticker task (service.verdict source rule (ticker, task)) := by
  rw [verdict]
  cases hanswer : source.history (service.fetch rule ticker) with
  | error stop =>
      cases stop with
      | failure failure => exact .unanswered failure hanswer
      | crash message => exact .crashed message hanswer
  | ok bars =>
      rw [outcome, judge]
      cases hlast : bars.getLast? with
      | none =>
          rw [List.getLast?_eq_none_iff] at hlast
          rw [hlast] at hanswer
          exact .skipped hanswer
      | some bar =>
          have hbars : bars ≠ [] := by
            rintro rfl
            cases hlast
          simp only
          cases hmatches : matchesLatestBar (Frame.ofBars bars) service.registry rule with
          | error failure => exact .unevaluated bars failure hanswer hbars hmatches
          | ok answer =>
              cases answer with
              | true => exact .qualified bars bar hanswer hlast hmatches
              | false => exact .rejected bars hanswer hbars hmatches

variable {service source rule}

theorem Becomes.eq_verdict {ticker task : String} {o : Outcome}
    (hbecomes : service.Becomes source rule ticker task o) :
    service.verdict source rule (ticker, task) = o := by
  cases hbecomes with
  | unanswered failure hanswer => rw [verdict, hanswer, outcome]
  | crashed message hanswer => rw [verdict, hanswer, outcome]
  | skipped hanswer =>
      rw [verdict, hanswer, outcome]
      rfl
  | qualified bars bar hanswer hlast htrue =>
      rw [verdict, hanswer, outcome, judge, hlast]
      simp only [htrue]
  | rejected bars hanswer hbars hfalse =>
      rw [verdict, hanswer, outcome, judge, List.getLast?_eq_some_getLast hbars]
      simp only [hfalse]
  | unevaluated bars failure hanswer hbars hfails =>
      rw [verdict, hanswer, outcome, judge, List.getLast?_eq_some_getLast hbars]
      simp only [hfails]

theorem becomes_iff {ticker task : String} {o : Outcome} :
    service.Becomes source rule ticker task o ↔ service.verdict source rule (ticker, task) = o := by
  constructor
  · exact Becomes.eq_verdict
  · rintro rfl
    exact service.becomes_verdict source rule ticker task

variable (service source rule)

/-- A report accounts for one position of a watchlist: exactly one thing becomes of the ticker, and
the report has at most one entry, which says what it is. -/
structure Accounts (ticker task : String) (report : Report) : Prop where
  results (bar : Bar Float) :
    report.results = [(ticker, bar)] ↔ service.Becomes source rule ticker task (.qualified bar)
  skipped : report.skipped = [ticker] ↔ service.Becomes source rule ticker task .skipped
  failures (reason : String) :
    report.failures = [(ticker, reason)] ↔ service.Becomes source rule ticker task (.failed reason)
  nothing : report.results = [] ∧ report.skipped = [] ∧ report.failures = [] ↔
    service.Becomes source rule ticker task .rejected
  outcome : ∃! o, service.Becomes source rule ticker task o
  atMostOne : report.results.length + report.skipped.length + report.failures.length ≤ 1

theorem accounts (ticker task : String) :
    service.Accounts source rule ticker task (service.reported source rule [(ticker, task)]) where
  results bar := by
    rw [becomes_iff]
    exact Report.results_ofOutcomes_singleton ticker _ bar
  skipped := by
    rw [becomes_iff]
    exact Report.skipped_ofOutcomes_singleton ticker _
  failures reason := by
    rw [becomes_iff]
    exact Report.failures_ofOutcomes_singleton ticker _ reason
  nothing := by
    rw [becomes_iff]
    exact Report.ofOutcomes_singleton_eq_nil ticker _
  outcome := by
    refine ⟨_, service.becomes_verdict source rule ticker task, fun o hbecomes => ?_⟩
    exact hbecomes.eq_verdict.symm
  atMostOne := Report.length_ofOutcomes_singleton_le ticker _

/-! ## Reports on tasks -/

theorem reported_append (first second : List (String × String)) :
    service.reported source rule (first ++ second) =
      (service.reported source rule first).append (service.reported source rule second) := by
  rw [reported, List.map_append, Report.ofOutcomes_append]
  rfl

theorem reported_cons (first : String × String) (rest : List (String × String)) :
    service.reported source rule (first :: rest) =
      (service.reported source rule [first]).append (service.reported source rule rest) :=
  service.reported_append source rule [first] rest

/-- The lists of a report keep the order of the tasks. -/
theorem reported_sublist (tasks : List (String × String)) :
    let report := service.reported source rule tasks
    (report.results.map Prod.fst).Sublist (tasks.map Prod.fst) ∧
      report.skipped.Sublist (tasks.map Prod.fst) ∧
      (report.failures.map Prod.fst).Sublist (tasks.map Prod.fst) := by
  have hlists := Report.ofOutcomes_sublist
    (tasks.map fun task => (task.1, service.verdict source rule task))
  rw [List.map_map] at hlists
  exact hlists

/-- What a report says about a ticker does not depend on the answers for other tickers. -/
theorem about_reported_congr {other : Source} {ticker : String}
    (hsame : other.history (service.fetch rule ticker) =
      source.history (service.fetch rule ticker)) (tasks : List (String × String)) :
    (service.reported other rule tasks).about ticker =
      (service.reported source rule tasks).about ticker := by
  rw [reported, reported, Report.about_ofOutcomes, Report.about_ofOutcomes, List.filter_map,
    List.filter_map]
  -- only tasks of the ticker are left on both sides
  refine congrArg Report.ofOutcomes (List.map_congr_left fun task htask => ?_)
  have hticker : task.1 = ticker := by simpa using (List.mem_filter.mp htask).2
  rw [verdict, verdict, hticker, hsame]

/-- The name of a task is seen only if it crashes. -/
theorem sameBut_reported_singleton (ticker task task' : String) :
    Report.SameBut (service.Crashes source rule) (service.reported source rule [(ticker, task)])
      (service.reported source rule [(ticker, task')]) := by
  simp only [reported, List.map_cons, List.map_nil, verdict]
  cases hanswer : source.history (service.fetch rule ticker) with
  | ok bars => exact .refl _
  | error stop =>
      cases stop with
      | failure failure => exact .refl _
      | crash message => exact .failed ⟨message, hanswer⟩

/-- Reports on the same tickers in other tasks say the same, but for the reasons for crashes. -/
theorem sameBut_reported {tasks tasks' : List (String × String)}
    (htickers : tasks.map Prod.fst = tasks'.map Prod.fst) :
    Report.SameBut (service.Crashes source rule) (service.reported source rule tasks)
      (service.reported source rule tasks') := by
  induction tasks generalizing tasks' with
  | nil =>
      cases tasks' with
      | nil => exact .refl _
      | cons _ _ => cases htickers
  | cons first rest ih =>
      cases tasks' with
      | nil => cases htickers
      | cons first' rest' =>
          obtain ⟨ticker, task⟩ := first
          obtain ⟨ticker', task'⟩ := first'
          obtain ⟨rfl, hrest⟩ := List.cons.inj htickers
          rw [reported_cons, reported_cons _ _ _ (ticker, task')]
          exact (service.sameBut_reported_singleton source rule ticker task task').append (ih hrest)

/-! ## The scan -/

/-- The report on a watchlist after a number of tasks have been started. -/
def reportedFrom (names : Nat → String) (started : Nat) (watchlist : List String) : Report :=
  service.reported source rule (namedTasks names started watchlist)

theorem reportedFrom_append (names : Nat → String) (started : Nat) (first second : List String) :
    service.reportedFrom source rule names started (first ++ second) =
      (service.reportedFrom source rule names started first).append
        (service.reportedFrom source rule names (started + first.length) second) := by
  rw [reportedFrom, namedTasks_append]
  exact service.reported_append source rule _ _

/-- Reports on a watchlist in two systems, or at two times, say the same, but for the reasons for
crashes. -/
theorem sameBut_reportedFrom (names names' : Nat → String) (started started' : Nat)
    (watchlist : List String) :
    Report.SameBut (service.Crashes source rule)
      (service.reportedFrom source rule names started watchlist)
      (service.reportedFrom source rule names' started' watchlist) :=
  service.sameBut_reported source rule (by rw [map_fst_namedTasks, map_fst_namedTasks])

/-- A second scan in a system that names its tasks, after a number of tasks and some questions. -/
def scanFrom (rules : Rules) (names : Nat → String) (started : Nat) (fetched : List Fetch)
    (watchlist : List String) : (Attempt Report × Nat) × List Fetch :=
  ((((service.on source).naming names).secondScan rules watchlist).run started).run fetched

theorem run_scanned (tasks : List (String × String)) (fetched : List Fetch) :
    (tasks.mapM ((service.on source).scanned rule)).run fetched =
      (tasks.map fun task => (task.1, service.verdict source rule task),
        fetched ++ tasks.map fun task => service.fetch rule task.1) :=
  source.run_mapM_history rule.timeframe service.settings.historyLimit Prod.fst
    (fun task bars => (task.1, outcome service.registry rule task.2 bars)) tasks fetched

theorem scanFrom_eq {rules : Rules} {rule : HistoryRule} (hrule : rules.history = some rule)
    (hpermits : service.settings.permits ≤ Settings.mostPermits) (names : Nat → String)
    (started : Nat) (fetched : List Fetch) (watchlist : List String) :
    service.scanFrom source rules names started fetched watchlist =
      ((.ok (service.reportedFrom source rule names started watchlist),
        started + watchlist.length), fetched ++ watchlist.map (service.fetch rule)) := by
  have hcheck : ((service.on source).naming names).settings.checkPermits = .ok () :=
    if_pos hpermits
  have hfetches : ((namedTasks names started watchlist).map fun task => service.fetch rule task.1) =
      watchlist.map (service.fetch rule) := by
    conv_rhs => rw [← map_fst_namedTasks names started watchlist, List.map_map]
    rfl
  have hscanned := service.run_scanned source rule (namedTasks names started watchlist) fetched
  rw [hfetches] at hscanned
  rw [scanFrom, secondScan, hrule]
  simp only [hcheck]
  rw [StateT.run_bind, run_outcomes_naming]
  exact congrArg (fun given : List (String × Outcome) × List Fetch =>
    (((.ok (.ofOutcomes given.1) : Attempt Report), started + watchlist.length), given.2)) hscanned

/-- What the second scans of a service do with the answers of a source, in a system that names its
tasks. -/
structure Isolates (rules : Rules) (names : Nat → String) : Prop where
  /-- A task is started and a question is asked for every position of the watchlist. -/
  scan (started : Nat) (fetched : List Fetch) (watchlist : List String) :
    service.scanFrom source rules names started fetched watchlist =
      ((.ok (service.reportedFrom source rule names started watchlist),
        started + watchlist.length), fetched ++ watchlist.map (service.fetch rule))
  /-- The report on two watchlists is the one on the first and then the one on the second. -/
  append (started : Nat) (first second : List String) :
    service.reportedFrom source rule names started (first ++ second) =
      (service.reportedFrom source rule names started first).append
        (service.reportedFrom source rule names (started + first.length) second)
  /-- This also holds of two watchlists that are scanned apart from the whole, in other systems and
  at other times, but for the names of tasks in the reasons for crashes. -/
  apart (names' names'' : Nat → String) (started started' started'' : Nat)
    (first second : List String) :
    Report.SameBut (service.Crashes source rule)
      (service.reportedFrom source rule names started (first ++ second))
      ((service.reportedFrom source rule names' started' first).append
        (service.reportedFrom source rule names'' started'' second))
  /-- The report on one position accounts for it. -/
  accounts (started : Nat) (ticker : String) :
    service.Accounts source rule ticker (names started)
      (service.reportedFrom source rule names started [ticker])
  /-- The lists of a report are in the order of the watchlist. -/
  sublist (started : Nat) (watchlist : List String) :
    let report := service.reportedFrom source rule names started watchlist
    (report.results.map Prod.fst).Sublist watchlist ∧ report.skipped.Sublist watchlist ∧
      (report.failures.map Prod.fst).Sublist watchlist
  /-- What a report says about a ticker depends on the answer for this ticker only. -/
  about (other : Source) (ticker : String)
    (hsame : other.history (service.fetch rule ticker) =
      source.history (service.fetch rule ticker)) (started : Nat) (watchlist : List String) :
    (service.reportedFrom other rule names started watchlist).about ticker =
      (service.reportedFrom source rule names started watchlist).about ticker

theorem isolates {rules : Rules} {rule : HistoryRule} (hrule : rules.history = some rule)
    (hpermits : service.settings.permits ≤ Settings.mostPermits) (names : Nat → String) :
    service.Isolates source rule rules names where
  scan := service.scanFrom_eq source hrule hpermits names
  append := service.reportedFrom_append source rule names
  apart names' names'' started started' started'' first second := by
    rw [reportedFrom_append]
    exact (service.sameBut_reportedFrom source rule names names' started started' first).append
      (service.sameBut_reportedFrom source rule names names'' _ started'' second)
  accounts started ticker := service.accounts source rule ticker (names started)
  sublist started watchlist := by
    have hlists := service.reported_sublist source rule (namedTasks names started watchlist)
    rw [map_fst_namedTasks] at hlists
    exact hlists
  about other ticker hsame started watchlist :=
    service.about_reported_congr source rule hsame (namedTasks names started watchlist)

/-- **The second scan isolates tickers and loses none.**  Without a condition the report is empty.
With one, and with no more permits than can be given out, the scan starts one task and asks once for
each position of the watchlist.  The report about two watchlists is the one about the first and then
the one about the second; the report about one position accounts for it.  The lists of a report are
in the order of the watchlist, and what they say about a ticker depends on the answer for it only.
All this holds whatever the system calls its tasks, and their names only show in the reasons for
crashes.  With more permits the scan crashes before it starts a task or asks. -/
theorem secondScan_isolates (rules : Rules) (names : Nat → String) :
    (rules.history = none → ∀ started fetched watchlist,
      service.scanFrom source rules names started fetched watchlist =
        ((.ok {}, started), fetched)) ∧
    ∀ rule, rules.history = some rule →
      (service.settings.permits ≤ Settings.mostPermits →
        service.Isolates source rule rules names) ∧
      (Settings.mostPermits < service.settings.permits → ∀ started fetched watchlist, ∃ message,
        service.scanFrom source rules names started fetched watchlist =
          ((.error (.crash message), started), fetched)) := by
  constructor
  · intro hrule started fetched watchlist
    rw [scanFrom, secondScan, hrule]
    rfl
  · intro rule hrule
    refine ⟨fun hpermits => service.isolates source hrule hpermits names, ?_⟩
    intro hpermits started fetched watchlist
    have hcheck : ((service.on source).naming names).settings.checkPermits = .error _ :=
      if_neg (Nat.not_le.mpr hpermits)
    rw [scanFrom, secondScan, hrule]
    simp only [hcheck]
    exact ⟨_, rfl⟩

end Service

/-- A close above the one before it. -/
def risingClose : HistoryRule where
  declarations := [⟨"price", "close"⟩]
  condition := "price > price.shift(1)"

theorem secondScan_isolates_mixedAnswers :
    let service := mixedService {}
    let crowded := mixedService { maxConcurrency := 2305843009213693952 }
    let rules : Rules := { history := some risingClose }
    let report := service.reportedFrom mixedAnswers risingClose toString
    service.settings.permits ≤ Settings.mostPermits ∧
      Settings.mostPermits < crowded.settings.permits ∧
      (report 7 ["UP", "DOWN", "NONE", "UP", "TORN"]).qualified = ["UP", "UP"] ∧
      (report 7 ["UP", "DOWN", "NONE", "UP", "TORN"]).skipped = ["NONE"] ∧
      (report 7 ["UP", "DOWN", "NONE", "UP", "TORN"]).failures =
        [("TORN", "task 11 panicked with message \"index out of bounds\"")] ∧
      (∀ fetched watchlist, service.scanFrom mixedAnswers rules toString 7 fetched watchlist =
        ((.ok (report 7 watchlist), 7 + watchlist.length),
          fetched ++ watchlist.map (service.fetch risingClose))) ∧
      Report.SameBut (service.Crashes mixedAnswers risingClose) (report 7 ["TORN", "UP"])
        ((report 1 ["TORN"]).append (report 1 ["UP"])) ∧
      (∀ watchlist,
        (service.reportedFrom risingAnswers risingClose toString 7 watchlist).about "UP" =
          (report 7 watchlist).about "UP") ∧
      ∃ message, crowded.scanFrom mixedAnswers rules toString 7 [] ["UP"] =
        ((.error (.crash message), 7), []) := by
  intro service crowded rules report
  have hrule : rules.history = some risingClose := rfl
  have hpermits : service.settings.permits ≤ Settings.mostPermits := by decide
  have hcrowded : Settings.mostPermits < crowded.settings.permits := by decide
  have hqualified : (report 7 ["UP", "DOWN", "NONE", "UP", "TORN"]).qualified = ["UP", "UP"] := by
    decide +kernel
  have hskipped : (report 7 ["UP", "DOWN", "NONE", "UP", "TORN"]).skipped = ["NONE"] := by
    decide +kernel
  have hfailures : (report 7 ["UP", "DOWN", "NONE", "UP", "TORN"]).failures =
      [("TORN", "task 11 panicked with message \"index out of bounds\"")] := by
    decide +kernel
  have hisolates :=
    ((service.secondScan_isolates mixedAnswers rules toString).2 risingClose hrule).1 hpermits
  have hcrash :=
    ((crowded.secondScan_isolates mixedAnswers rules toString).2 risingClose hrule).2 hcrowded
  exact ⟨hpermits, hcrowded, hqualified, hskipped, hfailures, hisolates.scan 7,
    hisolates.apart toString toString 7 1 1 ["TORN"] ["UP"],
    hisolates.about risingAnswers "UP" rfl 7, hcrash 7 [] ["UP"]⟩

end Screener
