import Mathlib
import MetricSeries.Proofs.BandRun
import MetricSeries.Proofs.HistoryWindow

/-!
What a call for bands asks for, and in which order: nothing before its parameters are accepted, then
the expression of each series in its turn, up to the first that is not answered.  A count of repeats
that is taken for a negative number is the one that is accepted and should not be.
-/

set_option autoImplicit false

namespace MetricSeries

section
variable {α β : Type}

def Window.request (window : Window) (s : Series α) : Fetch :=
  ⟨s.target, window.start.seconds, window.stop.seconds⟩

/-- Each series is answered, behind what was asked for before it. -/
def Answered (evaluate : Evaluator α) (window : Window) : List Fetch → List (Series α) → Prop
  | _, [] => True
  | log, s :: rest => (∃ histories, evaluate log window s.target = .ok histories) ∧
      Answered evaluate window (log ++ [window.request s]) rest

/-- How a run over the series of a list may end, and what it has asked for by then. -/
inductive AsksInOrder (scope : Scope α) (window : Window) (log : List Fetch) :
    List (Series α) → Except Error β × List Fetch → Prop where
  | nothing (result : β) : AsksInOrder scope window log [] (.ok result, log)
  | unable (s : Series α) (rest : List (Series α)) :
      scope.evaluator = none →
      AsksInOrder scope window log (s :: rest) (.error (.noEvaluator s.target), log)
  | complete {evaluate : Evaluator α} (list : List (Series α)) (result : β) :
      scope.evaluator = some evaluate → Answered evaluate window log list →
      AsksInOrder scope window log list (.ok result, log ++ list.map window.request)
  | cut {evaluate : Evaluator α} (before : List (Series α)) (s : Series α)
      (rest : List (Series α)) {e : Error} :
      scope.evaluator = some evaluate → Answered evaluate window log before →
      evaluate (log ++ before.map window.request) window s.target = .error e →
      AsksInOrder scope window log (before ++ s :: rest)
        (.error e, log ++ (before ++ [s]).map window.request)

variable {scope : Scope α} {window : Window} {log : List Fetch} {list : List (Series α)}

theorem AsksInOrder.map {γ : Type} (f : β → γ) {outcome : Except Error β × List Fetch}
    (h : AsksInOrder scope window log list outcome) :
    AsksInOrder scope window log list (outcome.1.map f, outcome.2) := by
  cases h with
  | nothing result => exact .nothing (f result)
  | unable s rest hnone => exact .unable s rest hnone
  | complete _ result hsome hall => exact .complete _ (f result) hsome hall
  | cut before s rest hsome hbefore herror => exact .cut before s rest hsome hbefore herror

theorem AsksInOrder.cons {evaluate : Evaluator α} (h : scope.evaluator = some evaluate)
    {s : Series α} {histories : List (Series α)}
    (hanswer : evaluate log window s.target = .ok histories) {outcome : Except Error β × List Fetch}
    (hrest : AsksInOrder scope window (log ++ [window.request s]) list outcome) :
    AsksInOrder scope window log (s :: list) outcome := by
  cases hrest with
  | nothing result => exact .complete [s] result h ⟨⟨histories, hanswer⟩, True.intro⟩
  | unable t rest hnone =>
    rw [h] at hnone
    cases hnone
  | complete _ result hsome hall =>
    cases h.symm.trans hsome
    have hlog : log ++ [window.request s] ++ list.map window.request =
        log ++ (s :: list).map window.request := by simp
    rw [hlog]
    exact .complete _ result h ⟨⟨histories, hanswer⟩, hall⟩
  | cut before t rest hsome hbefore herror =>
    cases h.symm.trans hsome
    have hlog : ∀ all : List (Series α), log ++ [window.request s] ++ all.map window.request =
        log ++ (s :: all).map window.request := by simp
    rw [hlog] at herror ⊢
    exact .cut (s :: before) t rest h ⟨⟨histories, hanswer⟩, hbefore⟩ herror

end

section
variable {α : Type} [Arith α] [NumberText α] {scope : Scope α} {call : BandCall}

theorem askBands_inOrder (scope : Scope α) (call : BandCall) (plan : BandPlan α)
    (list : List (Series α)) (log : List Fetch) :
    AsksInOrder scope plan.history log list
      (Run.from (list.mapM (askBands scope call plan)) log) := by
  -- By the list, from every log: the rest starts behind what the first series has asked for.
  induction list generalizing log with
  | nil => exact .nothing []
  | cons s list ih =>
    rw [List.mapM_cons, Run.from_bind]
    cases hevaluator : scope.evaluator with
    | none =>
      rw [from_askBands_of_none hevaluator]
      exact .unable s list hevaluator
    | some evaluate =>
      rw [from_askBands_of_some hevaluator]
      cases hanswer : evaluate log plan.history s.target with
      | error e => exact .cut [] s list hevaluator True.intro (by simpa using hanswer)
      | ok histories =>
        dsimp only [Except.map]
        rw [Run.from_bind_pure]
        exact .cons hevaluator hanswer ((ih _).map _)

theorem sixSigma_inOrder (scope : Scope α) {plan : BandPlan α}
    (h : BandPlan.make scope.window call = .ok plan) (list : List (Series α)) (log : List Fetch) :
    AsksInOrder scope plan.history log list (Run.from (sixSigma scope call list) log) := by
  rw [from_sixSigma_of_ok scope h, Run.from_bind_pure]
  exact (askBands_inOrder scope call plan list log).map _

/-- What is wrong with a call before any history is asked for.  The window is the one that is owed,
in whole numbers without limit. -/
inductive Faulty (α : Type) [Arith α] [NumberText α] (window : Window) (call : BandCall) :
    Prop where
  | factor {fault : FormatFault} :
      (parseFactors call.factor : Except FormatFault (BandFactors α)) = .error fault →
      Faulty α window call
  | period {fault : FormatFault} : parseOffset call.period = .error fault → Faulty α window call
  | zeroPeriod : parseOffset call.period = .ok 0 → Faulty α window call
  | zeroRepeats : call.repeats = 0 → Faulty α window call
  | outside {offset : Int} : parseOffset call.period = .ok offset →
      Instant.ofSeconds? (window.start.hour.seconds - call.repeats * offset.natAbs) = none →
      Faulty α window call

theorem Faulty.of_make_eq_error {window : Window} {e : Error}
    (h : (BandPlan.make window call : Except Error (BandPlan α)) = .error e)
    (h64 : call.repeats < 2 ^ 64) : Faulty α window call := by
  cases hfactors : (parseFactors call.factor : Except FormatFault (BandFactors α)) with
  | error fault => exact .factor hfactors
  | ok factors =>
    cases hoffset : parseOffset call.period with
    | error fault => exact .period hoffset
    | ok offset =>
      by_cases hperiod : offset = 0
      · exact .zeroPeriod (hperiod ▸ hoffset)
      · by_cases hrepeats : call.repeats = 0
        · exact .zeroRepeats hrepeats
        · rw [BandPlan.make_of_accepted window call hfactors hoffset hperiod hrepeats] at h
          refine .outside hoffset ?_
          by_cases hsmall : call.repeats < 2 ^ 63
          · cases hwindow : historyWindow? window.start call.repeats offset.natAbs with
            | none => rwa [historyWindow?_eq_none_iff, signedCount_of_lt hsmall] at hwindow
            | some history =>
              rw [hwindow] at h
              cases h
          · exact owed_outside window.start (by omega) (by omega)

/-- A plan that is made all the same is made for a count that was taken for a negative number. -/
theorem faulty_iff_of_make_eq_ok {window : Window} {plan : BandPlan α}
    (h : BandPlan.make window call = .ok plan) : Faulty α window call ↔ 2 ^ 63 ≤ call.repeats := by
  obtain ⟨hfactors, ⟨offset, hoffset, hseconds⟩, hpositive, hrepeats, hwindow⟩ :=
    BandPlan.make_eq_ok h
  rw [hseconds] at hpositive hwindow
  constructor
  · intro hfaulty
    by_contra hsmall
    cases hfaulty with
    | factor hfault => cases hfactors.symm.trans hfault
    | period hfault => cases hoffset.symm.trans hfault
    | zeroPeriod hzero =>
      cases hoffset.symm.trans hzero
      omega
    | zeroRepeats hzero => exact hrepeats hzero
    | outside hsame houtside =>
      cases hoffset.symm.trans hsame
      rw [← signedCount_of_lt (by omega), ← historyWindow?_eq_none_iff, hwindow] at houtside
      cases houtside
  · exact fun hlarge => .outside hoffset (owed_outside window.start hpositive hlarge)

/-- Parameters that are accepted with a count of the upper half, since the window that the count
leads to as a negative number lies in the calendar. -/
def WrapsInside (α : Type) [Arith α] [NumberText α] (window : Window) (call : BandCall) : Prop :=
  ∃ (factors : BandFactors α) (offset : Int), parseFactors call.factor = .ok factors ∧
    parseOffset call.period = .ok offset ∧ offset ≠ 0 ∧ 2 ^ 63 ≤ call.repeats ∧
    window.start.hour.seconds + (2 ^ 64 - call.repeats) * offset.natAbs ≤ Instant.lastSecond

theorem wrapsInside_iff {window : Window} (h64 : call.repeats < 2 ^ 64) :
    WrapsInside α window call ↔
      (∃ plan : BandPlan α, BandPlan.make window call = .ok plan) ∧ 2 ^ 63 ≤ call.repeats := by
  constructor
  · rintro ⟨factors, offset, hfactors, hoffset, hperiod, hlarge, hinside⟩
    have hpositive : (0 : Int) < offset.natAbs := by omega
    obtain ⟨hnone, -⟩ := historyWindow?_of_ge window.start hpositive hlarge h64
    have hmake := BandPlan.make_of_accepted window call hfactors hoffset hperiod (by omega)
    cases hwindow : historyWindow? window.start call.repeats offset.natAbs with
    | none =>
      have hoverrun := hnone.1 hwindow
      omega
    | some history =>
      rw [hwindow] at hmake
      exact ⟨⟨_, hmake⟩, hlarge⟩
  · rintro ⟨⟨plan, hmake⟩, hlarge⟩
    obtain ⟨hfactors, ⟨offset, hoffset, hseconds⟩, hpositive, -, hwindow⟩ :=
      BandPlan.make_eq_ok hmake
    rw [hseconds] at hpositive hwindow
    obtain ⟨hnone, -⟩ := historyWindow?_of_ge window.start hpositive hlarge h64
    refine ⟨plan.factors, offset, hfactors, hoffset, by omega, hlarge, ?_⟩
    by_contra hoverrun
    rw [hnone.2 (by omega)] at hwindow
    cases hwindow

/-- What a call owes.  With a fault in its parameters it fails, whatever the list, and asks for
nothing.  Without, it asks for the histories of the series in their order, over one window. -/
def FetchLaw (scope : Scope α) (call : BandCall) : Prop :=
  (Faulty α scope.window call →
    ∃ e, ∀ list log, Run.from (sixSigma scope call list) log = (.error e, log)) ∧
  (¬Faulty α scope.window call →
    ∃ window, ∀ list log,
      AsksInOrder scope window log list (Run.from (sixSigma scope call list) log))

theorem not_refused_of_make {plan : BandPlan α} (h : BandPlan.make scope.window call = .ok plan) :
    ¬∃ e, ∀ list log, Run.from (sixSigma scope call list) log = (.error e, log) := by
  rintro ⟨e, hrefused⟩
  have hempty := hrefused [] []
  rw [from_sixSigma_of_ok scope h] at hempty
  cases hempty

/-- The law is kept but for counts of the upper half that lead to a window in the calendar.  With
those the histories are asked for in order just the same, over a window that ends before it
starts. -/
theorem fetchLaw_iff (scope : Scope α) (call : BandCall) (h64 : call.repeats < 2 ^ 64) :
    (FetchLaw scope call ↔ ¬WrapsInside α scope.window call) ∧
    (WrapsInside α scope.window call → ∃ window, window.stop.seconds < window.start.seconds ∧
      ∀ list log,
        AsksInOrder scope window log list (Run.from (sixSigma scope call list) log)) := by
  cases hmake : (BandPlan.make scope.window call : Except Error (BandPlan α)) with
  | error e =>
    have hfaulty := Faulty.of_make_eq_error hmake h64
    have hwraps : ¬WrapsInside α scope.window call := by
      rw [wrapsInside_iff h64, hmake]
      rintro ⟨⟨plan, hplan⟩, -⟩
      cases hplan
    have hlaw : FetchLaw scope call :=
      ⟨fun _ => ⟨e, from_sixSigma_of_error hmake⟩, fun hnot => absurd hfaulty hnot⟩
    exact ⟨iff_of_true hlaw hwraps, fun h => absurd h hwraps⟩
  | ok plan =>
    -- The plan is made, so the law asks that there was no fault; one is there for wrapped counts.
    have horder := sixSigma_inOrder scope hmake
    have hwraps : WrapsInside α scope.window call ↔ 2 ^ 63 ≤ call.repeats := by
      rw [wrapsInside_iff h64, and_iff_right ⟨plan, hmake⟩]
    have hlaw : FetchLaw scope call ↔ ¬Faulty α scope.window call :=
      ⟨fun law hfaulty => not_refused_of_make hmake (law.1 hfaulty),
        fun hnot => ⟨fun hfaulty => absurd hfaulty hnot, fun _ => ⟨plan.history, horder⟩⟩⟩
    refine ⟨by rw [hlaw, hwraps, faulty_iff_of_make_eq_ok hmake], fun h => ?_⟩
    obtain ⟨-, -, hpositive, -, hwindow⟩ := BandPlan.make_eq_ok hmake
    have hinverted := (historyWindow?_of_ge scope.window.start hpositive (hwraps.1 h) h64).2
    exact ⟨plan.history, (hinverted _ hwindow).2, horder⟩

end

theorem wrapsInside_largestCount : WrapsInside ℝ thirdHour largestCount :=
  ⟨_, _, parseFactors_three, parseOffset_week, by decide, by decide, by decide⟩

/-- With the largest count, histories that end before they start are asked for. -/
theorem fetchLaw_iff_largestCount :
    largestCount.repeats < 2 ^ 64 ∧ ¬FetchLaw emptyHistories largestCount ∧
    ∃ window, window.stop.seconds < window.start.seconds ∧ ∀ list log,
      AsksInOrder emptyHistories window log list
        (Run.from (sixSigma emptyHistories largestCount list) log) := by
  have h64 : largestCount.repeats < 2 ^ 64 := by decide
  obtain ⟨hiff, horder⟩ := fetchLaw_iff emptyHistories largestCount h64
  exact ⟨h64, fun law => hiff.1 law wrapsInside_largestCount, horder wrapsInside_largestCount⟩

/-- Two hours into 1970 no calendar reaches back by the largest count of weeks, and yet the call
succeeds with that count, where there is a series to ask for and where there is none. -/
theorem not_fetchLaw_largestCount :
    Instant.ofSeconds? (thirdHour.start.hour.seconds - largestCount.repeats * 604800) = none ∧
    (∀ log, Run.from (sixSigma emptyHistories largestCount []) log = (.ok [], log)) ∧
    (∀ log, Run.from (sixSigma emptyHistories largestCount [.named "foo" 0 0 1 []]) log =
      (.ok [], log ++ [⟨"foo", 612000, 7200⟩])) ∧
    ¬FetchLaw emptyHistories largestCount := by
  have h64 : largestCount.repeats < 2 ^ 64 := by decide
  have hlarge : 2 ^ 63 ≤ largestCount.repeats := by decide
  have howed := owed_outside thirdHour.start (show (0 : Int) < 604800 by decide) hlarge
  obtain ⟨⟨plan, hmake⟩, -⟩ := (wrapsInside_iff h64).1 wrapsInside_largestCount
  have hmade : BandPlan.make emptyHistories.window largestCount = .ok plan := hmake
  obtain ⟨-, ⟨offset, hoffset, hseconds⟩, -, -, hwindow⟩ := BandPlan.make_eq_ok hmake
  cases parseOffset_week.symm.trans hoffset
  rw [hseconds] at hwindow
  have hstart : plan.history.start.seconds = 612000 := start_of_historyWindow? hwindow
  have hstop : plan.history.stop.seconds = 7200 :=
    congrArg Instant.seconds (stop_of_historyWindow? hwindow)
  refine ⟨howed, fun log => ?_, fun log => ?_, fun law => ?_⟩
  · rw [from_sixSigma_of_ok emptyHistories hmade]
    rfl
  · rw [from_sixSigma_of_ok emptyHistories hmade, Run.from_bind_pure, List.mapM_cons, Run.from_bind,
      from_askBands_of_some rfl, hstart, hstop]
    rfl
  · exact not_refused_of_make hmade (law.1 (.outside parseOffset_week howed))

end MetricSeries
