import MetricSeries.Operation.Band
import MetricSeries.Proofs.Run

set_option autoImplicit false

namespace MetricSeries

variable {α : Type} [Arith α] [NumberText α]

theorem BandPlan.make_of_accepted (window : Window) (call : BandCall) {factors : BandFactors α}
    {offset : Int} (hfactors : parseFactors call.factor = .ok factors)
    (hoffset : parseOffset call.period = .ok offset) (hperiod : offset ≠ 0)
    (hrepeats : call.repeats ≠ 0) :
    BandPlan.make window call =
      match historyWindow? window.start call.repeats offset.natAbs with
      | none => .error (.argument "sixSigma" 1 .historyOutside)
      | some history => .ok ⟨factors, offset.natAbs, history⟩ := by
  have hseconds : ((offset.natAbs : Nat) : Int) ≠ 0 := by omega
  unfold BandPlan.make
  cases hwindow : historyWindow? window.start call.repeats offset.natAbs with
  | none => simp only [hfactors, hoffset, if_neg hseconds, if_neg hrepeats, hwindow]
  | some history => simp only [hfactors, hoffset, if_neg hseconds, if_neg hrepeats, hwindow]

theorem BandPlan.make_eq_ok {window : Window} {call : BandCall} {plan : BandPlan α}
    (h : BandPlan.make window call = .ok plan) :
    parseFactors call.factor = .ok plan.factors ∧
    (∃ offset, parseOffset call.period = .ok offset ∧ plan.seconds = offset.natAbs) ∧
    0 < plan.seconds ∧ call.repeats ≠ 0 ∧
    historyWindow? window.start call.repeats plan.seconds = some plan.history := by
  unfold BandPlan.make at h
  cases hfactors : (parseFactors call.factor : Except FormatFault (BandFactors α)) with
  | error fault => simp [hfactors] at h
  | ok factors =>
    cases hoffset : parseOffset call.period with
    | error fault => simp [hfactors, hoffset] at h
    | ok offset =>
      simp only [hfactors, hoffset] at h
      by_cases hseconds : ((offset.natAbs : Nat) : Int) = 0
      · rw [if_pos hseconds] at h
        cases h
      · by_cases hrepeats : call.repeats = 0
        · rw [if_neg hseconds, if_pos hrepeats] at h
          cases h
        · rw [if_neg hseconds, if_neg hrepeats] at h
          cases hwindow : historyWindow? window.start call.repeats offset.natAbs with
          | none =>
            rw [hwindow] at h
            cases h
          | some history =>
            simp only [hwindow, Except.ok.injEq] at h
            subst h
            have hpositive : (0 : Int) < offset.natAbs := by omega
            exact ⟨rfl, ⟨offset, rfl, rfl⟩, hpositive, hrepeats, hwindow⟩

variable {scope : Scope α} {call : BandCall}

theorem from_sixSigma_of_error {e : Error}
    (h : (BandPlan.make scope.window call : Except Error (BandPlan α)) = .error e)
    (list : List (Series α)) (log : List Fetch) :
    Run.from (sixSigma scope call list) log = (.error e, log) := by
  unfold sixSigma
  rw [h, Run.from_lift_bind]

def bandsFrom (plan : BandPlan α) (tiles : Nat) (call : BandCall) (s : Series α) :
    List (Series α) → List (Series α)
  | [] => []
  | history :: _ => bandsOf plan tiles call s history

def askBands (scope : Scope α) (call : BandCall) (plan : BandPlan α) (s : Series α) :
    Run (List (Series α)) := do
  let histories ← scope.fetch plan.history s.target
  return bandsFrom plan (plan.tiles scope.window) call s histories

theorem from_sixSigma_of_ok (scope : Scope α) {plan : BandPlan α}
    (h : BandPlan.make scope.window call = .ok plan) (list : List (Series α)) (log : List Fetch) :
    Run.from (sixSigma scope call list) log =
      Run.from (list.mapM (askBands scope call plan) >>= fun bands => pure bands.flatten) log := by
  unfold sixSigma
  rw [h, Run.from_lift_bind]
  dsimp only
  congr 3
  funext s
  refine bind_congr fun histories => ?_
  cases histories <;> rfl

/-- The bands of a call part by part, one part for each series.  The part of a series that is passed
over is empty. -/
def bandParts (scope : Scope α) (call : BandCall) (list : List (Series α)) :
    Run (List (List (Series α))) := do
  let plan ← liftExcept (BandPlan.make scope.window call)
  list.mapM (askBands scope call plan)

theorem sixSigma_eq_bandParts (scope : Scope α) (call : BandCall) (list : List (Series α)) :
    sixSigma scope call list = bandParts scope call list >>= fun parts => pure parts.flatten := by
  unfold sixSigma bandParts
  rw [bind_assoc]
  refine bind_congr fun plan => ?_
  dsimp only
  congr 2
  funext s
  refine bind_congr fun histories => ?_
  cases histories <;> rfl

theorem askBands_asks (scope : Scope α) (call : BandCall) (plan : BandPlan α) (s : Series α) :
    Run.Asks (askBands scope call plan s)
      fun f => f.start = plan.history.start.seconds ∧ f.stop = plan.history.stop.seconds := by
  have hfetch := (scope.fetch_asks plan.history s.target).mono fun f hf =>
    show f.start = plan.history.start.seconds ∧ f.stop = plan.history.stop.seconds by simp [hf]
  exact hfetch.bind fun histories => .pure _

theorem sixSigma_asks {plan : BandPlan α} (h : BandPlan.make scope.window call = .ok plan)
    (list : List (Series α)) :
    Run.Asks (sixSigma scope call list)
      fun f => f.start = plan.history.start.seconds ∧ f.stop = plan.history.stop.seconds := by
  intro log
  rw [from_sixSigma_of_ok scope h]
  have hbands := Run.Asks.mapM (askBands_asks scope call plan) list
  exact hbands.bind (fun bands => .pure bands.flatten) log

theorem from_askBands_of_none (h : scope.evaluator = none) (plan : BandPlan α) (s : Series α)
    (log : List Fetch) :
    Run.from (askBands scope call plan s) log = (.error (.noEvaluator s.target), log) := by
  unfold askBands
  rw [Run.from_bind, Scope.from_fetch_of_none h]

theorem from_askBands_of_some {evaluate : Evaluator α} (h : scope.evaluator = some evaluate)
    (plan : BandPlan α) (s : Series α) (log : List Fetch) :
    Run.from (askBands scope call plan s) log =
      ((evaluate log plan.history s.target).map (bandsFrom plan (plan.tiles scope.window) call s),
        log ++ [⟨s.target, plan.history.start.seconds, plan.history.stop.seconds⟩]) := by
  unfold askBands
  rw [Run.from_bind, Scope.from_fetch_of_some h]
  cases evaluate log plan.history s.target <;> rfl

theorem from_sixSigma_singleton (scope : Scope α) {evaluate : Evaluator α} (h : scope.evaluator = some evaluate)
    {plan : BandPlan α} (hplan : BandPlan.make scope.window call = .ok plan) {s history : Series α}
    {more : List (Series α)} {log : List Fetch}
    (hanswer : evaluate log plan.history s.target = .ok (history :: more)) :
    Run.from (sixSigma scope call [s]) log =
      (.ok (bandsOf plan (plan.tiles scope.window) call s history),
        log ++ [⟨s.target, plan.history.start.seconds, plan.history.stop.seconds⟩]) := by
  rw [from_sixSigma_of_ok scope hplan, List.mapM_cons, List.mapM_nil]
  simp only [Run.from_bind, from_askBands_of_some h, hanswer, Except.map, Run.from_pure,
    List.flatten_cons, List.flatten_nil, List.append_nil]
  rfl

/-- The first series of some answer for an expression over a window. -/
def FirstAnswer (scope : Scope α) (window : Window) (target : String) (history : Series α) : Prop :=
  ∃ evaluate earlier more, scope.evaluator = some evaluate ∧
    evaluate earlier window target = .ok (history :: more)

theorem askBands_firstAnswer (scope : Scope α) (call : BandCall) (plan : BandPlan α)
    (s : Series α) :
    Run.Yields (askBands scope call plan s) fun bands => ∀ band ∈ bands,
      ∃ history, FirstAnswer scope plan.history s.target history ∧
        band ∈ bandsOf plan (plan.tiles scope.window) call s history := by
  intro log bands after h band hband
  cases hevaluator : scope.evaluator with
  | none =>
    rw [from_askBands_of_none hevaluator] at h
    cases h
  | some evaluate =>
    rw [from_askBands_of_some hevaluator] at h
    obtain ⟨histories, hanswer, rfl⟩ := except_map_eq_ok.1 (congrArg Prod.fst h)
    cases histories with
    | nil => cases hband
    | cons history more => exact ⟨history, ⟨evaluate, log, more, hevaluator, hanswer⟩, hband⟩

/-- Each band of a call is made from the first history that there is for one of its series. -/
theorem exists_of_mem_sixSigma {plan : BandPlan α} {list result : List (Series α)}
    {log after : List Fetch} (hplan : BandPlan.make scope.window call = .ok plan)
    (h : Run.from (sixSigma scope call list) log = (.ok result, after)) :
    ∀ band ∈ result, ∃ s ∈ list, ∃ history, FirstAnswer scope plan.history s.target history ∧
      band ∈ bandsOf plan (plan.tiles scope.window) call s history := by
  rw [from_sixSigma_of_ok scope hplan] at h
  have hone : ∀ s ∈ list, Run.Yields (askBands scope call plan s) fun bands => ∀ band ∈ bands,
      ∃ s ∈ list, ∃ history, FirstAnswer scope plan.history s.target history ∧
        band ∈ bandsOf plan (plan.tiles scope.window) call s history :=
    fun s hs => (askBands_firstAnswer scope call plan s).mono fun bands hbands band hband =>
      ⟨s, hs, hbands band hband⟩
  obtain ⟨bands, _, hbands, hflatten⟩ := Run.from_bind_eq_ok.1 h
  cases hflatten
  intro band hband
  obtain ⟨three, hthree, hband⟩ := List.mem_flatten.1 hband
  exact Run.Yields.mapM hone log bands _ hbands three hthree band hband

theorem from_sixSigma_ne_refused (scope : Scope α) {plan : BandPlan α}
    (h : BandPlan.make scope.window call = .ok plan) (list : List (Series α)) (log : List Fetch) :
    Run.from (sixSigma scope call list) log ≠
      (.error (.argument "sixSigma" 1 .historyOutside), log) := by
  rw [from_sixSigma_of_ok scope h]
  intro hrefused
  cases list with
  | nil => cases hrefused
  | cons s list =>
    rw [List.mapM_cons, bind_assoc] at hrefused
    cases hevaluator : scope.evaluator with
    | none =>
      rw [Run.from_bind, from_askBands_of_none hevaluator] at hrefused
      cases hrefused
    | some evaluate =>
      -- One evaluation is written down by now, and none is ever struck out.
      rw [Run.from_bind, from_askBands_of_some hevaluator] at hrefused
      cases hanswer : evaluate log plan.history s.target with
      | error e => simp [hanswer, Except.map] at hrefused
      | ok answer =>
        simp only [hanswer, Except.map] at hrefused
        have hrest := Run.Asks.mapM (askBands_asks scope call plan) list
        have hmore := (hrest.bind fun more => .pure
          (bandsFrom plan (plan.tiles scope.window) call s answer :: more)).bind
          fun bands => .pure bands.flatten
        have hgrows := hmore.length_le (log ++
          [⟨s.target, plan.history.start.seconds, plan.history.stop.seconds⟩])
        simp only [hrefused, List.length_append, List.length_singleton] at hgrows
        omega

end MetricSeries
