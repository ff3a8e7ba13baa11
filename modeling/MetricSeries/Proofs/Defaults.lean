import Mathlib
import MetricSeries.Proofs.BandRun
import MetricSeries.Proofs.HistoryWindow
import MetricSeries.Proofs.Keeps

set_option autoImplicit false

namespace MetricSeries

variable {α : Type} [Arith α] [NumberText α]

/-- Settings with which bands can be drawn wherever the calendar reaches back far enough. -/
structure BandConfig.Usable (α : Type) [Arith α] [NumberText α] (b : BandConfig) : Prop where
  period : ∃ offset, parseOffset b.period = .ok offset ∧ offset ≠ 0
  repeats : b.repeats ≠ 0
  factor : ∃ factors : BandFactors α, parseFactors b.factor = .ok factors

def BandConfig.toCall (b : BandConfig) : BandCall :=
  ⟨b.period, b.repeats, b.factor⟩

/-- The level is looked at last, so that it is all that is wrong where it is what is refused. -/
theorem Config.validate_accepts_iff (c : Config) :
    c.validate α = .ok () ∨ c.validate α = .error (.configuration .blankLevel) ↔
      c.bands.Usable α := by
  unfold Config.validate
  constructor
  · intro h
    cases hperiod : parseOffset c.bands.period with
    | error fault => simp [hperiod] at h
    | ok offset =>
      by_cases hzero : offset = 0
      · simp [hperiod, hzero] at h
      · by_cases hrepeats : c.bands.repeats = 0
        · simp [hperiod, hzero, hrepeats] at h
        · cases hfactor : (parseFactors c.bands.factor : Except FormatFault (BandFactors α)) with
          | error fault => simp [hperiod, hzero, hrepeats, hfactor] at h
          | ok factors => exact ⟨⟨offset, hperiod, hzero⟩, hrepeats, ⟨factors, hfactor⟩⟩
  · rintro ⟨⟨offset, hperiod, hzero⟩, hrepeats, ⟨factors, hfactor⟩⟩
    simp only [hperiod, if_neg hzero, if_neg hrepeats, hfactor]
    by_cases hlevel : Text.trim c.logging.level = ""
    · exact .inr (if_pos hlevel)
    · exact .inl (if_neg hlevel)

theorem BandPlan.usable_of_historyOutside {window : Window} {b : BandConfig} {function : String}
    {position : Nat} (h : (BandPlan.make window b.toCall : Except Error (BandPlan α)) =
      .error (.argument function position .historyOutside)) : b.Usable α := by
  unfold BandPlan.make at h
  cases hfactor : (parseFactors b.toCall.factor : Except FormatFault (BandFactors α)) with
  | error fault =>
    rw [hfactor] at h
    cases h
  | ok factors =>
    cases hperiod : parseOffset b.toCall.period with
    | error fault =>
      rw [hfactor, hperiod] at h
      cases h
    | ok offset =>
      rw [hfactor, hperiod] at h
      dsimp only at h
      split at h
      · cases h
      · split at h
        · cases h
        · rename_i hzero hrepeats
          exact ⟨⟨offset, hperiod, by omega⟩, hrepeats, ⟨factors, hfactor⟩⟩

theorem BandConfig.make_accepts_iff (b : BandConfig) (window : Window) :
    (∃ plan : BandPlan α, BandPlan.make window b.toCall = .ok plan) ∨
      (BandPlan.make window b.toCall : Except Error (BandPlan α)) =
        .error (.argument "sixSigma" 1 .historyOutside) ↔
      b.Usable α := by
  constructor
  · rintro (⟨plan, hplan⟩ | hrefused)
    · obtain ⟨hfactors, ⟨offset, hoffset, hseconds⟩, hpositive, hrepeats, -⟩ :=
        BandPlan.make_eq_ok hplan
      exact ⟨⟨offset, hoffset, by omega⟩, hrepeats, ⟨plan.factors, hfactors⟩⟩
    · exact BandPlan.usable_of_historyOutside hrefused
  · rintro ⟨⟨offset, hperiod, hzero⟩, hrepeats, ⟨factors, hfactor⟩⟩
    have hmake := BandPlan.make_of_accepted window b.toCall hfactor hperiod hzero hrepeats
    rw [hmake]
    split
    · exact .inr rfl
    · exact .inl ⟨_, rfl⟩

theorem find?_sixSigma : (Registry.standard : Registry α).find? "sixSigma" = some .bands :=
  Registry.find?_standard (by simp [standardEntries])

/-- A call without any series that leaves the rest to the settings makes its plan and asks for
nothing. -/
theorem from_call_defaults {c : Context α} (h : c.BuiltIn "sixSigma") (log : List Fetch) :
    Run.from (c.call (.ofList "sixSigma" [.list []])) log =
      ((BandPlan.make c.window c.config.bands.toCall : Except Error (BandPlan α)).map
        fun _ => .list [], log) := by
  have hfunction : c.registry.find? "sixSigma" = some .bands := by
    rw [h, find?_sixSigma]
  have hrun : Run.from (c.call (.ofList "sixSigma" [.list []])) log =
      Run.from (sixSigma (c.scope Context.maxDepth) c.config.bands.toCall [] >>= fun list =>
        pure (.list list)) log := by
    unfold Context.call
    simp only [Args.ofList, hfunction]
    rfl
  rw [hrun, Run.from_bind_pure]
  cases hmake : (BandPlan.make c.window c.config.bands.toCall : Except Error (BandPlan α)) with
  | error e =>
    have hscope : (BandPlan.make (c.scope Context.maxDepth).window c.config.bands.toCall :
      Except Error (BandPlan α)) = .error e := hmake
    rw [from_sixSigma_of_error hscope]
    rfl
  | ok plan =>
    rw [from_sixSigma_of_ok (c.scope Context.maxDepth) hmake]
    rfl

theorem ArgumentFault.message_eq_historyOutside_iff {fault : ArgumentFault} :
    fault.message = "history window is out of range" ↔ fault = .historyOutside := by
  constructor
  · intro h
    -- The messages that tell what was found begin with another letter.
    have hfirst := congrArg (fun s => s.toList.head?) h
    unfold message at h hfirst
    cases fault with
    | historyOutside => rfl
    | missing | negative | percentNotPositive | zeroPeriod | zeroRepeats => exact absurd h (by decide)
    | mismatch expected found => simp at hfirst
    | notTwoSeries count => simp at hfirst
  · rintro rfl
    rfl

/-- The check accepts settings, or refuses no more than their level, exactly when a call that leaves
everything to them is good for the empty list, or is refused because its history begins before the
calendar.  A call with settings that are refused for anything else fails as well, and no call without
series asks for anything. -/
theorem validate_iff_defaultBands {c : Context α} (h : c.BuiltIn "sixSigma") (log : List Fetch) :
    let checked := c.config.validate α
    let outcome := Run.from (c.call (.ofList "sixSigma" [.list []])) log
    ((checked = .ok () ∨ checked = .error (.configuration .blankLevel)) ↔
      (outcome.1 = .ok (.list []) ∨
        ∃ fault, outcome.1 = .error (.argument "sixSigma" 1 fault) ∧
          fault.message = "history window is out of range")) ∧
    ((∃ e, checked = .error e ∧ e ≠ .configuration .blankLevel) → ∃ e, outcome.1 = .error e) ∧
    outcome.2 = log := by
  intro checked outcome
  have hrun : outcome = _ := from_call_defaults h log
  have hcheck := Config.validate_accepts_iff (α := α) c.config
  have hmake := c.config.bands.make_accepts_iff (α := α) c.window
  rw [hrun]
  cases hplan : (BandPlan.make c.window c.config.bands.toCall : Except Error (BandPlan α)) with
  | ok plan =>
    have husable := hmake.1 (.inl ⟨plan, hplan⟩)
    refine ⟨iff_of_true (hcheck.2 husable) (.inl rfl), ?_, rfl⟩
    rintro ⟨e, he, hne⟩
    rcases hcheck.2 husable with hok | hblank
    · exact absurd (he.symm.trans hok) (by simp)
    · exact absurd (Except.error.inj (he.symm.trans hblank)) hne
  | error e =>
    refine ⟨?_, fun _ => ⟨e, rfl⟩, rfl⟩
    rw [show (checked = .ok () ∨ checked = .error (.configuration .blankLevel)) ↔ _ from hcheck,
      ← hmake, hplan]
    constructor
    · rintro (⟨plan, hok⟩ | hrefused)
      · cases hok
      · cases hrefused
        exact .inr ⟨.historyOutside, rfl, rfl⟩
    · rintro (hok | ⟨fault, hfault, hmessage⟩)
      · cases hok
      · rw [ArgumentFault.message_eq_historyOutside_iff.1 hmessage] at hfault
        exact .inr (congrArg Except.error (Except.error.inj hfault))

noncomputable def blankLevel : Context ℝ where
  window := thirdHour
  config := { logging := { level := " \t" } }
  registry := .standard

theorem validate_blankLevel :
    blankLevel.config.validate ℝ = .error (.configuration .blankLevel) := by
  have hfactor : (parseFactors blankLevel.config.bands.factor : Except FormatFault (BandFactors ℝ)) =
      .ok ⟨(3 : ℕ), (3 : ℕ)⟩ := parseFactors_three
  have hperiod : parseOffset blankLevel.config.bands.period = .ok 604800 := parseOffset_week
  unfold Config.validate
  simp only [hfactor, hperiod]
  rw [if_neg (by decide), if_neg (by decide), if_pos (by decide +kernel)]

theorem validate_iff_defaultBands_blankLevel :
    blankLevel.BuiltIn "sixSigma" ∧ blankLevel.config.validate ℝ = .error (.configuration .blankLevel) ∧
    ∀ log, let outcome := Run.from (blankLevel.call (.ofList "sixSigma" [.list []])) log
      (outcome.1 = .ok (.list []) ∨
        ∃ fault, outcome.1 = .error (.argument "sixSigma" 1 fault) ∧
          fault.message = "history window is out of range") ∧ outcome.2 = log := by
  have hbuiltIn : blankLevel.BuiltIn "sixSigma" := Context.builtIn_of_standard rfl _
  refine ⟨hbuiltIn, validate_blankLevel, fun log => ?_⟩
  obtain ⟨haccepts, -, hlog⟩ := validate_iff_defaultBands hbuiltIn log
  exact ⟨haccepts.1 (.inr validate_blankLevel), hlog⟩

end MetricSeries
