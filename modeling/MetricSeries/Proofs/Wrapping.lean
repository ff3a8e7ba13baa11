import Mathlib
import MetricSeries.Proofs.Keeps
import MetricSeries.Proofs.MetricPath
import MetricSeries.Proofs.Nodes
import MetricSeries.Proofs.Numerals

set_option autoImplicit false

namespace MetricSeries

open MetricSeries.Pattern

theorem mem_dropWhile_of_neg {p : Char → Bool} {cs : List Char} {c : Char} (h : c ∈ cs)
    (hc : ¬p c) : c ∈ cs.dropWhile p := by
  rw [← List.takeWhile_append_dropWhile (p := p) (l := cs), List.mem_append] at h
  exact h.resolve_left fun htake => hc (List.mem_takeWhile_imp htake)

theorem not_mem_of_ofChars? {cs : List Char} {t : OffsetText} (h : OffsetText.ofChars? cs = some t) :
    '(' ∉ cs := by
  intro hmem
  unfold OffsetText.ofChars? at h
  have hsign : '(' ∈ (Decimal.readSign (cs.dropWhile Text.isBlank)).2 := by
    have hblank := mem_dropWhile_of_neg hmem (p := Text.isBlank) (by decide)
    unfold Decimal.readSign
    split
    · rename_i heq
      rw [heq] at hblank
      simpa using hblank
    · rename_i heq
      rw [heq] at hblank
      simpa using hblank
    · exact hblank
  generalize Decimal.readSign (cs.dropWhile Text.isBlank) = signed at *
  obtain ⟨minus, rest⟩ := signed
  simp only [List.span_eq_takeWhile_dropWhile] at h
  have hamount := mem_dropWhile_of_neg hsign (p := Text.isDecimalDigit) (by decide)
  have hblank := mem_dropWhile_of_neg hamount (p := Text.isBlank) (by decide)
  have hunit := mem_dropWhile_of_neg hblank (p := Char.isAlpha) (by decide)
  split at h
  · cases h
  · rename_i hall
    simp only [Bool.or_eq_true, not_or, Bool.not_eq_true, Bool.not_eq_false'] at hall
    have hparen := List.all_eq_true.1 hall.2 _ hunit
    revert hparen
    decide

theorem not_mem_of_parseOffset {period : String} {offset : Int}
    (h : parseOffset period = .ok offset) : '(' ∉ period.toList := by
  unfold parseOffset at h
  cases ht : OffsetText.ofChars? period.toList with
  | none =>
    rw [ht] at h
    cases h
  | some t => exact not_mem_of_ofChars? ht

theorem not_mem_periodLabel {period : String} (h : '(' ∉ period.toList) :
    '(' ∉ (periodLabel period).toList := by
  have htrim : '(' ∉ Text.trimBlanks period.toList := by
    intro hmem
    unfold Text.trimBlanks at hmem
    have hmem := (List.dropWhile_sublist _).subset (List.mem_reverse.1 hmem)
    exact h ((List.dropWhile_sublist _).subset (List.mem_reverse.1 hmem))
  unfold periodLabel
  split
  · rename_i heq
    rw [heq] at htrim
    simpa using htrim
  · simpa using htrim

theorem not_startsName_comma (cs : List Char) : ¬startsName (',' :: cs) := by
  show ¬nameSet.holds ',' = true
  decide

/-- The name of a call: a function, a parenthesis, the name that it is called on, and what the
other arguments leave behind it. -/
def CallName (name wrapped : String) : Prop :=
  ∃ function rest, wrapped.toList = function ++ '(' :: (name.toList ++ rest) ∧
    startsName function ∧ '\n' ∉ function ∧ '(' ∉ rest ∧ ¬startsName rest

theorem CallName.startsName {name wrapped : String} (h : CallName name wrapped) :
    MetricSeries.startsName wrapped.toList := by
  obtain ⟨function, rest, heq, hfunction, -⟩ := h
  rw [heq]
  exact startsName_append hfunction _

/-- The path of a call is that of the name inside. -/
theorem CallName.metricPath_eq {name wrapped : String} (h : CallName name wrapped)
    (hname : MetricSeries.startsName name.toList) :
    metricPath wrapped.toList = metricPath name.toList := by
  obtain ⟨function, rest, heq, hfunction, hline, hparen, hrest⟩ := h
  rw [heq, metricPath_call hfunction hline hname hparen hrest]

theorem callName_trend {α : Type} [Arith α] {window : Window} {least : Option α}
    {s t : Series α}
    (h : trend window least s = some t) : CallName s.name t.name := by
  have hname : t.name = "linregress(" ++ s.name ++ ")" := by
    unfold trend at h
    extract_lets sparse at h
    cases hsparse : sparse with
    | true =>
      rw [if_pos hsparse] at h
      cases h
    | false =>
      rw [if_neg (by simp [hsparse])] at h
      obtain ⟨line, -, rfl⟩ := Option.map_eq_some_iff.1 h
      rfl
  refine ⟨"linregress".toList, ")".toList, ?_, by decide, by decide, by decide, by decide⟩
  rw [hname]
  simp

section
variable {α : Type} [NumberText α] [PlainNumbers α]

theorem callName_applied {function : String} (hfunction : startsName function.toList)
    (hline : '\n' ∉ function.toList) (name : String) (x : α) :
    CallName name (applied function name x) := by
  have hplain := PlainNumbers.not_mem_plain x
  refine ⟨function.toList, ',' :: ' ' :: ((NumberText.plain x).toList ++ [')']), ?_, hfunction,
    hline, ?_, not_startsName_comma _⟩
  · simp [applied]
  · simpa using hplain

theorem callName_scale [Mul α] (factor : α) (s : Series α) :
    CallName s.name (scale factor s).name := by
  have hplain := PlainNumbers.not_mem_plain factor
  refine ⟨"scale".toList, ',' :: ((NumberText.plain factor).toList ++ [')']), ?_, by decide,
    by decide, ?_, not_startsName_comma _⟩
  · simp [scale, Series.rename]
  · simpa using hplain

theorem callName_percentileLevel [Arith α] {interpolate : Bool} {p : α} {s t : Series α}
    (h : percentileLevel interpolate p s = some t) : CallName s.name t.name := by
  obtain ⟨x, -, rfl⟩ := Option.map_eq_some_iff.1 h
  exact callName_applied (by decide) (by decide) s.name p

theorem callName_bandsOf [Arith α] {window : Window} {call : BandCall} {plan : BandPlan α}
    (hplan : BandPlan.make window call = .ok plan) {tiles : Nat} {s history band : Series α}
    (h : band ∈ bandsOf plan tiles call s history) : CallName s.name band.name := by
  obtain ⟨-, ⟨offset, hoffset, -⟩, -⟩ := BandPlan.make_eq_ok hplan
  have hperiod := not_mem_periodLabel (not_mem_of_parseOffset hoffset)
  have hrepeats := Decimal.not_mem_natText call.repeats
  have hband : ∀ function factor : String, startsName function.toList → '\n' ∉ function.toList →
      '(' ∉ factor.toList →
      CallName s.name (function ++ "(" ++ call.label s.name ++ factor ++ ")") := by
    intro function factor hfunction hline hfactor
    refine ⟨function.toList, ',' :: (" period='" ++ periodLabel call.period ++ "', repeats=" ++
      Decimal.natText call.repeats ++ factor ++ ")").toList, ?_, hfunction, hline, ?_,
      not_startsName_comma _⟩
    · simp [BandCall.label]
    · simp [hperiod, hrepeats, hfactor]
  have hfactor : ∀ x : α, '(' ∉ (", factor=" ++ NumberText.exact x).toList := by
    intro x
    simpa using PlainNumbers.not_mem_exact x
  unfold bandsOf at h
  dsimp only at h
  split at h
  · cases h
  · simp only [List.mem_cons, List.not_mem_nil, or_false] at h
    rcases h with rfl | rfl | rfl
    · have hmean := hband "sixSigmaMean" "" (by decide) (by decide) (by decide)
      show CallName s.name ("sixSigmaMean(" ++ call.label s.name ++ ")")
      simpa using hmean
    · have hupper := hband "sixSigmaUpper" _ (by decide) (by decide) (hfactor plan.factors.upper)
      show CallName s.name ("sixSigmaUpper(" ++ call.label s.name ++ ", factor=" ++
        NumberText.exact plan.factors.upper ++ ")")
      simpa [String.append_assoc] using hupper
    · have hlower := hband "sixSigmaLower" _ (by decide) (by decide) (hfactor plan.factors.lower)
      show CallName s.name ("sixSigmaLower(" ++ call.label s.name ++ ", factor=" ++
        NumberText.exact plan.factors.lower ++ ")")
      simpa [String.append_assoc] using hlower

end

variable {α : Type}

/-- A function that names each series of its output after a call on a series of its list. -/
def Function.NamesCalls (f : Function α) : Prop :=
  ∀ scope args list, (args.takeList 0).1 = .ok list →
    Run.Yields (f scope args) fun output =>
      ∀ t ∈ output.flatten, ∃ s ∈ list, CallName s.name t.name

def wrappingFunctions : List String :=
  ["scale", "transformNull", "removeAbovePercentile", "removeBelowPercentile", "removeAboveValue",
    "removeBelowValue", "nPercentile", "linregress", "sixSigma"]

namespace Function

theorem namesCalls_withArgument {β : Type} {read : Args α → Except Error β}
    {f : Scope α → β → List (Series α) → Except Error (List (Series α))}
    (h : ∀ scope b list result, f scope b list = .ok result →
      ∀ t ∈ result, ∃ s ∈ list, CallName s.name t.name) : NamesCalls (withArgument read f) := by
  intro scope args list hlist
  refine Run.Yields.any.bind fun b _ => ?_
  rw [hlist]
  refine Run.Yields.bind (P := (· = list)) (.lift fun _ h => (Except.ok.inj h).symm) ?_
  rintro list rfl
  have hresult : Run.Yields (liftExcept (f scope b list)) fun result =>
      ∀ t ∈ result, ∃ s ∈ list, CallName s.name t.name :=
    .lift fun result hf => h scope b list result hf
  exact hresult.bind fun result hall => .pure hall

theorem namesCalls_eachWith {β : Type} {read : Args α → Except Error β}
    {f : Scope α → β → Series α → Series α}
    (h : ∀ scope b s, CallName s.name (f scope b s).name) : NamesCalls (eachWith read f) := by
  refine namesCalls_withArgument fun scope b list result hresult t ht => ?_
  cases hresult
  obtain ⟨s, hs, rfl⟩ := List.mem_map.1 ht
  exact ⟨s, hs, h scope b s⟩

theorem namesCalls_linregress [Arith α] {read : Args α → Except Error (Option α)} :
    NamesCalls (withArgument read fun scope least list => .ok (linregress scope.window least list)) := by
  refine namesCalls_withArgument fun scope least list result hresult t ht => ?_
  cases hresult
  obtain ⟨s, hs, htrend⟩ := List.mem_filterMap.1 ht
  exact ⟨s, hs, callName_trend htrend⟩

variable [Arith α] [NumberText α] [PlainNumbers α]

theorem namesCalls_bands : NamesCalls (bands : Function α) := by
  intro scope args list hlist
  refine Run.Yields.any.bind fun period _ => Run.Yields.any.bind fun repeats _ => ?_
  refine Run.Yields.any.bind fun factor _ => ?_
  rw [hlist]
  refine Run.Yields.bind (P := (· = list)) (.lift fun _ h => (Except.ok.inj h).symm) ?_
  rintro list rfl
  have hbands : Run.Yields (sixSigma scope ⟨period, repeats, factor⟩ list) fun result =>
      ∀ t ∈ result, ∃ s ∈ list, CallName s.name t.name := by
    intro log result after hr band hband
    cases hmake : (BandPlan.make scope.window ⟨period, repeats, factor⟩ :
        Except Error (BandPlan α)) with
    | error e =>
      rw [from_sixSigma_of_error hmake] at hr
      cases hr
    | ok plan =>
      obtain ⟨s, hs, history, -, hmem⟩ := exists_of_mem_sixSigma hmake hr band hband
      exact ⟨s, hs, callName_bandsOf hmake hmem⟩
  exact hbands.bind fun result hall => .pure hall

theorem namesCalls_nPercentile {read : Args α → Except Error α} :
    NamesCalls (withArgument read fun scope => nPercentile scope.config.interpolate) := by
  refine namesCalls_withArgument fun scope p list result hresult t ht => ?_
  unfold nPercentile at hresult
  split at hresult
  · cases hresult
  · cases hresult
    obtain ⟨s, hs, hlevel⟩ := List.mem_filterMap.1 ht
    exact ⟨s, hs, callName_percentileLevel hlevel⟩

theorem namesCalls_standard {name : String} {f : Function α} (h : (name, f) ∈ standardEntries)
    (hname : name ∈ wrappingFunctions) : NamesCalls f := by
  simp only [wrappingFunctions, List.mem_cons, List.not_mem_nil, or_false] at hname
  rcases hname with rfl | rfl | rfl | rfl | rfl | rfl | rfl | rfl | rfl
  · obtain rfl : f = .eachWith (·.number 1) fun _ => scale := by simpa [standardEntries] using h
    exact namesCalls_eachWith fun _ factor s => callName_scale factor s
  · obtain rfl : f = .eachWith (·.numberOr 1 0) fun _ => transformNull := by
      simpa [standardEntries] using h
    exact namesCalls_eachWith fun _ x s => callName_applied (by decide) (by decide) s.name x
  · obtain rfl : f = .eachWith (·.number 1) fun scope =>
        removePercentile scope.config.interpolate .above := by simpa [standardEntries] using h
    exact namesCalls_eachWith fun _ p s => callName_applied (by decide) (by decide) s.name p
  · obtain rfl : f = .eachWith (·.number 1) fun scope =>
        removePercentile scope.config.interpolate .below := by simpa [standardEntries] using h
    exact namesCalls_eachWith fun _ p s => callName_applied (by decide) (by decide) s.name p
  · obtain rfl : f = .eachWith (·.number 1) fun _ => removeValues .above := by
      simpa [standardEntries] using h
    exact namesCalls_eachWith fun _ x s => callName_applied (by decide) (by decide) s.name x
  · obtain rfl : f = .eachWith (·.number 1) fun _ => removeValues .below := by
      simpa [standardEntries] using h
    exact namesCalls_eachWith fun _ x s => callName_applied (by decide) (by decide) s.name x
  · obtain rfl : f = .withArgument (·.number 1) fun scope =>
        nPercentile scope.config.interpolate := by simpa [standardEntries] using h
    exact namesCalls_nPercentile
  · obtain rfl : f = .withArgument (·.number? 1) fun scope least list =>
        .ok (linregress scope.window least list) := by simpa [standardEntries] using h
    exact namesCalls_linregress
  · obtain rfl : f = .bands := by simpa [standardEntries] using h
    exact namesCalls_bands

end Function

section
variable [Arith α] [NumberText α]

/-- A call of a built-in function that names calls, on one series alone, has another in its
output. -/
def Wraps (s t : Series α) : Prop :=
  ∃ (c : Context α) (args : Args α) (log after : List Fetch) (output : Output α),
    c.BuiltIn args.function ∧ args.function ∈ wrappingFunctions ∧
    (args.takeList 0).1 = .ok [s] ∧ Run.from (c.call args) log = (.ok output, after) ∧
    t ∈ output.flatten

theorem Wraps.callName [PlainNumbers α] {s t : Series α} (h : Wraps s t) :
    CallName s.name t.name := by
  obtain ⟨c, args, log, after, output, hbuiltIn, hfunction, hlist, hcall, ht⟩ := h
  unfold Context.call at hcall
  rw [hbuiltIn] at hcall
  cases hf : (Registry.standard : Registry α).find? args.function with
  | none =>
    rw [hf] at hcall
    cases hcall
  | some f =>
    rw [hf] at hcall
    have hnames := Function.namesCalls_standard (Registry.mem_standardEntries_of_find? hf) hfunction
    obtain ⟨u, hu, hname⟩ := hnames _ args [s] hlist log output after hcall t ht
    rwa [List.mem_singleton.1 hu] at hname

/-- Calls keep the path of a name that starts with a name character. -/
theorem metricPath_wraps [PlainNumbers α] {s t : Series α} (hname : startsName s.name.toList)
    (h : Relation.ReflTransGen Wraps s t) :
    startsName t.name.toList ∧ metricPath t.name.toList = metricPath s.name.toList := by
  induction h with
  | refl => exact ⟨hname, rfl⟩
  | tail _ hstep ih =>
    obtain ⟨hstarts, hpath⟩ := ih
    exact ⟨hstep.callName.startsName, (hstep.callName.metricPath_eq hstarts).trans hpath⟩

end

theorem join_pieces (name : String) : Text.join '.' (Text.pieces '.' name) = name := by
  unfold Text.join Text.pieces
  rw [List.map_map]
  have hid : (String.toList ∘ String.ofList) = id := funext fun cs => String.toList_ofList
  rw [hid, List.map_id, List.intercalate_splitOn, String.ofList_toList]

theorem nodeAt_of_lt {name node : String} {i : Nat}
    (h : (Text.pieces '.' name)[i]? = some node) :
    (nodeAt name i).map Prod.snd = .ok node ∧
      (nodeAt name ((i : Int) - (Text.pieces '.' name).length)).map Prod.snd = .ok node := by
  have hi : i < (Text.pieces '.' name).length := (List.getElem?_eq_some_iff.1 h).1
  have hfront : HasNode name i := ⟨by omega, by omega⟩
  have hback : HasNode name ((i : Int) - (Text.pieces '.' name).length) := ⟨by omega, by omega⟩
  have hposition : nodePosition name i = i := by
    unfold nodePosition
    rw [if_neg (by omega)]
    omega
  have hposition' : nodePosition name ((i : Int) - (Text.pieces '.' name).length) = i := by
    unfold nodePosition
    rw [if_pos (by omega)]
    omega
  rw [nodeAt_of_hasNode hfront, nodeAt_of_hasNode hback]
  unfold fragmentAt
  rw [hposition, hposition', h]
  exact ⟨rfl, rfl⟩

theorem relabelByNode_congr {s t : Series α}
    (h : metricPath t.name.toList = metricPath s.name.toList) (indices : List Int) :
    (relabelByNode indices t).map Series.name = (relabelByNode indices s).map Series.name := by
  unfold relabelByNode
  rw [h]
  dsimp only
  cases indices.mapM fun index =>
      (nodeAt (String.ofList (metricPath s.name.toList)) index).map Prod.snd with
  | error e => rfl
  | ok nodes => rfl

theorem relabelByNode_of_all {s : Series α} (h : ∀ c ∈ s.name.toList, nameSet.holds c)
    {indices : List Int} {nodes : List String}
    (hnodes : List.Forall₂ (fun index node => (nodeAt s.name index).map Prod.snd = .ok node) indices
      nodes) : relabelByNode indices s = .ok (relabel (Text.join '.' nodes) s) := by
  unfold relabelByNode
  rw [metricPath_of_all h, String.ofList_toList]
  dsimp only
  rw [mapM_eq_ok_iff_forall₂.2 hnodes]
  rfl

theorem forall₂_range_nodes (name : String) :
    List.Forall₂ (fun index node => (nodeAt name index).map Prod.snd = .ok node)
      ((List.range (Text.pieces '.' name).length).map Int.ofNat) (Text.pieces '.' name) := by
  rw [List.forall₂_iff_get]
  refine ⟨by simp, fun i _ hi => ?_⟩
  have hnode := (nodeAt_of_lt (List.getElem?_eq_getElem hi)).1
  simpa using hnode

/-- Nodes are addressed through calls: a name that starts with a name character has the same nodes
behind any chain of calls, or lacks the same, and with the same error.  In a name of name characters
all nodes together are the name, and each of them is found from both ends. -/
theorem relabelByNode_wraps [Arith α] [NumberText α] [PlainNumbers α] (s : Series α) :
    (startsName s.name.toList → ∀ t, Relation.ReflTransGen Wraps s t → ∀ indices,
      (relabelByNode indices t).map Series.name = (relabelByNode indices s).map Series.name) ∧
    ((∀ c ∈ s.name.toList, nameSet.holds c) →
      relabelByNode ((List.range s.nodes.length).map Int.ofNat) s = .ok s ∧
      ∀ (i : Nat) node, s.nodes[i]? = some node →
        relabelByNode [(i : Int)] s = .ok (relabel node s) ∧
        relabelByNode [(i : Int) - s.nodes.length] s = .ok (relabel node s)) := by
  refine ⟨fun hname t hwraps => relabelByNode_congr (metricPath_wraps hname hwraps).2,
    fun hall => ⟨?_, fun i node hi => ?_⟩⟩
  · have hself := relabelByNode_of_all hall (forall₂_range_nodes s.name)
    rwa [join_pieces] at hself
  · obtain ⟨hfront, hback⟩ := nodeAt_of_lt hi
    have hone : Text.join '.' [node] = node := by simp [Text.join]
    have hfront := relabelByNode_of_all hall (.cons hfront .nil)
    have hback := relabelByNode_of_all hall (.cons hback .nil)
    rw [hone] at hfront hback
    exact ⟨hfront, hback⟩

noncomputable def twoNodes : Series ℝ :=
  .named "a.b" 7200 7260 60 [some 1, none]

theorem wraps_twoNodes : Wraps twoNodes (scale 2 twoNodes) ∧
    Wraps (scale 2 twoNodes) (transformNull 0 (scale 2 twoNodes)) := by
  constructor
  · exact ⟨.standard (Context.nearWindow 0 1), .ofList "scale" [.list [twoNodes], .number 2], [], [],
      .list [scale 2 twoNodes], rfl, by decide, rfl, rfl, List.mem_singleton.2 rfl⟩
  · exact ⟨.standard (Context.nearWindow 0 1),
      .ofList "transformNull" [.list [scale 2 twoNodes], .number 0], [], [],
      .list [transformNull 0 (scale 2 twoNodes)], rfl, by decide, rfl, rfl,
      List.mem_singleton.2 rfl⟩

theorem relabelByNode_wraps_twoNodes :
    let wrapped := transformNull 0 (scale 2 twoNodes)
    wrapped.name = "transformNull(scale(a.b,2), 0)" ∧
    (∀ indices, (relabelByNode indices wrapped).map Series.name =
      (relabelByNode indices twoNodes).map Series.name) ∧
    relabelByNode [0, 1] twoNodes = .ok twoNodes := by
  intro wrapped
  obtain ⟨hfirst, hsecond⟩ := wraps_twoNodes
  have hchain := (Relation.ReflTransGen.single hfirst).tail hsecond
  have htwo : NumberText.plain (2 : ℝ) = "2" := by
    show Decimal.intText ⌊(2 : ℝ)⌋ = "2"
    rw [Int.floor_ofNat]
    decide
  have hzero : NumberText.plain (0 : ℝ) = "0" := by
    show Decimal.intText ⌊(0 : ℝ)⌋ = "0"
    rw [Int.floor_zero]
    decide
  obtain ⟨hnodes, hself⟩ := relabelByNode_wraps twoNodes
  have hchars : ∀ c ∈ ['a', '.', 'b'], nameSet.holds c := by
    intro c hc
    simp only [List.mem_cons, List.not_mem_nil, or_false] at hc
    rcases hc with rfl | rfl | rfl <;> decide
  obtain ⟨hall, -⟩ := hself hchars
  have hcount : twoNodes.nodes.length = 2 := by decide
  rw [hcount] at hall
  refine ⟨?_, hnodes (by decide) _ hchain, hall⟩
  show "transformNull" ++ "(" ++ ("scale(" ++ "a.b" ++ "," ++ NumberText.plain (2 : ℝ) ++ ")") ++
    ", " ++ NumberText.plain (0 : ℝ) ++ ")" = _
  rw [htwo, hzero]
  decide

end MetricSeries
