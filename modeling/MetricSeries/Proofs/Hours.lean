import Mathlib.Order.Bounds.Basic
import MetricSeries.Error

set_option autoImplicit false

namespace MetricSeries

namespace Instant

@[ext]
theorem ext {t u : Instant} (hseconds : t.seconds = u.seconds) (hnanos : t.nanos = u.nanos) :
    t = u := by
  cases t
  cases u
  cases hseconds
  cases hnanos
  rfl

instance : LinearOrder Instant where
  le_refl t := by
    rw [le_def]
    omega
  le_trans t u v := by
    simp only [le_def]
    omega
  lt_iff_le_not_ge t u := by
    simp only [le_def, lt_def]
    omega
  le_antisymm t u htu hut := by
    rw [le_def] at htu hut
    ext <;> omega
  le_total t u := by
    simp only [le_def]
    omega
  toDecidableLE := inferInstance

/-- A time without a leap second is set wherever it comes to lie in the calendar. -/
theorem onDay?_eq_some (t : Instant) (second : Int) (nanos : Nat)
    (hfirst : firstSecond ≤ t.seconds - t.secondOfDay + second)
    (hlast : t.seconds - t.secondOfDay + second ≤ lastSecond) (hnanos : nanos < 1000000000) :
    ∃ u, t.onDay? second nanos = some u ∧ u.seconds = t.seconds - t.secondOfDay + second ∧
      u.nanos = nanos := by
  have hfields : (firstSecond ≤ t.seconds - t.secondOfDay + second ∧
      t.seconds - t.secondOfDay + second ≤ lastSecond) ∧ nanos < 2000000000 :=
    ⟨⟨hfirst, hlast⟩, by omega⟩
  unfold onDay?
  rw [dif_pos hfields, if_pos ?_]
  · exact ⟨_, rfl, rfl, rfl⟩
  · simp only [le_def, earliest, latest]
    omega

theorem withNanos?_zero (t : Instant) :
    ∃ u, t.withNanos? 0 = some u ∧ u.seconds = t.seconds ∧ u.nanos = 0 := by
  have hfirst := t.first_le
  have hlast := t.le_last
  obtain ⟨u, hu, hseconds, hnanos⟩ := t.onDay?_eq_some t.secondOfDay 0 (by omega) (by omega)
    (by decide)
  exact ⟨u, hu, by omega, hnanos⟩

theorem withSecond?_zero {t : Instant} (h : t.nanos = 0) :
    ∃ u, t.withSecond? 0 = some u ∧ u.seconds = t.seconds - t.seconds % 60 ∧ u.nanos = 0 := by
  have hfirst := t.first_le
  have hlast := t.le_last
  have hday : t.secondOfDay = t.seconds % 86400 := rfl
  unfold firstSecond at hfirst
  obtain ⟨u, hu, hseconds, hnanos⟩ := t.onDay?_eq_some
    (t.secondOfDay / 60 * 60 + (0 : Nat)) t.nanos (by unfold firstSecond; omega) (by omega)
    (by omega)
  refine ⟨u, (if_pos (by decide)).trans hu, by omega, by omega⟩

theorem withMinute?_zero {t : Instant} (h : t.nanos = 0) (hsecond : t.seconds % 60 = 0) :
    ∃ u, t.withMinute? 0 = some u ∧ u.seconds = t.seconds - t.seconds % 3600 ∧ u.nanos = 0 := by
  have hfirst := t.first_le
  have hlast := t.le_last
  have hday : t.secondOfDay = t.seconds % 86400 := rfl
  unfold firstSecond at hfirst
  obtain ⟨u, hu, hseconds, hnanos⟩ := t.onDay?_eq_some
    (t.secondOfDay / 3600 * 3600 + (0 : Nat) * 60 + t.secondOfDay % 60) t.nanos
    (by unfold firstSecond; omega) (by omega) (by omega)
  refine ⟨u, (if_pos (by decide)).trans hu, by omega, by omega⟩

/-- No field is refused: the calendar begins with a whole hour, and nothing comes to lie after the
instant. -/
theorem fullHour?_eq_some (t : Instant) : ∃ u, t.fullHour? = some u ∧
    u.seconds = t.seconds - t.seconds % 3600 ∧ u.nanos = 0 := by
  obtain ⟨a, hnanos, ha, ha'⟩ := t.withNanos?_zero
  obtain ⟨b, hsecond, hb, hb'⟩ := withSecond?_zero ha'
  obtain ⟨c, hminute, hc, hc'⟩ := withMinute?_zero hb' (by omega)
  refine ⟨c, ?_, by omega, hc'⟩
  simp only [fullHour?, hnanos, hsecond, hminute, Option.bind_eq_bind, Option.bind_some]

theorem fullHour?_eq_hour (t : Instant) : t.fullHour? = some t.hour := by
  obtain ⟨u, hu, -⟩ := t.fullHour?_eq_some
  rw [hour, hu, Option.getD_some]

theorem hour_seconds (t : Instant) : t.hour.seconds = t.seconds - t.seconds % 3600 := by
  obtain ⟨u, hu, hseconds, -⟩ := t.fullHour?_eq_some
  rw [hour, hu, Option.getD_some, hseconds]

theorem hour_nanos (t : Instant) : t.hour.nanos = 0 := by
  obtain ⟨u, hu, -, hnanos⟩ := t.fullHour?_eq_some
  rw [hour, hu, Option.getD_some, hnanos]

def IsWholeHour (t : Instant) : Prop :=
  t.seconds % 3600 = 0 ∧ t.nanos = 0

theorem isWholeHour_hour (t : Instant) : t.hour.IsWholeHour := by
  refine ⟨?_, t.hour_nanos⟩
  rw [t.hour_seconds]
  omega

theorem isGreatest_hour (t : Instant) : IsGreatest {u | u.IsWholeHour ∧ u ≤ t} t.hour := by
  have hseconds := t.hour_seconds
  have hnanos := t.hour_nanos
  refine ⟨⟨t.isWholeHour_hour, ?_⟩, ?_⟩
  · rw [le_def]
    omega
  · rintro u ⟨⟨hwhole, hwhole'⟩, hle⟩
    rw [le_def] at *
    omega

theorem monotone_hour : Monotone hour := fun t u h =>
  u.isGreatest_hour.2 ⟨t.isWholeHour_hour, t.isGreatest_hour.1.2.trans h⟩

theorem hour_of_isWholeHour {t : Instant} (h : t.IsWholeHour) : t.hour = t :=
  le_antisymm t.isGreatest_hour.1.2 (t.isGreatest_hour.2 ⟨h, le_rfl⟩)

theorem ofSeconds?_eq_none_iff {seconds : Int} :
    ofSeconds? seconds = none ↔ seconds < firstSecond ∨ lastSecond < seconds := by
  unfold ofSeconds? ofParts?
  constructor
  · intro h
    split at h
    · cases h
    · rename_i hout
      have hnanos : ¬(1000000000 ≤ 0) := by decide
      simp only [hnanos, false_implies, and_true] at hout
      omega
  · intro h
    rw [dif_neg]
    omega

theorem ofSeconds?_eq_some_iff {seconds : Int} {t : Instant} :
    ofSeconds? seconds = some t ↔ t.seconds = seconds ∧ t.nanos = 0 := by
  constructor
  · intro h
    unfold ofSeconds? ofParts? at h
    split at h
    · cases h
      exact ⟨rfl, rfl⟩
    · cases h
  · rintro ⟨rfl, hnanos⟩
    unfold ofSeconds? ofParts?
    rw [dif_pos ⟨⟨t.first_le, t.le_last⟩, by decide, by omega⟩]
    exact congrArg some (ext rfl hnanos.symm)

def IsHourAfter (next t : Instant) : Prop :=
  next.seconds = t.seconds + 3600 ∧ next.nanos = t.nanos

theorem nextHour?_eq_some_iff {t next : Instant} :
    t.nextHour? = some next ↔ next.IsHourAfter t.hour := by
  rw [nextHour?, ofSeconds?_eq_some_iff, IsHourAfter, t.hour_nanos]

theorem nextHour?_eq_none_iff {t : Instant} :
    t.nextHour? = none ↔ ¬∃ next : Instant, next.IsHourAfter t.hour := by
  simp only [Option.eq_none_iff_forall_ne_some, ne_eq, nextHour?_eq_some_iff, not_exists]

theorem lt_of_isHourAfter {t next : Instant} (h : next.IsHourAfter t.hour) : t < next := by
  obtain ⟨hseconds, -⟩ := h
  have hhour := t.hour_seconds
  rw [lt_def]
  omega

theorem align_forward_eq_ok_iff {t next : Instant} :
    t.align .forward = .ok next ↔ next.IsHourAfter t.hour := by
  rw [← nextHour?_eq_some_iff]
  unfold align alignForward
  cases t.nextHour? <;> simp [Except.mapError]

theorem align_forward_eq_error_iff {t : Instant} {e : Error} :
    t.align .forward = .error e ↔
      e = .format (.noNextHour t) ∧ ¬∃ next : Instant, next.IsHourAfter t.hour := by
  rw [← nextHour?_eq_none_iff]
  unfold align alignForward
  cases t.nextHour? <;> simp [Except.mapError, eq_comm]

/-- Backward, every instant comes to the last whole hour that is not after it: no field of it is
refused, a whole hour stays as it is, and the order of two instants is kept.  Forward, it comes to
the instant an hour later, which is after it, and is refused exactly if the calendar has none. -/
theorem align_hours (t : Instant) : ∃ hour,
    t.fullHour? = some hour ∧ t.align .backward = .ok hour ∧
    IsGreatest {u | u.IsWholeHour ∧ u ≤ t} hour ∧ hour.align .backward = .ok hour ∧
    (∀ t' hour', t ≤ t' → t'.align .backward = .ok hour' → hour ≤ hour') ∧
    (∀ next, t.align .forward = .ok next ↔ next.IsHourAfter hour) ∧
    (∀ next, t.align .forward = .ok next → t < next) ∧
    ∀ e, t.align .forward = .error e ↔
      e = .format (.noNextHour t) ∧ ¬∃ next : Instant, next.IsHourAfter hour := by
  refine ⟨t.hour, t.fullHour?_eq_hour, rfl, t.isGreatest_hour, ?_, ?_, fun _ =>
    align_forward_eq_ok_iff, fun next h => ?_, fun _ => align_forward_eq_error_iff⟩
  · exact congrArg Except.ok (hour_of_isWholeHour t.isWholeHour_hour)
  · intro t' hour' h hhour
    cases hhour
    exact monotone_hour h
  · exact lt_of_isHourAfter (align_forward_eq_ok_iff.1 h)

/-- A leap second before 1970, and the last instant of the calendar. -/
theorem align_hours_leapSecond :
    let t : Instant := ⟨-1, 1500000000, by decide, by decide, by decide⟩
    t.align .backward = .ok ⟨-3600, 0, by decide, by decide, by decide⟩ ∧
    t.align .forward = .ok epoch ∧ t < epoch ∧
    latest.align .forward = .error (.format (.noNextHour latest)) := by
  intro t
  obtain ⟨hour, hfields, hbackward, -, -, -, hforward, hafter, -⟩ := t.align_hours
  obtain ⟨lastHour, hlastFields, -, -, -, -, -, -, hrefused⟩ := latest.align_hours
  have hhour : t.fullHour? = some ⟨-3600, 0, by decide, by decide, by decide⟩ := by decide
  have hlastHour : latest.fullHour? =
      some ⟨8210266873200, 0, by decide, by decide, by decide⟩ := by decide
  obtain rfl := Option.some.inj (hhour.symm.trans hfields)
  obtain rfl := Option.some.inj (hlastHour.symm.trans hlastFields)
  have hnext := (hforward epoch).2 ⟨rfl, rfl⟩
  refine ⟨hbackward, hnext, hafter _ hnext, (hrefused _).2 ⟨rfl, ?_⟩⟩
  rintro ⟨next, hseconds, -⟩
  have hseconds : next.seconds = 8210266873200 + 3600 := hseconds
  have hlast := next.le_last
  unfold lastSecond at hlast
  omega

end Instant

end MetricSeries
