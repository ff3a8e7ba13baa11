import Mathlib
import MetricSeries.Arith
import MetricSeries.Decimal.Double

/-!
Double-precision numbers by their values.  Every operation gives the exact result rounded to the
nearest number that is held, a half to the even neighbour; what is too large becomes infinite.
Whole numbers and fractions of numbers that are held are held themselves, so that no rounding is
left in taking them.
-/

set_option autoImplicit false

namespace MetricSeries

namespace Binary64

/-- The nearest whole number, and between two the even one. -/
def roundEven (x : ℚ) : ℤ :=
  if 2 * Int.fract x < 1 ∨ 2 * Int.fract x = 1 ∧ Even ⌊x⌋ then ⌊x⌋ else ⌊x⌋ + 1

/-- The exponent of the last of 53 binary places, none of which is below `2 ^ -1074`. -/
def lastPlace (x : ℚ) : ℤ :=
  max (Int.log 2 |x| - 52) (-1074)

def nearest (x : ℚ) : ℚ :=
  roundEven (x / 2 ^ lastPlace x) * 2 ^ lastPlace x

/-- What is not below it is too large.  No proof evaluates it. -/
@[irreducible] def overflow : ℚ := 2 ^ 1024

/-- A number of 53 binary places, of any size. -/
def Held (x : ℚ) : Prop :=
  ∃ m e : ℤ, |m| < 2 ^ 53 ∧ -1074 ≤ e ∧ x = m * 2 ^ e

theorem floor_le_roundEven (x : ℚ) : ⌊x⌋ ≤ roundEven x := by
  unfold roundEven
  split <;> omega

theorem roundEven_le_ceil (x : ℚ) : roundEven x ≤ ⌈x⌉ := by
  unfold roundEven
  split
  · exact Int.floor_le_ceil x
  · rename_i h
    have hfract : 0 < Int.fract x := by
      by_contra hzero
      exact h (.inl (by linarith))
    have hbelow : (⌊x⌋ : ℚ) < ⌈x⌉ := by
      have hceil := Int.le_ceil x
      have hsplit := Int.floor_add_fract x
      linarith
    exact_mod_cast hbelow

theorem le_roundEven {x : ℚ} {k : ℤ} (h : (k : ℚ) ≤ x) : k ≤ roundEven x :=
  (Int.le_floor.2 h).trans (floor_le_roundEven x)

theorem roundEven_le {x : ℚ} {k : ℤ} (h : x ≤ k) : roundEven x ≤ k :=
  (roundEven_le_ceil x).trans (Int.ceil_le.2 h)

theorem abs_roundEven_sub_le (x : ℚ) : |(roundEven x : ℚ) - x| ≤ 1 / 2 := by
  have hsplit := Int.floor_add_fract x
  have hlow := Int.fract_nonneg x
  have hhigh := Int.fract_lt_one x
  unfold roundEven
  split
  · rename_i h
    have hhalf : 2 * Int.fract x ≤ 1 := by
      rcases h with h | ⟨h, -⟩
      · exact h.le
      · exact h.le
    rw [abs_le]
    constructor <;> linarith
  · rename_i h
    have hhalf : 1 ≤ 2 * Int.fract x := not_lt.1 fun hlt => h (.inl hlt)
    push_cast
    rw [abs_le]
    constructor <;> linarith

theorem zpow_lastPlace_pos (x : ℚ) : (0 : ℚ) < 2 ^ lastPlace x := by positivity

theorem zpow_log_le {x : ℚ} (hx : 0 < x) : (2 : ℚ) ^ Int.log 2 |x| ≤ x := by
  have h := Int.zpow_log_le_self (b := 2) (R := ℚ) (by norm_num) (abs_pos.2 hx.ne')
  rwa [abs_of_pos hx] at h ⊢

theorem zpow_log_eq {x : ℚ} (h : lastPlace x = Int.log 2 |x| - 52) :
    (2 : ℚ) ^ Int.log 2 |x| = 2 ^ 52 * 2 ^ lastPlace x := by
  have hlog : Int.log 2 |x| = 52 + lastPlace x := by omega
  rw [hlog, zpow_add₀ two_ne_zero]
  norm_num

theorem lt_zpow_lastPlace (x : ℚ) : |x| < 2 ^ (lastPlace x + 53) := by
  calc |x| < (2 : ℚ) ^ (Int.log 2 |x| + 1) :=
        Int.lt_zpow_succ_log_self (b := 2) (R := ℚ) (by norm_num) _
    _ ≤ 2 ^ (lastPlace x + 53) :=
        zpow_le_zpow_right₀ (by norm_num) (by unfold lastPlace; omega)

theorem Held.lt_zpow {r : ℚ} {m e : ℤ} (hm : |m| < 2 ^ 53) (hr : r = m * 2 ^ e) :
    r < 2 ^ (e + 53) := by
  have hbound : (m : ℚ) < 2 ^ 53 := by exact_mod_cast (le_abs_self m).trans_lt hm
  calc r = m * 2 ^ e := hr
    _ < 2 ^ 53 * 2 ^ e := mul_lt_mul_of_pos_right hbound (by positivity)
    _ = 2 ^ (e + 53) := by rw [add_comm e, zpow_add₀ two_ne_zero]; norm_num

theorem mul_zpow_eq {m e g : ℤ} (h : g ≤ e) :
    (m : ℚ) * 2 ^ e = ((m * 2 ^ (e - g).toNat : ℤ) : ℚ) * 2 ^ g := by
  have hsplit : (2 : ℚ) ^ e = 2 ^ (e - g).toNat * 2 ^ g := by
    rw [← zpow_natCast, ← zpow_add₀ two_ne_zero]
    congr 1
    omega
  rw [hsplit]
  push_cast
  ring

theorem Held.exists_places_above {x r : ℚ} (hr : Held r) (hx : 0 < x) (hle : x ≤ r) :
    ∃ k : ℤ, r = k * 2 ^ lastPlace x := by
  obtain ⟨m, e, hm, he, rfl⟩ := hr
  refine ⟨_, mul_zpow_eq (m := m) ?_⟩
  by_contra hplace
  have hsmall : lastPlace x = Int.log 2 |x| - 52 := by
    unfold lastPlace at hplace ⊢
    omega
  have hless : (m : ℚ) * 2 ^ e < x := by
    calc (m : ℚ) * 2 ^ e < 2 ^ (e + 53) := Held.lt_zpow hm rfl
      _ ≤ 2 ^ Int.log 2 |x| := zpow_le_zpow_right₀ (by norm_num) (by omega)
      _ ≤ x := zpow_log_le hx
  exact hless.not_ge hle

/-- Between a number that is held and a number `x` above it lies one that has no places behind the
last one of `x`. -/
theorem Held.exists_places_below {x r : ℚ} (hr : Held r) (hx : 0 < x) (hle : r ≤ x) :
    ∃ k : ℤ, r ≤ k * 2 ^ lastPlace x ∧ k * 2 ^ lastPlace x ≤ x := by
  obtain ⟨m, e, hm, he, rfl⟩ := hr
  rcases le_or_gt (lastPlace x) e with hplace | hplace
  · exact ⟨_, (mul_zpow_eq hplace).le, (mul_zpow_eq hplace).ge.trans hle⟩
  · -- The places of the smaller number go further down, so its first place does not reach `x`'s.
    have hsmall : lastPlace x = Int.log 2 |x| - 52 := by
      unfold lastPlace at hplace ⊢
      omega
    have hfirst : ((2 ^ 52 : ℤ) : ℚ) * 2 ^ lastPlace x = 2 ^ Int.log 2 |x| := by
      rw [zpow_log_eq hsmall]
      norm_num
    refine ⟨2 ^ 52, ?_, hfirst.le.trans (zpow_log_le hx)⟩
    rw [hfirst]
    calc (m : ℚ) * 2 ^ e ≤ 2 ^ (e + 53) := (Held.lt_zpow hm rfl).le
      _ ≤ 2 ^ Int.log 2 |x| := zpow_le_zpow_right₀ (by norm_num) (by omega)

theorem nearest_zero : nearest 0 = 0 := by
  unfold nearest
  rw [zero_div]
  simp [roundEven]

section
variable {x r : ℚ} (hr : Held r) (hx : 0 ≤ x)
include hr hx

/-- Rounding does not pass a number that is held. -/
theorem nearest_le (hle : x ≤ r) : nearest x ≤ r := by
  rcases hx.eq_or_lt with rfl | hpos
  · rwa [nearest_zero]
  · have hunit := zpow_lastPlace_pos x
    obtain ⟨k, hk⟩ := hr.exists_places_above hpos hle
    have hround : roundEven (x / 2 ^ lastPlace x) ≤ k :=
      roundEven_le ((div_le_iff₀ hunit).2 (hle.trans hk.le))
    rw [hk]
    exact mul_le_mul_of_nonneg_right (by exact_mod_cast hround) hunit.le

theorem le_nearest (hle : r ≤ x) : r ≤ nearest x := by
  rcases hx.eq_or_lt with rfl | hpos
  · rwa [nearest_zero]
  · have hunit := zpow_lastPlace_pos x
    obtain ⟨k, hrk, hkx⟩ := hr.exists_places_below hpos hle
    have hround : k ≤ roundEven (x / 2 ^ lastPlace x) := le_roundEven ((le_div_iff₀ hunit).2 hkx)
    exact hrk.trans (mul_le_mul_of_nonneg_right (by exact_mod_cast hround) hunit.le)

end

theorem nearest_eq_self {x : ℚ} (h : Held x) (hx : 0 ≤ x) : nearest x = x :=
  le_antisymm (nearest_le h hx le_rfl) (le_nearest h hx le_rfl)

theorem nearest_sub (x : ℚ) : nearest x - x =
    (roundEven (x / 2 ^ lastPlace x) - x / 2 ^ lastPlace x) * 2 ^ lastPlace x := by
  unfold nearest
  field_simp

theorem abs_nearest_sub_le {x : ℚ} (hx : 2 ^ (-1022 : ℤ) ≤ x) :
    |nearest x - x| ≤ x / 2 ^ 53 := by
  have hpos : 0 < x := lt_of_lt_of_le (by positivity) hx
  have hunit := zpow_lastPlace_pos x
  have hplace : lastPlace x = Int.log 2 |x| - 52 := by
    have hlog : -1022 ≤ Int.log 2 |x| := by
      rw [abs_of_pos hpos]
      exact (Int.zpow_le_iff_le_log (by norm_num) hpos).1 (by exact_mod_cast hx)
    unfold lastPlace
    omega
  calc |nearest x - x|
      = |(roundEven (x / 2 ^ lastPlace x) : ℚ) - x / 2 ^ lastPlace x| * 2 ^ lastPlace x := by
        rw [nearest_sub, abs_mul, abs_of_pos hunit]
    _ ≤ 1 / 2 * 2 ^ lastPlace x := mul_le_mul_of_nonneg_right (abs_roundEven_sub_le _) hunit.le
    _ = 2 ^ Int.log 2 |x| / 2 ^ 53 := by rw [zpow_log_eq hplace]; ring
    _ ≤ x / 2 ^ 53 := by
        have hlog := zpow_log_le hpos
        gcongr

theorem held_of_abs_le {m e : ℤ} (hm : |m| ≤ 2 ^ 53) (he : -1074 ≤ e) : Held (m * 2 ^ e) := by
  rcases hm.lt_or_eq with hlt | heq
  · exact ⟨m, e, hlt, he, rfl⟩
  · -- One place more than there are, but a power of two.
    rcases eq_or_eq_neg_of_abs_eq heq with rfl | rfl
    · refine ⟨2 ^ 52, e + 1, by norm_num, by omega, ?_⟩
      rw [zpow_add₀ two_ne_zero]
      push_cast
      ring
    · refine ⟨-2 ^ 52, e + 1, by norm_num, by omega, ?_⟩
      rw [zpow_add₀ two_ne_zero]
      push_cast
      ring

theorem held_intCast {m : ℤ} (hm : |m| ≤ 2 ^ 53) : Held (m : ℚ) := by
  simpa using held_of_abs_le hm (e := 0) (by norm_num)

theorem held_natCast {n : ℕ} (hn : n ≤ 2 ^ 53) : Held (n : ℚ) := by
  have hcast : |(n : ℤ)| ≤ 2 ^ 53 := by
    rw [Nat.abs_cast]
    exact_mod_cast hn
  exact_mod_cast held_intCast hcast

theorem held_two_pow (n : ℕ) : Held (2 ^ n) := by
  refine ⟨1, n, by norm_num, by omega, ?_⟩
  rw [zpow_natCast, Int.cast_one, one_mul]

theorem held_nearest (x : ℚ) : Held (nearest x) := by
  have hpos := zpow_lastPlace_pos x
  have hsize : |x / 2 ^ lastPlace x| ≤ ((2 ^ 53 : ℤ) : ℚ) := by
    rw [abs_div, abs_of_pos hpos, div_le_iff₀ hpos]
    refine (lt_zpow_lastPlace x).le.trans_eq ?_
    rw [add_comm, zpow_add₀ two_ne_zero]
    norm_num
  rw [abs_le] at hsize
  refine held_of_abs_le (abs_le.2 ⟨le_roundEven ?_, roundEven_le hsize.2⟩) (le_max_right _ _)
  exact_mod_cast hsize.1

section
variable {x : ℚ} (h : Held x) (hx : 0 ≤ x)
include h hx

theorem Held.whole_or_lt : (⌊x⌋ : ℚ) = x ∨ x < 2 ^ 52 := by
  obtain ⟨m, e, hm, he, rfl⟩ := h
  rcases le_or_gt 0 e with hwhole | hplaces
  · left
    have hint := mul_zpow_eq (m := m) hwhole
    rw [zpow_zero, mul_one] at hint
    rw [hint, Int.floor_intCast]
  · right
    calc (m : ℚ) * 2 ^ e < 2 ^ (e + 53) := Held.lt_zpow hm rfl
      _ ≤ 2 ^ (52 : ℤ) := zpow_le_zpow_right₀ (by norm_num) (by omega)
      _ = 2 ^ 52 := by norm_num

theorem Held.floor : Held (⌊x⌋ : ℚ) := by
  rcases h.whole_or_lt hx with hwhole | hlt
  · rwa [hwhole]
  · have hlow : 0 ≤ ⌊x⌋ := Int.floor_nonneg.2 hx
    have hhigh : ⌊x⌋ < 2 ^ 52 := Int.floor_lt.2 (by exact_mod_cast hlt)
    exact held_intCast (by rw [abs_of_nonneg hlow]; omega)

theorem Held.ceil : Held (⌈x⌉ : ℚ) := by
  rcases h.whole_or_lt hx with hwhole | hlt
  · have hceil : ⌈x⌉ = ⌊x⌋ := by rw [← hwhole, Int.ceil_intCast, Int.floor_intCast]
    rw [hceil, hwhole]
    exact h
  · have hlow : 0 ≤ ⌈x⌉ := Int.ceil_nonneg hx
    have hhigh : ⌈x⌉ ≤ 2 ^ 52 := Int.ceil_le.2 (by exact_mod_cast hlt.le)
    exact held_intCast (by rw [abs_of_nonneg hlow]; omega)

theorem Held.fract : Held (Int.fract x) := by
  obtain ⟨m, e, hm, he, rfl⟩ := h
  rcases le_or_gt 0 e with hwhole | hplaces
  · have hint := mul_zpow_eq (m := m) hwhole
    rw [zpow_zero, mul_one] at hint
    rw [hint, Int.fract_intCast]
    exact held_natCast (n := 0) (by norm_num)
  · set x : ℚ := m * 2 ^ e with hxdef
    have hfloor := mul_zpow_eq (m := ⌊x⌋) hplaces.le
    rw [zpow_zero, mul_one] at hfloor
    have hfract : Int.fract x = ((m - ⌊x⌋ * 2 ^ (0 - e).toNat : ℤ) : ℚ) * 2 ^ e := by
      rw [Int.fract, Int.cast_sub, sub_mul, ← hfloor, ← hxdef]
    have hunit : (0 : ℚ) < 2 ^ e := by positivity
    have hlow : 0 ≤ m - ⌊x⌋ * 2 ^ (0 - e).toNat := by
      have hnonneg := Int.fract_nonneg x
      rw [hfract] at hnonneg
      exact_mod_cast nonneg_of_mul_nonneg_left hnonneg hunit
    have hhigh : 0 ≤ ⌊x⌋ * 2 ^ (0 - e).toNat :=
      mul_nonneg (Int.floor_nonneg.2 hx) (by positivity)
    have hm' := (le_abs_self m).trans_lt hm
    exact ⟨_, e, by rw [abs_of_nonneg hlow]; omega, he, hfract⟩

end

end Binary64

/-- A double-precision number.  The zero has no sign, which no comparison would tell. -/
inductive Binary64 where
  | notANumber
  | infinite (neg : Bool)
  | finite (x : ℚ) (held : Binary64.Held x) (bounded : |x| < Binary64.overflow)

namespace Binary64

/-- The number for an exact result. -/
def ofRat (x : ℚ) : Binary64 :=
  if h : |nearest x| < overflow then .finite (nearest x) (held_nearest x) h
  else .infinite (decide (x < 0))

def add : Binary64 → Binary64 → Binary64
  | .finite x _ _, .finite y _ _ => ofRat (x + y)
  | .infinite a, .infinite b => if a = b then .infinite a else .notANumber
  | .infinite a, .finite .. => .infinite a
  | .finite .., .infinite b => .infinite b
  | _, _ => .notANumber

def sub : Binary64 → Binary64 → Binary64
  | .finite x _ _, .finite y _ _ => ofRat (x - y)
  | .infinite a, .infinite b => if a = b then .notANumber else .infinite a
  | .infinite a, .finite .. => .infinite a
  | .finite .., .infinite b => .infinite (!b)
  | _, _ => .notANumber

def mul : Binary64 → Binary64 → Binary64
  | .finite x _ _, .finite y _ _ => ofRat (x * y)
  | .infinite a, .infinite b => .infinite (a != b)
  | .infinite a, .finite y _ _ => if y = 0 then .notANumber else .infinite (a != decide (y < 0))
  | .finite x _ _, .infinite b => if x = 0 then .notANumber else .infinite (decide (x < 0) != b)
  | _, _ => .notANumber

def div : Binary64 → Binary64 → Binary64
  | .finite x _ _, .finite y _ _ =>
    if y ≠ 0 then ofRat (x / y) else if x = 0 then .notANumber else .infinite (decide (x < 0))
  | .infinite a, .finite y _ _ => .infinite (a != decide (y < 0))
  | .finite .., .infinite _ => ofRat 0
  | _, _ => .notANumber

def below : Binary64 → Binary64 → Bool
  | .finite x _ _, .finite y _ _ => decide (x < y)
  | .finite .., .infinite neg => !neg
  | .infinite neg, .finite .. => neg
  | .infinite a, .infinite b => a && !b
  | _, _ => false

def same : Binary64 → Binary64 → Bool
  | .finite x _ _, .finite y _ _ => decide (x = y)
  | .infinite a, .infinite b => a == b
  | _, _ => false

def whole : Binary64 → Int
  | .finite x _ _ => Decimal.clampWord (if 0 ≤ x then ⌊x⌋ else ⌈x⌉)
  | .infinite neg => if neg then Decimal.smallestWord else Decimal.largestWord
  | .notANumber => 0

def roundBy (f : ℚ → ℤ) : Binary64 → Binary64
  | .finite x _ _ => ofRat (f x)
  | a => a

instance : Zero Binary64 := ⟨ofRat 0⟩
instance : NatCast Binary64 := ⟨fun n => ofRat n⟩
instance : Add Binary64 := ⟨add⟩
instance : Sub Binary64 := ⟨sub⟩
instance : Mul Binary64 := ⟨mul⟩
instance : Div Binary64 := ⟨div⟩
instance : LT Binary64 := ⟨fun a b => below a b = true⟩
instance : DecidableLT Binary64 := fun a b => inferInstanceAs (Decidable (below a b = true))
instance : BEq Binary64 := ⟨same⟩

instance : Rounding Binary64 where
  floor := roundBy Int.floor
  ceil := roundBy Int.ceil
  whole := whole

/-- A number that is its own nearest one.  Negative numbers are left out. -/
structure Exact (x : ℚ) : Prop where
  held : Held x
  nonneg : 0 ≤ x
  lt : x < overflow

theorem two_pow_lt_overflow {n : ℕ} (hn : n < 1024) : (2 : ℚ) ^ n < overflow := by
  unfold overflow
  exact pow_lt_pow_right₀ (by norm_num) hn

theorem exact_natCast {n : ℕ} (hn : n ≤ 2 ^ 53) : Exact (n : ℚ) where
  held := held_natCast hn
  nonneg := Nat.cast_nonneg n
  lt := lt_of_le_of_lt (b := 2 ^ 53) (by exact_mod_cast hn) (two_pow_lt_overflow (by norm_num))

theorem exact_zero : Exact 0 := by
  exact_mod_cast exact_natCast (Nat.zero_le (2 ^ 53))

theorem exact_one : Exact 1 := by
  exact_mod_cast exact_natCast (Nat.one_le_two_pow (n := 53))

theorem nearest_nonneg {x : ℚ} (hx : 0 ≤ x) : 0 ≤ nearest x :=
  le_nearest exact_zero.held hx hx

theorem exact_nearest {x : ℚ} (hx : 0 ≤ x) (hlt : nearest x < overflow) : Exact (nearest x) :=
  ⟨held_nearest x, nearest_nonneg hx, hlt⟩

theorem ofRat_nearest {x : ℚ} (hx : 0 ≤ x) : ofRat (nearest x) = ofRat x := by
  have hnearest : nearest (nearest x) = nearest x :=
    nearest_eq_self (held_nearest x) (nearest_nonneg hx)
  have hsign : decide (nearest x < 0) = decide (x < 0) := by
    rw [decide_eq_false (nearest_nonneg hx).not_gt, decide_eq_false hx.not_gt]
  unfold ofRat
  simp only [hnearest, hsign]

theorem ofRat_of_ge {x : ℚ} (hx : 0 ≤ x) (hge : overflow ≤ nearest x) :
    ofRat x = .infinite false := by
  unfold ofRat
  rw [dif_neg (not_lt.2 (hge.trans (le_abs_self _))), decide_eq_false hx.not_gt]

namespace Exact

variable {x y : ℚ} (hx : Exact x) (hy : Exact y)

include hx in
theorem abs_lt : |x| < overflow := by
  rw [abs_of_nonneg hx.nonneg]
  exact hx.lt

include hx in
theorem ofRat_eq : ofRat x = .finite x hx.held hx.abs_lt := by
  have hnearest := nearest_eq_self hx.held hx.nonneg
  unfold ofRat
  rw [dif_pos (by rw [hnearest]; exact hx.abs_lt)]
  simp only [hnearest]

include hx in
theorem of_floor : Exact (⌊x⌋ : ℚ) where
  held := hx.held.floor hx.nonneg
  nonneg := by exact_mod_cast Int.floor_nonneg.2 hx.nonneg
  lt := (Int.floor_le x).trans_lt hx.lt

include hx in
theorem of_fract : Exact (Int.fract x) where
  held := hx.held.fract hx.nonneg
  nonneg := Int.fract_nonneg x
  lt := (Int.fract_lt_one x).trans (by simpa using two_pow_lt_overflow (n := 0) (by norm_num))

include hx in
theorem of_ceil : Exact (⌈x⌉ : ℚ) where
  held := hx.held.ceil hx.nonneg
  nonneg := by exact_mod_cast Int.ceil_nonneg hx.nonneg
  lt := by
    rcases hx.held.whole_or_lt hx.nonneg with hwhole | hlt
    · rw [← hwhole, Int.ceil_intCast, hwhole]
      exact hx.lt
    · have hceil : ⌈x⌉ ≤ 2 ^ 52 := Int.ceil_le.2 (by exact_mod_cast hlt.le)
      exact lt_of_le_of_lt (b := 2 ^ 52) (by exact_mod_cast hceil)
        (two_pow_lt_overflow (by norm_num))

include hx hy

theorem ofRat_add : ofRat x + ofRat y = ofRat (x + y) := by
  rw [hx.ofRat_eq, hy.ofRat_eq]
  rfl

theorem ofRat_sub : ofRat x - ofRat y = ofRat (x - y) := by
  rw [hx.ofRat_eq, hy.ofRat_eq]
  rfl

theorem ofRat_mul : ofRat x * ofRat y = ofRat (x * y) := by
  rw [hx.ofRat_eq, hy.ofRat_eq]
  rfl

theorem ofRat_div (hne : y ≠ 0) : ofRat x / ofRat y = ofRat (x / y) := by
  rw [hx.ofRat_eq, hy.ofRat_eq]
  exact if_pos hne

theorem ofRat_lt_iff : ofRat x < ofRat y ↔ x < y := by
  rw [hx.ofRat_eq, hy.ofRat_eq]
  exact decide_eq_true_iff

omit hy

theorem floor_ofRat : Rounding.floor (ofRat x) = ofRat ⌊x⌋ := by
  rw [hx.ofRat_eq]
  rfl

theorem ceil_ofRat : Rounding.ceil (ofRat x) = ofRat ⌈x⌉ := by
  rw [hx.ofRat_eq]
  rfl

end Exact

theorem whole_ofRat_intCast {m : ℤ} (h : Exact (m : ℚ)) :
    Rounding.whole (ofRat m) = Decimal.clampWord m := by
  rw [h.ofRat_eq]
  show Decimal.clampWord (if 0 ≤ (m : ℚ) then ⌊(m : ℚ)⌋ else ⌈(m : ℚ)⌉) = _
  rw [Int.floor_intCast, Int.ceil_intCast, ite_self]

end Binary64

end MetricSeries
