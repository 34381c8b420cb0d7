import Mathlib.Data.Rat.Floor
import Mathlib.Data.Int.Log
import Mathlib.Algebra.Order.Round
import Mathlib.Tactic.FieldSimp
import Mathlib.Tactic.Linarith
import Mathlib.Tactic.NormNum
import Mathlib.Tactic.Positivity
import Mathlib.Tactic.Ring

/-!
# Rounding

`roundHalfEven` is Python's `round`, and `binary64` rounds a rational to the nearest float, a
tie to the even one.  A float is read as the rational it stands for.  Overflow is left out.

    |x - roundHalfEven x| ≤ 1 / 2                                    (abs_sub_roundHalfEven)
    x ≤ y → binary64 x ≤ binary64 y                                  (binary64_mono)
    |n| ≤ 2 ^ 53 → binary64 (n * 2 ^ e) = n * 2 ^ e                  (binary64_mul_zpow)
    |binary64 x - x| ≤ |x| / 2 ^ 53                                  (near_binary64)
    round (binary64 (p / q)) = round (p / q)                         (roundHalfEven_binary64_div)
-/

namespace Py

/-! ## To an integer -/

/-- `round(x)`: to the nearest integer, halves to the even one. -/
def roundHalfEven (x : ℚ) : ℤ :=
  if Int.fract x < 1 / 2 then ⌊x⌋
  else if 1 / 2 < Int.fract x then ⌊x⌋ + 1
  else if ⌊x⌋ % 2 = 0 then ⌊x⌋ else ⌊x⌋ + 1

theorem roundHalfEven_intCast (n : ℤ) : roundHalfEven n = n := by
  unfold roundHalfEven
  rw [Int.fract_intCast, if_pos (by norm_num), Int.floor_intCast]

/-- The rounded value lies within a half. -/
theorem abs_sub_roundHalfEven (x : ℚ) : |x - roundHalfEven x| ≤ 1 / 2 := by
  have hfloor : (⌊x⌋ : ℚ) = x - Int.fract x := (Int.self_sub_fract x).symm
  have h0 := Int.fract_nonneg x
  have h1 := Int.fract_lt_one x
  unfold roundHalfEven
  rw [abs_le]
  split
  · constructor
    · rw [hfloor]; linarith
    · rw [hfloor]; linarith
  · next hge =>
    split
    · push_cast
      rw [hfloor]
      constructor
      · linarith
      · linarith
    · split
      · rw [hfloor]
        constructor
        · linarith
        · linarith
      · push_cast
        rw [hfloor]
        constructor
        · linarith
        · linarith

theorem roundHalfEven_bounds (x : ℚ) (lo hi : ℤ) (hlo : (lo : ℚ) ≤ x) (hhi : x ≤ hi) :
    lo ≤ roundHalfEven x ∧ roundHalfEven x ≤ hi := by
  have habs := abs_le.mp (abs_sub_roundHalfEven x)
  constructor
  · have hlt : (lo : ℚ) - 1 < roundHalfEven x := by linarith [habs.2]
    have hlt' : lo - 1 < roundHalfEven x := by exact_mod_cast hlt
    omega
  · have hlt : (roundHalfEven x : ℚ) < hi + 1 := by linarith [habs.1]
    have hlt' : roundHalfEven x < hi + 1 := by exact_mod_cast hlt
    omega

/-- A number closer than a half to an integer rounds to it. -/
theorem roundHalfEven_eq (x : ℚ) (n : ℤ) (h : |x - n| < 1 / 2) : roundHalfEven x = n := by
  have hround := abs_le.mp (abs_sub_roundHalfEven x)
  have hn := abs_lt.mp h
  have h₁ : (roundHalfEven x : ℚ) < n + 1 := by linarith [hround.1, hn.2]
  have h₂ : (n : ℚ) < roundHalfEven x + 1 := by linarith [hround.2, hn.1]
  have h₁' : roundHalfEven x < n + 1 := by exact_mod_cast h₁
  have h₂' : n < roundHalfEven x + 1 := by exact_mod_cast h₂
  omega

/-- A half rounds up to an even integer. -/
theorem roundHalfEven_sub_half {n : ℤ} (hn : n % 2 = 0) : roundHalfEven (n - 1 / 2) = n := by
  have hfloor : ⌊(n : ℚ) - 1 / 2⌋ = n - 1 := by
    rw [Int.floor_eq_iff]
    push_cast
    constructor
    · linarith
    · linarith
  have hfract : Int.fract ((n : ℚ) - 1 / 2) = 1 / 2 := by
    rw [Int.fract, hfloor]
    push_cast
    ring
  unfold roundHalfEven
  rw [hfract, hfloor, if_neg (lt_irrefl _), if_neg (lt_irrefl _), if_neg (by omega)]
  omega

theorem le_roundHalfEven_iff {n : ℤ} (hn : n % 2 = 0) (x : ℚ) :
    n ≤ roundHalfEven x ↔ (n : ℚ) - 1 / 2 ≤ x := by
  have habs := abs_le.mp (abs_sub_roundHalfEven x)
  constructor
  · intro h
    have hcast : (n : ℚ) ≤ roundHalfEven x := by exact_mod_cast h
    linarith [habs.1]
  · intro h
    rcases h.lt_or_eq with hlt | heq
    · have hlt' : (n : ℚ) < roundHalfEven x + 1 := by linarith [habs.2]
      have hint : n < roundHalfEven x + 1 := by exact_mod_cast hlt'
      omega
    · rw [← heq, roundHalfEven_sub_half hn]

theorem roundHalfEven_le_iff {n : ℤ} (hn : n % 2 = 1) (x : ℚ) :
    roundHalfEven x ≤ n ↔ x < (n : ℚ) + 1 / 2 := by
  have hnext := le_roundHalfEven_iff (n := n + 1) (by omega) x
  have hhalf : ((n + 1 : ℤ) : ℚ) - 1 / 2 = n + 1 / 2 := by
    push_cast
    ring
  rw [hhalf] at hnext
  have hnot := not_congr hnext
  rw [not_le, not_le, Int.lt_add_one_iff] at hnot
  exact hnot

theorem roundHalfEven_mono {x y : ℚ} (hxy : x ≤ y) : roundHalfEven x ≤ roundHalfEven y := by
  by_contra hlt
  have hx := abs_le.mp (abs_sub_roundHalfEven x)
  have hy := abs_le.mp (abs_sub_roundHalfEven y)
  have hint : roundHalfEven y + 1 ≤ roundHalfEven x := by omega
  have hcast : (roundHalfEven y : ℚ) + 1 ≤ roundHalfEven x := by exact_mod_cast hint
  have heq : x = y := by linarith [hx.1, hy.2]
  rw [heq] at hlt
  exact hlt (le_refl _)

theorem roundHalfEven_neg (x : ℚ) : roundHalfEven (-x) = -roundHalfEven x := by
  rcases eq_or_ne (Int.fract x) 0 with hzero | hne
  · have hx : x = ⌊x⌋ := by linarith [Int.self_sub_floor x]
    rw [hx, ← Int.cast_neg, roundHalfEven_intCast, roundHalfEven_intCast]
  · have hfract := Int.fract_neg hne
    have hfloor : ⌊-x⌋ = -⌊x⌋ - 1 := by
      have h : ((⌊-x⌋ : ℤ) : ℚ) = -⌊x⌋ - 1 := by
        linarith [Int.self_sub_floor x, Int.self_sub_floor (-x)]
      exact_mod_cast h
    unfold roundHalfEven
    rw [hfract, hfloor]
    rcases lt_trichotomy (Int.fract x) (1 / 2) with hlt | heq | hgt
    · rw [if_pos hlt, if_neg (by linarith), if_pos (by linarith)]
      omega
    · rw [heq, sub_half, if_neg (lt_irrefl _), if_neg (lt_irrefl _), if_neg (lt_irrefl _),
        if_neg (lt_irrefl _)]
      split <;> split <;> omega
    · rw [if_pos (by linarith), if_neg (by linarith), if_pos hgt]
      omega

/-! ## To a float -/

/-- The place of the last of the 53 bits of `x`, or that of the least subnormal number. -/
def lastPlace (x : ℚ) : ℤ := max (Int.log 2 |x| - 52) (-1074)

/-- The float nearest to `x`. -/
def binary64 (x : ℚ) : ℚ := roundHalfEven (x / 2 ^ lastPlace x) * 2 ^ lastPlace x

theorem two_zpow_pos (e : ℤ) : (0 : ℚ) < 2 ^ e := zpow_pos two_pos e

theorem lastPlace_neg (x : ℚ) : lastPlace (-x) = lastPlace x := by
  unfold lastPlace
  rw [abs_neg]

theorem binary64_neg (x : ℚ) : binary64 (-x) = -binary64 x := by
  unfold binary64
  rw [lastPlace_neg, neg_div, roundHalfEven_neg]
  push_cast
  ring

/-- A multiple of the last place below `x` stays below. -/
theorem le_binary64 {x : ℚ} {n : ℤ} (h : n * 2 ^ lastPlace x ≤ x) :
    n * 2 ^ lastPlace x ≤ binary64 x := by
  have hpos := two_zpow_pos (lastPlace x)
  have hround := roundHalfEven_mono ((le_div_iff₀ hpos).mpr h)
  rw [roundHalfEven_intCast] at hround
  exact mul_le_mul_of_nonneg_right (by exact_mod_cast hround) hpos.le

theorem binary64_le {x : ℚ} {n : ℤ} (h : x ≤ n * 2 ^ lastPlace x) :
    binary64 x ≤ n * 2 ^ lastPlace x := by
  have hpos := two_zpow_pos (lastPlace x)
  have hround := roundHalfEven_mono ((div_le_iff₀ hpos).mpr h)
  rw [roundHalfEven_intCast] at hround
  exact mul_le_mul_of_nonneg_right (by exact_mod_cast hround) hpos.le

/-- A multiple of its last place is a float. -/
theorem binary64_eq_self {x : ℚ} {n : ℤ} (h : x = n * 2 ^ lastPlace x) : binary64 x = x := by
  refine le_antisymm ?_ ?_
  · have hle := binary64_le h.le
    rwa [← h] at hle
  · have hge := le_binary64 h.ge
    rwa [← h] at hge

theorem zero_le_binary64 {x : ℚ} (h : 0 ≤ x) : 0 ≤ binary64 x := by
  have hle := le_binary64 (x := x) (n := 0) (by rwa [Int.cast_zero, zero_mul])
  rwa [Int.cast_zero, zero_mul] at hle

theorem lastPlace_mono {x y : ℚ} (hx : 0 < x) (hxy : x ≤ y) : lastPlace x ≤ lastPlace y := by
  have hlog : Int.log 2 x ≤ Int.log 2 y := Int.log_mono_right hx hxy
  unfold lastPlace
  rw [abs_of_pos hx, abs_of_pos (hx.trans_le hxy)]
  omega

/-- A power of two at or above the last place is a multiple of it. -/
theorem zpow_eq_mul {e p : ℤ} (h : p ≤ e) : (2 : ℚ) ^ e = ((2 ^ (e - p).toNat : ℤ) : ℚ) * 2 ^ p := by
  have hnat : ((e - p).toNat : ℤ) = e - p := Int.toNat_of_nonneg (by omega)
  push_cast
  rw [← zpow_natCast, hnat, ← zpow_add₀ two_ne_zero, sub_add_cancel]

theorem binary64_mono_pos {x y : ℚ} (hx : 0 < x) (hxy : x ≤ y) : binary64 x ≤ binary64 y := by
  have hy : 0 < y := hx.trans_le hxy
  rcases (lastPlace_mono hx hxy).lt_or_eq with hlt | heq
  · -- the power of two that `y` begins with is between them
    have hplace : lastPlace y = Int.log 2 y - 52 := by
      unfold lastPlace at hlt ⊢
      rw [abs_of_pos hx, abs_of_pos hy] at hlt
      rw [abs_of_pos hy]
      omega
    have hlog : Int.log 2 x + 1 ≤ Int.log 2 y := by
      unfold lastPlace at hlt
      rw [abs_of_pos hx, abs_of_pos hy] at hlt
      omega
    have hxB : x ≤ 2 ^ Int.log 2 y :=
      (Int.lt_zpow_succ_log_self (b := 2) one_lt_two x).le.trans
        (zpow_le_zpow_right₀ one_le_two hlog)
    have hBy : (2 : ℚ) ^ Int.log 2 y ≤ y := Int.zpow_log_le_self one_lt_two hy
    have hx' := zpow_eq_mul (show lastPlace x ≤ Int.log 2 y by omega)
    have hy' := zpow_eq_mul (show lastPlace y ≤ Int.log 2 y by omega)
    calc binary64 x ≤ 2 ^ Int.log 2 y := by
          rw [hx'] at hxB ⊢
          exact binary64_le hxB
      _ ≤ binary64 y := by
          rw [hy'] at hBy ⊢
          exact le_binary64 hBy
  · unfold binary64
    rw [heq]
    have hpos := two_zpow_pos (lastPlace y)
    have hround := roundHalfEven_mono (div_le_div_of_nonneg_right hxy hpos.le)
    exact mul_le_mul_of_nonneg_right (by exact_mod_cast hround) hpos.le

/-- Rounding keeps the order. -/
theorem binary64_mono : Monotone binary64 := by
  intro x y hxy
  rcases lt_or_ge 0 x with hx | hx
  · exact binary64_mono_pos hx hxy
  · have hx' : binary64 x ≤ 0 := by
      have h := zero_le_binary64 (neg_nonneg.mpr hx)
      rw [binary64_neg] at h
      linarith
    rcases lt_or_ge y 0 with hy | hy
    · have h := binary64_mono_pos (neg_pos.mpr hy) (neg_le_neg hxy)
      rw [binary64_neg, binary64_neg] at h
      linarith
    · exact hx'.trans (zero_le_binary64 hy)

/-- 53 bits are kept. -/
theorem binary64_mul_zpow {n e : ℤ} (hn : |n| ≤ 2 ^ 53) (he : -1074 ≤ e) :
    binary64 (n * 2 ^ e) = n * 2 ^ e := by
  rcases eq_or_ne n 0 with rfl | hn0
  · exact binary64_eq_self (n := 0) (by rw [Int.cast_zero, zero_mul, zero_mul])
  have habs : |(n : ℚ) * 2 ^ e| = |(n : ℚ)| * 2 ^ e := by
    rw [abs_mul, abs_of_pos (two_zpow_pos e)]
  have hpos : 0 < |(n : ℚ) * 2 ^ e| := by
    rw [habs]
    exact mul_pos (abs_pos.mpr (by exact_mod_cast hn0)) (two_zpow_pos e)
  rcases hn.lt_or_eq with hlt | heq
  · have hplace : lastPlace (n * 2 ^ e) ≤ e := by
      have hsize : |(n : ℚ) * 2 ^ e| < 2 ^ (e + 53) := by
        rw [habs, add_comm, zpow_add₀ two_ne_zero]
        refine mul_lt_mul_of_pos_right ?_ (two_zpow_pos e)
        exact_mod_cast hlt
      have hlog := (Int.lt_zpow_iff_log_lt (b := 2) one_lt_two hpos).mp hsize
      unfold lastPlace
      omega
    refine binary64_eq_self (n := n * 2 ^ (e - lastPlace (n * 2 ^ e)).toNat) ?_
    have hpower := zpow_eq_mul hplace
    rw [Int.cast_mul, mul_assoc, ← hpower]
  · have hplace : lastPlace (n * 2 ^ e) = e + 1 := by
      have hsize : |(n : ℚ) * 2 ^ e| = 2 ^ (e + 53) := by
        rw [habs, add_comm, zpow_add₀ two_ne_zero]
        congr 1
        exact_mod_cast heq
      unfold lastPlace
      rw [hsize, show ((2 : ℚ)) = ((2 : ℕ) : ℚ) from rfl, Int.log_zpow one_lt_two]
      omega
    obtain ⟨k, rfl⟩ : ∃ k, n = k * 2 := by
      rcases abs_choice n with h | h
      · exact ⟨2 ^ 52, by omega⟩
      · exact ⟨-2 ^ 52, by omega⟩
    refine binary64_eq_self (n := k) ?_
    rw [hplace, zpow_add₀ two_ne_zero]
    push_cast
    ring

theorem binary64_intCast {n : ℤ} (hn : |n| ≤ 2 ^ 53) : binary64 n = n := by
  have h := binary64_mul_zpow hn (e := 0) (by decide)
  rwa [zpow_zero, mul_one] at h

theorem binary64_zero : binary64 0 = 0 := by
  have h := binary64_intCast (n := 0) (by decide)
  rwa [Int.cast_zero] at h

theorem binary64_one : binary64 1 = 1 := by
  have h := binary64_intCast (n := 1) (by decide)
  rwa [Int.cast_one] at h

/-- A float is rounded to itself. -/
theorem binary64_idem (x : ℚ) : binary64 (binary64 x) = binary64 x := by
  have hpos := two_zpow_pos (lastPlace x)
  have hsize : |x / 2 ^ lastPlace x| ≤ ((2 ^ 53 : ℤ) : ℚ) := by
    have hbits : ((2 ^ 53 : ℤ) : ℚ) = 2 ^ (53 : ℤ) := by norm_num
    rw [abs_div, abs_of_pos hpos, div_le_iff₀ hpos, hbits, ← zpow_add₀ two_ne_zero]
    refine (Int.lt_zpow_succ_log_self (b := 2) one_lt_two |x|).le.trans
      (zpow_le_zpow_right₀ one_le_two ?_)
    unfold lastPlace
    omega
  have hbounds := roundHalfEven_bounds _ (-(2 ^ 53)) (2 ^ 53)
    (by rw [Int.cast_neg]; exact (abs_le.mp hsize).1) (abs_le.mp hsize).2
  exact binary64_mul_zpow (abs_le.mpr hbounds) (le_max_right _ _)

example : binary64 (1 / 10) = 3602879701896397 / 36028797018963968 := by decide +kernel

/-! ## The error of rounding -/

/-- `a` is `b` up to a part `ε` of it. -/
def Near (ε a b : ℚ) : Prop := |a - b| ≤ ε * |b|

theorem Near.mono {ε ε' a b : ℚ} (h : Near ε a b) (hε : ε ≤ ε') : Near ε' a b :=
  h.trans (mul_le_mul_of_nonneg_right hε (abs_nonneg b))

theorem Near.size {ε a b : ℚ} (h : Near ε a b) : |a| ≤ (1 + ε) * |b| := by
  have hle := abs_le.mp (abs_abs_sub_abs_le a b)
  unfold Near at h
  linarith [hle.2]

theorem Near.trans {ε δ a b c : ℚ} (h : Near ε a b) (h' : Near δ b c) (hε : 0 ≤ ε) :
    Near (ε * (1 + δ) + δ) a c := by
  have hsize := mul_le_mul_of_nonneg_left h'.size hε
  have htri := abs_sub_le a b c
  unfold Near at h h' ⊢
  linarith

theorem Near.mul {ε δ a b c d : ℚ} (h : Near ε a b) (h' : Near δ c d) :
    Near (ε + δ * (1 + ε)) (a * c) (b * d) := by
  have htri := abs_add_le (a * (c - d)) ((a - b) * d)
  have heq : a * c - b * d = a * (c - d) + (a - b) * d := by ring
  have h₁ : |a * (c - d)| ≤ (1 + ε) * |b| * (δ * |d|) := by
    rw [abs_mul]
    exact mul_le_mul h.size h' (abs_nonneg _) ((abs_nonneg a).trans h.size)
  have h₂ : |(a - b) * d| ≤ ε * |b| * |d| := by
    rw [abs_mul]
    exact mul_le_mul_of_nonneg_right h (abs_nonneg d)
  unfold Near
  rw [heq, abs_mul b d]
  linarith

/-- The error of one rounding, above the subnormal numbers. -/
theorem near_binary64 {x : ℚ} (h : x = 0 ∨ 2 ^ (-1022 : ℤ) ≤ |x|) :
    Near (1 / 2 ^ 53) (binary64 x) x := by
  rcases h with rfl | h
  · unfold Near
    rw [binary64_zero, sub_zero, abs_zero, mul_zero]
  have hx : 0 < |x| := (two_zpow_pos _).trans_le h
  have hpos := two_zpow_pos (lastPlace x)
  have hlog : (2 : ℚ) ^ Int.log 2 |x| ≤ |x| := Int.zpow_log_le_self one_lt_two hx
  have hplace : lastPlace x = Int.log 2 |x| - 52 := by
    have hle := (Int.zpow_le_iff_le_log (b := 2) one_lt_two hx).mp h
    unfold lastPlace
    omega
  have hround := abs_sub_roundHalfEven (x / 2 ^ lastPlace x)
  have herror : binary64 x - x =
      -((x / 2 ^ lastPlace x - roundHalfEven (x / 2 ^ lastPlace x)) * 2 ^ lastPlace x) := by
    unfold binary64
    rw [sub_mul, div_mul_cancel₀ _ hpos.ne']
    ring
  unfold Near
  rw [herror, abs_neg, abs_mul, abs_of_pos hpos]
  calc |x / 2 ^ lastPlace x - roundHalfEven (x / 2 ^ lastPlace x)| * 2 ^ lastPlace x
      ≤ 1 / 2 * 2 ^ lastPlace x := mul_le_mul_of_nonneg_right hround hpos.le
    _ = 1 / 2 ^ 53 * 2 ^ Int.log 2 |x| := by
        rw [hplace, zpow_sub₀ two_ne_zero]
        norm_num
        ring
    _ ≤ 1 / 2 ^ 53 * |x| := mul_le_mul_of_nonneg_left hlog (by positivity)

/-- One more rounding. -/
theorem Near.rounded {ε a b : ℚ} (h : Near ε a b) (hε : ε ≤ 1 / 2)
    (hb : b = 0 ∨ 2 ^ (-1021 : ℤ) ≤ |b|) : Near (1 / 2 ^ 53 * (1 + ε) + ε) (binary64 a) b := by
  refine (near_binary64 ?_).trans h (by positivity)
  unfold Near at h
  rcases hb with rfl | hb
  · rw [abs_zero, mul_zero, sub_zero] at h
    exact Or.inl (abs_eq_zero.mp (le_antisymm h (abs_nonneg a)))
  · right
    have hhalf : (2 : ℚ) ^ (-1022 : ℤ) * 2 = 2 ^ (-1021 : ℤ) := by
      rw [← zpow_add_one₀ two_ne_zero]
      rfl
    have hpart : ε * |b| ≤ 1 / 2 * |b| := mul_le_mul_of_nonneg_right hε (abs_nonneg b)
    have hsub := abs_sub_abs_le_abs_sub b a
    rw [abs_sub_comm] at hsub
    linarith

/-- A float is taken as it is. -/
theorem Near.refl (b : ℚ) : Near 0 b b := by
  unfold Near
  rw [sub_self, abs_zero, zero_mul]

/-- Quotients of integers by no large number are no subnormal numbers. -/
theorem quotient_size (n : ℤ) {d : ℚ} (hd : 0 < d) (hd' : d ≤ 2 ^ (52 : ℤ)) :
    (n : ℚ) / d = 0 ∨ 2 ^ (-1021 : ℤ) ≤ |(n : ℚ) / d| := by
  rcases eq_or_ne n 0 with rfl | hn
  · left
    rw [Int.cast_zero, zero_div]
  · right
    have hone : (1 : ℚ) ≤ |(n : ℚ)| := by exact_mod_cast Int.one_le_abs hn
    rw [abs_div, abs_of_pos hd, le_div_iff₀ hd]
    calc (2 : ℚ) ^ (-1021 : ℤ) * d ≤ 2 ^ (-52 : ℤ) * 2 ^ (52 : ℤ) :=
          mul_le_mul (zpow_le_zpow_right₀ one_le_two (by decide)) hd' hd.le (by positivity)
      _ = 1 := by rw [← zpow_add₀ two_ne_zero]; rfl
      _ ≤ |(n : ℚ)| := hone

/-- The float of a quotient of integers. -/
theorem near_binary64_div (n : ℤ) {d : ℚ} (hd : 0 < d) (hd' : d ≤ 2 ^ (52 : ℤ)) :
    Near (1 / 2 ^ 53) (binary64 ((n : ℚ) / d)) ((n : ℚ) / d) := by
  have h := (Near.refl ((n : ℚ) / d)).rounded (by norm_num) (quotient_size n hd hd')
  rwa [add_zero, add_zero, mul_one] at h

/-- `round` of a quotient of integers is the same of its float: a quotient that is no half is too far
from one to reach it, and a half is a float. -/
theorem roundHalfEven_binary64_div {p q : ℤ} (hq : 0 < q) (hq' : q ≤ 2 ^ 52) (hp : |p| < 2 ^ 52) :
    roundHalfEven (binary64 ((p : ℚ) / q)) = roundHalfEven ((p : ℚ) / q) := by
  have hqpos : (0 : ℚ) < q := by exact_mod_cast hq
  have hround := abs_sub_roundHalfEven ((p : ℚ) / q)
  generalize hn : roundHalfEven ((p : ℚ) / q) = n at hround
  have hdist : |(p : ℚ) / q - n| = ((|2 * p - 2 * (n * q)| : ℤ) : ℚ) / (2 * q) := by
    have hdiff : (p : ℚ) / q - n = ((2 * p - 2 * (n * q) : ℤ) : ℚ) / (2 * q) := by
      push_cast
      field_simp
    rw [hdiff, abs_div, abs_of_pos (mul_pos two_pos hqpos), Int.cast_abs]
  have hint : |2 * p - 2 * (n * q)| ≤ q := by
    rw [hdist, div_le_iff₀ (mul_pos two_pos hqpos)] at hround
    have h : ((|2 * p - 2 * (n * q)| : ℤ) : ℚ) ≤ (q : ℚ) := by linarith
    exact_mod_cast h
  rcases hint.lt_or_eq with hlt | heq
  · refine roundHalfEven_eq _ n ?_
    have hsize : |(p : ℚ) / q| = |(p : ℚ)| / q := by rw [abs_div, abs_of_pos hqpos]
    have hnear : |binary64 ((p : ℚ) / q) - (p : ℚ) / q| ≤ 1 / 2 ^ 53 * |(p : ℚ) / q| :=
      near_binary64_div p hqpos (by exact_mod_cast hq')
    have htri := abs_sub_le (binary64 ((p : ℚ) / q)) ((p : ℚ) / q) n
    have hgap : ((|2 * p - 2 * (n * q)| : ℤ) : ℚ) ≤ q - 1 := by exact_mod_cast (by omega)
    have hpcast : |(p : ℚ)| < 2 ^ 52 := by exact_mod_cast hp
    have hsum : 1 / 2 ^ 53 * |(p : ℚ) / q| + |(p : ℚ) / q - n| < 1 / 2 := by
      rw [hdist, hsize, ← mul_div_assoc, div_add_div _ _ hqpos.ne' (by positivity),
        div_lt_iff₀ (by positivity)]
      nlinarith
    linarith
  · obtain ⟨k, hk⟩ : ∃ k, 2 * p = k * q := by
      rcases (abs_eq hq.le).mp heq with h | h
      · exact ⟨2 * n + 1, by linarith⟩
      · exact ⟨2 * n - 1, by linarith⟩
    have hsize : |k| ≤ 2 ^ 53 := by
      have habs : 2 * |p| = |k| * q := by
        rw [← abs_of_pos hq, ← abs_mul, ← hk, abs_mul]
        rfl
      nlinarith [abs_nonneg k]
    have hhalf : (p : ℚ) / q = k * 2 ^ (-1 : ℤ) := by
      have hcast : (2 : ℚ) * p = k * q := by exact_mod_cast hk
      rw [zpow_neg_one, div_eq_iff hqpos.ne']
      linarith
    rw [hhalf, binary64_mul_zpow hsize (by decide), ← hhalf, hn]

end Py
