import Mathlib.Tactic.FieldSimp
import Mathlib.Tactic.GCongr
import OpenHdoLinker.Lib.Colorsys
import OpenHdoLinker.Lib.Rounding

/-!
# The six sectors of the hue

In exact arithmetic.  Between two multiples of 60 degrees the order of the channels stays the same,
and the middle one goes from the smallest to the largest or back.  In a sector `k`, closed at both
ends, a colour `k.place hi mid lo` has the hue `k.index + k.turn φ` sixths, where `φ` is how far
`mid` is on the way from `lo` to `hi`.

    rgbToHsv id (k.place hi mid lo) = (fract ((k.index + k.turn φ) / 6), (hi - lo) / hi, hi)
                                                                     (rgbToHsv_place)
    hsvToRgb id (fract ((k.index + x) / 6)) s v =
      k.place v (v * (1 - s * (1 - k.turn x))) (v * (1 - s))         (hsvToRgb_sector)
-/

namespace Py

/-! ## Definitions -/

inductive Sector
  | redYellow
  | yellowGreen
  | greenCyan
  | cyanBlue
  | blueMagenta
  | magentaRed

namespace Sector

def index : Sector → ℚ
  | redYellow => 0
  | yellowGreen => 1
  | greenCyan => 2
  | cyanBlue => 3
  | blueMagenta => 4
  | magentaRed => 5

/-- Red, green and blue of the largest, the middle and the smallest channel. -/
def place {α : Type} : Sector → α → α → α → α × α × α
  | redYellow, hi, mid, lo => (hi, mid, lo)
  | yellowGreen, hi, mid, lo => (mid, hi, lo)
  | greenCyan, hi, mid, lo => (lo, hi, mid)
  | cyanBlue, hi, mid, lo => (lo, mid, hi)
  | blueMagenta, hi, mid, lo => (mid, lo, hi)
  | magentaRed, hi, mid, lo => (hi, lo, mid)

/-- Where in the sector the middle channel is how far on its way: it rises in every other one. -/
def turn : Sector → ℚ → ℚ
  | redYellow, x | greenCyan, x | blueMagenta, x => x
  | yellowGreen, x | cyanBlue, x | magentaRed, x => 1 - x

def next : Sector → Sector
  | redYellow => yellowGreen
  | yellowGreen => greenCyan
  | greenCyan => cyanBlue
  | cyanBlue => blueMagenta
  | blueMagenta => magentaRed
  | magentaRed => redYellow

end Sector

/-! ## Lemmas -/

namespace Sector

theorem turn_turn (k : Sector) (x : ℚ) : k.turn (k.turn x) = x := by
  cases k <;> simp [turn]

theorem turn_mem (k : Sector) {x : ℚ} (h0 : 0 ≤ x) (h1 : x ≤ 1) : 0 ≤ k.turn x ∧ k.turn x ≤ 1 := by
  cases k <;> simp only [turn] <;> constructor <;> linarith

theorem abs_turn_sub (k : Sector) (x y : ℚ) : |k.turn x - k.turn y| = |x - y| := by
  cases k <;> simp only [turn] <;> first | rfl | rw [sub_sub_sub_cancel_left, abs_sub_comm]

theorem index_range (k : Sector) : 0 ≤ k.index ∧ k.index ≤ 5 := by
  cases k <;> norm_num [index]

/-- The index as an integer. -/
theorem index_int (k : Sector) : ∃ i : ℤ, (i : ℚ) = k.index := by
  cases k
  · exact ⟨0, by norm_num [index]⟩
  · exact ⟨1, by norm_num [index]⟩
  · exact ⟨2, by norm_num [index]⟩
  · exact ⟨3, by norm_num [index]⟩
  · exact ⟨4, by norm_num [index]⟩
  · exact ⟨5, by norm_num [index]⟩

/-- Every three values are placed in some sector. -/
theorem exists_place {α : Type} [LinearOrder α] (r g b : α) :
    ∃ (k : Sector) (hi mid lo : α), lo ≤ mid ∧ mid ≤ hi ∧ (r, g, b) = k.place hi mid lo := by
  rcases le_total r g with hrg | hrg
  · rcases le_total g b with hgb | hgb
    · exact ⟨cyanBlue, b, g, r, hrg, hgb, rfl⟩
    · rcases le_total r b with hrb | hrb
      · exact ⟨greenCyan, g, b, r, hrb, hgb, rfl⟩
      · exact ⟨yellowGreen, g, r, b, hrb, hrg, rfl⟩
  · rcases le_total g b with hgb | hgb
    · rcases le_total r b with hrb | hrb
      · exact ⟨blueMagenta, b, r, g, hrg, hrb, rfl⟩
      · exact ⟨magentaRed, r, b, g, hgb, hrb, rfl⟩
    · exact ⟨redYellow, r, g, b, hgb, hrg, rfl⟩

end Sector

/-! ### To the hue -/

section ToHsv

variable {hi mid lo : ℚ}

/-- The largest and the smallest channel of a placed colour. -/
theorem place_extremes (k : Sector) (hlo : lo ≤ mid) (hhi : mid ≤ hi) :
    max (k.place hi mid lo).1 (max (k.place hi mid lo).2.1 (k.place hi mid lo).2.2) = hi ∧
      min (k.place hi mid lo).1 (min (k.place hi mid lo).2.1 (k.place hi mid lo).2.2) = lo := by
  have hle := hlo.trans hhi
  cases k <;> simp [Sector.place, hlo, hhi, hle]

/-- The hue before it is brought into one turn. -/
def rawHue (r g b hi lo : ℚ) : ℚ :=
  if r = hi then (hi - b) / (hi - lo) - (hi - g) / (hi - lo)
  else if g = hi then 2 + (hi - r) / (hi - lo) - (hi - b) / (hi - lo)
  else 4 + (hi - g) / (hi - lo) - (hi - r) / (hi - lo)

theorem rgbToHsv_eq {r g b : ℚ} (hhi : max r (max g b) = hi) (hlo : min r (min g b) = lo)
    (hlt : lo < hi) :
    rgbToHsv id r g b = (Int.fract (rawHue r g b hi lo / 6), (hi - lo) / hi, hi) := by
  unfold rgbToHsv rawHue
  simp only [id_eq, hhi, hlo]
  rw [if_neg hlt.ne]

/-- How far the middle channel is on its way. -/
def progress (hi mid lo : ℚ) : ℚ := (mid - lo) / (hi - lo)

theorem progress_mem (hlo : lo ≤ mid) (hhi : mid ≤ hi) (hlt : lo < hi) :
    0 ≤ progress hi mid lo ∧ progress hi mid lo ≤ 1 := by
  have hpos : 0 < hi - lo := sub_pos.mpr hlt
  unfold progress
  rw [div_le_one hpos]
  exact ⟨div_nonneg (sub_nonneg.mpr hlo) hpos.le, by linarith⟩

/-- Progress does not depend on the unit. -/
theorem progress_div (hi mid lo : ℚ) {n : ℚ} (hn : n ≠ 0) :
    progress (hi / n) (mid / n) (lo / n) = progress hi mid lo := by
  unfold progress
  rw [← sub_div, ← sub_div, div_div_div_cancel_right₀ hn]

/-- Up to one turn, the hue is where the sector has it. -/
theorem rawHue_place (k : Sector) (mid : ℚ) (hlt : lo < hi) :
    Int.fract (rawHue (k.place hi mid lo).1 (k.place hi mid lo).2.1 (k.place hi mid lo).2.2 hi lo / 6) =
      Int.fract ((k.index + k.turn (progress hi mid lo)) / 6) := by
  have hne : hi - lo ≠ 0 := (sub_pos.mpr hlt).ne'
  have hself : (hi - lo) / (hi - lo) = 1 := div_self hne
  have hrest : (hi - mid) / (hi - lo) = 1 - progress hi mid lo := by
    unfold progress
    rw [eq_sub_iff_add_eq, ← add_div, sub_add_sub_cancel, hself]
  have htop : mid = hi → progress hi mid lo = 1 := by
    rintro rfl
    exact hself
  cases k with
  | redYellow =>
    simp only [Sector.place, Sector.index, Sector.turn, rawHue, if_true, hself, hrest]
    congr 1
    ring
  | yellowGreen =>
    simp only [Sector.place, Sector.index, Sector.turn, rawHue, if_true, hself, hrest, sub_self,
      zero_div]
    by_cases hm : mid = hi
    · rw [if_pos hm, htop hm]
      norm_num
    · rw [if_neg hm]
      congr 1
      ring
  | greenCyan =>
    simp only [Sector.place, Sector.index, Sector.turn, rawHue, if_neg hlt.ne, if_true, hself, hrest]
    congr 1
    ring
  | cyanBlue =>
    simp only [Sector.place, Sector.index, Sector.turn, rawHue, if_neg hlt.ne, hself, hrest, sub_self,
      zero_div]
    by_cases hm : mid = hi
    · rw [if_pos hm, htop hm]
      norm_num
    · rw [if_neg hm]
      congr 1
      ring
  | blueMagenta =>
    simp only [Sector.place, Sector.index, Sector.turn, rawHue, if_neg hlt.ne, hself, hrest, sub_self,
      zero_div]
    by_cases hm : mid = hi
    · rw [if_pos hm, htop hm]
      have hturn : ((4 : ℚ) + 1) / 6 = (0 - 1) / 6 + 1 := by norm_num
      rw [hturn, Int.fract_add_one]
    · rw [if_neg hm]
      congr 1
      ring
  | magentaRed =>
    simp only [Sector.place, Sector.index, Sector.turn, rawHue, if_true, hself, hrest]
    have hturn : (5 + (1 - progress hi mid lo)) / 6 = (1 - progress hi mid lo - 1) / 6 + 1 := by ring
    rw [hturn, Int.fract_add_one]

/-- **The hue, saturation and value of a colour, by its sector.** -/
theorem rgbToHsv_place (k : Sector) (hlt : lo < hi) (hlo : lo ≤ mid) (hhi : mid ≤ hi) :
    rgbToHsv id (k.place hi mid lo).1 (k.place hi mid lo).2.1 (k.place hi mid lo).2.2 =
      (Int.fract ((k.index + k.turn (progress hi mid lo)) / 6), (hi - lo) / hi, hi) := by
  obtain ⟨hmax, hmin⟩ := place_extremes k hlo hhi
  rw [rgbToHsv_eq hmax hmin hlt, rawHue_place k mid hlt]

/-- A grey has neither hue nor saturation. -/
theorem rgbToHsv_grey (k : Sector) (x : ℚ) :
    rgbToHsv id (k.place x x x).1 (k.place x x x).2.1 (k.place x x x).2.2 = (0, 0, x) := by
  cases k <;> simp [Sector.place, rgbToHsv]

end ToHsv

/-! ### From the hue -/

section FromHsv

/-- Within a sector that is open at its end. -/
theorem hsvToRgb_open (k : Sector) {x s v : ℚ} (h0 : 0 ≤ x) (h1 : x < 1) :
    hsvToRgb id (Int.fract ((k.index + x) / 6)) s v =
      k.place v (v * (1 - s * (1 - k.turn x))) (v * (1 - s)) := by
  have hrange := k.index_range
  have hfract : Int.fract ((k.index + x) / 6) = (k.index + x) / 6 := by
    rw [Int.fract_eq_self, div_nonneg_iff, div_lt_one (by norm_num)]
    constructor
    · exact Or.inl ⟨by linarith, by norm_num⟩
    · linarith
  rw [hfract]
  unfold hsvToRgb
  simp only [id_eq]
  by_cases hs : s = 0
  · rw [if_pos hs, hs]
    cases k <;> simp [Sector.place]
  · rw [if_neg hs, truncate_eq_floor (by linarith), div_mul_cancel₀ _ (by norm_num : (6 : ℚ) ≠ 0)]
    have hfloor : ∀ i : ℤ, (i : ℚ) = k.index → ⌊k.index + x⌋ = i := by
      intro i hi
      rw [Int.floor_eq_iff, hi]
      constructor
      · linarith
      · linarith
    cases k with
    | redYellow =>
      rw [hfloor 0 (by norm_num [Sector.index])]
      simp [Sector.index, Sector.place, Sector.turn]
    | yellowGreen =>
      rw [hfloor 1 (by norm_num [Sector.index])]
      simp [Sector.index, Sector.place, Sector.turn]
    | greenCyan =>
      rw [hfloor 2 (by norm_num [Sector.index])]
      simp [Sector.index, Sector.place, Sector.turn]
    | cyanBlue =>
      rw [hfloor 3 (by norm_num [Sector.index])]
      simp [Sector.index, Sector.place, Sector.turn]
    | blueMagenta =>
      rw [hfloor 4 (by norm_num [Sector.index])]
      simp [Sector.index, Sector.place, Sector.turn]
    | magentaRed =>
      rw [hfloor 5 (by norm_num [Sector.index])]
      simp [Sector.index, Sector.place, Sector.turn]

/-- The end of a sector is the start of the next. -/
theorem sector_end (k : Sector) :
    Int.fract ((k.index + 1) / 6) = Int.fract ((k.next.index + 0) / 6) := by
  cases k <;> norm_num [Sector.index, Sector.next]

/-- **The colour of a hue, by its sector.** -/
theorem hsvToRgb_sector (k : Sector) {x : ℚ} (h0 : 0 ≤ x) (h1 : x ≤ 1) (s v : ℚ) :
    hsvToRgb id (Int.fract ((k.index + x) / 6)) s v =
      k.place v (v * (1 - s * (1 - k.turn x))) (v * (1 - s)) := by
  rcases h1.lt_or_eq with hlt | rfl
  · exact hsvToRgb_open k h0 hlt
  · rw [sector_end, hsvToRgb_open k.next (le_refl 0) one_pos]
    cases k <;> simp [Sector.place, Sector.turn, Sector.next]

end FromHsv

/-! ### Whole degrees -/

/-- A hue rounded to whole degrees stays in its closed sector, and where it was on an end. -/
theorem rounded_hue (k : Sector) {x : ℚ} (h0 : 0 ≤ x) (h1 : x ≤ 1) :
    ∃ y, 0 ≤ y ∧ y ≤ 1 ∧ |y - x| ≤ 1 / 120 ∧ (x = 0 → y = 0) ∧ (x = 1 → y = 1) ∧
      Int.fract ((roundHalfEven (Int.fract ((k.index + x) / 6) * 360) : ℚ) / 360) =
        Int.fract ((k.index + y) / 6) := by
  have hrange := k.index_range
  by_cases hturn : k.index + x = 6
  · -- a whole turn, which is no turn
    have hx : x = 1 := by linarith
    subst hx
    refine ⟨1, zero_le_one, le_refl _, by norm_num, fun h => absurd h one_ne_zero, fun _ => rfl, ?_⟩
    have hzero := roundHalfEven_intCast 0
    rw [Int.cast_zero] at hzero
    rw [hturn]
    norm_num [hzero]
  · have hlt : k.index + x < 6 := lt_of_le_of_ne (by linarith) hturn
    have hfract : Int.fract ((k.index + x) / 6) = (k.index + x) / 6 := by
      rw [Int.fract_eq_self, div_nonneg_iff, div_lt_one (by norm_num)]
      exact ⟨Or.inl ⟨by linarith, by norm_num⟩, hlt⟩
    have hdegrees : (k.index + x) / 6 * 360 = 60 * (k.index + x) := by ring
    rw [hfract, hdegrees]
    obtain ⟨i, hi⟩ := k.index_int
    have hwhole : ∀ j : ℤ, 60 * (k.index + x) = j → roundHalfEven (60 * (k.index + x)) = j := by
      intro j hj
      rw [hj, roundHalfEven_intCast]
    obtain ⟨hlow, hhigh⟩ := roundHalfEven_bounds (60 * (k.index + x)) (60 * i) (60 * i + 60)
      (by push_cast; linarith) (by push_cast; linarith)
    have hlow' : 60 * k.index ≤ roundHalfEven (60 * (k.index + x)) := by
      have hcast : ((60 * i : ℤ) : ℚ) ≤ roundHalfEven (60 * (k.index + x)) := Int.cast_le.mpr hlow
      push_cast at hcast
      rwa [hi] at hcast
    have hhigh' : (roundHalfEven (60 * (k.index + x)) : ℚ) ≤ 60 * k.index + 60 := by
      have hcast : (roundHalfEven (60 * (k.index + x)) : ℚ) ≤ ((60 * i + 60 : ℤ) : ℚ) :=
        Int.cast_le.mpr hhigh
      push_cast at hcast
      rwa [hi] at hcast
    have hnear := abs_le.mp (abs_sub_roundHalfEven (60 * (k.index + x)))
    refine ⟨roundHalfEven (60 * (k.index + x)) / 60 - k.index, by linarith, by linarith, ?_, ?_, ?_, ?_⟩
    · rw [abs_le]
      constructor
      · linarith [hnear.2]
      · linarith [hnear.1]
    · rintro rfl
      rw [hwhole (60 * i) (by push_cast; rw [hi]; ring)]
      push_cast
      rw [hi]
      ring
    · rintro rfl
      rw [hwhole (60 * i + 60) (by push_cast; rw [hi]; ring)]
      push_cast
      rw [hi]
      ring
    · congr 1
      ring

/-! ### Errors -/

/-- What the errors of value, saturation and progress come to in the middle channel. -/
theorem middle_error {v v' s s' x x' ε δ : ℚ} (hv : |v' - v| ≤ ε) (hs : |s' - s| ≤ ε)
    (hx : |x' - x| ≤ δ) (hv0 : 0 ≤ v) (hv1 : v ≤ 1) (hs0 : 0 ≤ s) (hs1 : s ≤ 1) (hs0' : 0 ≤ s')
    (hs1' : s' ≤ 1) (hx0 : 0 ≤ x') (hx1 : x' ≤ 1) :
    |v' * (1 - s' * (1 - x')) - v * (1 - s * (1 - x))| ≤ 2 * ε + δ := by
  have hsplit : v' * (1 - s' * (1 - x')) - v * (1 - s * (1 - x)) =
      (v' - v) * (1 - s' * (1 - x')) + (v * (1 - x') * (s - s') + v * s * (x' - x)) := by ring
  have hε : 0 ≤ ε := (abs_nonneg _).trans hv
  have hδ : 0 ≤ δ := (abs_nonneg _).trans hx
  have hfactor : |1 - s' * (1 - x')| ≤ 1 := by
    rw [abs_le]
    constructor
    · nlinarith
    · nlinarith
  have hvalue : |(v' - v) * (1 - s' * (1 - x'))| ≤ ε := by
    rw [abs_mul]
    calc |v' - v| * |1 - s' * (1 - x')| ≤ ε * 1 := mul_le_mul hv hfactor (abs_nonneg _) hε
      _ = ε := mul_one ε
  have hsaturation : |v * (1 - x') * (s - s')| ≤ ε := by
    have hweight : |v * (1 - x')| ≤ 1 := by
      rw [abs_le]
      constructor
      · nlinarith
      · nlinarith
    rw [abs_mul, abs_sub_comm s s']
    calc |v * (1 - x')| * |s' - s| ≤ 1 * ε := mul_le_mul hweight hs (abs_nonneg _) zero_le_one
      _ = ε := one_mul ε
  have hprogress : |v * s * (x' - x)| ≤ δ := by
    have hweight : |v * s| ≤ 1 := by
      rw [abs_le]
      constructor
      · nlinarith
      · nlinarith
    rw [abs_mul]
    calc |v * s| * |x' - x| ≤ 1 * δ := mul_le_mul hweight hx (abs_nonneg _) zero_le_one
      _ = δ := one_mul δ
  rw [hsplit]
  calc |(v' - v) * (1 - s' * (1 - x')) + (v * (1 - x') * (s - s') + v * s * (x' - x))|
      ≤ |(v' - v) * (1 - s' * (1 - x'))| + |v * (1 - x') * (s - s') + v * s * (x' - x)| :=
        abs_add_le _ _
    _ ≤ |(v' - v) * (1 - s' * (1 - x'))| + (|v * (1 - x') * (s - s')| + |v * s * (x' - x)|) := by
        gcongr
        exact abs_add_le _ _
    _ ≤ 2 * ε + δ := by linarith

end Py
