import Mathlib.Data.Rat.Floor
import Mathlib.Order.Interval.Set.OrdConnected
import Mathlib.Tactic.Linarith

/-!
# Colour spaces

The formulas of the standard module `colorsys`, in an arithmetic that rounds the result of every
operation by `fl`: `binary64` for the floats of Python, `id` for exact rationals.

    channels of hsvToRgb fl h s v in I ↔ v ∈ I ∧ fl (v * fl (1 - s)) ∈ I     (hsvToRgb_mem_iff)
-/

namespace Py

/-! ## Definitions -/

section Formulas

variable (fl : ℚ → ℚ)

/-- `colorsys.rgb_to_hsv(r, g, b)`. -/
def rgbToHsv (r g b : ℚ) : ℚ × ℚ × ℚ :=
  let maxc := max r (max g b)
  let minc := min r (min g b)
  let rangec := fl (maxc - minc)
  if minc = maxc then (0, 0, maxc)
  else
    let s := fl (rangec / maxc)
    let rc := fl (fl (maxc - r) / rangec)
    let gc := fl (fl (maxc - g) / rangec)
    let bc := fl (fl (maxc - b) / rangec)
    let h := if r = maxc then fl (bc - gc)
      else if g = maxc then fl (fl (2 + rc) - bc)
      else fl (fl (4 + gc) - rc)
    (fl (Int.fract (fl (h / 6))), s, maxc)

/-- `int(x)`: towards zero. -/
def truncate (x : ℚ) : ℤ := x.num.tdiv x.den

/-- `colorsys.hsv_to_rgb(h, s, v)`. -/
def hsvToRgb (h s v : ℚ) : ℚ × ℚ × ℚ :=
  if s = 0 then (v, v, v)
  else
    let i := truncate (fl (h * 6))
    let f := fl (fl (h * 6) - i)
    let p := fl (v * fl (1 - s))
    let q := fl (v * fl (1 - fl (s * f)))
    let t := fl (v * fl (1 - fl (s * fl (1 - f))))
    match i % 6 with
    | 0 => (v, t, p)
    | 1 => (q, v, p)
    | 2 => (p, v, t)
    | 3 => (p, q, v)
    | 4 => (t, p, v)
    | _ => (v, p, q)

end Formulas

theorem truncate_eq_floor {x : ℚ} (hx : 0 ≤ x) : truncate x = ⌊x⌋ := by
  unfold truncate
  rw [Rat.floor_def', Int.tdiv_eq_ediv_of_nonneg (Rat.num_nonneg.mpr hx)]

/-! ## Where the channels lie -/

section Channels

variable {fl : ℚ → ℚ} (hmono : Monotone fl) (h0 : fl 0 = 0) (h1 : fl 1 = 1)
include hmono

/-- Rounding keeps between floats. -/
theorem fl_mem_uIcc {a b x : ℚ} (ha : fl a = a) (hb : fl b = b) (hx : x ∈ Set.uIcc a b) :
    fl x ∈ Set.uIcc a b := by
  have h := hmono.mapsTo_uIcc hx
  rwa [ha, hb] at h

include h0 h1

/-- The channels in between: the saturation taken in part. -/
theorem partly_mem_uIcc {f s v : ℚ} (hf0 : 0 ≤ f) (hf1 : f ≤ 1) (hs : fl s = s) (hv : fl v = v) :
    fl (v * fl (1 - fl (s * f))) ∈ Set.uIcc (fl (v * fl (1 - s))) v := by
  have hpart : s * f ∈ Set.uIcc 0 s := by
    rcases le_total 0 s with hs0 | hs0
    · rw [Set.uIcc_of_le hs0]
      exact ⟨mul_nonneg hs0 hf0, mul_le_of_le_one_right hs0 hf1⟩
    · rw [Set.uIcc_of_ge hs0]
      exact ⟨by nlinarith, mul_nonpos_of_nonpos_of_nonneg hs0 hf0⟩
  have hrest : 1 - fl (s * f) ∈ Set.uIcc (1 - s) 1 := by
    have h := Set.mem_uIcc.mp (fl_mem_uIcc hmono h0 hs hpart)
    rw [Set.mem_uIcc]
    rcases h with h | h
    · exact Or.inl ⟨by linarith, by linarith⟩
    · exact Or.inr ⟨by linarith, by linarith⟩
  have hround := hmono.mapsTo_uIcc hrest
  rw [h1] at hround
  have hproduct : v * fl (1 - fl (s * f)) ∈ Set.uIcc (v * fl (1 - s)) v := by
    rw [Set.mem_uIcc] at hround ⊢
    rcases le_total 0 v with hv0 | hv0
    · rcases hround with h | h
      · exact Or.inl ⟨by nlinarith, by nlinarith⟩
      · exact Or.inr ⟨by nlinarith, by nlinarith⟩
    · rcases hround with h | h
      · exact Or.inr ⟨by nlinarith, by nlinarith⟩
      · exact Or.inl ⟨by nlinarith, by nlinarith⟩
  have h := hmono.mapsTo_uIcc hproduct
  rwa [hv] at h

/-- Whatever the hue, the channels lie between `v` and `v * (1 - s)`, and two of them are these. -/
theorem hsvToRgb_mem_iff {I : Set ℚ} [hI : I.OrdConnected] {h s v : ℚ} (hh : 0 ≤ h) (hs : fl s = s)
    (hv : fl v = v) :
    ((hsvToRgb fl h s v).1 ∈ I ∧ (hsvToRgb fl h s v).2.1 ∈ I ∧ (hsvToRgb fl h s v).2.2 ∈ I) ↔
      v ∈ I ∧ fl (v * fl (1 - s)) ∈ I := by
  unfold hsvToRgb
  by_cases hs0 : s = 0
  · rw [if_pos hs0, hs0, sub_zero, h1, mul_one, hv]
    exact ⟨fun h => ⟨h.1, h.1⟩, fun h => ⟨h.1, h.1, h.1⟩⟩
  · have hsixths : 0 ≤ fl (h * 6) := by
      have hle := hmono (show 0 ≤ h * 6 by linarith)
      rwa [h0] at hle
    rw [if_neg hs0, truncate_eq_floor hsixths]
    dsimp only
    have hfract : fl (h * 6) - ⌊fl (h * 6)⌋ = Int.fract (fl (h * 6)) := rfl
    rw [hfract]
    have hunit : ∀ x, 0 ≤ x → x ≤ 1 → 0 ≤ fl x ∧ fl x ≤ 1 := by
      intro x hx0 hx1
      have hlow := hmono hx0
      have hhigh := hmono hx1
      rw [h0] at hlow
      rw [h1] at hhigh
      exact ⟨hlow, hhigh⟩
    obtain ⟨hf0, hf1⟩ := hunit _ (Int.fract_nonneg (fl (h * 6))) (Int.fract_lt_one (fl (h * 6))).le
    generalize fl (Int.fract (fl (h * 6))) = f at hf0 hf1
    obtain ⟨hg0, hg1⟩ := hunit (1 - f) (by linarith) (by linarith)
    have hbetween : v ∈ I → fl (v * fl (1 - s)) ∈ I →
        fl (v * fl (1 - fl (s * f))) ∈ I ∧ fl (v * fl (1 - fl (s * fl (1 - f)))) ∈ I := by
      intro hvI hpI
      have hsub := hI.uIcc_subset hpI hvI
      exact ⟨hsub (partly_mem_uIcc hmono h0 h1 hf0 hf1 hs hv),
        hsub (partly_mem_uIcc hmono h0 h1 hg0 hg1 hs hv)⟩
    split
    · exact ⟨fun h => ⟨h.1, h.2.2⟩, fun h => ⟨h.1, (hbetween h.1 h.2).2, h.2⟩⟩
    · exact ⟨fun h => ⟨h.2.1, h.2.2⟩, fun h => ⟨(hbetween h.1 h.2).1, h.1, h.2⟩⟩
    · exact ⟨fun h => ⟨h.2.1, h.1⟩, fun h => ⟨h.2, h.1, (hbetween h.1 h.2).2⟩⟩
    · exact ⟨fun h => ⟨h.2.2, h.1⟩, fun h => ⟨h.2, (hbetween h.1 h.2).1, h.1⟩⟩
    · exact ⟨fun h => ⟨h.2.2, h.2.1⟩, fun h => ⟨(hbetween h.1 h.2).2, h.2, h.1⟩⟩
    · exact ⟨fun h => ⟨h.1, h.2.1⟩, fun h => ⟨h.1, h.2, (hbetween h.1 h.2).1⟩⟩

end Channels

end Py
