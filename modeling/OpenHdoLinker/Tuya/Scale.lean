import OpenHdoLinker.Tuya.Light

/-!
# Two scales for one value

A light value is a byte here and an integer of a configured range on the device.  To the device it is
rounded half down, in integers; back it is rounded half to even.  With `span = max - min`

    min + (value * span + 127) // 255        round((n - min) * 255 / span)

are monotone, map end points to end points, and undo each other in the direction in which the
scale gets finer.

    FaithfulScaling m.brightnessMin m.brightnessMax …     (scaling_faithful)
-/

namespace Linker

open Py

/-! ## Statement -/

/-- A pair of conversions between the bytes and the range from `low` to `high`. -/
structure FaithfulScaling (low high : Nat) (toDp fromDp : Int → Except PyErr Int) : Prop where
  toDp_range : ∀ v, 0 ≤ v → v ≤ 255 → ∃ n, toDp v = .ok n ∧ (low : Int) ≤ n ∧ n ≤ high
  fromDp_range : ∀ n, (low : Int) ≤ n → n ≤ high → ∃ v, fromDp n = .ok v ∧ 0 ≤ v ∧ v ≤ 255
  toDp_mono : ∀ v v' n n', v ≤ v' → toDp v = .ok n → toDp v' = .ok n' → n ≤ n'
  fromDp_mono : ∀ n n' v v', n ≤ n' → fromDp n = .ok v → fromDp n' = .ok v' → v ≤ v'
  toDp_ends : toDp 0 = .ok low ∧ toDp 255 = .ok high
  fromDp_ends : fromDp low = .ok 0 ∧ fromDp high = .ok 255
  fromDp_toDp : 255 ≤ (high : Int) - low → ∀ v, 0 ≤ v → v ≤ 255 → toDp v >>= fromDp = .ok v
  toDp_fromDp : (high : Int) - low ≤ 255 → ∀ n, (low : Int) ≤ n → n ≤ high →
    fromDp n >>= toDp = .ok n

/-! ## Lemmas -/

section Scales

variable {low high : Nat}

theorem scaleToDp_iff (name : String) (value n : Int) : scaleToDp name low high value = .ok n ↔
    (0 ≤ value ∧ value ≤ 255) ∧ n = low + (value * (high - low) + 127) / 255 := by
  show (boundedInt name value 0 255 >>= fun value =>
    Except.ok (low + (value * (high - low) + 127) / 255)) = _ ↔ _
  unfold boundedInt
  by_cases hvalue : 0 ≤ value ∧ value ≤ 255
  · rw [if_pos hvalue]
    exact ⟨fun h => ⟨hvalue, (Except.ok.inj h).symm⟩, fun h => congrArg Except.ok h.2.symm⟩
  · rw [if_neg hvalue]
    exact ⟨nofun, fun h => absurd h.1 hvalue⟩

theorem scaleFromDp_iff (name : String) (n v : Int) : scaleFromDp name low high (.int n) = .ok v ↔
    ((low : Int) ≤ n ∧ n ≤ high) ∧
      v = roundHalfEven (((n - low) * 255 : Int) / ((high - low : Int) : ℚ)) := by
  show (if (low : Int) ≤ n ∧ n ≤ high then
    Except.ok (roundHalfEven (((n - low) * 255 : Int) / ((high - low : Int) : ℚ))) else
    Except.error _) = _ ↔ _
  by_cases hn : (low : Int) ≤ n ∧ n ≤ high
  · rw [if_pos hn]
    exact ⟨fun h => ⟨hn, (Except.ok.inj h).symm⟩, fun h => congrArg Except.ok h.2.symm⟩
  · rw [if_neg hn]
    exact ⟨nofun, fun h => absurd h.1 hn⟩

/-- A value of the device is at most half a step of the byte scale away from the byte it is read
as, so a narrow range gives it back. -/
theorem narrow_scale {span d : Int} (hpos : 0 < span) (hspan : span ≤ 255) :
    (roundHalfEven ((d * 255 : Int) / (span : ℚ)) * span + 127) / 255 = d := by
  have hspan₀ : (0 : ℚ) < span := by exact_mod_cast hpos
  have habs := abs_le.mp (abs_sub_roundHalfEven ((d * 255 : Int) / (span : ℚ)))
  generalize roundHalfEven ((d * 255 : Int) / (span : ℚ)) = r at habs
  have hmul : ((d * 255 : Int) / (span : ℚ)) * span = d * 255 := by
    rw [div_mul_cancel₀ _ hspan₀.ne']
    push_cast
    ring
  have hlow : (d * 255 : ℚ) - r * span ≤ span / 2 := by nlinarith [habs.2]
  have hhigh : -((span : ℚ) / 2) ≤ d * 255 - r * span := by nlinarith [habs.1]
  have hlow' : 2 * (d * 255 - r * span) ≤ span := by
    have : (2 : ℚ) * (d * 255 - r * span) ≤ span := by linarith
    exact_mod_cast this
  have hhigh' : -span ≤ 2 * (d * 255 - r * span) := by
    have : -(span : ℚ) ≤ 2 * (d * 255 - r * span) := by linarith
    exact_mod_cast this
  generalize r * span = product at hlow' hhigh'
  omega

/-- **Both conversions of a range are faithful.** -/
theorem faithful_scale (name : String) (hlt : low < high) :
    FaithfulScaling low high (scaleToDp name low high)
      fun n => scaleFromDp name low high (.int n) := by
  have hspan : (0 : Int) < high - low := by omega
  have hspan₀ : (0 : ℚ) < ((high - low : Int) : ℚ) := by exact_mod_cast hspan
  constructor
  case toDp_range =>
    intro v h0 h255
    refine ⟨_, (scaleToDp_iff name v _).mpr ⟨⟨h0, h255⟩, rfl⟩, ?_⟩
    have hprod₀ : 0 ≤ v * (high - low) := Int.mul_nonneg h0 hspan.le
    have hprod₁ : v * (high - low) ≤ 255 * (high - low) :=
      Int.mul_le_mul_of_nonneg_right h255 hspan.le
    generalize v * ((high : Int) - low) = product at hprod₀ hprod₁
    omega
  case fromDp_range =>
    intro n hlow hhigh
    have hn := (scaleFromDp_iff name n _).mpr ⟨⟨hlow, hhigh⟩, rfl⟩
    exact ⟨_, hn, scaleFromDp_range hlt hn⟩
  case toDp_mono =>
    intro v v' n n' hle hn hn'
    obtain ⟨-, rfl⟩ := (scaleToDp_iff name v n).mp hn
    obtain ⟨-, rfl⟩ := (scaleToDp_iff name v' n').mp hn'
    have hprod : v * (high - low) ≤ v' * (high - low) := Int.mul_le_mul_of_nonneg_right hle hspan.le
    have hdiv := Int.ediv_le_ediv (c := 255) (by decide) (Int.add_le_add_right hprod 127)
    exact Int.add_le_add_left hdiv low
  case fromDp_mono =>
    intro n n' v v' hle hv hv'
    obtain ⟨-, rfl⟩ := (scaleFromDp_iff name n v).mp hv
    obtain ⟨-, rfl⟩ := (scaleFromDp_iff name n' v').mp hv'
    apply roundHalfEven_mono
    apply div_le_div_of_nonneg_right _ hspan₀.le
    exact_mod_cast (show (n - low) * 255 ≤ (n' - low) * 255 by omega)
  case toDp_ends =>
    constructor
    · rw [scaleToDp_iff]
      omega
    · rw [scaleToDp_iff]
      omega
  case fromDp_ends =>
    refine ⟨scaleFromDp_low name low high hlt.le, (scaleFromDp_iff name _ _).mpr ⟨by omega, ?_⟩⟩
    have hratio : (((high - low) * 255 : Int) : ℚ) / ((high - low : Int) : ℚ) = (255 : Int) := by
      rw [div_eq_iff hspan₀.ne']
      push_cast
      ring
    rw [hratio, roundHalfEven_intCast]
  case fromDp_toDp =>
    intro hwide v h0 h255
    obtain ⟨w, hw, hback⟩ : ∃ w, scaleToDp name low high v = .ok w ∧
        scaleFromDp name low high (.int w) = .ok v := scaleFromDp_toDp name (by omega) ⟨h0, h255⟩
    rw [hw]
    exact hback
  case toDp_fromDp =>
    intro hnarrow n hlow hhigh
    have hn := (scaleFromDp_iff name n _).mpr ⟨⟨hlow, hhigh⟩, rfl⟩
    rw [hn]
    show scaleToDp name low high _ = _
    rw [scaleToDp_iff]
    refine ⟨scaleFromDp_range hlt hn, ?_⟩
    rw [narrow_scale hspan hnarrow]
    omega

end Scales

/-! ## Main result -/

/-- **Brightness and white are scaled faithfully**, for every mapping. -/
theorem scaling_faithful (m : TuyaDpMapping) :
    FaithfulScaling m.brightnessMin m.brightnessMax m.brightnessToDp
        (fun n => m.brightnessFromDp (.int n)) ∧
      ∀ w ∈ m.white, FaithfulScaling w.min w.max m.whiteToDp fun n => m.whiteFromDp (.int n) := by
  refine ⟨faithful_scale "brightness" m.range_ok.1, fun w hw => ?_⟩
  have hto : m.whiteToDp = scaleToDp "white" w.min w.max := by
    funext value
    unfold TuyaDpMapping.whiteToDp
    rw [Option.mem_def.mp hw]
  have hfrom : (fun n => m.whiteFromDp (.int n)) = fun n => scaleFromDp "white" w.min w.max (.int n) := by
    funext n
    unfold TuyaDpMapping.whiteFromDp
    rw [Option.mem_def.mp hw]
  rw [hto, hfrom]
  exact faithful_scale "white" w.range_ok.1

end Linker
