import OpenHdoLinker.Lib.Hsv
import OpenHdoLinker.Tuya.ColorText

/-!
# A colour over the wire in hue, saturation and value

Under `hsv_hex` a colour is sent as whole degrees and thousandths.  Value and saturation are precise
enough for the largest and the smallest channel, and whole degrees keep to the sector of the hue, so
the order of the channels is kept; a degree is worth up to 255 / 60 of the channel between.  In exact
arithmetic.

    decodeColorIn id (encodeColorIn id c) = .ok d with d.largest = c.largest, d.smallest = c.smallest and
      |d.get i - c.get i| ≤ 2                                                (hsv_transport)
-/

namespace Linker

open Py

/-! ## Statement -/

inductive Channel
  | red
  | green
  | blue

def Rgb.get (c : Rgb) : Channel → Nat
  | .red => c.r
  | .green => c.g
  | .blue => c.b

def Rgb.largest (c : Rgb) : Nat := Nat.max c.r (Nat.max c.g c.b)

def Rgb.smallest (c : Rgb) : Nat := Nat.min c.r (Nat.min c.g c.b)

/-- What is lost of a colour on the way: at most 2 of a channel, and nothing of the largest and the
smallest, nor of which they are. -/
structure Transported (c d : Rgb) : Prop where
  largest : d.largest = c.largest
  smallest : d.smallest = c.smallest
  keepsLargest : ∀ i, c.get i = c.largest → d.get i = d.largest
  keepsSmallest : ∀ i, c.get i = c.smallest → d.get i = d.smallest
  near : ∀ i, d.get i ≤ c.get i + 2 ∧ c.get i ≤ d.get i + 2

/-! ## Lemmas -/

/-! ### Placed colours -/

theorem exists_placed (k : Sector) {hi mid lo : Nat} (hhi : hi ≤ 255) (hmid : mid ≤ 255)
    (hlo : lo ≤ 255) : ∃ d : Rgb, (d.r, d.g, d.b) = k.place hi mid lo := by
  cases k
  · exact ⟨⟨hi, mid, lo, hhi, hmid, hlo⟩, rfl⟩
  · exact ⟨⟨mid, hi, lo, hmid, hhi, hlo⟩, rfl⟩
  · exact ⟨⟨lo, hi, mid, hlo, hhi, hmid⟩, rfl⟩
  · exact ⟨⟨lo, mid, hi, hlo, hmid, hhi⟩, rfl⟩
  · exact ⟨⟨mid, lo, hi, hmid, hlo, hhi⟩, rfl⟩
  · exact ⟨⟨hi, lo, mid, hhi, hlo, hmid⟩, rfl⟩

theorem placed_extremes {c : Rgb} {k : Sector} {hi mid lo : Nat}
    (hc : (c.r, c.g, c.b) = k.place hi mid lo) (hlo : lo ≤ mid) (hhi : mid ≤ hi) :
    c.largest = hi ∧ c.smallest = lo := by
  have hle := hlo.trans hhi
  unfold Rgb.largest Rgb.smallest
  show max c.r (max c.g c.b) = hi ∧ min c.r (min c.g c.b) = lo
  cases k <;> obtain ⟨hr, hg, hb⟩ : _ ∧ _ ∧ _ := by
      simpa only [Sector.place, Prod.mk.injEq] using hc
  all_goals rw [hr, hg, hb]; simp [hlo, hhi, hle]

/-- Two colours in one sector that differ in the middle channel only. -/
theorem transported_of_place {c d : Rgb} {k : Sector} {hi mid mid' lo : Nat}
    (hc : (c.r, c.g, c.b) = k.place hi mid lo) (hd : (d.r, d.g, d.b) = k.place hi mid' lo)
    (hlo : lo ≤ mid) (hhi : mid ≤ hi) (hlo' : lo ≤ mid') (hhi' : mid' ≤ hi)
    (htop : mid = hi → mid' = hi) (hbottom : mid = lo → mid' = lo)
    (hnear : mid' ≤ mid + 2 ∧ mid ≤ mid' + 2) : Transported c d := by
  obtain ⟨hcl, hcs⟩ := placed_extremes hc hlo hhi
  obtain ⟨hdl, hds⟩ := placed_extremes hd hlo' hhi'
  have hchannels : ∀ i, (c.get i = hi ∧ d.get i = hi) ∨ (c.get i = mid ∧ d.get i = mid') ∨
      (c.get i = lo ∧ d.get i = lo) := by
    intro i
    cases k <;> simp only [Sector.place, Prod.mk.injEq] at hc hd <;> cases i <;>
      simp only [Rgb.get, hc, hd, and_self, true_or, or_true]
  refine ⟨hdl.trans hcl.symm, hds.trans hcs.symm, fun i hi' => ?_, fun i hi' => ?_, fun i => ?_⟩
  · rw [hcl] at hi'
    rw [hdl]
    rcases hchannels i with ⟨h, h'⟩ | ⟨h, h'⟩ | ⟨h, h'⟩ <;> omega
  · rw [hcs] at hi'
    rw [hds]
    rcases hchannels i with ⟨h, h'⟩ | ⟨h, h'⟩ | ⟨h, h'⟩ <;> omega
  · rcases hchannels i with ⟨h, h'⟩ | ⟨h, h'⟩ | ⟨h, h'⟩ <;> omega

/-! ### The words -/

/-- A word is read back. -/
theorem hexInt_word (n : Nat) : hexInt (hexDigits 4 n) = .ok n := by
  unfold hexInt
  rw [show parseInt 16 (String.ofList (hexDigits 4 n)) = some (n : Int) from parseInt_hexPad 4 n]

theorem slice_words {a b c : List Char} (ha : a.length = 4) (hb : b.length = 4) (hc : c.length = 4) :
    sliceChars (a ++ (b ++ c)) 0 4 = a ∧ sliceChars (a ++ (b ++ c)) 4 8 = b ∧
      sliceChars (a ++ (b ++ c)) 8 12 = c := by
  unfold sliceChars
  refine ⟨?_, ?_, ?_⟩
  · rw [List.drop_zero, List.take_left' ha]
  · rw [List.take_append, ha, List.take_of_length_le (by omega : a.length ≤ 8), List.take_left' hb,
      List.drop_left' ha]
  · rw [List.take_of_length_le (by simp only [List.length_append]; omega), ← List.append_assoc,
      List.drop_left' (by rw [List.length_append]; omega)]

/-- The text of three words is read as the colour of the words. -/
theorem decodeColor_words {m : TuyaDpMapping} (hformat : m.colorFormat = .hsvHex) {h s v : Nat}
    (hh : h < 16 ^ 4) (hs : s < 16 ^ 4) (hv : v < 16 ^ 4) :
    m.decodeColorIn id (.str (hexPad 4 h ++ hexPad 4 s ++ hexPad 4 v)) =
      roundedRgb id (wordChannels id h s v).1 (wordChannels id h s v).2.1
        (wordChannels id h s v).2.2 := by
  have hlen : ∀ {n : Nat}, n < 16 ^ 4 → (hexDigits 4 n).length = 4 := length_hexDigits (by decide)
  have htext : (hexPad 4 h ++ hexPad 4 s ++ hexPad 4 v).toList =
      hexDigits 4 h ++ (hexDigits 4 s ++ hexDigits 4 v) := by
    rw [String.toList_append, String.toList_append, List.append_assoc]
    simp only [hexPad, String.toList_ofList]
  obtain ⟨h₁, h₂, h₃⟩ := slice_words (hlen hh) (hlen hs) (hlen hv)
  have htwelve : (hexDigits 4 h ++ (hexDigits 4 s ++ hexDigits 4 v)).length = 12 := by
    rw [List.length_append, List.length_append, hlen hh, hlen hs, hlen hv]
  unfold TuyaDpMapping.decodeColorIn
  simp only [Json.str?, hformat]
  unfold TuyaDpMapping.decodeHsvHex
  rw [htext, if_neg (not_not.mpr htwelve), h₁, h₂, h₃, hexInt_word, hexInt_word, hexInt_word]
  rfl

/-! ### What the words stand for -/

/-- A fraction in thousandths. -/
theorem thousandths {x : ℚ} (h0 : 0 ≤ x) (h1 : x ≤ 1) :
    (0 ≤ roundHalfEven (x * 1000) ∧ roundHalfEven (x * 1000) ≤ 1000) ∧
      |(roundHalfEven (x * 1000) : ℚ) / 1000 - x| ≤ 1 / 2000 ∧
      0 ≤ (roundHalfEven (x * 1000) : ℚ) / 1000 ∧ (roundHalfEven (x * 1000) : ℚ) / 1000 ≤ 1 := by
  have hbounds := roundHalfEven_bounds (x * 1000) 0 1000 (by push_cast; linarith)
    (by push_cast; linarith)
  have hlow : (0 : ℚ) ≤ roundHalfEven (x * 1000) := by exact_mod_cast hbounds.1
  have hhigh : (roundHalfEven (x * 1000) : ℚ) ≤ 1000 := by exact_mod_cast hbounds.2
  have hnear := abs_le.mp (abs_sub_roundHalfEven (x * 1000))
  refine ⟨hbounds, ?_, by linarith, by linarith⟩
  rw [abs_le]
  constructor
  · linarith [hnear.2]
  · linarith [hnear.1]

/-- The channels that words stand for, in the sector of a colour, and what they are rounded to. -/
structure Recovers (k : Sector) (hi mid lo : Nat) (channels : ℚ × ℚ × ℚ) : Prop where
  exact : ∃ v y p, channels = k.place v y p ∧ roundHalfEven (v * 255) = hi ∧
    roundHalfEven (p * 255) = lo ∧ (p ≤ y ∧ y ≤ v) ∧ (mid = hi → y = v) ∧ (mid = lo → y = p) ∧
    |y * 255 - mid| < 5 / 2

/-- A fraction near a channel rounds to it. -/
theorem rounds_to_channel {x : ℚ} {n : Nat} (h : |x - n / 255| ≤ 1 / 1000) :
    roundHalfEven (x * 255) = n := by
  have hnear := abs_le.mp h
  refine roundHalfEven_eq _ n ?_
  push_cast
  rw [abs_lt]
  constructor
  · linarith [hnear.1]
  · linarith [hnear.2]

/-- A grey is recovered from its value alone. -/
theorem recovers_grey (k : Sector) {n : Nat} (hn : n ≤ 255) (hue : Int) :
    Recovers k n n n (wordChannels id hue 0 (roundHalfEven ((n : ℚ) / 255 * 1000))) := by
  have hcast : (n : ℚ) ≤ 255 := by exact_mod_cast hn
  have hpos : (0 : ℚ) ≤ n := Nat.cast_nonneg n
  obtain ⟨-, herror, -⟩ := thousandths (x := (n : ℚ) / 255) (by linarith) (by linarith)
  have hround := rounds_to_channel (herror.trans (by norm_num))
  have hnear := abs_le.mp herror
  refine ⟨_, _, _, ?_, hround, hround, ⟨le_refl _, le_refl _⟩, fun _ => rfl, fun _ => rfl, ?_⟩
  · unfold wordChannels hsvToRgb
    rw [if_pos (by norm_num)]
    cases k <;> rfl
  · rw [abs_lt]
    constructor
    · linarith [hnear.1]
    · linarith [hnear.2]

theorem turn_end (k : Sector) {e : ℚ} (he : e = 0 ∨ e = 1) : k.turn e = 0 ∨ k.turn e = 1 := by
  rcases he with rfl | rfl
  · cases k <;> norm_num [Sector.turn]
  · cases k <;> norm_num [Sector.turn]

/-- What whole degrees make of the progress through a sector: the ends stay. -/
theorem rounded_progress (k : Sector) {x : ℚ} (h0 : 0 ≤ x) (h1 : x ≤ 1) :
    ∃ z, (0 ≤ z ∧ z ≤ 1) ∧ |z - x| ≤ 1 / 120 ∧ (∀ e, e = 0 ∨ e = 1 → x = e → z = e) ∧ ∀ s v,
      hsvToRgb id (Int.fract
        ((roundHalfEven (Int.fract ((k.index + k.turn x) / 6) * 360) : ℚ) / 360)) s v =
        k.place v (v * (1 - s * (1 - z))) (v * (1 - s)) := by
  obtain ⟨ht0, ht1⟩ := k.turn_mem h0 h1
  obtain ⟨y, hy0, hy1, hnear, hyzero, hyone, hyhue⟩ := rounded_hue k ht0 ht1
  refine ⟨k.turn y, k.turn_mem hy0 hy1, ?_, ?_, ?_⟩
  · rw [← k.turn_turn x, k.abs_turn_sub]
    exact hnear
  · rintro e he rfl
    have hy : y = k.turn x := by
      rcases turn_end k he with h | h
      · rw [hyzero h, h]
      · rw [hyone h, h]
    rw [hy, k.turn_turn]
  · intro s v
    rw [hyhue, hsvToRgb_sector k hy0 hy1]

/-- The lower channels of a colour, from its value, saturation and progress. -/
theorem lower_channels {hi mid lo : ℚ} (hhi : 0 < hi) (hlt : lo < hi) :
    hi / 255 * (1 - (hi - lo) / hi) = lo / 255 ∧
      hi / 255 * (1 - (hi - lo) / hi * (1 - progress hi mid lo)) = mid / 255 := by
  have hne : hi - lo ≠ 0 := (sub_pos.mpr hlt).ne'
  unfold progress
  constructor
  · field_simp
    ring
  · field_simp
    ring

/-- A colour that is no grey is recovered from its words. -/
theorem recovers_color (k : Sector) {hi mid lo : Nat} (hhi : hi ≤ 255) (hle : lo ≤ mid)
    (hle' : mid ≤ hi) (hlt : lo < hi) {hue saturation value : ℚ}
    (hhue : hue = Int.fract ((k.index + k.turn (progress hi mid lo)) / 6))
    (hsat : saturation = ((hi : ℚ) - lo) / hi) (hvalue : value = (hi : ℚ) / 255) :
    Recovers k hi mid lo (wordChannels id (roundHalfEven (hue * 360)) (roundHalfEven (saturation * 1000))
      (roundHalfEven (value * 1000))) := by
  have hhi₀ : (0 : ℚ) < hi := by exact_mod_cast (show 0 < hi by omega)
  have hhi₁ : (hi : ℚ) ≤ 255 := by exact_mod_cast hhi
  have hlo₀ : (0 : ℚ) ≤ lo := Nat.cast_nonneg lo
  have hlt' : (lo : ℚ) < hi := by exact_mod_cast hlt
  have hprogress : 0 ≤ progress (hi : ℚ) mid lo ∧ progress (hi : ℚ) mid lo ≤ 1 :=
    progress_mem (by exact_mod_cast hle) (by exact_mod_cast hle') hlt'
  obtain ⟨z, ⟨hz0, hz1⟩, hznear, hends, hchannels⟩ := rounded_progress k hprogress.1 hprogress.2
  have hs0 : 0 ≤ saturation := by
    rw [hsat]
    exact div_nonneg (by linarith) hhi₀.le
  have hs1 : saturation ≤ 1 := by
    rw [hsat, div_le_one hhi₀]
    linarith
  have hv0 : 0 ≤ value := by linarith
  have hv1 : value ≤ 1 := by linarith
  obtain ⟨-, hsnear, hs0', hs1'⟩ := thousandths hs0 hs1
  obtain ⟨-, hvnear, hv0', hv1'⟩ := thousandths hv0 hv1
  obtain ⟨hlow, hmid⟩ : value * (1 - saturation) = lo / 255 ∧
      value * (1 - saturation * (1 - progress hi mid lo)) = mid / 255 := by
    rw [hsat, hvalue]
    exact lower_channels hhi₀ hlt'
  unfold wordChannels
  simp only [id_eq]
  rw [hhue, hchannels]
  -- the words instead of the fractions, from here on
  generalize (roundHalfEven (value * 1000) : ℚ) / 1000 = v at hvnear hv0' hv1'
  generalize (roundHalfEven (saturation * 1000) : ℚ) / 1000 = s at hsnear hs0' hs1'
  have hlowError : |v * (1 - s * (1 - 0)) - value * (1 - saturation * (1 - 0))| ≤
      2 * (1 / 2000) + 0 :=
    middle_error hvnear hsnear (by norm_num) hv0 hv1 hs0 hs1 hs0' hs1' (le_refl _) zero_le_one
  have hmidError := middle_error hvnear hsnear hznear hv0 hv1 hs0 hs1 hs0' hs1' hz0 hz1
  rw [sub_zero, mul_one, mul_one, hlow] at hlowError
  rw [hmid] at hmidError
  rw [hvalue] at hvnear
  have hmn := abs_le.mp hmidError
  refine ⟨v, _, _, rfl, rounds_to_channel (hvnear.trans (by norm_num)),
    rounds_to_channel (hlowError.trans (by norm_num)), ⟨?_, ?_⟩, ?_, ?_, ?_⟩
  · have hgap : 0 ≤ v * s * z := mul_nonneg (mul_nonneg hv0' hs0') hz0
    linarith
  · have hgap : 0 ≤ v * s * (1 - z) := mul_nonneg (mul_nonneg hv0' hs0') (by linarith)
    linarith
  · rintro rfl
    rw [hends 1 (Or.inr rfl) (div_self (sub_pos.mpr hlt').ne'), sub_self, mul_zero, sub_zero, mul_one]
  · rintro rfl
    have hzero : progress (hi : ℚ) mid mid = 0 := by
      unfold progress
      rw [sub_self, zero_div]
    rw [hends 0 (Or.inl rfl) hzero, sub_zero, mul_one]
  · rw [abs_lt]
    constructor
    · linarith [hmn.1]
    · linarith [hmn.2]

/-! ### The words of a colour -/

/-- The words that a colour is sent as recover it. -/
theorem recovers_rgbToHsv {c : Rgb} {k : Sector} {hi mid lo : Nat}
    (hc : (c.r, c.g, c.b) = k.place hi mid lo) (hhi : hi ≤ 255) (hle : lo ≤ mid) (hle' : mid ≤ hi)
    {hue saturation value : ℚ}
    (hhsv : rgbToHsv id (c.r / 255) (c.g / 255) (c.b / 255) = (hue, saturation, value)) :
    ((0 ≤ hue ∧ hue ≤ 1) ∧ (0 ≤ saturation ∧ saturation ≤ 1) ∧ 0 ≤ value ∧ value ≤ 1) ∧
      Recovers k hi mid lo (wordChannels id (roundHalfEven (hue * 360))
        (roundHalfEven (saturation * 1000)) (roundHalfEven (value * 1000))) := by
  have hhi₁ : (hi : ℚ) ≤ 255 := by exact_mod_cast hhi
  have hhi₀ : (0 : ℚ) ≤ hi := Nat.cast_nonneg hi
  have hle₁ : (lo : ℚ) ≤ mid := by exact_mod_cast hle
  have hle₂ : (mid : ℚ) ≤ hi := by exact_mod_cast hle'
  have hscaled : ((c.r : ℚ) / 255, (c.g : ℚ) / 255, (c.b : ℚ) / 255) =
      k.place ((hi : ℚ) / 255) ((mid : ℚ) / 255) ((lo : ℚ) / 255) := by
    cases k <;> simp only [Sector.place, Prod.mk.injEq] at hc ⊢ <;> simp only [hc, and_self]
  have hplaced : rgbToHsv id (c.r / 255) (c.g / 255) (c.b / 255) =
      rgbToHsv id (k.place ((hi : ℚ) / 255) ((mid : ℚ) / 255) ((lo : ℚ) / 255)).1
        (k.place ((hi : ℚ) / 255) ((mid : ℚ) / 255) ((lo : ℚ) / 255)).2.1
        (k.place ((hi : ℚ) / 255) ((mid : ℚ) / 255) ((lo : ℚ) / 255)).2.2 := by
    rw [← hscaled]
  rw [hplaced] at hhsv
  have hle₁' : (lo : ℚ) / 255 ≤ (mid : ℚ) / 255 := by linarith
  have hle₂' : (mid : ℚ) / 255 ≤ (hi : ℚ) / 255 := by linarith
  rcases Nat.lt_or_ge lo hi with hlt | hge
  · have hlt₁ : (lo : ℚ) < hi := by exact_mod_cast hlt
    have hlo₀ : (0 : ℚ) ≤ lo := Nat.cast_nonneg lo
    have hpos : (0 : ℚ) < hi := by linarith
    have hratio : ((hi : ℚ) / 255 - (lo : ℚ) / 255) / ((hi : ℚ) / 255) = ((hi : ℚ) - lo) / hi := by
      rw [← sub_div, div_div_div_cancel_right₀ (by norm_num)]
    rw [rgbToHsv_place k (by linarith) hle₁' hle₂', progress_div _ _ _ (by norm_num), hratio] at hhsv
    obtain ⟨rfl, rfl, rfl⟩ : _ ∧ _ ∧ _ := by simpa only [Prod.mk.injEq] using hhsv
    refine ⟨⟨⟨Int.fract_nonneg _, (Int.fract_lt_one _).le⟩, ⟨div_nonneg (by linarith) hhi₀, ?_⟩,
      by linarith, by linarith⟩, recovers_color k hhi hle hle' hlt rfl rfl rfl⟩
    rw [div_le_one hpos]
    linarith
  · obtain rfl : lo = hi := by omega
    obtain rfl : mid = lo := by omega
    rw [rgbToHsv_grey] at hhsv
    obtain ⟨rfl, rfl, rfl⟩ : _ ∧ _ ∧ _ := by simpa only [Prod.mk.injEq] using hhsv
    refine ⟨⟨⟨le_refl _, zero_le_one⟩, ⟨le_refl _, zero_le_one⟩, by linarith, by linarith⟩, ?_⟩
    have hzero : roundHalfEven ((0 : ℚ) * 1000) = 0 := by
      rw [zero_mul]
      exact roundHalfEven_intCast 0
    rw [hzero]
    exact recovers_grey k hhi _

/-! ## Main result -/

/-- **Transport in hue, saturation and value loses almost nothing.** -/
theorem hsv_transport (m : TuyaDpMapping) (hformat : m.colorFormat = .hsvHex) (c : Rgb) :
    ∃ d, m.decodeColorIn id (.str (m.encodeColorIn id c)) = .ok d ∧ Transported c d := by
  obtain ⟨k, hi, mid, lo, hle, hle', hc⟩ := Sector.exists_place c.r c.g c.b
  have hhi : hi ≤ 255 := by
    have hlargest := (placed_extremes hc hle hle').1
    have hc255 : c.largest ≤ 255 := Nat.max_le.mpr ⟨c.r_le, Nat.max_le.mpr ⟨c.g_le, c.b_le⟩⟩
    omega
  obtain ⟨hue, saturation, value, hhsv⟩ : ∃ hue saturation value,
      rgbToHsv id (c.r / 255) (c.g / 255) (c.b / 255) = (hue, saturation, value) := ⟨_, _, _, rfl⟩
  obtain ⟨⟨hhue, hsat, hval⟩, hrecovers⟩ := recovers_rgbToHsv hc hhi hle hle' hhsv
  have hencode : m.encodeColorIn id c = hexPad 4 (roundHalfEven (hue * 360)).toNat ++
      hexPad 4 (roundHalfEven (saturation * 1000)).toNat ++
      hexPad 4 (roundHalfEven (value * 1000)).toNat := by
    unfold TuyaDpMapping.encodeColorIn
    simp only [hformat, id_eq, hhsv]
  have hhue' := roundHalfEven_bounds (hue * 360) 0 360 (by push_cast; linarith [hhue.1])
    (by push_cast; linarith [hhue.2])
  have hsat' := (thousandths hsat.1 hsat.2).1
  have hval' := (thousandths hval.1 hval.2).1
  rw [hencode, decodeColor_words hformat (by omega) (by omega) (by omega),
    Int.toNat_of_nonneg hhue'.1, Int.toNat_of_nonneg hsat'.1, Int.toNat_of_nonneg hval'.1]
  obtain ⟨v, y, p, hchannels, hv, hp, ⟨hpy, hyv⟩, htop, hbottom, hnear⟩ := hrecovers.exact
  have hlow : (lo : ℤ) ≤ roundHalfEven (y * 255) := hp ▸ roundHalfEven_mono (by linarith)
  have hhigh : roundHalfEven (y * 255) ≤ hi := hv ▸ roundHalfEven_mono (by linarith)
  obtain ⟨mid', hmid'⟩ : ∃ mid' : Nat, roundHalfEven (y * 255) = mid' :=
    ⟨_, (Int.toNat_of_nonneg (by omega)).symm⟩
  obtain ⟨d, hd⟩ := exists_placed k hhi (show mid' ≤ 255 by omega) (show lo ≤ 255 by omega)
  have hround := abs_le.mp (abs_sub_roundHalfEven (y * 255))
  have hnear' := abs_lt.mp hnear
  rw [hmid'] at hlow hhigh hround
  push_cast at hround
  have hfar : (mid' : ℚ) < mid + 3 ∧ (mid : ℚ) < mid' + 3 := by
    constructor
    · linarith [hround.1, hnear'.2]
    · linarith [hround.2, hnear'.1]
  have hfar' : mid' < mid + 3 ∧ mid < mid' + 3 := by exact_mod_cast hfar
  refine ⟨d, ?_, transported_of_place hc hd hle hle' (by omega) (by omega) ?_ ?_ (by omega)⟩
  · unfold roundedRgb
    rw [hchannels, rgbInit_iff]
    simp only [id_eq]
    cases k <;> simp only [Sector.place, Prod.mk.injEq] at hd ⊢ <;>
      simp only [hd, hv, hp, hmid', and_self]
  · intro h
    rw [htop h, hv] at hmid'
    exact_mod_cast hmid'.symm
  · intro h
    rw [hbottom h, hp] at hmid'
    exact_mod_cast hmid'.symm

/-- The lamp, with colours in hue, saturation and value. -/
def hsvMapping : TuyaDpMapping := { lampMapping with colorFormat := .hsvHex }

theorem orange_le : (255 : Nat) ≤ 255 ∧ (128 : Nat) ≤ 255 ∧ (3 : Nat) ≤ 255 := by decide

def orange : Rgb := ⟨255, 128, 3, orange_le.1, orange_le.2.1, orange_le.2.2⟩

theorem hsv_transport_orange :
    ∃ d, hsvMapping.decodeColorIn id (.str (hsvMapping.encodeColorIn id orange)) = .ok d ∧
      Transported orange d := hsv_transport hsvMapping rfl orange

end Linker
