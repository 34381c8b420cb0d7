import OpenHdoLinker.Lib.PyInt
import OpenHdoLinker.Tuya.Status

/-!
# Which texts are colours

`decode_color` hands slices of the text to `int(…, 16)`, which takes more than hexadecimal digits: a
sign, whitespace, underscores and the digits of other scripts.  Of a text of eight characters the last
two are in no slice.

    FollowsGrammar m text ↔ ¬ (Taken m text ∧ some character is no hexadecimal digit)
                                                                     (decodeColor_grammar_iff)
-/

namespace Linker

open Py

/-! ## Statement -/

/-- `string.hexdigits`. -/
def hexdigits : List Char :=
  ['0', '1', '2', '3', '4', '5', '6', '7', '8', '9', 'a', 'b', 'c', 'd', 'e', 'f', 'A', 'B', 'C', 'D',
   'E', 'F']

def isHexDigit (c : Char) : Bool := hexdigits.contains c

/-- The value of two digits. -/
def pairValue? (a b : Char) : Option Nat :=
  match digitValue? a, digitValue? b with
  | some x, some y => some (x * 16 + y)
  | _, _ => none

/-- The channels are the first three pairs of digits. -/
def ReadsPairs (rgb : Rgb) (cs : List Char) : Prop :=
  ∃ r₁ r₂ g₁ g₂ b₁ b₂ rest, cs = r₁ :: r₂ :: g₁ :: g₂ :: b₁ :: b₂ :: rest ∧
    pairValue? r₁ r₂ = some rgb.r ∧ pairValue? g₁ g₂ = some rgb.g ∧ pairValue? b₁ b₂ = some rgb.b

def Sized (cs : List Char) : ColorFormat → Prop
  | .rgbHex => cs.length = 6 ∨ cs.length = 8
  | .hsvHex => cs.length = 12

/-- The texts of the error messages: 6 or 8, or 12, hexadecimal digits. -/
def Strict (format : ColorFormat) (cs : List Char) : Prop := Sized cs format ∧ cs.all isHexDigit

/-- `decode_color` takes `rgb_hex` texts exactly by their grammar and as they read, and no other
`hsv_hex` texts than those of theirs. -/
structure FollowsGrammar (m : TuyaDpMapping) (text : String) : Prop where
  strict : ∀ rgb, m.decodeColor (.str text) = .ok rgb → Strict m.colorFormat text.toList
  taken : m.colorFormat = .rgbHex → Strict .rgbHex text.toList →
    ∃ rgb, m.decodeColor (.str text) = .ok rgb
  reads : m.colorFormat = .rgbHex → ∀ rgb, m.decodeColor (.str text) = .ok rgb →
    ReadsPairs rgb text.toList

/-- Saturation and value, in thousandths, whose channels round into a byte for every hue. -/
def InGamut (saturation value : Int) : Prop :=
  (-1 ≤ value ∧ value ≤ 1001) ∧
    -1000000 ≤ 510 * (value * (1000 - saturation)) ∧ 510 * (value * (1000 - saturation)) < 511000000

/-- The slices are integer literals of values that make a colour. -/
def Taken (format : ColorFormat) (cs : List Char) : Prop :=
  match format with
  | .rgbHex => (cs.length = 6 ∨ cs.length = 8) ∧ ∃ rgb : Rgb,
      HexLiteral (sliceChars cs 0 2) rgb.r ∧ HexLiteral (sliceChars cs 2 4) rgb.g ∧
        HexLiteral (sliceChars cs 4 6) rgb.b
  | .hsvHex => cs.length = 12 ∧ ∃ hue saturation value,
      HexLiteral (sliceChars cs 0 4) hue ∧ HexLiteral (sliceChars cs 4 8) saturation ∧
        HexLiteral (sliceChars cs 8 12) value ∧ InGamut saturation value

/-! ## Lemmas -/

/-! ### Slices -/

theorem hexInt_iff (cs : List Char) (n : Int) : hexInt cs = .ok n ↔ HexLiteral cs n := by
  rw [← parseInt_iff]
  unfold hexInt
  cases parseInt 16 (String.ofList cs) with
  | none => exact ⟨nofun, nofun⟩
  | some k => exact ⟨fun h => congrArg some (Except.ok.inj h), fun h => congrArg Except.ok (Option.some.inj h)⟩

/-- A literal has one value. -/
theorem HexLiteral.unique {cs : List Char} {n k : Int} (hn : HexLiteral cs n) (hk : HexLiteral cs k) :
    n = k :=
  Except.ok.inj (((hexInt_iff cs n).mpr hn).symm.trans ((hexInt_iff cs k).mpr hk))

theorem channel_eq {i : Int} {n : { n : Nat // n ≤ 255 }} (h : Rgb.channel? (.int i) = some n) :
    i = n.1 := by
  by_cases hi : 0 ≤ i ∧ i ≤ 255
  · rw [channel_int hi] at h
    cases h
    exact (Int.toNat_of_nonneg hi.1).symm
  · rw [channel_int_none hi] at h
    cases h

theorem rgbInit_iff (r g b : Int) (rgb : Rgb) :
    Rgb.init (.int r) (.int g) (.int b) = .ok rgb ↔ r = rgb.r ∧ g = rgb.g ∧ b = rgb.b := by
  constructor
  · intro h
    unfold Rgb.init at h
    split at h
    · next hr hg hb =>
      cases h
      exact ⟨channel_eq hr, channel_eq hg, channel_eq hb⟩
    · cases h
  · rintro ⟨rfl, rfl, rfl⟩
    exact Rgb.init_ofNat rgb.r rgb.g rgb.b rgb.r_le rgb.g_le rgb.b_le

/-! ### What is taken -/

theorem decodeRgbHex_iff (cs : List Char) (rgb : Rgb) :
    TuyaDpMapping.decodeRgbHex cs = .ok rgb ↔ (cs.length = 6 ∨ cs.length = 8) ∧
      HexLiteral (sliceChars cs 0 2) rgb.r ∧ HexLiteral (sliceChars cs 2 4) rgb.g ∧
        HexLiteral (sliceChars cs 4 6) rgb.b := by
  unfold TuyaDpMapping.decodeRgbHex
  by_cases hlen : cs.length ≠ 6 ∧ cs.length ≠ 8
  · rw [if_pos hlen]
    refine ⟨nofun, fun h => ?_⟩
    rcases h.1 with h6 | h8
    · exact absurd h6 hlen.1
    · exact absurd h8 hlen.2
  · rw [if_neg hlen]
    constructor
    · intro h
      obtain ⟨r, hr, h⟩ := bind_eq_ok (valueErrorAs_ok h)
      obtain ⟨g, hg, h⟩ := bind_eq_ok h
      obtain ⟨b, hb, h⟩ := bind_eq_ok h
      obtain ⟨rfl, rfl, rfl⟩ := (rgbInit_iff r g b rgb).mp h
      exact ⟨by omega, (hexInt_iff _ _).mp hr, (hexInt_iff _ _).mp hg, (hexInt_iff _ _).mp hb⟩
    · rintro ⟨-, hr, hg, hb⟩
      rw [(hexInt_iff _ _).mpr hr, (hexInt_iff _ _).mpr hg, (hexInt_iff _ _).mpr hb]
      show valueErrorAs _ (Rgb.init (.int rgb.r) (.int rgb.g) (.int rgb.b)) = _
      rw [(rgbInit_iff _ _ _ rgb).mpr ⟨rfl, rfl, rfl⟩]
      rfl

/-! ### The gamut, in floats -/

/-- The channels that round into a byte. -/
def byteRange : Set ℚ := {x | InByte binary64 x}

instance : byteRange.OrdConnected := by
  have hpreimage : byteRange =
      Set.preimage (fun x : ℚ => roundHalfEven (binary64 (x * 255))) (Set.Icc 0 255) := rfl
  rw [hpreimage]
  refine Set.ordConnected_Icc.preimage_mono fun x y hxy => ?_
  exact roundHalfEven_mono (binary64_mono (mul_le_mul_of_nonneg_right hxy (by norm_num)))

/-- No channel in millionths is near enough to a limit of the byte for its float to cross it. -/
theorem inByte_of_near {x : ℚ} {n : Int}
    (h : Near (1 / 2 ^ 40) (binary64 (x * 255)) ((n : ℚ) / 1000000 * 255)) :
    x ∈ byteRange ↔ -1000000 ≤ 510 * n ∧ 510 * n < 511000000 := by
  show (0 ≤ roundHalfEven (binary64 (x * 255)) ∧ roundHalfEven (binary64 (x * 255)) ≤ 255) ↔ _
  rw [le_roundHalfEven_iff (n := 0) rfl, roundHalfEven_le_iff (n := 255) rfl]
  generalize binary64 (x * 255) = y at h
  have hnear := abs_le.mp h
  push_cast
  refine and_congr ?_ ?_
  · rcases le_or_gt (-1960) n with hn | hn
    · have hcast : (-1960 : ℚ) ≤ n := by exact_mod_cast hn
      refine iff_of_true ?_ (by omega)
      rcases abs_cases ((n : ℚ) / 1000000 * 255) with ⟨habs, -⟩ | ⟨habs, -⟩ <;> rw [habs] at hnear
      · linarith [hnear.1]
      · linarith [hnear.1]
    · have hcast : (n : ℚ) ≤ -1961 := by exact_mod_cast (show n ≤ -1961 by omega)
      refine iff_of_false ?_ (by omega)
      rw [abs_of_nonpos (by linarith)] at hnear
      linarith [hnear.2]
  · rcases le_or_gt n 1001960 with hn | hn
    · have hcast : (n : ℚ) ≤ 1001960 := by exact_mod_cast hn
      refine iff_of_true ?_ (by omega)
      rcases abs_cases ((n : ℚ) / 1000000 * 255) with ⟨habs, -⟩ | ⟨habs, -⟩ <;> rw [habs] at hnear
      · linarith [hnear.2]
      · linarith [hnear.2]
    · have hcast : (1001961 : ℚ) ≤ n := by exact_mod_cast (show 1001961 ≤ n by omega)
      refine iff_of_false ?_ (by omega)
      rw [abs_of_nonneg (by linarith)] at hnear
      linarith [hnear.1]

theorem near_thousandths (n : Int) :
    Near (1 / 2 ^ 53) (binary64 ((n : ℚ) / 1000)) ((n : ℚ) / 1000) :=
  near_binary64_div n (by norm_num) (by norm_num)

/-- What the saturation leaves, unless it is full: the difference is at least a thousandth, so little of
it is lost. -/
theorem near_rest {saturation : Int} (hne : saturation ≠ 1000) :
    Near (1 / 2 ^ 43) (1 - binary64 ((saturation : ℚ) / 1000))
      (((1000 - saturation : Int) : ℚ) / 1000) := by
  have hnear := near_thousandths saturation
  have hsize : |saturation| ≤ 1001 * |1000 - saturation| := by
    rcases abs_cases saturation with h | h <;> rcases abs_cases (1000 - saturation) with h' | h' <;> omega
  have hcast : |(saturation : ℚ)| ≤ 1001 * |((1000 - saturation : Int) : ℚ)| := by exact_mod_cast hsize
  have hdiff : 1 - binary64 ((saturation : ℚ) / 1000) - ((1000 - saturation : Int) : ℚ) / 1000 =
      -(binary64 ((saturation : ℚ) / 1000) - (saturation : ℚ) / 1000) := by
    push_cast
    ring
  unfold Near at hnear ⊢
  rw [hdiff, abs_neg]
  rw [abs_div, abs_of_pos (by norm_num : (0 : ℚ) < 1000)] at hnear ⊢
  linarith [abs_nonneg ((1000 - saturation : Int) : ℚ)]

/-- The value is in the byte. -/
theorem value_mem_iff (value : Int) :
    binary64 ((value : ℚ) / 1000) ∈ byteRange ↔ -1 ≤ value ∧ value ≤ 1001 := by
  have hbyte := ((near_thousandths value).mul (Near.refl 255)).rounded (by norm_num)
    (by
      have h := quotient_size (value * 255) (d := 1000) (by norm_num) (by norm_num)
      rwa [Int.cast_mul, mul_div_right_comm, Int.cast_ofNat] at h)
  have hmillionths : (value : ℚ) / 1000 = ((value * 1000 : Int) : ℚ) / 1000000 := by
    push_cast
    ring
  rw [inByte_of_near (n := value * 1000) (by rw [← hmillionths]; exact hbyte.mono (by norm_num))]
  omega

/-- The smallest channel, or the largest under a negative saturation. -/
theorem rest_mem_iff (saturation value : Int) :
    binary64 (binary64 ((value : ℚ) / 1000) * binary64 (1 - binary64 ((saturation : ℚ) / 1000))) ∈
        byteRange ↔
      -1000000 ≤ 510 * (value * (1000 - saturation)) ∧
        510 * (value * (1000 - saturation)) < 511000000 := by
  refine inByte_of_near ?_
  rcases eq_or_ne saturation 1000 with rfl | hne
  · have hfull : ((1000 : Int) : ℚ) / 1000 = 1 := by norm_num
    rw [hfull, binary64_one, sub_self, binary64_zero, mul_zero, binary64_zero, zero_mul, binary64_zero,
      sub_self, mul_zero, Int.cast_zero, zero_div, zero_mul]
    exact (Near.refl 0).mono (by norm_num)
  · have hrest := (near_rest hne).rounded (by norm_num) (quotient_size _ (by norm_num) (by norm_num))
    have hproduct := (near_thousandths value).mul hrest
    have hmillionths : (value : ℚ) / 1000 * (((1000 - saturation : Int) : ℚ) / 1000) =
        ((value * (1000 - saturation) : Int) : ℚ) / 1000000 := by
      push_cast
      ring
    rw [hmillionths] at hproduct
    have hchannel := hproduct.rounded (by norm_num) (quotient_size _ (by norm_num) (by norm_num))
    have hbyte := (hchannel.mul (Near.refl 255)).rounded (by norm_num)
      (by
        have h := quotient_size (value * (1000 - saturation) * 255) (d := 1000000) (by norm_num)
          (by norm_num)
        rwa [Int.cast_mul, mul_div_right_comm, Int.cast_ofNat] at h)
    exact hbyte.mono (by norm_num)

/-- The hue does not decide whether a colour is one. -/
theorem wordChannels_inByte_iff (hue saturation value : Int) :
    (InByte binary64 (wordChannels binary64 hue saturation value).1 ∧
      InByte binary64 (wordChannels binary64 hue saturation value).2.1 ∧
      InByte binary64 (wordChannels binary64 hue saturation value).2.2) ↔ InGamut saturation value := by
  unfold InGamut
  rw [← value_mem_iff, ← rest_mem_iff]
  exact hsvToRgb_mem_iff (I := byteRange) binary64_mono binary64_zero binary64_one
    (zero_le_binary64 (Int.fract_nonneg _)) (binary64_idem _) (binary64_idem _)

theorem roundedRgb_ok_iff (fl : ℚ → ℚ) (red green blue : ℚ) :
    (∃ rgb, roundedRgb fl red green blue = .ok rgb) ↔
      InByte fl red ∧ InByte fl green ∧ InByte fl blue := by
  constructor
  · rintro ⟨rgb, h⟩
    by_contra hout
    rw [roundedRgb_error hout] at h
    cases h
  · rintro ⟨hr, hg, hb⟩
    exact roundedRgb_ok hr hg hb

theorem decodeHsvHex_iff (cs : List Char) :
    (∃ rgb, TuyaDpMapping.decodeHsvHex binary64 cs = .ok rgb) ↔ Taken .hsvHex cs := by
  unfold TuyaDpMapping.decodeHsvHex Taken
  by_cases hlen : cs.length ≠ 12
  · rw [if_pos hlen]
    exact ⟨nofun, fun h => absurd h.1 hlen⟩
  · rw [if_neg hlen]
    constructor
    · rintro ⟨rgb, h⟩
      obtain ⟨⟨hue', saturation', value'⟩, hwords, h⟩ := bind_eq_ok h
      obtain ⟨hue, hhue, hwords⟩ := bind_eq_ok (valueErrorAs_ok hwords)
      obtain ⟨saturation, hsat, hwords⟩ := bind_eq_ok hwords
      obtain ⟨value, hval, hwords⟩ := bind_eq_ok hwords
      cases hwords
      exact ⟨not_not.mp hlen, hue, saturation, value, (hexInt_iff _ _).mp hhue,
        (hexInt_iff _ _).mp hsat, (hexInt_iff _ _).mp hval,
        (wordChannels_inByte_iff hue saturation value).mp ((roundedRgb_ok_iff _ _ _ _).mp ⟨rgb, h⟩)⟩
    · rintro ⟨-, hue, saturation, value, hhue, hsat, hval, hgamut⟩
      obtain ⟨rgb, h⟩ :=
        (roundedRgb_ok_iff _ _ _ _).mpr ((wordChannels_inByte_iff hue saturation value).mpr hgamut)
      rw [(hexInt_iff _ _).mpr hhue, (hexInt_iff _ _).mpr hsat, (hexInt_iff _ _).mpr hval]
      exact ⟨rgb, h⟩

/-- **`decode_color` takes a text exactly when its slices are literals of a colour.** -/
theorem decodeColor_taken_iff (m : TuyaDpMapping) (text : String) :
    (∃ rgb, m.decodeColor (.str text) = .ok rgb) ↔ Taken m.colorFormat text.toList := by
  unfold TuyaDpMapping.decodeColor TuyaDpMapping.decodeColorIn
  cases m.colorFormat with
  | rgbHex =>
    show (∃ rgb, TuyaDpMapping.decodeRgbHex text.toList = .ok rgb) ↔ _
    simp only [decodeRgbHex_iff]
    constructor
    · rintro ⟨rgb, hlen, h⟩
      exact ⟨hlen, rgb, h⟩
    · rintro ⟨hlen, rgb, h⟩
      exact ⟨rgb, hlen, h⟩
  | hsvHex => exact decodeHsvHex_iff text.toList

/-- In exact arithmetic green and blue are 76.5 and round to 76; their floats are above it. -/
example : (TuyaDpMapping.decodeHsvHex binary64 "000000c80177".toList).toOption.map
    (fun c => (c.r, c.g, c.b)) = some (96, 77, 77) := by decide +kernel

/-! ### Strict texts -/

theorem hexdigits_value : (hexdigits.all fun c => (digitValue? c).any (· < 16)) = true := by decide

theorem isHexDigit_value {c : Char} (h : isHexDigit c = true) : ∃ d < 16, digitValue? c = some d := by
  have hc := List.all_eq_true.mp hexdigits_value c (List.contains_iff_mem.mp h)
  obtain ⟨d, hd, hlt⟩ := (Option.any_eq_true _ _).mp hc
  exact ⟨d, of_decide_eq_true hlt, hd⟩

/-- Two digits are a literal of their value, which is a byte. -/
theorem pair_literal {a b : Char} (ha : isHexDigit a = true) (hb : isHexDigit b = true) :
    ∃ n ≤ 255, pairValue? a b = some n ∧ HexLiteral [a, b] (n : Int) := by
  obtain ⟨x, hx, hax⟩ := isHexDigit_value ha
  obtain ⟨y, hy, hby⟩ := isHexDigit_value hb
  refine ⟨x * 16 + y, by omega, ?_, [], [a, b], [], rfl, rfl, rfl, .unsigned (.plain ?_)⟩
  · unfold pairValue?
    rw [hax, hby]
  · exact (Digits.one hax hx).next hby hy

theorem strict_rgb_taken {cs : List Char} (h : Strict .rgbHex cs) :
    ∃ rgb, TuyaDpMapping.decodeRgbHex cs = .ok rgb ∧ ReadsPairs rgb cs := by
  obtain ⟨hlen, hall⟩ := h
  change cs.length = 6 ∨ cs.length = 8 at hlen
  obtain ⟨r₁, r₂, g₁, g₂, b₁, b₂, rest, rfl⟩ : ∃ r₁ r₂ g₁ g₂ b₁ b₂ rest,
      cs = r₁ :: r₂ :: g₁ :: g₂ :: b₁ :: b₂ :: rest := by
    match cs, hlen with
    | r₁ :: r₂ :: g₁ :: g₂ :: b₁ :: b₂ :: rest, _ => exact ⟨r₁, r₂, g₁, g₂, b₁, b₂, rest, rfl⟩
    | [], hlen | [_], hlen | [_, _], hlen | [_, _, _], hlen | [_, _, _, _], hlen
    | [_, _, _, _, _], hlen => rcases hlen with hlen | hlen <;> cases hlen
  have hdigit : ∀ c ∈ r₁ :: r₂ :: g₁ :: g₂ :: b₁ :: b₂ :: rest, isHexDigit c = true :=
    List.all_eq_true.mp hall
  obtain ⟨r, hr, hrv, hrl⟩ := pair_literal (hdigit r₁ (by simp)) (hdigit r₂ (by simp))
  obtain ⟨g, hg, hgv, hgl⟩ := pair_literal (hdigit g₁ (by simp)) (hdigit g₂ (by simp))
  obtain ⟨b, hb, hbv, hbl⟩ := pair_literal (hdigit b₁ (by simp)) (hdigit b₂ (by simp))
  exact ⟨⟨r, g, b, hr, hg, hb⟩, (decodeRgbHex_iff _ _).mpr ⟨hlen, hrl, hgl, hbl⟩,
    r₁, r₂, g₁, g₂, b₁, b₂, rest, rfl, hrv, hgv, hbv⟩

/-- What is taken has the length of its format. -/
theorem Taken.sized {format : ColorFormat} {cs : List Char} (h : Taken format cs) :
    Sized cs format := by
  cases format with
  | rgbHex => exact h.1
  | hsvHex => exact h.1

/-! ## Main result -/

/-- **Colour texts are taken by their grammar, except for literals that are not all digits**:
`decode_color` follows the grammar of a text exactly unless its slices are literals of a colour and
some character of it is no hexadecimal digit. -/
theorem decodeColor_grammar_iff (m : TuyaDpMapping) (text : String) :
    FollowsGrammar m text ↔
      ¬ (Taken m.colorFormat text.toList ∧ ∃ c ∈ text.toList, isHexDigit c = false) := by
  constructor
  · rintro h ⟨htaken, c, hc, hnot⟩
    obtain ⟨rgb, hrgb⟩ := (decodeColor_taken_iff m text).mpr htaken
    have hdigit := List.all_eq_true.mp (h.strict rgb hrgb).2 c hc
    rw [hnot] at hdigit
    cases hdigit
  · intro h
    have hdigits : Taken m.colorFormat text.toList → text.toList.all isHexDigit = true := by
      intro htaken
      rw [List.all_eq_true]
      intro c hc
      by_contra hnot
      exact h ⟨htaken, c, hc, Bool.eq_false_iff.mpr hnot⟩
    have hrgbHex : m.colorFormat = .rgbHex →
        m.decodeColor (.str text) = TuyaDpMapping.decodeRgbHex text.toList := by
      intro hformat
      unfold TuyaDpMapping.decodeColor TuyaDpMapping.decodeColorIn
      rw [hformat]
      rfl
    refine ⟨fun rgb hrgb => ?_, fun hformat hstrict => ?_, fun hformat rgb hrgb => ?_⟩
    · have htaken := (decodeColor_taken_iff m text).mp ⟨rgb, hrgb⟩
      exact ⟨htaken.sized, hdigits htaken⟩
    · obtain ⟨rgb, hrgb, -⟩ := strict_rgb_taken hstrict
      exact ⟨rgb, by rw [hrgbHex hformat]; exact hrgb⟩
    · have htaken := (decodeColor_taken_iff m text).mp ⟨rgb, hrgb⟩
      have hsized := htaken.sized
      rw [hformat] at hsized
      obtain ⟨rgb', hrgb', hreads⟩ := strict_rgb_taken ⟨hsized, hdigits htaken⟩
      rw [hrgbHex hformat, hrgb'] at hrgb
      cases hrgb
      exact hreads

/-- Signed digits make a colour. -/
theorem signed_digits_taken :
    (∃ rgb, lampMapping.decodeColor (.str "+f+f+f") = .ok rgb ∧ rgb.r = 15 ∧ rgb.g = 15 ∧
      rgb.b = 15) ∧ ¬ FollowsGrammar lampMapping "+f+f+f" := by
  obtain ⟨rgb, hdecode, hr, hg, hb⟩ : ∃ rgb, lampMapping.decodeColor (.str "+f+f+f") = .ok rgb ∧
      rgb.r = 15 ∧ rgb.g = 15 ∧ rgb.b = 15 := ⟨_, rfl, rfl, rfl, rfl⟩
  refine ⟨⟨rgb, hdecode, hr, hg, hb⟩, fun h => ?_⟩
  have hdigits : "+f+f+f".toList.all isHexDigit = false := by decide
  rw [(h.strict rgb hdecode).2] at hdigits
  cases hdigits

end Linker
