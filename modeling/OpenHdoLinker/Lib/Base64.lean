import OpenHdoLinker.Lib.PyJson

/-!
# Base64

`base64.b64encode(data)` and `base64.b64decode(text, validate=True)`: three bytes
are four characters, a remainder is padded with `=`.

    base64Decode (base64Encode data) = some data            (base64Decode_encode)
-/

namespace Py

/-! ## Algorithm -/

/-- The character of a six-bit value. -/
def base64Char (n : Nat) : UInt8 :=
  if n < 26 then UInt8.ofNat (65 + n)
  else if n < 52 then UInt8.ofNat (71 + n)
  else if n < 62 then UInt8.ofNat (n - 4)
  else if n = 62 then 0x2b
  else 0x2f

/-- The six-bit value of a character of the alphabet. -/
def base64Value? (c : UInt8) : Option Nat :=
  let n := c.toNat
  if 65 ≤ n ∧ n ≤ 90 then some (n - 65)
  else if 97 ≤ n ∧ n ≤ 122 then some (n - 71)
  else if 48 ≤ n ∧ n ≤ 57 then some (n + 4)
  else if n = 0x2b then some 62
  else if n = 0x2f then some 63
  else none

/-- The padding character `=`. -/
def base64Padding : UInt8 := 0x3d

/-- `base64.b64encode(data)`. -/
def base64Encode : Bytes → Bytes
  | [] => []
  | [a] => [base64Char (a.toNat / 4), base64Char (a.toNat % 4 * 16), base64Padding, base64Padding]
  | [a, b] =>
    [base64Char (a.toNat / 4), base64Char (a.toNat % 4 * 16 + b.toNat / 16),
      base64Char (b.toNat % 16 * 4), base64Padding]
  | a :: b :: c :: data =>
    base64Char (a.toNat / 4) :: base64Char (a.toNat % 4 * 16 + b.toNat / 16) ::
      base64Char (b.toNat % 16 * 4 + c.toNat / 64) :: base64Char (c.toNat % 64) :: base64Encode data

/-- `base64.b64decode(text, validate=True)`; `none` is the `binascii.Error`.  Padding ends the text;
the bits it leaves over are not looked at. -/
def base64Decode : Bytes → Option Bytes
  | [] => some []
  | p :: q :: r :: s :: text =>
    match base64Value? p, base64Value? q, base64Value? r, base64Value? s with
    | some w, some x, some y, some z =>
      (base64Decode text).map fun data =>
        UInt8.ofNat (w * 4 + x / 16) :: UInt8.ofNat (x % 16 * 16 + y / 4) ::
          UInt8.ofNat (y % 4 * 64 + z) :: data
    | some w, some x, some y, none =>
      if s = base64Padding ∧ text = [] then
        some [UInt8.ofNat (w * 4 + x / 16), UInt8.ofNat (x % 16 * 16 + y / 4)]
      else none
    | some w, some x, none, none =>
      if r = base64Padding ∧ s = base64Padding ∧ text = [] then some [UInt8.ofNat (w * 4 + x / 16)]
      else none
    | _, _, _, _ => none
  | _ => none

/-! ## Lemmas -/

theorem base64Value_char (n : Nat) (h : n < 64) : base64Value? (base64Char n) = some n := by
  have hall : ∀ n < 64, base64Value? (base64Char n) = some n := by decide
  exact hall n h

theorem base64Value_padding : base64Value? base64Padding = none := by decide

theorem ofNat_of_toNat {n : Nat} {x : UInt8} (h : n = x.toNat) : UInt8.ofNat n = x := by
  rw [h]
  exact UInt8.ofNat_toNat

/-! ## Main result -/

/-- **Base64 round trip.** -/
theorem base64Decode_encode (data : Bytes) : base64Decode (base64Encode data) = some data := by
  induction data using base64Encode.induct with
  | case1 => rfl
  | case2 a =>
    have ha := a.toNat_lt
    have h₁ : a.toNat / 4 * 4 + a.toNat % 4 * 16 / 16 = a.toNat := by omega
    rw [base64Encode, base64Decode, base64Value_char _ (by omega), base64Value_char _ (by omega),
      base64Value_padding]
    simp only [and_self, if_true, ofNat_of_toNat h₁]
  | case3 a b =>
    have ha := a.toNat_lt
    have hb := b.toNat_lt
    have h₁ : a.toNat / 4 * 4 + (a.toNat % 4 * 16 + b.toNat / 16) / 16 = a.toNat := by omega
    have h₂ : (a.toNat % 4 * 16 + b.toNat / 16) % 16 * 16 + b.toNat % 16 * 4 / 4 = b.toNat := by omega
    rw [base64Encode, base64Decode, base64Value_char _ (by omega), base64Value_char _ (by omega),
      base64Value_char _ (by omega), base64Value_padding]
    simp only [and_self, if_true, ofNat_of_toNat h₁, ofNat_of_toNat h₂]
  | case4 a b c data ih =>
    have ha := a.toNat_lt
    have hb := b.toNat_lt
    have hc := c.toNat_lt
    have h₁ : a.toNat / 4 * 4 + (a.toNat % 4 * 16 + b.toNat / 16) / 16 = a.toNat := by omega
    have h₂ : (a.toNat % 4 * 16 + b.toNat / 16) % 16 * 16 +
        (b.toNat % 16 * 4 + c.toNat / 64) / 4 = b.toNat := by omega
    have h₃ : (b.toNat % 16 * 4 + c.toNat / 64) % 4 * 64 + c.toNat % 64 = c.toNat := by omega
    rw [base64Encode, base64Decode, base64Value_char _ (by omega), base64Value_char _ (by omega),
      base64Value_char _ (by omega), base64Value_char _ (by omega), ih]
    simp only [Option.map_some, ofNat_of_toNat h₁, ofNat_of_toNat h₂, ofNat_of_toNat h₃]

end Py
