import OpenHdoLinker.Lib.PyJson
import Mathlib.Algebra.Group.Nat.Defs
import Mathlib.Data.List.Induction

/-!
# Byte strings

Big-endian words as `struct` packs them, the stripping methods of `bytes`, and
PKCS#7 padding to 16-byte blocks.

    n < 256 ^ w → beNat (beBytes w n) = n                   (beNat_beBytes)
    beBytes b.length (beNat b) = b                          (beBytes_beNat)
    pkcs7Unpad (pkcs7Pad data) = some data                  (pkcs7Unpad_pad)
-/

namespace Py

/-! ## Big-endian words -/

/-- `w` bytes, most significant first: `struct.pack(">I", n)` is `beBytes 4 n`. -/
def beBytes : Nat → Nat → Bytes
  | 0, _ => []
  | w + 1, n => beBytes w (n / 256) ++ [UInt8.ofNat (n % 256)]

/-- The number big-endian bytes stand for. -/
def beNat (b : Bytes) : Nat := b.foldl (fun n x => n * 256 + x.toNat) 0

@[simp] theorem length_beBytes (w n : Nat) : (beBytes w n).length = w := by
  induction w generalizing n with
  | zero => rfl
  | succ w ih =>
    show (beBytes w (n / 256) ++ [UInt8.ofNat (n % 256)]).length = w + 1
    rw [List.length_append, ih]
    rfl

theorem beNat_append_singleton (b : Bytes) (x : UInt8) :
    beNat (b ++ [x]) = beNat b * 256 + x.toNat := by
  unfold beNat
  rw [List.foldl_append]
  rfl

/-- Packing and unpacking a word that fits. -/
theorem beNat_beBytes (w n : Nat) (h : n < 256 ^ w) : beNat (beBytes w n) = n := by
  induction w generalizing n with
  | zero =>
    rw [Nat.pow_zero] at h
    show 0 = n
    omega
  | succ w ih =>
    have hdiv : n / 256 < 256 ^ w := by
      rw [Nat.div_lt_iff_lt_mul (by omega)]
      rwa [Nat.pow_succ] at h
    have hbyte : (UInt8.ofNat (n % 256)).toNat = n % 256 := UInt8.toNat_ofNat_of_lt' (Nat.mod_lt n (by decide))
    rw [beBytes, beNat_append_singleton, ih _ hdiv, hbyte]
    omega

theorem beNat_lt (b : Bytes) : beNat b < 256 ^ b.length := by
  induction b using List.reverseRecOn with
  | nil => exact Nat.one_pos
  | append_singleton b x ih =>
    have hx := x.toNat_lt
    rw [beNat_append_singleton, List.length_append, List.length_singleton, Nat.pow_succ]
    omega

/-- Unpacking and packing again. -/
theorem beBytes_beNat (b : Bytes) : beBytes b.length (beNat b) = b := by
  induction b using List.reverseRecOn with
  | nil => rfl
  | append_singleton b x ih =>
    have hx := x.toNat_lt
    have hdiv : (beNat b * 256 + x.toNat) / 256 = beNat b := by omega
    have hmod : (beNat b * 256 + x.toNat) % 256 = x.toNat := by omega
    rw [beNat_append_singleton, List.length_append, List.length_singleton, beBytes, hdiv, hmod, ih]
    simp

/-- A word is known from its bytes. -/
theorem eq_beBytes {b : Bytes} {w : Nat} (h : b.length = w) : b = beBytes w (beNat b) := by
  subst h
  exact (beBytes_beNat b).symm

/-! ## Stripping -/

/-- `data.rstrip(chars)`. -/
def rstrip (chars : Bytes) (data : Bytes) : Bytes :=
  (data.reverse.dropWhile fun x => chars.contains x).reverse

/-- `data.strip(chars)`. -/
def strip (chars : Bytes) (data : Bytes) : Bytes :=
  rstrip chars (data.dropWhile fun x => chars.contains x)

/-- Bytes that end in a kept byte have nothing to strip on the right. -/
theorem rstrip_append_singleton (chars data : Bytes) (x : UInt8) (h : chars.contains x = false) :
    rstrip chars (data ++ [x]) = data ++ [x] := by
  unfold rstrip
  rw [List.reverse_append, List.reverse_singleton, List.singleton_append,
    List.dropWhile_cons_of_neg (by rw [h]; simp), List.reverse_cons, List.reverse_reverse]

/-- Bytes between two kept bytes are not stripped. -/
theorem strip_kept (chars mid : Bytes) (x y : UInt8) (hx : chars.contains x = false)
    (hy : chars.contains y = false) : strip chars (x :: mid ++ [y]) = x :: mid ++ [y] := by
  unfold strip
  rw [List.cons_append, List.dropWhile_cons_of_neg (by rw [hx]; simp), ← List.cons_append]
  exact rstrip_append_singleton chars (x :: mid) y hy

/-! ## PKCS#7 -/

/-- `padding.PKCS7(128).padder()`. -/
def pkcs7Pad (data : Bytes) : Bytes :=
  let n := 16 - data.length % 16
  data ++ List.replicate n (UInt8.ofNat n)

/-- `padding.PKCS7(128).unpadder()`; `none` is the `ValueError`. -/
def pkcs7Unpad (data : Bytes) : Option Bytes :=
  match data.getLast? with
  | none => none
  | some x =>
    let n := x.toNat
    if data.length % 16 = 0 ∧ 1 ≤ n ∧ n ≤ 16 ∧ data.drop (data.length - n) = List.replicate n x then
      some (data.take (data.length - n))
    else none

theorem length_pkcs7Pad (data : Bytes) : (pkcs7Pad data).length % 16 = 0 := by
  unfold pkcs7Pad
  rw [List.length_append, List.length_replicate]
  omega

/-- Unpadding undoes padding. -/
theorem pkcs7Unpad_pad (data : Bytes) : pkcs7Unpad (pkcs7Pad data) = some data := by
  have hmod := length_pkcs7Pad data
  unfold pkcs7Unpad
  unfold pkcs7Pad at hmod ⊢
  generalize hn : 16 - data.length % 16 = n at hmod ⊢
  have hn1 : 1 ≤ n := by omega
  have hn16 : n ≤ 16 := by omega
  have hx : (UInt8.ofNat n).toNat = n := UInt8.toNat_ofNat_of_lt' (by
    show n < 256
    omega)
  have hlast : (data ++ List.replicate n (UInt8.ofNat n)).getLast? = some (UInt8.ofNat n) := by
    obtain ⟨k, rfl⟩ : ∃ k, n = k + 1 := ⟨n - 1, by omega⟩
    rw [List.getLast?_append, List.getLast?_replicate]
    simp
  have hlen : (data ++ List.replicate n (UInt8.ofNat n)).length - n = data.length := by
    rw [List.length_append, List.length_replicate]
    omega
  simp only [hlast, hx, hlen]
  rw [if_pos ⟨hmod, hn1, hn16, List.drop_left⟩, List.take_left]

end Py
