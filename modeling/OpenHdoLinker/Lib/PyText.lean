import OpenHdoLinker.Lib.PyExc
import Mathlib.Data.List.Basic
import Mathlib.Data.Nat.Digits.Defs

/-!
# Numbers and UUIDs written as text

* `parseInt base text`: `int(text, base)` for base 10 and 16.
* `hexPad w n`: `f"{n:0wx}"`.
* `replaceAll pattern new cs`: `text.replace(pattern, new)`.
* `Uuid`: 128 bits, `Uuid.str` and `Uuid.parse` are `str(u)` and `UUID(text)`.

    parseInt 16 (hexPad w n) = some n          (parseInt_hexPad)
    parseInt 10 (toString n) = some n          (parseInt_toString)
    no character shared → ¬ pattern <:+: replaceAll pattern new cs     (not_infix_replaceAll)
    parse u.str = some u                       (Uuid.parse_str)
-/

namespace Py

/-! ## `int(text, base)` -/

/-- The zero of each Unicode decimal digit block (category Nd). -/
def decimalZeros : List Nat :=
  [0x30, 0x660, 0x6f0, 0x7c0, 0x966, 0x9e6, 0xa66, 0xae6, 0xb66, 0xbe6, 0xc66, 0xce6, 0xd66,
   0xde6, 0xe50, 0xed0, 0xf20, 0x1040, 0x1090, 0x17e0, 0x1810, 0x1946, 0x19d0, 0x1a80, 0x1a90,
   0x1b50, 0x1bb0, 0x1c40, 0x1c50, 0xa620, 0xa8d0, 0xa900, 0xa9d0, 0xa9f0, 0xaa50, 0xabf0,
   0xff10, 0x104a0, 0x10d30, 0x11066, 0x110f0, 0x11136, 0x111d0, 0x112f0, 0x11450, 0x114d0,
   0x11650, 0x116c0, 0x11730, 0x118e0, 0x11950, 0x11c50, 0x11d50, 0x11da0, 0x16a60, 0x16ac0,
   0x16b50, 0x1d7ce, 0x1d7d8, 0x1d7e2, 0x1d7ec, 0x1d7f6, 0x1e140, 0x1e2f0, 0x1e950, 0x1fbf0]

def decimalDigit? (c : Char) : Option Nat :=
  (decimalZeros.find? fun z => z ≤ c.toNat && c.toNat ≤ z + 9).map fun z => c.toNat - z

/-- Whitespace `int` skips: the ASCII one and, after transformation, the Unicode one. -/
def isIntSpace (c : Char) : Bool :=
  (0x09 ≤ c.toNat && c.toNat ≤ 0x0d) || (0x2000 ≤ c.toNat && c.toNat ≤ 0x200a) ||
    [0x20, 0x85, 0xa0, 0x1680, 0x2028, 0x2029, 0x202f, 0x205f, 0x3000].contains c.toNat

def digitValue? (c : Char) : Option Nat :=
  match decimalDigit? c with
  | some d => some d
  | none =>
    if 'a' ≤ c ∧ c ≤ 'z' then some (c.toNat - 'a'.toNat + 10)
    else if 'A' ≤ c ∧ c ≤ 'Z' then some (c.toNat - 'A'.toNat + 10)
    else none

/-- Digits below `base` with single underscores between them, to the end of the text. -/
def digitsVal? (base : Nat) (acc : Nat) : List Char → Option Nat
  | [] => some acc
  | '_' :: c :: cs =>
    match digitValue? c with
    | some d => if d < base then digitsVal? base (acc * base + d) cs else none
    | none => none
  | c :: cs =>
    match digitValue? c with
    | some d => if d < base then digitsVal? base (acc * base + d) cs else none
    | none => none

def natBody? (base : Nat) : List Char → Option Nat
  | [] => none
  | '_' :: _ => none
  | cs => digitsVal? base 0 cs

/-- `0x` and one underscore after it are skipped in base 16, the zero being that of any script. -/
def dropBasePrefix (base : Nat) : List Char → List Char
  | z :: x :: '_' :: cs =>
    if base = 16 ∧ decimalDigit? z = some 0 ∧ (x = 'x' ∨ x = 'X') then cs else z :: x :: '_' :: cs
  | z :: x :: cs =>
    if base = 16 ∧ decimalDigit? z = some 0 ∧ (x = 'x' ∨ x = 'X') then cs else z :: x :: cs
  | cs => cs

/-- The longest digit string converted in a base that is not a power of two. -/
def maxStrDigits : Nat := 4300

def digitLimitOk (base : Nat) (cs : List Char) : Bool :=
  base = 16 || (cs.filter (· ≠ '_')).length ≤ maxStrDigits

/-- `int(text, base)`; `none` is the `ValueError`. -/
def parseInt (base : Nat) (text : String) : Option Int :=
  let cs := ((text.toList.dropWhile isIntSpace).reverse.dropWhile isIntSpace).reverse
  let body (cs : List Char) : Option Nat :=
    let ds := dropBasePrefix base cs
    if digitLimitOk base ds then natBody? base ds else none
  match cs with
  | '-' :: cs => (body cs).map fun n => -(n : Int)
  | '+' :: cs => (body cs).map fun n => (n : Int)
  | cs => (body cs).map fun n => (n : Int)

/-! ## Hexadecimal text -/

/-- Digits of `f"{n:0wx}"`. -/
def hexDigits (w n : Nat) : List Char := (Nat.toDigits 16 n).leftpad w '0'

/-- `f"{n:0wx}"`. -/
def hexPad (w n : Nat) : String := String.ofList (hexDigits w n)

/-- A lower-case hexadecimal digit. -/
def IsHexChar (c : Char) : Prop := ∃ d < 16, c = Nat.digitChar d

theorem digitValue_digitChar (d : Nat) (h : d < 16) : digitValue? (Nat.digitChar d) = some d := by
  have hall : ∀ d < 16, digitValue? (Nat.digitChar d) = some d := by decide
  exact hall d h

theorem hexChar_ne (c x : Char) (h : IsHexChar c) (hx : ∀ d < 16, Nat.digitChar d ≠ x) : c ≠ x := by
  obtain ⟨d, hd, rfl⟩ := h
  exact hx d hd

theorem hexChar_not_space (c : Char) (h : IsHexChar c) : isIntSpace c = false := by
  have hall : ∀ d < 16, isIntSpace (Nat.digitChar d) = false := by decide
  obtain ⟨d, hd, rfl⟩ := h
  exact hall d hd

theorem toDigits_chars {base : Nat} (hbase : 1 < base) (n : Nat) :
    ∀ c ∈ Nat.toDigits base n, ∃ d < base, c = Nat.digitChar d := by
  induction n using Nat.strongRecOn with
  | ind n ih =>
    rw [Nat.toDigits_eq_if hbase]
    split
    · next h =>
      intro c hc
      rw [List.mem_singleton] at hc
      exact ⟨n, h, hc⟩
    · next h =>
      intro c hc
      rw [List.mem_append, List.mem_singleton] at hc
      rcases hc with hc | hc
      · exact ih (n / base) (Nat.div_lt_self (by omega) hbase) c hc
      · exact ⟨n % base, Nat.mod_lt n (by omega), hc⟩

theorem toDigits_hex (n : Nat) : ∀ c ∈ Nat.toDigits 16 n, IsHexChar c :=
  toDigits_chars (by decide) n

theorem hexDigits_hex (w n : Nat) : ∀ c ∈ hexDigits w n, IsHexChar c := by
  intro c hc
  unfold hexDigits List.leftpad at hc
  rw [List.mem_append, List.mem_replicate] at hc
  rcases hc with ⟨-, hc⟩ | hc
  · exact ⟨0, by omega, hc⟩
  · exact toDigits_hex n c hc

theorem toDigits_ne_nil {base : Nat} (n : Nat) : Nat.toDigits base n ≠ [] :=
  List.length_pos_iff.mp Nat.length_toDigits_pos

theorem digitsVal_cons {base : Nat} (hbase : base ≤ 16) (d : Nat) (cs : List Char) (acc : Nat)
    (h : d < base) :
    digitsVal? base acc (Nat.digitChar d :: cs) = digitsVal? base (acc * base + d) cs := by
  have hd : d < 16 := by omega
  have hu : Nat.digitChar d ≠ '_' := hexChar_ne _ '_' ⟨d, hd, rfl⟩ (by decide)
  rw [digitsVal?, digitValue_digitChar d hd]
  · simp [h]
  · intro c' cs' he
    exact absurd he hu

theorem digitsVal_append {base : Nat} (hbase : base ≤ 16) (cs ds : List Char) (acc : Nat)
    (h : ∀ c ∈ cs, ∃ d < base, c = Nat.digitChar d) :
    digitsVal? base acc (cs ++ ds) =
      (digitsVal? base acc cs).bind fun a => digitsVal? base a ds := by
  induction cs generalizing acc with
  | nil => rfl
  | cons c cs ih =>
    obtain ⟨d, hd, rfl⟩ := h c List.mem_cons_self
    rw [List.cons_append, digitsVal_cons hbase d _ _ hd, digitsVal_cons hbase d _ _ hd]
    exact ih _ (fun c hc => h c (List.mem_cons_of_mem _ hc))

/-- The digits of a number are read as that number. -/
theorem digitsVal_toDigits {base : Nat} (hlow : 1 < base) (hhigh : base ≤ 16) (n : Nat) :
    digitsVal? base 0 (Nat.toDigits base n) = some n := by
  induction n using Nat.strongRecOn with
  | ind n ih =>
    rw [Nat.toDigits_eq_if hlow]
    split
    · next h =>
      rw [digitsVal_cons hhigh n [] 0 h]
      show some (0 * base + n) = some n
      rw [Nat.zero_mul, Nat.zero_add]
    · next h =>
      rw [digitsVal_append hhigh _ _ _ (toDigits_chars hlow _),
        ih (n / base) (Nat.div_lt_self (by omega) hlow), Option.bind_some,
        digitsVal_cons hhigh (n % base) [] _ (Nat.mod_lt n (by omega))]
      show some (n / base * base + n % base) = some n
      rw [Nat.div_add_mod']

theorem digitsVal_zeros (k : Nat) (cs : List Char) :
    digitsVal? 16 0 (List.replicate k '0' ++ cs) = digitsVal? 16 0 cs := by
  induction k with
  | zero => rfl
  | succ k ih =>
    rw [List.replicate_succ, List.cons_append]
    exact (digitsVal_cons (by decide) 0 _ 0 (by decide)).trans ih

theorem digitsVal_hexDigits (w n : Nat) : digitsVal? 16 0 (hexDigits w n) = some n := by
  unfold hexDigits List.leftpad
  rw [digitsVal_zeros, digitsVal_toDigits (by decide) (by decide)]

theorem hexDigits_ne_nil (w n : Nat) : hexDigits w n ≠ [] := by
  unfold hexDigits List.leftpad
  intro h
  exact toDigits_ne_nil n (List.append_eq_nil_iff.mp h).2

theorem dropWhile_hex (p : Char → Bool) (cs : List Char) (h : ∀ c ∈ cs, p c = false) :
    cs.dropWhile p = cs := by
  cases cs with
  | nil => rfl
  | cons c cs => rw [List.dropWhile_cons_of_neg (by rw [h c List.mem_cons_self]; simp)]

theorem dropBasePrefix_hex (cs : List Char) (h : ∀ c ∈ cs, IsHexChar c) :
    dropBasePrefix 16 cs = cs := by
  unfold dropBasePrefix
  split
  · next x cs' =>
    have hx := h x (by simp)
    have h1 : x ≠ 'x' := hexChar_ne x 'x' hx (by decide)
    have h2 : x ≠ 'X' := hexChar_ne x 'X' hx (by decide)
    simp [h1, h2]
  · next x cs' _ =>
    have hx := h x (by simp)
    have h1 : x ≠ 'x' := hexChar_ne x 'x' hx (by decide)
    have h2 : x ≠ 'X' := hexChar_ne x 'X' hx (by decide)
    simp [h1, h2]
  · rfl

theorem natBody_hex (base : Nat) (cs : List Char) (hne : cs ≠ []) (h : ∀ c ∈ cs, IsHexChar c) :
    natBody? base cs = digitsVal? base 0 cs := by
  unfold natBody?
  split
  · exact absurd rfl hne
  · next cs' => exact absurd rfl (hexChar_ne _ '_' (h '_' (by simp)) (by decide))
  · rfl

/-- Text of digits, and of nothing to strip or to skip, is read as its digits. -/
theorem parseInt_digits (base : Nat) (cs : List Char) (hne : cs ≠ []) (h : ∀ c ∈ cs, IsHexChar c)
    (hmark : dropBasePrefix base cs = cs) (hlimit : digitLimitOk base cs = true) :
    parseInt base (String.ofList cs) = (digitsVal? base 0 cs).map fun n => (n : Int) := by
  have hsp : ∀ c ∈ cs, isIntSpace c = false := fun c hc => hexChar_not_space c (h c hc)
  have hstrip : (((String.ofList cs).toList.dropWhile isIntSpace).reverse.dropWhile
      isIntSpace).reverse = cs := by
    rw [String.toList_ofList, dropWhile_hex _ _ hsp,
      dropWhile_hex _ _ (fun c hc => hsp c (List.mem_reverse.mp hc)), List.reverse_reverse]
  unfold parseInt
  simp only [hstrip]
  split
  · exact absurd rfl (hexChar_ne _ '-' (h '-' (by simp)) (by decide))
  · exact absurd rfl (hexChar_ne _ '+' (h '+' (by simp)) (by decide))
  · rw [hmark, hlimit, if_pos rfl, natBody_hex base cs hne h]

/-- Hexadecimal text is read as its digits. -/
theorem parseInt_hex (cs : List Char) (hne : cs ≠ []) (h : ∀ c ∈ cs, IsHexChar c) :
    parseInt 16 (String.ofList cs) = (digitsVal? 16 0 cs).map fun n => (n : Int) :=
  parseInt_digits 16 cs hne h (dropBasePrefix_hex cs h) (by simp [digitLimitOk])

theorem dropBasePrefix_decimal (cs : List Char) : dropBasePrefix 10 cs = cs := by
  unfold dropBasePrefix
  split
  · exact if_neg (fun h => absurd h.1 (by decide))
  · exact if_neg (fun h => absurd h.1 (by decide))
  · rfl

/-- **Decimal round trip**, within the digit limit. -/
theorem parseInt_toString {n : Nat} (h : (Nat.toDigits 10 n).length ≤ maxStrDigits) :
    parseInt 10 (toString n) = some (n : Int) := by
  have hhex : ∀ c ∈ Nat.toDigits 10 n, IsHexChar c := by
    intro c hc
    obtain ⟨d, hd, rfl⟩ := toDigits_chars (by decide) n c hc
    exact ⟨d, by omega, rfl⟩
  have hlimit : digitLimitOk 10 (Nat.toDigits 10 n) = true := by
    unfold digitLimitOk
    rw [Bool.or_eq_true, decide_eq_true_eq, decide_eq_true_eq]
    exact Or.inr (le_trans (List.length_filter_le _ _) h)
  rw [Nat.toString_eq_ofList_toDigits,
    parseInt_digits 10 _ (toDigits_ne_nil n) hhex (dropBasePrefix_decimal _) hlimit,
    digitsVal_toDigits (by decide) (by decide)]
  rfl

/-- **Hexadecimal round trip.** -/
theorem parseInt_hexPad (w n : Nat) : parseInt 16 (hexPad w n) = some (n : Int) := by
  rw [hexPad, parseInt_hex _ (hexDigits_ne_nil w n) (hexDigits_hex w n), digitsVal_hexDigits]
  rfl

theorem length_hexDigits {w n : Nat} (hw : 0 < w) (h : n < 16 ^ w) : (hexDigits w n).length = w := by
  have hle : (Nat.toDigits 16 n).length ≤ w := by
    rw [Nat.length_toDigits_le_iff (by omega) hw]
    exact h
  unfold hexDigits List.leftpad
  rw [List.length_append, List.length_replicate]
  omega

/-! ## Lower case -/

/-- `text.lower()`, where the result is ASCII: of the letters beyond ASCII, the Kelvin sign alone
has an ASCII lower case. -/
def lower (text : String) : String :=
  String.ofList (text.toList.map fun c => if c = '\u212a' then 'k' else c.toLower)

/-! ## Replacing -/

/-- `text.replace(pattern, new)`, for a pattern that is not empty. -/
def replaceAll (pattern new : List Char) : List Char → List Char
  | [] => []
  | c :: cs =>
    if pattern ≠ [] ∧ pattern.isPrefixOf (c :: cs) then
      new ++ replaceAll pattern new ((c :: cs).drop pattern.length)
    else c :: replaceAll pattern new cs
termination_by cs => cs.length
decreasing_by
  · next h =>
    obtain ⟨hp, -⟩ := h
    have := List.length_pos_iff.mpr hp
    simp only [List.length_drop, List.length_cons]
    omega
  · simp

/-- Text without the first character of the pattern is copied. -/
theorem replaceAll_append {x : Char} (pattern new : List Char) {cs : List Char} (h : x ∉ cs)
    (rest : List Char) :
    replaceAll (x :: pattern) new (cs ++ rest) = cs ++ replaceAll (x :: pattern) new rest := by
  induction cs with
  | nil => rfl
  | cons c cs ih =>
    rw [List.mem_cons, not_or] at h
    have hp : ¬ ((x :: pattern) ≠ [] ∧ (x :: pattern).isPrefixOf (c :: (cs ++ rest))) := by
      simp [h.1]
    rw [List.cons_append, replaceAll, if_neg hp, ih h.2, List.cons_append]

theorem replaceAll_self {pattern : List Char} (hp : pattern ≠ []) (new : List Char) :
    replaceAll pattern new pattern = new := by
  obtain ⟨c, cs, rfl⟩ := List.exists_cons_of_ne_nil hp
  have hself : (c :: cs) ≠ [] ∧ (c :: cs).isPrefixOf (c :: cs) := ⟨hp, by simp⟩
  rw [replaceAll, if_pos hself, List.drop_length, replaceAll, List.append_nil]

/-- A pattern that shares no character with what replaces it is found in the new text only where
the old text has it. -/
theorem prefix_of_replaceAll {pattern new q : List Char} (hnew : new ≠ [])
    (hq : ∀ c ∈ q, c ∉ new) {cs : List Char} (h : q <+: replaceAll pattern new cs) : q <+: cs := by
  induction cs generalizing q with
  | nil =>
    rw [replaceAll] at h
    exact h
  | cons c cs ih =>
    cases q with
    | nil => exact List.nil_prefix
    | cons x q =>
      rw [replaceAll] at h
      split at h
      · obtain ⟨y, ys, rfl⟩ := List.exists_cons_of_ne_nil hnew
        have hxy : x = y := (List.cons_prefix_cons.mp h).1
        exact absurd (hxy ▸ List.mem_cons_self) (hq x List.mem_cons_self)
      · obtain ⟨rfl, htail⟩ := List.cons_prefix_cons.mp h
        exact List.cons_prefix_cons.mpr
          ⟨rfl, ih (fun c hc => hq c (List.mem_cons_of_mem _ hc)) htail⟩

theorem infix_of_append {q m r : List Char} (hq : q ≠ []) (hm : ∀ c ∈ q, c ∉ m)
    (h : q <:+: m ++ r) : q <:+: r := by
  induction m with
  | nil => exact h
  | cons y m ih =>
    rw [List.cons_append, List.infix_cons_iff] at h
    rcases h with h | h
    · obtain ⟨x, q, rfl⟩ := List.exists_cons_of_ne_nil hq
      have hxy : x = y := (List.cons_prefix_cons.mp h).1
      exact absurd (hxy ▸ List.mem_cons_self) (hm x List.mem_cons_self)
    · exact ih (fun c hc hmem => hm c hc (List.mem_cons_of_mem _ hmem)) h

/-- **After replacing, the pattern is gone**, if what replaces it shares no character with it. -/
theorem not_infix_replaceAll {pattern new : List Char} (hp : pattern ≠ []) (hnew : new ≠ [])
    (hdisjoint : ∀ c ∈ pattern, c ∉ new) (cs : List Char) :
    ¬ pattern <:+: replaceAll pattern new cs := by
  induction cs using replaceAll.induct pattern with
  | case1 =>
    rw [replaceAll, List.infix_nil]
    exact hp
  | case2 c cs h ih =>
    rw [replaceAll, if_pos h]
    exact fun hbad => ih (infix_of_append hp hdisjoint hbad)
  | case3 c cs h ih =>
    rw [replaceAll, if_neg h, List.infix_cons_iff]
    rintro (hbad | hbad)
    · -- an occurrence at the copied character is one in the old text
      obtain ⟨x, q, rfl⟩ := List.exists_cons_of_ne_nil hp
      obtain ⟨rfl, hq⟩ := List.cons_prefix_cons.mp hbad
      refine h ⟨hp, List.isPrefixOf_iff_prefix.mpr (List.cons_prefix_cons.mpr ⟨rfl, ?_⟩)⟩
      exact prefix_of_replaceAll hnew (fun c hc => hdisjoint c (List.mem_cons_of_mem _ hc)) hq
    · exact ih hbad

/-! ## UUIDs -/

/-- `uuid.UUID`: its 128-bit integer. -/
structure Uuid where
  int : Nat
  lt : int < 2 ^ 128
deriving DecidableEq

namespace Uuid

def hex (u : Uuid) : List Char := hexDigits 32 u.int

/-- `str(u)`: groups of 8, 4, 4, 4 and 12 digits. -/
def str (u : Uuid) : String :=
  String.ofList (u.hex.take 8 ++ '-' :: ((u.hex.drop 8).take 4 ++ '-' :: ((u.hex.drop 12).take 4 ++
    '-' :: ((u.hex.drop 16).take 4 ++ '-' :: u.hex.drop 20))))

/-- `text.replace(pattern, "")`. -/
def removeAll (pattern : List Char) : List Char → List Char
  | [] => []
  | c :: cs =>
    if pattern ≠ [] ∧ pattern.isPrefixOf (c :: cs) then removeAll pattern ((c :: cs).drop pattern.length)
    else c :: removeAll pattern cs
termination_by cs => cs.length
decreasing_by
  · next h =>
    obtain ⟨hp, -⟩ := h
    have := List.length_pos_iff.mpr hp
    simp only [List.length_drop, List.length_cons]
    omega
  · simp

/-- `UUID(text)`; `none` is the `ValueError`. -/
def parse (text : String) : Option Uuid :=
  let cs := removeAll "uuid:".toList (removeAll "urn:".toList text.toList)
  let isBrace (c : Char) : Bool := c = '\x7b' || c = '\x7d'
  let cs := ((cs.dropWhile isBrace).reverse.dropWhile isBrace).reverse
  let cs := cs.filter (· ≠ '-')
  if cs.length = 32 then
    match parseInt 16 (String.ofList cs) with
    | some i => if h : 0 ≤ i ∧ i < 2 ^ 128 then some ⟨i.toNat, by omega⟩ else none
    | none => none
  else none

theorem length_hex (u : Uuid) : u.hex.length = 32 := length_hexDigits (by decide) u.lt

theorem hex_isHex (u : Uuid) : ∀ c ∈ u.hex, IsHexChar c := hexDigits_hex 32 u.int

theorem removeAll_of_not_mem (x : Char) (pattern cs : List Char) (h : x ∉ cs) :
    removeAll (x :: pattern) cs = cs := by
  induction cs with
  | nil => rw [removeAll]
  | cons c cs ih =>
    have hx : x ≠ c := fun e => h (by rw [e]; exact List.mem_cons_self)
    have hp : ¬ (x :: pattern).isPrefixOf (c :: cs) := by simp [hx]
    rw [removeAll, if_neg (fun hc => hp hc.2), ih (fun hm => h (List.mem_cons_of_mem _ hm))]

/-- The grouped text has only hexadecimal digits and dashes. -/
theorem str_chars (u : Uuid) : ∀ c ∈ u.str.toList, IsHexChar c ∨ c = '-' := by
  intro c hc
  rw [str, String.toList_ofList] at hc
  simp only [List.mem_append, List.mem_cons] at hc
  rcases hc with h | h | h | h | h | h | h | h | h
  · exact Or.inl (hex_isHex u c (List.mem_of_mem_take h))
  · exact Or.inr h
  · exact Or.inl (hex_isHex u c (List.mem_of_mem_drop (List.mem_of_mem_take h)))
  · exact Or.inr h
  · exact Or.inl (hex_isHex u c (List.mem_of_mem_drop (List.mem_of_mem_take h)))
  · exact Or.inr h
  · exact Or.inl (hex_isHex u c (List.mem_of_mem_drop (List.mem_of_mem_take h)))
  · exact Or.inr h
  · exact Or.inl (hex_isHex u c (List.mem_of_mem_drop h))

theorem filter_hex (l : List Char) (h : ∀ c ∈ l, IsHexChar c) : l.filter (· ≠ '-') = l := by
  rw [List.filter_eq_self]
  intro c hc
  have : c ≠ '-' := hexChar_ne c '-' (h c hc) (by decide)
  simpa using this

/-- Without its dashes the text is the 32 digits. -/
theorem filter_str (u : Uuid) : u.str.toList.filter (· ≠ '-') = u.hex := by
  have hsub : ∀ l : List Char, (∀ c ∈ l, c ∈ u.hex) → l.filter (· ≠ '-') = l :=
    fun l hl => filter_hex l (fun c hc => hex_isHex u c (hl c hc))
  have h1 := hsub (u.hex.take 8) (fun c hc => List.mem_of_mem_take hc)
  have h2 := hsub ((u.hex.drop 8).take 4) (fun c hc => List.mem_of_mem_drop (List.mem_of_mem_take hc))
  have h3 := hsub ((u.hex.drop 12).take 4) (fun c hc => List.mem_of_mem_drop (List.mem_of_mem_take hc))
  have h4 := hsub ((u.hex.drop 16).take 4) (fun c hc => List.mem_of_mem_drop (List.mem_of_mem_take hc))
  have h5 := hsub (u.hex.drop 20) (fun c hc => List.mem_of_mem_drop hc)
  have hdash : ∀ l : List Char, ('-' :: l).filter (· ≠ '-') = l.filter (· ≠ '-') :=
    fun l => List.filter_cons_of_neg (by simp)
  rw [str, String.toList_ofList, List.filter_append, hdash, List.filter_append, hdash,
    List.filter_append, hdash, List.filter_append, hdash, h1, h2, h3, h4, h5]
  have e4 : (u.hex.drop 16).take 4 ++ u.hex.drop 20 = u.hex.drop 16 := by
    have := List.take_append_drop 4 (u.hex.drop 16)
    rwa [List.drop_drop] at this
  have e3 : (u.hex.drop 12).take 4 ++ u.hex.drop 16 = u.hex.drop 12 := by
    have := List.take_append_drop 4 (u.hex.drop 12)
    rwa [List.drop_drop] at this
  have e2 : (u.hex.drop 8).take 4 ++ u.hex.drop 12 = u.hex.drop 8 := by
    have := List.take_append_drop 4 (u.hex.drop 8)
    rwa [List.drop_drop] at this
  rw [e4, e3, e2, List.take_append_drop]

/-- **`UUID(str(u)) = u`.** -/
theorem parse_str (u : Uuid) : parse u.str = some u := by
  have hno : ∀ x : Char, (∀ d < 16, Nat.digitChar d ≠ x) → x ≠ '-' → x ∉ u.str.toList := by
    intro x hx hd hm
    rcases str_chars u x hm with h | h
    · exact absurd rfl (hexChar_ne x x h hx)
    · exact hd h
  have hurn : removeAll "urn:".toList u.str.toList = u.str.toList :=
    removeAll_of_not_mem 'u' "rn:".toList _ (hno 'u' (by decide) (by decide))
  have huuid : removeAll "uuid:".toList u.str.toList = u.str.toList :=
    removeAll_of_not_mem 'u' "uid:".toList _ (hno 'u' (by decide) (by decide))
  have hbrace : ∀ c ∈ u.str.toList, (decide (c = '\x7b') || decide (c = '\x7d')) = false := by
    intro c hc
    have h1 : c ≠ '\x7b' := fun e => hno '\x7b' (by decide) (by decide) (e ▸ hc)
    have h2 : c ≠ '\x7d' := fun e => hno '\x7d' (by decide) (by decide) (e ▸ hc)
    simp [h1, h2]
  have hne : u.hex ≠ [] := by
    intro h
    have := length_hex u
    rw [h] at this
    exact absurd this (by decide)
  have hlt := u.lt
  unfold parse
  simp only [hurn, huuid]
  rw [dropWhile_hex _ _ hbrace, dropWhile_hex _ _ (fun c hc => hbrace c (List.mem_reverse.mp hc)),
    List.reverse_reverse, filter_str, if_pos (length_hex u),
    parseInt_hex _ hne (hex_isHex u), hex, digitsVal_hexDigits]
  simpa using hlt

theorem str_inj (u v : Uuid) (h : u.str = v.str) : u = v := by
  have := parse_str u
  rw [h, parse_str v] at this
  exact (Option.some.inj this).symm

end Uuid

end Py
