import OpenHdoLinker.Lib.PyText

/-!
# The grammar of hexadecimal text

What `int(text, 16)` takes, as its documentation has it: whitespace around the number, a sign, `0x`,
and digits with single underscores between them.

    parseInt 16 text = some n ↔ HexLiteral text n        (parseInt_iff)
-/

namespace Py

/-! ## Grammar -/

/-- Digits with single underscores between them, and the number they stand for. -/
inductive Digits (base : Nat) : List Char → Nat → Prop
  | one {c : Char} {d : Nat} (hc : digitValue? c = some d) (hd : d < base) : Digits base [c] d
  | next {cs : List Char} {n : Nat} {c : Char} {d : Nat} (h : Digits base cs n)
    (hc : digitValue? c = some d) (hd : d < base) : Digits base (cs ++ [c]) (n * base + d)
  | grouped {cs : List Char} {n : Nat} {c : Char} {d : Nat} (h : Digits base cs n)
    (hc : digitValue? c = some d) (hd : d < base) : Digits base (cs ++ ['_', c]) (n * base + d)

/-- The digits after `0x` or without it; an underscore may follow `0x`. -/
inductive HexBody : List Char → Nat → Prop
  | plain {cs : List Char} {n : Nat} (h : Digits 16 cs n) : HexBody cs n
  | marked {z x : Char} {cs : List Char} {n : Nat} (hz : decimalDigit? z = some 0)
    (hx : x = 'x' ∨ x = 'X') (h : Digits 16 cs n) : HexBody (z :: x :: cs) n
  | grouped {z x : Char} {cs : List Char} {n : Nat} (hz : decimalDigit? z = some 0)
    (hx : x = 'x' ∨ x = 'X') (h : Digits 16 cs n) : HexBody (z :: x :: '_' :: cs) n

inductive SignedHex : List Char → Int → Prop
  | unsigned {cs : List Char} {n : Nat} (h : HexBody cs n) : SignedHex cs n
  | plus {cs : List Char} {n : Nat} (h : HexBody cs n) : SignedHex ('+' :: cs) n
  | minus {cs : List Char} {n : Nat} (h : HexBody cs n) : SignedHex ('-' :: cs) (-n)

/-- A signed number with whitespace around it. -/
def HexLiteral (text : List Char) (n : Int) : Prop :=
  ∃ before core after, text = before ++ (core ++ after) ∧ before.all isIntSpace ∧
    after.all isIntSpace ∧ SignedHex core n

/-! ## Characters -/

theorem decimalDigit_code {c : Char} {d : Nat} (h : decimalDigit? c = some d) :
    ∃ z ∈ decimalZeros, ∃ k < 10, c.toNat = z + k ∧ d = k := by
  unfold decimalDigit? at h
  obtain ⟨z, hz, rfl⟩ := Option.map_eq_some_iff.mp h
  have hin := List.find?_some hz
  rw [Bool.and_eq_true, decide_eq_true_eq, decide_eq_true_eq] at hin
  exact ⟨z, List.mem_of_find?_eq_some hz, c.toNat - z, by omega, by omega, rfl⟩

/-- Whitespace, by code point. -/
def spaceCode (n : Nat) : Bool :=
  (0x09 ≤ n && n ≤ 0x0d) || (0x2000 ≤ n && n ≤ 0x200a) ||
    [0x20, 0x85, 0xa0, 0x1680, 0x2028, 0x2029, 0x202f, 0x205f, 0x3000].contains n

theorem isIntSpace_eq (c : Char) : isIntSpace c = spaceCode c.toNat := rfl

theorem spaceCode_digits : ∀ z ∈ decimalZeros, ∀ k < 10, spaceCode (z + k) = false := by decide

theorem spaceCode_letters : ∀ n < 26, spaceCode (97 + n) = false ∧ spaceCode (65 + n) = false := by
  decide

/-- A digit is no whitespace. -/
theorem not_space_of_digit {c : Char} {d : Nat} (h : digitValue? c = some d) :
    isIntSpace c = false := by
  rw [isIntSpace_eq]
  unfold digitValue? at h
  cases hd : decimalDigit? c with
  | some d' =>
    obtain ⟨z, hz, k, hk, hc, -⟩ := decimalDigit_code hd
    rw [hc]
    exact spaceCode_digits z hz k hk
  | none =>
    rw [hd] at h
    dsimp only at h
    split at h
    · next hrange =>
      have hlow : 97 ≤ c.toNat ∧ c.toNat ≤ 122 := hrange
      rw [show c.toNat = 97 + (c.toNat - 97) by omega]
      exact (spaceCode_letters _ (by omega)).1
    · split at h
      · next hrange =>
        have hhigh : 65 ≤ c.toNat ∧ c.toNat ≤ 90 := hrange
        rw [show c.toNat = 65 + (c.toNat - 65) by omega]
        exact (spaceCode_letters _ (by omega)).2
      · cases h

/-! ## Digits -/

section Digits

variable {base : Nat} {cs ds : List Char} {n : Nat}

/-- The first and the last character are digits. -/
theorem Digits.ends (h : Digits base cs n) :
    (∃ c d, cs.head? = some c ∧ digitValue? c = some d) ∧
      ∃ c d, cs.getLast? = some c ∧ digitValue? c = some d := by
  induction h with
  | one hc hd => exact ⟨⟨_, _, rfl, hc⟩, _, _, rfl, hc⟩
  | next h hc hd ih =>
    obtain ⟨⟨c, d, hhead, hd'⟩, -⟩ := ih
    refine ⟨⟨c, d, ?_, hd'⟩, _, _, List.getLast?_concat, hc⟩
    rw [List.head?_append, hhead]
    rfl
  | grouped h hc hd ih =>
    obtain ⟨⟨c, d, hhead, hd'⟩, -⟩ := ih
    refine ⟨⟨c, d, ?_, hd'⟩, _, _, ?_, hc⟩
    · rw [List.head?_append, hhead]
      rfl
    · rw [List.getLast?_append]
      rfl

theorem Digits.chars (h : Digits base cs n) :
    ∀ c ∈ cs, c = '_' ∨ ∃ d < base, digitValue? c = some d := by
  induction h with
  | one hc hd =>
    intro c hmem
    cases List.mem_singleton.mp hmem
    exact Or.inr ⟨_, hd, hc⟩
  | next h hc hd ih =>
    intro c hmem
    rcases List.mem_append.mp hmem with hmem | hmem
    · exact ih c hmem
    · cases List.mem_singleton.mp hmem
      exact Or.inr ⟨_, hd, hc⟩
  | grouped h hc hd ih =>
    intro c hmem
    rcases List.mem_append.mp hmem with hmem | hmem
    · exact ih c hmem
    · rcases List.mem_cons.mp hmem with rfl | hmem
      · exact Or.inl rfl
      · cases List.mem_singleton.mp hmem
        exact Or.inr ⟨_, hd, hc⟩

theorem digitsVal_digit {c : Char} {d : Nat} (hc : digitValue? c = some d) (hd : d < base)
    (acc : Nat) (cs : List Char) :
    digitsVal? base acc (c :: cs) = digitsVal? base (acc * base + d) cs := by
  have hne : c ≠ '_' := by
    rintro rfl
    cases hc
  rw [digitsVal?, hc]
  · dsimp only
    rw [if_pos hd]
  · intro c' cs' he
    exact absurd he hne

theorem digitsVal_grouped {c : Char} {d : Nat} (hc : digitValue? c = some d) (hd : d < base)
    (acc : Nat) (cs : List Char) :
    digitsVal? base acc ('_' :: c :: cs) = digitsVal? base (acc * base + d) cs := by
  rw [digitsVal?, hc]
  dsimp only
  rw [if_pos hd]

/-- The loop over the digits, from the number read so far. -/
inductive Reads (base : Nat) : Nat → List Char → Nat → Prop
  | done (n : Nat) : Reads base n [] n
  | digit {acc n : Nat} {c : Char} {d : Nat} {cs : List Char} (hc : digitValue? c = some d)
    (hd : d < base) (h : Reads base (acc * base + d) cs n) : Reads base acc (c :: cs) n
  | grouped {acc n : Nat} {c : Char} {d : Nat} {cs : List Char} (hc : digitValue? c = some d)
    (hd : d < base) (h : Reads base (acc * base + d) cs n) : Reads base acc ('_' :: c :: cs) n

theorem reads_of_digitsVal {acc : Nat} (h : digitsVal? base acc cs = some n) :
    Reads base acc cs n := by
  induction acc, cs using digitsVal?.induct base with
  | case1 acc =>
    cases h
    exact .done n
  | case2 acc c cs d hc hd ih =>
    rw [digitsVal_grouped hc hd] at h
    exact .grouped hc hd (ih h)
  | case3 acc c cs d hc hd =>
    rw [digitsVal?, hc] at h
    dsimp only at h
    rw [if_neg hd] at h
    cases h
  | case4 acc c cs hc =>
    rw [digitsVal?, hc] at h
    cases h
  | case5 acc c cs hnot d hc hd ih =>
    rw [digitsVal_digit hc hd] at h
    exact .digit hc hd (ih h)
  | case6 acc c cs hnot d hc hd =>
    rw [digitsVal?, hc] at h
    · dsimp only at h
      rw [if_neg hd] at h
      cases h
    · exact hnot
  | case7 acc c cs hnot hc =>
    rw [digitsVal?, hc] at h
    · cases h
    · exact hnot

/-- The digits read before and the digits left make one number. -/
theorem Reads.digits {acc : Nat} (h : Reads base acc cs n) (hds : Digits base ds acc) :
    Digits base (ds ++ cs) n := by
  induction h generalizing ds with
  | done n =>
    rw [List.append_nil]
    exact hds
  | digit hc hd h ih =>
    rw [List.append_cons]
    exact ih (hds.next hc hd)
  | grouped hc hd h ih =>
    rw [List.append_cons, List.append_cons, List.append_assoc ds]
    exact ih (hds.grouped hc hd)

theorem Reads.append {acc : Nat} (h : Reads base acc cs n) (ds : List Char) :
    digitsVal? base acc (cs ++ ds) = digitsVal? base n ds := by
  induction h with
  | done n => rfl
  | digit hc hd h ih =>
    rw [List.cons_append, digitsVal_digit hc hd]
    exact ih
  | grouped hc hd h ih =>
    rw [List.cons_append, List.cons_append, digitsVal_grouped hc hd]
    exact ih

theorem digitsVal_digits (h : Digits base cs n) : digitsVal? base 0 cs = some n := by
  induction h with
  | one hc hd =>
    rw [digitsVal_digit hc hd, Nat.zero_mul, Nat.zero_add]
    rfl
  | next h hc hd ih =>
    rw [(reads_of_digitsVal ih).append, digitsVal_digit hc hd]
    rfl
  | grouped h hc hd ih =>
    rw [(reads_of_digitsVal ih).append, digitsVal_grouped hc hd]
    rfl

theorem natBody_iff : natBody? base cs = some n ↔ Digits base cs n := by
  constructor
  · intro h
    cases cs with
    | nil => cases h
    | cons c cs =>
      have hne : c ≠ '_' := by
        rintro rfl
        cases h
      have hval : digitsVal? base 0 (c :: cs) = some n := by
        unfold natBody? at h
        split at h
        · cases h
        · next he => exact absurd (List.cons.inj he).1 hne
        · exact h
      have hreads := reads_of_digitsVal hval
      cases hreads with
      | digit hc hd h =>
        rw [Nat.zero_mul, Nat.zero_add] at h
        exact h.digits (.one hc hd)
      | grouped hc hd h => exact absurd rfl hne
  · intro h
    obtain ⟨⟨c, d, hhead, hc⟩, -⟩ := h.ends
    unfold natBody?
    split
    · cases hhead
    · cases hhead
      cases hc
    · exact digitsVal_digits h

end Digits

/-! ## The mark and the sign -/

theorem Digits.no_mark {cs : List Char} {n : Nat} (h : Digits 16 cs n) {x : Char} (hx : x ∈ cs) :
    ¬ (x = 'x' ∨ x = 'X') := by
  intro hmark
  rcases h.chars x hx with rfl | ⟨d, hd, hval⟩
  · rcases hmark with h | h <;> cases h
  · have h33 : digitValue? 'x' = some 33 ∧ digitValue? 'X' = some 33 := by decide
    rcases hmark with rfl | rfl
    · cases h33.1.symm.trans hval
      omega
    · cases h33.2.symm.trans hval
      omega

theorem dropBasePrefix_digits {cs : List Char} {n : Nat} (h : Digits 16 cs n) :
    dropBasePrefix 16 cs = cs := by
  unfold dropBasePrefix
  split
  · next z x cs =>
    exact if_neg fun hp => h.no_mark (x := x) (by simp) hp.2.2
  · next z x cs _ =>
    exact if_neg fun hp => h.no_mark (x := x) (by simp) hp.2.2
  · rfl

theorem dropBasePrefix_marked {z x : Char} (hz : decimalDigit? z = some 0) (hx : x = 'x' ∨ x = 'X')
    {cs : List Char} (hcs : cs.head? ≠ some '_') : dropBasePrefix 16 (z :: x :: cs) = cs := by
  unfold dropBasePrefix
  split
  · next he =>
    obtain ⟨-, hrest⟩ := List.cons.inj he
    obtain ⟨-, hcs'⟩ := List.cons.inj hrest
    rw [hcs'] at hcs
    exact absurd rfl hcs
  · next z' x' cs' hnot he =>
    cases he
    exact if_pos ⟨rfl, hz, hx⟩
  · next hnot => exact absurd rfl (hnot z x cs)

theorem dropBasePrefix_grouped {z x : Char} (hz : decimalDigit? z = some 0)
    (hx : x = 'x' ∨ x = 'X') (cs : List Char) : dropBasePrefix 16 (z :: x :: '_' :: cs) = cs :=
  if_pos ⟨rfl, hz, hx⟩

theorem hexBody_iff {cs : List Char} {n : Nat} :
    natBody? 16 (dropBasePrefix 16 cs) = some n ↔ HexBody cs n := by
  rw [natBody_iff]
  constructor
  · intro h
    unfold dropBasePrefix at h
    split at h
    · next z x cs =>
      by_cases hp : (16 : Nat) = 16 ∧ decimalDigit? z = some 0 ∧ (x = 'x' ∨ x = 'X')
      · rw [if_pos hp] at h
        exact .grouped hp.2.1 hp.2.2 h
      · rw [if_neg hp] at h
        exact .plain h
    · next z x cs _ =>
      by_cases hp : (16 : Nat) = 16 ∧ decimalDigit? z = some 0 ∧ (x = 'x' ∨ x = 'X')
      · rw [if_pos hp] at h
        exact .marked hp.2.1 hp.2.2 h
      · rw [if_neg hp] at h
        exact .plain h
    · exact .plain h
  · intro h
    cases h with
    | plain h =>
      rw [dropBasePrefix_digits h]
      exact h
    | marked hz hx h =>
      rw [dropBasePrefix_marked hz hx]
      · exact h
      · obtain ⟨⟨c, d, hhead, hc⟩, -⟩ := h.ends
        rw [hhead]
        rintro ⟨⟩
        cases hc
    | grouped hz hx h =>
      rw [dropBasePrefix_grouped hz hx]
      exact h

/-- A number ends in a digit and begins with one, without whitespace or a sign before it. -/
theorem HexBody.ends {cs : List Char} {n : Nat} (h : HexBody cs n) :
    (∃ c d, cs.head? = some c ∧ digitValue? c = some d) ∧
      ∃ c d, cs.getLast? = some c ∧ digitValue? c = some d := by
  have hzero : ∀ {z : Char}, decimalDigit? z = some 0 → digitValue? z = some 0 := by
    intro z hz
    unfold digitValue?
    rw [hz]
  cases h with
  | plain h => exact h.ends
  | marked hz hx h =>
    obtain ⟨-, c, d, hlast, hc⟩ := h.ends
    refine ⟨⟨_, 0, rfl, hzero hz⟩, c, d, ?_, hc⟩
    rw [List.getLast?_cons_cons, List.getLast?_cons, hlast]
    rfl
  | grouped hz hx h =>
    obtain ⟨-, c, d, hlast, hc⟩ := h.ends
    refine ⟨⟨_, 0, rfl, hzero hz⟩, c, d, ?_, hc⟩
    rw [List.getLast?_cons_cons, List.getLast?_cons_cons, List.getLast?_cons, hlast]
    rfl

/-! ## Whitespace -/

/-- `text.strip()` for the whitespace that `int` skips. -/
def stripped (cs : List Char) : List Char :=
  ((cs.dropWhile isIntSpace).reverse.dropWhile isIntSpace).reverse

theorem stripped_split (cs : List Char) :
    ∃ before after, cs = before ++ (stripped cs ++ after) ∧ before.all isIntSpace ∧
      after.all isIntSpace := by
  refine ⟨cs.takeWhile isIntSpace,
    ((cs.dropWhile isIntSpace).reverse.takeWhile isIntSpace).reverse, ?_, List.all_takeWhile, ?_⟩
  · unfold stripped
    rw [← List.reverse_append, List.takeWhile_append_dropWhile, List.reverse_reverse,
      List.takeWhile_append_dropWhile]
  · rw [List.all_reverse]
    exact List.all_takeWhile

theorem dropWhile_spaces {before rest : List Char} (hb : before.all isIntSpace) {c : Char}
    (hhead : rest.head? = some c) (hc : isIntSpace c = false) :
    (before ++ rest).dropWhile isIntSpace = rest := by
  rw [List.dropWhile_append_of_pos (List.all_eq_true.mp hb)]
  cases rest with
  | nil => cases hhead
  | cons c' rest =>
    cases hhead
    rw [List.dropWhile_cons_of_neg]
    rw [hc]
    exact Bool.false_ne_true

/-- Text that neither begins nor ends with whitespace is what is left of it. -/
theorem stripped_eq {before core after : List Char} (hb : before.all isIntSpace)
    (ha : after.all isIntSpace) {c c' : Char} (hhead : core.head? = some c)
    (hc : isIntSpace c = false) (hlast : core.getLast? = some c') (hc' : isIntSpace c' = false) :
    stripped (before ++ (core ++ after)) = core := by
  have hfront : (core ++ after).head? = some c := by
    rw [List.head?_append, hhead]
    rfl
  unfold stripped
  rw [dropWhile_spaces hb hfront hc, List.reverse_append,
    dropWhile_spaces (by rw [List.all_reverse]; exact ha) (by rw [List.head?_reverse]; exact hlast) hc',
    List.reverse_reverse]

/-! ## Main result -/

theorem SignedHex.ends {cs : List Char} {n : Int} (h : SignedHex cs n) :
    (∃ c, cs.head? = some c ∧ isIntSpace c = false) ∧
      ∃ c, cs.getLast? = some c ∧ isIntSpace c = false := by
  cases h with
  | unsigned h =>
    obtain ⟨⟨c, d, hhead, hc⟩, c', d', hlast, hc'⟩ := h.ends
    exact ⟨⟨c, hhead, not_space_of_digit hc⟩, c', hlast, not_space_of_digit hc'⟩
  | plus h =>
    obtain ⟨-, c', d', hlast, hc'⟩ := h.ends
    refine ⟨⟨'+', rfl, by decide⟩, c', ?_, not_space_of_digit hc'⟩
    rw [List.getLast?_cons, hlast]
    rfl
  | minus h =>
    obtain ⟨-, c', d', hlast, hc'⟩ := h.ends
    refine ⟨⟨'-', rfl, by decide⟩, c', ?_, not_space_of_digit hc'⟩
    rw [List.getLast?_cons, hlast]
    rfl

/-- The number after the whitespace is gone. -/
def signedVal? (cs : List Char) : Option Int :=
  match cs with
  | '-' :: cs => (natBody? 16 (dropBasePrefix 16 cs)).map fun n : Nat => -(n : Int)
  | '+' :: cs => (natBody? 16 (dropBasePrefix 16 cs)).map fun n : Nat => (n : Int)
  | cs => (natBody? 16 (dropBasePrefix 16 cs)).map fun n : Nat => (n : Int)

theorem parseInt_eq (cs : List Char) :
    parseInt 16 (String.ofList cs) = signedVal? (stripped cs) := by
  have hlimit : ∀ cs, digitLimitOk 16 cs = true := fun _ => rfl
  have hcast : ∀ r : Option Nat, (do let n ← r; pure (n : Int)) = r.map fun n : Nat => (n : Int) := by
    intro r
    cases r <;> rfl
  unfold parseInt signedVal?
  simp only [hlimit, if_true, String.toList_ofList, stripped, hcast, Option.map_map]
  rfl

theorem signedVal_iff {cs : List Char} {n : Int} : signedVal? cs = some n ↔ SignedHex cs n := by
  constructor
  · intro h
    unfold signedVal? at h
    split at h
    · obtain ⟨k, hk, rfl⟩ := Option.map_eq_some_iff.mp h
      exact .minus (hexBody_iff.mp hk)
    · obtain ⟨k, hk, rfl⟩ := Option.map_eq_some_iff.mp h
      exact .plus (hexBody_iff.mp hk)
    · obtain ⟨k, hk, rfl⟩ := Option.map_eq_some_iff.mp h
      exact .unsigned (hexBody_iff.mp hk)
  · intro h
    cases h with
    | minus h => exact Option.map_eq_some_iff.mpr ⟨_, hexBody_iff.mpr h, rfl⟩
    | plus h => exact Option.map_eq_some_iff.mpr ⟨_, hexBody_iff.mpr h, rfl⟩
    | unsigned h =>
      obtain ⟨⟨c, d, hhead, hc⟩, -⟩ := h.ends
      unfold signedVal?
      split
      · cases hhead
        cases hc
      · cases hhead
        cases hc
      · exact Option.map_eq_some_iff.mpr ⟨_, hexBody_iff.mpr h, rfl⟩

/-- **`int(text, 16)` takes exactly the hexadecimal literals.** -/
theorem parseInt_iff (cs : List Char) (n : Int) :
    parseInt 16 (String.ofList cs) = some n ↔ HexLiteral cs n := by
  rw [parseInt_eq, signedVal_iff]
  constructor
  · intro h
    obtain ⟨before, after, hcs, hb, ha⟩ := stripped_split cs
    exact ⟨before, stripped cs, after, hcs, hb, ha, h⟩
  · rintro ⟨before, core, after, rfl, hb, ha, h⟩
    obtain ⟨⟨c, hhead, hc⟩, c', hlast, hc'⟩ := h.ends
    rw [stripped_eq hb ha hhead hc hlast hc']
    exact h

end Py
