import OpenHdoLinker.Lib.JsonText
import OpenHdoLinker.Lib.JsonTree
import Mathlib.Data.List.Sort

/-!
# Reading JSON text back

A reader for the texts `dumps` writes.  Whitespace and floats are left out: `dumps`
writes none of the one, and how it writes the other is a parameter.  What is read is
the value with the keys of its objects in order, so no two different values have one
text, and the reader is a `json` module that inverts `dumps`.

    v.Plain → readValue n (dumps v ++ rest) = (v with its keys sorted, rest)   (readValue_dumps)
    v.Plain → jsonReader.ReadsBack floatRepr v                                 (jsonReader_readsBack)
-/

namespace Py

/-! ## Algorithm -/

/-- A reader gives a value and the text behind it. -/
abbrev Reader (α : Type) : Type := List Char → Option (α × List Char)

/-- The value of a hexadecimal digit. -/
def hexValue? (c : Char) : Option Nat := "0123456789abcdef".toList.idxOf? c

/-- Four hexadecimal digits. -/
def readFourHex : Reader Nat
  | a :: b :: c :: d :: cs => do
    let w ← hexValue? a
    let x ← hexValue? b
    let y ← hexValue? c
    let z ← hexValue? d
    some (w * 4096 + x * 256 + y * 16 + z, cs)
  | _ => none

/-- The digits of a `\uXXXX` escape; a high surrogate takes the escape behind it as well. -/
def readUnicode (cs : List Char) : Option (Char × List Char) := do
  let (n, cs) ← readFourHex cs
  if 0xd800 ≤ n ∧ n < 0xdc00 then do
    let (m, cs) ← readFourHex (cs.drop 2)
    some (Char.ofNat (0x10000 + (n - 0xd800) * 0x400 + (m - 0xdc00)), cs)
  else some (Char.ofNat n, cs)

/-- The characters that are escaped by a letter. -/
def escapes : List (Char × Char) :=
  [('"', '"'), ('\\', '\\'), ('n', '\n'), ('r', '\r'), ('t', '\t'), ('f', Char.ofNat 0x0c),
    ('b', Char.ofNat 0x08)]

/-- One character of a string literal. -/
def readChar : Reader Char
  | [] => none
  | c :: cs =>
    if c ≠ '\\' then some (c, cs)
    else
      match cs with
      | [] => none
      | e :: cs => if e = 'u' then readUnicode cs else (escapes.lookup e).map fun x => (x, cs)

/-- A string literal behind its opening quote, of fewer than `n` characters. -/
def readText : Nat → Reader (List Char)
  | 0, _ => none
  | n + 1, cs =>
    if cs.head? = some '"' then some ([], cs.tail)
    else do
      let (x, cs) ← readChar cs
      let (xs, cs) ← readText n cs
      some (x :: xs, cs)

def readNat (cs : List Char) : Option (Nat × List Char) :=
  if cs.takeWhile Char.isDigit = [] then none
  else some (Nat.ofDigitChars 10 (cs.takeWhile Char.isDigit) 0, cs.dropWhile Char.isDigit)

def readInt (cs : List Char) : Option (Json × List Char) :=
  if cs.head? = some '-' then (readNat cs.tail).map fun p => (.int (-p.1), p.2)
  else (readNat cs).map fun p => (.int p.1, p.2)

/-- The words of JSON, as they are written. -/
def words : List (List Char × Json) :=
  [("null".toList, .null), ("true".toList, .bool true), ("false".toList, .bool false)]

def readWord (cs : List Char) : Option (Json × List Char) :=
  words.findSome? fun w => if w.1.isPrefixOf cs then some (w.2, cs.drop w.1.length) else none

section Joined

variable {α : Type} (item : Reader α) (close : Char)

/-- Items joined by commas, and what closes them. -/
def readJoined : Nat → Reader (List α)
  | 0, _ => none
  | n + 1, cs => do
    let (v, cs) ← item cs
    if cs.head? = some ',' then do
      let (vs, cs) ← readJoined n cs.tail
      some (v :: vs, cs)
    else if cs.head? = some close then some ([v], cs.tail)
    else none

/-- The items of an array or an object, behind its bracket. -/
def readItems (cs : List Char) : Option (List α × List Char) :=
  if cs.head? = some close then some ([], cs.tail) else readJoined item close cs.length cs

end Joined

/-- A key, a colon and a value. -/
def readPair (value : Reader Json) (cs : List Char) : Option ((String × Json) × List Char) :=
  if cs.head? = some '"' then do
    let (key, cs) ← readText cs.length cs.tail
    if cs.head? = some ':' then do
      let (v, cs) ← value cs.tail
      some ((String.ofList key, v), cs)
    else none
  else none

/-- A value nested less than `n` deep. -/
def readValue : Nat → Reader Json
  | 0, _ => none
  | _ + 1, [] => none
  | n + 1, c :: cs =>
    if c = '"' then (readText (cs.length + 1) cs).map fun p => (.str (String.ofList p.1), p.2)
    else if c = '[' then (readItems (readValue n) ']' cs).map fun p => (.arr p.1, p.2)
    else if c = '\x7b' then
      (readItems (readPair (readValue n)) '\x7d' cs).map fun p => (.obj p.1, p.2)
    else (readWord (c :: cs)).or (readInt (c :: cs))

/-- The value a whole text is. -/
def readWhole (cs : List Char) : Except JsonFailure Json :=
  match readValue (cs.length + 1) cs with
  | some (v, []) => .ok v
  | _ => .error .malformed

def readBytes (b : Bytes) : Except JsonFailure Json :=
  match b.toByteArray.utf8Decode? with
  | some cs => readWhole cs.toList
  | none => .error .undecodable

/-- A `json` module for the texts of `dumps`. -/
def jsonReader : JsonLib :=
  { JsonLib.ofDecode readBytes with decodeStr := fun s => readWhole s.toList }

/-! ## Statement -/

/-- A value without floats, each of whose dictionaries has each of its keys once. -/
inductive Json.Plain : Json → Prop
  | null : Plain .null
  | bool (b : Bool) : Plain (.bool b)
  | int (i : Int) : Plain (.int i)
  | str (s : String) : Plain (.str s)
  | arr {l : List Json} (h : ∀ v ∈ l, Plain v) : Plain (.arr l)
  | obj {d : JsonObj} (hdict : (d.map Prod.fst).Nodup) (h : ∀ p ∈ d, Plain p.2) : Plain (.obj d)

mutual

/-- The value with the keys of its objects in order. -/
def Json.sortKeys : Json → Json
  | .arr l => .arr (sortKeysList l)
  | .obj d => .obj ((sortKeysItems d).insertionSort fun p q => p.1 ≤ q.1)
  | v => v

def Json.sortKeysList : List Json → List Json
  | [] => []
  | v :: l => v.sortKeys :: sortKeysList l

def Json.sortKeysItems : List (String × Json) → List (String × Json)
  | [] => []
  | (k, v) :: d => (k, v.sortKeys) :: sortKeysItems d

end

/-- The text does not go on with a digit. -/
def Stops (rest : List Char) : Prop := ∀ c ∈ rest.head?, c.isDigit = false

/-! ## Lemmas -/

/-! ### String literals -/

theorem hexValue_digitChar : ∀ d < 16, hexValue? (Nat.digitChar d) = some d := by decide

/-- The digits of an escape are read as its number. -/
theorem readFourHex_digits {n : Nat} (hn : n < 0x10000) (rest : List Char) :
    readFourHex (Nat.digitChar (n / 4096 % 16) :: Nat.digitChar (n / 256 % 16) ::
      Nat.digitChar (n / 16 % 16) :: Nat.digitChar (n % 16) :: rest) = some (n, rest) := by
  have hdigit : ∀ k, hexValue? (Nat.digitChar (k % 16)) = some (k % 16) :=
    fun k => hexValue_digitChar _ (Nat.mod_lt _ (by decide))
  unfold readFourHex
  dsimp only
  rw [hdigit, hdigit, hdigit, hdigit]
  show some (_, rest) = _
  have hsum : n / 4096 % 16 * 4096 + n / 256 % 16 * 256 + n / 16 % 16 * 16 + n % 16 = n := by omega
  rw [hsum]

/-- A character that is no surrogate is read off its escape. -/
theorem readUnicode_short {n : Nat} (hn : n < 0x10000) (hshort : ¬ (0xd800 ≤ n ∧ n < 0xdc00))
    (rest : List Char) :
    readUnicode ((unicodeEscape n).drop 2 ++ rest) = some (Char.ofNat n, rest) := by
  unfold readUnicode
  rw [show readFourHex ((unicodeEscape n).drop 2 ++ rest) = some (n, rest) from
    readFourHex_digits hn rest]
  show (if _ then _ else _) = _
  rw [if_neg hshort]

/-- Two surrogates are read as one character. -/
theorem readUnicode_pair {a b : Nat} (ha : 0xd800 ≤ a ∧ a < 0xdc00) (hb : b < 0x10000)
    (rest : List Char) :
    readUnicode ((unicodeEscape a).drop 2 ++ (unicodeEscape b ++ rest)) =
      some (Char.ofNat (0x10000 + (a - 0xd800) * 0x400 + (b - 0xdc00)), rest) := by
  have hfirst : readFourHex ((unicodeEscape a).drop 2 ++ (unicodeEscape b ++ rest)) =
      some (a, unicodeEscape b ++ rest) := readFourHex_digits (by omega) _
  have hsecond : readFourHex ((unicodeEscape b ++ rest).drop 2) = some (b, rest) :=
    readFourHex_digits hb _
  unfold readUnicode
  rw [hfirst]
  show (if _ then _ else _) = _
  rw [if_pos ha, hsecond]
  rfl

/-- A letter behind a backslash. -/
theorem readChar_letter {e x : Char} (he : e ≠ 'u') (hx : escapes.lookup e = some x)
    (rest : List Char) : readChar ('\\' :: e :: rest) = some (x, rest) := by
  unfold readChar
  dsimp only
  rw [if_neg (by simp), if_neg he, hx]
  rfl

theorem readChar_unicode (cs : List Char) : readChar ('\\' :: 'u' :: cs) = readUnicode cs := by
  unfold readChar
  dsimp only
  rw [if_neg (by simp), if_pos rfl]

theorem toNat_eq {c : Char} {n : Nat} (h : c.toNat = n) : c = Char.ofNat n := by
  rw [← h, Char.ofNat_toNat]

/-- **A character is read off its escape.** -/
theorem readChar_escape (c : Char) (rest : List Char) :
    readChar (escapeChar c ++ rest) = some (c, rest) := by
  unfold escapeChar
  dsimp only
  split
  · next h => rw [h]; exact readChar_letter (by decide) (by decide) rest
  split
  · next h => rw [h]; exact readChar_letter (by decide) (by decide) rest
  split
  · next h => rw [toNat_eq h]; exact readChar_letter (by decide) (by decide) rest
  split
  · next h => rw [toNat_eq h]; exact readChar_letter (by decide) (by decide) rest
  split
  · next h => rw [toNat_eq h]; exact readChar_letter (by decide) (by decide) rest
  split
  · next h => rw [toNat_eq h]; exact readChar_letter (by decide) (by decide) rest
  split
  · next h => rw [toNat_eq h]; exact readChar_letter (by decide) (by decide) rest
  split
  · next hslash _ _ _ _ _ _ =>
    show readChar (c :: rest) = _
    unfold readChar
    dsimp only
    rw [if_pos hslash]
  split
  · next hn =>
    show readChar ('\\' :: 'u' :: ((unicodeEscape c.toNat).drop 2 ++ rest)) = _
    rw [readChar_unicode, readUnicode_short hn ?_ rest, Char.ofNat_toNat]
    have hvalid : c.toNat < 0xd800 ∨ 0xdfff < c.toNat ∧ c.toNat < 0x110000 := c.valid
    omega
  · next hn =>
    rw [List.append_assoc]
    show readChar ('\\' :: 'u' :: ((unicodeEscape _).drop 2 ++ (unicodeEscape _ ++ rest))) = _
    have hvalid : c.toNat < 0xd800 ∨ 0xdfff < c.toNat ∧ c.toNat < 0x110000 := c.valid
    rw [readChar_unicode, readUnicode_pair (by omega) (by omega) rest]
    have hsum : 0x10000 + (0xd800 + (c.toNat - 0x10000) / 0x400 - 0xd800) * 0x400 +
        (0xdc00 + (c.toNat - 0x10000) % 0x400 - 0xdc00) = c.toNat := by omega
    rw [hsum, Char.ofNat_toNat]

/-- No escape looks like the end of a literal. -/
theorem escapeChar_head (c : Char) : ∃ x cs, escapeChar c = x :: cs ∧ x ≠ '"' := by
  unfold escapeChar
  dsimp only
  split
  · exact ⟨_, _, rfl, by decide⟩
  split
  · exact ⟨_, _, rfl, by decide⟩
  split
  · exact ⟨_, _, rfl, by decide⟩
  split
  · exact ⟨_, _, rfl, by decide⟩
  split
  · exact ⟨_, _, rfl, by decide⟩
  split
  · exact ⟨_, _, rfl, by decide⟩
  split
  · exact ⟨_, _, rfl, by decide⟩
  split
  · next hquote _ _ _ _ _ _ _ => exact ⟨c, [], rfl, hquote⟩
  split
  · exact ⟨_, _, rfl, by decide⟩
  · exact ⟨_, _, rfl, by decide⟩

/-- A literal is read back, behind its opening quote. -/
theorem readText_escaped (text rest : List Char) {n : Nat} (hn : text.length < n) :
    readText n (text.flatMap escapeChar ++ '"' :: rest) = some (text, rest) := by
  induction text generalizing n with
  | nil =>
    cases n with
    | zero => exact absurd hn (by simp)
    | succ n =>
      unfold readText
      exact if_pos rfl
  | cons c text ih =>
    cases n with
    | zero => exact absurd hn (by simp)
    | succ n =>
      rw [List.flatMap_cons, List.append_assoc]
      unfold readText
      obtain ⟨x, cs, hhead, hx⟩ := escapeChar_head c
      rw [if_neg (by rw [hhead]; simpa using hx), readChar_escape]
      show (readText n _ >>= _) = _
      rw [ih (by simpa using hn)]
      rfl

/-! ### Numbers and words -/

theorem toList_toString_nat (n : Nat) : (toString (Int.ofNat n)).toList = Nat.toDigits 10 n :=
  Nat.toList_repr

theorem toList_toString_neg (n : Nat) :
    (toString (Int.negSucc n)).toList = '-' :: Nat.toDigits 10 (n + 1) := by
  show ("-" ++ Nat.repr (n + 1)).toList = _
  rw [String.toList_append, Nat.toList_repr]
  rfl

theorem stops_cons {c : Char} (h : c.isDigit = false) (cs : List Char) : Stops (c :: cs) := by
  intro x hx
  cases hx
  exact h

theorem readNat_toDigits (n : Nat) {rest : List Char} (hr : Stops rest) :
    readNat (Nat.toDigits 10 n ++ rest) = some (n, rest) := by
  have hdigits : ∀ c ∈ Nat.toDigits 10 n, c.isDigit = true :=
    fun c hc => Nat.isDigit_of_mem_toDigits (by decide) (by decide) hc
  have hstop : rest.takeWhile Char.isDigit = [] ∧ rest.dropWhile Char.isDigit = rest := by
    cases rest with
    | nil => exact ⟨rfl, rfl⟩
    | cons c cs =>
      have hc := hr c rfl
      exact ⟨by rw [List.takeWhile_cons_of_neg (by simp [hc])],
        by rw [List.dropWhile_cons_of_neg (by simp [hc])]⟩
  unfold readNat
  rw [List.takeWhile_append_of_pos hdigits, List.dropWhile_append_of_pos hdigits, hstop.1, hstop.2,
    List.append_nil, if_neg Nat.toDigits_ne_nil, Nat.ofDigitChars_ten_toDigits]

/-- A number begins with a sign or a digit. -/
theorem toString_head (i : Int) :
    ∃ c cs, (toString i).toList = c :: cs ∧ (c = '-' ∨ c.isDigit = true) := by
  cases i with
  | ofNat n =>
    rw [toList_toString_nat]
    cases hd : Nat.toDigits 10 n with
    | nil => exact absurd hd Nat.toDigits_ne_nil
    | cons c cs =>
      have hc : c ∈ Nat.toDigits 10 n := by
        rw [hd]
        exact List.mem_cons_self
      exact ⟨c, cs, rfl, .inr (Nat.isDigit_of_mem_toDigits (by decide) (by decide) hc)⟩
  | negSucc n => exact ⟨'-', _, toList_toString_neg n, .inl rfl⟩

theorem readInt_toString (i : Int) {rest : List Char} (hr : Stops rest) :
    readInt ((toString i).toList ++ rest) = some (.int i, rest) := by
  cases i with
  | ofNat n =>
    obtain ⟨c, cs, hhead, hc⟩ := toString_head (Int.ofNat n)
    have hsign : ((toString (Int.ofNat n)).toList ++ rest).head? ≠ some '-' := by
      rw [toList_toString_nat] at hhead ⊢
      rw [hhead]
      intro h
      cases h
      have hmem : '-' ∈ Nat.toDigits 10 n := by
        rw [hhead]
        exact List.mem_cons_self
      exact absurd (Nat.isDigit_of_mem_toDigits (by decide) (by decide) hmem) (by decide)
    unfold readInt
    rw [if_neg hsign, toList_toString_nat, readNat_toDigits n hr]
    rfl
  | negSucc n =>
    rw [toList_toString_neg, List.cons_append]
    unfold readInt
    rw [List.head?_cons, if_pos rfl]
    show (readNat (Nat.toDigits 10 (n + 1) ++ rest)).map _ = _
    rw [readNat_toDigits (n + 1) hr]
    rfl

/-- What begins like a number is no word, and nothing else. -/
theorem readValue_number {c : Char} (hc : c = '-' ∨ c.isDigit = true) (n : Nat) (cs : List Char) :
    readValue (n + 1) (c :: cs) = readInt (c :: cs) := by
  have hne : ∀ x, x ≠ '-' → x.isDigit = false → c ≠ x := by
    rintro x hx hd rfl
    rcases hc with h | h
    · exact hx h
    · rw [hd] at h
      cases h
  have hword : readWord (c :: cs) = none := by
    unfold readWord
    rw [List.findSome?_eq_none_iff]
    intro w hw
    have hhead : ∃ x xs, w.1 = x :: xs ∧ c ≠ x := by
      rcases List.mem_cons.mp hw with rfl | hw
      · exact ⟨_, _, rfl, hne 'n' (by decide) (by decide)⟩
      rcases List.mem_cons.mp hw with rfl | hw
      · exact ⟨_, _, rfl, hne 't' (by decide) (by decide)⟩
      · rw [List.mem_singleton.mp hw]
        exact ⟨_, _, rfl, hne 'f' (by decide) (by decide)⟩
    obtain ⟨x, xs, hx, hcx⟩ := hhead
    rw [if_neg]
    rw [hx, List.isPrefixOf_cons_cons]
    simp [hcx.symm]
  unfold readValue
  rw [if_neg (hne _ (by decide) (by decide)), if_neg (hne _ (by decide) (by decide)),
    if_neg (hne _ (by decide) (by decide)), hword, Option.none_or]

/-! ### Joined items -/

theorem length_le_commaJoin {l : List (List Char)} {x : List Char} (h : x ∈ l) :
    x.length ≤ (commaJoin l).length := by
  induction l with
  | nil => cases h
  | cons y l ih =>
    cases l with
    | nil =>
      rw [List.mem_singleton.mp h]
      exact le_rfl
    | cons z l =>
      rw [commaJoin, List.length_append, List.length_cons]
      rcases List.mem_cons.mp h with rfl | h
      · omega
      · have := ih h
        omega

theorem length_commaJoin (l : List (List Char)) : l.length ≤ (commaJoin l).length + 1 := by
  induction l with
  | nil => exact Nat.zero_le _
  | cons x l ih =>
    cases l with
    | nil => exact Nat.le_add_left _ _
    | cons y l =>
      simp only [commaJoin, List.length_append, List.length_cons] at ih ⊢
      omega

section Joined

variable {α β : Type} {item : Reader β} {close : Char} {write : α → List Char} {value : α → β}
  {l : List α}

/-- Items that are read one by one are read joined. -/
theorem readJoined_join (hl : l ≠ [])
    (hitem : ∀ a ∈ l, ∀ rest, Stops rest → item (write a ++ rest) = some (value a, rest))
    (hclose : close ≠ ',' ∧ close.isDigit = false) {n : Nat} (hn : l.length ≤ n)
    (rest : List Char) :
    readJoined item close n (commaJoin (l.map write) ++ close :: rest) =
      some (l.map value, rest) := by
  induction l generalizing n with
  | nil => exact absurd rfl hl
  | cons a l ih =>
    cases n with
    | zero => exact absurd hn (by simp)
    | succ n =>
      have ha := hitem a List.mem_cons_self
      unfold readJoined
      cases l with
      | nil =>
        rw [List.map_singleton, commaJoin, ha _ (stops_cons hclose.2 rest)]
        show (if some close = some ',' then _ else if some close = some close then _ else _) = _
        rw [if_neg (by simpa using hclose.1), if_pos rfl]
        rfl
      | cons b l =>
        have hcomma : commaJoin ((a :: b :: l).map write) ++ close :: rest =
            write a ++ ',' :: (commaJoin ((b :: l).map write) ++ close :: rest) := by
          rw [List.map_cons, List.map_cons, commaJoin, List.append_assoc, List.cons_append]
        have hrest := ih (List.cons_ne_nil b l) (fun x hx => hitem x (List.mem_cons_of_mem _ hx))
          (n := n) (by simpa using hn)
        rw [hcomma, ha _ (stops_cons rfl _)]
        simp only [Option.bind_eq_bind, Option.bind_some, List.head?_cons, List.tail_cons, if_pos,
          hrest]
        rfl

/-- The items of an array or an object are read, if none begins like its closing bracket. -/
theorem readItems_join
    (hitem : ∀ a ∈ l, ∀ rest, Stops rest → item (write a ++ rest) = some (value a, rest))
    (hclose : close ≠ ',' ∧ close.isDigit = false)
    (hhead : ∀ a ∈ l, ∃ c cs, write a = c :: cs ∧ c ≠ close) (rest : List Char) :
    readItems item close (commaJoin (l.map write) ++ close :: rest) = some (l.map value, rest) := by
  unfold readItems
  cases l with
  | nil => exact if_pos rfl
  | cons a l =>
    obtain ⟨c, cs, hc, hne⟩ := hhead a List.mem_cons_self
    have hfirst : (commaJoin ((a :: l).map write) ++ close :: rest).head? = some c := by
      cases l with
      | nil =>
        show (write a ++ _).head? = _
        rw [hc]
        rfl
      | cons b l =>
        rw [List.map_cons, List.map_cons, commaJoin, hc]
        rfl
    rw [hfirst, if_neg (by simpa using hne)]
    refine readJoined_join (List.cons_ne_nil a l) hitem hclose ?_ rest
    have := length_commaJoin ((a :: l).map write)
    simp only [List.length_map, List.length_append, List.length_cons] at this ⊢
    omega

end Joined

/-! ### Sorted keys -/

namespace Json

theorem sortKeysList_eq (l : List Json) : sortKeysList l = l.map sortKeys := by
  induction l with
  | nil => rfl
  | cons v l ih => rw [sortKeysList, ih, List.map_cons]

theorem sortKeysItems_eq (d : JsonObj) : sortKeysItems d = d.map fun p => (p.1, p.2.sortKeys) := by
  induction d with
  | nil => rfl
  | cons p d ih => rw [sortKeysItems, ih, List.map_cons]

/-- A change of the values alone keeps the order. -/
theorem insertionSort_keys {α β : Type} (f : α → β) (d : List (String × α)) :
    (d.map fun p => (p.1, f p.2)).insertionSort (fun p q => p.1 ≤ q.1) =
      (d.insertionSort fun p q => p.1 ≤ q.1).map fun p => (p.1, f p.2) :=
  (List.map_insertionSort (fun p q : String × α => p.1 ≤ q.1)
    (fun p q : String × β => p.1 ≤ q.1) _ d fun _ _ _ _ => Iff.rfl).symm

theorem Plain.keysOnce {v : Json} (h : v.Plain) : v.KeysOnce := by
  induction h with
  | null => exact .null
  | bool b => exact .bool b
  | int i => exact .int i
  | str s => exact .str s
  | arr h ih => exact .arr fun i v hv => ih v (List.mem_of_getElem? hv)
  | obj hdict h ih => exact .of_items hdict ih

/-- The order of the keys is not part of a value. -/
theorem same_sortKeys {v : Json} (h : v.Plain) : v.Same v.sortKeys := by
  induction h with
  | null => exact .null
  | bool b => exact .bool b
  | int i => exact .int i
  | str s => exact .str s
  | @arr l h ih =>
    rw [sortKeys, sortKeysList_eq]
    refine .arr (by rw [List.length_map]) fun i v w hv hw => ?_
    rw [List.getElem?_map, hv] at hw
    cases hw
    exact ih v (List.mem_of_getElem? hv)
  | @obj d hdict h ih =>
    rw [sortKeys, sortKeysItems_eq]
    have hperm := List.perm_insertionSort (fun p q : String × Json => p.1 ≤ q.1)
      (d.map fun p => (p.1, p.2.sortKeys))
    have hkeys : ((d.map fun p => (p.1, p.2.sortKeys)).insertionSort fun p q => p.1 ≤ q.1).map
        Prod.fst |>.Nodup := by
      refine (hperm.map Prod.fst).nodup_iff.mpr ?_
      rw [List.map_map]
      exact hdict
    have hlookup : ∀ k, ((d.map fun p => (p.1, p.2.sortKeys)).insertionSort
        fun p q => p.1 ≤ q.1).lookup k = (d.lookup k).map sortKeys := by
      intro k
      refine Option.ext fun w => (Dict.mem_items_iff ⟨_, hkeys⟩ k w).symm.trans ?_
      rw [hperm.mem_iff, List.mem_map, Option.map_eq_some_iff]
      constructor
      · rintro ⟨p, hp, hpw⟩
        cases hpw
        exact ⟨p.2, (Dict.mem_items_iff ⟨d, hdict⟩ p.1 p.2).mp hp, rfl⟩
      · rintro ⟨v, hv, rfl⟩
        exact ⟨(k, v), (Dict.mem_items_iff ⟨d, hdict⟩ k v).mpr hv, rfl⟩
    refine .obj hkeys (fun k => ?_) fun k v w hv hw => ?_
    · rw [hlookup, Option.isSome_map]
    · rw [hlookup, hv] at hw
      cases hw
      exact ih (k, v) ((Dict.mem_items_iff ⟨d, hdict⟩ k v).mpr hv)

end Json

/-! ## Main results -/

section Main

variable (floatRepr : ℚ → List Char)

/-- Where an item of an array or an object begins, it does not end. -/
theorem dumps_head {v : Json} (h : v.Plain) :
    ∃ c cs, dumps floatRepr v = c :: cs ∧ c ≠ ']' := by
  cases h with
  | null => exact ⟨_, _, rfl, by decide⟩
  | bool b => cases b <;> exact ⟨_, _, rfl, by decide⟩
  | int i =>
    obtain ⟨c, cs, hhead, hc⟩ := toString_head i
    refine ⟨c, cs, hhead, ?_⟩
    rintro rfl
    revert hc
    decide
  | str s => exact ⟨_, _, rfl, by decide⟩
  | arr h => exact ⟨_, _, rfl, by decide⟩
  | obj hdict h => exact ⟨_, _, rfl, by decide⟩

theorem readText_quoted (s : String) {n : Nat} {rest : List Char}
    (hn : (s.toList.flatMap escapeChar).length < n) :
    readText n (s.toList.flatMap escapeChar ++ '"' :: rest) = some (s.toList, rest) := by
  refine readText_escaped _ _ (lt_of_le_of_lt ?_ hn)
  generalize s.toList = cs
  induction cs with
  | nil => exact le_rfl
  | cons c cs ih =>
    obtain ⟨x, xs, hx, -⟩ := escapeChar_head c
    rw [List.flatMap_cons, List.length_append, hx, List.length_cons, List.length_cons]
    omega

theorem readPair_dumps {p : String × Json} {n : Nat} {rest : List Char}
    (h : readValue n (dumps floatRepr p.2 ++ rest) = some (p.2.sortKeys, rest)) :
    readPair (readValue n) (quoted p.1 ++ ':' :: dumps floatRepr p.2 ++ rest) =
      some ((p.1, p.2.sortKeys), rest) := by
  have htext : quoted p.1 ++ ':' :: dumps floatRepr p.2 ++ rest =
      '"' :: (p.1.toList.flatMap escapeChar ++ '"' :: ':' :: (dumps floatRepr p.2 ++ rest)) := by
    unfold quoted
    simp only [List.cons_append, List.append_assoc, List.nil_append]
  have hkey : readText (quoted p.1 ++ ':' :: dumps floatRepr p.2 ++ rest).length
      (p.1.toList.flatMap escapeChar ++ '"' :: ':' :: (dumps floatRepr p.2 ++ rest)) =
      some (p.1.toList, ':' :: (dumps floatRepr p.2 ++ rest)) := by
    refine readText_quoted _ ?_
    rw [htext]
    simp only [List.length_cons, List.length_append]
    omega
  rw [htext] at hkey ⊢
  unfold readPair
  rw [List.head?_cons, if_pos rfl, List.tail_cons, hkey]
  simp only [Option.bind_eq_bind, Option.bind_some, List.head?_cons, List.tail_cons, if_pos, h,
    String.ofList_toList]

/-- **A value is read back from its text**, up to the order of keys. -/
theorem readValue_dumps {v : Json} (h : v.Plain) {n : Nat} {rest : List Char}
    (hn : (dumps floatRepr v).length ≤ n + 1) (hr : Stops rest) :
    readValue (n + 1) (dumps floatRepr v ++ rest) = some (v.sortKeys, rest) := by
  induction h generalizing n rest with
  | null => rfl
  | bool b => cases b <;> rfl
  | int i =>
    obtain ⟨c, cs, hhead, hc⟩ := toString_head i
    have hread := readInt_toString i hr
    rw [show dumps floatRepr (.int i) = c :: cs from hhead, List.cons_append, readValue_number hc]
    rw [hhead] at hread
    exact hread
  | str s =>
    have htext : dumps floatRepr (.str s) ++ rest =
        '"' :: (s.toList.flatMap escapeChar ++ '"' :: rest) := by
      rw [dumps, quoted, List.cons_append, List.append_assoc]
      rfl
    rw [htext]
    unfold readValue
    rw [if_pos rfl, readText_quoted]
    · rw [Option.map_some, String.ofList_toList]
      rfl
    · rw [List.length_append]
      omega
  | @arr l h ih =>
    have htext : dumps floatRepr (.arr l) =
        '[' :: (commaJoin (l.map (dumps floatRepr)) ++ [']']) := by
      rw [dumps, dumpsList_eq_map]
    rw [htext] at hn ⊢
    simp only [List.length_cons, List.length_append] at hn
    cases n with
    | zero => omega
    | succ n =>
      have hitems : readItems (readValue (n + 1)) ']'
          (commaJoin (l.map (dumps floatRepr)) ++ ']' :: rest) = some (l.map Json.sortKeys, rest) := by
        refine readItems_join (fun v hv rest hr => ih v hv ?_ hr) ⟨by decide, by decide⟩
          (fun v hv => dumps_head floatRepr (h v hv)) rest
        have := length_le_commaJoin (List.mem_map_of_mem (f := dumps floatRepr) hv)
        omega
      rw [List.cons_append, List.append_assoc]
      unfold readValue
      rw [if_neg (by decide), if_pos rfl, List.singleton_append, hitems, Option.map_some,
        Json.sortKeys, Json.sortKeysList_eq]
  | @obj d hdict h ih =>
    -- the pairs are written in the order of their keys
    have hsorted : sortedItems (dumpsItems floatRepr d) =
        (d.insertionSort fun p q => p.1 ≤ q.1).map fun p => (p.1, dumps floatRepr p.2) := by
      rw [dumpsItems_eq_map]
      exact Json.insertionSort_keys (dumps floatRepr) d
    have htext : dumps floatRepr (.obj d) =
        '\x7b' :: (commaJoin ((d.insertionSort fun p q => p.1 ≤ q.1).map
          fun p => quoted p.1 ++ ':' :: dumps floatRepr p.2) ++ ['\x7d']) := by
      rw [dumps, hsorted, List.map_map]
      rfl
    have hmem : ∀ p ∈ d.insertionSort fun p q => p.1 ≤ q.1, p ∈ d :=
      fun p hp => (List.mem_insertionSort _).mp hp
    rw [htext] at hn ⊢
    simp only [List.length_cons, List.length_append] at hn
    cases n with
    | zero => omega
    | succ n =>
      have hitems : readItems (readPair (readValue (n + 1))) '\x7d'
          (commaJoin ((d.insertionSort fun p q => p.1 ≤ q.1).map
            fun p => quoted p.1 ++ ':' :: dumps floatRepr p.2) ++ '\x7d' :: rest) =
          some ((d.insertionSort fun p q => p.1 ≤ q.1).map fun p => (p.1, p.2.sortKeys), rest) := by
        refine readItems_join (fun p hp rest hr => readPair_dumps floatRepr (ih p (hmem p hp) ?_ hr))
          ⟨by decide, by decide⟩ (fun p _ => ⟨_, _, rfl, by decide⟩) rest
        have := length_le_commaJoin (List.mem_map_of_mem
          (f := fun p : String × Json => quoted p.1 ++ ':' :: dumps floatRepr p.2) hp)
        simp only [List.length_append, List.length_cons] at this
        omega
      rw [List.cons_append, List.append_assoc]
      unfold readValue
      rw [if_neg (by decide), if_neg (by decide), if_pos rfl, List.singleton_append, hitems,
        Option.map_some, Json.sortKeys, Json.sortKeysItems_eq, Json.insertionSort_keys]

/-- The reader inverts `dumps`. -/
theorem jsonReader_readsBack {v : Json} (h : v.Plain) : jsonReader.ReadsBack floatRepr v := by
  refine ⟨v.sortKeys, ?_, Json.same_sortKeys h⟩
  have hread : readValue ((dumps floatRepr v).length + 1) (dumps floatRepr v ++ []) =
      some (v.sortKeys, []) := readValue_dumps floatRepr h (Nat.le_succ _) fun c hc => nomatch hc
  rw [List.append_nil] at hread
  show readBytes (dumpsBytes floatRepr v) = _
  unfold readBytes
  rw [show (dumpsBytes floatRepr v).toByteArray = (dumps floatRepr v).utf8Encode from rfl,
    List.utf8Decode?_utf8Encode]
  show readWhole (dumps floatRepr v) = _
  unfold readWhole
  rw [hread]

end Main

end Py
