import Mathlib.Data.List.Basic
import Mathlib.Logic.Function.Basic

/-!
# Files that outlive a crash

A directory and its files as the system keeps them (`Fs`), and what a power cut leaves of them
(`Fs.cut`): one of the versions the directory had since the last cut, and in a file that was not
synced, anything at all.  A process that is killed takes nothing with it.

A name *stores* a cell when in every version of the directory there is nothing or a synced file
under it.  What the name reads is then the value of the cell, and what a cut may bring back is a
value it had before.

    a file elsewhere is made, written, synced, unlinked    Stores s name c         (Scratch.*)
    a synced file is renamed onto the name                 Stores s name (c.set v) (Scratch.replace)
    the power is cut                                       Stores s name ⟨v, []⟩   (Stores.cut)
-/

namespace Storage

variable {Name β γ : Type}

/-! ## Algorithm -/

/-- A file: what is read from it, and whether all of that is on the disk. -/
structure Inode (β : Type) where
  data : List β
  synced : Bool

abbrev Directory (Name : Type) : Type := Name → Option Nat

/-- The directory, the versions a power cut may take it back to, and the files by number. -/
structure Fs (Name β : Type) where
  names : Directory Name
  past : List (Directory Name)
  inodes : List (Inode β)
  bounded : ∀ d ∈ names :: past, ∀ name i, d name = some i → i < inodes.length

namespace Fs

def versions (s : Fs Name β) : List (Directory Name) := s.names :: s.past

/-- What a process reads under a name. -/
def read (s : Fs Name β) (name : Name) : Option (List β) :=
  (s.names name).bind fun i => s.inodes[i]?.map Inode.data

def empty : Fs Name β := ⟨fun _ => none, [], [], by simp⟩

/-- The directory changes at once; the version before may still come back. -/
def change (s : Fs Name β) (d : Directory Name)
    (h : ∀ name i, d name = some i → i < s.inodes.length) : Fs Name β where
  names := d
  past := s.names :: s.past
  inodes := s.inodes
  bounded := by
    intro e he
    rcases List.mem_cons.mp he with rfl | he
    · exact h
    · exact s.bounded e he

/-- A new empty file, numbered next. -/
def allocate (s : Fs Name β) : Fs Name β where
  names := s.names
  past := s.past
  inodes := s.inodes ++ [⟨[], false⟩]
  bounded := by
    intro d hd name i h
    have := s.bounded d hd name i h
    simp only [List.length_append, List.length_singleton]
    omega

/-- A new empty file under a name. -/
def create [DecidableEq Name] (name : Name) (s : Fs Name β) : Fs Name β :=
  s.allocate.change (Function.update s.names name (some s.inodes.length)) (by
    intro n i h
    have hlen : s.allocate.inodes.length = s.inodes.length + 1 := by simp [allocate]
    rw [hlen]
    by_cases hn : n = name
    · rw [hn, Function.update_self] at h
      cases h
      omega
    · rw [Function.update_of_ne hn] at h
      have := s.bounded s.names (by simp) n i h
      omega)

/-- The file numbered `i` changes, and nothing else. -/
def alter (i : Nat) (f : Inode β → Inode β) (s : Fs Name β) : Fs Name β where
  names := s.names
  past := s.past
  inodes := s.inodes.modify i f
  bounded := by
    intro d hd name j h
    rw [List.length_modify]
    exact s.bounded d hd name j h

/-- More bytes at the end of a file; they are not on the disk yet. -/
def write (i : Nat) (bytes : List β) (s : Fs Name β) : Fs Name β :=
  s.alter i fun f => ⟨f.data ++ bytes, false⟩

def sync (i : Nat) (s : Fs Name β) : Fs Name β := s.alter i fun f => ⟨f.data, true⟩

/-- `rename`: the target is replaced, if there is one. -/
def replace [DecidableEq Name] (source target : Name) (s : Fs Name β) : Fs Name β :=
  s.change (Function.update (Function.update s.names source none) target (s.names source)) (by
    intro n i h
    by_cases hn : n = target
    · rw [hn, Function.update_self] at h
      exact s.bounded s.names (by simp) source i h
    · rw [Function.update_of_ne hn] at h
      by_cases hs : n = source
      · rw [hs, Function.update_self] at h
        cases h
      · rw [Function.update_of_ne hs] at h
        exact s.bounded s.names (by simp) n i h)

def unlink [DecidableEq Name] (name : Name) (s : Fs Name β) : Fs Name β :=
  s.change (Function.update s.names name none) (by
    intro n i h
    by_cases hn : n = name
    · rw [hn, Function.update_self] at h
      cases h
    · rw [Function.update_of_ne hn] at h
      exact s.bounded s.names (by simp) n i h)

theorem version_mem (s : Fs Name β) (k : Nat) : (s.versions[k]?).getD s.names ∈ s.versions := by
  cases h : s.versions[k]? with
  | none => simp [versions]
  | some d => exact List.mem_of_getElem? h

/-- A power cut: the directory is its version `k`, and the file `i`, if it was not synced, holds
`left i`. -/
def cut (k : Nat) (left : Nat → List β) (s : Fs Name β) : Fs Name β where
  names := (s.versions[k]?).getD s.names
  past := []
  inodes := s.inodes.mapIdx fun i f => ⟨if f.synced then f.data else left i, true⟩
  bounded := by
    intro d hd name i h
    rw [List.mem_singleton.mp hd] at h
    rw [List.length_mapIdx]
    exact s.bounded _ (s.version_mem k) name i h

end Fs

/-! ## Statement -/

/-- A value that is changed at once, with the values a power cut may bring back. -/
structure Cell (γ : Type) where
  value : Option γ
  older : List (Option γ)

def Cell.values (c : Cell γ) : List (Option γ) := c.value :: c.older

def Cell.set (v : γ) (c : Cell γ) : Cell γ := ⟨some v, c.values⟩

/-- No file, or a file whose content is on the disk. -/
inductive Holds (s : Fs Name β) : Option Nat → Option (List β) → Prop
  | absent : Holds s none none
  | file {i : Nat} {data : List β} (h : s.inodes[i]? = some ⟨data, true⟩) :
      Holds s (some i) (some data)

/-- The name holds the value of the cell, written as `encode` does, and held in each version of the
directory one of its values. -/
structure Stores (encode : γ → List β) (s : Fs Name β) (name : Name) (c : Cell γ) : Prop where
  now : Holds s (s.names name) (c.value.map encode)
  past : ∀ d ∈ s.past, ∃ v ∈ c.values, Holds s (d name) (v.map encode)

/-- Since `base` a file is being written under the name `scratch`, which was free: its number is
`i`, which `name` never had, and nothing else has changed. -/
structure Scratch (encode : γ → List β) (base s : Fs Name β) (name : Name) (c : Cell γ)
    (scratch : Name) (i : Nat) (f : Inode β) : Prop where
  stores : Stores encode s name c
  other : scratch ≠ name
  free : base.names scratch = none
  linked : s.names scratch = some i
  file : s.inodes[i]? = some f
  apart : ∀ d ∈ s.versions, d name ≠ some i
  fresh : base.inodes.length ≤ i
  names : ∀ n, n ≠ scratch → s.names n = base.names n
  files : ∀ j < base.inodes.length, s.inodes[j]? = base.inodes[j]?

/-- The same files under every name but one. -/
def Fs.SameBut (name : Name) (s t : Fs Name β) : Prop :=
  ∀ other, other ≠ name → t.read other = s.read other

/-! ## Lemmas -/

section Lemmas

variable {encode : γ → List β} {base s t u : Fs Name β} {name scratch : Name} {c : Cell γ}
  {i : Nat} {f : Inode β}

theorem Holds.read (h : Holds s (s.names name) (c.value.map encode)) :
    s.read name = c.value.map encode := by
  unfold Fs.read
  generalize s.names name = x at h
  generalize c.value.map encode = y at h
  cases h with
  | absent => rfl
  | file hi => simp [hi]

/-- **The name reads the value of the cell.** -/
theorem Stores.read (h : Stores encode s name c) : s.read name = c.value.map encode := h.now.read

theorem stores_empty : Stores encode (Fs.empty : Fs Name β) name ⟨none, []⟩ where
  now := .absent
  past := by simp [Fs.empty]

/-- A file that did not change holds what it held. -/
theorem Holds.of_same {x : Option Nat} {y : Option (List β)} (h : Holds s x y)
    (hsame : ∀ j, x = some j → j < s.inodes.length → t.inodes[j]? = s.inodes[j]?) : Holds t x y := by
  cases h with
  | absent => exact .absent
  | file hi =>
    have hlt := (List.getElem?_eq_some_iff.mp hi).1
    exact .file ((hsame _ rfl hlt).trans hi)

/-- The versions of the name hold what they held when none of its files changed. -/
theorem Stores.of_same (h : Stores encode s name c) (hnames : t.names = s.names)
    (hpast : t.past = s.past)
    (hsame : ∀ d ∈ s.versions, ∀ j, d name = some j → j < s.inodes.length →
      t.inodes[j]? = s.inodes[j]?) : Stores encode t name c where
  now := by
    rw [hnames]
    exact h.now.of_same (hsame s.names (by simp [Fs.versions]))
  past := by
    intro d hd
    rw [hpast] at hd
    obtain ⟨v, hv, hd'⟩ := h.past d hd
    exact ⟨v, hv, hd'.of_same (hsame d (by simp [Fs.versions, hd]))⟩

/-- A change of the directory that leaves the name alone. -/
theorem Stores.change {d : Directory Name}
    {hd : ∀ name i, d name = some i → i < s.inodes.length} (h : Stores encode s name c)
    (hname : d name = s.names name) : Stores encode (s.change d hd) name c where
  now := by
    show Holds (s.change d hd) (d name) _
    rw [hname]
    exact h.now.of_same fun _ _ _ => rfl
  past := by
    intro e he
    rcases List.mem_cons.mp he with rfl | he
    · exact ⟨c.value, by simp [Cell.values], h.now.of_same fun _ _ _ => rfl⟩
    · obtain ⟨v, hv, he'⟩ := h.past e he
      exact ⟨v, hv, he'.of_same fun _ _ _ => rfl⟩

theorem getElem?_allocate {j : Nat} (hj : j < s.inodes.length) :
    s.allocate.inodes[j]? = s.inodes[j]? := by
  simp [Fs.allocate, List.getElem?_append_left hj]

/-- Reading goes by the directory and the files that were there. -/
theorem Fs.read_of_same {other : Name} (hname : t.names other = s.names other)
    (hfiles : ∀ j < s.inodes.length, t.inodes[j]? = s.inodes[j]?) :
    t.read other = s.read other := by
  unfold Fs.read
  rw [hname]
  cases h : s.names other with
  | none => rfl
  | some j =>
    have hj := s.bounded s.names (by simp) other j h
    simp [hfiles j hj]

theorem getElem?_cut {k : Nat} {left : Nat → List β} {j : Nat} {data : List β}
    (h : s.inodes[j]? = some ⟨data, true⟩) :
    (s.cut k left).inodes[j]? = some ⟨data, true⟩ := by
  simp [Fs.cut, List.getElem?_mapIdx, h]

/-- **A power cut takes the cell to a value it had.** -/
theorem Stores.cut (h : Stores encode s name c) (k : Nat) (left : Nat → List β) :
    ∃ v ∈ c.values, Stores encode (s.cut k left) name ⟨v, []⟩ := by
  have hany : ∀ d ∈ s.versions, ∃ v ∈ c.values, Holds s (d name) (v.map encode) := by
    intro d hd
    rcases List.mem_cons.mp hd with rfl | hd
    · exact ⟨c.value, by simp [Cell.values], h.now⟩
    · exact h.past d hd
  obtain ⟨v, hv, hholds⟩ := hany _ (s.version_mem k)
  refine ⟨v, hv, ?_, by simp [Fs.cut]⟩
  show Holds (s.cut k left) (((s.versions[k]?).getD s.names) name) (v.map encode)
  generalize ((s.versions[k]?).getD s.names) name = x at hholds
  generalize v.map encode = y at hholds
  cases hholds with
  | absent => exact .absent
  | file hi => exact .file (getElem?_cut hi)

/-! ### Writing a file and renaming it -/

variable [DecidableEq Name]

/-- A new file under another name. -/
theorem Stores.create (h : Stores encode s name c) (hne : scratch ≠ name)
    (hfree : s.names scratch = none) :
    Scratch encode s (s.create scratch) name c scratch s.inodes.length ⟨[], false⟩ where
  stores := by
    have hs : Stores encode s.allocate name c :=
      h.of_same rfl rfl fun _ _ _ _ hj => getElem?_allocate hj
    exact hs.change (Function.update_of_ne hne.symm _ _)
  other := hne
  free := hfree
  linked := Function.update_self ..
  file := by simp [Fs.create, Fs.change, Fs.allocate]
  apart := by
    intro d hd hcon
    have hold : ∀ e ∈ s.versions, e name ≠ some s.inodes.length := by
      intro e he hc
      exact absurd (s.bounded e he name _ hc) (Nat.lt_irrefl _)
    rcases List.mem_cons.mp hd with rfl | hd
    · rw [show (s.create scratch).names name = s.names name from
        Function.update_of_ne hne.symm _ _] at hcon
      exact hold s.names (by simp [Fs.versions]) hcon
    · exact hold d hd hcon
  fresh := Nat.le_refl _
  names n hn := Function.update_of_ne hn _ _
  files _ hj := getElem?_allocate hj

omit [DecidableEq Name] in
/-- The scratch file changes, and the cell does not. -/
theorem Scratch.alter (h : Scratch encode base s name c scratch i f) (g : Inode β → Inode β) :
    Scratch encode base (s.alter i g) name c scratch i (g f) where
  stores := by
    refine h.stores.of_same (t := s.alter i g) rfl rfl ?_
    intro d hd j hj _
    have hij : i ≠ j := fun he => h.apart d hd (he ▸ hj)
    exact List.getElem?_modify_ne g _ hij
  other := h.other
  free := h.free
  linked := h.linked
  file := by
    show (s.inodes.modify i g)[i]? = some (g f)
    rw [List.getElem?_modify_eq, h.file]
    rfl
  apart := h.apart
  fresh := h.fresh
  names := h.names
  files j hj := by
    have hij : i ≠ j := by
      have := h.fresh
      omega
    exact (List.getElem?_modify_ne g _ hij).trans (h.files j hj)

omit [DecidableEq Name] in
theorem Scratch.write (h : Scratch encode base s name c scratch i f) (bytes : List β) :
    Scratch encode base (s.write i bytes) name c scratch i ⟨f.data ++ bytes, false⟩ := h.alter _

omit [DecidableEq Name] in
theorem Scratch.sync (h : Scratch encode base s name c scratch i f) :
    Scratch encode base (s.sync i) name c scratch i ⟨f.data, true⟩ := h.alter _

theorem Scratch.unlink (h : Scratch encode base s name c scratch i f) :
    Stores encode (s.unlink scratch) name c :=
  h.stores.change (Function.update_of_ne h.other.symm _ _)

/-- Once the scratch file is unlinked, every name reads as before. -/
theorem Scratch.unlink_read (h : Scratch encode base s name c scratch i f) (n : Name) :
    (s.unlink scratch).read n = base.read n := by
  apply Fs.read_of_same
  · show Function.update s.names scratch none n = base.names n
    by_cases hn : n = scratch
    · rw [hn, Function.update_self, h.free]
    · rw [Function.update_of_ne hn, h.names n hn]
  · exact h.files

/-- **A synced file renamed onto the name sets the cell, at once.** -/
theorem Scratch.replace {v : γ} (h : Scratch encode base s name c scratch i ⟨encode v, true⟩) :
    Stores encode (s.replace scratch name) name (c.set v) where
  now := by
    have hname : (s.replace scratch name).names name = some i :=
      (Function.update_self ..).trans h.linked
    rw [hname]
    exact .file h.file
  past := by
    intro d hd
    rcases List.mem_cons.mp hd with rfl | hd
    · exact ⟨c.value, by simp [Cell.set, Cell.values], h.stores.now.of_same fun _ _ _ => rfl⟩
    · obtain ⟨v', hv', hd'⟩ := h.stores.past d hd
      exact ⟨v', List.mem_cons_of_mem _ hv', hd'.of_same fun _ _ _ => rfl⟩

/-- Nothing else changes with it. -/
theorem Scratch.replace_sameBut (h : Scratch encode base s name c scratch i f) :
    base.SameBut name (s.replace scratch name) := by
  intro n hne
  apply Fs.read_of_same
  · show Function.update (Function.update s.names scratch none) name (s.names scratch) n = _
    rw [Function.update_of_ne hne]
    by_cases hn : n = scratch
    · rw [hn, Function.update_self, h.free]
    · rw [Function.update_of_ne hn, h.names n hn]
  · exact h.files

end Lemmas

end Storage
