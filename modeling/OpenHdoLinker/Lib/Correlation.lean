import OpenHdoLinker.Lib.PyDict

/-!
# Replies matched to requests by a key

Requests are numbered in the order they are made, messages in the order they arrive.
A table maps the key of an open request to its number; a message takes the entry of
its key out, and settles that request unless it has been given up.  Entries can be
overwritten, taken out by key and cleared at any time.

* `Table.settled_ok`: a settled request was settled by a message with its key that
  arrived after the request was made.
* `Table.once`: no message settles two requests.
* `Table.Extends`: what never changes, whatever is done to the table.
-/

namespace Correlation

open Py (Dict)

/-- What has become of a request; `settled` by which message. -/
inductive Outcome
  | waiting
  | settled (message : Nat)
  | failed
deriving DecidableEq

/-- A request: its key, who made it, and how many messages had arrived before. -/
structure Request (κ ω : Type) where
  key : κ
  owner : ω
  before : Nat

/-- The open requests, and the history they come from. -/
structure Table {κ μ : Type} [DecidableEq κ] (keyOf : μ → κ) (IsReply : μ → Prop) (ω : Type) where
  entries : Dict κ Nat
  requests : List (Request κ ω)
  outcome : Nat → Outcome
  messages : List μ
  entries_ok : ∀ key k, entries.get? key = some k →
    ∃ r, requests[k]? = some r ∧ r.key = key ∧ r.before ≤ messages.length
  settled_ok : ∀ k m, outcome k = .settled m → ∃ r message, requests[k]? = some r ∧
    messages[m]? = some message ∧ IsReply message ∧ keyOf message = r.key ∧ r.before ≤ m
  once : ∀ k k' m, outcome k = .settled m → outcome k' = .settled m → k = k'

section Lists

variable {α : Type} {l l' : List α} {k : Nat} {a : α}

theorem getElem?_of_prefix (h : l <+: l') (hk : l[k]? = some a) : l'[k]? = some a := by
  obtain ⟨t, rfl⟩ := h
  obtain ⟨hlt, -⟩ := List.getElem?_eq_some_iff.mp hk
  rw [List.getElem?_append_left hlt]
  exact hk

theorem lt_of_getElem? (hk : l[k]? = some a) : k < l.length :=
  (List.getElem?_eq_some_iff.mp hk).1

end Lists

namespace Table

variable {κ μ ω : Type} [DecidableEq κ] {keyOf : μ → κ} {IsReply : μ → Prop}

def empty : Table keyOf IsReply ω where
  entries := Dict.empty
  requests := []
  outcome _ := .waiting
  messages := []
  entries_ok := nofun
  settled_ok := nofun
  once := nofun

/-! ## Operations -/

/-- A request that no entry is made for. -/
def issue (t : Table keyOf IsReply ω) (key : κ) (owner : ω) : Table keyOf IsReply ω :=
  { t with
    requests := t.requests ++ [⟨key, owner, t.messages.length⟩]
    entries_ok := by
      intro key' k hk
      obtain ⟨r, hr, hkey, hbefore⟩ := t.entries_ok key' k hk
      exact ⟨r, getElem?_of_prefix (List.prefix_append _ _) hr, hkey, hbefore⟩
    settled_ok := by
      intro k m hk
      obtain ⟨r, message, hr, hrest⟩ := t.settled_ok k m hk
      exact ⟨r, message, getElem?_of_prefix (List.prefix_append _ _) hr, hrest⟩ }

/-- A request, and its entry. -/
def enter (t : Table keyOf IsReply ω) (key : κ) (owner : ω) : Table keyOf IsReply ω :=
  { t.issue key owner with
    entries := t.entries.set key t.requests.length
    entries_ok := by
      intro key' k hk
      rw [Dict.get?_set] at hk
      split at hk
      · next h =>
        cases hk
        exact ⟨_, List.getElem?_concat_length, h.symm, Nat.le_refl _⟩
      · exact (t.issue key owner).entries_ok key' k hk }

/-- The entry of a key is taken out. -/
def forget (t : Table keyOf IsReply ω) (key : κ) : Table keyOf IsReply ω :=
  { t with
    entries := t.entries.erase key
    entries_ok := by
      intro key' k hk
      rw [Dict.get?_erase] at hk
      split at hk
      · cases hk
      · exact t.entries_ok key' k hk }

/-- The requests that are still waiting and meet the condition are given up. -/
def fail (t : Table keyOf IsReply ω) (which : Nat → Bool) : Table keyOf IsReply ω :=
  { t with
    outcome := fun k => if t.outcome k = .waiting ∧ which k = true then .failed else t.outcome k
    settled_ok := by
      intro k m hk
      split at hk
      · cases hk
      · exact t.settled_ok k m hk
    once := by
      intro k k' m hk hk'
      split at hk
      · cases hk
      · split at hk'
        · cases hk'
        · exact t.once k k' m hk hk' }

/-- Every open request is given up. -/
def clear (t : Table keyOf IsReply ω) : Table keyOf IsReply ω :=
  { t.fail fun k => k ∈ t.entries.vals with
    entries := Dict.empty
    entries_ok := nofun }

/-- A message that is no reply. -/
def skip (t : Table keyOf IsReply ω) (message : μ) : Table keyOf IsReply ω :=
  { t with
    messages := t.messages ++ [message]
    entries_ok := by
      intro key k hk
      obtain ⟨r, hr, hkey, hbefore⟩ := t.entries_ok key k hk
      refine ⟨r, hr, hkey, ?_⟩
      rw [List.length_append]
      omega
    settled_ok := by
      intro k m hk
      obtain ⟨r, message', hr, hm, hrest⟩ := t.settled_ok k m hk
      exact ⟨r, message', hr, getElem?_of_prefix (List.prefix_append _ _) hm, hrest⟩ }

theorem settled_lt (t : Table keyOf IsReply ω) {k m : Nat} (h : t.outcome k = .settled m) :
    m < t.messages.length := by
  obtain ⟨r, message, -, hm, -⟩ := t.settled_ok k m h
  exact lt_of_getElem? hm

/-- A reply takes the entry of its key out and settles that request. -/
def settle (t : Table keyOf IsReply ω) (message : μ) (h : IsReply message) (k : Nat)
    (hk : t.entries.get? (keyOf message) = some k) : Table keyOf IsReply ω :=
  { (t.skip message).forget (keyOf message) with
    outcome := fun j => if j = k ∧ t.outcome k = .waiting then .settled t.messages.length
      else t.outcome j
    settled_ok := by
      intro j m hj
      split at hj
      · next hjk =>
        cases hj
        obtain ⟨r, hr, hkey, hbefore⟩ := t.entries_ok _ k hk
        exact ⟨r, message, hjk.1 ▸ hr, List.getElem?_concat_length, h, hkey.symm, hbefore⟩
      · exact (t.skip message).settled_ok j m hj
    once := by
      intro j j' m hj hj'
      split at hj
      · next hjk =>
        split at hj'
        · next hjk' => exact hjk.1.trans hjk'.1.symm
        · cases hj
          exact absurd (t.settled_lt hj') (Nat.lt_irrefl _)
      · split at hj'
        · cases hj'
          exact absurd (t.settled_lt hj) (Nat.lt_irrefl _)
        · exact t.once j j' m hj hj' }

/-- A message arrives. -/
def receive [DecidablePred IsReply] (t : Table keyOf IsReply ω) (message : μ) :
    Table keyOf IsReply ω :=
  if h : IsReply message then
    match hk : t.entries.get? (keyOf message) with
    | some k => t.settle message h k hk
    | none => t.skip message
  else t.skip message

/-! ## What is kept -/

/-- Requests and messages stay, and so does what settled a request. -/
structure Extends (t t' : Table keyOf IsReply ω) : Prop where
  requests : t.requests <+: t'.requests
  messages : t.messages <+: t'.messages
  settled : ∀ k m, t.outcome k = .settled m → t'.outcome k = .settled m

variable {t t' t'' : Table keyOf IsReply ω}

theorem Extends.refl (t : Table keyOf IsReply ω) : t.Extends t :=
  ⟨List.prefix_rfl, List.prefix_rfl, fun _ _ h => h⟩

theorem Extends.trans (h : t.Extends t') (h' : t'.Extends t'') : t.Extends t'' :=
  ⟨h.requests.trans h'.requests, h.messages.trans h'.messages,
    fun k m hk => h'.settled k m (h.settled k m hk)⟩

theorem extends_issue (t : Table keyOf IsReply ω) (key : κ) (owner : ω) :
    t.Extends (t.issue key owner) :=
  ⟨List.prefix_append _ _, List.prefix_rfl, fun _ _ h => h⟩

theorem extends_enter (t : Table keyOf IsReply ω) (key : κ) (owner : ω) :
    t.Extends (t.enter key owner) :=
  ⟨List.prefix_append _ _, List.prefix_rfl, fun _ _ h => h⟩

theorem extends_forget (t : Table keyOf IsReply ω) (key : κ) : t.Extends (t.forget key) :=
  ⟨List.prefix_rfl, List.prefix_rfl, fun _ _ h => h⟩

theorem extends_fail (t : Table keyOf IsReply ω) (which : Nat → Bool) :
    t.Extends (t.fail which) := by
  refine ⟨List.prefix_rfl, List.prefix_rfl, ?_⟩
  intro k m hk
  have hdone : ¬ (t.outcome k = .waiting ∧ which k = true) := by
    rintro ⟨hwaiting, -⟩
    rw [hk] at hwaiting
    cases hwaiting
  exact (if_neg hdone).trans hk

theorem extends_clear (t : Table keyOf IsReply ω) : t.Extends t.clear :=
  ⟨List.prefix_rfl, List.prefix_rfl, (t.extends_fail _).settled⟩

theorem extends_skip (t : Table keyOf IsReply ω) (message : μ) : t.Extends (t.skip message) :=
  ⟨List.prefix_rfl, List.prefix_append _ _, fun _ _ h => h⟩

theorem extends_settle (t : Table keyOf IsReply ω) (message : μ) (h : IsReply message) (k : Nat)
    (hk : t.entries.get? (keyOf message) = some k) : t.Extends (t.settle message h k hk) := by
  refine ⟨List.prefix_rfl, List.prefix_append _ _, ?_⟩
  intro j m hj
  have hdone : ¬ (j = k ∧ t.outcome k = .waiting) := by
    rintro ⟨rfl, hwaiting⟩
    rw [hj] at hwaiting
    cases hwaiting
  exact (if_neg hdone).trans hj

theorem receive_cases [DecidablePred IsReply] (t : Table keyOf IsReply ω) (message : μ) :
    t.receive message = t.skip message ∨ ∃ h k hk, t.receive message = t.settle message h k hk := by
  unfold receive
  split
  · next h =>
    split
    · next k hk => exact Or.inr ⟨h, k, hk, rfl⟩
    · exact Or.inl rfl
  · exact Or.inl rfl

theorem extends_receive [DecidablePred IsReply] (t : Table keyOf IsReply ω) (message : μ) :
    t.Extends (t.receive message) := by
  rcases t.receive_cases message with h | ⟨hreply, k, hk, h⟩
  · rw [h]
    exact t.extends_skip message
  · rw [h]
    exact t.extends_settle message hreply k hk

/-- Only a new request makes the list of requests longer. -/
theorem receive_requests [DecidablePred IsReply] (t : Table keyOf IsReply ω) (message : μ) :
    (t.receive message).requests = t.requests := by
  rcases t.receive_cases message with h | ⟨hreply, k, hk, h⟩
  · rw [h]
    rfl
  · rw [h]
    rfl

/-- The request with this number is the owner's. -/
def Owns (t : Table keyOf IsReply ω) (k : Nat) (owner : ω) : Prop :=
  ∃ r, t.requests[k]? = some r ∧ r.owner = owner

theorem Owns.mono {k : Nat} {owner : ω} (h : t.Owns k owner) (he : t.Extends t') :
    t'.Owns k owner := by
  obtain ⟨r, hr, howner⟩ := h
  exact ⟨r, getElem?_of_prefix he.requests hr, howner⟩

theorem Owns.unique {k : Nat} {owner owner' : ω} (h : t.Owns k owner) (h' : t.Owns k owner') :
    owner = owner' := by
  obtain ⟨r, hr, rfl⟩ := h
  obtain ⟨r', hr', rfl⟩ := h'
  rw [Option.some.inj (hr.symm.trans hr')]

theorem enter_owns (t : Table keyOf IsReply ω) (key : κ) (owner : ω) :
    (t.enter key owner).Owns t.requests.length owner :=
  ⟨_, List.getElem?_concat_length, rfl⟩

end Table

end Correlation
