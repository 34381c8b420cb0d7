import Mathlib.Logic.Function.Basic
import OpenHdoLinker.ServerClient.Publisher
import OpenHdoLinker.Tuya.Pairing

/-!
# The subscriptions of the publisher

The publisher of a server session over the callback lists of a Tuya driver.  The driver
keeps a list object for each device; a pairing moves the list of the previous device, and
the function that `subscribe_state` returns holds on to the list it appended to.

The publisher releases its subscription in a `finally` block, behind `_driver_lock`.  A
pairing may have the lock, and a cancellation that comes meanwhile ends the block early.

    Always (step d) Balanced (start d control driver) es ↔
      Meets (step d) Clean (start d control driver) es        (subscriptions_balanced_iff)
-/

namespace Linker.Subscriptions

open Py Publisher

/-! ## Algorithm -/

/-! ### The callback lists of the driver -/

/-- `lists`: the list objects, by reference.  `table`: `_callbacks`.  References from `fresh` on
and callbacks from `made` on are new. -/
structure CallbackLists where
  lists : Nat → List Nat
  table : Dict String Nat
  fresh : Nat
  made : Nat
  refs_nodup : table.vals.Nodup
  refs_lt : ∀ r ∈ table.vals, r < fresh
  made_lt : ∀ r, ∀ c ∈ lists r, c < made
  blank : ∀ r, fresh ≤ r → lists r = []

namespace CallbackLists

/-- `self._callbacks.setdefault(device_id, [])`, the list object. -/
def listOf (t : CallbackLists) (deviceId : String) : Nat := (t.table.get? deviceId).getD t.fresh

theorem listOf_lt (t : CallbackLists) (deviceId : String) : t.listOf deviceId < t.fresh + 1 := by
  unfold listOf
  cases h : t.table.get? deviceId with
  | none => exact Nat.lt_succ_self _
  | some r => exact Nat.lt_succ_of_lt (t.refs_lt r (Dict.mem_vals_of_get? h))

/-- `subscribe_state(device_id, callback)` after its check, for a new callback. -/
def subscribe (t : CallbackLists) (deviceId : String) : CallbackLists where
  lists := Function.update t.lists (t.listOf deviceId) (t.lists (t.listOf deviceId) ++ [t.made])
  table := t.table.setDefault deviceId t.fresh
  fresh := t.fresh + 1
  made := t.made + 1
  refs_nodup := by
    unfold Dict.setDefault
    split
    · exact t.refs_nodup
    · exact Dict.nodup_vals_set _ t.refs_nodup fun h => Nat.lt_irrefl _ (t.refs_lt _ h)
  refs_lt r hr := by
    unfold Dict.setDefault at hr
    split at hr
    · exact Nat.lt_succ_of_lt (t.refs_lt r hr)
    · rcases Dict.mem_vals_set hr with rfl | hr
      · exact Nat.lt_succ_self _
      · exact Nat.lt_succ_of_lt (t.refs_lt r hr)
  made_lt r c hc := by
    by_cases h : r = t.listOf deviceId
    · rw [h, Function.update_self, List.mem_append, List.mem_singleton] at hc
      rcases hc with hc | hc
      · exact Nat.lt_succ_of_lt (t.made_lt _ c hc)
      · exact hc ▸ Nat.lt_succ_self _
    · rw [Function.update_of_ne h] at hc
      exact Nat.lt_succ_of_lt (t.made_lt r c hc)
  blank r hr := by
    have hlt := t.listOf_lt deviceId
    rw [Function.update_of_ne (by omega)]
    exact t.blank r (by omega)

theorem subscribe_lists_self (t : CallbackLists) (deviceId : String) :
    (t.subscribe deviceId).lists (t.listOf deviceId) = t.lists (t.listOf deviceId) ++ [t.made] :=
  Function.update_self ..

theorem subscribe_lists_of_ne {t : CallbackLists} {deviceId : String} {r : Nat}
    (h : r ≠ t.listOf deviceId) : (t.subscribe deviceId).lists r = t.lists r :=
  Function.update_of_ne h ..

/-- `if callback in callbacks: callbacks.remove(callback)`. -/
def unsubscribe (t : CallbackLists) (ref callback : Nat) : CallbackLists where
  lists := Function.update t.lists ref ((t.lists ref).erase callback)
  table := t.table
  fresh := t.fresh
  made := t.made
  refs_nodup := t.refs_nodup
  refs_lt := t.refs_lt
  made_lt r c hc := by
    by_cases h : r = ref
    · rw [h, Function.update_self] at hc
      exact t.made_lt ref c (List.mem_of_mem_erase hc)
    · rw [Function.update_of_ne h] at hc
      exact t.made_lt r c hc
  blank r hr := by
    by_cases h : r = ref
    · rw [h, Function.update_self, t.blank ref (h ▸ hr), List.erase_nil]
    · rw [Function.update_of_ne h]
      exact t.blank r hr

theorem unsubscribe_lists_self (t : CallbackLists) (ref callback : Nat) :
    (t.unsubscribe ref callback).lists ref = (t.lists ref).erase callback := Function.update_self ..

theorem unsubscribe_lists_of_ne {t : CallbackLists} {ref callback r : Nat} (h : r ≠ ref) :
    (t.unsubscribe ref callback).lists r = t.lists r := Function.update_of_ne h ..

/-- The table once the list of the previous device has moved. -/
def movedTable (t : CallbackLists) (previous : Option String) (deviceId : String) :
    Dict String Nat :=
  match previous with
  | none => t.table
  | some p =>
    match t.table.get? p with
    | some r => if t.lists r = [] then t.table.erase p else (t.table.erase p).set deviceId r
    | none => t.table.erase p

/-- No list object is new to the table, and none is in it twice. -/
theorem movedTable_vals (t : CallbackLists) (previous : Option String) (deviceId : String) :
    (t.movedTable previous deviceId).vals.Nodup ∧
      ∀ r ∈ (t.movedTable previous deviceId).vals, r ∈ t.table.vals := by
  unfold movedTable
  cases previous with
  | none => exact ⟨t.refs_nodup, fun _ hr => hr⟩
  | some p =>
    have hsub := t.table.vals_erase_sublist p
    dsimp only
    cases hp : t.table.get? p with
    | none => exact ⟨hsub.nodup t.refs_nodup, fun _ hr => hsub.subset hr⟩
    | some r =>
      dsimp only
      split
      · exact ⟨hsub.nodup t.refs_nodup, fun _ hr => hsub.subset hr⟩
      · refine ⟨Dict.nodup_vals_set _ (hsub.nodup t.refs_nodup)
          (Dict.not_mem_vals_erase t.refs_nodup hp), fun x hx => ?_⟩
        rcases Dict.mem_vals_set hx with rfl | hx
        · exact Dict.mem_vals_of_get? hp
        · exact hsub.subset hx

/-- What `pair` does with the callbacks. -/
def move (t : CallbackLists) (previous : Option String) (deviceId : String) : CallbackLists :=
  { t with
    table := t.movedTable previous deviceId
    refs_nodup := (t.movedTable_vals previous deviceId).1
    refs_lt := fun r hr => t.refs_lt r ((t.movedTable_vals previous deviceId).2 r hr) }

/-- What the driver reads in `_callbacks`. -/
def values (t : CallbackLists) : Dict String (List Nat) := t.table.mapVal t.lists

end CallbackLists

/-! ### The driver and its pairings -/

/-- The driver: the id of `_device`, and `_callbacks`. -/
structure Driver where
  device : Option String
  callbacks : CallbackLists

/-- Where a `pairing.start` stands: in line for the lock, or inside `pair`. -/
inductive PairPhase
  | waiting
  | running
  | switched
  | ending
deriving DecidableEq

structure Pairing where
  phase : PairPhase
  target : String
  previous : Option String

inductive PairEvent
  | request (target : String)
  | lock
  | switch
  | commit
  | rollback
  | finish
deriving DecidableEq

/-- The driver under a pairing; `finish` may come at any point. -/
def pairingStep : Driver × Option Pairing → PairEvent → Option (Driver × Option Pairing)
  | (t, none), .request target => some (t, some ⟨.waiting, target, none⟩)
  | (t, some ⟨.waiting, target, _⟩), .lock => some (t, some ⟨.running, target, t.device⟩)
  | (t, some ⟨.running, target, previous⟩), .switch =>
    some ({ t with device := some target }, some ⟨.switched, target, previous⟩)
  | (t, some ⟨.switched, target, previous⟩), .commit =>
    some ({ t with callbacks := t.callbacks.move previous target }, some ⟨.ending, target, previous⟩)
  | (t, some ⟨.switched, target, previous⟩), .rollback =>
    some ({ t with device := previous }, some ⟨.ending, target, previous⟩)
  | (t, some _), .finish => some (t, none)
  | _, _ => none

/-! ### The publisher over the driver -/

/-- The points where the publisher waits for `_driver_lock`. -/
def locking : PubPc → Bool
  | .lockConnect | .lockPoll | .lockUnsubscribe | .lockDisconnect => true
  | _ => false

/-- The points where the publisher has `_driver_lock`. -/
def holding : PubPc → Bool
  | .connect | .subscribe | .poll | .repoll | .unsubscribe | .disconnect => true
  | _ => false

/-- `contended`: the lock was taken, or others were in line for it, when the publisher came to it.
`token`: what the function in `unsubscribe` refers to, its list object and its callback.
`base`: the callbacks from this number on are the publisher's. -/
structure State where
  pub : PubState
  contended : Bool
  token : Option (Nat × Nat)
  base : Nat
  driver : Driver
  pairing : Option Pairing

inductive Event
  | publisher (e : PubEvent)
  | pairing (e : PairEvent)

namespace State

/-- The publisher has gone on to `p`. -/
def withPub (s : State) (p : PubState) : State :=
  { s with
    pub := p
    contended := if p.pc = s.pub.pc then s.contended else locking p.pc && s.pairing.isSome }

/-- The publisher is suspended, so a cancellation can reach it.  A lock that is free is taken at
once, and the subscription calls of this driver await nothing. -/
def suspended (s : State) : Bool :=
  match s.pub.pc with
  | .lockConnect | .lockPoll | .lockUnsubscribe | .lockDisconnect => s.contended
  | .subscribe | .unsubscribe | .done => false
  | _ => true

/-- `_driver_lock` is not a pairing's. -/
def lockFree (s : State) : Bool :=
  match s.pairing with
  | none => true
  | some w => w.phase = .waiting

end State

/-- A `CancelledError` is raised where the publisher is suspended. -/
def interrupted (p : PubState) : PubState :=
  if p.pc.calling ∨ p.pc.idling then { p with cancelled := true }.enterFinally
  else { p with pc := .done }

/-- An awaited call of the publisher returns. -/
def callReturns (d : ReconnectDelays) (s : State) : Option State :=
  match s.pub.pc with
  | .subscribe =>
    match s.driver.device, returned d s.pub with
    | some deviceId, some p =>
      some { s.withPub p with
        token := some (s.driver.callbacks.listOf deviceId, s.driver.callbacks.made)
        driver := { s.driver with callbacks := s.driver.callbacks.subscribe deviceId } }
    | _, _ => none
  | .unsubscribe =>
    match s.token, returned d s.pub with
    | some (ref, callback), some p =>
      some { s.withPub p with
        token := none
        driver := { s.driver with callbacks := s.driver.callbacks.unsubscribe ref callback } }
    | _, _ => none
  | _ => (returned d s.pub).map s.withPub

def publisherStep (d : ReconnectDelays) (s : State) : PubEvent → Option State
  | .cancel => if s.suspended then some (s.withPub (interrupted s.pub)) else none
  | .acquire => if s.lockFree then (Publisher.step d s.pub .acquire).map s.withPub else none
  | .ok => callReturns d s
  | .raised error =>
    if s.pub.pc = .unsubscribe then none
    else (Publisher.step d s.pub (.raised error)).map s.withPub
  | e => (Publisher.step d s.pub e).map s.withPub

def step (d : ReconnectDelays) (s : State) : Event → Option State
  | .publisher e => publisherStep d s e
  | .pairing e =>
    -- the lock is free, and the publisher is not about to take it
    if e = .lock ∧ (holding s.pub.pc ∨ locking s.pub.pc ∧ s.contended = false) then none
    else (pairingStep (s.driver, s.pairing) e).map fun r => { s with driver := r.1, pairing := r.2 }

def start (d : ReconnectDelays) (control : Bool) (driver : Driver) : State :=
  ⟨Publisher.start d control, false, none, driver.callbacks.made, driver, none⟩

/-! ## Statement -/

/-- The callbacks the driver holds that are not older than `base`. -/
def CallbackLists.since (t : CallbackLists) (base : Nat) : List Nat :=
  (t.table.vals.flatMap t.lists).filter (base ≤ ·)

/-- The callbacks of this publisher that the driver holds. -/
def State.held (s : State) : List Nat := s.driver.callbacks.since s.base

structure Balanced (s : State) : Prop where
  atMostOne : s.held.length ≤ 1
  released : s.pub.pc = .done → s.held = []

/-- No cancellation finds the publisher in line for the lock with its callback still to remove. -/
def Clean (s : State) (e : Event) : Prop :=
  e = .publisher .cancel → s.pub.pc = .lockUnsubscribe → s.held = []

/-! ## Lemmas -/

/-! ### What the driver holds -/

/-- The publisher's callbacks in a list object, as `unsubscribe` knows of them. -/
def owned : Option (Nat × Nat) → Nat → List Nat
  | none, _ => []
  | some (ref, callback), r => if r = ref then [callback] else []

theorem owned_none (r : Nat) : owned none r = [] := rfl

theorem owned_self (ref callback : Nat) : owned (some (ref, callback)) ref = [callback] := if_pos rfl

theorem owned_of_ne {ref r : Nat} (callback : Nat) (h : r ≠ ref) :
    owned (some (ref, callback)) r = [] := if_neg h

section Held

variable {t : CallbackLists} {base : Nat} {token : Option (Nat × Nat)}

theorem since_eq (h : ∀ r, (t.lists r).filter (base ≤ ·) = owned token r) :
    t.since base = t.table.vals.flatMap (owned token) := by
  unfold CallbackLists.since
  rw [List.filter_flatMap]
  exact congrArg t.table.vals.flatMap (funext h)

theorem since_eq_nil (h : ∀ r, (t.lists r).filter (base ≤ ·) = owned none r) : t.since base = [] := by
  rw [since_eq h]
  exact List.flatMap_eq_nil_iff.mpr fun _ _ => rfl

/-- No list object is in the table twice, so no callback is held twice. -/
theorem owned_length_le (token : Option (Nat × Nat)) {refs : List Nat} (h : refs.Nodup) :
    (refs.flatMap (owned token)).length ≤ 1 := by
  cases token with
  | none =>
    rw [List.flatMap_eq_nil_iff.mpr fun r _ => owned_none r]
    exact Nat.zero_le 1
  | some p =>
    obtain ⟨ref, callback⟩ := p
    induction refs with
    | nil => exact Nat.zero_le 1
    | cons r refs ih =>
      obtain ⟨hr, hrefs⟩ := List.nodup_cons.mp h
      rw [List.flatMap_cons]
      by_cases he : r = ref
      · have hnone : refs.flatMap (owned (some (ref, callback))) = [] :=
          List.flatMap_eq_nil_iff.mpr fun x hx =>
            owned_of_ne callback fun hx' => hr (he.trans hx'.symm ▸ hx)
        rw [he, owned_self, hnone]
        exact le_refl 1
      · rw [owned_of_ne callback he]
        exact ih hrefs

theorem since_move_eq_nil {previous : Option String} {deviceId : String} (h : t.since base = []) :
    (t.move previous deviceId).since base = [] := by
  unfold CallbackLists.since at h ⊢
  rw [List.filter_flatMap, List.flatMap_eq_nil_iff] at h ⊢
  exact fun r hr => h r ((t.movedTable_vals previous deviceId).2 r hr)

end Held

/-! ### The steps of the publisher -/

/-- The points where the publisher has nothing to release. -/
def unbound : PubPc → Bool
  | .head | .controlWait | .lockConnect | .connect | .subscribe | .lockDisconnect | .disconnect
  | .backoff => true
  | _ => false

/-- The publisher goes on without a call on its subscription, and not past one it has to release. -/
structure Moves (p q : PubState) : Prop where
  unsubscribe : q.unsubscribe = p.unsubscribe
  bound : unbound q.pc = true ∨ q.pc = .done →
    unbound p.pc = true ∨ p.unsubscribe = false ∨ (p.pc = .done ∧ q.pc = .done)

theorem enterFinally_moves (p : PubState) : Moves p p.enterFinally := by
  unfold PubState.enterFinally
  cases h : p.unsubscribe with
  | true => exact ⟨h.symm, fun hq => by rcases hq with hq | hq <;> cases hq⟩
  | false => exact ⟨h.symm, fun _ => Or.inr (Or.inl h)⟩

theorem moves_of_unbound {p q : PubState} (hu : q.unsubscribe = p.unsubscribe)
    (h : unbound p.pc = true) : Moves p q := ⟨hu, fun _ => Or.inl h⟩

theorem returned_moves {d : ReconnectDelays} {p q : PubState} (h : returned d p = some q)
    (hs : p.pc ≠ .subscribe) (hu : p.pc ≠ .unsubscribe) : Moves p q := by
  cases hpc : p.pc <;> simp only [returned, hpc, Option.some.injEq, reduceCtorEq] at h
  case subscribe => exact absurd hpc hs
  case unsubscribe => exact absurd hpc hu
  case connect =>
    subst h
    exact moves_of_unbound rfl (by rw [hpc]; rfl)
  case poll | publish | repoll | republish =>
    subst h
    exact ⟨rfl, fun hq => by rcases hq with hq | hq <;> cases hq⟩
  case disconnect =>
    split at h
    · subst h
      exact moves_of_unbound rfl (by rw [hpc]; rfl)
    · subst h
      exact moves_of_unbound rfl (by rw [hpc]; rfl)

theorem resumed_moves {p q : PubState} (h : resumed p = some q) : Moves p q := by
  unfold resumed at h
  split at h
  · next hpc hw =>
    cases h
    exact moves_of_unbound rfl (by rw [hpc]; rfl)
  · next w hpc hw =>
    cases h
    cases w with
    | true => exact enterFinally_moves p
    | false => exact ⟨rfl, fun hq => by rcases hq with hq | hq <;> cases hq⟩
  · next w hpc hw =>
    cases h
    exact moves_of_unbound rfl (by rw [hpc]; rfl)
  · cases h

theorem raised_moves {d : ReconnectDelays} {p q : PubState} {error : String}
    (h : Publisher.step d p (.raised error) = some q) (hu : p.pc ≠ .unsubscribe) : Moves p q := by
  simp only [Publisher.step] at h
  split at h
  · cases h
    exact ⟨(enterFinally_moves _).unsubscribe, (enterFinally_moves _).bound⟩
  · split at h
    · next hpc =>
      cases h
      exact moves_of_unbound rfl (by rw [hpc.resolve_left hu]; rfl)
    · cases h

theorem interrupted_moves {p : PubState} (hs : p.pc ≠ .lockUnsubscribe) (hu : p.pc ≠ .unsubscribe) :
    Moves p (interrupted p) := by
  unfold interrupted
  split
  · exact ⟨(enterFinally_moves _).unsubscribe, (enterFinally_moves _).bound⟩
  · next h =>
    refine ⟨rfl, fun _ => ?_⟩
    cases hpc : p.pc <;> rw [hpc] at h hs hu <;> simp [PubPc.calling, PubPc.idling, unbound] at *

section Steps

variable {d : ReconnectDelays} {s s' : State}

/-- What a step of the publisher comes to. -/
inductive Went (s : State) (e : PubEvent) (s' : State) : Prop
  | on (p : PubState) (hm : Moves s.pub p) (hs : s' = s.withPub p)
  | subscribed (deviceId : String) (p : PubState) (hpc : s.pub.pc = .subscribe)
      (hp : p = { s.pub with pc := .poll, unsubscribe := true, callbacks := s.pub.callbacks + 1 })
      (hs : s' = { s.withPub p with
        token := some (s.driver.callbacks.listOf deviceId, s.driver.callbacks.made)
        driver := { s.driver with callbacks := s.driver.callbacks.subscribe deviceId } })
  | unsubscribed (ref callback : Nat) (p : PubState) (ht : s.token = some (ref, callback))
      (hp : p = { s.pub with
        pc := .lockDisconnect, unsubscribe := false, callbacks := s.pub.callbacks - 1 })
      (hs : s' = { s.withPub p with
        token := none
        driver := { s.driver with callbacks := s.driver.callbacks.unsubscribe ref callback } })
  | cut (he : e = .cancel) (hpc : s.pub.pc = .lockUnsubscribe)
      (hs : s' = s.withPub { s.pub with pc := .done })

theorem callReturns_went (h : callReturns d s = some s') : Went s .ok s' := by
  unfold callReturns at h
  split at h
  · next hpc =>
    have hr : returned d s.pub = some { s.pub with
        pc := .poll, unsubscribe := true, callbacks := s.pub.callbacks + 1 } := by
      unfold returned
      rw [hpc]
    rw [hr] at h
    split at h
    · next deviceId p hdev hp =>
      cases h
      exact .subscribed deviceId p hpc (Option.some.inj hp).symm rfl
    · cases h
  · next hpc =>
    have hr : returned d s.pub = some { s.pub with
        pc := .lockDisconnect, unsubscribe := false, callbacks := s.pub.callbacks - 1 } := by
      unfold returned
      rw [hpc]
    rw [hr] at h
    split at h
    · next ref callback p ht hp =>
      cases h
      exact .unsubscribed ref callback p ht (Option.some.inj hp).symm rfl
    · cases h
  · next hs hu =>
    obtain ⟨p, hp, rfl⟩ := Option.map_eq_some_iff.mp h
    exact .on p (returned_moves hp hs hu) rfl

/-- Everything the publisher can do. -/
theorem publisherStep_went {e : PubEvent} (h : publisherStep d s e = some s') : Went s e s' := by
  cases e with
  | setStop =>
    cases h
    exact .on { s.pub with stop := true } ⟨rfl, fun hq => hq.imp id fun hq => .inr ⟨hq, hq⟩⟩ rfl
  | setControl enabled =>
    cases h
    exact .on { s.pub with control := enabled } ⟨rfl, fun hq => hq.imp id fun hq => .inr ⟨hq, hq⟩⟩ rfl
  | test =>
    obtain ⟨p, hp, rfl⟩ := Option.map_eq_some_iff.mp h
    refine .on p ?_ rfl
    simp only [Publisher.step] at hp
    split at hp
    · next hpc =>
      cases hp
      refine moves_of_unbound ?_ (by rw [hpc]; rfl)
      split
      · rfl
      · split <;> rfl
    · cases hp
  | acquire =>
    dsimp only [publisherStep] at h
    split at h
    · obtain ⟨p, hp, rfl⟩ := Option.map_eq_some_iff.mp h
      refine .on p ?_ rfl
      cases hpc : s.pub.pc <;> simp only [Publisher.step, hpc, Option.some.injEq, reduceCtorEq] at hp
      case lockConnect | lockDisconnect =>
        subst hp
        exact moves_of_unbound rfl (by rw [hpc]; rfl)
      case lockPoll | lockUnsubscribe =>
        subst hp
        exact ⟨rfl, fun hq => by rcases hq with hq | hq <;> cases hq⟩
    · cases h
  | ok => exact callReturns_went h
  | raised error =>
    dsimp only [publisherStep] at h
    split at h
    · cases h
    · next hu =>
      obtain ⟨p, hp, rfl⟩ := Option.map_eq_some_iff.mp h
      exact .on p (raised_moves hp hu) rfl
  | timerFires =>
    obtain ⟨p, hp, rfl⟩ := Option.map_eq_some_iff.mp h
    refine .on p ?_ rfl
    simp only [Publisher.step] at hp
    split at hp
    · cases hp
      exact ⟨rfl, fun hq => hq.imp id fun hq => .inr ⟨hq, hq⟩⟩
    · cases hp
  | resume =>
    obtain ⟨p, hp, rfl⟩ := Option.map_eq_some_iff.mp h
    exact .on p (resumed_moves hp) rfl
  | cancel =>
    dsimp only [publisherStep] at h
    split at h
    · next hsus =>
      cases h
      by_cases hl : s.pub.pc = .lockUnsubscribe
      · refine .cut rfl hl ?_
        unfold interrupted
        rw [if_neg (by rw [hl]; decide)]
      · refine .on _ (interrupted_moves hl ?_) rfl
        intro hu
        rw [State.suspended, hu] at hsus
        cases hsus
    · cases h

/-- A pairing moves list objects about, and leaves what is in them alone. -/
theorem pairingStep_keeps {t t' : Driver} {w w' : Option Pairing} {e : PairEvent}
    (h : pairingStep (t, w) e = some (t', w')) :
    t'.callbacks.lists = t.callbacks.lists ∧ t'.callbacks.made = t.callbacks.made ∧
      ∀ base, t.callbacks.since base = [] → t'.callbacks.since base = [] := by
  cases w with
  | none =>
    cases e <;> cases h
    exact ⟨rfl, rfl, fun _ h => h⟩
  | some w =>
    obtain ⟨phase, target, previous⟩ := w
    by_cases hc : phase = .switched ∧ e = .commit
    · obtain ⟨rfl, rfl⟩ := hc
      cases h
      exact ⟨rfl, rfl, fun _ h => since_move_eq_nil h⟩
    · have hsame : t'.callbacks = t.callbacks := by
        cases phase <;> cases e <;> cases h <;> first | rfl | exact absurd ⟨rfl, rfl⟩ hc
      rw [hsame]
      exact ⟨rfl, rfl, fun _ h => h⟩

/-! ### Invariant -/

/-- The publisher's callback is in one list object, and the publisher remembers where until it has
removed it. -/
structure Inv (s : State) : Prop where
  token : s.pub.unsubscribe = s.token.isSome
  own : ∀ r, (s.driver.callbacks.lists r).filter (s.base ≤ ·) = owned s.token r
  base_le : s.base ≤ s.driver.callbacks.made
  idle : unbound s.pub.pc = true → s.token = none
  ended : s.pub.pc = .done → s.held = []

theorem inv_start (control : Bool) (driver : Driver) : Inv (start d control driver) where
  token := rfl
  own r := List.filter_eq_nil_iff.mpr fun c hc => by
    have hlt : c < driver.callbacks.made := driver.callbacks.made_lt r c hc
    show ¬ decide (driver.callbacks.made ≤ c) = true
    exact fun hle => absurd (of_decide_eq_true hle) (Nat.not_le_of_lt hlt)
  base_le := le_refl _
  idle _ := rfl
  ended := nofun

theorem Inv.held_eq_nil (hi : Inv s) (ht : s.token = none) : s.held = [] :=
  since_eq_nil fun r => ht ▸ hi.own r

theorem Inv.goOn {p : PubState} (hi : Inv s) (hm : Moves s.pub p) : Inv (s.withPub p) := by
  have hnone : s.pub.unsubscribe = false → s.token = none := by
    intro h
    rw [hi.token] at h
    exact Option.isSome_eq_false_iff.mp h |> Option.isNone_iff_eq_none.mp
  refine ⟨hm.unsubscribe.trans hi.token, hi.own, hi.base_le, fun hq => ?_, fun hq => ?_⟩
  · rcases hm.bound (Or.inl hq) with h | h | h
    · exact hi.idle h
    · exact hnone h
    · exact absurd (h.2 ▸ hq) (by decide)
  · rcases hm.bound (Or.inr hq) with h | h | h
    · exact hi.held_eq_nil (hi.idle h)
    · exact hi.held_eq_nil (hnone h)
    · exact hi.ended h.1

/-- The new callback is the only one of the publisher. -/
theorem Inv.subscribed {deviceId : String} {p : PubState} (hi : Inv s) (hpc : s.pub.pc = .subscribe)
    (hu : p.unsubscribe = true) (hp : p.pc = .poll) :
    Inv { s.withPub p with
      token := some (s.driver.callbacks.listOf deviceId, s.driver.callbacks.made)
      driver := { s.driver with callbacks := s.driver.callbacks.subscribe deviceId } } where
  token := hu
  own r := by
    have hown := hi.own
    rw [hi.idle (by rw [hpc]; rfl)] at hown
    show ((s.driver.callbacks.subscribe deviceId).lists r).filter (s.base ≤ ·) =
      owned (some (s.driver.callbacks.listOf deviceId, s.driver.callbacks.made)) r
    by_cases hr : r = s.driver.callbacks.listOf deviceId
    · rw [hr, CallbackLists.subscribe_lists_self, List.filter_append, hown, owned_none, owned_self]
      simp [hi.base_le]
    · rw [CallbackLists.subscribe_lists_of_ne hr, hown, owned_of_ne _ hr]
      rfl
  base_le := Nat.le_succ_of_le hi.base_le
  idle h := absurd (show unbound p.pc = true from h) (by rw [hp]; decide)
  ended h := absurd (show p.pc = .done from h) (by rw [hp]; decide)

/-- The function in `unsubscribe` finds the callback it is for. -/
theorem Inv.unsubscribed {ref callback : Nat} {p : PubState} (hi : Inv s)
    (ht : s.token = some (ref, callback)) (hu : p.unsubscribe = false) (hp : p.pc = .lockDisconnect) :
    Inv { s.withPub p with
      token := none
      driver := { s.driver with callbacks := s.driver.callbacks.unsubscribe ref callback } } where
  token := hu
  own r := by
    have hown := hi.own r
    rw [ht] at hown
    show ((s.driver.callbacks.unsubscribe ref callback).lists r).filter (s.base ≤ ·) = owned none r
    by_cases hr : r = ref
    · subst hr
      rw [owned_self] at hown
      rw [CallbackLists.unsubscribe_lists_self, ← List.erase_filter, hown, List.erase_cons_head]
      rfl
    · rw [CallbackLists.unsubscribe_lists_of_ne hr, hown, owned_of_ne _ hr]
      rfl
  base_le := hi.base_le
  idle _ := rfl
  ended h := absurd (show p.pc = .done from h) (by rw [hp]; decide)

theorem step_inv {e : Event} (hi : Inv s) (hc : Clean s e) (hs : step d s e = some s') : Inv s' := by
  cases e with
  | publisher e =>
    cases publisherStep_went hs with
    | on p hm hs =>
      rw [hs]
      exact hi.goOn hm
    | subscribed deviceId p hpc hp hs =>
      rw [hs]
      exact hi.subscribed hpc (by rw [hp]) (by rw [hp])
    | unsubscribed ref callback p ht hp hs =>
      rw [hs]
      exact hi.unsubscribed ht (by rw [hp]) (by rw [hp])
    | cut he hpc hs =>
      rw [hs]
      exact ⟨hi.token, hi.own, hi.base_le, nofun, fun _ => hc (congrArg _ he) hpc⟩
  | pairing e =>
    dsimp only [step] at hs
    split at hs
    · cases hs
    · obtain ⟨⟨t, w⟩, hr, rfl⟩ := Option.map_eq_some_iff.mp hs
      obtain ⟨hlists, hmade, hnil⟩ := pairingStep_keeps hr
      refine ⟨hi.token, ?_, ?_, hi.idle, fun hdone => hnil s.base (hi.ended hdone)⟩
      · rw [hlists]
        exact hi.own
      · rw [hmade]
        exact hi.base_le

theorem Inv.balanced (hi : Inv s) : Balanced s where
  atMostOne := by
    unfold State.held
    rw [since_eq hi.own]
    exact owned_length_le _ s.driver.callbacks.refs_nodup
  released := hi.ended

/-- A publisher that is cancelled in line for the lock ends with what it holds. -/
theorem clean_of_balanced {e : Event} (hs : step d s e = some s') (hb : Balanced s') : Clean s e := by
  rintro rfl hpc
  dsimp only [step, publisherStep] at hs
  split at hs
  · cases hs
    have hdone : (interrupted s.pub).pc = .done := by
      unfold interrupted
      rw [if_neg (by rw [hpc]; decide)]
    exact hb.released hdone
  · cases hs

end Steps

/-! ## Main results -/

/-- **Exactly when subscriptions are balanced.**  Along a run the driver holds at most one callback
of the publisher, and none once the publisher has ended, if and only if no cancellation finds the
publisher in line for the lock, in its `finally` block, with its callback still to remove. -/
theorem subscriptions_balanced_iff (d : ReconnectDelays) (control : Bool) (driver : Driver)
    (es : List Event) :
    Runs.Always (step d) Balanced (start d control driver) es ↔
      Runs.Meets (step d) Clean (start d control driver) es :=
  Runs.always_iff_meets (fun _ _ _ hi hc hs => step_inv hi hc hs) (fun _ hi => hi.balanced)
    (fun _ _ _ _ hs hb => clean_of_balanced hs hb) es (inv_start control driver)

/-- A driver that nobody has subscribed to. -/
def CallbackLists.none : CallbackLists where
  lists _ := []
  table := Dict.empty
  fresh := 0
  made := 0
  refs_nodup := List.nodup_nil
  refs_lt := nofun
  made_lt := nofun
  blank _ _ := rfl

/-- The poll fails while a pairing is in line for the lock; the process stops while the publisher
waits behind it to remove its callback. -/
theorem subscription_leaks : ¬ ∀ (d : ReconnectDelays) (control : Bool) (driver : Driver)
    (es : List Event), Runs.Always (step d) Balanced (start d control driver) es := by
  intro h
  let d : ReconnectDelays := ⟨1, 30, by norm_num, by norm_num⟩
  let driver : Driver := ⟨some "lamp", .none⟩
  let events : List Event := [.publisher .test, .publisher .acquire, .publisher .ok, .publisher .ok,
    .pairing (.request "shelf"), .publisher (.raised "timed out"), .pairing .lock,
    .publisher .setStop, .publisher .cancel]
  have hr : Runs.run (step d) (start d true driver) events = some
      ⟨⟨.done, d.next 1, true, true, false, true, 1, false, some "timed out"⟩, false, some (0, 0), 0,
        ⟨some "lamp", CallbackLists.none.subscribe "lamp"⟩,
        some ⟨.running, "shelf", some "lamp"⟩⟩ := rfl
  have hheld : (CallbackLists.none.subscribe "lamp").since 0 = [0] := rfl
  have hnone : (CallbackLists.none.subscribe "lamp").since 0 = [] :=
    (Runs.always_run (h d true driver events) hr).released rfl
  rw [hheld] at hnone
  cases hnone

/-! ## The pairings of the driver -/

section Pairings

variable {C : TuyaCrypto} {J : JsonLib} {ipAddress : String → Option IpAddress}

/-- The driver with the device and the callbacks of a `TuyaLocalDriver`. -/
structure Shows (t : Driver) (s : TuyaState) : Prop where
  device : t.device = s.device.map TuyaDeviceConfig.deviceId
  callbacks : t.callbacks.values = s.callbacks

theorem move_values (t : CallbackLists) (previous : Option TuyaDeviceConfig) (d : TuyaDeviceConfig) :
    (t.move (previous.map TuyaDeviceConfig.deviceId) d.deviceId).values =
      moveCallbacks previous d t.values := by
  show (t.movedTable _ _).mapVal t.lists = _
  unfold moveCallbacks CallbackLists.movedTable CallbackLists.values
  cases previous with
  | none => rfl
  | some p =>
    dsimp only [Option.map_some]
    rw [Dict.get?_mapVal]
    cases t.table.get? p.deviceId with
    | none => exact Dict.mapVal_erase _ _ _
    | some r =>
      dsimp only [Option.map_some]
      cases hl : t.lists r with
      | nil =>
        rw [if_pos rfl]
        exact Dict.mapVal_erase _ _ _
      | cons c cs =>
        rw [if_neg (List.cons_ne_nil c cs), Dict.mapVal_set, Dict.mapVal_erase, hl]

/-- A committed binding is what the switch and the commit of a pairing leave. -/
theorem Shows.committed {t : Driver} {s u : TuyaState} (h : Shows t s) {c : String}
    {d : TuyaDeviceConfig} (hb : u.binding = s.binding.committed c d) :
    Shows { t with device := some d.deviceId, callbacks := t.callbacks.move t.device d.deviceId }
      u where
  device := by
    rw [show u.device = some d from congrArg Binding.device hb]
    rfl
  callbacks := by
    rw [h.device, move_values, h.callbacks]
    exact (congrArg Binding.callbacks hb).symm

/-- **A pairing of the driver is made of the events of a pairing.** -/
theorem pair_refines {t : Driver} {s : TuyaState} (h : Shows t s) (o : PairOutcomes) (c : String) :
    ∃ target es t', Runs.run pairingStep (t, some ⟨.running, target, t.device⟩) es =
      some (t', none) ∧ Shows t' (pair C J ipAddress o c s).2 := by
  obtain ⟨r, hp, hends⟩ := pair_ends C J ipAddress s o c
  rw [hp]
  cases hends with
  | refused e _ => exact ⟨"", [.finish], t, rfl, h⟩
  | returned d a u _ _ _ _ hb => exact ⟨d.deviceId, [.switch, .commit, .finish], _, rfl, h.committed hb⟩
  | unannounced d e u _ _ _ hb =>
    exact ⟨d.deviceId, [.switch, .commit, .finish], _, rfl, h.committed hb⟩
  | failed d e u _ _ _ hb =>
    exact ⟨d.deviceId, [.switch, .rollback, .finish], _, rfl,
      h.device.trans (congrArg (fun b => b.device.map TuyaDeviceConfig.deviceId) hb).symm,
      h.callbacks.trans (congrArg Binding.callbacks hb).symm⟩
  | stuck d e e' u _ _ _ hb =>
    exact ⟨d.deviceId, [.switch, .finish], _, rfl,
      (congrArg (fun b => b.device.map TuyaDeviceConfig.deviceId) hb).symm,
      h.callbacks.trans (congrArg Binding.callbacks hb).symm⟩

end Pairings

end Linker.Subscriptions
