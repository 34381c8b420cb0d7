import OpenHdoLinker.ServerClient.Subscriptions
import OpenHdoLinker.Tuya.Life

/-!
# The subscribers of a driver that is paired again

`subscribe_state` appends to the list object of the device, the function it returns removes from
that object, and `pair` hands the object on to the device it has turned to.  `pair` awaits the
connection in between, and nothing in the driver keeps other calls out meanwhile: that is left to
the lock of the session.

    Meets step Orderly (start device) es → Always step Settled (start device) es   (subscribers_kept)
-/

namespace Linker.Subscribers

open Py Subscriptions

/-! ## Algorithm -/

/-! ### The callbacks -/

theorem setDefault_nodup (t : CallbackLists) (deviceId : String) :
    (t.table.setDefault deviceId t.fresh).vals.Nodup := (t.subscribe deviceId).refs_nodup

theorem setDefault_lt (t : CallbackLists) (deviceId : String) :
    ∀ r ∈ (t.table.setDefault deviceId t.fresh).vals, r < t.fresh + 1 := (t.subscribe deviceId).refs_lt

/-- The list objects with a callback appended to the one of the device. -/
def appended (t : CallbackLists) (deviceId : String) (callback : Nat) : Nat → List Nat :=
  Function.update t.lists (t.listOf deviceId) (t.lists (t.listOf deviceId) ++ [callback])

theorem appended_lt (t : CallbackLists) (deviceId : String) (callback : Nat) :
    ∀ r, ∀ c ∈ appended t deviceId callback r, c < Nat.max t.made (callback + 1) := by
  intro r c hc
  unfold appended at hc
  by_cases h : r = t.listOf deviceId
  · rw [h, Function.update_self, List.mem_append, List.mem_singleton] at hc
    rcases hc with hc | rfl
    · exact Nat.lt_of_lt_of_le (t.made_lt _ c hc) (Nat.le_max_left _ _)
    · exact Nat.lt_of_lt_of_le (Nat.lt_succ_self _) (Nat.le_max_right _ _)
  · rw [Function.update_of_ne h] at hc
    exact Nat.lt_of_lt_of_le (t.made_lt r c hc) (Nat.le_max_left _ _)

theorem appended_blank (t : CallbackLists) (deviceId : String) (callback : Nat) :
    ∀ r, t.fresh + 1 ≤ r → appended t deviceId callback r = [] := by
  intro r hr
  have hlt := t.listOf_lt deviceId
  unfold appended
  rw [Function.update_of_ne (by omega)]
  exact t.blank r (by omega)

/-- `subscribe_state(device_id, callback)` after its check, for any callback. -/
def add (t : CallbackLists) (deviceId : String) (callback : Nat) : CallbackLists where
  lists := appended t deviceId callback
  table := t.table.setDefault deviceId t.fresh
  fresh := t.fresh + 1
  made := Nat.max t.made (callback + 1)
  refs_nodup := setDefault_nodup t deviceId
  refs_lt := setDefault_lt t deviceId
  made_lt := appended_lt t deviceId callback
  blank := appended_blank t deviceId callback

/-- A subscriber that is called, noted. -/
def noteCall (answer : Nat → Except PyErr Unit) (callback : Nat) : PyM (List Nat) Unit := do
  PyM.modify (· ++ [callback])
  PyM.outcome (answer callback)

/-- The callbacks that the loop of `_handle_status` calls: it ends where one raises what
`except Exception` lets through. -/
def called (answer : Nat → Except PyErr Unit) (callbacks : List Nat) : List Nat :=
  (notifyEach (noteCall answer) callbacks []).2

/-- The callbacks that `_handle_status(frame)` calls. -/
def invoked (C : TuyaCrypto) (J : JsonLib) (answer : Nat → Except PyErr Unit)
    (sessionKey : Option Bytes) (frame : TuyaFrame) (s : TuyaState) : List Nat :=
  match Life.statusState C J sessionKey frame s, s.device with
  | (.ok (some _), t), some d => called answer (callbacksOf t d)
  | _, _ => []

/-! ### Runs -/

/-- `subscriptions`: those not yet unsubscribed, with the list object and the callback that the
function returned for each holds on to.  The calls of `pair` are told apart by `ι`. -/
structure State (ι : Type) where
  driver : Driver
  pairs : ι → Option Pairing
  subscriptions : List (Nat × Nat)

inductive Event (ι : Type)
  | subscribe (deviceId : String) (callback : Nat)
  | unsubscribe (ref callback : Nat)
  | pairing (call : ι) (e : PairEvent)

section Runs

variable {ι : Type} [DecidableEq ι]

def step (s : State ι) : Event ι → Option (State ι)
  | .subscribe deviceId callback =>
    -- `_check_device` raises for any other device
    if s.driver.device = some deviceId then
      some { s with
        driver := { s.driver with callbacks := add s.driver.callbacks deviceId callback }
        subscriptions := (s.driver.callbacks.listOf deviceId, callback) :: s.subscriptions }
    else some s
  | .unsubscribe ref callback =>
    if (ref, callback) ∈ s.subscriptions then
      some { s with
        driver := { s.driver with callbacks := s.driver.callbacks.unsubscribe ref callback }
        subscriptions := s.subscriptions.erase (ref, callback) }
    else none
  | .pairing call e => (pairingStep (s.driver, s.pairs call) e).map fun r =>
    { s with driver := r.1, pairs := Function.update s.pairs call r.2 }

/-- A driver nobody has subscribed to, with the device it was configured for. -/
def start (device : Option String) : State ι := ⟨⟨device, .none⟩, fun _ => none, []⟩

end Runs

/-! ## Statement -/

section Statement

variable {ι : Type}

/-- The call awaits the connection: it has read the previous device, and has neither moved its
callbacks nor turned back to it. -/
def InProgress (w : Option Pairing) : Prop := ∃ p ∈ w, p.phase = .running ∨ p.phase = .switched

/-- `_handle_status` makes a state of the push, and returns. -/
def Usable (C : TuyaCrypto) (J : JsonLib) (answer : Nat → Except PyErr Unit)
    (sessionKey : Option Bytes) (frame : TuyaFrame) (s : TuyaState) : Prop :=
  (∃ state, (Life.statusState C J sessionKey frame s).1 = .ok (some state)) ∧
    (handleStatus C J answer sessionKey frame s).1 = .ok ()

/-- While no pairing is in progress, a usable push of the device of the moment invokes each callback
once for each of its subscriptions, and only that device has callbacks. -/
structure Settled (s : State ι) : Prop where
  invoked : (∀ i, ¬ InProgress (s.pairs i)) → ∀ (C : TuyaCrypto) (J : JsonLib)
    (answer : Nat → Except PyErr Unit) (sessionKey : Option Bytes) (frame : TuyaFrame) (t : TuyaState),
    Subscriptions.Shows s.driver t → Usable C J answer sessionKey frame t → ∀ callback,
      (invoked C J answer sessionKey frame t).count callback =
        (s.subscriptions.map Prod.snd).count callback
  keys : (∀ i, ¬ InProgress (s.pairs i)) → ∀ deviceId,
    (s.driver.callbacks.values.get? deviceId).isSome → s.driver.device = some deviceId

/-- Pairings do not overlap, `disconnect` does not raise in one that has turned to its device, and
who subscribes during one subscribes to the device it started from. -/
def Orderly (s : State ι) : Event ι → Prop
  | .subscribe deviceId _ => s.driver.device = some deviceId →
      ∀ i, ∀ w ∈ s.pairs i, InProgress (some w) → w.previous = some deviceId
  | .pairing _ .lock => ∀ i, ¬ InProgress (s.pairs i)
  | .pairing call .finish => ∀ w ∈ s.pairs call, w.phase ≠ .switched
  | _ => True

end Statement

/-! ## Lemmas -/

/-! ### The list object -/

/-- A new callback, as the publisher of a session has one, is added like any other. -/
theorem subscribe_eq_add (t : CallbackLists) (deviceId : String) :
    t.subscribe deviceId = add t deviceId t.made := by
  unfold CallbackLists.subscribe add
  congr 1
  exact (Nat.max_eq_right (Nat.le_succ _)).symm

/-- The callbacks belong to `home` alone, and its list has those whose subscriptions are open. -/
structure Kept (t : CallbackLists) (subscriptions : List (Nat × Nat)) (home : Option String) :
    Prop where
  keys : ∀ k, (t.table.get? k).isSome → home = some k
  refs : ∀ p ∈ subscriptions, ∃ k, home = some k ∧ t.table.get? k = some p.1
  perm : ∀ k r, t.table.get? k = some r → (t.lists r).Perm (subscriptions.map Prod.snd)

section Kept

variable {t : CallbackLists} {subscriptions : List (Nat × Nat)} {home : Option String}

theorem kept_start : Kept .none [] home where
  keys := nofun
  refs := List.forall_mem_nil _
  perm := nofun

theorem Kept.subscriptions_eq_nil (h : Kept t subscriptions home)
    (hnone : ∀ k, home = some k → t.table.get? k = none) : subscriptions = [] := by
  apply List.eq_nil_iff_forall_not_mem.mpr
  intro p hp
  obtain ⟨k, hk, hget⟩ := h.refs p hp
  rw [hnone k hk] at hget
  cases hget

theorem listOf_add (t : CallbackLists) (k : String) (callback : Nat) :
    (add t k callback).table.get? k = some (t.listOf k) := by
  show (t.table.setDefault k t.fresh).get? k = _
  rw [Dict.get?_setDefault, if_pos rfl]
  rfl

theorem Kept.add {k : String} (h : Kept t subscriptions (some k)) (callback : Nat) :
    Kept (add t k callback) ((t.listOf k, callback) :: subscriptions) (some k) where
  keys k' hk' := by
    by_cases he : k' = k
    · rw [he]
    · apply h.keys k'
      have hget : (t.table.setDefault k t.fresh).get? k' = t.table.get? k' := by
        rw [Dict.get?_setDefault, if_neg he]
      rw [← hget]
      exact hk'
  refs p hp := by
    refine ⟨k, rfl, ?_⟩
    rw [listOf_add]
    rcases List.mem_cons.mp hp with rfl | hp
    · rfl
    · obtain ⟨k', hk', hget⟩ := h.refs p hp
      cases hk'
      unfold CallbackLists.listOf
      rw [hget]
      rfl
  perm k' r hr := by
    have hk' : k' = k := by
      by_contra he
      have hget : (t.table.setDefault k t.fresh).get? k' = t.table.get? k' := by
        rw [Dict.get?_setDefault, if_neg he]
      have hsome : (t.table.get? k').isSome := by
        rw [← hget]
        exact Option.isSome_of_mem hr
      exact he (Option.some.inj (h.keys k' hsome)).symm
    rw [hk', listOf_add] at hr
    cases hr
    have hold : (t.lists (t.listOf k)).Perm (subscriptions.map Prod.snd) := by
      cases hget : t.table.get? k with
      | some r =>
        have href : t.listOf k = r := by
          unfold CallbackLists.listOf
          rw [hget]
          rfl
        rw [href]
        exact h.perm k r hget
      | none =>
        have hnil : subscriptions = [] := h.subscriptions_eq_nil fun k' hk' => by
          cases hk'
          exact hget
        have href : t.listOf k = t.fresh := by
          unfold CallbackLists.listOf
          rw [hget]
          rfl
        rw [href, hnil, t.blank t.fresh (le_refl _)]
        exact .nil
    show (Function.update t.lists (t.listOf k) (t.lists (t.listOf k) ++ [callback])
      (t.listOf k)).Perm (callback :: subscriptions.map Prod.snd)
    rw [Function.update_self]
    exact List.perm_append_comm.trans (hold.cons callback)

/-- The function of a subscription finds its callback in the list that the driver reads. -/
theorem Kept.unsubscribe (h : Kept t subscriptions home) {ref callback : Nat}
    (hmem : (ref, callback) ∈ subscriptions) :
    Kept (t.unsubscribe ref callback) (subscriptions.erase (ref, callback)) home where
  keys := h.keys
  refs p hp := h.refs p (List.mem_of_mem_erase hp)
  perm k r hr := by
    obtain ⟨k', hk', href⟩ := h.refs _ hmem
    have hkk : k' = k := by
      have hsome := h.keys k (Option.isSome_of_mem hr)
      rw [hk'] at hsome
      exact Option.some.inj hsome
    subst hkk
    have hrr : r = ref := Option.some.inj ((show t.table.get? k' = some r from hr).symm.trans href)
    subst hrr
    have hout : (subscriptions.map Prod.snd).Perm
        (callback :: (subscriptions.erase (r, callback)).map Prod.snd) :=
      (List.perm_cons_erase hmem).map Prod.snd
    rw [CallbackLists.unsubscribe_lists_self]
    have herase := ((h.perm k' r href).trans hout).erase callback
    rw [List.erase_cons_head] at herase
    exact herase

theorem kept_empty (h : ∀ k, t.table.get? k = none) : Kept t [] home where
  keys k hk := by
    rw [h k] at hk
    cases hk
  refs := List.forall_mem_nil _
  perm k r hr := by
    rw [h k] at hr
    cases hr

/-- Nothing is left without the list of `home`. -/
theorem Kept.erase_get? {p : String} (h : Kept t subscriptions (some p)) (k : String) :
    (t.table.erase p).get? k = none := by
  rw [Dict.get?_erase]
  by_cases hk : k = p
  · exact if_pos hk
  · rw [if_neg hk]
    by_contra hne
    exact hk (Option.some.inj (h.keys k (Option.isSome_iff_ne_none.mpr hne))).symm

/-- A list with callbacks is the only one afterwards. -/
theorem Kept.handedOn {p target : String} {r : Nat} (h : Kept t subscriptions (some p))
    (hp : t.table.get? p = some r) (hl : t.lists r ≠ []) :
    Kept (t.move (some p) target) subscriptions (some target) := by
  have hget : ∀ k, (t.move (some p) target).table.get? k = if k = target then some r else none := by
    intro k
    show (t.movedTable (some p) target).get? k = _
    unfold CallbackLists.movedTable
    simp only [hp, if_neg hl]
    rw [Dict.get?_set, h.erase_get?]
  refine ⟨fun k hk => ?_, fun q hq => ⟨target, rfl, ?_⟩, fun k x hx => ?_⟩
  · rw [hget] at hk
    by_cases hk' : k = target
    · rw [hk']
    · rw [if_neg hk'] at hk
      cases hk
  · obtain ⟨k, hk, href⟩ := h.refs q hq
    cases hk
    rw [hget, if_pos rfl, ← hp, href]
  · rw [hget] at hx
    by_cases hk' : k = target
    · rw [if_pos hk'] at hx
      cases hx
      exact h.perm p r hp
    · rw [if_neg hk'] at hx
      cases hx

/-- A pairing that is done has the callbacks with its device. -/
theorem Kept.move (h : Kept t subscriptions home) (target : String) :
    Kept (t.move home target) subscriptions (some target) := by
  cases hh : home with
  | none =>
    subst hh
    have hkeys : ∀ k, t.table.get? k = none := by
      intro k
      by_contra hne
      cases h.keys k (Option.isSome_iff_ne_none.mpr hne)
    rw [h.subscriptions_eq_nil fun k _ => hkeys k]
    exact kept_empty hkeys
  | some p =>
    subst hh
    -- the list is gone, or empty and not handed on: nobody is subscribed
    have hdropped : subscriptions = [] → t.movedTable (some p) target = t.table.erase p →
        Kept (t.move (some p) target) subscriptions (some target) := by
      rintro rfl htable
      apply kept_empty
      intro k
      rw [← h.erase_get? k, ← htable]
      rfl
    cases hp : t.table.get? p with
    | none =>
      apply hdropped
      · apply h.subscriptions_eq_nil
        rintro k ⟨⟩
        exact hp
      · unfold CallbackLists.movedTable
        simp only [hp]
    | some r =>
      by_cases hl : t.lists r = []
      · apply hdropped
        · have hperm := h.perm p r hp
          rw [hl] at hperm
          exact List.map_eq_nil_iff.mp hperm.symm.eq_nil
        · unfold CallbackLists.movedTable
          simp only [hp, if_pos hl]
      · exact h.handedOn hp hl

end Kept

/-! ### The steps of a pairing -/

/-- Everything an event does to the driver and to the call it belongs to. -/
inductive Went (t : Driver) : Option Pairing → PairEvent → Driver → Option Pairing → Prop
  | request (target : String) : Went t none (.request target) t (some ⟨.waiting, target, none⟩)
  | lock (w : Pairing) (hw : w.phase = .waiting) :
    Went t (some w) .lock t (some ⟨.running, w.target, t.device⟩)
  | switch (w : Pairing) (hw : w.phase = .running) :
    Went t (some w) .switch { t with device := some w.target } (some { w with phase := .switched })
  | commit (w : Pairing) (hw : w.phase = .switched) :
    Went t (some w) .commit { t with callbacks := t.callbacks.move w.previous w.target }
      (some { w with phase := .ending })
  | rollback (w : Pairing) (hw : w.phase = .switched) :
    Went t (some w) .rollback { t with device := w.previous } (some { w with phase := .ending })
  | finish (w : Pairing) : Went t (some w) .finish t none

theorem pairingStep_went {t t' : Driver} {w w' : Option Pairing} {e : PairEvent}
    (h : pairingStep (t, w) e = some (t', w')) : Went t w e t' w' := by
  cases w with
  | none => cases e <;> cases h; exact .request _
  | some w =>
    obtain ⟨phase, target, previous⟩ := w
    cases phase <;> cases e <;> cases h
    case some.waiting.lock => exact .lock ⟨.waiting, target, previous⟩ rfl
    case some.running.switch => exact .switch ⟨.running, target, previous⟩ rfl
    case some.switched.commit => exact .commit ⟨.switched, target, previous⟩ rfl
    case some.switched.rollback => exact .rollback ⟨.switched, target, previous⟩ rfl
    all_goals exact .finish _

theorem not_inProgress_none : ¬ InProgress none := nofun

theorem inProgress_some {w : Pairing} :
    InProgress (some w) ↔ w.phase = .running ∨ w.phase = .switched := by
  constructor
  · rintro ⟨_, ⟨⟩, h⟩
    exact h
  · intro h
    exact ⟨w, rfl, h⟩

/-! ### Invariant -/

/-- A call in progress knows the device it started from, which is the one with the callbacks. -/
structure Follows (device home : Option String) (w : Pairing) : Prop where
  previous : w.previous = home
  running : w.phase = .running → device = home
  switched : w.phase = .switched → device = some w.target

/-- `home` is the device with the callbacks: the one the pairing in progress started from, and
without one the configured device. -/
structure Inv {ι : Type} (s : State ι) (home : Option String) : Prop where
  kept : Kept s.driver.callbacks s.subscriptions home
  follows : ∀ i, ∀ w ∈ s.pairs i, InProgress (some w) → Follows s.driver.device home w
  alone : ∀ i j, InProgress (s.pairs i) → InProgress (s.pairs j) → i = j
  quiet : (∀ i, ¬ InProgress (s.pairs i)) → s.driver.device = home

section Steps

variable {ι : Type} [DecidableEq ι] {s s' : State ι} {home : Option String} {call : ι}

omit [DecidableEq ι] in
theorem inv_start (device : Option String) : Inv (start device : State ι) device where
  kept := kept_start
  follows _ _ := nofun
  alone _ _ := nofun
  quiet _ := rfl

omit [DecidableEq ι] in
/-- Who subscribes to the configured device subscribes where the callbacks are. -/
theorem Inv.subscribes {deviceId : String} {callback : Nat} (h : Inv s home)
    (hc : Orderly s (.subscribe deviceId callback)) (hd : s.driver.device = some deviceId) :
    home = some deviceId := by
  by_cases hin : ∃ i, InProgress (s.pairs i)
  · obtain ⟨i, w, hw, hphase⟩ := hin
    have hprogress := inProgress_some.mpr hphase
    exact (h.follows i w hw hprogress).previous.symm.trans (hc hd i w hw hprogress)
  · exact (h.quiet (not_exists.mp hin)).symm.trans hd

/-- The invariant after an event of a call that no other is in progress with. -/
theorem inv_update {driver : Driver} {pairs : ι → Option Pairing} {subscriptions : List (Nat × Nat)}
    {w' : Option Pairing} (hothers : ∀ i, i ≠ call → ¬ InProgress (pairs i))
    (hkept : Kept driver.callbacks subscriptions home)
    (hfollows : ∀ w ∈ w', InProgress (some w) → Follows driver.device home w)
    (hquiet : ¬ InProgress w' → driver.device = home) :
    Inv ⟨driver, Function.update pairs call w', subscriptions⟩ home where
  kept := hkept
  follows i w hw hin := by
    change w ∈ Function.update pairs call w' i at hw
    by_cases hi : i = call
    · subst hi
      rw [Function.update_self] at hw
      exact hfollows w hw hin
    · rw [Function.update_of_ne hi] at hw
      exact absurd (hw ▸ hin) (hothers i hi)
  alone i j hi hj := by
    have honly : ∀ k, InProgress (Function.update pairs call w' k) → k = call := by
      intro k hk
      by_contra hne
      rw [Function.update_of_ne hne] at hk
      exact hothers k hne hk
    exact (honly i hi).trans (honly j hj).symm
  quiet h := by
    apply hquiet
    have hcall : ¬ InProgress (Function.update pairs call w' call) := h call
    rw [Function.update_self] at hcall
    exact hcall

/-- The invariant after an event of a call that is not in progress before or after it. -/
theorem Inv.update_idle (h : Inv s home) {w' : Option Pairing} (hw : ¬ InProgress (s.pairs call))
    (hw' : ¬ InProgress w') : Inv { s with pairs := Function.update s.pairs call w' } home := by
  have hsame : ∀ i, InProgress (Function.update s.pairs call w' i) ↔ InProgress (s.pairs i) := by
    intro i
    by_cases hi : i = call
    · subst hi
      rw [Function.update_self]
      exact iff_of_false hw' hw
    · rw [Function.update_of_ne hi]
  refine ⟨h.kept, fun i w hiw hin => ?_, fun i j hi hj => ?_, fun hq => ?_⟩
  · change Function.update s.pairs call w' i = some w at hiw
    by_cases hi : i = call
    · rw [hi, Function.update_self] at hiw
      exact absurd (hiw ▸ hin) hw'
    · rw [Function.update_of_ne hi] at hiw
      exact h.follows i w hiw hin
  · exact h.alone i j ((hsame i).mp hi) ((hsame j).mp hj)
  · exact h.quiet fun i hi => hq i ((hsame i).mpr hi)

omit [DecidableEq ι] in
/-- The other calls, while `call` is in progress. -/
theorem Inv.others (h : Inv s home) (hcall : InProgress (s.pairs call)) :
    ∀ i, i ≠ call → ¬ InProgress (s.pairs i) := by
  intro i hi hin
  exact hi (h.alone i call hin hcall)

theorem Inv.pairs (h : Inv s home) {e : PairEvent} {driver : Driver} {w' : Option Pairing}
    (hc : Orderly s (.pairing call e)) (hw : Went s.driver (s.pairs call) e driver w') :
    ∃ home', Inv ⟨driver, Function.update s.pairs call w', s.subscriptions⟩ home' := by
  generalize hcall : s.pairs call = w at hw
  have hidle : ∀ {p : Pairing}, p.phase = .waiting ∨ p.phase = .ending → ¬ InProgress (some p) := by
    rintro p hp hin
    rcases inProgress_some.mp hin with hphase | hphase <;> rcases hp with hp | hp <;>
      cases hp.symm.trans hphase
  cases hw with
  | request target =>
    refine ⟨home, h.update_idle ?_ (hidle (Or.inl rfl))⟩
    rw [hcall]
    exact not_inProgress_none
  | lock w hphase =>
    have hhome := h.quiet hc
    refine ⟨home, inv_update (fun i _ => hc i) h.kept ?_ ?_⟩
    · rintro _ ⟨⟩ -
      exact ⟨hhome, fun _ => hhome, nofun⟩
    · intro hnot
      exact absurd (inProgress_some.mpr (Or.inl rfl)) hnot
  | switch w hphase =>
    have hin := inProgress_some.mpr (Or.inl hphase)
    have hfollows := h.follows call w hcall hin
    refine ⟨home, inv_update (h.others (hcall ▸ hin)) h.kept ?_ ?_⟩
    · rintro _ ⟨⟩ -
      exact ⟨hfollows.previous, nofun, fun _ => rfl⟩
    · intro hnot
      exact absurd (inProgress_some.mpr (Or.inr rfl)) hnot
  | commit w hphase =>
    have hin := inProgress_some.mpr (Or.inr hphase)
    have hfollows := h.follows call w hcall hin
    refine ⟨some w.target, inv_update (h.others (hcall ▸ hin)) ?_ ?_ ?_⟩
    · rw [hfollows.previous]
      exact h.kept.move w.target
    · rintro _ ⟨⟩ hend
      exact absurd hend (hidle (Or.inr rfl))
    · intro _
      exact hfollows.switched hphase
  | rollback w hphase =>
    have hin := inProgress_some.mpr (Or.inr hphase)
    have hfollows := h.follows call w hcall hin
    refine ⟨home, inv_update (h.others (hcall ▸ hin)) h.kept ?_ fun _ => hfollows.previous⟩
    rintro _ ⟨⟩ hend
    exact absurd hend (hidle (Or.inr rfl))
  | finish w =>
    by_cases hin : InProgress (some w)
    · -- `disconnect` did not raise after the switch, so the call ends before it
      have hrunning : w.phase = .running :=
        (inProgress_some.mp hin).resolve_right (hc w hcall)
      have hfollows := h.follows call w hcall hin
      refine ⟨home, inv_update (h.others (hcall ▸ hin)) h.kept (fun _ => nofun) fun _ => ?_⟩
      exact hfollows.running hrunning
    · exact ⟨home, h.update_idle (hcall ▸ hin) not_inProgress_none⟩

theorem step_inv {e : Event ι} (h : Inv s home) (hc : Orderly s e) (hs : step s e = some s') :
    ∃ home', Inv s' home' := by
  cases e with
  | subscribe deviceId callback =>
    dsimp only [step] at hs
    split at hs
    · next hd =>
      cases hs
      have hhome := h.subscribes hc hd
      subst hhome
      exact ⟨_, h.kept.add callback, h.follows, h.alone, h.quiet⟩
    · cases hs
      exact ⟨home, h⟩
  | unsubscribe ref callback =>
    obtain ⟨hmem, ⟨⟩⟩ := Option.ite_none_right_eq_some.mp hs
    exact ⟨home, h.kept.unsubscribe hmem, h.follows, h.alone, h.quiet⟩
  | pairing call e =>
    obtain ⟨⟨driver, w'⟩, hr, rfl⟩ := Option.map_eq_some_iff.mp hs
    exact h.pairs hc (pairingStep_went hr)

end Steps

/-! ### What a push invokes -/

/-- An ordinary exception does not end the loop. -/
theorem notifyEach_all {answer : Nat → Except PyErr Unit} {callbacks : List Nat}
    (h : ∀ callback ∈ callbacks, Raises IsOrdinary (answer callback)) (before : List Nat) :
    notifyEach (noteCall answer) callbacks before = (.ok (), before ++ callbacks) := by
  induction callbacks generalizing before with
  | nil =>
    rw [List.append_nil]
    rfl
  | cons callback callbacks ih =>
    obtain ⟨hcallback, hrest⟩ := List.forall_mem_cons.mp h
    have hturn : PyM.tryExcept (noteCall answer callback) (fun e =>
        if e.isA .Exception then pure () else PyM.raise e) before =
          (.ok (), before ++ [callback]) := by
      unfold noteCall
      cases hanswer : answer callback with
      | ok u => rfl
      | error e =>
        have he : e.isA .Exception = true := hcallback e hanswer
        show (if e.isA .Exception then pure () else PyM.raise e : PyM (List Nat) Unit) _ = _
        rw [if_pos he]
        rfl
    unfold notifyEach
    rw [PyM.bind_ok hturn, ih hrest, List.append_assoc]
    rfl

theorem called_all {answer : Nat → Except PyErr Unit} {callbacks : List Nat}
    (h : ∀ callback ∈ callbacks, Raises IsOrdinary (answer callback)) :
    called answer callbacks = callbacks := by
  unfold called
  rw [notifyEach_all h]
  rfl

section Pushes

variable {C : TuyaCrypto} {J : JsonLib} {answer : Nat → Except PyErr Unit} {sessionKey : Option Bytes}
variable {frame : TuyaFrame} {s t : TuyaState}

theorem statusState_callbacks (sessionKey : Option Bytes) (frame : TuyaFrame) (s : TuyaState) :
    (Life.statusState C J sessionKey frame s).2.callbacks = s.callbacks := by
  have hmerge : ∀ payload, PyM.Preserves (fun t => t.callbacks = s.callbacks) (mergeDps J payload) :=
    fun payload => PyM.preserves_bind (PyM.preserves_outcome _) fun _ =>
      PyM.preserves_modify fun _ h => h
  have hignore : ∀ {α : Type} {m : PyM TuyaState α},
      PyM.Preserves (fun t => t.callbacks = s.callbacks) m →
        PyM.Preserves (fun t => t.callbacks = s.callbacks) (orIgnore m) := by
    intro α m hm
    refine PyM.preserves_tryExcept (PyM.preserves_map _ hm) fun e => ?_
    split
    · exact PyM.preserves_pure _
    · exact PyM.preserves_raise _
  have h : PyM.Preserves (fun t => t.callbacks = s.callbacks)
      (Life.statusState C J sessionKey frame) := by
    unfold Life.statusState
    refine PyM.preserves_bind PyM.preserves_get fun _ => ?_
    refine PyM.preserves_bind (PyM.preserves_outcome _) fun d => ?_
    refine PyM.preserves_bind (PyM.preserves_outcome _) fun decoded => ?_
    cases d.dps with
    | none => exact PyM.preserves_map _ (hignore (hmerge _))
    | some m =>
      refine PyM.preserves_bind (hignore ?_) fun state => ?_
      · refine PyM.preserves_bind (hmerge _) fun _ => ?_
        refine PyM.preserves_bind PyM.preserves_get fun _ => ?_
        exact PyM.preserves_bind (PyM.preserves_outcome _) fun _ => PyM.preserves_pure _
      · cases state with
        | none => exact PyM.preserves_pure _
        | some state =>
          exact PyM.preserves_bind (PyM.preserves_modify fun _ h => h) fun _ => PyM.preserves_pure _
  exact h s rfl

/-- What follows a push that makes a state is the loop over the callbacks. -/
theorem handleStatus_notifies {d : TuyaDeviceConfig} {state : LightState} (hd : s.device = some d)
    (h : Life.statusState C J sessionKey frame s = (.ok (some state), t)) :
    handleStatus C J answer sessionKey frame s = notify answer (callbacksOf t d) t := by
  have hdevice : deviceOf s = .ok d := by
    unfold deviceOf
    rw [hd]
  unfold Life.statusState at h
  rw [PyM.get_bind, hdevice, PyM.outcome_ok_bind] at h
  obtain ⟨decoded, hdec, h⟩ := PyM.outcome_bind_run_ok h
  unfold handleStatus applyStatus
  rw [PyM.get_bind, hdevice, PyM.outcome_ok_bind, hdec, PyM.outcome_ok_bind]
  cases hm : d.dps with
  | none =>
    rw [hm] at h
    dsimp only at h
    rw [PyM.map_apply] at h
    cases hr : orIgnore (mergeDps J (withoutRetcode decoded)) s with
    | mk r u =>
      rw [hr] at h
      cases r <;> cases h
  | some m =>
    rw [hm] at h
    dsimp only at h ⊢
    obtain ⟨made, u, hmade, h⟩ := PyM.bind_run_ok h
    rw [PyM.bind_ok hmade]
    cases made with
    | none => cases h
    | some made =>
      cases h
      rfl

theorem usable_invoked {d : TuyaDeviceConfig} (hd : s.device = some d)
    (h : Usable C J answer sessionKey frame s) :
    invoked C J answer sessionKey frame s = callbacksOf s d := by
  obtain ⟨⟨state, hstate⟩, hreturns⟩ := h
  cases hs : Life.statusState C J sessionKey frame s with
  | mk r t =>
    rw [hs] at hstate
    cases hstate
    have hcallbacks : callbacksOf t d = callbacksOf s d := by
      have hsame := statusState_callbacks (C := C) (J := J) sessionKey frame s
      rw [hs] at hsame
      unfold callbacksOf
      rw [hsame]
    rw [handleStatus_notifies hd hs, notify_ok_iff] at hreturns
    unfold invoked
    rw [hs, hd]
    dsimp only
    rw [called_all hreturns, hcallbacks]

end Pushes

theorem device_of_usable {C : TuyaCrypto} {J : JsonLib} {answer : Nat → Except PyErr Unit}
    {sessionKey : Option Bytes} {frame : TuyaFrame} {s : TuyaState}
    (h : Usable C J answer sessionKey frame s) : ∃ d, s.device = some d := by
  obtain ⟨⟨state, hstate⟩, -⟩ := h
  unfold Life.statusState at hstate
  cases hd : s.device with
  | some d => exact ⟨d, rfl⟩
  | none =>
    have hdevice : ∃ e, deviceOf s = .error e := by
      unfold deviceOf
      rw [hd]
      exact ⟨_, rfl⟩
    obtain ⟨e, he⟩ := hdevice
    rw [PyM.get_bind, he] at hstate
    cases hstate

/-- The callbacks the driver reads are those of the open subscriptions. -/
theorem Kept.callbacksOf {t : CallbackLists} {subscriptions : List (Nat × Nat)} {s : TuyaState}
    {d : TuyaDeviceConfig} (h : Kept t subscriptions (some d.deviceId)) (hs : t.values = s.callbacks) :
    (callbacksOf s d).Perm (subscriptions.map Prod.snd) := by
  unfold Linker.callbacksOf
  rw [← hs, CallbackLists.values, Dict.get?_mapVal]
  cases hget : t.table.get? d.deviceId with
  | some r => exact h.perm _ r hget
  | none =>
    have hnil : subscriptions = [] := h.subscriptions_eq_nil fun k hk => by
      cases hk
      exact hget
    rw [hnil]
    exact .nil

theorem Inv.settled {ι : Type} {s : State ι} {home : Option String} (h : Inv s home) : Settled s where
  invoked hq C J answer sessionKey frame t ht hu callback := by
    obtain ⟨d, hd⟩ := device_of_usable hu
    have hhome : home = some d.deviceId := by
      rw [← h.quiet hq, ht.device, hd]
      rfl
    rw [usable_invoked hd hu]
    exact ((hhome ▸ h.kept).callbacksOf ht.callbacks).count_eq callback
  keys hq deviceId hk := by
    rw [h.quiet hq]
    apply h.kept.keys
    rw [CallbackLists.values, Dict.get?_mapVal, Option.isSome_map] at hk
    exact hk

/-! ## Main result -/

/-- **Pairing neither loses nor duplicates subscribers** in an orderly run: whenever no pairing is in
progress, a usable push invokes each callback once for each of its open subscriptions, and no other
device has callbacks. -/
theorem subscribers_kept {ι : Type} [DecidableEq ι] (device : Option String) (es : List (Event ι))
    (h : Runs.Meets step Orderly (start device) es) : Runs.Always step Settled (start device) es := by
  refine Runs.always_of_inv_meets (I := fun s => ∃ home, Inv s home) ?_ ?_ es ⟨device, inv_start device⟩ h
  · rintro s e s' ⟨home, hi⟩ hc hs
    exact step_inv hi hc hs
  · rintro s ⟨home, hi⟩
    exact hi.settled

/-- A callback of one device stays subscribed when the driver is paired with another. -/
theorem subscribers_kept_over_pairing :
    Runs.Always step Settled (start (some "lamp") : State Unit)
      [.subscribe "lamp" 0, .pairing () (.request "shelf"), .pairing () .lock,
        .pairing () .switch, .pairing () .commit, .pairing () .finish] := by
  refine subscribers_kept _ _ ?_
  refine Runs.meets_cons rfl (fun _ _ => nofun) ?_
  refine Runs.meets_cons rfl trivial ?_
  refine Runs.meets_cons rfl ?_ ?_
  · rintro _ ⟨w, ⟨⟩, h | h⟩ <;> cases h
  · refine Runs.meets_cons rfl trivial ?_
    refine Runs.meets_cons rfl trivial ?_
    refine Runs.meets_cons rfl ?_ trivial
    rintro w ⟨⟩ h
    cases h

/-- Two runs that are not orderly.  A callback subscribed to the device of a pairing that then fails
stays behind under a device that is not configured; and of two pairings at once, one fails and
the other leaves the callbacks with the first device. -/
theorem subscribers_left_behind :
    ¬ Runs.Always step Settled (start (some "lamp") : State Unit)
      [.pairing () (.request "shelf"), .pairing () .lock, .pairing () .switch,
        .subscribe "shelf" 0, .pairing () .rollback, .pairing () .finish] ∧
    ¬ Runs.Always step Settled (start (some "lamp") : State Bool)
      [.subscribe "lamp" 0, .pairing false (.request "shelf"), .pairing true (.request "desk"),
        .pairing false .lock, .pairing false .switch, .pairing true .lock,
        .pairing false .rollback, .pairing false .finish, .pairing true .switch,
        .pairing true .commit, .pairing true .finish] := by
  constructor
  · intro h
    have hkeys := (Runs.always_run h rfl).keys (fun i => by cases i; nofun) "shelf" rfl
    exact absurd hkeys (by decide)
  · intro h
    have hkeys := (Runs.always_run h rfl).keys (fun i => by cases i <;> nofun) "lamp" rfl
    exact absurd hkeys (by decide)

/-! ## The pairings of the driver -/

section Pairings

variable {ι : Type} [DecidableEq ι]

theorem run_pairing {s : State ι} {call : ι} {es : List PairEvent} {driver : Driver}
    {w' : Option Pairing}
    (h : Runs.run pairingStep (s.driver, s.pairs call) es = some (driver, w')) :
    Runs.run step s (es.map (.pairing call)) =
      some { s with driver := driver, pairs := Function.update s.pairs call w' } := by
  induction es generalizing s with
  | nil =>
    cases h
    rw [Function.update_eq_self]
    rfl
  | cons e es ih =>
    obtain ⟨⟨driver₁, w₁⟩, hstep, hrest⟩ := Runs.run_cons_some h
    have hs : step s (.pairing call e) =
        some { s with driver := driver₁, pairs := Function.update s.pairs call w₁ } := by
      dsimp only [step]
      rw [hstep]
      rfl
    have hrest' : Runs.run pairingStep (driver₁, Function.update s.pairs call w₁ call) es =
        some (driver, w') := by
      rw [Function.update_self]
      exact hrest
    have hrun := ih (s := { s with driver := driver₁, pairs := Function.update s.pairs call w₁ }) hrest'
    rw [List.map_cons, Runs.run_cons, hs, Option.bind_some, hrun]
    dsimp only
    rw [Function.update_idem]

/-- **A pairing of the driver is a call of these runs.** -/
theorem pair_run (C : TuyaCrypto) (J : JsonLib) (ipAddress : String → Option IpAddress)
    {s : State ι} {call : ι} {t : TuyaState} (h : Subscriptions.Shows s.driver t)
    (hcall : s.pairs call = none) (o : PairOutcomes) (candidateId : String) :
    ∃ (es : List PairEvent) (s' : State ι), Runs.run step s (es.map (.pairing call)) = some s' ∧ s'.pairs = s.pairs ∧
      s'.subscriptions = s.subscriptions ∧
      Subscriptions.Shows s'.driver (pair C J ipAddress o candidateId t).2 := by
  obtain ⟨target, es, driver, hrun, hshows⟩ : ∃ target es driver, Runs.run pairingStep
      (s.driver, some ⟨.running, target, s.driver.device⟩) es = some (driver, none) ∧
        Subscriptions.Shows driver (pair C J ipAddress o candidateId t).2 := pair_refines h o candidateId
  refine ⟨.request target :: .lock :: es,
    { s with driver := driver, pairs := Function.update s.pairs call none }, run_pairing ?_, ?_, rfl,
    hshows⟩
  · rw [hcall]
    exact hrun
  · rw [← hcall]
    exact Function.update_eq_self call s.pairs

end Pairings

end Linker.Subscribers
