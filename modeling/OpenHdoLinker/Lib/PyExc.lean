import Mathlib.Init

/-!
# Python exceptions and computations that may raise

`ExcClass` names the exception classes, each with its base classes (`mro`), so an
`except` clause is a test of class membership (`PyErr.isA`).  `PyM σ α` is a
computation over a mutable state `σ`: what it did to the state stays done when
it raises, which is what `try … except … finally` in the source relies on.
-/

namespace Py

/-- Builtin classes, the classes of two libraries, and classes a program derives. -/
inductive ExcClass
  | BaseException
  | Exception
  | CancelledError
  | ValueError
  | UnicodeDecodeError
  | UnicodeEncodeError
  | JSONDecodeError
  | BinasciiError
  | TypeError
  | LookupError
  | KeyError
  | AttributeError
  | ArithmeticError
  | OverflowError
  | RuntimeError
  | RecursionError
  | EOFError
  | IncompleteReadError
  | OSError
  | ConnectionError
  | ConnectionResetError
  | FileNotFoundError
  | PermissionError
  | TimeoutError
  | InvalidTag
  | derived (name : String) (base : ExcClass)
deriving DecidableEq, Repr

/-- The class itself and its base classes, nearest first. -/
def ExcClass.mro : ExcClass → List ExcClass
  | .BaseException => [.BaseException]
  | .Exception => [.Exception, .BaseException]
  | .CancelledError => [.CancelledError, .BaseException]
  | .ValueError => [.ValueError, .Exception, .BaseException]
  | .UnicodeDecodeError => [.UnicodeDecodeError, .ValueError, .Exception, .BaseException]
  | .UnicodeEncodeError => [.UnicodeEncodeError, .ValueError, .Exception, .BaseException]
  | .JSONDecodeError => [.JSONDecodeError, .ValueError, .Exception, .BaseException]
  | .BinasciiError => [.BinasciiError, .ValueError, .Exception, .BaseException]
  | .TypeError => [.TypeError, .Exception, .BaseException]
  | .LookupError => [.LookupError, .Exception, .BaseException]
  | .KeyError => [.KeyError, .LookupError, .Exception, .BaseException]
  | .AttributeError => [.AttributeError, .Exception, .BaseException]
  | .ArithmeticError => [.ArithmeticError, .Exception, .BaseException]
  | .OverflowError => [.OverflowError, .ArithmeticError, .Exception, .BaseException]
  | .RuntimeError => [.RuntimeError, .Exception, .BaseException]
  | .RecursionError => [.RecursionError, .RuntimeError, .Exception, .BaseException]
  | .EOFError => [.EOFError, .Exception, .BaseException]
  | .IncompleteReadError => [.IncompleteReadError, .EOFError, .Exception, .BaseException]
  | .OSError => [.OSError, .Exception, .BaseException]
  | .ConnectionError => [.ConnectionError, .OSError, .Exception, .BaseException]
  | .ConnectionResetError =>
    [.ConnectionResetError, .ConnectionError, .OSError, .Exception, .BaseException]
  | .FileNotFoundError => [.FileNotFoundError, .OSError, .Exception, .BaseException]
  | .PermissionError => [.PermissionError, .OSError, .Exception, .BaseException]
  | .TimeoutError => [.TimeoutError, .OSError, .Exception, .BaseException]
  | .InvalidTag => [.InvalidTag, .Exception, .BaseException]
  | .derived name base => .derived name base :: base.mro

/-- An exception: its class and its text, `str(error)`. -/
structure PyErr where
  cls : ExcClass
  text : String
deriving DecidableEq, Repr

/-- `isinstance(error, cls)`. -/
def PyErr.isA (e : PyErr) (c : ExcClass) : Bool := c ∈ e.cls.mro

/-- `except (c₁, c₂, …)`. -/
def PyErr.isAny (e : PyErr) (cs : List ExcClass) : Bool := cs.any e.isA

def valueError (text : String) : PyErr := ⟨.ValueError, text⟩

theorem ExcClass.mem_mro_self (c : ExcClass) : c ∈ c.mro := by
  cases c <;> simp [ExcClass.mro]

@[simp] theorem isA_self (c : ExcClass) (text : String) : (⟨c, text⟩ : PyErr).isA c = true := by
  simp [PyErr.isA, ExcClass.mem_mro_self]

/-- A derived class is caught wherever its base class is. -/
theorem isA_derived (name text : String) (base c : ExcClass) (h : c ∈ base.mro) :
    (⟨.derived name base, text⟩ : PyErr).isA c = true := by
  simp [PyErr.isA, ExcClass.mro, h]

/-- The bases of a class's bases are among its bases. -/
theorem ExcClass.mro_trans (c : ExcClass) : ∀ b ∈ c.mro, ∀ a ∈ b.mro, a ∈ c.mro := by
  induction c with
  | derived name base ih =>
    intro b hb a ha
    rw [mro, List.mem_cons] at hb
    rcases hb with rfl | hb
    · exact ha
    · exact List.mem_cons_of_mem _ (ih b hb a ha)
  | _ => decide

/-- `except` of a base class catches the derived class too. -/
theorem PyErr.isA_base {e : PyErr} {b : ExcClass} (h : e.isA b = true) (a : ExcClass)
    (ha : a ∈ b.mro) : e.isA a = true := by
  unfold PyErr.isA at *
  rw [decide_eq_true_eq] at *
  exact e.cls.mro_trans b h a ha

/-! ## Which exceptions a call can raise -/

section Raises

variable {α β : Type} {P Q : PyErr → Prop}

/-- Whatever the call raises satisfies `P`. -/
def Raises (P : PyErr → Prop) (r : Except PyErr α) : Prop := ∀ e, r = .error e → P e

theorem raises_ok (a : α) : Raises P (Except.ok a : Except PyErr α) := nofun

theorem raises_error {e : PyErr} (h : P e) : Raises P (Except.error e : Except PyErr α) := by
  intro e' he
  cases he
  exact h

theorem Raises.mono {r : Except PyErr α} (h : Raises P r) (hPQ : ∀ e, P e → Q e) : Raises Q r :=
  fun e he => hPQ e (h e he)

theorem raises_bind {r : Except PyErr α} {f : α → Except PyErr β} (hr : Raises P r)
    (hf : ∀ a, r = .ok a → Raises P (f a)) : Raises P (r >>= f) := by
  cases r with
  | ok a => exact hf a rfl
  | error e => exact raises_error (hr e rfl)

/-- What the first call raises, the sequence raises. -/
theorem Raises.of_bind {r : Except PyErr α} {f : α → Except PyErr β} (h : Raises P (r >>= f)) :
    Raises P r := by
  rintro e rfl
  exact h e rfl

theorem Raises.of_bind_ok {r : Except PyErr α} {f : α → Except PyErr β} {a : α}
    (h : Raises P (r >>= f)) (hr : r = .ok a) : Raises P (f a) := by
  subst hr
  exact h

theorem raises_map {r : Except PyErr α} (f : α → β) (hr : Raises P r) : Raises P (f <$> r) := by
  cases r with
  | ok a => exact raises_ok _
  | error e => exact raises_error (hr e rfl)

theorem raises_map_iff (f : α → β) (r : Except PyErr α) : Raises P (f <$> r) ↔ Raises P r := by
  refine ⟨?_, raises_map f⟩
  rintro h e rfl
  exact h e rfl

theorem bind_eq_ok {r : Except PyErr α} {f : α → Except PyErr β} {b : β}
    (h : (r >>= f) = .ok b) : ∃ a, r = .ok a ∧ f a = .ok b := by
  cases r with
  | ok a => exact ⟨a, rfl, h⟩
  | error e => cases h

end Raises

/-! ## Computations -/

/-- A computation on a state that returns a value or raises. -/
def PyM (σ α : Type) : Type := σ → Except PyErr α × σ

namespace PyM

variable {σ α β : Type}

instance : Monad (PyM σ) where
  pure a := fun s => (.ok a, s)
  bind m f := fun s =>
    match m s with
    | (.ok a, s') => f a s'
    | (.error e, s') => (.error e, s')

def get : PyM σ σ := fun s => (.ok s, s)

def modify (f : σ → σ) : PyM σ Unit := fun s => (.ok (), f s)

def raise (e : PyErr) : PyM σ α := fun s => (.error e, s)

/-- An awaited or called operation whose outcome the surroundings decide. -/
def outcome (r : Except PyErr α) : PyM σ α := fun s => (r, s)

/-- `try: body` / `except BaseException as e: handler(e)`. -/
def tryExcept (body : PyM σ α) (handler : PyErr → PyM σ α) : PyM σ α := fun s =>
  match body s with
  | (.ok a, s') => (.ok a, s')
  | (.error e, s') => handler e s'

/-- `try: body` / `finally: cleanup`; what the cleanup raises replaces what the body did. -/
def tryFinally (body : PyM σ α) (cleanup : PyM σ Unit) : PyM σ α := fun s =>
  match body s with
  | (r, s') =>
    match cleanup s' with
    | (.ok _, s'') => (r, s'')
    | (.error e, s'') => (.error e, s'')

@[simp] theorem pure_apply (a : α) (s : σ) : (pure a : PyM σ α) s = (.ok a, s) := rfl

theorem bind_apply (m : PyM σ α) (f : α → PyM σ β) (s : σ) :
    (m >>= f) s = match m s with
      | (.ok a, s') => f a s'
      | (.error e, s') => (.error e, s') := rfl

theorem bind_ok {m : PyM σ α} {f : α → PyM σ β} {s s' : σ} {a : α} (h : m s = (.ok a, s')) :
    (m >>= f) s = f a s' := by
  rw [bind_apply, h]

theorem bind_error {m : PyM σ α} {f : α → PyM σ β} {s s' : σ} {e : PyErr}
    (h : m s = (.error e, s')) : (m >>= f) s = (.error e, s') := by
  rw [bind_apply, h]

@[simp] theorem get_bind (f : σ → PyM σ β) (s : σ) : (get >>= f) s = f s s := rfl

@[simp] theorem modify_bind (g : σ → σ) (f : Unit → PyM σ β) (s : σ) :
    (modify g >>= f) s = f () (g s) := rfl

@[simp] theorem modify_apply (g : σ → σ) (s : σ) : modify g s = (.ok (), g s) := rfl

@[simp] theorem raise_bind (e : PyErr) (f : α → PyM σ β) (s : σ) :
    ((raise e : PyM σ α) >>= f) s = (.error e, s) := rfl

@[simp] theorem raise_apply (e : PyErr) (s : σ) : (raise e : PyM σ α) s = (.error e, s) := rfl

@[simp] theorem outcome_ok_bind (a : α) (f : α → PyM σ β) (s : σ) :
    (outcome (.ok a) >>= f) s = f a s := rfl

@[simp] theorem outcome_error_bind (e : PyErr) (f : α → PyM σ β) (s : σ) :
    (outcome (.error e) >>= f) s = (.error e, s) := rfl

theorem map_apply (f : α → β) (m : PyM σ α) (s : σ) :
    (f <$> m) s = (f <$> (m s).1, (m s).2) := by
  change (m >>= fun a => pure (f a)) s = _
  rw [bind_apply]
  cases m s with
  | mk r t =>
    cases r with
    | ok a => rfl
    | error e => rfl

instance : LawfulMonad (PyM σ) := LawfulMonad.mk' _
  (fun m => by
    funext s
    rw [map_apply]
    cases m s with
    | mk r t => cases r <;> rfl)
  (fun _ _ => rfl)
  (fun m f g => by
    funext s
    rw [bind_apply, bind_apply, bind_apply]
    cases m s with
    | mk r t => cases r <;> rfl)

theorem tryExcept_ok {body : PyM σ α} {handler : PyErr → PyM σ α} {s s' : σ} {a : α}
    (h : body s = (.ok a, s')) : tryExcept body handler s = (.ok a, s') := by
  unfold tryExcept; rw [h]

theorem tryExcept_error {body : PyM σ α} {handler : PyErr → PyM σ α} {s s' : σ} {e : PyErr}
    (h : body s = (.error e, s')) : tryExcept body handler s = handler e s' := by
  unfold tryExcept; rw [h]

/-- The cleanup works on whatever the body left. -/
theorem tryFinally_snd (body : PyM σ α) (cleanup : PyM σ Unit) (s : σ) :
    (tryFinally body cleanup s).2 = (cleanup (body s).2).2 := by
  unfold tryFinally
  cases body s with
  | mk r s' =>
    cases hc : cleanup s' with
    | mk o s'' => cases o <;> simp [hc]

/-! ### Taking a finished run apart -/

theorem bind_run_ok {m : PyM σ α} {f : α → PyM σ β} {s t : σ} {b : β}
    (h : (m >>= f) s = (.ok b, t)) : ∃ a s', m s = (.ok a, s') ∧ f a s' = (.ok b, t) := by
  rw [bind_apply] at h
  cases hms : m s with
  | mk r s' =>
    rw [hms] at h
    cases r with
    | ok a => exact ⟨a, s', rfl, h⟩
    | error e => cases h

theorem outcome_bind_run_ok {r : Except PyErr α} {f : α → PyM σ β} {s t : σ} {b : β}
    (h : (outcome r >>= f) s = (.ok b, t)) : ∃ a, r = .ok a ∧ f a s = (.ok b, t) := by
  cases r with
  | ok a => exact ⟨a, rfl, h⟩
  | error e => cases h

/-! ### What a computation preserves -/

/-- `I` holds afterwards if it held before, however the computation ends. -/
def Preserves (I : σ → Prop) (m : PyM σ α) : Prop := ∀ s, I s → I (m s).2

section Preserves

variable {I : σ → Prop}

/-- What is preserved holds where a run ends. -/
theorem Preserves.run {m : PyM σ α} (h : Preserves I m) {s t : σ} {r : Except PyErr α} (hs : I s)
    (hr : m s = (r, t)) : I t := by
  have ht := h s hs
  rwa [hr] at ht

theorem preserves_pure (a : α) : Preserves I (pure a : PyM σ α) := fun _ h => h

theorem preserves_get : Preserves I (get : PyM σ σ) := fun _ h => h

theorem preserves_raise (e : PyErr) : Preserves I (raise e : PyM σ α) := fun _ h => h

theorem preserves_outcome (r : Except PyErr α) : Preserves I (outcome r : PyM σ α) := fun _ h => h

theorem preserves_modify {f : σ → σ} (h : ∀ s, I s → I (f s)) : Preserves I (modify f) := h

/-- What the first part of a run leaves and the rest preserves holds at its end. -/
theorem bind_after {m : PyM σ α} {f : α → PyM σ β} {s : σ} (hm : I (m s).2)
    (hf : ∀ a, Preserves I (f a)) : I ((m >>= f) s).2 := by
  rw [bind_apply]
  cases hms : m s with
  | mk r s' =>
    rw [hms] at hm
    cases r with
    | ok a => exact hf a s' hm
    | error e => exact hm

theorem tryExcept_after {body : PyM σ α} {handler : PyErr → PyM σ α} {s : σ} (hb : I (body s).2)
    (hh : ∀ e, Preserves I (handler e)) : I (tryExcept body handler s).2 := by
  unfold tryExcept
  cases hbs : body s with
  | mk r s' =>
    rw [hbs] at hb
    cases r with
    | ok a => exact hb
    | error e => exact hh e s' hb

theorem preserves_bind {m : PyM σ α} {f : α → PyM σ β} (hm : Preserves I m)
    (hf : ∀ a, Preserves I (f a)) : Preserves I (m >>= f) := fun s hs => bind_after (hm s hs) hf

theorem preserves_map {m : PyM σ α} (f : α → β) (hm : Preserves I m) : Preserves I (f <$> m) :=
  preserves_bind hm fun a => preserves_pure (f a)

theorem preserves_mapM (l : List β) {f : β → PyM σ α} (hf : ∀ b ∈ l, Preserves I (f b)) :
    Preserves I (l.mapM f) := by
  induction l with
  | nil => exact preserves_pure []
  | cons b l ih =>
    rw [List.mapM_cons]
    refine preserves_bind (hf b List.mem_cons_self) ?_
    intro a
    exact preserves_map _ (ih fun c hc => hf c (List.mem_cons_of_mem _ hc))

theorem preserves_tryExcept {body : PyM σ α} {handler : PyErr → PyM σ α} (hb : Preserves I body)
    (hh : ∀ e, Preserves I (handler e)) : Preserves I (tryExcept body handler) :=
  fun s hs => tryExcept_after (hb s hs) hh

end Preserves

/-! ### Which exceptions a computation can raise -/

/-- Whatever the computation raises, from any state, satisfies `P`. -/
def RaisesOnly (P : PyErr → Prop) (m : PyM σ α) : Prop := ∀ s, Raises P (m s).1

section RaisesOnly

variable {P Q : PyErr → Prop}

theorem raisesOnly_pure (a : α) : RaisesOnly P (pure a : PyM σ α) := fun _ => raises_ok a

theorem raisesOnly_get : RaisesOnly P (get : PyM σ σ) := fun _ => raises_ok _

theorem raisesOnly_modify (f : σ → σ) : RaisesOnly P (modify f) := fun _ => raises_ok _

theorem raisesOnly_raise {e : PyErr} (h : P e) : RaisesOnly P (raise e : PyM σ α) :=
  fun _ => raises_error h

theorem raisesOnly_outcome {r : Except PyErr α} (h : Raises P r) :
    RaisesOnly P (outcome r : PyM σ α) := fun _ => h

theorem raisesOnly_bind {m : PyM σ α} {f : α → PyM σ β} (hm : RaisesOnly P m)
    (hf : ∀ a, RaisesOnly P (f a)) : RaisesOnly P (m >>= f) := by
  intro s
  rw [bind_apply]
  have h := hm s
  cases hms : m s with
  | mk r s' =>
    rw [hms] at h
    cases r with
    | ok a => exact hf a s'
    | error e => exact raises_error (h e rfl)

theorem raisesOnly_outcome_bind {r : Except PyErr α} {f : α → PyM σ β} (hr : Raises P r)
    (hf : ∀ a, r = .ok a → RaisesOnly P (f a)) : RaisesOnly P (outcome r >>= f) := by
  cases r with
  | ok a => exact hf a rfl
  | error e => exact raisesOnly_raise (hr e rfl)

theorem raisesOnly_map {m : PyM σ α} (f : α → β) (hm : RaisesOnly P m) :
    RaisesOnly P (f <$> m) := raisesOnly_bind hm fun a => raisesOnly_pure (f a)

theorem raisesOnly_mapM (l : List β) {f : β → PyM σ α} (hf : ∀ b, RaisesOnly P (f b)) :
    RaisesOnly P (l.mapM f) := by
  induction l with
  | nil => exact raisesOnly_pure []
  | cons b l ih =>
    rw [List.mapM_cons]
    exact raisesOnly_bind (hf b) fun a => raisesOnly_map _ ih

/-- The handler sees the exceptions of the body only. -/
theorem raisesOnly_tryExcept {body : PyM σ α} {handler : PyErr → PyM σ α}
    (hb : RaisesOnly Q body) (hh : ∀ e, Q e → RaisesOnly P (handler e)) :
    RaisesOnly P (tryExcept body handler) := by
  intro s
  unfold tryExcept
  have h := hb s
  cases hbs : body s with
  | mk r s' =>
    rw [hbs] at h
    cases r with
    | ok a => exact raises_ok a
    | error e => exact hh e (h e rfl) s'

/-- Whatever value the computation returns, from any state, satisfies `R`. -/
def Returns (R : α → Prop) (m : PyM σ α) : Prop := ∀ s a, (m s).1 = .ok a → R a

theorem returns_pure {R : α → Prop} {a : α} (h : R a) : Returns R (pure a : PyM σ α) := by
  intro s b hb
  cases hb
  exact h

theorem returns_raise {R : α → Prop} (e : PyErr) : Returns R (raise e : PyM σ α) := nofun

theorem returns_map {R : β → Prop} {m : PyM σ α} {f : α → β}
    (hm : Returns (fun a => R (f a)) m) : Returns R (f <$> m) := by
  intro s b h
  change ((m >>= fun a => pure (f a)) s).1 = .ok b at h
  rw [bind_apply] at h
  have hret := hm s
  cases hms : m s with
  | mk r s' =>
    rw [hms] at h hret
    cases r with
    | ok a =>
      cases h
      exact hret a rfl
    | error e => cases h

theorem returns_tryExcept {R : α → Prop} {body : PyM σ α} {handler : PyErr → PyM σ α}
    (hb : Returns R body) (hh : ∀ e, Returns R (handler e)) :
    Returns R (tryExcept body handler) := by
  intro s a h
  unfold tryExcept at h
  have hret := hb s
  cases hbs : body s with
  | mk r s' =>
    rw [hbs] at h hret
    cases r with
    | ok b =>
      cases h
      exact hret a rfl
    | error e => exact hh e s' a h

theorem returns_bind {Q : α → Prop} {R : β → Prop} {m : PyM σ α} {f : α → PyM σ β}
    (hm : Returns Q m) (hf : ∀ a, Q a → Returns R (f a)) : Returns R (m >>= f) := by
  intro s b h
  rw [bind_apply] at h
  have hret := hm s
  cases hms : m s with
  | mk r s' =>
    rw [hms] at h hret
    cases r with
    | ok a => exact hf a (hret a rfl) s' b h
    | error e => cases h

/-- Where the first part returns anything at all. -/
theorem returns_bind_any {R : β → Prop} {m : PyM σ α} {f : α → PyM σ β}
    (hf : ∀ a, Returns R (f a)) : Returns R (m >>= f) :=
  returns_bind (Q := fun _ => True) (fun _ _ _ => trivial) fun a _ => hf a

theorem returns_mapM {R : α → Prop} (l : List β) {f : β → PyM σ α} (hf : ∀ b, Returns R (f b)) :
    Returns (fun as => ∀ a ∈ as, R a) (l.mapM f) := by
  induction l with
  | nil => exact returns_pure nofun
  | cons b l ih =>
    rw [List.mapM_cons]
    refine returns_bind (hf b) fun a ha => returns_map ?_
    intro s as has
    exact List.forall_mem_cons.mpr ⟨ha, ih s as has⟩

theorem raisesOnly_bind_returns {R : α → Prop} {m : PyM σ α} {f : α → PyM σ β}
    (hm : RaisesOnly P m) (hr : Returns R m) (hf : ∀ a, R a → RaisesOnly P (f a)) :
    RaisesOnly P (m >>= f) := by
  intro s
  rw [bind_apply]
  have h := hm s
  have hret := hr s
  cases hms : m s with
  | mk r s' =>
    rw [hms] at h hret
    cases r with
    | ok a => exact hf a (hret a rfl) s'
    | error e => exact raises_error (h e rfl)

/-- A computation that raises nothing returns. -/
theorem returns_of_raisesOnly {m : PyM σ α} (h : RaisesOnly (fun _ => False) m) (s : σ) :
    ∃ a, (m s).1 = .ok a := by
  cases hms : (m s).1 with
  | ok a => exact ⟨a, rfl⟩
  | error e => exact absurd hms (fun he => h s e he)

end RaisesOnly

/-! ### A computation on a part of the state -/

/-- Runs `m` on the part `get s` and puts the part back. -/
def zoom {τ : Type} (part : σ → τ) (put : τ → σ → σ) (m : PyM τ α) : PyM σ α := fun s =>
  match m (part s) with
  | (r, t) => (r, put t s)

theorem raisesOnly_zoom {τ : Type} {P : PyErr → Prop} (part : σ → τ) (put : τ → σ → σ)
    {m : PyM τ α} (h : RaisesOnly P m) : RaisesOnly P (zoom part put m) := fun s => h (part s)

/-- What `m` preserves of the part and the rest of the state does not see is preserved. -/
theorem preserves_zoom {τ : Type} {I : σ → Prop} {K : τ → Prop} (part : σ → τ) (put : τ → σ → σ)
    {m : PyM τ α} (hget : ∀ s, I s → K (part s)) (hput : ∀ t s, I s → K t → I (put t s))
    (hm : Preserves K m) : Preserves I (zoom part put m) :=
  fun s hs => hput (m (part s)).2 s hs (hm (part s) (hget s hs))

theorem zoom_apply {τ : Type} {part : σ → τ} {put : τ → σ → σ} {m : PyM τ α} {s : σ}
    {r : Except PyErr α} {t : τ} (h : m (part s) = (r, t)) :
    zoom part put m s = (r, put t s) := by
  unfold zoom; rw [h]

/-- `asyncio.wait_for(m, timeout)`: when the timeout ends the call, the `CancelledError` it
was cancelled with becomes a `TimeoutError`; `timedOut` says whether it did. -/
def waitFor (timedOut : Bool) (m : PyM σ α) : PyM σ α :=
  tryExcept m fun e =>
    if timedOut && e.isA .CancelledError then raise ⟨.TimeoutError, ""⟩ else raise e

/-- The clock does not see which part of the state the call works on. -/
theorem waitFor_zoom {τ : Type} (timedOut : Bool) (part : σ → τ) (put : τ → σ → σ) (m : PyM τ α) :
    waitFor timedOut (zoom part put m) = zoom part put (waitFor timedOut m) := by
  funext s
  unfold waitFor
  cases hm : m (part s) with
  | mk r t =>
    cases r with
    | ok a =>
      rw [tryExcept_ok (zoom_apply hm)]
      exact (zoom_apply (tryExcept_ok hm)).symm
    | error e =>
      rw [tryExcept_error (zoom_apply hm)]
      refine Eq.trans ?_ (zoom_apply (tryExcept_error hm)).symm
      cases timedOut && e.isA .CancelledError <;> rfl

end PyM

/-- `except Exception`. -/
def IsOrdinary (e : PyErr) : Prop := e.isA .Exception = true

/-- The exceptions of a call under `wait_for`: ordinary ones, and the cancellation of its timeout. -/
def IsOrdinaryOrTimeout (timedOut : Bool) (e : PyErr) : Prop :=
  IsOrdinary e ∨ (timedOut = true ∧ e.isA .CancelledError = true)

/-- `CancelledError` is not an `Exception`. -/
theorem IsOrdinary.not_cancelled {e : PyErr} (h : IsOrdinary e) : e.isA .CancelledError = false := by
  unfold IsOrdinary PyErr.isA at *
  rw [decide_eq_true_eq] at h
  rw [decide_eq_false_iff_not]
  have key : ∀ c : ExcClass, .Exception ∈ c.mro → .CancelledError ∉ c.mro := by
    intro c
    induction c with
    | derived name base ih =>
      intro hc
      rw [ExcClass.mro, List.mem_cons] at hc ⊢
      rcases hc with hc | hc
      · cases hc
      · rintro (hx | hx)
        · cases hx
        · exact ih hc hx
    | _ => decide
  exact key e.cls h

theorem raisesOnly_waitFor {σ α : Type} {timedOut : Bool} {m : PyM σ α}
    (h : PyM.RaisesOnly (IsOrdinaryOrTimeout timedOut) m) :
    PyM.RaisesOnly IsOrdinary (PyM.waitFor timedOut m) := by
  unfold PyM.waitFor
  refine PyM.raisesOnly_tryExcept h ?_
  intro e he
  split
  · apply PyM.raisesOnly_raise
    show decide (ExcClass.Exception ∈ ExcClass.mro .TimeoutError) = true
    decide
  · next hn =>
    apply PyM.raisesOnly_raise
    rcases he with he | ⟨h1, h2⟩
    · exact he
    · rw [h1, h2] at hn
      exact absurd rfl hn

end Py
