import OpenHdoLinker.Lib.PyJson

/-!
# Byte streams

`StreamReader` of `asyncio`: the bytes buffered so far and the chunks still to
arrive, after which the stream ends.  What `readexactly` delivers depends on the
bytes that are pending, not on the chunks they arrive in.

    r.pending = data ++ rest → readexactly data.length r = (data, rest pending)     (readexactly_append)

A computation on a reader is a function of the pending bytes when its parts are (`Reads`).
-/

namespace Py

structure StreamReader where
  buffer : Bytes
  chunks : List Bytes

namespace StreamReader

/-! ## Algorithm -/

/-- A reader of a stream that arrives in these chunks. -/
def ofChunks (chunks : List Bytes) : StreamReader := ⟨[], chunks⟩

/-- Every byte not yet read. -/
def pending (r : StreamReader) : Bytes := r.buffer ++ r.chunks.flatten

/-- At the end of the stream the partial data goes with the exception. -/
def incompleteRead (n got : Nat) : PyErr :=
  ⟨.IncompleteReadError, s!"{got} bytes read on a total of {n} expected bytes"⟩

/-- `readexactly` with this buffer and these chunks to come. -/
def readFrom (n : Nat) : Bytes → List Bytes → Except PyErr Bytes × StreamReader
  | buffer, [] =>
    if n ≤ buffer.length then (.ok (buffer.take n), ⟨buffer.drop n, []⟩)
    else (.error (incompleteRead n buffer.length), ⟨[], []⟩)
  | buffer, chunk :: chunks =>
    if n ≤ buffer.length then (.ok (buffer.take n), ⟨buffer.drop n, chunk :: chunks⟩)
    else readFrom n (buffer ++ chunk) chunks

/-- `await reader.readexactly(n)`. -/
def readexactly (n : Nat) : PyM StreamReader Bytes := fun r => readFrom n r.buffer r.chunks

/-! ## Lemmas -/

theorem readFrom_enough (n : Nat) (buffer : Bytes) (chunks : List Bytes)
    (h : n ≤ (buffer ++ chunks.flatten).length) :
    ∃ r, readFrom n buffer chunks = (.ok ((buffer ++ chunks.flatten).take n), r) ∧
      r.pending = (buffer ++ chunks.flatten).drop n := by
  induction chunks generalizing buffer with
  | nil =>
    rw [List.flatten_nil, List.append_nil] at h ⊢
    rw [readFrom, if_pos h]
    exact ⟨⟨buffer.drop n, []⟩, rfl, by simp [pending]⟩
  | cons chunk chunks ih =>
    rw [readFrom]
    split
    · next hn =>
      rw [List.take_append_of_le_length hn, List.drop_append_of_le_length hn]
      exact ⟨⟨buffer.drop n, chunk :: chunks⟩, rfl, rfl⟩
    · rw [List.flatten_cons, ← List.append_assoc] at h ⊢
      exact ih (buffer ++ chunk) h

theorem readFrom_short (n : Nat) (buffer : Bytes) (chunks : List Bytes)
    (h : (buffer ++ chunks.flatten).length < n) :
    readFrom n buffer chunks =
      (.error (incompleteRead n (buffer ++ chunks.flatten).length), ⟨[], []⟩) := by
  induction chunks generalizing buffer with
  | nil =>
    rw [List.flatten_nil, List.append_nil] at h ⊢
    rw [readFrom, if_neg (by omega)]
  | cons chunk chunks ih =>
    have hn : ¬ n ≤ buffer.length := by
      rw [List.length_append] at h
      omega
    rw [readFrom, if_neg hn]
    rw [List.flatten_cons, ← List.append_assoc] at h ⊢
    exact ih (buffer ++ chunk) h

/-! ## Main results -/

/-- **However the bytes are chunked**, `readexactly` delivers the next ones and no more. -/
theorem readexactly_append {n : Nat} {data rest : Bytes} {r : StreamReader}
    (h : r.pending = data ++ rest) (hn : data.length = n) :
    ∃ r', readexactly n r = (.ok data, r') ∧ r'.pending = rest := by
  have hlen : n ≤ r.pending.length := by
    rw [h, List.length_append]
    omega
  obtain ⟨r', hr, hp⟩ := readFrom_enough n r.buffer r.chunks hlen
  refine ⟨r', ?_, ?_⟩
  · show readFrom n r.buffer r.chunks = _
    rw [hr]
    show (Except.ok (r.pending.take n), r') = _
    rw [h, List.take_left' hn]
  · rw [hp]
    show r.pending.drop n = rest
    rw [h, List.drop_left' hn]

/-- A stream that ends too early raises, and nothing is left of it. -/
theorem readexactly_short {n : Nat} {r : StreamReader} (h : r.pending.length < n) :
    readexactly n r = (.error (incompleteRead n r.pending.length), ⟨[], []⟩) :=
  readFrom_short n r.buffer r.chunks h

/-! ## Functions of the pending bytes -/

variable {α β : Type}

/-- `readexactly` on bytes: what it delivers, and the bytes left. -/
def takeExactly (n : Nat) (data : Bytes) : Except PyErr (Bytes × Bytes) :=
  if n ≤ data.length then .ok (data.take n, data.drop n)
  else .error (incompleteRead n data.length)

theorem takeExactly_ok {n : Nat} {data bytes rest : Bytes}
    (h : takeExactly n data = .ok (bytes, rest)) : data = bytes ++ rest ∧ bytes.length = n := by
  unfold takeExactly at h
  split at h
  · next hn =>
    cases h
    exact ⟨(List.take_append_drop n data).symm, List.length_take_of_le hn⟩
  · cases h

/-- The result of a computation on a reader, as that of a function on its pending bytes. -/
def Delivers (p : Except PyErr (α × Bytes)) (x : Except PyErr α × StreamReader) : Prop :=
  x.1 = Prod.fst <$> p ∧ ∀ a rest, p = .ok (a, rest) → x.2.pending = rest

/-- The computation on a reader computes the function on its pending bytes. -/
def Reads (m : PyM StreamReader α) (p : Bytes → Except PyErr (α × Bytes)) : Prop :=
  ∀ r, Delivers (p r.pending) (m r)

theorem reads_readexactly (n : Nat) : Reads (readexactly n) (takeExactly n) := by
  intro r
  unfold takeExactly
  by_cases h : n ≤ r.pending.length
  · obtain ⟨r', hr, hp⟩ := readFrom_enough n r.buffer r.chunks h
    rw [if_pos h, show readexactly n r = _ from hr]
    exact ⟨rfl, fun _ _ he => by cases he; exact hp⟩
  · rw [if_neg h, readexactly_short (by omega)]
    exact ⟨rfl, nofun⟩

theorem reads_outcome (x : Except PyErr α) :
    Reads (PyM.outcome x) fun data => (fun a => (a, data)) <$> x := by
  intro r
  cases x with
  | error e => exact ⟨rfl, nofun⟩
  | ok a => exact ⟨rfl, fun _ _ he => by cases he; rfl⟩

theorem reads_raise (e : PyErr) : Reads (PyM.raise e : PyM StreamReader α) fun _ => .error e :=
  fun _ => ⟨rfl, nofun⟩

theorem reads_bind {m : PyM StreamReader α} {f : α → PyM StreamReader β}
    {p : Bytes → Except PyErr (α × Bytes)} {q : α → Bytes → Except PyErr (β × Bytes)}
    (hm : Reads m p) (hf : ∀ a, Reads (f a) (q a)) :
    Reads (m >>= f) fun data => p data >>= fun x => q x.1 x.2 := by
  intro r
  obtain ⟨hfst, hrest⟩ := hm r
  cases hr : m r with
  | mk x t =>
    rw [hr] at hfst hrest
    cases hp : p r.pending with
    | error e =>
      rw [hp] at hfst
      rw [PyM.bind_error (hr.trans (congrArg (·, t) hfst))]
      dsimp only
      rw [hp]
      exact ⟨rfl, nofun⟩
    | ok y =>
      rw [hp] at hfst
      rw [PyM.bind_ok (hr.trans (congrArg (·, t) hfst))]
      dsimp only
      rw [hp, show (Except.ok y >>= fun x => q x.1 x.2) = q y.1 y.2 from rfl,
        ← hrest y.1 y.2 hp]
      exact hf y.1 t

/-- Two readers with the same bytes to come. -/
theorem Reads.fst {m : PyM StreamReader α} {p : Bytes → Except PyErr (α × Bytes)} (h : Reads m p)
    {r : StreamReader} : (m r).1 = Prod.fst <$> p r.pending := (h r).1

end StreamReader

end Py
