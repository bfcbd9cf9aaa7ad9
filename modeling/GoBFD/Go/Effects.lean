import GoBFD.Go.Slice

/-!
# GoBFD.Go.Effects

Two effects of Go code besides the values its functions return.

A function that writes through a pointer argument keeps every write it made
before it returns an error or panics.  `Go.Writes σ ε α` is such a function
over the pointed-to `σ`: `ExceptT (Fault ε) (StateM σ)`, whose state
survives a failure.  `Writes.exec` runs it from a value of `*p` and gives
what `*p` holds afterwards together with what the function returned.  The
models written in it are reasoned about through the `exec` equations of
this module (a call that writes nothing, a write, a read, a bind), never by
unfolding the monad stack.

A send in a `select` with a `default` case on a buffered channel queues the
value when the buffer has room and drops it otherwise (`trySend`);
`foldl_trySend` says what a run of such sends leaves.
-/

namespace Go

variable {σ ε α β : Type}

/-! ## Writes through a pointer -/

/-- A Go function that writes through a pointer to a `σ` and returns an
error or panics; the writes it made before it stopped stay. -/
abbrev Writes (σ ε α : Type) := ExceptT (Fault ε) (StateM σ) α

namespace Writes

/-- A call that writes nothing through the pointer. -/
def lift (r : Result ε α) : Writes σ ε α := ExceptT.mk (pure r)

/-- Run from the value `s` of `*p`: what `*p` holds afterwards, and what the
function returned. -/
def exec (x : Writes σ ε α) (s : σ) : σ × Result ε α :=
  let r := (ExceptT.run x).run s
  (r.2, r.1)

@[simp] theorem exec_lift (r : Result ε α) (s : σ) : (lift r : Writes σ ε α).exec s = (s, r) := rfl

@[simp] theorem exec_pure (a : α) (s : σ) : (pure a : Writes σ ε α).exec s = (s, .ok a) := rfl

@[simp] theorem exec_modify (g : σ → σ) (s : σ) :
    (modify g : Writes σ ε PUnit).exec s = (g s, .ok ⟨⟩) := rfl

/-- A bind: the second function runs from what the first left in `*p`,
unless the first failed. -/
theorem exec_bind (x : Writes σ ε α) (f : α → Writes σ ε β) (s : σ) :
    (x >>= f).exec s = match x.exec s with
      | (s', .ok a) => (f a).exec s'
      | (s', .error e) => (s', .error e) := by
  unfold exec ExceptT.run StateT.run
  simp only [bind, ExceptT.bind, ExceptT.mk, StateT.bind, ExceptT.bindCont]
  cases x s with
  | mk result next => cases result <;> rfl

/-- A call that writes nothing, then the rest: a failure returns at once,
with `*p` as it was. -/
@[simp] theorem exec_lift_bind (r : Result ε α) (f : α → Writes σ ε β) (s : σ) :
    (lift r >>= f).exec s = match r with
      | .ok a => (f a).exec s
      | .error e => (s, .error e) := by
  cases r <;> rfl

@[simp] theorem exec_modify_bind (g : σ → σ) (f : PUnit → Writes σ ε β) (s : σ) :
    (modify g >>= f).exec s = (f ⟨⟩).exec (g s) := rfl

@[simp] theorem exec_get_bind (f : σ → Writes σ ε β) (s : σ) :
    (get >>= f).exec s = (f s).exec s := rfl

/-- A failure that writes nothing leaves `*p` as it was. -/
theorem exec_lift_bind_of_error {r : Result ε α} {e : Fault ε} (hr : r = .error e)
    (f : α → Writes σ ε β) (s : σ) : (lift r >>= f).exec s = (s, .error e) := by
  rw [exec_lift_bind, hr]

theorem exec_lift_bind_of_ok {r : Result ε α} {a : α} (hr : r = .ok a)
    (f : α → Writes σ ε β) (s : σ) : (lift r >>= f).exec s = (f a).exec s := by
  rw [exec_lift_bind, hr]

end Writes

/-! ## Sends that do not block -/

/-- `select { case ch <- v: default: }` on a channel of capacity `cap` whose
buffer holds `buf`: `v` joins the buffer when there is room and is dropped
otherwise. -/
def trySend (cap : Nat) (buf : List α) (v : α) : List α :=
  if buf.length < cap then buf ++ [v] else buf

variable {cap : Nat} {buf : List α}

theorem trySend_of_lt (h : buf.length < cap) (v : α) : trySend cap buf v = buf ++ [v] :=
  if_pos h

theorem trySend_of_le (h : cap ≤ buf.length) (v : α) : trySend cap buf v = buf :=
  if_neg (Nat.not_lt.mpr h)

/-- The values a run of sends puts on a channel: the buffer keeps what it
held, followed by the values sent while there was room, in order. -/
theorem foldl_trySend (vs : List α) (h : buf.length ≤ cap) :
    vs.foldl (trySend cap) buf = buf ++ vs.take (cap - buf.length) := by
  induction vs generalizing buf with
  | nil => simp
  | cons v vs ih =>
    rw [List.foldl_cons]
    by_cases hlt : buf.length < cap
    · -- the first value goes in, and the rest find one slot fewer
      rw [trySend_of_lt hlt, ih (by simp; omega), List.length_append, List.length_singleton,
        List.append_assoc, show cap - buf.length = (cap - (buf.length + 1)) + 1 by omega,
        List.take_succ_cons, List.singleton_append]
    · -- a full buffer drops everything
      have hfull : buf.length = cap := by omega
      rw [trySend_of_le (by omega), ih h, hfull, Nat.sub_self, List.take_zero, List.take_zero]

/-- A send on a buffer that holds the first `cap` values of `vs` leaves the
first `cap` values of `vs ++ [v]`. -/
theorem trySend_take (vs : List α) (v : α) : trySend cap (vs.take cap) v = (vs ++ [v]).take cap := by
  by_cases hlt : vs.length < cap
  · rw [List.take_of_length_le (Nat.le_of_lt hlt), trySend_of_lt hlt,
      List.take_of_length_le (by rw [List.length_append, List.length_singleton]; omega)]
  · -- the buffer is full, and the value falls past the first `cap`
    rw [trySend_of_le (by rw [List.length_take]; omega), List.take_append_of_le_length (by omega)]

/-- Sends never fill a buffer beyond its capacity. -/
theorem length_trySend_le (h : buf.length ≤ cap) (v : α) : (trySend cap buf v).length ≤ cap := by
  unfold trySend
  split_ifs with hlt
  · simp only [List.length_append, List.length_singleton]
    omega
  · exact h

end Go
