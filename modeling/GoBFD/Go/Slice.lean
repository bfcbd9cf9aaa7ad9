import Mathlib.Data.List.Basic

/-!
# GoBFD.Go.Slice

Go byte-slice plumbing as total functions over `List`: indexing, element
stores, re-slicing and the built-in `copy`, each with Go's run-time checks.

A Go function that returns `(T, error)` is modelled as `Go.Result ε T`, an
`Except` whose failure side separates the two ways such a function can stop
early: a returned (non-nil) error, and a run-time panic.  Out-of-range
indexing and slicing panic; nothing else here does.

A slice is modelled by its elements, with capacity equal to length.  Every
buffer the modelled code allocates comes from `make([]byte, n)` and is only
re-sliced from the front, where the two coincide; where the code re-slices a
buffer whose capacity exceeds its length, the theorems that use this library
show the slice stays within the length, so the difference never shows.

Writes through a sub-slice are aliased writes into the parent in Go.  The
combinator `within` models them: it runs a length-preserving writer on the
window `s[lo:hi]` and splices the result back into `s`.
-/

namespace Go

/-- How a Go function stops early: it returns an error, or it panics. -/
inductive Fault (ε : Type) where
  | error (e : ε)
  | panic
  deriving Repr, DecidableEq

/-- A Go function returning `(α, error)`, which may also panic. -/
abbrev Result (ε α : Type) := Except (Fault ε) α

/-- `return ..., err`. -/
def fail (e : ε) : Result ε α := .error (.error e)

/-- The index expression `s[i]`. -/
def load (s : List α) (i : Nat) : Result ε α :=
  match s[i]? with
  | some a => .ok a
  | none => .error .panic

/-- The assignment `s[i] = v`. -/
def store (s : List α) (i : Nat) (v : α) : Result ε (List α) :=
  if i < s.length then .ok (s.set i v) else .error .panic

/-- The compound assignment `s[i] op= v`, as `s[i] = f(s[i])`. -/
def update (s : List α) (i : Nat) (f : α → α) : Result ε (List α) := do
  store s i (f (← load s i))

/-- The slice expression `s[lo:hi]`. -/
def slice (s : List α) (lo hi : Nat) : Result ε (List α) :=
  if lo ≤ hi ∧ hi ≤ s.length then .ok ((s.drop lo).take (hi - lo)) else .error .panic

/-- The built-in `copy(dst, src)`: the first `min(len(dst), len(src))`
elements of `dst` become those of `src`. -/
def copy (dst src : List α) : List α :=
  src.take dst.length ++ dst.drop src.length

/-- `copy(a[:], src)` into an array `a` of `n` elements. -/
def copyArray {n : Nat} (dst : Vector α n) (src : List α) : Vector α n :=
  ⟨(copy dst.toList src).toArray, by simp [copy]; omega⟩

/-- Run the writer `f` on the sub-slice `s[lo:hi]`, writing through to `s`. -/
def within (s : List α) (lo hi : Nat) (f : List α → Result ε (List α)) :
    Result ε (List α) := do
  let w ← slice s lo hi
  let w' ← f w
  pure (s.take lo ++ w' ++ s.drop hi)

/-- `fmt.Errorf("...: %w", err)`: a returned error wrapped by `f`; a panic
stays a panic. -/
def wrap (f : ε → ε') : Result ε α → Result ε' α
  | .ok a => .ok a
  | .error (.error e) => .error (.error (f e))
  | .error .panic => .error .panic

/-- The net effect of a run of writes: `s` with `w` written over it from
index `lo` on.  The proofs about writers track the written prefix with it. -/
def overwrite (s : List α) (lo : Nat) (w : List α) : List α :=
  s.take lo ++ w ++ s.drop (lo + w.length)

/-! ## Checked operations that pass their check -/

variable {α β ε : Type}

@[simp] theorem fail_bind (e : ε) (f : α → Result ε β) : (fail e >>= f) = fail e := rfl

@[simp] theorem fail_ne_ok (e : ε) (a : α) : (fail e : Result ε α) ≠ .ok a := nofun

@[simp] theorem fail_ne_panic (e : ε) : (fail e : Result ε α) ≠ .error .panic := nofun

theorem load_of_lt {s : List α} {i : Nat} (h : i < s.length) :
    (load s i : Result ε α) = .ok s[i] := by
  simp [load, List.getElem?_eq_getElem h]

theorem load_eq_getD {s : List α} {i : Nat} (h : i < s.length) (d : α) :
    (load s i : Result ε α) = .ok (s.getD i d) := by
  simp [load, List.getElem?_eq_getElem h]

theorem load_of_le {s : List α} {i : Nat} (h : s.length ≤ i) :
    (load s i : Result ε α) = .error .panic := by
  simp [load, List.getElem?_eq_none h]

theorem store_of_lt {s : List α} {i : Nat} (h : i < s.length) (v : α) :
    (store s i v : Result ε (List α)) = .ok (s.set i v) := by
  simp [store, h]

theorem slice_of_le {s : List α} {lo hi : Nat} (h₁ : lo ≤ hi) (h₂ : hi ≤ s.length) :
    (slice s lo hi : Result ε (List α)) = .ok ((s.drop lo).take (hi - lo)) := by
  simp [slice, h₁, h₂]

theorem slice_panic {s : List α} {lo hi : Nat} (h : ¬ (lo ≤ hi ∧ hi ≤ s.length)) :
    (slice s lo hi : Result ε (List α)) = .error .panic := by
  simp only [slice, if_neg h]

@[simp] theorem length_slice_window (s : List α) {lo hi : Nat} (h : hi ≤ s.length) :
    ((s.drop lo).take (hi - lo)).length = hi - lo := by
  simp only [List.length_take, List.length_drop]
  omega

/-- A slice of the whole list is the list. -/
theorem slice_zero_length (s : List α) :
    (slice s 0 s.length : Result ε (List α)) = .ok s := by
  simp [slice]

theorem within_of_le {s : List α} {lo hi : Nat} (h₁ : lo ≤ hi) (h₂ : hi ≤ s.length)
    (f : List α → Result ε (List α)) :
    within s lo hi f = (do
      let w' ← f ((s.drop lo).take (hi - lo))
      pure (s.take lo ++ w' ++ s.drop hi)) := by
  simp only [within, slice_of_le h₁ h₂]
  rfl

/-! ## copy -/

@[simp] theorem length_copy (dst src : List α) : (copy dst src).length = dst.length := by
  simp only [copy, List.length_append, List.length_take, List.length_drop]
  omega

/-- Copying a source no longer than the destination overwrites its front. -/
theorem copy_of_le {dst src : List α} (h : src.length ≤ dst.length) :
    copy dst src = src ++ dst.drop src.length := by
  simp [copy, List.take_of_length_le h]

/-- Copying as many elements as the array holds replaces all of them. -/
theorem toList_copyArray {n : Nat} (dst : Vector α n) {src : List α} (h : src.length = n) :
    (copyArray dst src).toList = src := by
  have hd : dst.toList.length = n := dst.length_toList
  simp only [copyArray, Vector.toList_mk]
  rw [copy_of_le (by omega), List.drop_eq_nil_of_le (by omega), List.append_nil]

theorem copyArray_toList {n : Nat} (dst v : Vector α n) : copyArray dst v.toList = v :=
  Vector.toList_inj.mp (toList_copyArray dst v.length_toList)

/-- Copying into an empty destination leaves it empty. -/
@[simp] theorem copy_nil (src : List α) : copy [] src = [] := by
  simp [copy]

/-! ## Binds of `Result` -/

@[simp] theorem ok_bind (a : α) (f : α → Result ε β) : (Except.ok a >>= f) = f a := rfl

@[simp] theorem pure_eq_ok (a : α) : (pure a : Result ε α) = .ok a := rfl

@[simp] theorem error_bind (e : Fault ε) (f : α → Result ε β) :
    (Except.error e >>= f) = Except.error e := rfl

@[simp] theorem wrap_ok (f : ε → ε') (a : α) : wrap f (.ok a : Result ε α) = .ok a := rfl

@[simp] theorem wrap_fail (f : ε → ε') (e : ε) : wrap f (fail e : Result ε α) = fail (f e) := rfl

/-- A bind succeeds exactly when both halves do. -/
theorem bind_eq_ok {x : Result ε α} {f : α → Result ε β} {b : β} :
    x >>= f = .ok b ↔ ∃ a, x = .ok a ∧ f a = .ok b := by
  cases x with
  | error e => simp
  | ok a => simp

/-- A wrapped result succeeds exactly when the result does. -/
theorem wrap_eq_ok {f : ε → ε'} {r : Result ε α} {a : α} : wrap f r = .ok a ↔ r = .ok a := by
  rcases r with (_ | e) | a' <;> simp [wrap]

/-- A guard `if c { return err }` passes exactly when `c` is false. -/
theorem ite_fail_eq_ok {c : Prop} [Decidable c] (e : ε) :
    ((if c then fail e else pure ()) : Result ε Unit) = .ok () ↔ ¬ c := by
  split_ifs <;> simp_all

/-- A bind panics exactly when its first half panics or its second half does. -/
theorem bind_eq_panic {x : Result ε α} {f : α → Result ε β} :
    x >>= f = .error .panic ↔ x = .error .panic ∨ ∃ a, x = .ok a ∧ f a = .error .panic := by
  cases x with
  | error e => simp
  | ok a => simp

/-! ## Writes as overwrites

Each store or sub-slice write that passes its check is an `overwrite`, and
adjacent overwrites merge, so a writer that fills a buffer front to back
comes out as one overwrite with the concatenation of what it wrote. -/

theorem length_overwrite {s w : List α} {lo : Nat} (h : lo + w.length ≤ s.length) :
    (overwrite s lo w).length = s.length := by
  simp only [overwrite, List.length_append, List.length_take, List.length_drop]
  omega

theorem overwrite_zero (s w : List α) : overwrite s 0 w = w ++ s.drop w.length := by
  simp [overwrite]

theorem store_eq_overwrite {s : List α} {i : Nat} (h : i < s.length) (v : α) :
    (store s i v : Result ε (List α)) = .ok (overwrite s i [v]) := by
  simp [store, h, overwrite, List.set_eq_take_append_cons_drop]

theorem within_eq_overwrite {s w' : List α} {lo hi : Nat} {f : List α → Result ε (List α)}
    (h₁ : lo ≤ hi) (h₂ : hi ≤ s.length) (hf : f ((s.drop lo).take (hi - lo)) = .ok w')
    (hw : w'.length = hi - lo) :
    within s lo hi f = .ok (overwrite s lo w') := by
  simp only [within_of_le h₁ h₂, hf, ok_bind, overwrite, hw]
  rw [Nat.add_sub_cancel' h₁]
  rfl

/-- A writer on the front window `s[:n]` that leaves `w` there. -/
theorem within_zero_eq_overwrite {s w : List α} {n : Nat} {f : List α → Result ε (List α)}
    (hn : n ≤ s.length) (hf : f (s.take n) = .ok w) (hw : w.length = n) :
    within s 0 n f = .ok (overwrite s 0 w) :=
  within_eq_overwrite (Nat.zero_le n) hn (by simpa using hf) (by simpa using hw)

/-- Writing `w₂` right after `w₁` is writing `w₁ ++ w₂`. -/
theorem overwrite_overwrite {s w₁ w₂ : List α} {lo₁ lo₂ : Nat} (h₁ : lo₂ = lo₁ + w₁.length)
    (h₂ : lo₂ + w₂.length ≤ s.length) :
    overwrite (overwrite s lo₁ w₁) lo₂ w₂ = overwrite s lo₁ (w₁ ++ w₂) := by
  subst h₁
  -- the first write leaves `s.take lo₁ ++ w₁`, of length `lo₁ + w₁.length`, in front
  have hA : (s.take lo₁ ++ w₁).length = lo₁ + w₁.length := by simp; omega
  have hD : (s.take lo₁ ++ w₁ ++ s.drop (lo₁ + w₁.length)).drop (lo₁ + w₁.length + w₂.length) =
      s.drop (lo₁ + (w₁.length + w₂.length)) := by
    rw [← hA, List.drop_length_add_append, List.drop_drop, hA, Nat.add_assoc]
  simp only [overwrite, List.length_append]
  rw [hD, List.take_left' hA]
  simp only [List.append_assoc]

/-- A store right after the written prefix extends it. -/
theorem store_front {s w : List α} {i : Nat} (h₁ : i = w.length) (h₂ : i < s.length) (v : α) :
    (store (overwrite s 0 w) i v : Result ε (List α)) = .ok (overwrite s 0 (w ++ [v])) := by
  subst h₁
  have hlen : (overwrite s 0 w).length = s.length := length_overwrite (by omega)
  rw [store_eq_overwrite (by omega), overwrite_overwrite (by simp) (by simp; omega)]

/-- A writer on the whole tail after the written prefix that overwrites the
front of the tail with `d` extends the prefix by `d`. -/
theorem within_tail_front {s w d : List α} {lo : Nat} {f : List α → Result ε (List α)}
    (h₁ : lo = w.length) (h₂ : lo + d.length ≤ s.length)
    (hf : f (s.drop lo) = .ok (overwrite (s.drop lo) 0 d)) :
    within (overwrite s 0 w) lo (overwrite s 0 w).length f = .ok (overwrite s 0 (w ++ d)) := by
  subst h₁
  have hlen : (overwrite s 0 w).length = s.length := length_overwrite (by omega)
  -- the window is the untouched tail `s.drop w.length`
  have hwin : ((overwrite s 0 w).drop w.length).take ((overwrite s 0 w).length - w.length) =
      s.drop w.length := by
    rw [overwrite_zero, List.drop_left' rfl, List.take_of_length_le (by simp)]
  rw [within_of_le (by omega) (Nat.le_refl _), hwin, hf, List.drop_eq_nil_of_le (Nat.le_refl _)]
  simp only [overwrite_zero, List.take_left' rfl, List.length_append, List.drop_drop,
    List.append_nil, List.append_assoc]
  rfl

/-- `copy(buf[lo:], d)` right after the written prefix, with room for all of
`d`, extends the prefix by `d`. -/
theorem within_copy_front {s w d : List α} {lo : Nat} (h₁ : lo = w.length)
    (h₂ : lo + d.length ≤ s.length) :
    (within (overwrite s 0 w) lo (overwrite s 0 w).length (fun x => pure (copy x d)) :
      Result ε (List α)) = .ok (overwrite s 0 (w ++ d)) := by
  apply within_tail_front h₁ h₂
  rw [copy_of_le (by simp; omega), overwrite_zero]
  rfl

/-- Nothing written yet. -/
theorem overwrite_zero_nil (s : List α) : overwrite s 0 [] = s := by
  simp [overwrite]

/-- `copy(buf[lo:hi], d)` right after the written prefix, on a window exactly
as long as `d`, extends the prefix by `d`. -/
theorem within_copy_window_front {s w d : List α} {lo hi : Nat} (h₁ : lo = w.length)
    (h₂ : hi = lo + d.length) (h₃ : hi ≤ s.length) :
    (within (overwrite s 0 w) lo hi (fun x => pure (copy x d)) : Result ε (List α)) =
      .ok (overwrite s 0 (w ++ d)) := by
  have hlen : (overwrite s 0 w).length = s.length := length_overwrite (by omega)
  -- the window is as long as `d`, so the copy is all of `d`
  have hwin : (((overwrite s 0 w).drop lo).take (hi - lo)).length = d.length := by
    simp only [List.length_take, List.length_drop]
    omega
  have hcopy : copy (((overwrite s 0 w).drop lo).take (hi - lo)) d = d := by
    rw [copy_of_le (by omega), List.drop_eq_nil_of_le (by omega), List.append_nil]
  rw [within_eq_overwrite (by omega) (by omega) (by rw [hcopy]; rfl) (by omega),
    overwrite_overwrite (by omega) (by omega)]

/-- A write that lands inside the written prefix is a write into the prefix. -/
theorem overwrite_zero_overwrite {s w d : List α} {lo : Nat} (h : lo + d.length ≤ w.length) :
    overwrite (overwrite s 0 w) lo d = overwrite s 0 (overwrite w lo d) := by
  have hlen : (overwrite w lo d).length = w.length := length_overwrite h
  rw [overwrite_zero s w, overwrite_zero s (overwrite w lo d), hlen, overwrite, overwrite,
    List.take_append_of_le_length (by omega), List.drop_append_of_le_length h]
  simp only [List.append_assoc]

/-- A window inside the written prefix reads what was written. -/
theorem slice_overwrite_zero {s w : List α} {lo hi : Nat} (h₁ : lo ≤ hi) (h₂ : hi ≤ w.length)
    (h₃ : w.length ≤ s.length) :
    (slice (overwrite s 0 w) lo hi : Result ε (List α)) = .ok ((w.drop lo).take (hi - lo)) := by
  have hlen : (overwrite s 0 w).length = s.length := length_overwrite (by omega)
  rw [slice_of_le h₁ (by omega), overwrite_zero, List.drop_append_of_le_length (by omega),
    List.take_append_of_le_length (by simp; omega)]

/-- Writing the same bytes over the front again changes nothing. -/
theorem overwrite_zero_idem (s w : List α) : overwrite (overwrite s 0 w) 0 w = overwrite s 0 w := by
  rw [overwrite_zero, overwrite_zero, List.drop_left' rfl]

/-- Writing `c` over the part `b` of a written prefix `a ++ b`. -/
theorem overwrite_zero_append (s a b c : List α) (h : c.length = b.length) :
    overwrite (overwrite s 0 (a ++ b)) a.length c = overwrite s 0 (a ++ c) := by
  have hx : overwrite s 0 (a ++ b) = a ++ (b ++ s.drop (a ++ b).length) := by
    rw [overwrite_zero, List.append_assoc]
  have hd : (b ++ s.drop (a ++ b).length).drop c.length = s.drop (a ++ c).length := by
    rw [List.drop_left' h.symm]
    simp [h]
  rw [hx, overwrite, List.take_left' rfl, ← List.drop_drop, List.drop_left' rfl, hd, overwrite_zero]

/-- Writing `c` over the part `b` of `a ++ b`. -/
theorem overwrite_append {a b c : List α} (h : c.length = b.length) :
    overwrite (a ++ b) a.length c = a ++ c := by
  simp [overwrite, h]

/-- Writing `d` over the part `b` of `a ++ b ++ c`. -/
theorem overwrite_append_middle {a b c d : List α} {n : Nat} (hn : n = a.length)
    (h : d.length = b.length) : overwrite (a ++ b ++ c) n d = a ++ d ++ c := by
  subst hn
  simp [overwrite, h]

/-- A shorter write over a written window keeps the rest of the window. -/
theorem overwrite_overwrite_prefix {s w u : List α} {lo : Nat} (hu : u.length ≤ w.length)
    (hw : lo + w.length ≤ s.length) :
    overwrite (overwrite s lo w) lo u = overwrite s lo (u ++ w.drop u.length) := by
  have hlo : (s.take lo).length = lo := by simp; omega
  have hlen : (u ++ w.drop u.length).length = w.length := by simp; omega
  simp only [overwrite, hlen]
  rw [List.append_assoc (s.take lo) w, List.take_left' hlo, ← List.drop_drop, List.drop_left' hlo,
    List.drop_append_of_le_length hu]
  simp only [List.append_assoc]

/-- `copy(s[lo:], d)`, with room for all of `d`. -/
theorem within_copy {s d : List α} {lo : Nat} (h : lo + d.length ≤ s.length) :
    (within s lo s.length (fun x => pure (copy x d)) : Result ε (List α)) =
      .ok (overwrite s lo d) := by
  have hwin : (s.drop lo).take (s.length - lo) = s.drop lo := List.take_of_length_le (by simp)
  rw [within_of_le (by omega) (Nat.le_refl _), hwin, copy_of_le (by simp; omega)]
  simp only [ok_bind, pure_eq_ok, overwrite, List.drop_drop, List.drop_eq_nil_of_le (Nat.le_refl _),
    List.append_nil, List.append_assoc]

/-- The stores `s[lo+i] = v` for `i` below `n`, in a loop. -/
theorem foldlM_store_range {s : List α} {lo : Nat} (v : α) :
    ∀ n, lo + n ≤ s.length →
      ((List.range n).foldlM (fun buf i => store buf (lo + i) v) s : Result ε (List α)) =
        .ok (overwrite s lo (List.replicate n v))
  | 0, _ => by simp [overwrite]
  | n + 1, hn => by
    rw [List.range_succ, List.foldlM_append, foldlM_store_range v n (by omega), ok_bind]
    have hlen : (overwrite s lo (List.replicate n v)).length = s.length :=
      length_overwrite (by simp; omega)
    simp only [List.foldlM_cons, List.foldlM_nil]
    rw [store_eq_overwrite (by omega), ok_bind,
      overwrite_overwrite (by simp) (by simp; omega), ← List.replicate_succ']
    rfl

/-- `copy` into a zeroed buffer pads with zeros. -/
theorem copy_replicate {d : List α} {n : Nat} (v : α) (h : d.length ≤ n) :
    copy (List.replicate n v) d = d ++ List.replicate (n - d.length) v := by
  rw [copy_of_le (by simpa using h), List.drop_replicate]

/-- `clear(s[lo:hi])`. -/
theorem within_clear {s : List α} {lo hi : Nat} (v : α) (h₁ : lo ≤ hi) (h₂ : hi ≤ s.length) :
    (within s lo hi (fun w => pure (List.replicate w.length v)) : Result ε (List α)) =
      .ok (overwrite s lo (List.replicate (hi - lo) v)) := by
  have hw : ((s.drop lo).take (hi - lo)).length = hi - lo := by simp; omega
  exact within_eq_overwrite h₁ h₂ (by rw [hw]; rfl) List.length_replicate

/-- A result read as an `Option`, as `sendControl` reads its checked
operations. -/
theorem toOption_eq_some {r : Result ε α} {a : α} : r.toOption = some a ↔ r = .ok a := by
  cases r <;> simp [Except.toOption]

theorem load_eq_ok {s : List α} {i : Nat} {a : α} (d : α) (h : (load s i : Result ε α) = .ok a) :
    s.getD i d = a := by
  unfold load at h
  split at h
  · rename_i b hb
    cases h
    simp [List.getD_eq_getElem?_getD, hb]
  · cases h

theorem slice_zero_eq_ok {s w : List α} {n : Nat} (h : (slice s 0 n : Result ε (List α)) = .ok w) :
    w = s.take n := by
  unfold slice at h
  split at h
  · cases h
    simp
  · cases h

/-- A sub-slice write that succeeds had its window inside the slice. -/
theorem within_bounds {s s' : List α} {lo hi : Nat} {f : List α → Result ε (List α)}
    (h : within s lo hi f = .ok s') : lo ≤ hi ∧ hi ≤ s.length := by
  obtain ⟨w, hw, -⟩ := bind_eq_ok.mp h
  unfold slice at hw
  split at hw
  · assumption
  · cases hw

/-- An element of an overwritten slice: from the window inside it, from the
slice outside. -/
theorem getD_overwrite {s w : List α} {lo : Nat} (h : lo + w.length ≤ s.length) (i : Nat) (d : α) :
    (overwrite s lo w).getD i d =
      if lo ≤ i ∧ i < lo + w.length then w.getD (i - lo) d else s.getD i d := by
  have hlo : (s.take lo).length = lo := by simp; omega
  unfold overwrite
  simp only [List.getD_eq_getElem?_getD, List.append_assoc]
  split_ifs with hi
  · rw [List.getElem?_append_right (by omega), hlo, List.getElem?_append_left (by omega)]
  · -- before the window, or past it
    rcases Nat.lt_or_ge i lo with hlt | hge
    · rw [List.getElem?_append_left (by omega), List.getElem?_take_of_lt hlt]
    · rw [List.getElem?_append_right (by omega), hlo, List.getElem?_append_right (by omega),
        List.getElem?_drop]
      congr 2
      omega

/-- Whatever the writer does, a sub-slice write that succeeds leaves what
lies before its window alone. -/
theorem take_of_within {s s' : List α} {lo hi n : Nat} {f : List α → Result ε (List α)}
    (h : within s lo hi f = .ok s') (hn : n ≤ lo) : s'.take n = s.take n := by
  obtain ⟨hlohi, hhi⟩ := within_bounds h
  obtain ⟨w, -, h⟩ := bind_eq_ok.mp h
  obtain ⟨w', -, h⟩ := bind_eq_ok.mp h
  cases h
  rw [List.append_assoc, List.take_append_of_le_length (by simp; omega), List.take_take,
    Nat.min_eq_left hn]

/-- The front of a buffer up to the end of a write. -/
theorem take_overwrite {s w : List α} {lo : Nat} (h : lo ≤ s.length) :
    (overwrite s lo w).take (lo + w.length) = s.take lo ++ w := by
  have hlo : (s.take lo).length = lo := by simp; omega
  rw [overwrite, List.append_assoc, List.take_append, hlo, List.take_of_length_le (by omega),
    Nat.add_sub_cancel_left, List.take_left' rfl]

theorem slice_zero {s : List α} {n : Nat} (h : n ≤ s.length) :
    (slice s 0 n : Result ε (List α)) = .ok (s.take n) := by
  simp [slice, h]

/-! ## Functions that decide a property

A validating reader that succeeds with `v` exactly when its input has a
property `P`, and otherwise returns an error without panicking, is said to
decide `P` with value `v`.  The combinators below assemble such a statement
along the reader's own branches. -/

/-- `r` succeeds with `v` when `P` holds and returns an error when it does
not; it never panics. -/
def Decides (r : Result ε α) (P : Prop) (v : α) : Prop :=
  (P ∧ r = .ok v) ∨ (¬ P ∧ ∃ e, r = fail e)

variable {r r₁ r₂ : Result ε α} {P Q : Prop} {v : α}

/-- A reader that checks `P` and then returns a value that is `v` whenever
`P` holds. -/
theorem decides_ite [Decidable P] {v' : α} (hv : P → v' = v) (e : ε) :
    Decides (if P then .ok v' else fail e) P v := by
  by_cases h : P
  · exact .inl ⟨h, by rw [if_pos h, hv h]⟩
  · exact .inr ⟨h, e, if_neg h⟩

theorem decides_fail (h : ¬ P) (e : ε) : Decides (fail e : Result ε α) P v :=
  .inr ⟨h, e, rfl⟩

theorem decides_ok {v' : α} (hP : P) (hv : v' = v) : Decides (.ok v' : Result ε α) P v :=
  .inl ⟨hP, by rw [hv]⟩

/-- A guard `if c { return ..., err }` in front of a reader adds `¬ c` to what
it decides. -/
theorem Decides.guard {c : Prop} [Decidable c] (h : ¬ c → Decides r P v) (e : ε) :
    Decides (if c then fail e else r) (¬ c ∧ P) v := by
  by_cases hc : c
  · rw [if_pos hc]
    exact decides_fail (fun hP => hP.1 hc) e
  · rw [if_neg hc]
    rcases h hc with ⟨hP, hr⟩ | ⟨hP, e', hr⟩
    · exact .inl ⟨⟨hc, hP⟩, hr⟩
    · exact .inr ⟨fun hP' => hP hP'.2, e', hr⟩

theorem Decides.of_iff (h : Decides r P v) (hPQ : P ↔ Q) : Decides r Q v := by
  rcases h with ⟨hP, hr⟩ | ⟨hP, hr⟩
  · exact .inl ⟨hPQ.mp hP, hr⟩
  · exact .inr ⟨mt hPQ.mpr hP, hr⟩

/-- Deciding along a branch of the reader: each arm decides `P`. -/
theorem Decides.ite {c : Prop} [Decidable c] (h₁ : c → Decides r₁ P v)
    (h₂ : ¬ c → Decides r₂ P v) : Decides (if c then r₁ else r₂) P v := by
  by_cases hc : c
  · rw [if_pos hc]
    exact h₁ hc
  · rw [if_neg hc]
    exact h₂ hc

theorem Decides.map (h : Decides r P v) (f : α → β) {w : β} (hw : f v = w) :
    Decides (f <$> r) P w := by
  rcases h with ⟨hP, hr⟩ | ⟨hP, e, hr⟩
  · exact .inl ⟨hP, by rw [hr, ← hw]; rfl⟩
  · exact .inr ⟨hP, e, by rw [hr]; rfl⟩

theorem Decides.eq_ok_iff (h : Decides r P v) {a : α} : r = .ok a ↔ P ∧ a = v := by
  rcases h with ⟨hP, hr⟩ | ⟨hP, e, hr⟩
  · rw [hr]
    simp [hP, eq_comm]
  · rw [hr]
    simp [hP]

theorem Decides.ne_panic (h : Decides r P v) : r ≠ .error .panic := by
  rcases h with ⟨-, hr⟩ | ⟨-, e, hr⟩ <;> rw [hr] <;> nofun

end Go
