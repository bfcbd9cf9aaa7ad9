import Mathlib.Data.List.AList

/-!
# GoBFD.Go.Map

Go maps as Mathlib's association lists.  A `map[K]V` is an `AList` over the
constant family `fun _ : K => V`: `m[k] = v` is `insert`, `delete(m, k)` is
`erase`, the two-valued index `v, ok := m[k]` is `lookup`, and
`for k, v := range m` is a fold over `entries`.  Go leaves the order of
that iteration unspecified; the model iterates in the order of `entries`,
which is one of the orders Go may choose.

The lemmas here count the entries that satisfy a predicate across these
updates, which is how a map-valued state's counters are checked against
the map itself, and say what a map filled by a loop holds: the value of the
last element written under each key (`lookup_foldl_insert_of_mem`), nothing
under a key no element maps to, and, when no two elements share a key,
exactly the elements written (`entries_foldl_insert`).
-/

namespace AList

variable {α : Type*} {β : α → Type*} [DecidableEq α]

/-- Removing the entry of a present key removes one satisfying entry from
the count exactly when that entry satisfies the predicate. -/
theorem countP_kerase_of_lookup {s : AList β} {a : α} {b : β a} (h : s.lookup a = some b)
    (p : Sigma β → Bool) :
    (s.entries.kerase a).countP p + (if p ⟨a, b⟩ then 1 else 0) = s.entries.countP p := by
  have hmem : (⟨a, b⟩ : Sigma β) ∈ s.entries := mem_lookup_iff.mp h
  obtain ⟨b', l₁, l₂, -, hl, hk⟩ := List.exists_of_kerase (List.mem_keys_of_mem hmem)
  have hb : b' = b := by
    have hb' : b' ∈ s.lookup a := mem_lookup_iff.mpr (by rw [hl]; simp)
    rw [h] at hb'
    exact (Option.mem_some_iff.mp hb').symm
  rw [hk, hl, hb, List.countP_append, List.countP_append, List.countP_cons]
  dsimp only
  omega

/-- `m[a] = b'` over a present key `a` holding `b`. -/
theorem countP_insert_of_lookup {s : AList β} {a : α} {b : β a} (h : s.lookup a = some b)
    (b' : β a) (p : Sigma β → Bool) :
    (s.insert a b').entries.countP p + (if p ⟨a, b⟩ then 1 else 0) =
      s.entries.countP p + (if p ⟨a, b'⟩ then 1 else 0) := by
  have hk := countP_kerase_of_lookup h p
  rw [entries_insert, List.countP_cons]
  omega

/-- `m[a] = b'` over an absent key `a`. -/
theorem countP_insert_of_lookup_none {s : AList β} {a : α} (h : s.lookup a = none) (b' : β a)
    (p : Sigma β → Bool) :
    (s.insert a b').entries.countP p = s.entries.countP p + (if p ⟨a, b'⟩ then 1 else 0) := by
  have ha : a ∉ s.entries.keys := fun hm => by
    have hs := lookup_isSome.mpr hm
    rw [h] at hs
    cases hs
  rw [entries_insert, List.countP_cons, List.kerase_of_notMem_keys ha]

/-- `delete(m, a)` of a present key `a` holding `b`. -/
theorem countP_erase_of_lookup {s : AList β} {a : α} {b : β a} (h : s.lookup a = some b)
    (p : Sigma β → Bool) :
    (s.erase a).entries.countP p + (if p ⟨a, b⟩ then 1 else 0) = s.entries.countP p :=
  countP_kerase_of_lookup h p

/-! ## Maps filled by a loop

`for _, x := range l { m[f(x)] = g(x) }`: later assignments to a key
overwrite earlier ones. -/

section Fill

variable {ι γ δ : Type*} [DecidableEq γ] (f : ι → γ) (g : ι → δ)

theorem lookup_foldl_insert_of_forall_ne {l : List ι} {acc : AList fun _ : γ => δ} {k : γ}
    (hk : ∀ x ∈ l, f x ≠ k) :
    (l.foldl (fun m x => m.insert (f x) (g x)) acc).lookup k = acc.lookup k := by
  induction l generalizing acc with
  | nil => rfl
  | cons y l ih =>
    rw [List.foldl_cons, ih fun x hx => hk x (List.mem_cons_of_mem y hx),
      lookup_insert_ne (Ne.symm (hk y List.mem_cons_self))]

/-- An element's key holds its value when every element written under that
key carries the same value. -/
theorem lookup_foldl_insert_of_mem {l : List ι} (acc : AList fun _ : γ => δ) {x : ι} (hx : x ∈ l)
    (hv : ∀ y ∈ l, f y = f x → g y = g x) :
    (l.foldl (fun m x => m.insert (f x) (g x)) acc).lookup (f x) = some (g x) := by
  induction l generalizing acc x with
  | nil => cases hx
  | cons y l ih =>
    rw [List.foldl_cons]
    by_cases hlater : ∃ z ∈ l, f z = f x
    · -- a later assignment to the same key writes the same value
      obtain ⟨z, hz, hzx⟩ := hlater
      have hvz : ∀ y ∈ l, f y = f z → g y = g z := fun y hy hyz => by
        rw [hv y (List.mem_cons_of_mem _ hy) (hyz.trans hzx),
          hv z (List.mem_cons_of_mem _ hz) hzx]
      rw [← hzx, ih _ hz hvz, hv z (List.mem_cons_of_mem _ hz) hzx]
    · -- the last assignment to the key is `y`'s, which is `x`'s
      push Not at hlater
      rw [lookup_foldl_insert_of_forall_ne f g hlater]
      rcases List.mem_cons.mp hx with rfl | hx'
      · exact lookup_insert _
      · exact absurd rfl (hlater x hx')

theorem lookup_foldl_insert_isSome (l : List ι) (acc : AList fun _ : γ => δ) (k : γ) :
    ((l.foldl (fun m x => m.insert (f x) (g x)) acc).lookup k).isSome ↔
      (acc.lookup k).isSome ∨ ∃ x ∈ l, f x = k := by
  induction l generalizing acc with
  | nil => simp
  | cons y l ih =>
    rw [List.foldl_cons, ih]
    by_cases hk : f y = k
    · subst hk
      simp
    · rw [lookup_insert_ne (Ne.symm hk)]
      simp [hk]

/-- A value read back was there before the loop or written by it. -/
theorem exists_of_lookup_foldl_insert {l : List ι} {acc : AList fun _ : γ => δ} {k : γ} {v : δ}
    (h : (l.foldl (fun m x => m.insert (f x) (g x)) acc).lookup k = some v) :
    acc.lookup k = some v ∨ ∃ x ∈ l, f x = k ∧ g x = v := by
  induction l generalizing acc with
  | nil => exact .inl h
  | cons y l ih =>
    rw [List.foldl_cons] at h
    rcases ih h with h' | ⟨x, hx, hfx, hgx⟩
    · by_cases hk : f y = k
      · subst hk
        rw [lookup_insert, Option.some.injEq] at h'
        exact .inr ⟨y, List.mem_cons_self, rfl, h'⟩
      · rw [lookup_insert_ne (Ne.symm hk)] at h'
        exact .inl h'
    · exact .inr ⟨x, List.mem_cons_of_mem y hx, hfx, hgx⟩

/-- Over distinct fresh keys, the loop prepends one entry per element. -/
theorem entries_foldl_insert {l : List ι} {acc : AList fun _ : γ => δ} (hl : (l.map f).Nodup)
    (hacc : ∀ x ∈ l, f x ∉ acc.keys) :
    (l.foldl (fun m x => m.insert (f x) (g x)) acc).entries =
      (l.map fun x => (⟨f x, g x⟩ : Sigma fun _ : γ => δ)).reverse ++ acc.entries := by
  induction l generalizing acc with
  | nil => rfl
  | cons y l ih =>
    rw [List.map_cons, List.nodup_cons] at hl
    rw [List.foldl_cons, ih hl.2]
    · rw [entries_insert, List.kerase_of_notMem_keys (hacc y List.mem_cons_self)]
      simp
    · intro x hx hmem
      rw [keys_insert, List.mem_cons] at hmem
      rcases hmem with he | he
      · apply hl.1
        rw [← he]
        exact List.mem_map_of_mem hx
      · exact hacc x (List.mem_cons_of_mem y hx) (List.mem_of_mem_erase he)
end Fill

/-! ## Keys across updates -/

section Keys

variable {α : Type*} {β : α → Type*} [DecidableEq α] {s : AList β} {a : α}

/-- Inserting an absent key puts it in front of the others. -/
theorem keys_insert_of_lookup_none (h : s.lookup a = none) (b : β a) :
    (s.insert a b).keys = a :: s.keys := by
  rw [keys_insert, List.erase_of_not_mem]
  exact fun hm => lookup_eq_none.mp h (mem_keys.mpr hm)

/-- Inserting a present key keeps the keys, up to order. -/
theorem keys_insert_perm_of_lookup {b' : β a} (h : s.lookup a = some b') (b : β a) :
    (s.insert a b).keys.Perm s.keys := by
  rw [keys_insert]
  exact (List.perm_cons_erase (mem_keys.mp (lookup_isSome.mp (by rw [h]; rfl)))).symm

/-- Erasing a present key takes it out of the keys. -/
theorem keys_perm_erase_of_lookup {b' : β a} (h : s.lookup a = some b') :
    s.keys.Perm (a :: (s.erase a).keys) := by
  rw [keys_erase]
  exact List.perm_cons_erase (mem_keys.mp (lookup_isSome.mp (by rw [h]; rfl)))

end Keys

end AList

namespace List

variable {α : Type*} [DecidableEq α]

/-- `delete(set, a)` on a set held as a duplicate-free list that holds `a`
once, beside the rest. -/
theorem perm_filter_bne_of_perm {l k r : List α} {a : α} (hl : l.Perm (k ++ a :: r)) (hnd : l.Nodup) :
    (l.filter (· != a)).Perm (k ++ r) := by
  have hnd' := hl.nodup_iff.mp hnd
  have hk : a ∉ k := fun ha => (List.nodup_middle.mp hnd' |> List.nodup_cons.mp).1 (mem_append_left r ha)
  have hr : a ∉ r := fun ha => (List.nodup_middle.mp hnd' |> List.nodup_cons.mp).1 (mem_append_right k ha)
  refine (hl.filter _).trans ?_
  rw [filter_append, filter_cons_of_neg (by simp), filter_eq_self.mpr, filter_eq_self.mpr]
  · intro x hx
    simpa using fun hxa : x = a => hr (hxa ▸ hx)
  · intro x hx
    simpa using fun hxa : x = a => hk (hxa ▸ hx)

/-- Deleting every element of `k` from a duplicate-free list that holds
`k` beside `r` leaves `r`. -/
theorem perm_filter_not_mem_of_perm {l k r : List α} (hl : l.Perm (k ++ r)) (hnd : l.Nodup) :
    (l.filter fun x => x ∉ k).Perm r := by
  have hnd' := hl.nodup_iff.mp hnd
  refine (hl.filter _).trans ?_
  rw [filter_append, filter_eq_nil_iff.mpr (fun x hx => by simp [hx]), filter_eq_self.mpr, nil_append]
  intro x hx
  have hxk : x ∉ k := fun hk => (List.disjoint_of_nodup_append hnd') hk hx
  simpa using hxk

end List
