import Mathlib.Data.Finset.Card
import Mathlib.Order.Interval.Finset.Nat

/-!
# GoBFD.Netio.Ports

`SourcePortAllocator` of `internal/netio/rawsock_linux.go`: the source ports
of RFC 5881 Section 4, 49152 through 65535, handed to the UDP senders of
the sessions.  `Allocate` refuses once as many ports are in use as the
range holds, draws a random offset, and probes the range cyclically from
it for a port not in use; `Release` deletes any port from the set.  The
mutex makes the calls one sequence.

* `SourcePortAllocator.Valid`: the range has its 16384 ports and every port
  in use lies in it.  `NewSourcePortAllocator` is valid and every call
  keeps it so (`SourcePortAllocator.Valid.runCalls`), whatever is released.
* `SourcePortAllocator.allocate_eq_ok`: a successful `Allocate` returns a
  port of the probe sequence that was not in use and marks it.
* `SourcePortAllocator.Valid.allocate_exhausted_iff`: on a valid allocator
  `Allocate` returns `ErrPortExhausted` exactly when every port of the range
  is in use.

The probe visits every port because `(offset + i) % portSpan` runs through
every residue as `i` runs below `portSpan` (`exists_add_mod_eq`), and the
count check is sound because the ports in use, read as numbers, form a
subset of an interval with exactly `portSpan` elements.
-/

namespace GoBFD

/-! ## The allocator -/

/-- `sourcePortMin`: the first port of the RFC 5881 range. -/
def sourcePortMin : UInt16 := 49152

/-- `sourcePortMax`: the last port of the range, inclusive. -/
def sourcePortMax : UInt16 := 65535

/-- The errors of `Allocate`: `fmt.Errorf("all %d ports allocated: %w",
portSpan, ErrPortExhausted)`, and the wrapped error of a failed read of
`crypto/rand`. -/
inductive AllocateError where
  | portExhausted (portSpan : Nat)
  | randomOffset
  deriving Repr, DecidableEq

/-- `errors.Is(err, ErrPortExhausted)`. -/
def AllocateError.isPortExhausted : AllocateError → Bool
  | .portExhausted _ => true
  | .randomOffset => false

/-- `SourcePortAllocator`: the set of ports in use and the size of the range. -/
structure SourcePortAllocator where
  inUse : Finset UInt16
  portSpan : Nat

/-- `NewSourcePortAllocator()`. -/
def newSourcePortAllocator : SourcePortAllocator :=
  { inUse := ∅, portSpan := sourcePortMax.toNat - sourcePortMin.toNat + 1 }

namespace SourcePortAllocator

/-- The `i`-th port of the probe from `offset`:
`sourcePortMin + uint16((offset+i)%portSpan)`. -/
def probePort (a : SourcePortAllocator) (offset i : Nat) : UInt16 :=
  sourcePortMin + UInt16.ofNat ((offset + i) % a.portSpan)

/-- The loop `for i := range portSpan` of `Allocate`: the first port of the
probe that is not in use is marked and returned. -/
def probe (a : SourcePortAllocator) (offset : Nat) :
    SourcePortAllocator × Except AllocateError UInt16 :=
  match (List.range a.portSpan).find? (fun i => a.probePort offset i ∉ a.inUse) with
  | some i => ({ a with inUse := insert (a.probePort offset i) a.inUse }, .ok (a.probePort offset i))
  | none => (a, .error (.portExhausted a.portSpan))

/-- `Allocate()`.  `offset` is what `randomPortOffset` returned: the value
`crypto/rand` drew, `none` when reading it failed. -/
def allocate (a : SourcePortAllocator) (offset : Option Nat) :
    SourcePortAllocator × Except AllocateError UInt16 :=
  if a.inUse.card ≥ a.portSpan then (a, .error (.portExhausted a.portSpan))
  else
    match offset with
    | none => (a, .error .randomOffset)
    | some offset => a.probe offset

/-- `Release(port)`: a port not in use is a no-op. -/
def release (a : SourcePortAllocator) (port : UInt16) : SourcePortAllocator :=
  { a with inUse := a.inUse.erase port }

end SourcePortAllocator

/-- The calls the senders make, with the random draw of each `Allocate`. -/
inductive PortCall where
  | allocate (offset : Option Nat)
  | release (port : UInt16)

namespace SourcePortAllocator

/-- One call, its result dropped. -/
def apply (a : SourcePortAllocator) : PortCall → SourcePortAllocator
  | .allocate offset => (a.allocate offset).1
  | .release port => a.release port

/-- A sequence of calls, one after another under the mutex. -/
def runCalls (a : SourcePortAllocator) (calls : List PortCall) : SourcePortAllocator :=
  calls.foldl apply a

/-! ## The probe sequence -/

/-- As `i` runs below `n`, `(o + i) % n` runs through every residue. -/
theorem exists_add_mod_eq {n : Nat} (o : Nat) {j : Nat} (hj : j < n) :
    ∃ i < n, (o + i) % n = j := by
  have hr : o % n < n := Nat.mod_lt o (by omega)
  refine ⟨(j + (n - o % n)) % n, Nat.mod_lt _ (by omega), ?_⟩
  calc (o + (j + (n - o % n)) % n) % n
      = (o + (j + (n - o % n))) % n := Nat.add_mod_mod _ _ _
    _ = (o % n + (j + (n - o % n))) % n := (Nat.mod_add_mod _ _ _).symm
    _ = (j + n) % n := by congr 1; omega
    _ = j := by rw [Nat.add_mod_right, Nat.mod_eq_of_lt hj]

/-- The allocator's invariant: the range has its 16384 ports, and every port
in use lies in it. -/
structure Valid (a : SourcePortAllocator) : Prop where
  portSpan : a.portSpan = 16384
  inRange : ∀ p ∈ a.inUse, sourcePortMin ≤ p

section Probe

variable {a : SourcePortAllocator}

/-- The probe stays inside the range: the offset is reduced first, so the
addition in `uint16` never wraps. -/
theorem Valid.toNat_probePort (hv : a.Valid) (offset i : Nat) :
    (a.probePort offset i).toNat = 49152 + (offset + i) % 16384 := by
  have hlt : (offset + i) % 16384 < 16384 := Nat.mod_lt _ (by omega)
  have hmin : sourcePortMin.toNat = 49152 := rfl
  rw [probePort, hv.portSpan, UInt16.toNat_add, UInt16.toNat_ofNat', hmin]
  omega

theorem Valid.le_probePort (hv : a.Valid) (offset i : Nat) : sourcePortMin ≤ a.probePort offset i := by
  rw [UInt16.le_iff_toNat_le, hv.toNat_probePort]
  show 49152 ≤ _
  omega

/-- Every port of the range is the `i`-th port of the probe for some
`i < portSpan`, whatever the offset. -/
theorem Valid.exists_probePort (hv : a.Valid) (offset : Nat) {p : UInt16} (hp : sourcePortMin ≤ p) :
    ∃ i < a.portSpan, a.probePort offset i = p := by
  have hp' : 49152 ≤ p.toNat := (UInt16.le_iff_toNat_le).mp hp
  have hlt : p.toNat < 65536 := p.toNat_lt
  obtain ⟨i, hi, hmod⟩ := exists_add_mod_eq offset (show p.toNat - 49152 < 16384 by omega)
  refine ⟨i, hv.portSpan ▸ hi, ?_⟩
  apply UInt16.toNat_inj.mp
  rw [hv.toNat_probePort, hmod]
  omega

end Probe

/-! ## Allocate and Release -/

section Calls

variable {a a' : SourcePortAllocator} {offset : Option Nat}

/-- A successful `Allocate` returns a port of the probe that was not in use,
and marks it. -/
theorem allocate_eq_ok {p : UInt16} (h : a.allocate offset = (a', .ok p)) :
    ∃ o i, offset = some o ∧ i < a.portSpan ∧ p = a.probePort o i ∧ p ∉ a.inUse ∧
      a' = { a with inUse := insert p a.inUse } := by
  cases offset with
  | none =>
    dsimp only [allocate] at h
    split at h <;> cases h
  | some o =>
    dsimp only [allocate, probe] at h
    split at h
    · cases h
    · split at h
      · rename_i i hfind
        simp only [Prod.mk.injEq, Except.ok.injEq] at h
        obtain ⟨rfl, rfl⟩ := h
        have hi := List.mem_of_find?_eq_some hfind
        have hfree := List.find?_some hfind
        simp only [List.mem_range, decide_eq_true_eq] at hi hfree
        exact ⟨o, i, rfl, hi, rfl, hfree, rfl⟩
      · cases h

/-- A failed `Allocate` leaves the allocator as it was. -/
theorem allocate_eq_error {e : AllocateError} (h : a.allocate offset = (a', .error e)) : a' = a := by
  cases offset with
  | none =>
    dsimp only [allocate] at h
    split at h <;> exact (Prod.mk.inj h).1.symm
  | some o =>
    dsimp only [allocate, probe] at h
    split at h
    · exact (Prod.mk.inj h).1.symm
    · split at h
      · cases h
      · exact (Prod.mk.inj h).1.symm

/-- The ports in use, read as numbers, lie in `[49152, 65536)`. -/
theorem Valid.image_toNat_subset (hv : a.Valid) :
    a.inUse.image UInt16.toNat ⊆ Finset.Ico 49152 65536 := by
  intro n hn
  obtain ⟨p, hp, rfl⟩ := Finset.mem_image.mp hn
  have hle : 49152 ≤ p.toNat := (UInt16.le_iff_toNat_le).mp (hv.inRange p hp)
  exact Finset.mem_Ico.mpr ⟨hle, p.toNat_lt⟩

theorem card_image_toNat (s : Finset UInt16) : (s.image UInt16.toNat).card = s.card :=
  Finset.card_image_of_injective s fun _ _ => UInt16.toNat_inj.mp

/-- The count check of `Allocate` is sound: as many ports in use as the range
holds means every port of the range is in use. -/
theorem Valid.mem_of_card (hv : a.Valid) (hc : a.portSpan ≤ a.inUse.card) {p : UInt16}
    (hp : sourcePortMin ≤ p) : p ∈ a.inUse := by
  have hsub := hv.image_toNat_subset
  have hcard : (Finset.Ico 49152 65536).card ≤ (a.inUse.image UInt16.toNat).card := by
    have h16 := hv.portSpan
    rw [Nat.card_Ico, card_image_toNat]
    omega
  have heq := Finset.eq_of_subset_of_card_le hsub hcard
  have hn : p.toNat ∈ Finset.Ico 49152 65536 :=
    Finset.mem_Ico.mpr ⟨(UInt16.le_iff_toNat_le).mp hp, p.toNat_lt⟩
  rw [← heq] at hn
  obtain ⟨q, hq, hqp⟩ := Finset.mem_image.mp hn
  rwa [← UInt16.toNat_inj.mp hqp]

/-- The converse: every port of the range in use fills the count. -/
theorem Valid.card_of_mem (hv : a.Valid) (hall : ∀ p, sourcePortMin ≤ p → p ∈ a.inUse) :
    a.portSpan ≤ a.inUse.card := by
  have hsub : Finset.Ico 49152 65536 ⊆ a.inUse.image UInt16.toNat := by
    intro n hn
    obtain ⟨hlo, hhi⟩ := Finset.mem_Ico.mp hn
    refine Finset.mem_image.mpr ⟨UInt16.ofNat n, hall _ ?_, ?_⟩
    · rw [UInt16.le_iff_toNat_le, UInt16.toNat_ofNat']
      show 49152 ≤ n % 2 ^ 16
      omega
    · rw [UInt16.toNat_ofNat']
      omega
  have hcard := Finset.card_le_card hsub
  rw [Nat.card_Ico, card_image_toNat] at hcard
  rw [hv.portSpan]
  exact hcard

/-- A valid allocator never holds more ports than the range. -/
theorem Valid.card_le (hv : a.Valid) : a.inUse.card ≤ a.portSpan := by
  have hcard := Finset.card_le_card hv.image_toNat_subset
  rw [Nat.card_Ico, card_image_toNat] at hcard
  rw [hv.portSpan]
  omega

/-- At the count check `Allocate` refuses and reads no draw. -/
theorem allocate_of_le_card (hc : a.portSpan ≤ a.inUse.card) :
    a.allocate offset = (a, .error (.portExhausted a.portSpan)) := by
  simp only [allocate, ge_iff_le, if_pos hc]

/-- Below the count, `Allocate` with a draw always finds a free port: the
probe visits the whole range, and a range that is all in use fills the
count. -/
theorem Valid.allocate_of_lt (hv : a.Valid) (hc : a.inUse.card < a.portSpan) (o : Nat) :
    ∃ p, p ∉ a.inUse ∧ a.allocate (some o) = ({ a with inUse := insert p a.inUse }, .ok p) := by
  have hnot : ¬ a.portSpan ≤ a.inUse.card := by omega
  cases hf : (List.range a.portSpan).find? (fun i => a.probePort o i ∉ a.inUse) with
  | none =>
    -- every port of the probe is in use, so every port of the range is
    have hall : ∀ p, sourcePortMin ≤ p → p ∈ a.inUse := by
      intro p hp
      obtain ⟨i, hi, rfl⟩ := hv.exists_probePort o hp
      have hfull := List.find?_eq_none.mp hf i (List.mem_range.mpr hi)
      simpa using hfull
    exact absurd (hv.card_of_mem hall) hnot
  | some i =>
    have hfree := List.find?_some hf
    simp only [decide_eq_true_eq] at hfree
    refine ⟨a.probePort o i, hfree, ?_⟩
    simp only [allocate, probe, ge_iff_le, if_neg hnot, hf]

/-- On a valid allocator `Allocate` returns `ErrPortExhausted` exactly when
every port of the range is in use, whatever the random draw. -/
theorem Valid.allocate_exhausted_iff (hv : a.Valid) :
    (∃ e, (a.allocate offset).2 = .error e ∧ e.isPortExhausted = true) ↔
      ∀ p, sourcePortMin ≤ p → p ∈ a.inUse := by
  constructor
  · rintro ⟨e, he, hx⟩ p hp
    cases offset with
    | none =>
      dsimp only [allocate] at he
      split at he
      · -- the count check
        exact hv.mem_of_card (by omega) hp
      · cases he
        cases hx
    | some o =>
      dsimp only [allocate, probe] at he
      split at he
      · exact hv.mem_of_card (by omega) hp
      · -- the probe ran through the whole range without a free port
        split at he
        · cases he
        · rename_i hnone
          obtain ⟨i, hi, rfl⟩ := hv.exists_probePort o hp
          have hfull := List.find?_eq_none.mp hnone i (List.mem_range.mpr hi)
          simpa using hfull
  · intro hall
    have hc := hv.card_of_mem hall
    refine ⟨.portExhausted a.portSpan, ?_, rfl⟩
    simp only [allocate, ge_iff_le, if_pos hc]

/-- `Release` of any port, in use, out of use or out of range, keeps the
allocator valid. -/
theorem Valid.release (hv : a.Valid) (port : UInt16) : (a.release port).Valid where
  portSpan := hv.portSpan
  inRange p hp := hv.inRange p (Finset.mem_of_mem_erase hp)

theorem Valid.allocate (hv : a.Valid) (offset : Option Nat) : (a.allocate offset).1.Valid := by
  rcases h : a.allocate offset with ⟨a', r⟩
  cases r with
  | error e =>
    rw [allocate_eq_error h]
    exact hv
  | ok p =>
    obtain ⟨o, i, -, -, rfl, -, rfl⟩ := allocate_eq_ok h
    exact ⟨hv.portSpan, fun q hq => by
      rcases Finset.mem_insert.mp hq with rfl | hq
      · exact hv.le_probePort o i
      · exact hv.inRange q hq⟩

theorem Valid.apply (hv : a.Valid) (c : PortCall) : (a.apply c).Valid := by
  cases c with
  | allocate offset => exact hv.allocate offset
  | release port => exact hv.release port

/-- Every sequence of calls keeps the allocator valid. -/
theorem Valid.runCalls (hv : a.Valid) (calls : List PortCall) : (a.runCalls calls).Valid := by
  induction calls generalizing a with
  | nil => exact hv
  | cons c rest ih => exact ih (hv.apply c)

end Calls

theorem newSourcePortAllocator_valid : newSourcePortAllocator.Valid where
  portSpan := rfl
  inRange p hp := absurd hp (Finset.notMem_empty p)

/-- The allocators some sequence of calls leads to from
`NewSourcePortAllocator`. -/
def Reachable (a : SourcePortAllocator) : Prop :=
  ∃ calls, newSourcePortAllocator.runCalls calls = a

theorem Reachable.valid {a : SourcePortAllocator} (hr : a.Reachable) : a.Valid := by
  obtain ⟨calls, rfl⟩ := hr
  exact newSourcePortAllocator_valid.runCalls calls

/-- The top of the range is the top of `uint16`. -/
theorem le_sourcePortMax (p : UInt16) : p ≤ sourcePortMax := by
  rw [UInt16.le_iff_toNat_le]
  have hlt := p.toNat_lt
  show p.toNat ≤ 65535
  omega

/-! ## Unique ports -/

/-- After any sequence of calls, releases of any port included, the ports in
use lie in `[49152, 65535]`; an `Allocate` that succeeds returns a port of
the range that was not in use and marks it; and, for every random draw,
`Allocate` returns `ErrPortExhausted` exactly when every port of the range
is in use. -/
theorem source_ports_unique {a : SourcePortAllocator} (hr : a.Reachable) (offset : Option Nat) :
    (∀ p ∈ a.inUse, sourcePortMin ≤ p ∧ p ≤ sourcePortMax) ∧
    (∀ a' p, a.allocate offset = (a', .ok p) →
      (sourcePortMin ≤ p ∧ p ≤ sourcePortMax) ∧ p ∉ a.inUse ∧ a'.inUse = insert p a.inUse) ∧
    ((∃ e, (a.allocate offset).2 = .error e ∧ e.isPortExhausted = true) ↔
      ∀ p, sourcePortMin ≤ p → p ≤ sourcePortMax → p ∈ a.inUse) := by
  have hv := hr.valid
  refine ⟨fun p hp => ⟨hv.inRange p hp, le_sourcePortMax p⟩, ?_, ?_⟩
  · intro a' p h
    obtain ⟨o, i, -, -, rfl, hfree, rfl⟩ := allocate_eq_ok h
    exact ⟨⟨hv.le_probePort o i, le_sourcePortMax _⟩, hfree, rfl⟩
  · rw [hv.allocate_exhausted_iff]
    exact ⟨fun hall p hp _ => hall p hp, fun hall p hp => hall p hp (le_sourcePortMax p)⟩

theorem source_ports_unique_new :
    newSourcePortAllocator.Reachable ∧
      (∀ p ∈ newSourcePortAllocator.inUse, sourcePortMin ≤ p ∧ p ≤ sourcePortMax) :=
  ⟨⟨[], rfl⟩, (source_ports_unique ⟨[], rfl⟩ (some 0)).1⟩

end SourcePortAllocator

end GoBFD
