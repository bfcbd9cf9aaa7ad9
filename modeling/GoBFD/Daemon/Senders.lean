import GoBFD.Echo.Manager
import GoBFD.Netio.Ports

/-!
# GoBFD.Daemon.Senders

The daemon's `udpSenderFactory` (`cmd/gobfd/factory.go`): the UDP senders
of the sessions, each bound to a source port of the `SourcePortAllocator`,
and the reload passes of `reload.go` and `micro_bfd.go` that ask it for one
sender per entry of the configuration.

* `UDPSenderFactory.Valid`: the ports the allocator marks in use are
  exactly the ports of the senders the factory holds, each filed under its
  own source port.  `CreateSender`, `createSenderForSession` and
  `CloseSender` keep it, whatever the kernel answers and the random source
  draws, so `CloseSender` of a sender's port gives that port back.
* `UDPSenderFactory.reconcileSessions` is the declarative pass with its
  senders.  When every sender it asks for is made, it leaves the manager as
  the sender-free `reconcileSessions` of `GoBFD.Daemon` does, and it takes
  one port per session that converts.
* Nothing gives those ports back.  `ReconcileSessions` hands a sender only
  to a session it creates, and neither it nor `DestroySession` closes one;
  only the gRPC `DeleteSession` calls `CloseSender`.  `Takes` counts the
  ports a sequence of requests takes, and the reloads of one configuration
  fill the range; a declarative pass on a full range gets no sender, so it
  hands `ReconcileSessions` nothing to keep and every session is destroyed.

The socket itself is the kernel's answer `dial` to `dialSenderSocket` for
the sender's fields; the logger and the write buffer option, which no
caller of the factory sets, are not modelled.
-/

namespace GoBFD

open Go

variable {Addr : Type}

/-! ## Senders -/

/-- `PortSingleHop`: RFC 5881 Section 4. -/
def PortSingleHop : UInt16 := 3784

/-- `PortMultiHop`: RFC 5883 Section 2. -/
def PortMultiHop : UInt16 := 4784

/-- `PortEcho`: RFC 5881 Section 4. -/
def PortEcho : UInt16 := 3785

/-- `PortMicroBFD`: RFC 7130 Section 2.1. -/
def PortMicroBFD : UInt16 := 6784

/-- The `SenderOption`s the daemon passes. -/
inductive SenderOption where
  | withDFBit
  | withDstPort (port : UInt16)
  | withBindDevice (ifName : String)

/-- `UDPSender`: the fields `NewUDPSender` sets before it dials. -/
structure UDPSender (Addr : Type) where
  localAddr : Addr
  dstPort : UInt16
  srcPort : UInt16
  multiHop : Bool
  dfBit : Bool
  bindDevice : String

/-- `opt(s)`. -/
def SenderOption.apply (s : UDPSender Addr) : SenderOption → UDPSender Addr
  | .withDFBit => { s with dfBit := true }
  | .withDstPort port => { s with dstPort := port }
  | .withBindDevice ifName => { s with bindDevice := ifName }

/-- The errors of the factory, with what their messages print. -/
inductive SenderError (Addr : Type) where
  /-- "allocate source port: %w". -/
  | allocateSourcePort (e : AllocateError)
  /-- "create UDP sender %s:%d: %w": the kernel refused the socket. -/
  | createUDPSender (localAddr : Addr) (srcPort : UInt16)

/-- `NewUDPSender(localAddr, srcPort, multiHop, logger, opts...)`: the
destination port of the session type, then the options in order, then the
socket. -/
def newUDPSender (dial : UDPSender Addr → Bool) (localAddr : Addr) (srcPort : UInt16)
    (multiHop : Bool) (opts : List SenderOption) : Except (SenderError Addr) (UDPSender Addr) :=
  let s := opts.foldl SenderOption.apply
    { localAddr := localAddr
      dstPort := if multiHop then PortMultiHop else PortSingleHop
      srcPort := srcPort
      multiHop := multiHop
      dfBit := false
      bindDevice := "" }
  if dial s then .ok s else .error (.createUDPSender localAddr srcPort)

/-- No option touches the source port. -/
theorem srcPort_foldl_apply (opts : List SenderOption) (s : UDPSender Addr) :
    (opts.foldl SenderOption.apply s).srcPort = s.srcPort := by
  induction opts generalizing s with
  | nil => rfl
  | cons o opts ih =>
    rw [List.foldl_cons, ih]
    cases o <;> rfl

theorem newUDPSender_eq_ok {dial : UDPSender Addr → Bool} {localAddr : Addr} {srcPort : UInt16}
    {multiHop : Bool} {opts : List SenderOption} {s : UDPSender Addr}
    (h : newUDPSender dial localAddr srcPort multiHop opts = .ok s) : s.srcPort = srcPort := by
  unfold newUDPSender at h
  extract_lets s₀ at h
  split at h
  · rw [← Except.ok.inj h]
    simp only [s₀, srcPort_foldl_apply]
  · cases h

/-- A socket the kernel accepts gives a sender. -/
theorem newUDPSender_of_dial {dial : UDPSender Addr → Bool} (hd : ∀ s, dial s = true)
    (localAddr : Addr) (srcPort : UInt16) (multiHop : Bool) (opts : List SenderOption) :
    ∃ s, newUDPSender dial localAddr srcPort multiHop opts = .ok s := by
  simp only [newUDPSender, hd, if_true]
  exact ⟨_, rfl⟩

/-! ## The factory -/

/-- `udpSenderFactory`: the allocator, the senders by source port, and the
draws `crypto/rand` will give `Allocate`. -/
structure UDPSenderFactory (Addr : Type) where
  portAlloc : SourcePortAllocator
  senders : AList fun _ : UInt16 => UDPSender Addr
  rand : List Nat

/-- `newUDPSenderFactory()`. -/
def newUDPSenderFactory (rand : List Nat) : UDPSenderFactory Addr :=
  { portAlloc := newSourcePortAllocator, senders := ∅, rand := rand }

namespace UDPSenderFactory

variable (dial : UDPSender Addr → Bool)

/-- `f.portAlloc.Allocate()`.  The count check reads nothing; past it
`randomPortOffset` reads the next draw, and fails once the stream is
spent. -/
def allocate (f : UDPSenderFactory Addr) : Except AllocateError UInt16 × UDPSenderFactory Addr :=
  ((f.portAlloc.allocate f.rand.head?).2,
    { f with
      portAlloc := (f.portAlloc.allocate f.rand.head?).1
      rand := if f.portAlloc.inUse.card ≥ f.portAlloc.portSpan then f.rand else f.rand.tail })

/-- `createSenderForSession(localAddr, multiHop, logger, senderOpts...)`:
allocate a port, open the sender on it (releasing the port if that fails),
and file the sender under its port. -/
def createSenderForSession (f : UDPSenderFactory Addr) (localAddr : Addr) (multiHop : Bool)
    (opts : List SenderOption) : Except (SenderError Addr) (UDPSender Addr) × UDPSenderFactory Addr :=
  match f.allocate with
  | (.error e, f) => (.error (.allocateSourcePort e), f)
  | (.ok srcPort, f) =>
    match newUDPSender dial localAddr srcPort multiHop opts with
    | .error e => (.error e, { f with portAlloc := f.portAlloc.release srcPort })
    | .ok sender => (.ok sender, { f with senders := f.senders.insert srcPort sender })

/-- `CreateSender(localAddr, multiHop, logger)`: the same steps with no
option, returning the port as well. -/
def createSender (f : UDPSenderFactory Addr) (localAddr : Addr) (multiHop : Bool) :
    Except (SenderError Addr) (UDPSender Addr × UInt16) × UDPSenderFactory Addr :=
  match f.createSenderForSession dial localAddr multiHop [] with
  | (.ok sender, f) => (.ok (sender, sender.srcPort), f)
  | (.error e, f) => (.error e, f)

/-- `CloseSender(srcPort)`: a port with no sender is a no-op; otherwise the
sender is removed and its port released.  The error of closing the socket
is not modelled. -/
def closeSender (f : UDPSenderFactory Addr) (srcPort : UInt16) : UDPSenderFactory Addr :=
  match f.senders.lookup srcPort with
  | none => f
  | some _ => { f with senders := f.senders.erase srcPort, portAlloc := f.portAlloc.release srcPort }

/-- The factory's invariant: the allocator is valid, the ports it marks in
use are exactly the ports the factory holds senders for, and each sender
is filed under its own source port. -/
structure Valid (f : UDPSenderFactory Addr) : Prop where
  portAlloc : f.portAlloc.Valid
  inUse : ∀ p, p ∈ f.portAlloc.inUse ↔ p ∈ f.senders
  srcPort : ∀ p s, f.senders.lookup p = some s → s.srcPort = p

theorem newUDPSenderFactory_valid (rand : List Nat) : (newUDPSenderFactory rand : UDPSenderFactory Addr).Valid where
  portAlloc := SourcePortAllocator.newSourcePortAllocator_valid
  inUse p := by simp [newUDPSenderFactory, newSourcePortAllocator]
  srcPort p s h := by simp [newUDPSenderFactory] at h

section Calls

variable {f f' : UDPSenderFactory Addr} {localAddr : Addr} {multiHop : Bool} {opts : List SenderOption}

theorem allocate_eq_ok {p : UInt16} (h : f.allocate = (.ok p, f')) :
    f.portAlloc.allocate f.rand.head? = (f'.portAlloc, .ok p) ∧ f'.senders = f.senders := by
  simp only [allocate, Prod.mk.injEq] at h
  obtain ⟨hr, rfl⟩ := h
  exact ⟨Prod.ext rfl hr, rfl⟩

theorem allocate_eq_error {e : AllocateError} (h : f.allocate = (.error e, f')) :
    f'.portAlloc = f.portAlloc ∧ f'.senders = f.senders := by
  simp only [allocate, Prod.mk.injEq] at h
  obtain ⟨hr, rfl⟩ := h
  have hp : f.portAlloc.allocate f.rand.head? = ((f.portAlloc.allocate f.rand.head?).1, .error e) :=
    Prod.ext rfl hr
  exact ⟨SourcePortAllocator.allocate_eq_error hp, rfl⟩

/-- A sender made: its port was free, and it is now marked and filed. -/
theorem createSenderForSession_eq_ok {s : UDPSender Addr}
    (h : f.createSenderForSession dial localAddr multiHop opts = (.ok s, f')) :
    s.srcPort ∉ f.portAlloc.inUse ∧ f'.portAlloc = (f.portAlloc.allocate f.rand.head?).1 ∧
      f'.portAlloc.inUse = insert s.srcPort f.portAlloc.inUse ∧ f'.senders = f.senders.insert s.srcPort s := by
  unfold createSenderForSession at h
  rcases ha : f.allocate with ⟨_ | p, f₁⟩
  · rw [ha] at h
    cases h
  · rw [ha] at h
    dsimp only at h
    obtain ⟨hp, hs⟩ := allocate_eq_ok ha
    obtain ⟨o, i, -, -, hpi, hfree, hf₁⟩ := SourcePortAllocator.allocate_eq_ok hp
    split at h
    · cases h
    · rename_i s' hn
      cases h
      rw [newUDPSender_eq_ok hn, hs, hp]
      exact ⟨hfree, rfl, by rw [hf₁], rfl⟩

/-- No sender made: the ports in use and the senders are as they were; a
port taken for a socket the kernel refused is released again. -/
theorem createSenderForSession_eq_error {e : SenderError Addr}
    (h : f.createSenderForSession dial localAddr multiHop opts = (.error e, f')) :
    f'.portAlloc = f.portAlloc ∧ f'.senders = f.senders := by
  unfold createSenderForSession at h
  rcases ha : f.allocate with ⟨e' | p, f₁⟩
  · rw [ha] at h
    cases h
    exact allocate_eq_error ha
  · rw [ha] at h
    dsimp only at h
    obtain ⟨hp, hs⟩ := allocate_eq_ok ha
    obtain ⟨o, i, -, -, -, hfree, hf₁⟩ := SourcePortAllocator.allocate_eq_ok hp
    split at h
    · cases h
      refine ⟨?_, hs⟩
      rw [hf₁]
      simp only [SourcePortAllocator.release, Finset.erase_insert hfree]
    · cases h

theorem createSender_eq_ok {s : UDPSender Addr} {p : UInt16}
    (h : f.createSender dial localAddr multiHop = (.ok (s, p), f')) :
    f.createSenderForSession dial localAddr multiHop [] = (.ok s, f') ∧ p = s.srcPort := by
  unfold createSender at h
  split at h
  · rename_i s' f₁ hc
    cases h
    exact ⟨hc, rfl⟩
  · cases h

theorem createSender_eq_error {e : SenderError Addr}
    (h : f.createSender dial localAddr multiHop = (.error e, f')) :
    f.createSenderForSession dial localAddr multiHop [] = (.error e, f') := by
  unfold createSender at h
  split at h
  · cases h
  · rename_i e' f₁ hc
    cases h
    exact hc

theorem createSender_snd :
    (f.createSender dial localAddr multiHop).2 = (f.createSenderForSession dial localAddr multiHop []).2 := by
  rcases h : f.createSenderForSession dial localAddr multiHop [] with ⟨_ | s, f₁⟩ <;>
    simp only [createSender, h]

/-- Every request keeps the invariant: a sender made files the port the
allocator marked, and no sender made leaves both as they were. -/
theorem Valid.createSenderForSession (hv : f.Valid) (localAddr : Addr) (multiHop : Bool)
    (opts : List SenderOption) : (f.createSenderForSession dial localAddr multiHop opts).2.Valid := by
  rcases h : f.createSenderForSession dial localAddr multiHop opts with ⟨_ | s, f'⟩
  · obtain ⟨hp, hs⟩ := createSenderForSession_eq_error dial h
    refine ⟨hp ▸ hv.portAlloc, fun p => ?_, fun p s' => ?_⟩
    · rw [hp, hs]
      exact hv.inUse p
    · rw [hs]
      exact hv.srcPort p s'
  · obtain ⟨-, hpa, hin, hs⟩ := createSenderForSession_eq_ok dial h
    have hva := hv.portAlloc.allocate f.rand.head?
    rw [← hpa] at hva
    refine ⟨hva, fun p => ?_, fun p s' hp => ?_⟩
    · rw [hin, hs, Finset.mem_insert, AList.mem_insert, hv.inUse p]
    · rw [hs] at hp
      by_cases hps : p = s.srcPort
      · subst hps
        rw [AList.lookup_insert] at hp
        cases hp
        rfl
      · rw [AList.lookup_insert_ne hps] at hp
        exact hv.srcPort p s' hp

theorem Valid.createSender (hv : f.Valid) (localAddr : Addr) (multiHop : Bool) :
    (f.createSender dial localAddr multiHop).2.Valid := by
  rw [createSender_snd]
  exact hv.createSenderForSession dial localAddr multiHop []

theorem Valid.closeSender (hv : f.Valid) (srcPort : UInt16) : (f.closeSender srcPort).Valid := by
  unfold UDPSenderFactory.closeSender
  split
  · exact hv
  · refine ⟨hv.portAlloc.release srcPort, fun p => ?_, fun p s hp => ?_⟩
    · simp only [SourcePortAllocator.release, Finset.mem_erase, AList.mem_erase, hv.inUse p]
    · by_cases hps : p = srcPort
      · subst hps
        rw [AList.lookup_erase] at hp
        cases hp
      · rw [AList.lookup_erase_ne hps] at hp
        exact hv.srcPort p s hp

/-- On a valid factory `CloseSender` frees exactly its port: a port with no
sender was not in use. -/
theorem Valid.closeSender_inUse (hv : f.Valid) (srcPort : UInt16) :
    (f.closeSender srcPort).portAlloc.inUse = f.portAlloc.inUse.erase srcPort := by
  unfold UDPSenderFactory.closeSender
  split
  · rename_i hn
    have hnot : srcPort ∉ f.portAlloc.inUse := by
      rw [hv.inUse]
      exact AList.lookup_eq_none.mp hn
    exact (Finset.erase_eq_of_notMem hnot).symm
  · rfl

end Calls

/-- One call on the factory, by the daemon or by the gRPC server; `dial` is
the kernel's answer at that call. -/
inductive Step : UDPSenderFactory Addr → UDPSenderFactory Addr → Prop
  | createSender (f : UDPSenderFactory Addr) (dial : UDPSender Addr → Bool) (localAddr : Addr)
      (multiHop : Bool) : Step f (f.createSender dial localAddr multiHop).2
  | createSenderForSession (f : UDPSenderFactory Addr) (dial : UDPSender Addr → Bool)
      (localAddr : Addr) (multiHop : Bool) (opts : List SenderOption) :
      Step f (f.createSenderForSession dial localAddr multiHop opts).2
  | closeSender (f : UDPSenderFactory Addr) (srcPort : UInt16) : Step f (f.closeSender srcPort)

/-- The factories every sequence of calls leads to from `newUDPSenderFactory`. -/
def Reachable (f : UDPSenderFactory Addr) : Prop :=
  ∃ rand, Relation.ReflTransGen Step (newUDPSenderFactory rand) f

theorem Step.valid {f f' : UDPSenderFactory Addr} (hs : Step f f') (hv : f.Valid) : f'.Valid := by
  cases hs with
  | createSender dial localAddr multiHop => exact hv.createSender dial localAddr multiHop
  | createSenderForSession dial localAddr multiHop opts =>
    exact hv.createSenderForSession dial localAddr multiHop opts
  | closeSender srcPort => exact hv.closeSender srcPort

theorem Reachable.valid {f : UDPSenderFactory Addr} (hr : f.Reachable) : f.Valid := by
  obtain ⟨rand, hrun⟩ := hr
  induction hrun with
  | refl => exact newUDPSenderFactory_valid rand
  | tail _ hs ih => exact hs.valid ih

/-- Over every sequence of `CreateSender`, `createSenderForSession` and
`CloseSender` calls, whatever the kernel answers and the random source
draws, a port is in use exactly when the factory holds the sender bound to
it; and a port `CreateSender` returns was free, and handing it to
`CloseSender` leaves the ports in use and the senders as they were. -/
theorem ports_in_use_are_senders {f : UDPSenderFactory Addr} (hr : f.Reachable) :
    (∀ p, p ∈ f.portAlloc.inUse ↔ ∃ s, f.senders.lookup p = some s ∧ s.srcPort = p) ∧
    ∀ (dial : UDPSender Addr → Bool) (localAddr : Addr) (multiHop : Bool) (s : UDPSender Addr)
      (p : UInt16) (f' : UDPSenderFactory Addr), f.createSender dial localAddr multiHop = (.ok (s, p), f') →
      p ∉ f.portAlloc.inUse ∧ (f'.closeSender p).portAlloc.inUse = f.portAlloc.inUse ∧
        ∀ q, (f'.closeSender p).senders.lookup q = f.senders.lookup q := by
  have hv := hr.valid
  refine ⟨fun p => ?_, ?_⟩
  · rw [hv.inUse, ← AList.lookup_isSome, Option.isSome_iff_exists]
    exact ⟨fun ⟨s, hs⟩ => ⟨s, hs, hv.srcPort p s hs⟩, fun ⟨s, hs, _⟩ => ⟨s, hs⟩⟩
  · intro dial localAddr multiHop s p f' h
    obtain ⟨hc, rfl⟩ := createSender_eq_ok dial h
    obtain ⟨hfree, -, hin, hs⟩ := createSenderForSession_eq_ok dial hc
    have hv' := hv.createSenderForSession dial localAddr multiHop []
    rw [hc] at hv'
    have hnone : f.senders.lookup s.srcPort = none := by
      rw [AList.lookup_eq_none, ← hv.inUse]
      exact hfree
    refine ⟨hfree, ?_, fun q => ?_⟩
    · rw [hv'.closeSender_inUse, hin, Finset.erase_insert hfree]
    · have hlook : f'.senders.lookup s.srcPort = some s := by
        rw [hs, AList.lookup_insert]
      simp only [closeSender, hlook]
      by_cases hq : q = s.srcPort
      · rw [hq, AList.lookup_erase, hnone]
      · rw [AList.lookup_erase_ne hq, hs, AList.lookup_insert_ne hq]

/-- A factory that has made one sender, from 10.0.0.2, on the first draw. -/
def oneSenderFactory : UDPSenderFactory (Option (List UInt8)) :=
  ((newUDPSenderFactory [7]).createSender (fun _ => true) (some [10, 0, 0, 2]) false).2

theorem ports_in_use_are_senders_oneSender :
    oneSenderFactory.Reachable ∧
      ∀ p, p ∈ oneSenderFactory.portAlloc.inUse ↔ ∃ s, oneSenderFactory.senders.lookup p = some s ∧ s.srcPort = p := by
  have hr : oneSenderFactory.Reachable := ⟨[7], .single (.createSender _ _ _ _)⟩
  exact ⟨hr, (ports_in_use_are_senders hr).1⟩

/-! ## What a run of requests takes -/

/-- The random source has a draw for every free port: `crypto/rand` does
not fail while the range has room. -/
def HasDraws (f : UDPSenderFactory Addr) : Prop :=
  f.portAlloc.portSpan ≤ f.portAlloc.inUse.card + f.rand.length

/-- `f'` is `f` after `n` requests for a sender, each of which took a free
port while there was one: the count grows by `n` up to the range, one draw
is spent per port taken, and no port is given back. -/
structure Takes (f f' : UDPSenderFactory Addr) (n : Nat) : Prop where
  valid : f'.Valid
  card : f'.portAlloc.inUse.card = min f.portAlloc.portSpan (f.portAlloc.inUse.card + n)
  draws : f'.portAlloc.inUse.card + f'.rand.length = f.portAlloc.inUse.card + f.rand.length
  subset : f.portAlloc.inUse ⊆ f'.portAlloc.inUse

section Takes

variable {f f₁ f₂ : UDPSenderFactory Addr} {i j : Nat}

theorem Takes.refl (hv : f.Valid) : Takes f f 0 where
  valid := hv
  card := by rw [add_zero, min_eq_right hv.portAlloc.card_le]
  draws := rfl
  subset := Finset.Subset.refl _

theorem Takes.trans (h₁ : Takes f f₁ i) (h₂ : Takes f₁ f₂ j) (hv : f.Valid) : Takes f f₂ (i + j) where
  valid := h₂.valid
  card := by
    rw [h₂.card, h₁.card, h₁.valid.portAlloc.portSpan, ← hv.portAlloc.portSpan]
    omega
  draws := h₂.draws.trans h₁.draws
  subset := h₁.subset.trans h₂.subset

theorem Takes.hasDraws (ht : Takes f f₁ i) (hv : f.Valid) (hr : f.HasDraws) : f₁.HasDraws := by
  unfold HasDraws at hr ⊢
  rw [ht.draws, ht.valid.portAlloc.portSpan, ← hv.portAlloc.portSpan]
  exact hr

variable {localAddr : Addr} {multiHop : Bool} {opts : List SenderOption}

/-- Below the count, with a draw and a socket, a request makes a sender on
a free port. -/
theorem Valid.createSenderForSession_of_lt (hv : f.Valid) (hd : ∀ s, dial s = true)
    (hc : f.portAlloc.inUse.card < f.portAlloc.portSpan) {o : Nat} {rest : List Nat}
    (hr : f.rand = o :: rest) (localAddr : Addr) (multiHop : Bool) (opts : List SenderOption) :
    ∃ s, s.srcPort ∉ f.portAlloc.inUse ∧ f.createSenderForSession dial localAddr multiHop opts =
      (.ok s,
        { portAlloc := { f.portAlloc with inUse := insert s.srcPort f.portAlloc.inUse }
          senders := f.senders.insert s.srcPort s
          rand := rest }) := by
  obtain ⟨p, hp, ha⟩ := hv.portAlloc.allocate_of_lt hc o
  have hnot : ¬ f.portAlloc.inUse.card ≥ f.portAlloc.portSpan := by omega
  have hal : f.allocate =
      (.ok p, { f with portAlloc := { f.portAlloc with inUse := insert p f.portAlloc.inUse }, rand := rest }) := by
    simp only [allocate, hr, List.head?_cons, ha, if_neg hnot, List.tail_cons]
  obtain ⟨s, hs⟩ := newUDPSender_of_dial hd localAddr p multiHop opts
  have hsp := newUDPSender_eq_ok hs
  refine ⟨s, hsp ▸ hp, ?_⟩
  simp only [UDPSenderFactory.createSenderForSession, hal, hs, hsp]

/-- At the count every request fails and changes nothing. -/
theorem createSenderForSession_of_le_card (hc : f.portAlloc.portSpan ≤ f.portAlloc.inUse.card)
    (localAddr : Addr) (multiHop : Bool) (opts : List SenderOption) :
    f.createSenderForSession dial localAddr multiHop opts =
      (.error (.allocateSourcePort (.portExhausted f.portAlloc.portSpan)), f) := by
  have hal : f.allocate = (.error (.portExhausted f.portAlloc.portSpan), f) := by
    simp only [allocate, SourcePortAllocator.allocate_of_le_card hc, ge_iff_le, if_pos hc]
  simp only [createSenderForSession, hal]

theorem createSender_of_le_card (hc : f.portAlloc.portSpan ≤ f.portAlloc.inUse.card)
    (localAddr : Addr) (multiHop : Bool) :
    f.createSender dial localAddr multiHop =
      (.error (.allocateSourcePort (.portExhausted f.portAlloc.portSpan)), f) := by
  simp only [createSender, createSenderForSession_of_le_card dial hc]

/-- One request, with every socket accepted and a draw for every free port,
takes one port while the range has room. -/
theorem Valid.takes_createSenderForSession (hv : f.Valid) (hd : ∀ s, dial s = true) (hr : f.HasDraws)
    (localAddr : Addr) (multiHop : Bool) (opts : List SenderOption) :
    Takes f (f.createSenderForSession dial localAddr multiHop opts).2 1 := by
  have hle := hv.portAlloc.card_le
  by_cases hc : f.portAlloc.portSpan ≤ f.portAlloc.inUse.card
  · -- a full range: nothing changes
    rw [createSenderForSession_of_le_card dial hc]
    refine ⟨hv, ?_, rfl, Finset.Subset.refl _⟩
    dsimp only
    omega
  · have hlen : f.rand ≠ [] := by
      unfold HasDraws at hr
      apply List.ne_nil_of_length_pos
      omega
    obtain ⟨o, rest, hrand⟩ := List.exists_cons_of_ne_nil hlen
    obtain ⟨s, hfree, heq⟩ := hv.createSenderForSession_of_lt dial hd (by omega) hrand localAddr multiHop opts
    have hv' := hv.createSenderForSession dial localAddr multiHop opts
    have hcard := Finset.card_insert_of_notMem hfree
    rw [heq] at hv' ⊢
    refine ⟨hv', ?_, ?_, Finset.subset_insert _ _⟩
    · dsimp only
      rw [hcard]
      omega
    · dsimp only
      rw [hcard, hrand, List.length_cons]
      omega

end Takes

/-! ## The loops that ask for senders -/

/-- What the loops of the passes do with an entry that converts: ask for
its sender, and keep the entry only if the sender was made. -/
def appendIfSender {β : Type} (acc : List β × UDPSenderFactory Addr) (localAddr : Addr) (multiHop : Bool)
    (opts : List SenderOption) (x : β) : List β × UDPSenderFactory Addr :=
  match acc.2.createSenderForSession dial localAddr multiHop opts with
  | (.ok _, f) => (acc.1 ++ [x], f)
  | (.error _, f) => (acc.1, f)

section Loops

variable {β γ : Type} {localAddr : Addr} {multiHop : Bool} {opts : List SenderOption}

theorem appendIfSender_snd (acc : List β × UDPSenderFactory Addr) (x : β) :
    (appendIfSender dial acc localAddr multiHop opts x).2 =
      (acc.2.createSenderForSession dial localAddr multiHop opts).2 := by
  unfold appendIfSender
  split <;> rename_i heq <;> rw [heq]

/-- Below the count every entry that converts is kept. -/
theorem appendIfSender_fst_of_lt {acc : List β × UDPSenderFactory Addr} (hv : acc.2.Valid)
    (hd : ∀ s, dial s = true) (hr : acc.2.HasDraws)
    (hc : acc.2.portAlloc.inUse.card < acc.2.portAlloc.portSpan) (localAddr : Addr) (multiHop : Bool)
    (opts : List SenderOption) (x : β) :
    (appendIfSender dial acc localAddr multiHop opts x).1 = acc.1 ++ [x] := by
  have hlen : acc.2.rand ≠ [] := by
    unfold HasDraws at hr
    apply List.ne_nil_of_length_pos
    omega
  obtain ⟨o, rest, hrand⟩ := List.exists_cons_of_ne_nil hlen
  obtain ⟨s, -, heq⟩ := hv.createSenderForSession_of_lt dial hd hc hrand localAddr multiHop opts
  simp only [appendIfSender, heq]

/-- At the count no entry is kept and nothing changes. -/
theorem appendIfSender_of_le_card {acc : List β × UDPSenderFactory Addr}
    (hc : acc.2.portAlloc.portSpan ≤ acc.2.portAlloc.inUse.card) (x : β) :
    appendIfSender dial acc localAddr multiHop opts x = acc := by
  simp only [appendIfSender, createSenderForSession_of_le_card dial hc]

variable (req : β → Addr × Bool × List SenderOption) (entry : γ → Option β)
  (step : List β × UDPSenderFactory Addr → γ → List β × UDPSenderFactory Addr)

/-- A loop that asks for one sender per entry that converts takes one port
per such entry while the range has room. -/
theorem foldl_takes (hd : ∀ s, dial s = true)
    (hstep : ∀ acc c, step acc c = (entry c).elim acc fun x => appendIfSender dial acc (req x).1 (req x).2.1 (req x).2.2 x) :
    ∀ (cs : List γ) (acc : List β × UDPSenderFactory Addr), acc.2.Valid → acc.2.HasDraws →
      Takes acc.2 (cs.foldl step acc).2 (cs.filterMap entry).length := by
  intro cs
  induction cs with
  | nil =>
    intro acc hv _
    exact Takes.refl hv
  | cons c cs ih =>
    intro acc hv hr
    rw [List.foldl_cons, hstep]
    cases he : entry c with
    | none =>
      rw [List.filterMap_cons_none he]
      exact ih acc hv hr
    | some x =>
      -- the entry's request, then the rest of the loop
      have h₁ := hv.takes_createSenderForSession dial hd hr (req x).1 (req x).2.1 (req x).2.2
      rw [← appendIfSender_snd dial acc x] at h₁
      have h₂ := ih _ h₁.valid (h₁.hasDraws hv hr)
      rw [List.filterMap_cons_some he, List.length_cons, Nat.add_comm]
      exact h₁.trans h₂ hv

/-- With room for every request, the loop keeps every entry that converts. -/
theorem foldl_fst (hd : ∀ s, dial s = true)
    (hstep : ∀ acc c, step acc c = (entry c).elim acc fun x => appendIfSender dial acc (req x).1 (req x).2.1 (req x).2.2 x) :
    ∀ (cs : List γ) (acc : List β × UDPSenderFactory Addr), acc.2.Valid → acc.2.HasDraws →
      acc.2.portAlloc.inUse.card + (cs.filterMap entry).length ≤ acc.2.portAlloc.portSpan →
      (cs.foldl step acc).1 = acc.1 ++ cs.filterMap entry := by
  intro cs
  induction cs with
  | nil =>
    intro acc _ _ _
    simp
  | cons c cs ih =>
    intro acc hv hr hfree
    rw [List.foldl_cons, hstep]
    cases he : entry c with
    | none =>
      rw [List.filterMap_cons_none he] at hfree ⊢
      exact ih acc hv hr hfree
    | some x =>
      rw [List.filterMap_cons_some he, List.length_cons] at hfree
      rw [List.filterMap_cons_some he]
      have h₁ := hv.takes_createSenderForSession dial hd hr (req x).1 (req x).2.1 (req x).2.2
      rw [← appendIfSender_snd dial acc x] at h₁
      have hlt : acc.2.portAlloc.inUse.card < acc.2.portAlloc.portSpan := by omega
      have hfst := appendIfSender_fst_of_lt dial hv hd hr hlt (req x).1 (req x).2.1 (req x).2.2 x
      dsimp only [Option.elim]
      rw [ih _ h₁.valid (h₁.hasDraws hv hr) ?_, hfst, List.append_assoc, List.singleton_append]
      -- the port taken leaves room for the rest
      rw [h₁.card, h₁.valid.portAlloc.portSpan, ← hv.portAlloc.portSpan]
      omega

/-- On a full range the loop keeps nothing and changes nothing. -/
theorem foldl_of_le_card
    (hstep : ∀ acc c, step acc c = (entry c).elim acc fun x => appendIfSender dial acc (req x).1 (req x).2.1 (req x).2.2 x) :
    ∀ (cs : List γ) (acc : List β × UDPSenderFactory Addr),
      acc.2.portAlloc.portSpan ≤ acc.2.portAlloc.inUse.card → cs.foldl step acc = acc := by
  intro cs
  induction cs with
  | nil =>
    intro acc _
    rfl
  | cons c cs ih =>
    intro acc hc
    rw [List.foldl_cons, hstep]
    cases entry c with
    | none => exact ih acc hc
    | some x =>
      dsimp only [Option.elim]
      rw [appendIfSender_of_le_card dial hc]
      exact ih acc hc

end Loops

end UDPSenderFactory

/-! ## The reload passes -/

/-- `configEchoToBFD(ep, defaults)`: parse the addresses (an empty local
address is the zero `Addr`) and fill in the defaults. -/
def configEchoToBFD (ip : NetIP Addr) (ep : Config.EchoPeerConfig) (defaults : Config.EchoConfig) :
    Except ConvertError (EchoSessionConfig Addr) := do
  let some peerAddr := Config.parsePeer ip ep.peer | throw (.peerAddr ep.peer)
  let some localAddr := Config.parseLocal ip ep.«local» | throw (.localAddr ep.«local»)
  let txInterval := if ep.txInterval = 0 then defaults.defaultTxInterval else ep.txInterval
  let detectMult := if ep.detectMult = 0 then defaults.defaultDetectMultiplier else ep.detectMult
  if detectMult > 255 then throw (.detectMultOverflow detectMult)
  pure
    { peerAddr := peerAddr
      localAddr := localAddr
      interface := ep.interface
      txInterval := txInterval
      detectMultiplier := detectMult.toUInt8 }

section Entries

variable (ip : NetIP Addr) (cfg : Config)

/-- The entry of `reconcileSessions` for a declarative session that
converts. -/
def declarativeEntry (sc : Config.SessionConfig) : Option (ReconcileConfig Addr) :=
  match configSessionToBFD ip sc cfg.bfd with
  | .ok sessCfg => some { key := sc.sessionKey, sessionConfig := sessCfg }
  | .error _ => none

theorem desiredDeclarativeSessions_eq [DecidableEq Addr] :
    desiredDeclarativeSessions ip cfg = cfg.sessions.filterMap (declarativeEntry ip cfg) := rfl

/-- The entry of `reconcileEchoSessions` for an echo peer that converts. -/
def echoEntry (ep : Config.EchoPeerConfig) : Option (EchoReconcileConfig Addr) :=
  match configEchoToBFD ip ep cfg.echo with
  | .ok echoCfg => some { key := ep.echoSessionKey, echoSessionConfig := echoCfg }
  | .error _ => none

/-- The number of senders one run of the passes asks the factory for: one
per declarative session that converts, one per echo peer that converts when
echo is on, and one per member link of each micro-BFD group whose
addresses parse. -/
def senderRequests [DecidableEq Addr] : Nat :=
  (desiredDeclarativeSessions ip cfg).length +
    (if cfg.echo.enabled = false ∨ cfg.echo.peers = [] then 0
      else (cfg.echo.peers.filterMap (echoEntry ip cfg)).length) +
    (cfg.microBFD.groups.flatMap (buildMemberSessions ip cfg)).length

end Entries

namespace UDPSenderFactory

section Passes

variable [DecidableEq Addr] (dial : UDPSender Addr → Bool) (h : Digests) (ip : NetIP Addr)

/-- One iteration of the loop of `reconcileSessions(ctx, cfg, mgr, sf,
logger)`: an entry that does not convert is skipped; otherwise its sender
is asked for, with the DF bit when the session pads (RFC 9764). -/
def reconcileSessionsStep (cfg : Config) (acc : List (ReconcileConfig Addr) × UDPSenderFactory Addr)
    (sc : Config.SessionConfig) : List (ReconcileConfig Addr) × UDPSenderFactory Addr :=
  match configSessionToBFD ip sc cfg.bfd with
  | .error _ => acc
  | .ok sessCfg =>
    appendIfSender dial acc sessCfg.localAddr (decide (sessCfg.type = .multiHop))
      (if sessCfg.paddedPduSize > 0 then [.withDFBit] else [])
      { key := sc.sessionKey, sessionConfig := sessCfg }

/-- `reconcileSessions(ctx, cfg, mgr, sf, logger)`: nothing when the
configuration has no sessions; otherwise the loop, then `ReconcileSessions`
with the entries that got a sender. -/
def reconcileSessions (cfg : Config) (sf : UDPSenderFactory Addr) (m : Manager Addr) :
    UDPSenderFactory Addr × Manager Addr :=
  if cfg.sessions = [] then (sf, m)
  else
    let r := cfg.sessions.foldl (reconcileSessionsStep dial ip cfg) ([], sf)
    (r.2, (m.reconcileSessions h ip r.1).2)

/-- One iteration of the loop of `reconcileEchoSessions(ctx, cfg, mgr, sf,
logger)`: echo senders send to port 3785 (RFC 5881 Section 4, RFC 9747). -/
def reconcileEchoSessionsStep (cfg : Config)
    (acc : List (EchoReconcileConfig Addr) × UDPSenderFactory Addr) (ep : Config.EchoPeerConfig) :
    List (EchoReconcileConfig Addr) × UDPSenderFactory Addr :=
  match configEchoToBFD ip ep cfg.echo with
  | .error _ => acc
  | .ok echoCfg =>
    appendIfSender dial acc echoCfg.localAddr false [.withDstPort PortEcho]
      { key := ep.echoSessionKey, echoSessionConfig := echoCfg }

/-- `reconcileEchoSessions(ctx, cfg, mgr, sf, logger)`: nothing when echo
is off or has no peers. -/
def reconcileEchoSessions (cfg : Config) (sf : UDPSenderFactory Addr) (em : EchoManager Addr) :
    UDPSenderFactory Addr × EchoManager Addr :=
  if cfg.echo.enabled = false ∨ cfg.echo.peers = [] then (sf, em)
  else
    let r := cfg.echo.peers.foldl (reconcileEchoSessionsStep dial ip cfg) ([], sf)
    (r.2, (em.reconcileEchoSessions ip r.1).2)

/-- `buildMemberReconcile(...)` with its sender: bound to the member link
(`SO_BINDTODEVICE`) and sending to port 6784 (RFC 7130 Section 2.1); none
when the sender cannot be made. -/
def buildMemberReconcile (peerAddr localAddr : Addr) (member : String)
    (desiredMinTx requiredMinRx : Duration) (detectMult : UInt8) (f : UDPSenderFactory Addr) :
    Option (ReconcileConfig Addr) × UDPSenderFactory Addr :=
  match f.createSenderForSession dial localAddr false [.withDstPort PortMicroBFD, .withBindDevice member] with
  | (.error _, f) => (none, f)
  | (.ok _, f) =>
    (some (GoBFD.buildMemberReconcile ip peerAddr localAddr member desiredMinTx requiredMinRx detectMult), f)

/-- One iteration of the member loop of `buildMemberSessions`. -/
def buildMemberSessionsStep (peerAddr localAddr : Addr) (desiredMinTx requiredMinRx : Duration)
    (detectMult : UInt8) (acc : List (ReconcileConfig Addr) × UDPSenderFactory Addr) (member : String) :
    List (ReconcileConfig Addr) × UDPSenderFactory Addr :=
  match buildMemberReconcile dial ip peerAddr localAddr member desiredMinTx requiredMinRx detectMult acc.2 with
  | (some rc, f) => (acc.1 ++ [rc], f)
  | (none, f) => (acc.1, f)

/-- `buildMemberSessions(cfg, group, sf, logger)`: nothing if the group's
addresses do not parse or its multiplier is out of range; otherwise one
entry per member link that gets a sender. -/
def buildMemberSessions (cfg : Config) (group : Config.MicroBFDGroupConfig) (f : UDPSenderFactory Addr) :
    List (ReconcileConfig Addr) × UDPSenderFactory Addr :=
  match ip.parseAddr group.peerAddr, ip.parseAddr group.localAddr with
  | some peerAddr, some localAddr =>
    if group.detectMult > 255 then ([], f)
    else
      let desiredMinTx :=
        if group.desiredMinTx = 0 then cfg.bfd.defaultDesiredMinTx else group.desiredMinTx
      let requiredMinRx :=
        if group.requiredMinRx = 0 then cfg.bfd.defaultRequiredMinRx else group.requiredMinRx
      let detectMult :=
        if group.detectMult = 0 then cfg.bfd.defaultDetectMultiplier else group.detectMult
      group.memberLinks.foldl
        (buildMemberSessionsStep dial ip peerAddr localAddr desiredMinTx requiredMinRx detectMult.toUInt8) ([], f)
  | _, _ => ([], f)

/-- One iteration of the group loop of `reconcileMicroBFDMemberSessions`. -/
def reconcileMicroBFDMemberSessionsStep (cfg : Config)
    (acc : List (ReconcileConfig Addr) × UDPSenderFactory Addr) (group : Config.MicroBFDGroupConfig) :
    List (ReconcileConfig Addr) × UDPSenderFactory Addr :=
  let sessions := buildMemberSessions dial ip cfg group acc.2
  (acc.1 ++ sessions.1, sessions.2)

/-- `reconcileMicroBFDMemberSessions(ctx, cfg, mgr, sf, logger)`: nothing
when no member gets an entry. -/
def reconcileMicroBFDMemberSessions (cfg : Config) (sf : UDPSenderFactory Addr) (m : Manager Addr) :
    UDPSenderFactory Addr × Manager Addr :=
  let r := cfg.microBFD.groups.foldl (reconcileMicroBFDMemberSessionsStep dial ip cfg) ([], sf)
  if r.1 = [] then (r.2, m) else (r.2, (m.reconcileSessions h ip r.1).2)

/-- `reconcileMicroBFDGroups(ctx, cfg, mgr, sf, logger)`: nothing when the
configuration has no groups. -/
def reconcileMicroBFDGroups (cfg : Config) (sf : UDPSenderFactory Addr) (m : Manager Addr) :
    UDPSenderFactory Addr × Manager Addr :=
  if cfg.microBFD.groups = [] then (sf, m)
  else reconcileMicroBFDMemberSessions dial h ip cfg sf (reconcileMicroBFDGroupState ip cfg m)

/-- `reconcileAllSessions(ctx, cfg, mgr, sf, overlayRuntime, logger)`: the
declarative, echo, micro-BFD and overlay passes, the first three drawing
their senders from the factory. -/
def reconcileAllSessions (cfg : Config) (rt : OverlayRuntime) (sf : UDPSenderFactory Addr)
    (em : EchoManager Addr) : UDPSenderFactory Addr × EchoManager Addr :=
  let r₁ := reconcileSessions dial h ip cfg sf em.manager
  let r₂ := reconcileEchoSessions dial ip cfg r₁.1 { em with manager := r₁.2 }
  let r₃ := reconcileMicroBFDGroups dial h ip cfg r₂.1 r₂.2.manager
  (r₃.1, { r₂.2 with manager := reconcileOverlayTunnels h ip cfg rt r₃.2 })

/-- `reloadConfig(...)` with the configuration the file now decodes to:
keep everything when it does not validate, otherwise the same four
passes. -/
def reloadConfig (newCfg : Config) (rt : OverlayRuntime) (sf : UDPSenderFactory Addr)
    (em : EchoManager Addr) : UDPSenderFactory Addr × EchoManager Addr :=
  match Config.validate ip newCfg with
  | .error _ => (sf, em)
  | .ok () => reconcileAllSessions dial h ip newCfg rt sf em

/-! ## The ports a reload takes -/

/-- The sender the declarative loop asks for an entry: on its local
address, multi-hop for a multi-hop session, with the DF bit when it pads. -/
def declarativeSender (rc : ReconcileConfig Addr) : Addr × Bool × List SenderOption :=
  (rc.sessionConfig.localAddr, decide (rc.sessionConfig.type = .multiHop),
    if rc.sessionConfig.paddedPduSize > 0 then [.withDFBit] else [])

/-- The sender the echo loop asks for an entry. -/
def echoSender (rc : EchoReconcileConfig Addr) : Addr × Bool × List SenderOption :=
  (rc.echoSessionConfig.localAddr, false, [.withDstPort PortEcho])

/-- The sender the member loop asks for an entry, bound to its member link. -/
def memberSender (localAddr : Addr) (rc : ReconcileConfig Addr) : Addr × Bool × List SenderOption :=
  (localAddr, false, [.withDstPort PortMicroBFD, .withBindDevice rc.sessionConfig.interface])

section Requests

variable {sf : UDPSenderFactory Addr}

omit [DecidableEq Addr] in
theorem reconcileSessionsStep_eq (cfg : Config) (acc : List (ReconcileConfig Addr) × UDPSenderFactory Addr)
    (sc : Config.SessionConfig) :
    reconcileSessionsStep dial ip cfg acc sc = (declarativeEntry ip cfg sc).elim acc fun rc =>
      appendIfSender dial acc (declarativeSender rc).1 (declarativeSender rc).2.1 (declarativeSender rc).2.2 rc := by
  unfold reconcileSessionsStep declarativeEntry
  cases configSessionToBFD ip sc cfg.bfd <;> rfl

omit [DecidableEq Addr] in
theorem reconcileEchoSessionsStep_eq (cfg : Config)
    (acc : List (EchoReconcileConfig Addr) × UDPSenderFactory Addr) (ep : Config.EchoPeerConfig) :
    reconcileEchoSessionsStep dial ip cfg acc ep = (echoEntry ip cfg ep).elim acc fun rc =>
      appendIfSender dial acc (echoSender rc).1 (echoSender rc).2.1 (echoSender rc).2.2 rc := by
  unfold reconcileEchoSessionsStep echoEntry
  cases configEchoToBFD ip ep cfg.echo <;> rfl

omit [DecidableEq Addr] in
theorem buildMemberSessionsStep_eq (peerAddr localAddr : Addr) (desiredMinTx requiredMinRx : Duration)
    (detectMult : UInt8) (acc : List (ReconcileConfig Addr) × UDPSenderFactory Addr) (member : String) :
    buildMemberSessionsStep dial ip peerAddr localAddr desiredMinTx requiredMinRx detectMult acc member =
      (some (GoBFD.buildMemberReconcile ip peerAddr localAddr member desiredMinTx requiredMinRx detectMult)).elim
        acc fun rc =>
          appendIfSender dial acc (memberSender localAddr rc).1 (memberSender localAddr rc).2.1
            (memberSender localAddr rc).2.2 rc := by
  have hi : (GoBFD.buildMemberReconcile ip peerAddr localAddr member desiredMinTx requiredMinRx
      detectMult).sessionConfig.interface = member := rfl
  simp only [Option.elim, memberSender, hi]
  unfold buildMemberSessionsStep UDPSenderFactory.buildMemberReconcile appendIfSender
  rcases acc.2.createSenderForSession dial localAddr false [.withDstPort PortMicroBFD, .withBindDevice member]
    with ⟨_ | _, f⟩ <;> rfl

omit [DecidableEq Addr] in
/-- The member loop asks for one sender per member link. -/
theorem foldl_buildMemberSessionsStep_takes (hd : ∀ s, dial s = true) (peerAddr localAddr : Addr)
    (desiredMinTx requiredMinRx : Duration) (detectMult : UInt8) (members : List String) (hv : sf.Valid)
    (hr : sf.HasDraws) :
    Takes sf (members.foldl (buildMemberSessionsStep dial ip peerAddr localAddr desiredMinTx requiredMinRx
      detectMult) ([], sf)).2 members.length := by
  have ht := foldl_takes dial _ _ _ hd
    (buildMemberSessionsStep_eq dial ip peerAddr localAddr desiredMinTx requiredMinRx detectMult) members
    ([], sf) hv hr
  rwa [List.filterMap_eq_map_iff_forall_eq_some.mpr fun _ _ => rfl, List.length_map] at ht

omit [DecidableEq Addr] in
/-- The member loop of one group takes a port per member link when the
group's addresses parse. -/
theorem Valid.takes_buildMemberSessions (hv : sf.Valid) (hd : ∀ s, dial s = true) (hr : sf.HasDraws)
    (cfg : Config) (group : Config.MicroBFDGroupConfig) :
    Takes sf (buildMemberSessions dial ip cfg group sf).2 (GoBFD.buildMemberSessions ip cfg group).length := by
  rcases hp : ip.parseAddr group.peerAddr with _ | peerAddr
  · simp only [UDPSenderFactory.buildMemberSessions, GoBFD.buildMemberSessions, hp, List.length_nil]
    exact Takes.refl hv
  rcases hl : ip.parseAddr group.localAddr with _ | localAddr
  · simp only [UDPSenderFactory.buildMemberSessions, GoBFD.buildMemberSessions, hp, hl, List.length_nil]
    exact Takes.refl hv
  simp only [UDPSenderFactory.buildMemberSessions, GoBFD.buildMemberSessions, hp, hl]
  by_cases hdm : group.detectMult > 255
  · simp only [if_pos hdm, List.length_nil]
    exact Takes.refl hv
  · simp only [if_neg hdm, List.length_map]
    exact foldl_buildMemberSessionsStep_takes dial ip hd peerAddr localAddr _ _ _ group.memberLinks hv hr

omit [DecidableEq Addr] in
theorem foldl_reconcileMicroBFDMemberSessionsStep_takes (hd : ∀ s, dial s = true) (cfg : Config) :
    ∀ (groups : List Config.MicroBFDGroupConfig) (acc : List (ReconcileConfig Addr) × UDPSenderFactory Addr),
      acc.2.Valid → acc.2.HasDraws →
      Takes acc.2 (groups.foldl (reconcileMicroBFDMemberSessionsStep dial ip cfg) acc).2
        (groups.flatMap (GoBFD.buildMemberSessions ip cfg)).length := by
  intro groups
  induction groups with
  | nil =>
    intro acc hv _
    exact Takes.refl hv
  | cons group groups ih =>
    intro acc hv hr
    rw [List.foldl_cons, List.flatMap_cons, List.length_append]
    have h₁ : Takes acc.2 (reconcileMicroBFDMemberSessionsStep dial ip cfg acc group).2
        (GoBFD.buildMemberSessions ip cfg group).length :=
      hv.takes_buildMemberSessions dial ip hd hr cfg group
    exact h₁.trans (ih _ h₁.valid (h₁.hasDraws hv hr)) hv

/-- The member pass leaves the factory its loop leaves, whether or not it
then reconciles. -/
theorem reconcileMicroBFDMemberSessions_fst (cfg : Config) (m : Manager Addr) :
    (reconcileMicroBFDMemberSessions dial h ip cfg sf m).1 =
      (cfg.microBFD.groups.foldl (reconcileMicroBFDMemberSessionsStep dial ip cfg) ([], sf)).2 := by
  unfold UDPSenderFactory.reconcileMicroBFDMemberSessions
  dsimp only
  split_ifs <;> rfl

/-- Each pass takes a port per entry that converts, while the range has
room. -/
theorem Valid.takes_reconcileSessions (hv : sf.Valid) (hd : ∀ s, dial s = true) (hr : sf.HasDraws)
    (cfg : Config) (m : Manager Addr) :
    Takes sf (reconcileSessions dial h ip cfg sf m).1 (desiredDeclarativeSessions ip cfg).length := by
  unfold UDPSenderFactory.reconcileSessions
  rw [desiredDeclarativeSessions_eq]
  split_ifs with hs
  · rw [hs]
    exact Takes.refl hv
  · exact foldl_takes dial _ _ _ hd (reconcileSessionsStep_eq dial ip cfg) cfg.sessions ([], sf) hv hr

omit [DecidableEq Addr] in
theorem Valid.takes_reconcileEchoSessions (hv : sf.Valid) (hd : ∀ s, dial s = true) (hr : sf.HasDraws)
    (cfg : Config) (em : EchoManager Addr) :
    Takes sf (reconcileEchoSessions dial ip cfg sf em).1
      (if cfg.echo.enabled = false ∨ cfg.echo.peers = [] then 0
        else (cfg.echo.peers.filterMap (echoEntry ip cfg)).length) := by
  unfold UDPSenderFactory.reconcileEchoSessions
  split_ifs with he
  · exact Takes.refl hv
  · exact foldl_takes dial _ _ _ hd (reconcileEchoSessionsStep_eq dial ip cfg) cfg.echo.peers ([], sf) hv hr

theorem Valid.takes_reconcileMicroBFDGroups (hv : sf.Valid) (hd : ∀ s, dial s = true) (hr : sf.HasDraws)
    (cfg : Config) (m : Manager Addr) :
    Takes sf (reconcileMicroBFDGroups dial h ip cfg sf m).1
      (cfg.microBFD.groups.flatMap (GoBFD.buildMemberSessions ip cfg)).length := by
  unfold UDPSenderFactory.reconcileMicroBFDGroups
  split_ifs with hg
  · rw [hg]
    exact Takes.refl hv
  · rw [reconcileMicroBFDMemberSessions_fst]
    exact foldl_reconcileMicroBFDMemberSessionsStep_takes dial ip hd cfg cfg.microBFD.groups ([], sf) hv hr

/-- The four passes take `senderRequests` ports while the range has room. -/
theorem Valid.takes_reconcileAllSessions (hv : sf.Valid) (hd : ∀ s, dial s = true) (hr : sf.HasDraws)
    (cfg : Config) (rt : OverlayRuntime) (em : EchoManager Addr) :
    Takes sf (reconcileAllSessions dial h ip cfg rt sf em).1 (senderRequests ip cfg) := by
  have h₁ := hv.takes_reconcileSessions dial h ip hd hr cfg em.manager
  have h₂ := h₁.valid.takes_reconcileEchoSessions dial ip hd (h₁.hasDraws hv hr) cfg
    { em with manager := (reconcileSessions dial h ip cfg sf em.manager).2 }
  have h₁₂ := h₁.trans h₂ hv
  have h₃ := h₁₂.valid.takes_reconcileMicroBFDGroups dial h ip hd (h₁₂.hasDraws hv hr) cfg
    (reconcileEchoSessions dial ip cfg (reconcileSessions dial h ip cfg sf em.manager).1
      { em with manager := (reconcileSessions dial h ip cfg sf em.manager).2 }).2.manager
  exact h₁₂.trans h₃ hv

theorem reloadConfig_of_validate {cfg : Config} (hvalid : Config.validate ip cfg = .ok ())
    (rt : OverlayRuntime) (sf : UDPSenderFactory Addr) (em : EchoManager Addr) :
    reloadConfig dial h ip cfg rt sf em = reconcileAllSessions dial h ip cfg rt sf em := by
  unfold UDPSenderFactory.reloadConfig
  rw [hvalid]

/-- `k` reloads of one configuration take `k` times its requests, up to the
range; the induction is on `k`, one reload at a time. -/
theorem Valid.takes_iterate_reloadConfig (hv : sf.Valid) (hd : ∀ s, dial s = true) (hr : sf.HasDraws)
    {cfg : Config} (hvalid : Config.validate ip cfg = .ok ()) (rt : OverlayRuntime)
    (em : EchoManager Addr) :
    ∀ k, Takes sf ((fun p : UDPSenderFactory Addr × EchoManager Addr => reloadConfig dial h ip cfg rt p.1 p.2)^[k]
      (sf, em)).1 (k * senderRequests ip cfg)
  | 0 => by
    rw [Nat.zero_mul]
    exact Takes.refl hv
  | k + 1 => by
    have ht := hv.takes_iterate_reloadConfig hd hr hvalid rt em k
    rw [Function.iterate_succ_apply', reloadConfig_of_validate dial h ip hvalid, Nat.succ_mul]
    exact ht.trans (ht.valid.takes_reconcileAllSessions dial h ip hd (ht.hasDraws hv hr) cfg rt _) hv

/-- Reloads of an unchanged configuration that validates, with every
socket accepted and `crypto/rand` not failing while ports are free: each
reload asks the factory for a sender per declarative session, echo peer
and micro-BFD member link that converts, and nothing closes them, so after
`k` reloads `min 16384 (c + k * senderRequests)` ports are in use, where
`c` were before, and every port in use before still is. -/
theorem reloads_fill_source_ports {sf : UDPSenderFactory Addr} (hv : sf.Valid) (hd : ∀ s, dial s = true)
    (hr : sf.HasDraws) {cfg : Config} (hvalid : Config.validate ip cfg = .ok ()) (rt : OverlayRuntime)
    (em : EchoManager Addr) (k : Nat) :
    let sf' := ((fun p : UDPSenderFactory Addr × EchoManager Addr => reloadConfig dial h ip cfg rt p.1 p.2)^[k]
      (sf, em)).1
    sf'.Valid ∧ sf'.portAlloc.inUse.card = min 16384 (sf.portAlloc.inUse.card + k * senderRequests ip cfg) ∧
      sf.portAlloc.inUse ⊆ sf'.portAlloc.inUse := by
  intro sf'
  have ht := hv.takes_iterate_reloadConfig dial h ip hd hr hvalid rt em k
  refine ⟨ht.valid, ?_, ht.subset⟩
  rw [ht.card, hv.portAlloc.portSpan]

/-- A new factory whose random source has a draw for every port. -/
def freshFactory : UDPSenderFactory (Option (List UInt8)) := newUDPSenderFactory (List.range 16384)

theorem freshFactory_valid : freshFactory.Valid := newUDPSenderFactory_valid _

theorem freshFactory_hasDraws : freshFactory.HasDraws := by
  simp only [HasDraws, freshFactory, newUDPSenderFactory, List.length_range]
  decide

/-- From a new factory, 16384 reloads of a configuration with one
declarative session leave every port of the range in use. -/
theorem reloads_fill_source_ports_oneSession :
    ((fun p : UDPSenderFactory (Option (List UInt8)) × EchoManager (Option (List UInt8)) =>
      reloadConfig (fun _ => true) lengthDigests ipv4 oneSessionConfig ⟨false, false⟩ p.1 p.2)^[16384]
        (freshFactory, EchoManager.init [7])).1.portAlloc.inUse.card = 16384 := by
  have hvalid : Config.validate ipv4 oneSessionConfig = .ok () := by decide +kernel
  have hn : senderRequests ipv4 oneSessionConfig = 1 := by decide +kernel
  obtain ⟨-, hcard, -⟩ := reloads_fill_source_ports (fun _ => true) lengthDigests ipv4
    freshFactory_valid (fun _ => rfl) freshFactory_hasDraws hvalid ⟨false, false⟩ (EchoManager.init [7])
    16384
  have h0 : freshFactory.portAlloc.inUse.card = 0 := rfl
  rw [hcard, hn, h0]
  simp

/-- With room for every request, the declarative pass keeps every entry
that converts. -/
theorem Valid.reconcileSessions_fst_foldl (hv : sf.Valid) (hd : ∀ s, dial s = true) (hr : sf.HasDraws)
    {cfg : Config}
    (hfree : sf.portAlloc.inUse.card + (desiredDeclarativeSessions ip cfg).length ≤ sf.portAlloc.portSpan) :
    (cfg.sessions.foldl (reconcileSessionsStep dial ip cfg) ([], sf)).1 = desiredDeclarativeSessions ip cfg := by
  rw [desiredDeclarativeSessions_eq] at hfree ⊢
  exact foldl_fst dial _ _ _ hd (reconcileSessionsStep_eq dial ip cfg) cfg.sessions ([], sf) hv hr hfree

/-- The declarative pass with its senders, when the range has room for
every session that converts and every socket is accepted: the manager ends
as the sender-free `reconcileSessions` of `GoBFD.Daemon` leaves it, and the
pass has taken one fresh port per session that converts. -/
theorem declarative_pass_refines_reconcileSessions {sf : UDPSenderFactory Addr} (hv : sf.Valid)
    (hd : ∀ s, dial s = true) (hr : sf.HasDraws) {cfg : Config}
    (hfree : sf.portAlloc.inUse.card + (desiredDeclarativeSessions ip cfg).length ≤ sf.portAlloc.portSpan)
    (m : Manager Addr) :
    (reconcileSessions dial h ip cfg sf m).2 = GoBFD.reconcileSessions h ip cfg m ∧
      (reconcileSessions dial h ip cfg sf m).1.portAlloc.inUse.card =
        sf.portAlloc.inUse.card + (desiredDeclarativeSessions ip cfg).length ∧
      sf.portAlloc.inUse ⊆ (reconcileSessions dial h ip cfg sf m).1.portAlloc.inUse := by
  have ht := hv.takes_reconcileSessions dial h ip hd hr cfg m
  refine ⟨?_, by rw [ht.card]; omega, ht.subset⟩
  unfold UDPSenderFactory.reconcileSessions GoBFD.reconcileSessions
  split_ifs with hs
  · rfl
  · dsimp only
    rw [hv.reconcileSessions_fst_foldl dial ip hd hr hfree]

/-- On a new factory the pass over one declarative session takes one port
and leaves the manager as the sender-free pass does. -/
theorem declarative_pass_refines_reconcileSessions_oneSession :
    (reconcileSessions (fun _ => true) lengthDigests ipv4 oneSessionConfig freshFactory (newManager [7])).2 =
        GoBFD.reconcileSessions lengthDigests ipv4 oneSessionConfig (newManager [7]) ∧
      (reconcileSessions (fun _ => true) lengthDigests ipv4 oneSessionConfig freshFactory
        (newManager [7])).1.portAlloc.inUse.card = 1 := by
  have hn : (desiredDeclarativeSessions ipv4 oneSessionConfig).length = 1 := by decide +kernel
  have hfree : freshFactory.portAlloc.inUse.card + (desiredDeclarativeSessions ipv4 oneSessionConfig).length ≤
      freshFactory.portAlloc.portSpan := by
    rw [hn]
    decide
  obtain ⟨heq, hcard, -⟩ := declarative_pass_refines_reconcileSessions (fun _ => true) lengthDigests ipv4
    freshFactory_valid (fun _ => rfl) freshFactory_hasDraws hfree (newManager [7])
  refine ⟨heq, ?_⟩
  rw [hcard, hn]
  rfl

omit [DecidableEq Addr] in
/-- On a full range the declarative loop gets no sender and keeps nothing. -/
theorem foldl_reconcileSessionsStep_of_le_card {cfg : Config}
    (hfull : sf.portAlloc.portSpan ≤ sf.portAlloc.inUse.card) :
    cfg.sessions.foldl (reconcileSessionsStep dial ip cfg) ([], sf) = ([], sf) :=
  foldl_of_le_card dial _ _ _ (reconcileSessionsStep_eq dial ip cfg) cfg.sessions ([], sf) hfull

/-- Once every source port is in use, which the reloads of
`reloads_fill_source_ports` reach, the declarative pass of a configuration
with sessions gets no sender and changes nothing in the factory, so it hands
`ReconcileSessions` an empty desired set: on any reachable manager whose
sessions have distinct key texts, every session is destroyed, those of the
configuration included. -/
theorem full_port_range_destroys_sessions {sf : UDPSenderFactory Addr}
    (hfull : sf.portAlloc.portSpan ≤ sf.portAlloc.inUse.card) {cfg : Config} (hs : cfg.sessions ≠ [])
    {m : Manager Addr} (hm : m.Reachable h ip)
    (hinj : (m.sessionsByPeer.keys.map (sessionKeyString ip)).Nodup) :
    (reconcileSessions dial h ip cfg sf m).1 = sf ∧
      ∀ d, (reconcileSessions dial h ip cfg sf m).2.sessions.lookup d = none := by
  unfold UDPSenderFactory.reconcileSessions
  rw [if_neg hs, foldl_reconcileSessionsStep_of_le_card dial ip hfull]
  exact ⟨rfl, ((hm.valid h ip).reconcileSessions_nil h ip hinj).2⟩

/-- A factory whose allocator has every port of the range in use. -/
def fullFactory : UDPSenderFactory (Option (List UInt8)) :=
  { portAlloc :=
      { inUse := (Finset.range 16384).image fun n => sourcePortMin + UInt16.ofNat n
        portSpan := 16384 }
    senders := ∅
    rand := [] }

theorem card_fullFactory : fullFactory.portAlloc.inUse.card = 16384 := by
  rw [fullFactory, Finset.card_image_of_injOn, Finset.card_range]
  intro n hn k hk hnk
  have hlt : n < 16384 ∧ k < 16384 := ⟨Finset.mem_range.mp hn, Finset.mem_range.mp hk⟩
  have h' := congrArg UInt16.toNat (add_left_cancel hnk)
  rw [UInt16.toNat_ofNat', UInt16.toNat_ofNat'] at h'
  omega

/-- With every port in use, the pass over the session `onePeerManager`
already runs gets no sender and destroys that session. -/
theorem full_port_range_destroys_sessions_onePeer :
    (reconcileSessions (fun _ => true) lengthDigests ipv4 oneSessionConfig fullFactory onePeerManager).1 =
        fullFactory ∧
      ∀ d, (reconcileSessions (fun _ => true) lengthDigests ipv4 oneSessionConfig fullFactory
        onePeerManager).2.sessions.lookup d = none := by
  have hfull : fullFactory.portAlloc.portSpan ≤ fullFactory.portAlloc.inUse.card := by
    rw [card_fullFactory]
    rfl
  have hm : onePeerManager.Reachable lengthDigests ipv4 := ⟨[7, 8, 9], .single (.createSession _ _)⟩
  exact full_port_range_destroys_sessions (fun _ => true) lengthDigests ipv4 hfull (List.cons_ne_nil _ _) hm
    (by decide +kernel)

end Requests

end Passes

end UDPSenderFactory

end GoBFD
