import GoBFD.Session.Honest

/-!
# GoBFD.Session.Handshake

Two sessions, A and B, joined by a network that may drop, duplicate, delay
and reorder datagrams: the three-way handshake of RFC 5880 Section 6.2, and
its safety.

The network is what the two sessions sent.  A delivery to A takes any
datagram B ever handed its sender, puts what the receive path makes of it
(`recvOne`) on A's receive channel, and may do so for the same datagram
again, in any order, or never.  The demultiplexer of
`internal/bfd/manager_session.go` picks the local session a datagram goes
to; with one session at each end it delivers to that session or drops the
datagram, so here every datagram of B may reach A.  Each side otherwise
takes the steps of `Session.Step` in any interleaving, except that nothing
else puts packets on its receive channel (`Pair.Step`, and
`Pair.Step.sessions` for the steps of each session).

Each side carries a ghost: how many datagrams it had sent when it first
recorded a packet, and that packet.  `Session.Side` is the invariant of one
side against the datagrams of the other, and `handshake_up_safety` reads off
it: whenever A enters Up, its loop has just handled a packet B sent that
says Init or Up; B sent it once it had recorded a packet, one that A sent;
and A's remote discriminator is then B's local one.
-/

namespace GoBFD

variable {Addr : Type}

/-! ## The pair -/

/-- Two sessions and the ghost of each: its datagram count and the packet,
when it first recorded one. -/
structure Pair (Addr : Type) where
  a : Session Addr
  b : Session Addr
  firstA : Option (Nat × RecvItem)
  firstB : Option (Nat × RecvItem)

/-- The ghost after a step of one side from `s` to `s'`: set by the step
that records the first packet, which is the head of the receive channel. -/
def Session.noteFirst (s s' : Session Addr) (first : Option (Nat × RecvItem)) :
    Option (Nat × RecvItem) :=
  if s.lastPacketRecv = false ∧ s'.lastPacketRecv = true then
    s.recvCh.head?.map fun item => (s.sent.length, item)
  else first

/-- The ghost stays once a packet is recorded. -/
theorem Session.noteFirst_of_heard {s s' : Session Addr} {first : Option (Nat × RecvItem)}
    (h₀ : s.lastPacketRecv = true) : s.noteFirst s' first = first := by
  rw [Session.noteFirst, if_neg fun hc => Bool.false_ne_true (hc.1.symm.trans h₀)]

/-- So does it while nothing is recorded. -/
theorem Session.noteFirst_of_unheard {s s' : Session Addr} {first : Option (Nat × RecvItem)}
    (h₁ : s'.lastPacketRecv = false) : s.noteFirst s' first = first := by
  rw [Session.noteFirst, if_neg fun hc => Bool.false_ne_true (h₁.symm.trans hc.2)]

/-- One step of the pair. -/
inductive Pair.Step (h : Digests) : Pair Addr → Pair Addr → Prop
  /-- The network hands A a datagram B sent. -/
  | deliverA {P : Pair Addr} {d : List UInt8} {item : RecvItem} (hd : d ∈ P.b.sent)
      (hr : recvOne d = some item) : Pair.Step h P { P with a := P.a.recvPacket item }
  /-- The network hands B a datagram A sent. -/
  | deliverB {P : Pair Addr} {d : List UInt8} {item : RecvItem} (hd : d ∈ P.a.sent)
      (hr : recvOne d = some item) : Pair.Step h P { P with b := P.b.recvPacket item }
  /-- A step of A's goroutine, or of a call into A other than a delivery. -/
  | stepA {P : Pair Addr} {a' : Session Addr} (hs : Session.Step h P.a a')
      (hq : ∀ item ∈ a'.recvCh, item ∈ P.a.recvCh) :
      Pair.Step h P { P with a := a', firstA := P.a.noteFirst a' P.firstA }
  /-- A step of B's goroutine, or of a call into B other than a delivery. -/
  | stepB {P : Pair Addr} {b' : Session Addr} (hs : Session.Step h P.b b')
      (hq : ∀ item ∈ b'.recvCh, item ∈ P.b.recvCh) :
      Pair.Step h P { P with b := b', firstB := P.b.noteFirst b' P.firstB }

/-- The pairs of every run from two sessions `NewSession` returned. -/
def Pair.Reachable (h : Digests) (P : Pair Addr) : Prop :=
  ∃ (cfgA cfgB : SessionConfig Addr) (discrA discrB : UInt32) (notifyA notifyB : Bool)
    (seedA seedB : UInt32) (a₀ b₀ : Session Addr),
    newSession h cfgA discrA notifyA seedA = .ok a₀ ∧ newSession h cfgB discrB notifyB seedB = .ok b₀ ∧
      Relation.ReflTransGen (Pair.Step h) ⟨a₀, b₀, none, none⟩ P

/-! ## The steps of each session -/

section Sessions

variable (h : Digests) {P P' : Pair Addr}

/-- Each step of the pair is a step of one session, the other standing
still. -/
theorem Pair.Step.sessions (hstep : Pair.Step h P P') :
    (P'.a = P.a ∨ Session.Step h P.a P'.a) ∧ (P'.b = P.b ∨ Session.Step h P.b P'.b) := by
  cases hstep with
  | deliverA hd hr => exact ⟨.inr (.recvPacket _ ⟨_, recvOne_unmarshal hr⟩), .inl rfl⟩
  | deliverB hd hr => exact ⟨.inl rfl, .inr (.recvPacket _ ⟨_, recvOne_unmarshal hr⟩)⟩
  | stepA hs hq => exact ⟨.inr hs, .inl rfl⟩
  | stepB hs hq => exact ⟨.inl rfl, .inr hs⟩

/-- So each session of a reachable pair is a reachable session. -/
theorem Pair.Reachable.sessions (hr : Pair.Reachable h P) :
    (∃ cfg, Session.Reachable h cfg P.a) ∧ (∃ cfg, Session.Reachable h cfg P.b) := by
  obtain ⟨cfgA, cfgB, discrA, discrB, notifyA, notifyB, seedA, seedB, a₀, b₀, ha, hb, hrun⟩ := hr
  induction hrun with
  | refl =>
    exact ⟨⟨cfgA, discrA, notifyA, seedA, a₀, ha, .refl⟩, ⟨cfgB, discrB, notifyB, seedB, b₀, hb, .refl⟩⟩
  | tail _ hstep ih =>
    obtain ⟨⟨c₁, d₁, n₁, s₁, x₁, h₁, r₁⟩, ⟨c₂, d₂, n₂, s₂, x₂, h₂, r₂⟩⟩ := ih
    obtain ⟨hA, hB⟩ := hstep.sessions h
    refine ⟨⟨c₁, d₁, n₁, s₁, x₁, h₁, ?_⟩, ⟨c₂, d₂, n₂, s₂, x₂, h₂, ?_⟩⟩
    · rcases hA with he | hs
      · exact he ▸ r₁
      · exact r₁.tail hs
    · rcases hB with he | hs
      · exact he ▸ r₂
      · exact r₂.tail hs

end Sessions

/-! ## One side against the other -/

/-- The invariant of one session `s` against the datagrams `peerSent` of
the other, with its ghost `first`: `s` is honest; its receive channel holds
only what the receive path made of the peer's datagrams; the ghost is set
once `s` recorded a packet, to a packet of the peer and a count of `s`'s
datagrams so far; and each datagram of `s` carries its discriminator and, if
it says Init or Up, was sent after that first record. -/
structure Session.Side (s : Session Addr) (peerSent : List (List UInt8))
    (first : Option (Nat × RecvItem)) : Prop where
  honest : s.Honest
  recvCh : ∀ item ∈ s.recvCh, ∃ d ∈ peerSent, recvOne d = some item
  first_isSome : first.isSome = s.lastPacketRecv
  first_some : ∀ k item, first = some (k, item) →
    k ≤ s.sent.length ∧ ∃ d ∈ peerSent, recvOne d = some item
  sent : ∀ i d item, s.sent[i]? = some d → recvOne d = some item →
    item.pkt.myDiscriminator = s.localDiscr ∧
      (item.pkt.state = .init ∨ item.pkt.state = .up → ∃ k it, first = some (k, it) ∧ k ≤ i)

section Side

variable (h : Digests) {s s' : Session Addr} {peerSent : List (List UInt8)}
  {first : Option (Nat × RecvItem)}

/-- `NewSession` queues nothing, sends nothing and records nothing. -/
theorem newSession_fresh {cfg : SessionConfig Addr} {localDiscr : UInt32} {notify : Bool}
    {seed : UInt32} (hn : newSession h cfg localDiscr notify seed = .ok s) :
    s.recvCh = [] ∧ s.sent = [] ∧ s.lastPacketRecv = false := by
  unfold newSession at hn
  split at hn
  · cases hn
  · dsimp only at hn
    split at hn
    · rename_i s₀ hb
      cases hn
      obtain ⟨au, c, rfl⟩ := Session.rebuildCachedPacket_shape h hb
      exact ⟨rfl, rfl, rfl⟩
    · cases hn

/-- A session `NewSession` returned, before either side sent anything. -/
theorem newSession_side {cfg : SessionConfig Addr} {localDiscr : UInt32} {notify : Bool} {seed : UInt32}
    (hn : newSession h cfg localDiscr notify seed = .ok s) : s.Side [] none := by
  have hs := newSession_honest h hn
  have hs₀ := newSession_fresh h hn
  refine ⟨hs, ?_, hs₀.2.2.symm, (fun _ _ hf => nomatch hf), ?_⟩
  · intro item hi
    rw [hs₀.1] at hi
    cases hi
  · intro i d item hd
    rw [hs₀.2.1] at hd
    cases hd

/-- A ghost that is set marks a recorded packet. -/
theorem Session.Side.heard_of_first (hside : s.Side peerSent first) {p : Nat × RecvItem}
    (hf : first = some p) : s.lastPacketRecv = true := by
  have hs := hside.first_isSome
  rw [hf] at hs
  exact hs.symm

/-- The peer sending more keeps the invariant. -/
theorem Session.Side.peer (hside : s.Side peerSent first) {more : List (List UInt8)} :
    s.Side (peerSent ++ more) first := by
  have hmem : ∀ d, d ∈ peerSent → d ∈ peerSent ++ more := fun d hd => List.mem_append_left _ hd
  refine { hside with recvCh := ?_, first_some := ?_ }
  · intro item hi
    obtain ⟨d, hd, hr⟩ := hside.recvCh item hi
    exact ⟨d, hmem d hd, hr⟩
  · intro k item hf
    obtain ⟨hk, d, hd, hr⟩ := hside.first_some k item hf
    exact ⟨hk, d, hmem d hd, hr⟩

/-- A delivery of one of the peer's datagrams keeps the invariant. -/
theorem Session.Side.recvPacket (hside : s.Side peerSent first) {d : List UInt8} {item : RecvItem}
    (hd : d ∈ peerSent) (hr : recvOne d = some item) : (s.recvPacket item).Side peerSent first := by
  unfold Session.recvPacket
  split
  · refine { hside with honest := { hside.honest with }, recvCh := ?_ }
    intro it hit
    rcases List.mem_append.mp hit with hit | hit
    · exact hside.recvCh it hit
    · rw [List.mem_singleton] at hit
      subst hit
      exact ⟨d, hd, hr⟩
  · exact hside

/-- After a step of `s` that records its first packet, the ghost is that
packet, queued from the peer, and the count of datagrams before the step. -/
theorem Session.Side.noteFirst_recorded (hside : s.Side peerSent first) (hstep : Session.Step h s s')
    (h₀ : s.lastPacketRecv = false) (h₁ : s'.lastPacketRecv = true) :
    ∃ item, s.noteFirst s' first = some (s.sent.length, item) ∧ ∃ d ∈ peerSent, recvOne d = some item := by
  obtain ⟨item, rest, hq⟩ := hstep.recorded h h₀ h₁
  refine ⟨item, ?_, hside.recvCh item (hq ▸ List.mem_cons_self)⟩
  rw [Session.noteFirst, if_pos ⟨h₀, h₁⟩, hq]
  rfl

/-- The ghost once `s'` has recorded a packet: a packet of the peer, and a
count no larger than `s`'s datagrams before the step. -/
theorem Session.Side.noteFirst_some (hside : s.Side peerSent first) (hstep : Session.Step h s s')
    (h₁ : s'.lastPacketRecv = true) :
    ∃ k it, s.noteFirst s' first = some (k, it) ∧ k ≤ s.sent.length ∧
      ∃ d ∈ peerSent, recvOne d = some it := by
  cases h₀ : s.lastPacketRecv with
  | false =>
    obtain ⟨item, hf, hpeer⟩ := hside.noteFirst_recorded h hstep h₀ h₁
    exact ⟨_, item, hf, le_refl _, hpeer⟩
  | true =>
    -- recorded before: the ghost stays
    rw [Session.noteFirst_of_heard h₀]
    cases hfirst : first with
    | none =>
      have hs := hside.first_isSome
      rw [hfirst, h₀] at hs
      cases hs
    | some p =>
      obtain ⟨k, it⟩ := p
      obtain ⟨hk, hpeer⟩ := hside.first_some k it hfirst
      exact ⟨k, it, rfl, hk, hpeer⟩

/-- Where the ghost after a step is set: to a packet of the peer, with a
count no larger than `s`'s datagrams before the step, and `s'` has recorded
a packet. -/
theorem Session.Side.noteFirst_eq_some (hside : s.Side peerSent first) (hstep : Session.Step h s s')
    {k : Nat} {it : RecvItem} (hf : s.noteFirst s' first = some (k, it)) :
    k ≤ s.sent.length ∧ (∃ d ∈ peerSent, recvOne d = some it) ∧ s'.lastPacketRecv = true := by
  cases h₁ : s'.lastPacketRecv with
  | true =>
    obtain ⟨k', it', hf', hk, hpeer⟩ := hside.noteFirst_some h hstep h₁
    rw [hf'] at hf
    cases hf
    exact ⟨hk, hpeer, rfl⟩
  | false =>
    -- nothing recorded after the step, so nothing before it either
    rw [Session.noteFirst_of_unheard h₁] at hf
    have hk := hside.honest.step h hstep
    exact absurd (h₁.symm.trans (hk.heard (hside.heard_of_first hf))) nofun

/-- A step of `s` itself keeps the invariant, with the ghost updated. -/
theorem Session.Side.step (hside : s.Side peerSent first) (hstep : Session.Step h s s')
    (hq : ∀ item ∈ s'.recvCh, item ∈ s.recvCh) : s'.Side peerSent (s.noteFirst s' first) := by
  have hk := hside.honest.step h hstep
  obtain ⟨ds, hsent, hds⟩ := hk.sent
  refine ⟨hk.honest, fun item hi => hside.recvCh item (hq item hi), ?_, ?_, ?_⟩
  · -- the ghost is set exactly when a packet is recorded
    cases h₀ : s.lastPacketRecv with
    | true => rw [Session.noteFirst_of_heard h₀, hside.first_isSome, h₀, hk.heard h₀]
    | false =>
      cases h₁ : s'.lastPacketRecv with
      | true =>
        obtain ⟨item, hf, -⟩ := hside.noteFirst_recorded h hstep h₀ h₁
        rw [hf]
        rfl
      | false => rw [Session.noteFirst_of_unheard h₁, hside.first_isSome, h₀]
  · intro k it hf
    obtain ⟨hk', hpeer, -⟩ := hside.noteFirst_eq_some h hstep hf
    refine ⟨hk'.trans ?_, hpeer⟩
    rw [hsent, List.length_append]
    exact Nat.le_add_right _ _
  · intro i d item hd hr
    rcases Nat.lt_or_ge i s.sent.length with hi | hi
    · -- a datagram sent before the step
      rw [hsent, List.getElem?_append_left hi] at hd
      obtain ⟨hmy, hst⟩ := hside.sent i d item hd hr
      refine ⟨hmy.trans hk.localDiscr.symm, fun hiu => ?_⟩
      obtain ⟨k, it, hf, hki⟩ := hst hiu
      exact ⟨k, it, (Session.noteFirst_of_heard (hside.heard_of_first hf)).trans hf, hki⟩
    · -- a datagram of this step speaks for `s'`
      rw [hsent, List.getElem?_append_right hi] at hd
      obtain ⟨hmy, hst⟩ := hds d (List.mem_of_getElem? hd) item hr
      refine ⟨hmy, fun hiu => ?_⟩
      obtain ⟨k, it, hf, hk', -⟩ := hside.noteFirst_some h hstep (hst hiu)
      exact ⟨k, it, hf, hk'.trans hi⟩

end Side

/-! ## Runs of the pair -/

section Runs

variable (h : Digests) {P P' : Pair Addr}

@[simp] theorem Session.sent_recvPacket (s : Session Addr) (item : RecvItem) :
    (s.recvPacket item).sent = s.sent := by
  unfold Session.recvPacket
  split <;> rfl

@[simp] theorem Session.cachedState_recvPacket (s : Session Addr) (item : RecvItem) :
    (s.recvPacket item).cachedState = s.cachedState := by
  unfold Session.recvPacket
  split <;> rfl

/-- Each side against the datagrams of the other. -/
def Pair.Inv (P : Pair Addr) : Prop :=
  P.a.Side P.b.sent P.firstA ∧ P.b.Side P.a.sent P.firstB

/-- A step of one side: it keeps its own invariant, and the other side's
against what it sent. -/
theorem Session.Side.step_peer {s s' t : Session Addr} {fs ft : Option (Nat × RecvItem)}
    (hs : s.Side t.sent fs) (ht : t.Side s.sent ft) (hstep : Session.Step h s s')
    (hq : ∀ item ∈ s'.recvCh, item ∈ s.recvCh) :
    s'.Side t.sent (s.noteFirst s' fs) ∧ t.Side s'.sent ft := by
  obtain ⟨ds, hsent, -⟩ := (hs.honest.step h hstep).sent
  refine ⟨hs.step h hstep hq, ?_⟩
  rw [hsent]
  exact ht.peer

/-- Every step of the pair keeps the invariant. -/
theorem Pair.Inv.step (hinv : P.Inv) (hstep : Pair.Step h P P') : P'.Inv := by
  obtain ⟨hA, hB⟩ := hinv
  cases hstep with
  | deliverA hd hr =>
    refine ⟨hA.recvPacket hd hr, ?_⟩
    show P.b.Side (P.a.recvPacket _).sent P.firstB
    rw [Session.sent_recvPacket]
    exact hB
  | deliverB hd hr =>
    refine ⟨?_, hB.recvPacket hd hr⟩
    show P.a.Side (P.b.recvPacket _).sent P.firstA
    rw [Session.sent_recvPacket]
    exact hA
  | stepA hs hq => exact hA.step_peer h hB hs hq
  | stepB hs hq =>
    obtain ⟨hB', hA'⟩ := hB.step_peer h hA hs hq
    exact ⟨hA', hB'⟩

/-- Every reachable pair is in the invariant. -/
theorem Pair.Reachable.inv (hr : Pair.Reachable h P) : P.Inv := by
  obtain ⟨cfgA, cfgB, discrA, discrB, notifyA, notifyB, seedA, seedB, a₀, b₀, ha, hb, hrun⟩ := hr
  induction hrun with
  | refl =>
    -- neither side has sent anything yet
    have hA := newSession_side h ha
    have hB := newSession_side h hb
    rw [← (newSession_fresh h hb).2.1] at hA
    rw [← (newSession_fresh h ha).2.1] at hB
    exact ⟨hA, hB⟩
  | tail _ hstep ih => exact ih.step h hstep

end Runs

/-- RFC 5880 Section 6.2, the three-way handshake, over a network that
drops, duplicates, delays and reorders datagrams, and any interleaving of
both sessions' steps: whenever A enters Up, its loop has just handled a
packet that B sent (B's `i`-th datagram), which says Init or Up; B had sent
`k ≤ i` datagrams when it first recorded a packet, one that A sent; and A's
remote discriminator is then B's local discriminator. -/
theorem handshake_up_safety (h : Digests) {P P' : Pair Addr} (hr : Pair.Reachable h P)
    (hstep : Pair.Step h P P') (hdown : P.a.cachedState ≠ .up) (hup : P'.a.cachedState = .up) :
    ∃ item rest i d, P.a.recvCh = item :: rest ∧
      ({ P.a with recvCh := rest } : Session Addr).handleRecvPacket h item = some P'.a ∧
      P.b.sent[i]? = some d ∧ recvOne d = some item ∧ (item.pkt.state = .init ∨ item.pkt.state = .up) ∧
      (∃ k itemB dA, P.firstB = some (k, itemB) ∧ k ≤ i ∧ dA ∈ P.a.sent ∧ recvOne dA = some itemB) ∧
      P'.a.remoteDiscr = P'.b.localDiscr := by
  obtain ⟨hA, hB⟩ := hr.inv h
  cases hstep with
  | deliverA hd hr' =>
    rw [Session.cachedState_recvPacket] at hup
    exact absurd hup hdown
  | deliverB hd hr' => exact absurd hup hdown
  | stepB hs hq => exact absurd hup hdown
  | stepA hs hq =>
    -- A's loop handled the head of its channel, which came from B
    obtain ⟨item, rest, hq', hx, hstate, hrd⟩ := hA.honest.step_up h hs hdown hup
    obtain ⟨d, hd, hrd'⟩ := hA.recvCh item (hq' ▸ List.mem_cons_self)
    obtain ⟨i, hi⟩ := List.mem_iff_getElem?.mp hd
    -- B's datagram carries B's discriminator, and says Init or Up only after B's first record
    obtain ⟨hmy, hst⟩ := hB.sent i d item hi hrd'
    obtain ⟨k, itemB, hf, hki⟩ := hst hstate
    obtain ⟨-, dA, hdA, hrA⟩ := hB.first_some k itemB hf
    exact ⟨item, rest, i, d, hq', hx, hi, hrd', hstate, ⟨k, itemB, dA, hf, hki, hdA, hrA⟩,
      hrd.trans hmy⟩

/-- Two sessions of `plainConfig` with discriminators 1 and 2: A sends
Down, B moves to Init and answers, and A's loop takes B's Init into Up. -/
theorem handshake_up_safety_plainConfig :
    ∃ P P' : Pair Unit, Pair.Reachable lengthDigests P ∧ Pair.Step lengthDigests P P' ∧
      P.a.cachedState ≠ .up ∧ P'.a.cachedState = .up ∧
      ∃ item rest i d, P.a.recvCh = item :: rest ∧
        ({ P.a with recvCh := rest } : Session Unit).handleRecvPacket lengthDigests item = some P'.a ∧
        P.b.sent[i]? = some d ∧ recvOne d = some item ∧ (item.pkt.state = .init ∨ item.pkt.state = .up) ∧
        (∃ k itemB dA, P.firstB = some (k, itemB) ∧ k ≤ i ∧ dA ∈ P.a.sent ∧ recvOne dA = some itemB) ∧
        P'.a.remoteDiscr = P'.b.localDiscr :=
  have hr : Pair.Reachable lengthDigests _ :=
    ⟨plainConfig, plainConfig, 1, 2, false, false, 0, 0, _, _, rfl, rfl,
      .tail (.tail (.tail (.tail (.tail (.tail .refl
        (Pair.Step.stepA (Session.Step.run rfl) (fun _ h => h)))
        (Pair.Step.stepB (Session.Step.run rfl) (fun _ h => h)))
        (Pair.Step.stepA (Session.Step.txTimer rfl rfl) (fun _ h => h)))
        (Pair.Step.deliverB List.mem_cons_self rfl))
        (Pair.Step.stepB (Session.Step.recv rfl rfl rfl) (fun _ h => List.mem_cons_of_mem _ h)))
        (Pair.Step.deliverA List.mem_cons_self rfl)⟩
  have hstep : Pair.Step lengthDigests _ _ :=
    Pair.Step.stepA (Session.Step.recv rfl rfl rfl) (fun _ h => List.mem_cons_of_mem _ h)
  ⟨_, _, hr, hstep, by decide, rfl, handshake_up_safety lengthDigests hr hstep (by decide) rfl⟩

end GoBFD
