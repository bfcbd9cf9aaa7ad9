import GoBFD.Session.Invariant
import GoBFD.Auth.Spec

/-!
# GoBFD.Session.Honest

What a session's datagrams say about it, whatever its key store.
`sendControl` sends a prefix of the cached buffer, and a receiver reads the
state and the discriminator from the first 24 bytes of what it accepts.
`HeaderSays` is the invariant on that header: once its Length byte reaches
24 (below that no receiver accepts it), it carries the session's
discriminator, and it says Init or Up only after the session recorded a
packet (`lastPacketRecv`).

`rebuildCachedPacket` writes the header of the packet built from the
session, or of the packet `Sign` returned, or, when signing or marshalling
fails, leaves the buffer as it was; the RFC 9764 padding clears bytes from
the Length byte on, which keeps the header or leaves a Length byte below 24
(`HeaderSays.clear`).  So every datagram speaks for its session
(`Session.Speaks`, `Session.Honest.step`).

With the two copies of the state moving together, a session enters Up only
on a received packet that says Init or Up, and keeps that packet's
discriminator as its remote one (`Session.Honest.step_up`).
-/

namespace GoBFD

variable {Addr : Type}

/-! ## Headers and what the receive path reads -/

/-- A buffer's header, once its Length byte reaches 24, carries the
discriminator `discr`, and says Init or Up only if `heard`. -/
def HeaderSays (b : List UInt8) (discr : UInt32) (heard : Bool) : Prop :=
  24 ≤ (b.getD 3 0).toNat →
    (headerOf b).myDiscriminator = discr ∧
      ((headerOf b).state = .init ∨ (headerOf b).state = .up → heard = true)

theorem getD_take_of_lt {b : List UInt8} {n i : Nat} (h : i < n) : (b.take n).getD i 0 = b.getD i 0 := by
  simp only [List.getD_eq_getElem?_getD, List.getElem?_take_of_lt h]

/-- The packet `recvOne` hands on is the decoding of the first
`MaxPacketSize` bytes. -/
theorem recvOne_unmarshal {d : List UInt8} {item : RecvItem} (hr : recvOne d = some item) :
    unmarshalControlPacket (d.take MaxPacketSize) = .ok item.pkt := by
  unfold recvOne at hr
  dsimp only at hr
  split at hr
  · rename_i pkt hpkt
    split at hr
    · -- a packet with an auth section is decoded again from the same bytes
      split at hr
      · rename_i pkt' hpkt'
        cases hr
        injection hpkt' with hp
        subst hp
        exact hpkt
      · cases hr
    · cases hr
      exact hpkt
  · cases hr

/-- What the receive path accepts has at least 24 bytes and a Length byte
of at least 24, and its packet has the state and the discriminator of the
header. -/
theorem recvOne_header {d : List UInt8} {item : RecvItem} (hr : recvOne d = some item) :
    24 ≤ d.length ∧ 24 ≤ (d.getD 3 0).toNat ∧ item.pkt.state = (headerOf d).state ∧
      item.pkt.myDiscriminator = (headerOf d).myDiscriminator := by
  obtain ⟨hP, hpkt⟩ := (unmarshalControlPacket_decides _).eq_ok_iff.mp (recvOne_unmarshal hr)
  have h64 : MaxPacketSize = 64 := rfl
  have hlen : 24 ≤ (d.take MaxPacketSize).length := hP.1
  have h3 := hP.2.2.1
  rw [getD_take_of_lt (b := d) (n := MaxPacketSize) (i := 3) (by rw [h64]; omega)] at h3
  have hhead : headerOf (d.take MaxPacketSize) = headerOf d := headerOf_take (by rw [h64]; decide)
  refine ⟨by simp only [List.length_take] at hlen; omega, by split_ifs at h3 <;> omega, ?_, ?_⟩
  · rw [hpkt, ← hhead]
    rfl
  · rw [hpkt, ← hhead]
    rfl

/-- A datagram cut from a buffer whose header says what `HeaderSays` asks:
what the receive path reads from it carries `discr`, and Init or Up only if
`heard`. -/
theorem HeaderSays.recvOne {b : List UInt8} {discr : UInt32} {heard : Bool}
    (hb : HeaderSays b discr heard) {n : Nat} {item : RecvItem} (hr : recvOne (b.take n) = some item) :
    item.pkt.myDiscriminator = discr ∧ (item.pkt.state = .init ∨ item.pkt.state = .up → heard = true) := by
  obtain ⟨hlen, h3, hstate, hmy⟩ := recvOne_header hr
  have hn : HeaderSize ≤ n := by
    have : 24 ≤ n := by simp only [List.length_take] at hlen; omega
    exact this
  rw [headerOf_take hn] at hstate hmy
  rw [getD_take_of_lt (by have : HeaderSize = 24 := rfl; omega)] at h3
  obtain ⟨hd, hs⟩ := hb h3
  exact ⟨hmy.trans hd, fun hiu => hs (hstate ▸ hiu)⟩

/-- A recorded packet only widens what a header may say. -/
theorem HeaderSays.heard {b : List UInt8} {discr : UInt32} {heard : Bool}
    (hb : HeaderSays b discr heard) : HeaderSays b discr true :=
  fun h3 => ⟨(hb h3).1, fun _ => rfl⟩

/-- The header of a packet with discriminator `discr`, which says Init or
Up only if `heard`. -/
theorem HeaderSays.of_take {b : List UInt8} {q : ControlPacket} {discr : UInt32} {heard : Bool}
    (hq : b.take HeaderSize = q.headerWire) (hmy : q.myDiscriminator = discr)
    (hs : q.state = .init ∨ q.state = .up → heard = true) : HeaderSays b discr heard := by
  obtain ⟨hstate, hmy'⟩ := headerOf_of_take_headerWire hq
  exact fun _ => ⟨hmy'.trans hmy, fun hiu => hs (hstate ▸ hiu)⟩

/-- RFC 9764 padding clears the bytes from the Length byte on: a header
before the window is kept, and a Length byte below 24 stays below. -/
theorem HeaderSays.clear {b b' : List UInt8} {discr : UInt32} {heard : Bool} {hi : Nat}
    (hb : HeaderSays b discr heard)
    (hw : (Go.within b (b.getD 3 0).toNat hi (fun w => pure (List.replicate w.length 0)) :
      Go.Result Empty (List UInt8)) = .ok b') :
    HeaderSays b' discr heard := by
  obtain ⟨h₁, h₂⟩ := Go.within_bounds hw
  rcases Nat.lt_or_ge (b.getD 3 0).toNat 24 with hlt | hge
  · intro h3
    exfalso
    rw [Go.within_clear 0 h₁ h₂] at hw
    injection hw with hw
    subst hw
    rw [Go.getD_overwrite (by simp only [List.length_replicate]; omega)] at h3
    split_ifs at h3
    · -- a cleared byte
      simp at h3
    · omega
  · -- the header lies before the window
    have ht : b'.take 24 = b.take 24 := Go.take_of_within hw hge
    have hhead : headerOf b' = headerOf b := by
      rw [← headerOf_take (le_refl _), ← headerOf_take (b := b) (le_refl _)]
      exact congrArg headerOf ht
    have h3 : b'.getD 3 0 = b.getD 3 0 := by
      rw [← getD_take_of_lt (n := 24) (by omega), ht, getD_take_of_lt (by omega)]
    intro h3'
    rw [hhead]
    exact hb (h3 ▸ h3')

/-! ## The session's invariant -/

/-- A session whose cached header says what `HeaderSays` asks, which is in
Init or Up (in either copy of the state) only after recording a packet,
whose two copies agree unless `SetAdminDown` stored AdminDown in the atomic
one alone, and with no Poll Sequence active. -/
structure Session.Honest (s : Session Addr) : Prop where
  header : HeaderSays s.cachedPacket s.localDiscr s.lastPacketRecv
  heardState : s.state = .init ∨ s.state = .up → s.lastPacketRecv = true
  heardCached : s.cachedState = .init ∨ s.cachedState = .up → s.lastPacketRecv = true
  copies : s.state = s.cachedState ∨ s.state = .adminDown
  pollActive : s.pollActive = false

/-- What the receive path reads from `d` carries `s`'s discriminator, and
says Init or Up only once `s` has recorded a packet. -/
def Session.Speaks (s : Session Addr) (d : List UInt8) : Prop :=
  ∀ item, recvOne d = some item → item.pkt.myDiscriminator = s.localDiscr ∧
    (item.pkt.state = .init ∨ item.pkt.state = .up → s.lastPacketRecv = true)

/-- `s'` follows `s` and is honest: the same discriminator, a recorded packet
stays recorded, and every datagram sent in between speaks for `s'`. -/
structure Session.Keeps (s s' : Session Addr) : Prop where
  honest : s'.Honest
  localDiscr : s'.localDiscr = s.localDiscr
  heard : s.lastPacketRecv = true → s'.lastPacketRecv = true
  sent : ∃ ds, s'.sent = s.sent ++ ds ∧ ∀ d ∈ ds, s'.Speaks d

section Keeps

variable (h : Digests) {s s' s₁ s₂ s₃ : Session Addr}

theorem Session.Speaks.mono {d : List UInt8} (hd : s.Speaks d) (hl : s'.localDiscr = s.localDiscr)
    (hh : s.lastPacketRecv = true → s'.lastPacketRecv = true) : s'.Speaks d := by
  intro item hr
  obtain ⟨hmy, hs⟩ := hd item hr
  exact ⟨hmy.trans hl.symm, fun hiu => hh (hs hiu)⟩

theorem Session.Keeps.trans (h₁ : s₁.Keeps s₂) (h₂ : s₂.Keeps s₃) : s₁.Keeps s₃ := by
  obtain ⟨ds₁, hs₁, hd₁⟩ := h₁.sent
  obtain ⟨ds₂, hs₂, hd₂⟩ := h₂.sent
  refine ⟨h₂.honest, h₂.localDiscr.trans h₁.localDiscr, fun hh => h₂.heard (h₁.heard hh),
    ds₁ ++ ds₂, by rw [hs₂, hs₁, List.append_assoc], ?_⟩
  intro d hd
  rcases List.mem_append.mp hd with hd | hd
  · exact (hd₁ d hd).mono h₂.localDiscr h₂.heard
  · exact hd₂ d hd

/-- A write that sends nothing and keeps the discriminator and the record. -/
theorem Session.Keeps.quiet (s : Session Addr) (hs : s'.Honest) (hl : s'.localDiscr = s.localDiscr)
    (hh : s'.lastPacketRecv = s.lastPacketRecv) (hsent : s'.sent = s.sent) : s.Keeps s' :=
  ⟨hs, hl, fun h₀ => hh.trans h₀, [], by rw [hsent, List.append_nil], fun _ hd => nomatch hd⟩

/-- An honest session stays honest when it does nothing. -/
theorem Session.Honest.keeps (hs : s.Honest) : s.Keeps s := .quiet s hs rfl rfl rfl

/-! ## The transmit path -/

/-- `rebuildCachedPacket` leaves the buffer as it was, or writes in front of
it the header of a packet with the session's state and discriminator. -/
theorem Session.rebuildCachedPacket_header (hr : s.rebuildCachedPacket h = some s') :
    s'.cachedPacket = s.cachedPacket ∨
      ∃ q : ControlPacket, q.state = s.cachedState ∧ q.myDiscriminator = s.localDiscr ∧
        s'.cachedPacket.take HeaderSize = q.headerWire := by
  unfold Session.rebuildCachedPacket Session.signCachedPacket at hr
  dsimp only at hr
  split at hr
  · -- `Sign` into the buffer, then marshal the signed packet again
    rename_i a ha
    generalize hsign : Authenticator.sign h a.auth a.state a.keys s.buildControlPacket.1
      s.buildControlPacket.2.cachedPacket = r at hr
    obtain ⟨st, signed⟩ := r
    dsimp only at hr
    split at hr
    · cases hr
      exact .inl rfl
    · cases hr
    · rename_i pkt buf
      obtain ⟨hst, hmy, hbuf⟩ := Authenticator.sign_header h hsign
      split at hr
      · rename_i n buf' hm
        cases hr
        exact .inr ⟨pkt, hst, hmy, marshalControlPacket_take_header hm⟩
      · -- a failed marshal keeps what `Sign` wrote
        cases hr
        rcases hbuf with rfl | ⟨q, hq₁, hq₂, hq₃⟩
        · exact .inl rfl
        · exact .inr ⟨q, hq₁, hq₂, hq₃⟩
      · cases hr
  · split at hr
    · rename_i n buf hm
      cases hr
      exact .inr ⟨_, rfl, rfl, marshalControlPacket_take_header hm⟩
    · cases hr
      exact .inl rfl
    · cases hr

theorem Session.Honest.rebuildCachedPacket (hs : s.Honest) (hr : s.rebuildCachedPacket h = some s') :
    s.Keeps s' := by
  have hhead := Session.rebuildCachedPacket_header h hr
  obtain ⟨au, c, rfl⟩ := Session.rebuildCachedPacket_shape h hr
  refine .quiet s { hs with header := ?_ } rfl rfl rfl
  rcases hhead with hc | ⟨q, hstate, hmy, hq⟩
  · exact hc ▸ hs.header
  · exact HeaderSays.of_take hq hmy fun hiu => hs.heardCached (hstate ▸ hiu)

/-- `sendControl` rebuilds the cached packet, may clear the padding from
the Length byte on, and sends a prefix of the buffer. -/
theorem Session.sendControl_cut (hx : s.sendControl h = some s') :
    ∃ s₁ buf n, s.rebuildCachedPacket h = some s₁ ∧
      (buf = s₁.cachedPacket ∨ ∃ hi, (Go.within s₁.cachedPacket (s₁.cachedPacket.getD 3 0).toNat hi
        (fun w => pure (List.replicate w.length 0)) : Go.Result Empty (List UInt8)) = .ok buf) ∧
      s' = { s₁ with cachedPacket := buf, sent := s₁.sent ++ [buf.take n] } := by
  unfold Session.sendControl at hx
  obtain ⟨s₁, h₁, hx⟩ := Option.bind_eq_some_iff.mp hx
  obtain ⟨b₃, hb₃, hx⟩ := Option.bind_eq_some_iff.mp hx
  have hlen : s₁.cachedPacket.getD 3 0 = b₃ := Go.load_eq_ok 0 (Go.toOption_eq_some.mp hb₃)
  subst hlen
  dsimp only at hx
  split at hx
  · obtain ⟨buf, hbuf, hx⟩ := Option.bind_eq_some_iff.mp hx
    obtain ⟨d, hd, hx⟩ := Option.bind_eq_some_iff.mp hx
    cases hx
    exact ⟨s₁, buf, _, h₁, .inr ⟨_, Go.toOption_eq_some.mp hbuf⟩,
      by rw [Go.slice_zero_eq_ok (Go.toOption_eq_some.mp hd)]⟩
  · obtain ⟨buf, hbuf, hx⟩ := Option.bind_eq_some_iff.mp hx
    obtain ⟨d, hd, hx⟩ := Option.bind_eq_some_iff.mp hx
    cases hbuf
    cases hx
    exact ⟨s₁, _, _, h₁, .inl rfl, by rw [Go.slice_zero_eq_ok (Go.toOption_eq_some.mp hd)]⟩

theorem Session.Honest.sendControl (hs : s.Honest) (hx : s.sendControl h = some s') : s.Keeps s' := by
  obtain ⟨s₁, buf, n, h₁, hbuf, rfl⟩ := Session.sendControl_cut h hx
  have hk := hs.rebuildCachedPacket h h₁
  have hs₁ := hk.honest
  have hb : HeaderSays buf s₁.localDiscr s₁.lastPacketRecv := by
    rcases hbuf with rfl | ⟨hi, hw⟩
    · exact hs₁.header
    · exact hs₁.header.clear hw
  refine hk.trans ⟨{ hs₁ with header := hb }, rfl, id, [buf.take n], rfl, ?_⟩
  -- the one datagram is cut from the buffer
  intro d hd item hr
  rw [List.mem_singleton] at hd
  subst hd
  exact hb.recvOne hr

theorem Session.Honest.maybeSendControl (hs : s.Honest) (hx : s.maybeSendControl h = some s') :
    s.Keeps s' := by
  unfold Session.maybeSendControl at hx
  split_ifs at hx
  · cases hx
    exact hs.keeps
  · cases hx
    exact hs.keeps
  · exact hs.sendControl h hx

end Keeps

/-! ## The FSM and the handlers -/

/-- Init and Up are entered from another state only on a received packet. -/
theorem applyEvent_initOrUp {st : State} {e : Event} (hc : (applyEvent st e).changed = true)
    (h : (applyEvent st e).newState = .init ∨ (applyEvent st e).newState = .up) :
    e = .recvDown ∨ e = .recvInit ∨ e = .recvUp := by
  rcases applyEvent_newState_up_or_init h with hs | he
  · exact absurd hs ((applyEvent_changed st e).mp hc)
  · exact he

section Handlers

variable (h : Digests) {s s' : Session Addr}

theorem Session.emitNotification_shape (s : Session Addr) (r : FSMResult) :
    ∃ notifyCh, s.emitNotification r = { s with notifyCh := notifyCh } := by
  unfold Session.emitNotification
  split
  · exact ⟨s.notifyCh, rfl⟩
  · exact ⟨_, rfl⟩

theorem Session.maybeResetAuthSeqKnown_shape (s : Session Addr) (idle : Bool) :
    ∃ auth, s.maybeResetAuthSeqKnown idle = { s with auth := auth } := by
  unfold Session.maybeResetAuthSeqKnown
  split
  · split_ifs
    · exact ⟨_, rfl⟩
    · exact ⟨s.auth, rfl⟩
  · exact ⟨s.auth, rfl⟩

/-- An action leaves both copies of the state, and every action but
`NotifyDown` the remote discriminator. -/
theorem Session.executeAction_frame {a : Action} (hx : s.executeAction h a = some s') :
    s'.state = s.state ∧ s'.cachedState = s.cachedState ∧
      (a ≠ .notifyDown → s'.remoteDiscr = s.remoteDiscr) := by
  cases a with
  | sendControl =>
    obtain ⟨s₁, buf, d, h₁, rfl⟩ := Session.sendControl_shape h hx
    obtain ⟨au, c, rfl⟩ := Session.rebuildCachedPacket_shape h h₁
    exact ⟨rfl, rfl, fun _ => rfl⟩
  | notifyUp =>
    cases hx
    exact ⟨rfl, rfl, fun _ => rfl⟩
  | notifyDown =>
    cases hx
    exact ⟨rfl, rfl, fun hn => absurd rfl hn⟩
  | setDiagTimeExpired | setDiagNeighborDown | setDiagAdminDown =>
    cases hx
    exact ⟨rfl, rfl, fun _ => rfl⟩

theorem Session.foldlM_executeAction_frame {acts : List Action}
    (hx : acts.foldlM (fun s action => s.executeAction h action) s = some s') :
    s'.state = s.state ∧ s'.cachedState = s.cachedState ∧
      (Action.notifyDown ∉ acts → s'.remoteDiscr = s.remoteDiscr) := by
  induction acts generalizing s with
  | nil =>
    cases hx
    exact ⟨rfl, rfl, fun _ => rfl⟩
  | cons a acts ih =>
    obtain ⟨s₁, h₁, hx⟩ := Option.bind_eq_some_iff.mp hx
    obtain ⟨hst₁, hcs₁, hrd₁⟩ := Session.executeAction_frame h h₁
    obtain ⟨hst, hcs, hrd⟩ := ih hx
    refine ⟨hst.trans hst₁, hcs.trans hcs₁, fun hn => ?_⟩
    rw [List.mem_cons, not_or] at hn
    exact (hrd hn.2).trans (hrd₁ fun ha => hn.1 ha.symm)

/-- `executeFSMActions` stores a change in both copies of the state, and
keeps the remote discriminator unless asked to notify a move into Down. -/
theorem Session.executeFSMActions_frame {r : FSMResult} (hx : s.executeFSMActions h r = some s') :
    s'.state = (if r.changed then r.newState else s.state) ∧
      s'.cachedState = (if r.changed then r.newState else s.cachedState) ∧
      (Action.notifyDown ∉ r.actions → s'.remoteDiscr = s.remoteDiscr) := by
  unfold Session.executeFSMActions at hx
  obtain ⟨hst, hcs, hrd⟩ := Session.foldlM_executeAction_frame h hx
  split_ifs at hst hcs hrd ⊢ with hc
  · obtain ⟨nc, hnc⟩ :=
      Session.emitNotification_shape ({ s with state := r.newState, cachedState := r.newState }) r
    rw [hnc] at hst hcs hrd
    exact ⟨hst, hcs, hrd⟩
  · exact ⟨hst, hcs, hrd⟩

/-- A session in Up after its FSM ran was in Up before, or the result moved
it into Up. -/
theorem Session.executeFSMActions_up {r : FSMResult} (hx : s.executeFSMActions h r = some s')
    (hup : s'.cachedState = .up) : s.cachedState = .up ∨ (r.changed = true ∧ r.newState = .up) := by
  obtain ⟨-, hcs, -⟩ := Session.executeFSMActions_frame h hx
  rw [hcs] at hup
  split_ifs at hup with hc
  · exact .inr ⟨hc, hup⟩
  · exact .inl hup

theorem Session.Honest.executeAction (hs : s.Honest) {a : Action} (hx : s.executeAction h a = some s') :
    s.Keeps s' := by
  cases a with
  | sendControl => exact hs.sendControl h hx
  | notifyUp =>
    cases hx
    exact hs.keeps
  | notifyDown | setDiagTimeExpired | setDiagNeighborDown | setDiagAdminDown =>
    cases hx
    exact .quiet s { hs with } rfl rfl rfl

theorem Session.Honest.foldlM_executeAction (hs : s.Honest) {acts : List Action}
    (hx : acts.foldlM (fun s action => s.executeAction h action) s = some s') : s.Keeps s' := by
  induction acts generalizing s with
  | nil =>
    cases hx
    exact hs.keeps
  | cons a acts ih =>
    obtain ⟨s₁, h₁, hx⟩ := Option.bind_eq_some_iff.mp hx
    have hk := hs.executeAction h h₁
    exact hk.trans (ih hk.honest hx)

/-- The FSM's transitions keep a session honest, as long as a move into
Init or Up comes after a recorded packet. -/
theorem Session.Honest.executeFSMActions (hs : s.Honest) {r : FSMResult}
    (hr : r.changed = true → r.newState = .init ∨ r.newState = .up → s.lastPacketRecv = true)
    (hx : s.executeFSMActions h r = some s') : s.Keeps s' := by
  unfold Session.executeFSMActions at hx
  split_ifs at hx with hc
  · obtain ⟨nc, hnc⟩ :=
      Session.emitNotification_shape ({ s with state := r.newState, cachedState := r.newState }) r
    rw [hnc] at hx
    -- both copies take the new state
    have hs₁ : Session.Honest { s with state := r.newState, cachedState := r.newState, notifyCh := nc } :=
      { hs with heardState := hr hc, heardCached := hr hc, copies := .inl rfl }
    exact (Session.Keeps.quiet s hs₁ rfl rfl rfl).trans (hs₁.foldlM_executeAction h hx)
  · exact hs.foldlM_executeAction h hx

/-- Events other than a received packet never move the FSM into Init or Up. -/
theorem Session.Honest.applyFSMEvent (hs : s.Honest) {e : Event} (hx : s.applyFSMEvent h e = some s')
    (he : ¬(e = .recvDown ∨ e = .recvInit ∨ e = .recvUp)) : s.Keeps s' :=
  hs.executeFSMActions h (fun hc hiu => absurd (applyEvent_initOrUp hc hiu) he) hx

theorem Session.Honest.handleDetectTimer (hs : s.Honest) {idle : Bool}
    (hx : s.handleDetectTimer h idle = some s') : s.Keeps s' := by
  unfold Session.handleDetectTimer at hx
  dsimp only at hx
  obtain ⟨au, hau⟩ := s.maybeResetAuthSeqKnown_shape idle
  rw [hau] at hx
  have hs₀ : Session.Honest { s with auth := au } := { hs with }
  refine (Session.Keeps.quiet s hs₀ rfl rfl rfl).trans ?_
  split_ifs at hx
  · cases hx
    exact hs₀.keeps
  · exact hs₀.applyFSMEvent h hx (by decide)

theorem Session.Honest.handlePathDown (hs : s.Honest) (hx : s.handlePathDown h = some s') :
    s.Keeps s' := by
  unfold Session.handlePathDown at hx
  dsimp only at hx
  have hs₁ : Session.Honest { s with localDiag := DiagPathDown } := { hs with }
  refine (Session.Keeps.quiet s hs₁ rfl rfl rfl).trans ?_
  split_ifs at hx
  · cases hx
    exact hs₁.keeps
  · -- the move is into Down
    refine hs₁.executeFSMActions h (fun _ hiu => ?_) hx
    rcases hiu with hi | hu
    · cases hi
    · cases hu

theorem Session.Honest.handleAdminDown (hs : s.Honest) (hx : s.handleAdminDown h = some s') :
    s.Keeps s' := by
  unfold Session.handleAdminDown at hx
  dsimp only at hx
  split_ifs at hx
  · cases hx
    exact .quiet s { hs with } rfl rfl rfl
  · refine hs.executeFSMActions h ?_ hx
    intro hc hiu
    exact absurd (@applyEvent_initOrUp s.cachedState .adminDown hc hiu) (by decide)

theorem Session.Honest.handleControlCommand (hs : s.Honest) {cmd : SessionControl}
    (hx : s.handleControlCommand h cmd = some s') : s.Keeps s' := by
  cases cmd with
  | pathDown => exact hs.handlePathDown h hx
  | adminDown => exact hs.handleAdminDown h hx

/-- A received packet keeps a session honest: it is dropped, or its fields
are recorded before its event runs. -/
theorem Session.Honest.handleRecvPacket (hs : s.Honest) {item : RecvItem}
    (hx : s.handleRecvPacket h item = some s') : s.Keeps s' := by
  rcases Session.handleRecvPacket_cases h hs.pollActive hx with ⟨rfl, -⟩ | ⟨s₁, s₄, -, hv, h₄, h₅⟩
  · exact hs.keeps
  · obtain ⟨au, rfl⟩ := Session.verifyAuth_shape_of_eq h hv
    -- from here on a packet is recorded
    have hs₂ : (({ s with auth := au } : Session Addr).recordPacket item.pkt).Honest :=
      { header := hs.header.heard
        heardState := fun _ => rfl
        heardCached := fun _ => rfl
        copies := hs.copies
        pollActive := hs.pollActive }
    have hk₂ : s.Keeps (({ s with auth := au } : Session Addr).recordPacket item.pkt) :=
      ⟨hs₂, rfl, fun _ => rfl, [], by rw [List.append_nil]; rfl, fun _ hd => nomatch hd⟩
    have hk₄ := hk₂.trans (hs₂.executeFSMActions h (fun _ _ => rfl) h₄)
    -- the Final reply, if one is pending
    split at h₅
    · exact hk₄.trans (hk₄.honest.sendControl h h₅)
    · cases h₅
      exact hk₄

/-- A packet that takes a session into Up says Init or Up, and the session
keeps its discriminator as the remote one. -/
theorem Session.handleRecvPacket_up {item : RecvItem} (hx : s.handleRecvPacket h item = some s')
    (hpa : s.pollActive = false) (hdown : s.cachedState ≠ .up)
    (hup : s'.cachedState = .up) :
    (item.pkt.state = .init ∨ item.pkt.state = .up) ∧ s'.remoteDiscr = item.pkt.myDiscriminator := by
  rcases Session.handleRecvPacket_cases h hpa hx with ⟨rfl, -⟩ | ⟨s₁, s₄, -, hv, h₄, h₅⟩
  · exact absurd hup hdown
  · obtain ⟨au, rfl⟩ := Session.verifyAuth_shape_of_eq h hv
    -- the Final reply changes neither the state nor the remote discriminator
    have h₅' : s'.cachedState = s₄.cachedState ∧ s'.remoteDiscr = s₄.remoteDiscr := by
      split at h₅
      · obtain ⟨-, hcs, hrd⟩ := Session.executeAction_frame (a := .sendControl) h h₅
        exact ⟨hcs, hrd nofun⟩
      · cases h₅
        exact ⟨rfl, rfl⟩
    rw [h₅'.1] at hup
    rcases Session.executeFSMActions_up h h₄ hup with hcs | ⟨hc, hnew⟩
    · exact absurd hcs hdown
    · -- a move into Up is on RecvInit or RecvUp, and asks for no NotifyDown
      have hev := applyEvent_up hc hnew
      refine ⟨recvStateToEvent_init_or_up hev, h₅'.2.trans ?_⟩
      have hnd : Action.notifyDown ∉ (applyEvent (s.cachedState) (recvStateToEvent item.pkt.state)).actions :=
        fun hn => absurd ((applyEvent_notifyDown hn).2.symm.trans hnew) nofun
      exact (Session.executeFSMActions_frame h h₄).2.2 hnd

end Handlers

/-! ## Steps -/

section Steps

variable (h : Digests) {s s' : Session Addr}

/-- The loop handles the head of the receive channel. -/
theorem Session.Honest.recv (hs : s.Honest) {item : RecvItem} {rest : List RecvItem}
    (hx : ({ s with recvCh := rest } : Session Addr).handleRecvPacket h item = some s') :
    s.Keeps s' :=
  have hs₀ : Session.Honest { s with recvCh := rest } := { hs with }
  (Session.Keeps.quiet s hs₀ rfl rfl rfl).trans (hs₀.handleRecvPacket h hx)

/-- The loop handles the head of the control channel. -/
theorem Session.Honest.control (hs : s.Honest) {cmd : SessionControl} {rest : List SessionControl}
    (hx : ({ s with ctrlCh := rest } : Session Addr).handleControlCommand h cmd = some s') :
    s.Keeps s' :=
  have hs₀ : Session.Honest { s with ctrlCh := rest } := { hs with }
  (Session.Keeps.quiet s hs₀ rfl rfl rfl).trans (hs₀.handleControlCommand h hx)

/-- Every step keeps a session honest, and what it sends speaks for it. -/
theorem Session.Honest.step (hs : s.Honest) (hstep : Session.Step h s s') : s.Keeps s' := by
  cases hstep with
  | recvPacket item hd =>
    unfold Session.recvPacket
    split
    · exact .quiet s { hs with } rfl rfl rfl
    · exact hs.keeps
  | setPathDown =>
    unfold Session.setPathDown
    split
    · exact .quiet s { hs with } rfl rfl rfl
    · exact hs.keeps
  | setAdminDown =>
    unfold Session.setAdminDown
    split
    · exact .quiet s { hs with } rfl rfl rfl
    · -- AdminDown is stored in the atomic copy alone
      refine .quiet s { hs with heardState := fun hiu => ?_, copies := .inr rfl } rfl rfl rfl
      rcases hiu with hi | hu
      · cases hi
      · cases hu
  | run hr =>
    -- `Run` copies the atomic state into `cachedState`
    exact .quiet s { hs with heardCached := hs.heardState, copies := .inl rfl } rfl rfl rfl
  | stop hr => exact .quiet s { hs with } rfl rfl rfl
  | recv hr hq hx => exact hs.recv h hx
  | control hr hq hx => exact hs.control h hx
  | txTimer hr hx => exact hs.maybeSendControl h hx
  | detectTimer idle hr hx => exact hs.handleDetectTimer h hx

theorem Session.maybeSendControl_cachedState (hx : s.maybeSendControl h = some s') :
    s'.cachedState = s.cachedState := by
  unfold Session.maybeSendControl at hx
  split_ifs at hx
  · cases hx
    rfl
  · cases hx
    rfl
  · exact (Session.executeAction_frame (a := .sendControl) h hx).2.1

/-- The detection timer takes a session into Up only from Up. -/
theorem Session.handleDetectTimer_up {idle : Bool} (hx : s.handleDetectTimer h idle = some s')
    (hup : s'.cachedState = .up) : s.cachedState = .up := by
  unfold Session.handleDetectTimer at hx
  dsimp only at hx
  obtain ⟨au, hau⟩ := s.maybeResetAuthSeqKnown_shape idle
  rw [hau] at hx
  split_ifs at hx
  · cases hx
    exact hup
  · rcases Session.executeFSMActions_up h hx hup with hcs | ⟨hc, hnew⟩
    · exact hcs
    · exact absurd (applyEvent_up hc hnew) (by decide)

/-- So do the two control commands. -/
theorem Session.handleControlCommand_up {cmd : SessionControl}
    (hx : s.handleControlCommand h cmd = some s') (hup : s'.cachedState = .up) :
    s.cachedState = .up := by
  cases cmd with
  | pathDown =>
    unfold Session.handleControlCommand Session.handlePathDown at hx
    dsimp only at hx
    split_ifs at hx
    · cases hx
      exact hup
    · rcases Session.executeFSMActions_up h hx hup with hcs | ⟨-, hnew⟩
      · exact hcs
      · cases hnew
  | adminDown =>
    unfold Session.handleControlCommand Session.handleAdminDown at hx
    dsimp only at hx
    split_ifs at hx
    · cases hx
      exact hup
    · rcases Session.executeFSMActions_up h hx hup with hcs | ⟨hc, hnew⟩
      · exact hcs
      · exact absurd (applyEvent_up (s := s.cachedState) (e := .adminDown) hc hnew) (by decide)

/-- A step that takes an honest session into Up is its loop handling the
head of the receive channel, a packet that says Init or Up; the session
then holds that packet's discriminator as the remote one. -/
theorem Session.Honest.step_up (hs : s.Honest) (hstep : Session.Step h s s')
    (hdown : s.cachedState ≠ .up) (hup : s'.cachedState = .up) :
    ∃ item rest, s.recvCh = item :: rest ∧
      ({ s with recvCh := rest } : Session Addr).handleRecvPacket h item = some s' ∧
      (item.pkt.state = .init ∨ item.pkt.state = .up) ∧ s'.remoteDiscr = item.pkt.myDiscriminator := by
  cases hstep with
  | recv hr hq hx => exact ⟨_, _, hq, hx, Session.handleRecvPacket_up h hx hs.pollActive hdown hup⟩
  | recvPacket item hd =>
    unfold Session.recvPacket at hup
    split at hup <;> exact absurd hup hdown
  | setPathDown =>
    unfold Session.setPathDown at hup
    split at hup <;> exact absurd hup hdown
  | setAdminDown =>
    unfold Session.setAdminDown at hup
    split at hup <;> exact absurd hup hdown
  | run hr =>
    -- the atomic copy is the goroutine's, or AdminDown
    rcases hs.copies with he | ha
    · exact absurd (he.symm.trans hup) hdown
    · exact absurd (ha.symm.trans hup) nofun
  | stop hr => exact absurd hup hdown
  | control hr hq hx => exact absurd (Session.handleControlCommand_up h hx hup) hdown
  | txTimer hr hx => exact absurd ((Session.maybeSendControl_cachedState h hx).symm.trans hup) hdown
  | detectTimer idle hr hx => exact absurd (Session.handleDetectTimer_up h hx hup) hdown

/-- A step records a first packet only as the loop's handling of the head
of the receive channel. -/
theorem Session.Step.recorded (hstep : Session.Step h s s') (h₀ : s.lastPacketRecv = false)
    (h₁ : s'.lastPacketRecv = true) : ∃ item rest, s.recvCh = item :: rest := by
  -- the handlers other than `handleRecvPacket` never write `lastPacketRecv`
  have hkeep : ∀ s₁ : Session Addr, s₁.Updates s' → s₁.lastPacketRecv = s.lastPacketRecv → False := by
    intro s₁ hu hl
    obtain ⟨_, _, _, _, _, _, _, _, _, rfl⟩ := hu
    exact absurd (h₁.symm.trans (hl.trans h₀)) nofun
  cases hstep with
  | recv hr hq hx => exact ⟨_, _, hq⟩
  | recvPacket item hd =>
    unfold Session.recvPacket at h₁
    split at h₁ <;> exact absurd (h₁.symm.trans h₀) nofun
  | setPathDown =>
    unfold Session.setPathDown at h₁
    split at h₁ <;> exact absurd (h₁.symm.trans h₀) nofun
  | setAdminDown =>
    unfold Session.setAdminDown at h₁
    split at h₁ <;> exact absurd (h₁.symm.trans h₀) nofun
  | run hr => exact absurd (h₁.symm.trans h₀) nofun
  | stop hr => exact absurd (h₁.symm.trans h₀) nofun
  | control hr hq hx => exact (hkeep _ (.handleControlCommand h hx) rfl).elim
  | txTimer hr hx => exact (hkeep _ (.maybeSendControl h hx) rfl).elim
  | detectTimer idle hr hx => exact (hkeep _ (.handleDetectTimer h hx) rfl).elim

/-- `NewSession` starts an honest session: a zeroed buffer, in Down, with
nothing recorded, then the first cached packet. -/
theorem newSession_honest {cfg : SessionConfig Addr} {localDiscr : UInt32} {notify : Bool}
    {seed : UInt32} (hn : newSession h cfg localDiscr notify seed = .ok s) : s.Honest := by
  unfold newSession at hn
  split at hn
  · cases hn
  · dsimp only at hn
    split at hn
    · rename_i s₀ hb
      cases hn
      refine (Session.Honest.rebuildCachedPacket h ⟨?_, ?_, ?_, .inl rfl, rfl⟩ hb).honest
      · intro h3
        simp at h3
      · intro hiu
        rcases hiu with hi | hi <;> cases hi
      · intro hiu
        rcases hiu with hi | hi <;> cases hi
    · cases hn

end Steps

end GoBFD
