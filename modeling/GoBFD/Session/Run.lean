import GoBFD.Session
import Mathlib.Logic.Relation

/-!
# GoBFD.Session.Run

The session goroutine among its neighbours.  `Run` loops over a `select` on
the receive channel, the control channel and the two timers; other
goroutines feed it through `RecvPacket`, `SetPathDown` and `SetAdminDown`.
`Session.Step` is one step of either side, and `Session.Reachable` the
states of every interleaving from a session `NewSession` accepted.

Each loop iteration is one step, and so is each call from outside.  The
outside calls only queue on a channel or, for `SetAdminDown` when the
control channel is full, store the two atomics `localDiag` and `state`.
The timers are not modelled by their deadlines: a timer may fire at any
step, which includes every timing the real clock can produce.

Received packets come from the receivers, which decode them first: a
`recvPacket` step carries a packet `UnmarshalControlPacket` returned.  The
receive path of `internal/netio` itself is `recvOne`.

No step changes the discriminator or the peer key a session was created
with (`Session.Step.identity`): the manager may file a session under them
once and for all.
-/

namespace GoBFD

variable {Addr : Type}

/-! ## Calls from other goroutines -/

/-- `RecvPacket(pkt, wire)`: queue the item, or drop it on a full channel. -/
def Session.recvPacket (s : Session Addr) (item : RecvItem) : Session Addr :=
  if s.recvCh.length < recvChSize then { s with recvCh := s.recvCh ++ [item] } else s

/-- `SetPathDown()`: queue the command; `false` on a full channel. -/
def Session.setPathDown (s : Session Addr) : Bool × Session Addr :=
  if s.ctrlCh.length < ctrlChSize then (true, { s with ctrlCh := s.ctrlCh ++ [.pathDown] })
  else (false, s)

/-- `SetAdminDown()`: queue the command while `Run` is active; otherwise,
or when the control channel is full, store the diagnostic and the state
directly. -/
def Session.setAdminDown (s : Session Addr) : Session Addr :=
  if s.running ∧ s.ctrlCh.length < ctrlChSize then { s with ctrlCh := s.ctrlCh ++ [.adminDown] }
  else { s with localDiag := DiagAdminDown, state := .adminDown }

/-- The start of `Run`: mark it running and copy the atomic state into
`cachedState`. -/
def Session.run (s : Session Addr) : Session Addr :=
  { s with running := true, cachedState := s.state }

/-! ## Steps and runs -/

section Steps

variable (h : Digests)

/-- One step of the session goroutine or of a goroutine calling into it. -/
inductive Session.Step : Session Addr → Session Addr → Prop
  | recvPacket {s : Session Addr} (item : RecvItem)
      (hd : ∃ b, unmarshalControlPacket b = .ok item.pkt) :
      Session.Step s (s.recvPacket item)
  | setPathDown {s : Session Addr} : Session.Step s s.setPathDown.2
  | setAdminDown {s : Session Addr} : Session.Step s s.setAdminDown
  | run {s : Session Addr} (hr : s.running = false) : Session.Step s s.run
  | stop {s : Session Addr} (hr : s.running = true) : Session.Step s { s with running := false }
  | recv {s s' : Session Addr} {item : RecvItem} {rest : List RecvItem} (hr : s.running = true)
      (hq : s.recvCh = item :: rest)
      (hs : ({ s with recvCh := rest } : Session Addr).handleRecvPacket h item = some s') :
      Session.Step s s'
  | control {s s' : Session Addr} {cmd : SessionControl} {rest : List SessionControl}
      (hr : s.running = true) (hq : s.ctrlCh = cmd :: rest)
      (hs : ({ s with ctrlCh := rest } : Session Addr).handleControlCommand h cmd = some s') :
      Session.Step s s'
  | txTimer {s s' : Session Addr} (hr : s.running = true) (hs : s.handleTxTimer h = some s') :
      Session.Step s s'
  | detectTimer {s s' : Session Addr} (idle : Bool) (hr : s.running = true)
      (hs : s.handleDetectTimer h idle = some s') :
      Session.Step s s'

/-- The states of a session over every interleaving, from one that
`NewSession` returned for `cfg`. -/
def Session.Reachable (cfg : SessionConfig Addr) (s : Session Addr) : Prop :=
  ∃ localDiscr notify seed s₀, newSession h cfg localDiscr notify seed = .ok s₀ ∧
    Relation.ReflTransGen (Session.Step h) s₀ s

end Steps

/-! ## The receive path -/

/-- `Receiver.recvOne` on one datagram: the listener reads it into a
`PacketPool` buffer of `MaxPacketSize` bytes, so a longer datagram is cut
short; a packet that does not decode is dropped; a packet with an auth
section is decoded again from a copy of the bytes, which is handed on as
the wire for verification.  The result is what reaches `RecvPacket`. -/
def recvOne (datagram : List UInt8) : Option RecvItem :=
  let raw := datagram.take MaxPacketSize
  match unmarshalControlPacket raw with
  | .ok pkt =>
    if pkt.auth.isSome then
      match unmarshalControlPacket raw with
      | .ok pkt => some { pkt := pkt, wire := raw }
      | .error _ => none
    else some { pkt := pkt, wire := [] }
  | .error _ => none

/-! ## What the handlers write

Whatever the key store, the transmit path and the FSM write nine fields of
a session and append to what it sent; `Session.Updates` says that a stretch
wrote nothing else.  Every other field, the intervals among them, is the
same before and after such a stretch, by `rfl` once the update is opened. -/

section Updates

variable (h : Digests) {s s' s₁ s₂ s₃ : Session Addr}

/-- `s'` is `s` with at most the fields the loop's actions write changed,
and with datagrams appended to what it sent. -/
def Session.Updates (s s' : Session Addr) : Prop :=
  ∃ (pendingFinal : Bool) (auth : Option SessionAuth) (cachedPacket : List UInt8)
    (ds : List (List UInt8)) (localDiag : Diag) (remoteDiscr : UInt32) (state cachedState : State)
    (notifyCh : Option (List (StateChange Addr))),
    s' = { s with
      pendingFinal := pendingFinal, auth := auth, cachedPacket := cachedPacket, sent := s.sent ++ ds,
      localDiag := localDiag, remoteDiscr := remoteDiscr, state := state, cachedState := cachedState,
      notifyCh := notifyCh }

theorem Session.Updates.refl (s : Session Addr) : s.Updates s :=
  ⟨s.pendingFinal, s.auth, s.cachedPacket, [], s.localDiag, s.remoteDiscr, s.state, s.cachedState,
    s.notifyCh, by rw [List.append_nil]⟩

theorem Session.Updates.trans (h₁ : s₁.Updates s₂) (h₂ : s₂.Updates s₃) : s₁.Updates s₃ := by
  obtain ⟨pf, au, c, ds₂, ld, rd, st, cs, nc, rfl⟩ := h₂
  obtain ⟨pf₁, au₁, c₁, ds₁, ld₁, rd₁, st₁, cs₁, nc₁, rfl⟩ := h₁
  exact ⟨pf, au, c, ds₁ ++ ds₂, ld, rd, st, cs, nc, by rw [List.append_assoc]⟩

/-- `rebuildCachedPacket` consumes the pending Final and writes the auth
state and the buffer, in each of its branches. -/
theorem Session.rebuildCachedPacket_shape (hr : s.rebuildCachedPacket h = some s') :
    ∃ auth cachedPacket,
      s' = { s with pendingFinal := false, auth := auth, cachedPacket := cachedPacket } := by
  unfold Session.rebuildCachedPacket Session.signCachedPacket at hr
  dsimp only at hr
  split at hr
  · split at hr
    · cases hr; exact ⟨_, _, rfl⟩
    · cases hr
    · split at hr
      · cases hr; exact ⟨_, _, rfl⟩
      · cases hr; exact ⟨_, _, rfl⟩
      · cases hr
  · split at hr
    · cases hr; exact ⟨_, _, rfl⟩
    · cases hr; exact ⟨_, _, rfl⟩
    · cases hr

/-- `sendControl` rebuilds the cached packet, may clear the padding in the
buffer, and appends one datagram. -/
theorem Session.sendControl_shape (hx : s.sendControl h = some s') :
    ∃ s₁ buf d, s.rebuildCachedPacket h = some s₁ ∧
      s' = { s₁ with cachedPacket := buf, sent := s₁.sent ++ [d] } := by
  unfold Session.sendControl at hx
  obtain ⟨s₁, h₁, hx⟩ := Option.bind_eq_some_iff.mp hx
  obtain ⟨_, -, hx⟩ := Option.bind_eq_some_iff.mp hx
  dsimp only at hx
  -- with or without padding, one datagram is cut from the buffer
  split at hx
  · obtain ⟨buf, -, hx⟩ := Option.bind_eq_some_iff.mp hx
    obtain ⟨d, -, hx⟩ := Option.bind_eq_some_iff.mp hx
    cases hx
    exact ⟨s₁, buf, d, h₁, rfl⟩
  · obtain ⟨buf, -, hx⟩ := Option.bind_eq_some_iff.mp hx
    obtain ⟨d, -, hx⟩ := Option.bind_eq_some_iff.mp hx
    cases hx
    exact ⟨s₁, buf, d, h₁, rfl⟩

theorem Session.Updates.rebuildCachedPacket (hr : s.rebuildCachedPacket h = some s') : s.Updates s' := by
  obtain ⟨au, c, rfl⟩ := Session.rebuildCachedPacket_shape h hr
  exact ⟨false, au, c, [], s.localDiag, s.remoteDiscr, s.state, s.cachedState, s.notifyCh,
    by rw [List.append_nil]⟩

theorem Session.Updates.sendControl (hx : s.sendControl h = some s') : s.Updates s' := by
  obtain ⟨s₁, buf, d, h₁, rfl⟩ := Session.sendControl_shape h hx
  obtain ⟨au, c, rfl⟩ := Session.rebuildCachedPacket_shape h h₁
  exact ⟨false, au, buf, [d], s.localDiag, s.remoteDiscr, s.state, s.cachedState, s.notifyCh, rfl⟩

theorem Session.Updates.maybeSendControl (hx : s.maybeSendControl h = some s') : s.Updates s' := by
  unfold Session.maybeSendControl at hx
  split_ifs at hx
  · cases hx; exact .refl s
  · cases hx; exact .refl s
  · exact .sendControl h hx

theorem Session.Updates.executeAction {a : Action} (hx : s.executeAction h a = some s') :
    s.Updates s' := by
  -- the three diagnostics and the remote discriminator are written in place
  have hwrite : ∀ (ld : Diag) (rd : UInt32),
      s.Updates { s with localDiag := ld, remoteDiscr := rd } := fun ld rd =>
    ⟨s.pendingFinal, s.auth, s.cachedPacket, [], ld, rd, s.state, s.cachedState, s.notifyCh,
      by rw [List.append_nil]⟩
  cases a with
  | sendControl => exact .sendControl h hx
  | notifyUp => cases hx; exact .refl s
  | notifyDown => cases hx; exact hwrite s.localDiag 0
  | setDiagTimeExpired => cases hx; exact hwrite _ s.remoteDiscr
  | setDiagNeighborDown => cases hx; exact hwrite _ s.remoteDiscr
  | setDiagAdminDown => cases hx; exact hwrite _ s.remoteDiscr

theorem Session.Updates.foldlM_executeAction {acts : List Action}
    (hx : acts.foldlM (fun s action => s.executeAction h action) s = some s') : s.Updates s' := by
  induction acts generalizing s with
  | nil => cases hx; exact .refl _
  | cons a acts ih =>
    obtain ⟨s₁, h₁, hx⟩ := Option.bind_eq_some_iff.mp hx
    exact (Session.Updates.executeAction h h₁).trans (ih hx)

theorem Session.Updates.executeFSMActions {r : FSMResult} (hx : s.executeFSMActions h r = some s') :
    s.Updates s' := by
  unfold Session.executeFSMActions at hx
  refine Session.Updates.trans ?_ (Session.Updates.foldlM_executeAction h hx)
  split_ifs
  · -- the change is stored in both copies and notified
    unfold Session.emitNotification
    split
    · exact ⟨s.pendingFinal, s.auth, s.cachedPacket, [], s.localDiag, s.remoteDiscr, r.newState,
        r.newState, s.notifyCh, by rw [List.append_nil]⟩
    · exact ⟨s.pendingFinal, s.auth, s.cachedPacket, [], s.localDiag, s.remoteDiscr, r.newState,
        r.newState, _, by rw [List.append_nil]⟩
  · exact .refl s

theorem Session.Updates.maybeResetAuthSeqKnown (idle : Bool) :
    s.Updates (s.maybeResetAuthSeqKnown idle) := by
  unfold Session.maybeResetAuthSeqKnown
  split
  · split_ifs
    · exact ⟨s.pendingFinal, _, s.cachedPacket, [], s.localDiag, s.remoteDiscr, s.state,
        s.cachedState, s.notifyCh, by rw [List.append_nil]⟩
    · exact .refl s
  · exact .refl s

theorem Session.Updates.handleDetectTimer {idle : Bool} (hx : s.handleDetectTimer h idle = some s') :
    s.Updates s' := by
  unfold Session.handleDetectTimer at hx
  dsimp only at hx
  refine (Session.Updates.maybeResetAuthSeqKnown idle).trans ?_
  split_ifs at hx
  · cases hx; exact .refl _
  · exact .executeFSMActions h hx

theorem Session.Updates.handlePathDown (hx : s.handlePathDown h = some s') : s.Updates s' := by
  unfold Session.handlePathDown at hx
  dsimp only at hx
  have hdiag : s.Updates { s with localDiag := DiagPathDown } :=
    ⟨s.pendingFinal, s.auth, s.cachedPacket, [], DiagPathDown, s.remoteDiscr, s.state,
      s.cachedState, s.notifyCh, by rw [List.append_nil]⟩
  split_ifs at hx
  · cases hx; exact hdiag
  · exact hdiag.trans (.executeFSMActions h hx)

theorem Session.Updates.handleAdminDown (hx : s.handleAdminDown h = some s') : s.Updates s' := by
  unfold Session.handleAdminDown at hx
  dsimp only at hx
  split_ifs at hx
  · cases hx
    exact ⟨s.pendingFinal, s.auth, s.cachedPacket, [], DiagAdminDown, s.remoteDiscr, s.state,
      s.cachedState, s.notifyCh, by rw [List.append_nil]⟩
  · exact .executeFSMActions h hx

theorem Session.Updates.handleControlCommand {cmd : SessionControl}
    (hx : s.handleControlCommand h cmd = some s') : s.Updates s' := by
  cases cmd with
  | pathDown => exact .handlePathDown h hx
  | adminDown => exact .handleAdminDown h hx

theorem Session.verifyAuth_of_none (ha : s.auth = none) (item : RecvItem) :
    s.verifyAuth h item = (s, .ok ()) := by
  simp only [Session.verifyAuth, ha]

/-- With auth configured, the session keeps what `Verify` left in its
`AuthState`. -/
theorem Session.verifyAuth_of_some {a : SessionAuth} (ha : s.auth = some a) (item : RecvItem) :
    s.verifyAuth h item =
      ({ s with auth := some { a with state :=
          ((a.auth.verify h a.keys item.pkt item.wire item.wire.length).exec a.state).1 } },
        ((a.auth.verify h a.keys item.pkt item.wire item.wire.length).exec a.state).2) := by
  simp only [Session.verifyAuth, ha]

/-- `Verify`, whatever it returns, writes only the auth state. -/
theorem Session.verifyAuth_shape (item : RecvItem) :
    ∃ auth, (s.verifyAuth h item).1 = { s with auth := auth } := by
  cases ha : s.auth with
  | none => exact ⟨none, by rw [Session.verifyAuth_of_none h ha]; rw [← ha]⟩
  | some a => exact ⟨_, by rw [Session.verifyAuth_of_some h ha]⟩

theorem Session.verifyAuth_shape_of_eq {item : RecvItem} {r : Go.Result AuthError Unit}
    (hv : s.verifyAuth h item = (s₁, r)) : ∃ auth, s₁ = { s with auth := auth } := by
  obtain ⟨au, hau⟩ := Session.verifyAuth_shape h (s := s) item
  rw [hv] at hau
  exact ⟨au, hau⟩

/-- A refused packet leaves the session as it was: `Verify` writes the
auth state only when it accepts. -/
theorem Session.verifyAuth_of_error {item : RecvItem} {e : Go.Fault AuthError}
    (hv : s.verifyAuth h item = (s', .error e)) : s' = s := by
  cases ha : s.auth with
  | none =>
    rw [Session.verifyAuth_of_none h ha] at hv
    cases (Prod.mk.inj hv).2
  | some a =>
    rw [Session.verifyAuth_of_some h ha] at hv
    obtain ⟨rfl, he⟩ := Prod.mk.inj hv
    have hst : ((a.auth.verify h a.keys item.pkt item.wire item.wire.length).exec a.state).1 = a.state :=
      Authenticator.verify_exec_of_error h (Prod.ext rfl he)
    rw [hst]
    cases a
    rw [← ha]

end Updates

/-! ## What a step never changes -/

/-- What identifies a session to the manager and the demultiplexer: its
discriminator and its peer key.  `NewSession` sets them, and nothing
writes them afterwards. -/
def Session.identity (s : Session Addr) : UInt32 × Addr × Addr × String :=
  (s.localDiscr, s.peerAddr, s.localAddr, s.ifName)

section Identity

variable (h : Digests) {s s' : Session Addr}

/-- The handlers' writes leave the identity. -/
theorem Session.Updates.identity (hu : s.Updates s') : s'.identity = s.identity := by
  obtain ⟨_, _, _, _, _, _, _, _, _, rfl⟩ := hu
  rfl

/-- `NewSession` files the session under the discriminator and the key it
was given. -/
theorem newSession_identity {cfg : SessionConfig Addr} {localDiscr : UInt32} {notify : Bool}
    {seed : UInt32} (hn : newSession h cfg localDiscr notify seed = .ok s) :
    s.identity = (localDiscr, cfg.peerAddr, cfg.localAddr, cfg.interface) := by
  unfold newSession at hn
  split at hn
  · cases hn
  · dsimp only at hn
    split at hn
    · rename_i s₁ hr
      cases hn
      rw [(Session.Updates.rebuildCachedPacket h hr).identity]
      rfl
    · cases hn

@[simp] theorem Session.applyPendingParams_identity : s.applyPendingParams.identity = s.identity := by
  unfold Session.applyPendingParams
  dsimp only
  split_ifs <;> rfl

theorem Session.terminatePollSequence_identity (hr : s.terminatePollSequence h = some s') :
    s'.identity = s.identity := by
  unfold Session.terminatePollSequence at hr
  rw [(Session.Updates.rebuildCachedPacket h hr).identity, Session.applyPendingParams_identity]
  rfl

/-- `handleRecvPacket` also stores the packet's fields and, on a Final,
applies the pending parameters: none of them is part of the identity. -/
theorem Session.handleRecvPacket_identity {item : RecvItem} (hr : s.handleRecvPacket h item = some s') :
    s'.identity = s.identity := by
  unfold Session.handleRecvPacket at hr
  dsimp only at hr
  split at hr
  · cases hr; rfl
  split at hr
  · -- a refused packet: `Verify` wrote the auth state at most
    rename_i hv
    cases hr
    obtain ⟨au, hau⟩ := Session.verifyAuth_shape h (s := s) item
    rw [hv] at hau
    dsimp only at hau
    rw [hau]
    rfl
  · cases hr
  · rename_i s₁ hv
    obtain ⟨au, hau⟩ := Session.verifyAuth_shape h (s := s) item
    rw [hv] at hau
    dsimp only at hau
    subst hau
    -- the Poll bit, the FSM event and the Final reply, from whatever the Final
    -- handling left
    have htail : ∀ s₂ s₃ : Session Addr, s₂.identity = s.identity →
        s₂.applyFSMEvent h (recvStateToEvent item.pkt.state) = some s₃ →
        (if s₃.pendingFinal = true then s₃.sendControl h else pure s₃) = some s' →
        s'.identity = s.identity := by
      intro s₂ s₃ h₂ h₃ hr
      have hi₃ := (Session.Updates.executeFSMActions h h₃).identity
      split_ifs at hr
      · rw [(Session.Updates.sendControl h hr).identity, hi₃, h₂]
      · cases hr
        rw [hi₃, h₂]
    split at hr
    · obtain ⟨s₂, h₂, hr⟩ := Option.bind_eq_some_iff.mp hr
      obtain ⟨s₃, h₃, hr⟩ := Option.bind_eq_some_iff.mp hr
      have hp : (if item.pkt.poll = true then { s₂ with pendingFinal := true } else s₂).identity =
          s₂.identity := by
        split_ifs <;> rfl
      refine htail _ s₃ ?_ h₃ hr
      rw [hp, Session.terminatePollSequence_identity h h₂]
      rfl
    · rw [pure_bind] at hr
      obtain ⟨s₃, h₃, hr⟩ := Option.bind_eq_some_iff.mp hr
      refine htail _ s₃ ?_ h₃ hr
      split_ifs <;> rfl

/-- No step of a session changes its discriminator or its peer key. -/
theorem Session.Step.identity (hstep : Session.Step h s s') : s'.identity = s.identity := by
  cases hstep with
  | recvPacket item hd =>
    unfold Session.recvPacket
    split_ifs <;> rfl
  | setPathDown =>
    unfold Session.setPathDown
    split_ifs <;> rfl
  | setAdminDown =>
    unfold Session.setAdminDown
    split_ifs <;> rfl
  | run hr => rfl
  | stop hr => rfl
  | recv hr hq hx =>
    rw [Session.handleRecvPacket_identity h hx]
    rfl
  | control hr hq hx =>
    rw [(Session.Updates.handleControlCommand h hx).identity]
    rfl
  | txTimer hr hx => exact (Session.Updates.maybeSendControl h hx).identity
  | detectTimer idle hr hx => exact (Session.Updates.handleDetectTimer h hx).identity

end Identity

end GoBFD
