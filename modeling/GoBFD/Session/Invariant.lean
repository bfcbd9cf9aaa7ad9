import GoBFD.Session.Transmit

/-!
# GoBFD.Session.Invariant

The handlers of the session loop, and what holds along every run.

Each handler is a prefix that changes no field a packet carries, then at
most one FSM transition (`executeFSMActions`), which stores a change in both
copies of the state and notifies it before any action runs, then actions
and the Final reply, which leave the state alone.  So

* every handler keeps the session `Sane` and its `Frame`, and the packets a
  step sends all carry the state the step leaves (`Session.Handles`);
* along every run from `NewSession`, the session is `Good`: sane, with the
  configured multiplier and auth, queued packets that decoded, and the two
  copies of the state equal unless `SetAdminDown` stored AdminDown in the
  atomic copy alone.

A transition is notified with the diagnostic that stood before its actions
ran (`Session.Sane.executeFSMActions_notifyCh`), and AdminDown, once the loop
has entered it, is never left (`Session.Good.step_adminDown`).
-/

namespace GoBFD

variable {Addr : Type} (h : Digests) {s s' s₁ s₂ s₃ : Session Addr}

/-! ## What handlers keep -/

/-- The fields no handler of the loop changes. -/
structure Session.Frame (s s' : Session Addr) : Prop where
  localDiscr : s'.localDiscr = s.localDiscr
  detectMult : s'.detectMult = s.detectMult
  auth : s'.auth.isSome = s.auth.isSome
  recvCh : s'.recvCh = s.recvCh
  ctrlCh : s'.ctrlCh = s.ctrlCh
  running : s'.running = s.running

theorem Session.Frame.refl (s : Session Addr) : s.Frame s := ⟨rfl, rfl, rfl, rfl, rfl, rfl⟩

theorem Session.Frame.trans (h₁ : s₁.Frame s₂) (h₂ : s₂.Frame s₃) : s₁.Frame s₃ :=
  ⟨h₂.localDiscr.trans h₁.localDiscr, h₂.detectMult.trans h₁.detectMult, h₂.auth.trans h₁.auth,
    h₂.recvCh.trans h₁.recvCh, h₂.ctrlCh.trans h₁.ctrlCh, h₂.running.trans h₁.running⟩

/-- The datagrams sent since `s₀`, each describing `s`. -/
def Session.SentSince (s₀ s : Session Addr) : Prop :=
  ∃ ds, s.sent = s₀.sent ++ ds ∧ ∀ d ∈ ds, s.Describes d

theorem Session.SentSince.of_sent_eq (hs : s'.sent = s.sent) : s.SentSince s' :=
  ⟨[], by rw [hs, List.append_nil], by simp⟩

/-- Packets sent earlier keep describing a session whose state and frame
did not change since. -/
theorem Session.SentSince.trans (h₁ : s₁.SentSince s₂) (h₂ : s₂.SentSince s₃)
    (hf : s₂.Frame s₃) (hc : s₃.cachedState = s₂.cachedState) : s₁.SentSince s₃ := by
  obtain ⟨ds₁, hs₁, hd₁⟩ := h₁
  obtain ⟨ds₂, hs₂, hd₂⟩ := h₂
  refine ⟨ds₁ ++ ds₂, by rw [hs₂, hs₁, List.append_assoc], ?_⟩
  intro d hd
  rcases List.mem_append.mp hd with hd | hd
  · exact (hd₁ d hd).congr hc hf.localDiscr hf.detectMult hf.auth
  · exact hd₂ d hd

/-- A stretch of a handler that leaves the state alone: the session stays
sane in its frame, neither copy of the state nor the notifications change,
and every packet sent describes the session. -/
structure Session.Continues (s s' : Session Addr) : Prop where
  sane : s'.Sane
  frame : s.Frame s'
  cachedState : s'.cachedState = s.cachedState
  state : s'.state = s.state
  notifyCh : s'.notifyCh = s.notifyCh
  sent : s.SentSince s'

theorem Session.Continues.refl (hs : s.Sane) : s.Continues s :=
  ⟨hs, .refl s, rfl, rfl, rfl, .of_sent_eq rfl⟩

theorem Session.Continues.trans (h₁ : s₁.Continues s₂) (h₂ : s₂.Continues s₃) : s₁.Continues s₃ :=
  ⟨h₂.sane, h₁.frame.trans h₂.frame, h₂.cachedState.trans h₁.cachedState, h₂.state.trans h₁.state,
    h₂.notifyCh.trans h₁.notifyCh, h₁.sent.trans h₂.sent h₂.frame h₂.cachedState⟩

/-- What a whole handler does: the session stays sane in its frame, both
copies of the state are kept or a transition, never out of AdminDown,
stores one value in both, and every packet sent describes the session as
the handler leaves it. -/
structure Session.Handles (s s' : Session Addr) : Prop where
  sane : s'.Sane
  frame : s.Frame s'
  copies : (s'.cachedState = s.cachedState ∧ s'.state = s.state) ∨
    (s'.state = s'.cachedState ∧ s.cachedState ≠ .adminDown)
  sent : s.SentSince s'

theorem Session.Continues.handles (hc : s.Continues s') : s.Handles s' :=
  ⟨hc.sane, hc.frame, .inl ⟨hc.cachedState, hc.state⟩, hc.sent⟩

/-- A handler followed by a stretch that leaves the state alone. -/
theorem Session.Handles.continues (h₁ : s₁.Handles s₂) (h₂ : s₂.Continues s₃) : s₁.Handles s₃ := by
  refine ⟨h₂.sane, h₁.frame.trans h₂.frame, ?_, h₁.sent.trans h₂.sent h₂.frame h₂.cachedState⟩
  rw [h₂.cachedState, h₂.state]
  exact h₁.copies

/-- A prefix that sends nothing and leaves the state alone, then a handler. -/
theorem Session.Continues.handles_trans (h₁ : s₁.Continues s₂) (hsent : s₂.sent = s₁.sent)
    (h₂ : s₂.Handles s₃) : s₁.Handles s₃ := by
  refine ⟨h₂.sane, h₁.frame.trans h₂.frame, ?_, ?_⟩
  · rw [← h₁.cachedState, ← h₁.state]
    exact h₂.copies
  · obtain ⟨ds, hds, hd⟩ := h₂.sent
    exact ⟨ds, by rw [hds, hsent], hd⟩

/-! ## Updates that leave the state alone -/

/-- Storing a diagnostic. -/
theorem Session.Sane.withDiag (hs : s.Sane) {d : Diag} (hd : d < 32) :
    s.Continues { s with localDiag := d } :=
  ⟨{ hs with localDiag := hd }, ⟨rfl, rfl, rfl, rfl, rfl, rfl⟩, rfl, rfl, rfl, .of_sent_eq rfl⟩

/-- Storing a new auth state. -/
theorem Session.Sane.withAuthState (hs : s.Sane) {a : SessionAuth} (ha : s.auth = some a)
    (st : AuthState) : s.Continues { s with auth := some { a with state := st } } := by
  have hkeys := hs.keys_withState st
  rw [ha, Option.map_some] at hkeys
  exact ⟨{ hs with keys := hkeys }, ⟨rfl, rfl, by simp [ha], rfl, rfl, rfl⟩, rfl, rfl, rfl,
    .of_sent_eq rfl⟩

theorem Session.Sane.sendControl_continues (hs : s.Sane) (hx : s.sendControl h = some s') :
    s.Continues s' := by
  obtain ⟨q, st, buf, hw, hbuf, hsend⟩ := hs.sendControl h
  rw [hsend] at hx
  cases hx
  have hauth : (s.afterSend q st buf (paddedImage q s.paddedPduSize)).auth.isSome = s.auth.isSome := by
    simp [Session.afterSend, Session.rewritten]
  refine ⟨hs.afterSend st hbuf, ⟨rfl, rfl, hauth, rfl, rfl, rfl⟩, rfl, rfl, rfl,
    ⟨[paddedImage q s.paddedPduSize], rfl, ?_⟩⟩
  intro d hd
  rw [List.mem_singleton] at hd
  subst hd
  exact (hw.describes h hs _).congr rfl rfl rfl hauth

/-! ## FSM actions -/

section Actions

/-- One action leaves the state alone.  `NotifyDown` clears the remote
discriminator, which a sane session may only do outside Init and Up. -/
theorem Session.Sane.executeAction (hs : s.Sane) {a : Action}
    (hd : a = .notifyDown → s.cachedState = .down) (hx : s.executeAction h a = some s') :
    s.Continues s' := by
  cases a with
  | sendControl => exact hs.sendControl_continues h hx
  | notifyUp =>
    cases hx
    exact .refl hs
  | notifyDown =>
    cases hx
    have hdown := hd rfl
    have hsane : ({ s with remoteDiscr := 0 } : Session Addr).Sane :=
      { hs with remoteDiscr := fun hiu => by rcases hiu with hi | hu <;> simp_all }
    exact ⟨hsane, ⟨rfl, rfl, rfl, rfl, rfl, rfl⟩, rfl, rfl, rfl, .of_sent_eq rfl⟩
  | setDiagTimeExpired =>
    cases hx
    exact hs.withDiag (by decide)
  | setDiagNeighborDown =>
    cases hx
    exact hs.withDiag (by decide)
  | setDiagAdminDown =>
    cases hx
    exact hs.withDiag (by decide)

/-- The actions of a transition, in order. -/
theorem Session.Sane.foldlM_executeAction {as : List Action} (hs : s.Sane)
    (hd : .notifyDown ∈ as → s.cachedState = .down)
    (hx : as.foldlM (fun s a => s.executeAction h a) s = some s') : s.Continues s' := by
  induction as generalizing s with
  | nil =>
    cases hx
    exact .refl hs
  | cons a as ih =>
    rw [List.foldlM_cons] at hx
    obtain ⟨s₁, h₁, h₂⟩ := Option.bind_eq_some_iff.mp hx
    have hc₁ := hs.executeAction h (fun ha => hd (ha ▸ List.mem_cons_self)) h₁
    have hd₁ : .notifyDown ∈ as → s₁.cachedState = .down := fun ha =>
      hc₁.cachedState.trans (hd (List.mem_cons_of_mem a ha))
    exact hc₁.trans (ih hc₁.sane hd₁ h₂)

end Actions

/-! ## Transitions -/

section Transitions

/-- What `executeFSMActions` needs of a result to keep a session sane: a
move into Init or Up finds a remote discriminator, `NotifyDown` comes only
with a move into Down, and nothing moves out of AdminDown. -/
structure FSMResult.Fits (r : FSMResult) (s : Session Addr) : Prop where
  remoteDiscr : r.changed = true → r.newState = .init ∨ r.newState = .up → s.remoteDiscr ≠ 0
  notifyDown : .notifyDown ∈ r.actions → r.changed = true ∧ r.newState = .down
  adminDown : r.changed = true → s.cachedState ≠ .adminDown

/-- The events the loop raises are never `AdminUp`, and a received state
finds the remote discriminator the packet carried. -/
theorem applyEvent_fits {e : Event} (he : e ≠ .adminUp)
    (hrecv : e = .recvDown ∨ e = .recvInit ∨ e = .recvUp → s.remoteDiscr ≠ 0) :
    (applyEvent s.cachedState e).Fits s where
  remoteDiscr hc hiu := by
    rcases applyEvent_newState_up_or_init hiu with hsame | hev
    · exact absurd hsame ((applyEvent_changed _ _).mp hc)
    · exact hrecv hev
  notifyDown := applyEvent_notifyDown
  adminDown hc ha := by
    have hne := (applyEvent_changed _ _).mp hc
    rw [ha] at hne
    rcases applyEvent_adminDown_state e with hstay | ⟨hup, -⟩
    · exact hne hstay
    · exact he hup

/-- `handleAdminDown` adds a transmission to the transition's actions. -/
theorem FSMResult.Fits.sendControl {r : FSMResult} (hr : r.Fits s) :
    ({ r with actions := r.actions ++ [.sendControl] } : FSMResult).Fits s where
  remoteDiscr := hr.remoteDiscr
  notifyDown hn := by
    rcases List.mem_append.mp hn with hn | hn
    · exact hr.notifyDown hn
    · simp at hn
  adminDown := hr.adminDown

theorem recvStateToEvent_ne_adminUp (st : State) : recvStateToEvent st ≠ .adminUp := by
  cases st <;> simp [recvStateToEvent]

/-- `emitNotification` sends one `StateChange`, with the diagnostic as it
stands, on a non-nil channel. -/
theorem Session.emitNotification_eq (s : Session Addr) (r : FSMResult) :
    s.emitNotification r =
      { s with
        notifyCh := s.notifyCh.map fun queued => Go.trySend notifyChSize queued
          ({ localDiscr := s.localDiscr
             peerAddr := s.peerAddr
             oldState := r.oldState
             newState := r.newState
             diag := s.localDiag
             type := s.sessionType
             interface := s.ifName } : StateChange Addr) } := by
  obtain ⟨⟩ := s
  unfold Session.emitNotification
  split <;> simp_all

/-- The session once a change is stored in both copies and notified. -/
theorem Session.Sane.stored (hs : s.Sane) {r : FSMResult} (hr : r.Fits s) (hc : r.changed = true) :
    (({ s with state := r.newState, cachedState := r.newState } : Session Addr).emitNotification r).Sane := by
  rw [Session.emitNotification_eq]
  exact { hs with remoteDiscr := hr.remoteDiscr hc }

/-- A changed transition: everything after the store leaves the state
alone. -/
theorem Session.Sane.executeFSMActions_of_changed (hs : s.Sane) {r : FSMResult} (hr : r.Fits s)
    (hc : r.changed = true) (hx : s.executeFSMActions h r = some s') :
    (({ s with state := r.newState, cachedState := r.newState } : Session Addr).emitNotification r).Continues
      s' := by
  simp only [Session.executeFSMActions, hc, if_true] at hx
  refine (hs.stored hr hc).foldlM_executeAction h (fun hn => ?_) hx
  rw [Session.emitNotification_eq]
  exact (hr.notifyDown hn).2

/-- An unchanged transition only runs its actions. -/
theorem Session.Sane.executeFSMActions_of_unchanged (hs : s.Sane) {r : FSMResult} (hr : r.Fits s)
    (hc : r.changed = false) (hx : s.executeFSMActions h r = some s') : s.Continues s' := by
  simp only [Session.executeFSMActions, hc, Bool.false_eq_true, if_false] at hx
  refine hs.foldlM_executeAction h (fun hn => ?_) hx
  rw [(hr.notifyDown hn).1] at hc
  cases hc

/-- A transition as a whole. -/
theorem Session.Sane.executeFSMActions_handles (hs : s.Sane) {r : FSMResult} (hr : r.Fits s)
    (hx : s.executeFSMActions h r = some s') : s.Handles s' := by
  cases hc : r.changed with
  | false => exact (hs.executeFSMActions_of_unchanged h hr hc hx).handles
  | true =>
    have hcont := hs.executeFSMActions_of_changed h hr hc hx
    rw [Session.emitNotification_eq] at hcont
    refine ⟨hcont.sane, ⟨hcont.frame.localDiscr, hcont.frame.detectMult, hcont.frame.auth,
      hcont.frame.recvCh, hcont.frame.ctrlCh, hcont.frame.running⟩,
      .inr ⟨hcont.state.trans hcont.cachedState.symm, hr.adminDown hc⟩, ?_⟩
    obtain ⟨ds, hds, hd⟩ := hcont.sent
    exact ⟨ds, hds, hd⟩

/-- The notification of a transition carries the diagnostic that stood
before the transition's actions ran: the actions that set the diagnostic of
a move into Down or AdminDown come too late for it. -/
theorem Session.Sane.executeFSMActions_notifyCh (hs : s.Sane) {r : FSMResult} (hr : r.Fits s)
    (hc : r.changed = true) (hx : s.executeFSMActions h r = some s') :
    s'.notifyCh = s.notifyCh.map fun queued => Go.trySend notifyChSize queued
      ({ localDiscr := s.localDiscr
         peerAddr := s.peerAddr
         oldState := r.oldState
         newState := r.newState
         diag := s.localDiag
         type := s.sessionType
         interface := s.ifName } : StateChange Addr) := by
  have hcont := hs.executeFSMActions_of_changed h hr hc hx
  rw [hcont.notifyCh, Session.emitNotification_eq]

/-- A session without authentication or padding, at one-second timers. -/
def plainConfig : SessionConfig Unit where
  peerAddr := ()
  localAddr := ()
  interface := ""
  type := .singleHop
  role := .active
  desiredMinTxInterval := 1000000000
  requiredMinRxInterval := 1000000000
  detectMultiplier := 3
  auth := none
  authKeys := none
  paddedPduSize := 0

/-- A peer's Down packet, discriminator 9, that knows no discriminator of
ours yet. -/
def downWire : List UInt8 :=
  [0x20, 0x40, 3, 24, 0, 0, 0, 9, 0, 0, 0, 0, 0, 0x0F, 0x42, 0x40, 0, 0x0F, 0x42, 0x40, 0, 0, 0, 0]

def downPacket : ControlPacket where
  version := 1
  state := .down
  detectMult := 3
  length := 24
  myDiscriminator := 9
  desiredMinTxInterval := 1000000
  requiredMinRxInterval := 1000000

theorem unmarshal_downWire : unmarshalControlPacket downWire = .ok downPacket := rfl

/-- The peer's Up packet, addressed to our discriminator 7. -/
def upWire : List UInt8 :=
  [0x20, 0xC0, 3, 24, 0, 0, 0, 9, 0, 0, 0, 7, 0, 0x0F, 0x42, 0x40, 0, 0x0F, 0x42, 0x40, 0, 0, 0, 0]

def upPacket : ControlPacket where
  version := 1
  state := .up
  detectMult := 3
  length := 24
  myDiscriminator := 9
  yourDiscriminator := 7
  desiredMinTxInterval := 1000000
  requiredMinRxInterval := 1000000

theorem unmarshal_upWire : unmarshalControlPacket upWire = .ok upPacket := rfl

/-- A session brought Up by the peer's Down and Up packets, whose detection
timer then expires, notifies the move into Down with diagnostic 0 (No
Diagnostic), while its own diagnostic is 1 (Control Detection Time Expired)
once the transition's actions have run. -/
theorem timerExpired_stale_diag (h : Digests) :
    ∃ s₀ s₁ s₂, newSession h plainConfig 7 true 0 = .ok s₀ ∧
      Relation.ReflTransGen (Session.Step h) s₀ s₁ ∧ s₁.cachedState = .up ∧
      s₁.handleDetectTimer h false = some s₂ ∧ Session.Step h s₁ s₂ ∧
      ∃ sc, s₂.notifyCh.bind List.getLast? = some sc ∧ sc.newState = .down ∧ sc.diag = DiagNone ∧
        s₂.localDiag = DiagControlTimeExpired := by
  refine ⟨_, _, _, rfl,
    ((((Relation.ReflTransGen.single (Session.Step.run rfl)).tail
      (Session.Step.recvPacket { pkt := downPacket, wire := [] } ⟨downWire, unmarshal_downWire⟩)).tail
      (Session.Step.recv rfl rfl rfl)).tail
      (Session.Step.recvPacket { pkt := upPacket, wire := [] } ⟨upWire, unmarshal_upWire⟩)).tail
      (Session.Step.recv rfl rfl rfl), rfl, rfl, Session.Step.detectTimer false rfl rfl, _, rfl, rfl,
    rfl, rfl⟩

end Transitions

/-! ## Handlers -/

section Handlers

/-- `Verify` only moves the auth state. -/
theorem Session.Sane.verifyAuth (hs : s.Sane) {item : RecvItem} {r : Go.Result AuthError Unit}
    (hv : s.verifyAuth h item = (s₁, r)) : s.Continues s₁ ∧ s₁.sent = s.sent := by
  cases ha : s.auth with
  | none =>
    rw [Session.verifyAuth_of_none h ha] at hv
    obtain ⟨rfl, -⟩ := Prod.mk.inj hv
    exact ⟨.refl hs, rfl⟩
  | some a =>
    rw [Session.verifyAuth_of_some h ha] at hv
    obtain ⟨rfl, -⟩ := Prod.mk.inj hv
    exact ⟨hs.withAuthState ha _, rfl⟩

theorem Session.Sane.maybeResetAuthSeqKnown (hs : s.Sane) (idle : Bool) :
    s.Continues (s.maybeResetAuthSeqKnown idle) ∧ (s.maybeResetAuthSeqKnown idle).sent = s.sent := by
  unfold Session.maybeResetAuthSeqKnown
  split
  · rename_i a ha
    split
    · exact ⟨hs.withAuthState ha _, rfl⟩
    · exact ⟨.refl hs, rfl⟩
  · exact ⟨.refl hs, rfl⟩

theorem Session.Sane.handleTxTimer (hs : s.Sane) (hx : s.handleTxTimer h = some s') :
    s.Continues s' := by
  unfold Session.handleTxTimer Session.maybeSendControl at hx
  split at hx
  · cases hx
    exact .refl hs
  · split at hx
    · cases hx
      exact .refl hs
    · exact hs.sendControl_continues h hx

/-- The detection timer moves only Init and Up, into Down. -/
theorem Session.Sane.handleDetectTimer (hs : s.Sane) (idle : Bool)
    (hx : s.handleDetectTimer h idle = some s') : s.Handles s' := by
  obtain ⟨h₁, hsent⟩ := hs.maybeResetAuthSeqKnown idle
  unfold Session.handleDetectTimer at hx
  dsimp only at hx
  split at hx
  · cases hx
    exact h₁.handles
  · exact h₁.handles_trans hsent
      (h₁.sane.executeFSMActions_handles h (applyEvent_fits (by decide) (by simp)) hx)

/-- The move into Down that `handlePathDown` builds by hand from Init or Up,
clearing the remote discriminator. -/
theorem pathDown_fits (hnot : ¬(s.cachedState = .down ∨ s.cachedState = .adminDown)) :
    FSMResult.Fits
      { oldState := s.cachedState, newState := .down, changed := true,
        actions := [.notifyDown, .sendControl] } { s with localDiag := DiagPathDown } :=
  ⟨fun _ hiu => by simp at hiu, fun _ => ⟨rfl, rfl⟩, fun _ ha => hnot (.inr ha)⟩

theorem Session.Sane.handlePathDown (hs : s.Sane) (hx : s.handlePathDown h = some s') :
    s.Handles s' := by
  have h₁ := hs.withDiag (d := DiagPathDown) (by decide)
  unfold Session.handlePathDown at hx
  dsimp only at hx
  split at hx
  · cases hx
    exact h₁.handles
  · rename_i hnot
    exact h₁.handles_trans rfl (h₁.sane.executeFSMActions_handles h (pathDown_fits hnot) hx)

theorem Session.Sane.handleAdminDown (hs : s.Sane) (hx : s.handleAdminDown h = some s') :
    s.Handles s' := by
  unfold Session.handleAdminDown at hx
  dsimp only at hx
  split at hx
  · cases hx
    exact (hs.withDiag (by decide)).handles
  · exact hs.executeFSMActions_handles h ((applyEvent_fits (by decide) (by simp)).sendControl) hx

theorem Session.Sane.handleControlCommand (hs : s.Sane) {cmd : SessionControl}
    (hx : s.handleControlCommand h cmd = some s') : s.Handles s' := by
  cases cmd with
  | pathDown => exact hs.handlePathDown h hx
  | adminDown => exact hs.handleAdminDown h hx

/-- What `handleRecvPacket` stores of a packet that passed the checks: the
fields of steps 13 to 17, and a Poll bit as a pending Final. -/
def Session.recordPacket (s : Session Addr) (pkt : ControlPacket) : Session Addr :=
  { s with
    lastPacketRecv := true
    remoteDiscr := pkt.myDiscriminator
    remoteDemandMode := pkt.demand
    remoteMinRxInterval := durationFromMicroseconds pkt.requiredMinRxInterval
    remoteDesiredMinTxInterval := durationFromMicroseconds pkt.desiredMinTxInterval
    remoteDetectMult := pkt.detectMult
    remoteState := pkt.state
    pendingFinal := pkt.poll || s.pendingFinal }

@[simp] theorem Session.sent_recordPacket (pkt : ControlPacket) : (s.recordPacket pkt).sent = s.sent :=
  rfl

@[simp] theorem Session.pendingFinal_recordPacket (pkt : ControlPacket) :
    (s.recordPacket pkt).pendingFinal = (pkt.poll || s.pendingFinal) := rfl

@[simp] theorem Session.remoteDiscr_recordPacket (pkt : ControlPacket) :
    (s.recordPacket pkt).remoteDiscr = pkt.myDiscriminator := rfl

@[simp] theorem Session.cachedState_recordPacket (pkt : ControlPacket) :
    (s.recordPacket pkt).cachedState = s.cachedState := rfl

/-- Storing a packet's fields leaves the state alone; a packet with a
nonzero discriminator keeps the session sane. -/
theorem Session.Sane.recordPacket (hs : s.Sane) {pkt : ControlPacket}
    (hmy : pkt.myDiscriminator ≠ 0) : s.Continues (s.recordPacket pkt) :=
  ⟨{ hs with remoteDiscr := fun _ => hmy }, ⟨rfl, rfl, rfl, rfl, rfl, rfl⟩, rfl, rfl, rfl,
    .of_sent_eq rfl⟩

/-- `Verify` changes no field but the auth state. -/
theorem Session.verifyAuth_fields {item : RecvItem} {r : Go.Result AuthError Unit}
    (hv : s.verifyAuth h item = (s₁, r)) :
    s₁.pollActive = s.pollActive ∧ s₁.pendingFinal = s.pendingFinal ∧ s₁.sent = s.sent ∧
      s₁.cachedState = s.cachedState := by
  obtain ⟨au, rfl⟩ := Session.verifyAuth_shape_of_eq h hv
  exact ⟨rfl, rfl, rfl, rfl⟩

/-- `handleRecvPacket` on a packet that passed the auth checks, while no
Poll Sequence is active: store what it carries, raise its event, and send
the Final reply if one is still pending. -/
theorem Session.handleRecvPacket_of_ok (hpa : s.pollActive = false) {item : RecvItem}
    (hc : s.checkAuthConsistency item.pkt = true) (hv : s.verifyAuth h item = (s₁, .ok ())) :
    s.handleRecvPacket h item =
      ((s₁.recordPacket item.pkt).applyFSMEvent h (recvStateToEvent item.pkt.state)).bind fun s₄ =>
        if s₄.pendingFinal then s₄.sendControl h else pure s₄ := by
  have hpa₁ : s₁.pollActive = false := (Session.verifyAuth_fields h hv).1.trans hpa
  unfold Session.handleRecvPacket
  -- no Poll Sequence is active, so a Final bit terminates nothing
  simp only [hc, Bool.not_true, Bool.false_eq_true, if_false, hv, hpa₁, and_false, pure_bind,
    Option.bind_eq_bind]
  -- the Poll store is the last field `recordPacket` writes
  rw [Session.recordPacket, hpa₁]
  cases item.pkt.poll <;> rfl

/-- What `handleRecvPacket` can do while no Poll Sequence is active: drop the
packet at the auth checks, leaving the session as it was, or store what it
carries, raise its event and send the Final reply if one is still pending. -/
theorem Session.handleRecvPacket_cases (hpa : s.pollActive = false) {item : RecvItem}
    (hx : s.handleRecvPacket h item = some s') :
    (s' = s ∧ (s.checkAuthConsistency item.pkt = false ∨ ∃ e, s.verifyAuth h item = (s, .error (.error e)))) ∨
    ∃ s₁ s₄, s.checkAuthConsistency item.pkt = true ∧ s.verifyAuth h item = (s₁, .ok ()) ∧
      (s₁.recordPacket item.pkt).applyFSMEvent h (recvStateToEvent item.pkt.state) = some s₄ ∧
      (if s₄.pendingFinal then s₄.sendControl h else pure s₄) = some s' := by
  cases hc : s.checkAuthConsistency item.pkt with
  | false =>
    simp only [Session.handleRecvPacket, hc, Bool.not_false, if_true, Option.some.injEq] at hx
    exact .inl ⟨hx.symm, .inl rfl⟩
  | true =>
    rcases hv : s.verifyAuth h item with ⟨s₁, (f | ⟨⟩)⟩
    · simp only [Session.handleRecvPacket, hc, Bool.not_true, Bool.false_eq_true, if_false, hv] at hx
      -- a refused packet: `Verify` left the session as it was
      have hs₁ := Session.verifyAuth_of_error h hv
      rw [hs₁] at hv hx ⊢
      cases f with
      | error e =>
        cases hx
        exact .inl ⟨rfl, .inr ⟨e, rfl⟩⟩
      | panic => cases hx
    · rw [Session.handleRecvPacket_of_ok h hpa hc hv] at hx
      obtain ⟨s₄, h₄, h₅⟩ := Option.bind_eq_some_iff.mp hx
      exact .inr ⟨s₁, s₄, rfl, rfl, h₄, h₅⟩

/-- A received packet: the checks, then the fields it carries, then its
event, then the Final reply.  A packet with a nonzero discriminator keeps
the session sane. -/
theorem Session.Sane.handleRecvPacket (hs : s.Sane) {item : RecvItem}
    (hmy : item.pkt.myDiscriminator ≠ 0) (hx : s.handleRecvPacket h item = some s') :
    s.Handles s' := by
  rcases Session.handleRecvPacket_cases h hs.pollActive hx with ⟨rfl, -⟩ | ⟨s₁, s₄, -, hv, h₄, h₅⟩
  · exact (Session.Continues.refl hs).handles
  · obtain ⟨h₁, hsent₁⟩ := hs.verifyAuth h hv
    have h₃ := h₁.sane.recordPacket hmy
    have h₄' : s.Handles s₄ :=
      (h₁.trans h₃).handles_trans hsent₁
        (h₃.sane.executeFSMActions_handles h
          (applyEvent_fits (recvStateToEvent_ne_adminUp _) fun _ => hmy) h₄)
    -- the Final reply leaves the state alone
    have h₆ : s₄.Continues s' := by
      split at h₅
      · exact h₄'.sane.sendControl_continues h h₅
      · cases h₅
        exact .refl h₄'.sane
    exact h₄'.continues h₆

end Handlers

/-! ## NewSession -/

section Init

/-- What `validateSessionConfig` accepts: a nonzero multiplier and
discriminator, and a consistent auth configuration. -/
theorem validateSessionConfig_ok {cfg : SessionConfig Addr} {localDiscr : UInt32}
    (hv : validateSessionConfig cfg localDiscr = .ok ()) :
    cfg.detectMultiplier ≠ 0 ∧ localDiscr ≠ 0 ∧ validateSessionAuthConfig cfg = .ok () := by
  simp only [validateSessionConfig, throw, throwThe, MonadExceptOf.throw, bind, Except.bind] at hv
  split_ifs at hv with h1 h2 h3 h4 h5 h6 h7 h8
  exact ⟨by simpa using h1, h7, hv⟩

/-- A store `NewStaticAuthKeyStore` returned signs with the key it was given,
which passed `validateAuthKey`. -/
theorem newStaticAuthKeyStore_ok {current : AuthKey} {additional : List AuthKey}
    {keys : AuthKeyStore} (hk : newStaticAuthKeyStore current additional = .ok keys) :
    keys.currentKey = current ∧ validateAuthKey current = .ok () := by
  cases hv : validateAuthKey current with
  | error e =>
    simp [newStaticAuthKeyStore, hv] at hk
    cases hk
  | ok u =>
    refine ⟨?_, rfl⟩
    cases hf : additional.forM validateAuthKey with
    | error e =>
      simp [newStaticAuthKeyStore, hv, hf] at hk
      cases hk
    | ok u' =>
      simp [newStaticAuthKeyStore, hv, hf] at hk
      cases hk
      rfl

variable {cfg : SessionConfig Addr}

/-- The auth state `NewSession` creates signs with a key that fits the
authenticator, when the key store came from `NewStaticAuthKeyStore`. -/
theorem initAuth_fits (hkeys : ∀ keys, cfg.authKeys = some keys →
      ∃ current additional, newStaticAuthKeyStore current additional = .ok keys)
    (hv : validateSessionAuthConfig cfg = .ok ()) (seed : UInt32) :
    ∀ a, initAuth cfg seed = some a → a.keys.currentKey.Fits a.auth := by
  unfold initAuth
  split
  · rename_i auth keys ha hk
    intro a heq
    cases heq
    obtain ⟨current, additional, hstore⟩ := hkeys keys hk
    obtain ⟨hcur, hval⟩ := newStaticAuthKeyStore_ok hstore
    simp only [validateSessionAuthConfig, ha, hk] at hv
    split at hv
    · cases hv
    · rename_i htype
      exact ⟨hcur ▸ hval, not_not.mp htype⟩
  · intro a heq
    cases heq

theorem isSome_initAuth (hv : validateSessionAuthConfig cfg = .ok ()) (seed : UInt32) :
    (initAuth cfg seed).isSome = cfg.auth.isSome := by
  unfold initAuth
  split
  · rename_i ha _
    simp [ha]
  · cases ha : cfg.auth with
    | none => rfl
    | some auth =>
      cases hk : cfg.authKeys with
      | none => simp [validateSessionAuthConfig, ha, hk] at hv
      | some keys => simp_all

end Init

/-! ## Runs -/

/-- What holds of a session along every run from `NewSession`: it is sane,
it keeps the configured multiplier and auth, its queued packets decoded,
and its two copies of the state agree unless `SetAdminDown` stored AdminDown
in the atomic copy alone, which the loop never leaves once it enters it. -/
structure Session.Good (cfg : SessionConfig Addr) (s : Session Addr) : Prop extends Session.Sane s where
  detectMult_eq : s.detectMult = cfg.detectMultiplier
  auth_eq : s.auth.isSome = cfg.auth.isSome
  recvCh : ∀ item ∈ s.recvCh, item.pkt.myDiscriminator ≠ 0
  copies : s.state = s.cachedState ∨ s.state = .adminDown
  adminDown : s.cachedState = .adminDown → s.state = .adminDown

section Runs

variable {cfg : SessionConfig Addr}

/-- Rebuilding the cached packet keeps a session good. -/
theorem Session.Good.rebuildCachedPacket (hg : s.Good cfg) (hr : s.rebuildCachedPacket h = some s') :
    s'.Good cfg := by
  obtain ⟨q, st, hr', hw⟩ := hg.toSane.rebuildCachedPacket h
  rw [hr'] at hr
  cases hr
  exact { hg.toSane.rewritten hw.wellFormed st with
    detectMult_eq := hg.detectMult_eq
    auth_eq := by simp [hg.auth_eq]
    recvCh := hg.recvCh
    copies := hg.copies
    adminDown := hg.adminDown }

/-- `NewSession` starts a good session. -/
theorem newSession_good (hkeys : ∀ keys, cfg.authKeys = some keys →
      ∃ current additional, newStaticAuthKeyStore current additional = .ok keys)
    {localDiscr : UInt32} {notify : Bool} {seed : UInt32}
    (hn : newSession h cfg localDiscr notify seed = .ok s) : s.Good cfg := by
  unfold newSession at hn
  split at hn
  · cases hn
  · rename_i hv
    obtain ⟨hmult, hdiscr, hauth⟩ := validateSessionConfig_ok hv
    dsimp only at hn
    split at hn
    · rename_i s₀ hr
      cases hn
      -- the record of RFC 5880 Section 6.8.1 initial values
      refine Session.Good.rebuildCachedPacket h ?_ hr
      exact
        { localDiscr := hdiscr
          detectMult := hmult
          localDiag := (by decide : DiagNone < 32)
          pollActive := rfl
          buffer := by simp only [List.length_replicate]; split <;> omega
          padded := by simp only [List.length_replicate]; split <;> omega
          keys := initAuth_fits hkeys hauth seed
          remoteDiscr := fun hiu => by simp at hiu
          detectMult_eq := rfl
          auth_eq := isSome_initAuth hauth seed
          recvCh := by simp
          copies := .inl rfl
          adminDown := fun ha => by cases ha }
    · cases hn

/-- A handler keeps a session good. -/
theorem Session.Good.handles (hg : s.Good cfg) (hh : s.Handles s') : s'.Good cfg := by
  have hf := hh.frame
  refine { hh.sane with
    detectMult_eq := hf.detectMult.trans hg.detectMult_eq
    auth_eq := hf.auth.trans hg.auth_eq
    recvCh := by rw [hf.recvCh]; exact hg.recvCh
    copies := ?_
    adminDown := ?_ }
  · rcases hh.copies with ⟨hc, hs⟩ | ⟨he, -⟩
    · rw [hc, hs]
      exact hg.copies
    · exact .inl he
  · rcases hh.copies with ⟨hc, hs⟩ | ⟨he, -⟩
    · rw [hc, hs]
      exact hg.adminDown
    · intro ha
      rw [he, ha]

/-- A handler leaves AdminDown alone. -/
theorem Session.Handles.adminDown (hh : s.Handles s') (ha : s.cachedState = .adminDown)
    (hst : s.state = .adminDown) : s'.cachedState = .adminDown ∧ s'.state = .adminDown := by
  rcases hh.copies with ⟨hc, hs⟩ | ⟨-, hne⟩
  · exact ⟨hc.trans ha, hs.trans hst⟩
  · exact absurd ha hne

/-- The loop takes a received packet off the queue and handles it. -/
theorem Session.Good.recv_handles (hg : s.Good cfg) {item : RecvItem} {rest : List RecvItem}
    (hq : s.recvCh = item :: rest)
    (hx : ({ s with recvCh := rest } : Session Addr).handleRecvPacket h item = some s') :
    ({ s with recvCh := rest } : Session Addr).Good cfg ∧
      ({ s with recvCh := rest } : Session Addr).Handles s' := by
  have hmy : item.pkt.myDiscriminator ≠ 0 := hg.recvCh item (by rw [hq]; exact List.mem_cons_self)
  have hg' : ({ s with recvCh := rest } : Session Addr).Good cfg :=
    { hg with recvCh := fun it hit => hg.recvCh it (by rw [hq]; exact List.mem_cons_of_mem _ hit) }
  exact ⟨hg', hg'.toSane.handleRecvPacket h hmy hx⟩

/-- The loop takes a command off the control queue and handles it. -/
theorem Session.Good.control_handles (hg : s.Good cfg) {cmd : SessionControl}
    {rest : List SessionControl}
    (hx : ({ s with ctrlCh := rest } : Session Addr).handleControlCommand h cmd = some s') :
    ({ s with ctrlCh := rest } : Session Addr).Good cfg ∧
      ({ s with ctrlCh := rest } : Session Addr).Handles s' :=
  have hg' : ({ s with ctrlCh := rest } : Session Addr).Good cfg := { hg with }
  ⟨hg', hg'.toSane.handleControlCommand h hx⟩

/-- One step of a run keeps the session good, and every packet the step
sends describes the session as the step leaves it. -/
theorem Session.Good.step (hg : s.Good cfg) (hstep : Session.Step h s s') :
    s'.Good cfg ∧ s.SentSince s' := by
  cases hstep with
  | recvPacket item hd =>
    unfold Session.recvPacket
    split
    · refine ⟨{ hg with recvCh := ?_ }, .of_sent_eq rfl⟩
      intro it hit
      rcases List.mem_append.mp hit with hit | hit
      · exact hg.recvCh it hit
      · -- the receivers queue only packets the decoder accepted
        rw [List.mem_singleton] at hit
        subst hit
        obtain ⟨b, hb⟩ := hd
        exact (wellFormed_of_unmarshal hb).myDiscriminator
    · exact ⟨hg, .of_sent_eq rfl⟩
  | setPathDown =>
    unfold Session.setPathDown
    split
    · exact ⟨{ hg with }, .of_sent_eq rfl⟩
    · exact ⟨hg, .of_sent_eq rfl⟩
  | setAdminDown =>
    unfold Session.setAdminDown
    split
    · exact ⟨{ hg with }, .of_sent_eq rfl⟩
    · -- the fallback stores AdminDown in the atomic copy alone
      have hg' : ({ s with localDiag := DiagAdminDown, state := .adminDown } : Session Addr).Good cfg :=
        { hg with
          localDiag := (by decide : DiagAdminDown < 32)
          copies := .inr rfl
          adminDown := fun _ => rfl }
      exact ⟨hg', .of_sent_eq rfl⟩
  | run hr =>
    -- `Run` copies the atomic state into `cachedState`
    refine ⟨{ hg with
      remoteDiscr := ?_
      copies := .inl rfl
      adminDown := id }, .of_sent_eq rfl⟩
    intro hiu
    rcases hg.copies with he | ha
    · exact hg.remoteDiscr (he ▸ hiu)
    · rcases hiu with hi | hu
      · exact absurd (ha.symm.trans hi) nofun
      · exact absurd (ha.symm.trans hu) nofun
  | stop hr => exact ⟨{ hg with }, .of_sent_eq rfl⟩
  | recv hr hq hx =>
    obtain ⟨hg', hh⟩ := hg.recv_handles h hq hx
    exact ⟨hg'.handles hh, hh.sent⟩
  | control hr hq hx =>
    obtain ⟨hg', hh⟩ := hg.control_handles h hx
    exact ⟨hg'.handles hh, hh.sent⟩
  | txTimer hr hx =>
    have hh := (hg.toSane.handleTxTimer h hx).handles
    exact ⟨hg.handles hh, hh.sent⟩
  | detectTimer idle hr hx =>
    have hh := hg.toSane.handleDetectTimer h idle hx
    exact ⟨hg.handles hh, hh.sent⟩

/-- A run keeps a session good. -/
theorem Session.Good.run (hg : s.Good cfg) (hrun : Relation.ReflTransGen (Session.Step h) s s') :
    s'.Good cfg := by
  induction hrun with
  | refl => exact hg
  | tail _ hstep ih => exact (ih.step h hstep).1

/-- Every session along every run from `NewSession` is good. -/
theorem Session.Reachable.good (hkeys : ∀ keys, cfg.authKeys = some keys →
      ∃ current additional, newStaticAuthKeyStore current additional = .ok keys)
    (hr : Session.Reachable h cfg s) : s.Good cfg := by
  obtain ⟨localDiscr, notify, seed, s₀, hn, hrun⟩ := hr
  exact (newSession_good h hkeys hn).run h hrun

/-- AdminDown, once the loop has entered it, is never left: from a good
session whose goroutine copy of the state is AdminDown, every step keeps
both copies AdminDown. -/
theorem Session.Good.step_adminDown (hg : s.Good cfg) (hstep : Session.Step h s s')
    (ha : s.cachedState = .adminDown) : s'.cachedState = .adminDown ∧ s'.state = .adminDown := by
  have hst := hg.adminDown ha
  cases hstep with
  | recvPacket item hd =>
    unfold Session.recvPacket
    split <;> exact ⟨ha, hst⟩
  | setPathDown =>
    unfold Session.setPathDown
    split <;> exact ⟨ha, hst⟩
  | setAdminDown =>
    unfold Session.setAdminDown
    split
    · exact ⟨ha, hst⟩
    · exact ⟨ha, rfl⟩
  | run hr => exact ⟨hst, hst⟩
  | stop hr => exact ⟨ha, hst⟩
  | recv hr hq hx => exact (hg.recv_handles h hq hx).2.adminDown ha hst
  | control hr hq hx => exact (hg.control_handles h hx).2.adminDown ha hst
  | txTimer hr hx => exact (hg.toSane.handleTxTimer h hx).handles.adminDown ha hst
  | detectTimer idle hr hx => exact (hg.toSane.handleDetectTimer h idle hx).adminDown ha hst

/-- AdminDown stored by `SetAdminDown` alone is not absorbing.  With `Run`
active and four `SetPathDown` commands filling the control channel,
`SetAdminDown` falls back to storing AdminDown in the atomic copy while
`cachedState` stays Down; the peer's Down packet then moves the session to
Init, overwriting the atomic AdminDown, and the reply says Init. -/
theorem adminDown_overwritten (h : Digests) :
    ∃ s₀ s₁ s₂, newSession h plainConfig 7 false 0 = .ok s₀ ∧
      Relation.ReflTransGen (Session.Step h) s₀ s₁ ∧ s₁.state = .adminDown ∧ s₁.cachedState = .down ∧
      Relation.ReflTransGen (Session.Step h) s₁ s₂ ∧ s₂.state = .init ∧
      ∃ d : List UInt8, s₂.sent = s₁.sent ++ [d] ∧ d.getD 1 0 >>> 6 = 2 := by
  refine ⟨_, _, _, rfl,
    (((((Relation.ReflTransGen.single (Session.Step.run rfl)).tail Session.Step.setPathDown).tail
      Session.Step.setPathDown).tail Session.Step.setPathDown).tail Session.Step.setPathDown).tail
      Session.Step.setAdminDown, rfl, rfl,
    (Relation.ReflTransGen.single
      (Session.Step.recvPacket { pkt := downPacket, wire := [] } ⟨downWire, unmarshal_downWire⟩)).tail
      (Session.Step.recv rfl rfl rfl), rfl, _, rfl, rfl⟩

/-- Every packet a session sends is a valid Control packet describing it:
along every run from `NewSession` (with a key store from
`NewStaticAuthKeyStore` when auth is configured), each datagram a step hands
to the sender, cut at its Length byte, decodes to a packet with the local
discriminator, the state the step leaves in `cachedState`, no Multipoint
bit, the configured multiplier, never both Poll and Final, the A bit exactly
when auth is configured, and a remote discriminator whenever it says Init or
Up. -/
theorem sent_packets_describe_session
    (hkeys : ∀ keys, cfg.authKeys = some keys →
      ∃ current additional, newStaticAuthKeyStore current additional = .ok keys)
    (hr : Session.Reachable h cfg s) (hstep : Session.Step h s s') :
    ∃ ds, s'.sent = s.sent ++ ds ∧ ∀ d ∈ ds, ∃ q : ControlPacket,
      unmarshalControlPacket (d.take (d.getD 3 0).toNat) = .ok q ∧
      q.myDiscriminator = s'.localDiscr ∧ q.state = s'.cachedState ∧ q.multipoint = false ∧
      q.detectMult = cfg.detectMultiplier ∧ ¬(q.poll = true ∧ q.final = true) ∧
      q.authPresent = cfg.auth.isSome ∧
      (q.state = .init ∨ q.state = .up → q.yourDiscriminator ≠ 0) := by
  obtain ⟨hg', ds, hds, hd⟩ := (hr.good h hkeys).step h hstep
  refine ⟨ds, hds, fun d hmem => ?_⟩
  obtain ⟨q, hq, hstate, hmy, hmult, hmp, hpoll, hauth, hyour⟩ := hd d hmem
  refine ⟨q, hq, hmy, hstate, hmp, hmult.trans hg'.detectMult_eq, ?_, hauth.trans hg'.auth_eq, hyour⟩
  rw [hpoll]
  exact fun hpf => Bool.false_ne_true hpf.1

/-- The first transmission of a started session without auth. -/
theorem sent_packets_describe_session_plainConfig :
    ∃ s s' : Session Unit, Session.Reachable lengthDigests plainConfig s ∧
      Session.Step lengthDigests s s' ∧
      ∃ ds, s'.sent = s.sent ++ ds ∧ ∀ d ∈ ds, ∃ q : ControlPacket,
        unmarshalControlPacket (d.take (d.getD 3 0).toNat) = .ok q ∧
        q.myDiscriminator = s'.localDiscr ∧ q.state = s'.cachedState ∧ q.multipoint = false ∧
        q.detectMult = plainConfig.detectMultiplier ∧ ¬(q.poll = true ∧ q.final = true) ∧
        q.authPresent = plainConfig.auth.isSome ∧
        (q.state = .init ∨ q.state = .up → q.yourDiscriminator ≠ 0) :=
  have hr : Session.Reachable lengthDigests plainConfig _ :=
    ⟨7, false, 0, _, rfl, .single (Session.Step.run rfl)⟩
  have hstep : Session.Step lengthDigests _ _ := Session.Step.txTimer rfl rfl
  ⟨_, _, hr, hstep,
    sent_packets_describe_session lengthDigests (fun _ hk => nomatch hk) hr hstep⟩

end Runs

end GoBFD
