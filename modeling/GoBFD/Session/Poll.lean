import GoBFD.Session.Invariant

/-!
# GoBFD.Session.Poll

The Poll and Final bits of RFC 5880 Section 6.5 as a session handles them.
A received packet with the Poll bit sets `pendingFinal`; the next
`buildControlPacket` copies it into the Final bit and clears it.  The
session never starts a Poll Sequence of its own: nothing sets `pollActive`.

`Session.AnswersSince s₀ s` is what a stretch of a handler does with a
pending Final: the datagrams sent in between carry it on the first of them
and on no other, and it is still pending at `s` only when nothing was sent.
Every handler keeps it from a sane session, and `handleRecvPacket` is the
one place that raises a pending Final, for a packet that passed the auth
checks (`Session.acceptsPoll`).  Along every run, then, no Final is pending
between steps, and a step sends a Final exactly on its first datagram when
it took a valid Poll off the receive queue, which it always answers
(`final_answers_poll`).

The argument needs the sane session of `GoBFD.Session.Invariant`, whose key
fits its authenticator.  A key store that `NewSession` accepts but whose
current key cannot be marshalled leaves the transmit buffer as it was, so a
Poll is answered by an empty datagram (`poll_unanswered_long_password`).
A change of the advertised intervals is never announced by a Poll
(`up_without_poll_sequence`).
-/

namespace GoBFD

variable {Addr : Type} (h : Digests) {s s' s₁ s₂ s₃ : Session Addr}

/-! ## Final bits -/

/-- The Final bit of a datagram as a receiver reads it: cut at its Length
byte and decoded.  A datagram that does not decode carries none. -/
def datagramFinal (d : List UInt8) : Bool :=
  match unmarshalControlPacket (d.take (d.getD 3 0).toNat) with
  | .ok q => q.final
  | .error _ => false

/-- The Final bits of `n` datagrams sent while `p` was pending: `p` on the
first, none on the others. -/
def finalBits (p : Bool) : Nat → List Bool
  | 0 => []
  | n + 1 => p :: List.replicate n false

theorem finalBits_false (n : Nat) : finalBits false n = List.replicate n false := by
  cases n <;> rfl

/-- A pending Final answered by the first stretch of datagrams is gone for
the next one. -/
theorem finalBits_append {α : Type} (p : Bool) (ds : List α) (n : Nat) :
    finalBits p ds.length ++ finalBits (p && ds.isEmpty) n = finalBits p (ds.length + n) := by
  cases ds with
  | nil => simp [finalBits]
  | cons d ds =>
    rw [List.length_cons, List.isEmpty_cons, Bool.and_false, finalBits_false, Nat.add_right_comm]
    simp only [finalBits, List.cons_append, List.replicate_append_replicate]

/-- The datagram `sendControl` makes of a written packet carries its Final
bit. -/
theorem datagramFinal_paddedImage {q : ControlPacket} (hq : q.WellFormed) (pad : Nat) :
    datagramFinal (paddedImage q pad) = q.final := by
  unfold datagramFinal
  rw [unmarshal_paddedImage hq]

/-! ## Stretches that answer a pending Final -/

/-- From `s₀` to `s`: the datagrams sent carry the Final bit pending at `s₀`
on the first of them and on no other, and that Final is still pending at
`s` only when nothing was sent. -/
def Session.AnswersSince (s₀ s : Session Addr) : Prop :=
  ∃ ds, s.sent = s₀.sent ++ ds ∧ ds.map datagramFinal = finalBits s₀.pendingFinal ds.length ∧
    s.pendingFinal = (s₀.pendingFinal && ds.isEmpty)

/-- A stretch that sends nothing and keeps the pending Final. -/
theorem Session.AnswersSince.of_eq (hsent : s'.sent = s.sent)
    (hp : s'.pendingFinal = s.pendingFinal) : s.AnswersSince s' :=
  ⟨[], by rw [hsent, List.append_nil], rfl, by rw [hp, List.isEmpty_nil, Bool.and_true]⟩

theorem Session.AnswersSince.trans (h₁ : s₁.AnswersSince s₂) (h₂ : s₂.AnswersSince s₃) :
    s₁.AnswersSince s₃ := by
  obtain ⟨ds₁, hs₁, hf₁, hp₁⟩ := h₁
  obtain ⟨ds₂, hs₂, hf₂, hp₂⟩ := h₂
  refine ⟨ds₁ ++ ds₂, by rw [hs₂, hs₁, List.append_assoc], ?_, ?_⟩
  · rw [List.map_append, hf₁, hf₂, hp₁, List.length_append, finalBits_append]
  · rw [hp₂, hp₁, Bool.and_assoc]
    cases ds₁ <;> cases ds₂ <;> rfl

/-- `sendControl` from a sane session answers what is pending with its one
datagram. -/
theorem Session.Sane.sendControl_answers (hs : s.Sane) (hx : s.sendControl h = some s') :
    s.AnswersSince s' := by
  obtain ⟨q, st, buf, hw, -, hsend⟩ := hs.sendControl h
  rw [hsend] at hx
  cases hx
  obtain ⟨-, -, -, -, hfinal⟩ := hw.fields
  refine ⟨[paddedImage q s.paddedPduSize], rfl, ?_, ?_⟩
  · rw [List.map_singleton, datagramFinal_paddedImage hw.wellFormed, hfinal]
    rfl
  · simp [Session.afterSend, Session.rewritten]

/-- `buildControlPacket` consumes the pending Final. -/
theorem Session.Sane.sendControl_pendingFinal (hs : s.Sane) (hx : s.sendControl h = some s') :
    s'.pendingFinal = false := by
  obtain ⟨q, st, buf, -, -, hsend⟩ := hs.sendControl h
  rw [hsend] at hx
  cases hx
  rfl

theorem Session.Sane.executeAction_answers (hs : s.Sane) {a : Action}
    (hx : s.executeAction h a = some s') : s.AnswersSince s' := by
  cases a with
  | sendControl => exact hs.sendControl_answers h hx
  | _ =>
    cases hx
    exact .of_eq rfl rfl

/-- The actions of a transition, in order; each keeps the session sane for
the next. -/
theorem Session.Sane.foldlM_executeAction_answers {as : List Action} (hs : s.Sane)
    (hd : .notifyDown ∈ as → s.cachedState = .down)
    (hx : as.foldlM (fun s a => s.executeAction h a) s = some s') : s.AnswersSince s' := by
  induction as generalizing s with
  | nil =>
    cases hx
    exact .of_eq rfl rfl
  | cons a as ih =>
    rw [List.foldlM_cons] at hx
    obtain ⟨s₁, h₁, h₂⟩ := Option.bind_eq_some_iff.mp hx
    have hc₁ := hs.executeAction h (fun ha => hd (ha ▸ List.mem_cons_self)) h₁
    have hd₁ : .notifyDown ∈ as → s₁.cachedState = .down := fun ha =>
      hc₁.cachedState.trans (hd (List.mem_cons_of_mem a ha))
    exact (hs.executeAction_answers h h₁).trans (ih hc₁.sane hd₁ h₂)

theorem Session.Sane.executeFSMActions_answers (hs : s.Sane) {r : FSMResult} (hr : r.Fits s)
    (hx : s.executeFSMActions h r = some s') : s.AnswersSince s' := by
  cases hc : r.changed with
  | false =>
    simp only [Session.executeFSMActions, hc, Bool.false_eq_true, if_false] at hx
    refine hs.foldlM_executeAction_answers h (fun hn => ?_) hx
    rw [(hr.notifyDown hn).1] at hc
    cases hc
  | true =>
    simp only [Session.executeFSMActions, hc, if_true] at hx
    -- storing and notifying the change sends nothing and keeps the pending Final
    have hpre : s.AnswersSince
        (({ s with state := r.newState, cachedState := r.newState } : Session Addr).emitNotification r) :=
      .of_eq (by rw [Session.emitNotification_eq]) (by rw [Session.emitNotification_eq])
    refine hpre.trans ((hs.stored hr hc).foldlM_executeAction_answers h (fun hn => ?_) hx)
    rw [Session.emitNotification_eq]
    exact (hr.notifyDown hn).2

/-! ## Handlers -/

section Handlers

theorem Session.Sane.handleTxTimer_answers (hs : s.Sane) (hx : s.handleTxTimer h = some s') :
    s.AnswersSince s' := by
  unfold Session.handleTxTimer Session.maybeSendControl at hx
  split at hx
  · cases hx
    exact .of_eq rfl rfl
  · split at hx
    · cases hx
      exact .of_eq rfl rfl
    · exact hs.sendControl_answers h hx

@[simp] theorem Session.pendingFinal_maybeResetAuthSeqKnown (idle : Bool) :
    (s.maybeResetAuthSeqKnown idle).pendingFinal = s.pendingFinal := by
  unfold Session.maybeResetAuthSeqKnown
  split
  · split <;> rfl
  · rfl

theorem Session.Sane.handleDetectTimer_answers (hs : s.Sane) (idle : Bool)
    (hx : s.handleDetectTimer h idle = some s') : s.AnswersSince s' := by
  obtain ⟨h₁, hsent⟩ := hs.maybeResetAuthSeqKnown idle
  have hpre : s.AnswersSince (s.maybeResetAuthSeqKnown idle) :=
    .of_eq hsent (Session.pendingFinal_maybeResetAuthSeqKnown idle)
  unfold Session.handleDetectTimer at hx
  dsimp only at hx
  split at hx
  · cases hx
    exact hpre
  · exact hpre.trans
      (h₁.sane.executeFSMActions_answers h (applyEvent_fits (by decide) (by simp)) hx)

theorem Session.Sane.handlePathDown_answers (hs : s.Sane) (hx : s.handlePathDown h = some s') :
    s.AnswersSince s' := by
  have h₁ := hs.withDiag (d := DiagPathDown) (by decide)
  unfold Session.handlePathDown at hx
  dsimp only at hx
  split at hx
  · cases hx
    exact .of_eq rfl rfl
  · rename_i hnot
    exact (Session.AnswersSince.of_eq rfl rfl).trans
      (h₁.sane.executeFSMActions_answers h (pathDown_fits hnot) hx)

theorem Session.Sane.handleAdminDown_answers (hs : s.Sane) (hx : s.handleAdminDown h = some s') :
    s.AnswersSince s' := by
  unfold Session.handleAdminDown at hx
  dsimp only at hx
  split at hx
  · cases hx
    exact .of_eq rfl rfl
  · exact hs.executeFSMActions_answers h ((applyEvent_fits (by decide) (by simp)).sendControl) hx

theorem Session.Sane.handleControlCommand_answers (hs : s.Sane) {cmd : SessionControl}
    (hx : s.handleControlCommand h cmd = some s') : s.AnswersSince s' := by
  cases cmd with
  | pathDown => exact hs.handlePathDown_answers h hx
  | adminDown => exact hs.handleAdminDown_answers h hx

/-- A received packet that passes the checks of steps 8 and 9 and
authentication, and carries the Poll bit. -/
def Session.acceptsPoll (s : Session Addr) (item : RecvItem) : Bool :=
  s.checkAuthConsistency item.pkt && (s.verifyAuth h item).2.isOk && item.pkt.poll

/-- A received packet with no Final pending: the datagrams sent carry a
Final on the first of them exactly when the packet was a valid Poll, which
then is answered, and afterwards none is pending. -/
theorem Session.Sane.handleRecvPacket_answers (hs : s.Sane) (hp : s.pendingFinal = false)
    {item : RecvItem} (hmy : item.pkt.myDiscriminator ≠ 0) (hx : s.handleRecvPacket h item = some s') :
    ∃ ds, s'.sent = s.sent ++ ds ∧ ds.map datagramFinal = finalBits (s.acceptsPoll h item) ds.length ∧
      (s.acceptsPoll h item = true → ds ≠ []) ∧ s'.pendingFinal = false := by
  rcases Session.handleRecvPacket_cases h hs.pollActive hx with
    ⟨hss, hdrop⟩ | ⟨s₁, s₄, hc, hv, h₄, h₅⟩
  · -- a dropped packet is no valid Poll
    have hno : s.acceptsPoll h item = false := by
      rcases hdrop with hc | ⟨e, hv⟩
      · simp [Session.acceptsPoll, hc]
      · simp [Session.acceptsPoll, hv, Except.isOk, Except.toBool]
    refine ⟨[], by rw [hss, List.append_nil], by rw [hno]; rfl, by simp [hno], by rw [hss]; exact hp⟩
  · obtain ⟨h₁, -⟩ := hs.verifyAuth h hv
    obtain ⟨-, hp₁, hsent₁, -⟩ := Session.verifyAuth_fields h hv
    have h₃ := h₁.sane.recordPacket hmy
    have hacc : s.acceptsPoll h item = (s₁.recordPacket item.pkt).pendingFinal := by
      simp [Session.acceptsPoll, hc, hv, hp₁, hp, Except.isOk, Except.toBool]
    -- the transition and the Final reply answer what the Poll left pending
    have h₄' := h₃.sane.executeFSMActions_answers h
      (applyEvent_fits (recvStateToEvent_ne_adminUp _) fun _ => hmy) h₄
    have hc₄ := h₃.sane.executeFSMActions_handles h
      (applyEvent_fits (recvStateToEvent_ne_adminUp _) fun _ => hmy) h₄
    have h₅' : s₄.AnswersSince s' ∧ s'.pendingFinal = false := by
      split at h₅
      · exact ⟨hc₄.sane.sendControl_answers h h₅, hc₄.sane.sendControl_pendingFinal h h₅⟩
      · rename_i hp₄
        cases h₅
        exact ⟨.of_eq rfl rfl, by simpa using hp₄⟩
    obtain ⟨ds, hds, hf, hp'⟩ := h₄'.trans h₅'.1
    refine ⟨ds, by rw [hds, Session.sent_recordPacket, hsent₁], by rw [hacc]; exact hf,
      fun hpoll => ?_, h₅'.2⟩
    -- a Final still pending after an empty stretch would contradict the reply
    rintro rfl
    rw [h₅'.2, ← hacc, hpoll] at hp'
    cases hp'

end Handlers

/-! ## Handlers run to the end -/

section Total

theorem Session.Sane.sendControl_isSome (hs : s.Sane) : ∃ s', s.sendControl h = some s' := by
  obtain ⟨q, st, buf, -, -, hsend⟩ := hs.sendControl h
  exact ⟨_, hsend⟩

theorem Session.Sane.foldlM_executeAction_isSome {as : List Action} (hs : s.Sane)
    (hd : .notifyDown ∈ as → s.cachedState = .down) :
    ∃ s', as.foldlM (fun s a => s.executeAction h a) s = some s' := by
  induction as generalizing s with
  | nil => exact ⟨s, rfl⟩
  | cons a as ih =>
    -- only `SendControl` could fail, and from a sane session it does not
    have h₁ : ∃ s₁, s.executeAction h a = some s₁ := by
      cases a with
      | sendControl => exact hs.sendControl_isSome h
      | _ => exact ⟨_, rfl⟩
    obtain ⟨s₁, h₁⟩ := h₁
    have hc₁ := hs.executeAction h (fun ha => hd (ha ▸ List.mem_cons_self)) h₁
    obtain ⟨s', h'⟩ := ih hc₁.sane fun ha => hc₁.cachedState.trans (hd (List.mem_cons_of_mem a ha))
    refine ⟨s', ?_⟩
    rw [List.foldlM_cons, h₁]
    exact h'

theorem Session.Sane.executeFSMActions_isSome (hs : s.Sane) {r : FSMResult} (hr : r.Fits s) :
    ∃ s', s.executeFSMActions h r = some s' := by
  cases hc : r.changed with
  | false =>
    simp only [Session.executeFSMActions, hc, Bool.false_eq_true, if_false]
    refine hs.foldlM_executeAction_isSome h fun hn => ?_
    rw [(hr.notifyDown hn).1] at hc
    cases hc
  | true =>
    simp only [Session.executeFSMActions, hc, if_true]
    refine (hs.stored hr hc).foldlM_executeAction_isSome h fun hn => ?_
    rw [Session.emitNotification_eq]
    exact (hr.notifyDown hn).2

/-- A packet that passed the auth checks is handled to the end. -/
theorem Session.Sane.handleRecvPacket_isSome (hs : s.Sane) {item : RecvItem}
    (hmy : item.pkt.myDiscriminator ≠ 0) (hc : s.checkAuthConsistency item.pkt = true)
    (hv : s.verifyAuth h item = (s₁, .ok ())) : ∃ s', s.handleRecvPacket h item = some s' := by
  rw [Session.handleRecvPacket_of_ok h hs.pollActive hc hv]
  obtain ⟨h₁, -⟩ := hs.verifyAuth h hv
  have h₃ := h₁.sane.recordPacket hmy
  have hfits := applyEvent_fits (s := s₁.recordPacket item.pkt) (e := recvStateToEvent item.pkt.state)
    (recvStateToEvent_ne_adminUp _) fun _ => hmy
  obtain ⟨s₄, h₄⟩ := h₃.sane.executeFSMActions_isSome h hfits
  have hs₄ := (h₃.sane.executeFSMActions_handles h hfits h₄).sane
  rw [Session.applyFSMEvent, h₄, Option.bind_some]
  split
  · exact hs₄.sendControl_isSome h
  · exact ⟨s₄, rfl⟩

end Total

/-! ## Runs -/

section Runs

variable {cfg : SessionConfig Addr}

/-- The step from `s` to `s'` took the packet at the head of the receive
queue, and it was a valid Poll. -/
def Session.takesPoll (s s' : Session Addr) : Bool :=
  match s.recvCh with
  | item :: rest => s'.recvCh == rest && ({ s with recvCh := rest } : Session Addr).acceptsPoll h item
  | [] => false

/-- A step that does not shorten the receive queue took no Poll. -/
theorem Session.takesPoll_of_length_le (hl : s.recvCh.length ≤ s'.recvCh.length) :
    s.takesPoll h s' = false := by
  unfold Session.takesPoll
  split
  · rename_i item rest hq
    have hne : s'.recvCh ≠ rest := by
      intro he
      rw [hq, he, List.length_cons] at hl
      omega
    simp [hne]
  · rfl

/-- A step that took no Poll and answers from no pending Final sends no
Final. -/
theorem Session.AnswersSince.quiet (ha : s.AnswersSince s') (hp : s.pendingFinal = false)
    (hl : s.recvCh.length ≤ s'.recvCh.length) :
    ∃ ds, s'.sent = s.sent ++ ds ∧ ds.map datagramFinal = finalBits (s.takesPoll h s') ds.length ∧
      (s.takesPoll h s' = true → ds ≠ []) ∧ s'.pendingFinal = false := by
  obtain ⟨ds, hds, hf, hp'⟩ := ha
  have hno := Session.takesPoll_of_length_le h hl
  refine ⟨ds, hds, by rw [hno, ← hp]; exact hf, by simp [hno], by rw [hp', hp, Bool.false_and]⟩

/-- `buildControlPacket` leaves no Final pending, whatever the signing does. -/
theorem Session.rebuildCachedPacket_pendingFinal (hr : s.rebuildCachedPacket h = some s') :
    s'.pendingFinal = false := by
  unfold Session.rebuildCachedPacket Session.signCachedPacket at hr
  dsimp only at hr
  split at hr
  · split at hr
    · cases hr; rfl
    · cases hr
    · split at hr
      · cases hr; rfl
      · cases hr; rfl
      · cases hr
  · split at hr
    · cases hr; rfl
    · cases hr; rfl
    · cases hr

theorem newSession_pendingFinal {localDiscr : UInt32} {notify : Bool} {seed : UInt32}
    (hn : newSession h cfg localDiscr notify seed = .ok s) : s.pendingFinal = false := by
  unfold newSession at hn
  split at hn
  · cases hn
  · dsimp only at hn
    split at hn
    · rename_i s₁ hr
      cases hn
      exact Session.rebuildCachedPacket_pendingFinal h hr
    · cases hn

/-- One step from a good session with no Final pending: the datagrams it
sends carry a Final on the first of them exactly when it took a valid Poll,
which it then answers, and no Final is pending after it. -/
theorem Session.Good.step_answers (hg : s.Good cfg) (hp : s.pendingFinal = false)
    (hstep : Session.Step h s s') :
    ∃ ds, s'.sent = s.sent ++ ds ∧ ds.map datagramFinal = finalBits (s.takesPoll h s') ds.length ∧
      (s.takesPoll h s' = true → ds ≠ []) ∧ s'.pendingFinal = false := by
  cases hstep with
  | recvPacket item hd =>
    unfold Session.recvPacket
    split
    · exact Session.AnswersSince.quiet h (.of_eq rfl rfl) hp (by simp)
    · exact Session.AnswersSince.quiet h (.of_eq rfl rfl) hp le_rfl
  | setPathDown =>
    unfold Session.setPathDown
    split
    · exact Session.AnswersSince.quiet h (.of_eq rfl rfl) hp le_rfl
    · exact Session.AnswersSince.quiet h (.of_eq rfl rfl) hp le_rfl
  | setAdminDown =>
    unfold Session.setAdminDown
    split
    · exact Session.AnswersSince.quiet h (.of_eq rfl rfl) hp le_rfl
    · exact Session.AnswersSince.quiet h (.of_eq rfl rfl) hp le_rfl
  | run hr => exact Session.AnswersSince.quiet h (.of_eq rfl rfl) hp le_rfl
  | stop hr => exact Session.AnswersSince.quiet h (.of_eq rfl rfl) hp le_rfl
  | @recv _ item rest hr hq hx =>
    -- the one step that may take a Poll: the handler answers it
    obtain ⟨hg', hh⟩ := hg.recv_handles h hq hx
    have hmy : item.pkt.myDiscriminator ≠ 0 := hg.recvCh item (by rw [hq]; exact List.mem_cons_self)
    have htake : s.takesPoll h s' = ({ s with recvCh := rest } : Session Addr).acceptsPoll h item := by
      simp [Session.takesPoll, hq, hh.frame.recvCh]
    rw [htake]
    exact hg'.toSane.handleRecvPacket_answers h hp hmy hx
  | control hr hq hx =>
    obtain ⟨hg', hh⟩ := hg.control_handles h hx
    -- taking the command off its queue sends nothing
    exact Session.AnswersSince.quiet h
      (Session.AnswersSince.trans (.of_eq rfl rfl) (hg'.toSane.handleControlCommand_answers h hx)) hp
      (by rw [hh.frame.recvCh])
  | txTimer hr hx =>
    exact (hg.toSane.handleTxTimer_answers h hx).quiet h hp
      (by rw [(hg.toSane.handleTxTimer h hx).frame.recvCh])
  | detectTimer idle hr hx =>
    exact (hg.toSane.handleDetectTimer_answers h idle hx).quiet h hp
      (by rw [(hg.toSane.handleDetectTimer h idle hx).frame.recvCh])

/-- Between the steps of a run from `NewSession`, no Final is pending. -/
theorem Session.Reachable.pendingFinal (hkeys : ∀ keys, cfg.authKeys = some keys →
      ∃ current additional, newStaticAuthKeyStore current additional = .ok keys)
    (hr : Session.Reachable h cfg s) : s.pendingFinal = false := by
  obtain ⟨localDiscr, notify, seed, s₀, hn, hrun⟩ := hr
  have hg₀ := newSession_good h hkeys hn
  induction hrun with
  | refl => exact newSession_pendingFinal h hn
  | tail hrun' hstep ih =>
    obtain ⟨-, -, -, -, hp⟩ := (hg₀.run h hrun').step_answers h ih hstep
    exact hp

/-- A valid Poll at the head of the receive queue of a running session is
taken by a step. -/
theorem Session.Good.takes_poll (hg : s.Good cfg) (hrun : s.running = true) {item : RecvItem}
    {rest : List RecvItem} (hq : s.recvCh = item :: rest)
    (hpoll : ({ s with recvCh := rest } : Session Addr).acceptsPoll h item = true) :
    ∃ s', Session.Step h s s' ∧ s.takesPoll h s' = true := by
  have hg' : ({ s with recvCh := rest } : Session Addr).Good cfg :=
    { hg with recvCh := fun it hit => hg.recvCh it (by rw [hq]; exact List.mem_cons_of_mem _ hit) }
  have hmy : item.pkt.myDiscriminator ≠ 0 := hg.recvCh item (by rw [hq]; exact List.mem_cons_self)
  -- a valid Poll passed both checks
  have hc : ({ s with recvCh := rest } : Session Addr).checkAuthConsistency item.pkt = true := by
    simp only [Session.acceptsPoll, Bool.and_eq_true] at hpoll
    exact hpoll.1.1
  obtain ⟨s₁, hv⟩ : ∃ s₁, ({ s with recvCh := rest } : Session Addr).verifyAuth h item = (s₁, .ok ()) := by
    simp only [Session.acceptsPoll, Bool.and_eq_true] at hpoll
    rcases hv : ({ s with recvCh := rest } : Session Addr).verifyAuth h item with ⟨s₁, (e | ⟨⟩)⟩
    · simp [hv, Except.isOk, Except.toBool] at hpoll
    · exact ⟨s₁, rfl⟩
  obtain ⟨s', hx⟩ := hg'.toSane.handleRecvPacket_isSome h hmy hc hv
  have hh := hg'.toSane.handleRecvPacket h hmy hx
  refine ⟨s', .recv hrun hq hx, ?_⟩
  simp [Session.takesPoll, hq, hh.frame.recvCh, hpoll]

end Runs

/-! ## Poll and Final along every run -/

section PollAndFinal

variable {cfg : SessionConfig Addr}

/-- Final answers Poll, exactly once: along every run from `NewSession`
(with a key store from `NewStaticAuthKeyStore` when auth is configured), no
Final is pending between steps; the datagrams a step sends carry a Final on
the first of them when the step took a valid Poll off the receive queue,
and then it sends at least one, and on no other datagram; and a valid Poll
at the head of the queue of a running session is taken by a step. -/
theorem final_answers_poll
    (hkeys : ∀ keys, cfg.authKeys = some keys →
      ∃ current additional, newStaticAuthKeyStore current additional = .ok keys)
    (hr : Session.Reachable h cfg s) :
    s.pendingFinal = false ∧
      (∀ s', Session.Step h s s' → ∃ ds, s'.sent = s.sent ++ ds ∧
        ds.map datagramFinal = finalBits (s.takesPoll h s') ds.length ∧
        (s.takesPoll h s' = true → ds ≠ [])) ∧
      (∀ item rest, s.running = true → s.recvCh = item :: rest →
        ({ s with recvCh := rest } : Session Addr).acceptsPoll h item = true →
        ∃ s', Session.Step h s s' ∧ s.takesPoll h s' = true) := by
  have hg := hr.good h hkeys
  have hp := Session.Reachable.pendingFinal h hkeys hr
  refine ⟨hp, fun s' hstep => ?_, fun item rest hrun hq hpoll => hg.takes_poll h hrun hq hpoll⟩
  obtain ⟨ds, hds, hf, hne, -⟩ := hg.step_answers h hp hstep
  exact ⟨ds, hds, hf, hne⟩

theorem final_answers_poll_plainConfig :
    ∃ s : Session Unit, Session.Reachable lengthDigests plainConfig s ∧ s.pendingFinal = false ∧
      (∀ s', Session.Step lengthDigests s s' → ∃ ds, s'.sent = s.sent ++ ds ∧
        ds.map datagramFinal = finalBits (s.takesPoll lengthDigests s') ds.length ∧
        (s.takesPoll lengthDigests s' = true → ds ≠ [])) ∧
      (∀ item rest, s.running = true → s.recvCh = item :: rest →
        ({ s with recvCh := rest } : Session Unit).acceptsPoll lengthDigests item = true →
        ∃ s', Session.Step lengthDigests s s' ∧ s.takesPoll lengthDigests s' = true) :=
  have hr : Session.Reachable lengthDigests plainConfig _ :=
    ⟨7, false, 0, _, rfl, .single (Session.Step.run rfl)⟩
  ⟨_, hr, final_answers_poll lengthDigests (fun _ (hk : plainConfig.authKeys = some _) => nomatch hk) hr⟩

/-- A Simple Password key store whose current key has a 41-byte secret,
which `validateAuthKey` rejects, and which accepts the one-byte password
`a` under Key ID 2. -/
def longPasswordStore : AuthKeyStore where
  lookupKey i := if i = 2 then some { id := 2, type := AuthTypeSimplePassword, secret := [0x61] }
    else none
  currentKey := { id := 1, type := AuthTypeSimplePassword, secret := List.replicate 41 0x61 }

def longPasswordConfig : SessionConfig Unit :=
  { plainConfig with auth := some .simplePassword, authKeys := some longPasswordStore }

/-- The peer's Down packet with the Poll bit, signed with password `a`
under Key ID 2. -/
def pollWire : List UInt8 :=
  [0x20, 0x64, 3, 28, 0, 0, 0, 9, 0, 0, 0, 0, 0, 0x0F, 0x42, 0x40, 0, 0x0F, 0x42, 0x40, 0, 0, 0, 0,
    1, 4, 2, 0x61]

def pollPacket : ControlPacket where
  version := 1
  state := .down
  poll := true
  authPresent := true
  detectMult := 3
  length := 28
  myDiscriminator := 9
  desiredMinTxInterval := 1000000
  requiredMinRxInterval := 1000000
  auth := some { type := AuthTypeSimplePassword, len := 4, keyID := 2, authData := [0x61] }

theorem unmarshal_pollWire : unmarshalControlPacket pollWire = .ok pollPacket := rfl

/-- `NewSession` checks only the type of the current key.  The signed packet
of a 41-byte password needs 68 bytes, more than the 64-byte buffer, so
`MarshalControlPacket` fails and the buffer stays zero: the session takes
the peer's valid Poll, and answers it with an empty datagram, with no Final
left pending. -/
theorem poll_unanswered_long_password :
    ∃ s₀ s₁ s₂, newSession lengthDigests longPasswordConfig 7 false 0 = .ok s₀ ∧
      Relation.ReflTransGen (Session.Step lengthDigests) s₀ s₁ ∧ Session.Step lengthDigests s₁ s₂ ∧
      s₁.takesPoll lengthDigests s₂ = true ∧ s₂.sent = s₁.sent ++ [[]] ∧ s₂.pendingFinal = false :=
  ⟨_, _, _, rfl,
    (Relation.ReflTransGen.single (Session.Step.run rfl)).tail
      (Session.Step.recvPacket { pkt := pollPacket, wire := pollWire } ⟨pollWire, unmarshal_pollWire⟩),
    Session.Step.recv rfl rfl rfl, rfl, rfl, rfl⟩

/-- A session configured for a 100 ms transmit interval. -/
def fastConfig : SessionConfig Unit :=
  { plainConfig with desiredMinTxInterval := 100000000 }

/-- The peer's Init packet, addressed to our discriminator 7. -/
def initWire : List UInt8 :=
  [0x20, 0x80, 3, 24, 0, 0, 0, 9, 0, 0, 0, 7, 0, 0x0F, 0x42, 0x40, 0, 0x0F, 0x42, 0x40, 0, 0, 0, 0]

def initPacket : ControlPacket where
  version := 1
  state := .init
  detectMult := 3
  length := 24
  myDiscriminator := 9
  yourDiscriminator := 7
  desiredMinTxInterval := 1000000
  requiredMinRxInterval := 1000000

theorem unmarshal_initWire : unmarshalControlPacket initWire = .ok initPacket := rfl

/-- While Down the session advertises the one-second floor of RFC 5880
Section 6.8.3; the peer's Init packet moves it Up, and the packet sent on
the transition advertises 100 ms with the Poll bit clear. -/
theorem up_without_poll_sequence (h : Digests) :
    ∃ s₀ s₁ s₂ d₁ d₂ q₁ q₂, newSession h fastConfig 7 false 0 = .ok s₀ ∧
      Relation.ReflTransGen (Session.Step h) s₀ s₁ ∧ s₁.sent = [d₁] ∧
      Session.Step h s₁ s₂ ∧ s₂.sent = [d₁, d₂] ∧ s₂.cachedState = .up ∧
      unmarshalControlPacket d₁ = .ok q₁ ∧ unmarshalControlPacket d₂ = .ok q₂ ∧
      q₁.desiredMinTxInterval = 1000000 ∧ q₂.desiredMinTxInterval = 100000 ∧
      q₂.state = .up ∧ q₂.poll = false :=
  ⟨_, _, _, _, _, _, _, rfl,
    ((Relation.ReflTransGen.single (Session.Step.run rfl)).tail (Session.Step.txTimer rfl rfl)).tail
      (Session.Step.recvPacket { pkt := initPacket, wire := [] } ⟨initWire, unmarshal_initWire⟩),
    rfl, Session.Step.recv rfl rfl rfl, rfl, rfl, rfl, rfl, rfl, rfl, rfl, rfl⟩

end PollAndFinal

end GoBFD
