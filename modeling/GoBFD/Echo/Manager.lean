import GoBFD.Echo
import GoBFD.Netio.Receive

/-!
# GoBFD.Echo.Manager

The echo sessions of the manager (`manager_echo.go`) and the echo receiver
(`netio/echo_receiver.go`).  `EchoManager` is the manager with its
`echoSessions` map; `CreateEchoSession` and `DestroyEchoSession` take their
discriminators from the allocator the control sessions use, and
`DemuxEcho` routes a returned echo by its My Discriminator.
`ReconcileEchoSessions` diffs the desired set against `echoSessionKeySet`
on every reload.

`EchoManager.Step` is one call of these methods, a datagram taken by the
echo receiver, a step of the control side (`Manager.Step`) or of an echo
session's own goroutine; `EchoManager.Reachable` the states of every
interleaving from `NewManager`.

* `EchoManager.Reachable.valid`: every echo session is filed under its own
  discriminator and keeps `EchoSessionState.Inv`.
* `echo_datagrams_return_to_sender`: every datagram an echo session has
  sent, once the remote has forwarded it back (TTL 255 less one hop), is
  accepted by the daemon's echo listener and queues one signal on the
  session that sent it, and changes nothing else.
* `echo_return_brings_session_up`: a Down session with its loop running
  goes Up through its own echo, and only through it.

The `RecvEcho` calls a session gets come from `DemuxEcho` alone: a step of
its own goroutine is any other event.  Each session keeps the notifications
it sent on its own buffer; their way on through `rawNotifyCh`, which in Go
is that buffer, is not modelled here.
-/

namespace GoBFD

open Go

variable {Addr : Type}

/-- The manager with its echo sessions, each filed under its
discriminator.  `Run` is the session's own `run` step, taken after
`CreateEchoSession` files it; the cancel function is the entry's
lifetime. -/
structure EchoManager (Addr : Type) where
  manager : Manager Addr
  echoSessions : AList fun _ : UInt32 => EchoSessionState Addr

/-- The errors of the echo methods of the manager. -/
inductive EchoManagerError where
  /-- "create echo session: %w" over `ErrInvalidPeerAddr` or an `Allocate`
  error. -/
  | manager (e : ManagerError)
  /-- "create echo session: %w" over a `NewEchoSession` error. -/
  | echo (e : EchoError)
  /-- `NewEchoSession` panicked. -/
  | panic
  /-- "destroy echo session with discriminator %d: echo session not found". -/
  | echoSessionNotFound (discr : UInt32)
  /-- "echo demux: discriminator %d not found: no matching echo session for
  incoming packet". -/
  | echoDemuxNoMatch (discr : UInt32)
  deriving DecidableEq

/-- `EchoReconcileConfig`; the sender is not modelled. -/
structure EchoReconcileConfig (Addr : Type) where
  key : String
  echoSessionConfig : EchoSessionConfig Addr

/-- The errors `ReconcileEchoSessions` collects, with the key of the entry
that failed. -/
inductive EchoReconcileError where
  /-- "reconcile destroy echo %s: %w". -/
  | destroy (key : String) (e : EchoManagerError)
  /-- "reconcile create echo %s: %w". -/
  | create (key : String) (e : EchoManagerError)
  deriving DecidableEq

namespace EchoManager

variable (ip : NetIP Addr)

/-- The manager of `NewManager`, with no echo session. -/
def init (rand : List UInt32) : EchoManager Addr := ⟨newManager rand, ∅⟩

/-- Lift `NewEchoSession`'s result into the manager's errors. -/
def liftNewEchoSession : Go.Result EchoError (EchoSessionState Addr) →
    Except EchoManagerError (EchoSessionState Addr)
  | .ok es => .ok es
  | .error (.error e) => .error (.echo e)
  | .error .panic => .error .panic

/-- `CreateEchoSession(ctx, cfg, sender)`: check the peer, allocate a
discriminator, build the session with `m.rawNotifyCh` as its channel
(releasing the discriminator if that fails), and file it. -/
def createEchoSession (em : EchoManager Addr) (cfg : EchoSessionConfig Addr) :
    Except EchoManagerError UInt32 × EchoManager Addr :=
  if !ip.isValid cfg.peerAddr then (.error (.manager .invalidPeerAddr), em)
  else
    match em.manager.discriminators.allocate em.manager.rand with
    | (.error e, _, rand) => (.error (.manager e), { em with manager := { em.manager with rand := rand } })
    | (.ok discr, alloc, rand) =>
      match liftNewEchoSession (newEchoSessionState ip cfg discr true) with
      | .error e =>
        (.error e, { em with manager := { em.manager with discriminators := alloc.release discr, rand := rand } })
      | .ok es =>
        (.ok discr,
          { manager := { em.manager with discriminators := alloc, rand := rand }
            echoSessions := em.echoSessions.insert discr es })

/-- `DestroyEchoSession(discr)`: remove the entry, which stops its
goroutine, and release the discriminator. -/
def destroyEchoSession (em : EchoManager Addr) (discr : UInt32) :
    Except EchoManagerError Unit × EchoManager Addr :=
  match em.echoSessions.lookup discr with
  | none => (.error (.echoSessionNotFound discr), em)
  | some _ =>
    (.ok (),
      { manager := { em.manager with discriminators := em.manager.discriminators.release discr }
        echoSessions := em.echoSessions.erase discr })

/-- `DemuxEcho(myDiscr)`: `RecvEcho` on the echo session of the
discriminator. -/
def demuxEcho (em : EchoManager Addr) (myDiscr : UInt32) : Except EchoManagerError (EchoManager Addr) :=
  match em.echoSessions.lookup myDiscr with
  | none => .error (.echoDemuxNoMatch myDiscr)
  | some es => .ok { em with echoSessions := em.echoSessions.insert myDiscr es.recvEcho }

/-- The key `echoSessionKeySet` files a session under:
`echo|peer|local|interface`, from the session's own addresses. -/
def echoSessionKey (es : EchoSessionState Addr) : String :=
  "echo|" ++ ip.string es.peerAddr ++ "|" ++ ip.string es.localAddr ++ "|" ++ es.ifName

/-- `echoSessionKeySet()`: each session's key with its discriminator. -/
def echoSessionKeySet (em : EchoManager Addr) : AList fun _ : String => UInt32 :=
  em.echoSessions.entries.foldl (fun keys e => keys.insert (echoSessionKey ip e.2) e.2.timers.localDiscr) ∅

/-- What a loop of `ReconcileEchoSessions` carries: its count, the errors
so far, and the manager. -/
abbrev ReconcileAcc (Addr : Type) := Nat × List EchoReconcileError × EchoManager Addr

/-- One iteration of the destroy loop of `ReconcileEchoSessions`. -/
def reconcileDestroyStep (desiredKeys : AList fun _ : String => EchoReconcileConfig Addr)
    (acc : ReconcileAcc Addr) (kd : Sigma fun _ : String => UInt32) : ReconcileAcc Addr :=
  if (desiredKeys.lookup kd.1).isSome then acc
  else
    match acc.2.2.destroyEchoSession kd.2 with
    | (.ok (), em) => (acc.1 + 1, acc.2.1, em)
    | (.error e, em) => (acc.1, acc.2.1 ++ [.destroy kd.1 e], em)

/-- One iteration of the create loop of `ReconcileEchoSessions`. -/
def reconcileCreateStep (currentKeys : AList fun _ : String => UInt32)
    (acc : ReconcileAcc Addr) (kr : Sigma fun _ : String => EchoReconcileConfig Addr) :
    ReconcileAcc Addr :=
  if (currentKeys.lookup kr.1).isSome then acc
  else
    match acc.2.2.createEchoSession ip kr.2.echoSessionConfig with
    | (.ok _, em) => (acc.1 + 1, acc.2.1, em)
    | (.error e, em) => (acc.1, acc.2.1 ++ [.create kr.1 e], em)

/-- `ReconcileEchoSessions(ctx, desired)`: destroy every echo session whose
key is not desired, then create every desired session whose key is not
current.  Returns the numbers created and destroyed, and the errors. -/
def reconcileEchoSessions (em : EchoManager Addr) (desired : List (EchoReconcileConfig Addr)) :
    (Nat × Nat × List EchoReconcileError) × EchoManager Addr :=
  let desiredKeys : AList fun _ : String => EchoReconcileConfig Addr :=
    desired.foldl (fun keys rc => keys.insert rc.key rc) ∅
  let currentKeys := em.echoSessionKeySet ip
  let (destroyed, errs, em) := currentKeys.entries.foldl (reconcileDestroyStep desiredKeys) (0, [], em)
  let (created, errs, em) :=
    desiredKeys.entries.foldl (reconcileCreateStep ip currentKeys) (0, errs, em)
  ((created, destroyed, errs), em)

end EchoManager

/-- The listeners `createEchoListeners` opens: single-hop, on port 3785,
accepting TTL `TTLEchoLoopback` only. -/
def echoListener : Listener where
  multiHop := false
  expectedTTL := TTLEchoLoopback

/-- `EchoReceiver.recvOne(ctx, ln)` with the manager as its demuxer: take a
datagram from the listener, decode it, drop it when it does not decode or
has My Discriminator zero, and otherwise hand My Discriminator to
`DemuxEcho`, whose failure is logged.  `none` is a failed `RecvPacket`. -/
def EchoReceiver.recvOne (l : Listener) (em : EchoManager Addr)
    (queue : List (PacketMeta Addr × List UInt8)) :
    Option (EchoManager Addr × List (PacketMeta Addr × List UInt8)) :=
  match l.recvPacket queue with
  | none => none
  | some ((_, datagram), rest) =>
    match unmarshalControlPacket (datagram.take MaxPacketSize) with
    | .error _ => some (em, rest)
    | .ok pkt =>
      if pkt.myDiscriminator = 0 then some (em, rest)
      else
        match em.demuxEcho pkt.myDiscriminator with
        | .ok em' => some (em', rest)
        | .error _ => some (em, rest)

/-! ## What the calls do -/

namespace EchoManager

section Calls

variable {ip : NetIP Addr} {em em' : EchoManager Addr} {cfg : EchoSessionConfig Addr}

/-- A session created: its discriminator was free and is now allocated,
and the session is filed under it; the control sessions are as they
were. -/
theorem createEchoSession_eq_ok {w : UInt32} (hc : em.createEchoSession ip cfg = (.ok w, em')) :
    w ∉ em.manager.discriminators.allocated ∧
      em'.manager = { em.manager with
        discriminators := ⟨w :: em.manager.discriminators.allocated⟩, rand := em'.manager.rand } ∧
      (em'.echoSessions.lookup w).isSome ∧ ∀ d, d ≠ w → em'.echoSessions.lookup d = em.echoSessions.lookup d := by
  unfold createEchoSession at hc
  split_ifs at hc
  · cases hc
  split at hc
  · cases hc
  rename_i discr alloc rand hal
  obtain ⟨-, hfree, rfl⟩ := DiscriminatorAllocator.allocate_ok hal
  split at hc
  · cases hc
  · cases hc
    exact ⟨hfree, rfl, by simp, fun d hd => AList.lookup_insert_ne hd⟩

/-- No session created: only the random stream moved, since a
discriminator allocated for a session `NewEchoSession` refused is released
again. -/
theorem createEchoSession_eq_error {e : EchoManagerError} (hc : em.createEchoSession ip cfg = (.error e, em')) :
    em' = { em with manager := { em.manager with rand := em'.manager.rand } } := by
  unfold createEchoSession at hc
  split_ifs at hc
  · cases hc
    rfl
  split at hc
  · cases hc
    rfl
  rename_i discr alloc rand hal
  obtain ⟨-, hfree, rfl⟩ := DiscriminatorAllocator.allocate_ok hal
  split at hc
  · cases hc
    rw [DiscriminatorAllocator.release_cons hfree]
  · cases hc

theorem destroyEchoSession_eq_ok {d : UInt32} (hd : em.destroyEchoSession d = (.ok (), em')) :
    (em.echoSessions.lookup d).isSome ∧
      em' = ⟨{ em.manager with discriminators := em.manager.discriminators.release d }, em.echoSessions.erase d⟩ := by
  unfold destroyEchoSession at hd
  split at hd
  · cases hd
  · rename_i es he
    cases hd
    rw [he]
    exact ⟨rfl, rfl⟩

theorem destroyEchoSession_eq_error {d : UInt32} {e : EchoManagerError}
    (hd : em.destroyEchoSession d = (.error e, em')) :
    em' = em ∧ e = .echoSessionNotFound d ∧ em.echoSessions.lookup d = none := by
  unfold destroyEchoSession at hd
  split at hd
  · rename_i he
    cases hd
    exact ⟨rfl, rfl, he⟩
  · cases hd

end Calls

/-! ## The invariant -/

section Valid

variable (ip : NetIP Addr) {em em' : EchoManager Addr}

/-- Every echo session is filed under its own discriminator and keeps the
invariant of its loop. -/
structure Valid (em : EchoManager Addr) : Prop where
  filed : ∀ d es, em.echoSessions.lookup d = some es → es.timers.localDiscr = d ∧ es.Inv

theorem init_valid (rand : List UInt32) : (init rand : EchoManager Addr).Valid where
  filed d es h := by simp [init] at h

/-- The control side and the allocator do not matter to the invariant. -/
theorem Valid.manager (hv : em.Valid) (m : Manager Addr) : Valid { em with manager := m } :=
  ⟨hv.filed⟩

/-- Filing a session under its own discriminator. -/
theorem Valid.file (hv : em.Valid) (m : Manager Addr) {d : UInt32} {es : EchoSessionState Addr}
    (hd : es.timers.localDiscr = d) (hi : es.Inv) : Valid ⟨m, em.echoSessions.insert d es⟩ := by
  constructor
  intro d' es' h
  by_cases hd' : d' = d
  · subst hd'
    rw [AList.lookup_insert, Option.some.injEq] at h
    subst h
    exact ⟨hd, hi⟩
  · rw [AList.lookup_insert_ne hd'] at h
    exact hv.filed d' es' h

/-- Filing a step of a filed session in its place. -/
theorem Valid.refile (hv : em.Valid) {d : UInt32} {es es' : EchoSessionState Addr}
    (he : em.echoSessions.lookup d = some es) (hs : EchoSessionState.Step e es es') :
    Valid { em with echoSessions := em.echoSessions.insert d es' } := by
  obtain ⟨hd, hi⟩ := hv.filed d es he
  -- the step keeps the discriminator and the loop's invariant
  have hid : es'.timers = es.timers := congrArg Prod.fst hs.identity
  exact hv.file em.manager (hid ▸ hd) (hi.step hs)

theorem Valid.erase (hv : em.Valid) (m : Manager Addr) (d : UInt32) :
    Valid ⟨m, em.echoSessions.erase d⟩ := by
  constructor
  intro d' es' h
  by_cases hd' : d' = d
  · subst hd'
    rw [AList.lookup_erase] at h
    cases h
  · rw [AList.lookup_erase_ne hd'] at h
    exact hv.filed d' es' h

theorem Valid.createEchoSession (hv : em.Valid) (cfg : EchoSessionConfig Addr) :
    (em.createEchoSession ip cfg).2.Valid := by
  unfold EchoManager.createEchoSession
  split_ifs
  · exact hv
  split
  · exact hv.manager _
  · rename_i discr alloc rand _
    split
    · exact hv.manager _
    · rename_i es hes
      -- `NewEchoSession` built it for `discr`, in the invariant
      have hn : newEchoSessionState ip cfg discr true = .ok es := by
        unfold liftNewEchoSession at hes
        split at hes <;> cases hes
        assumption
      obtain ⟨hi, -, htimers, -⟩ := newEchoSessionState_ok hn
      exact hv.file _ (by rw [htimers]) hi

theorem Valid.destroyEchoSession (hv : em.Valid) (d : UInt32) : (em.destroyEchoSession d).2.Valid := by
  unfold EchoManager.destroyEchoSession
  split
  · exact hv
  · exact hv.erase _ d

theorem Valid.demuxEcho (hv : em.Valid) {d : UInt32} (h : em.demuxEcho d = .ok em') : em'.Valid := by
  unfold EchoManager.demuxEcho at h
  split at h
  · cases h
  · rename_i es he
    cases h
    exact hv.refile he .recvEcho

/-- A loop of `ReconcileEchoSessions` keeps the invariant when each of its
iterations does. -/
theorem Valid.foldl {α : Type} {f : ReconcileAcc Addr → α → ReconcileAcc Addr}
    (hf : ∀ acc a, acc.2.2.Valid → (f acc a).2.2.Valid) :
    ∀ (l : List α) (acc : ReconcileAcc Addr), acc.2.2.Valid → (l.foldl f acc).2.2.Valid
  | [], _, h => h
  | a :: l, acc, h => Valid.foldl hf l (f acc a) (hf acc a h)

theorem Valid.reconcileEchoSessions (hv : em.Valid) (desired : List (EchoReconcileConfig Addr)) :
    (em.reconcileEchoSessions ip desired).2.Valid := by
  unfold EchoManager.reconcileEchoSessions
  dsimp only
  -- each iteration is a destroy or a create, or nothing
  refine Valid.foldl (fun acc kr h => ?_) _ _ (Valid.foldl (fun acc kd h => ?_) _ _ hv)
  · unfold reconcileCreateStep
    split_ifs
    · exact h
    · -- either way the loop carries on with the manager the call left
      have hc := h.createEchoSession ip kr.2.echoSessionConfig
      split <;> rename_i hr <;> rw [hr] at hc <;> exact hc
  · unfold reconcileDestroyStep
    split_ifs
    · exact h
    · have hc := h.destroyEchoSession kd.2
      split <;> rename_i hr <;> rw [hr] at hc <;> exact hc

end Valid

end EchoManager

/-! ## The echo receiver -/

section Receiver

variable {l : Listener} {em em' : EchoManager Addr} {queue rest : List (PacketMeta Addr × List UInt8)}

/-- What one call of `EchoReceiver.recvOne` does: the listener passes over
the datagrams whose TTL fails its check and takes the next one, which is
dropped, or decodes with a My Discriminator other than zero that
`DemuxEcho` takes. -/
theorem EchoReceiver.recvOne_eq_some (hrecv : EchoReceiver.recvOne l em queue = some (em', rest)) :
    ∃ dropped pmeta datagram, queue = dropped ++ (pmeta, datagram) :: rest ∧
      (∀ x ∈ dropped, l.validateTTL x.1 ≠ .ok ()) ∧ l.validateTTL pmeta = .ok () ∧
      (em' = em ∨ ∃ pkt, unmarshalControlPacket (datagram.take MaxPacketSize) = .ok pkt ∧
        pkt.myDiscriminator ≠ 0 ∧ em.demuxEcho pkt.myDiscriminator = .ok em') := by
  unfold EchoReceiver.recvOne at hrecv
  split at hrecv
  · cases hrecv
  rename_i pmeta datagram rest' hp
  obtain ⟨dropped, hq, hd, hv⟩ := Listener.recvPacket_eq_some.mp hp
  -- every branch returns the rest of the queue, with the manager unchanged
  -- unless `DemuxEcho` succeeded
  have hres : rest' = rest ∧ (em' = em ∨ ∃ pkt, unmarshalControlPacket (datagram.take MaxPacketSize) = .ok pkt ∧
      pkt.myDiscriminator ≠ 0 ∧ em.demuxEcho pkt.myDiscriminator = .ok em') := by
    split at hrecv
    · cases hrecv
      exact ⟨rfl, .inl rfl⟩
    rename_i pkt hpkt
    split_ifs at hrecv with hz
    · cases hrecv
      exact ⟨rfl, .inl rfl⟩
    split at hrecv
    · rename_i em'' hdm
      cases hrecv
      exact ⟨rfl, .inr ⟨pkt, hpkt, hz, hdm⟩⟩
    · cases hrecv
      exact ⟨rfl, .inl rfl⟩
  obtain ⟨rfl, hem⟩ := hres
  exact ⟨dropped, pmeta, datagram, hq, hd, hv, hem⟩

theorem EchoManager.Valid.recvOne (hv : em.Valid) (hrecv : EchoReceiver.recvOne l em queue = some (em', rest)) :
    em'.Valid := by
  obtain ⟨_, _, _, -, -, -, hem⟩ := EchoReceiver.recvOne_eq_some hrecv
  rcases hem with rfl | ⟨pkt, -, -, hdm⟩
  · exact hv
  · exact hv.demuxEcho hdm

/-- The receive half of the echo round trip on a valid manager: a datagram
of a filed session, looped back with one hop less than the senders' TTL,
queues one signal on that session. -/
theorem EchoManager.Valid.recvOne_sent {em : EchoManager Addr} (hv : em.Valid) {d : UInt32}
    {es : EchoSessionState Addr} (he : em.echoSessions.lookup d = some es) {datagram : List UInt8}
    (hd : datagram ∈ es.sent) {pmeta : PacketMeta Addr} (hloop : pmeta.ttl = ttlRequired - 1) :
    EchoReceiver.recvOne echoListener em [(pmeta, datagram)] =
      some ({ em with echoSessions := em.echoSessions.insert d es.recvEcho }, []) := by
  obtain ⟨hloc, hi⟩ := hv.filed d es he
  obtain ⟨pkt, hpkt, hmy⟩ := hi.unmarshal_sent hd
  -- one hop takes TTL 255 to the 254 the echo listener requires
  have hl : echoListener.validateTTL pmeta = .ok () := by
    rw [Listener.validateTTL_eq_ok, hloop]
    decide
  have hne : pkt.myDiscriminator ≠ 0 := hmy ▸ hi.localDiscr
  have hdemux : em.demuxEcho pkt.myDiscriminator =
      .ok { em with echoSessions := em.echoSessions.insert d es.recvEcho } := by
    rw [hmy, hloc, EchoManager.demuxEcho, he]
  simp only [EchoReceiver.recvOne, Listener.recvPacket, hl, hpkt, if_neg hne, hdemux]

end Receiver

/-! ## Every interleaving -/

section Steps

variable [DecidableEq Addr] (h : Digests) (ip : NetIP Addr) {em em' : EchoManager Addr}

/-- One call of an echo method of the manager, a datagram the echo receiver
takes from a listener, a step of the control side, or a step of the
goroutine of a filed echo session. -/
inductive EchoManager.Step : EchoManager Addr → EchoManager Addr → Prop
  | control {em : EchoManager Addr} {m : Manager Addr} (hs : Manager.Step h ip em.manager m) :
      EchoManager.Step em { em with manager := m }
  | createEchoSession (em : EchoManager Addr) (cfg : EchoSessionConfig Addr) :
      EchoManager.Step em (em.createEchoSession ip cfg).2
  | destroyEchoSession (em : EchoManager Addr) (discr : UInt32) :
      EchoManager.Step em (em.destroyEchoSession discr).2
  | reconcileEchoSessions (em : EchoManager Addr) (desired : List (EchoReconcileConfig Addr)) :
      EchoManager.Step em (em.reconcileEchoSessions ip desired).2
  | receive {em em' : EchoManager Addr} (l : Listener) {queue rest : List (PacketMeta Addr × List UInt8)}
      (hr : EchoReceiver.recvOne l em queue = some (em', rest)) : EchoManager.Step em em'
  /-- A step of the session's own goroutine; its `RecvEcho` calls come from
  `DemuxEcho`, through the echo receiver. -/
  | session {em : EchoManager Addr} {d : UInt32} {es es' : EchoSessionState Addr} {e : EchoEvent}
      (he : em.echoSessions.lookup d = some es) (hown : e ≠ .recvEcho) (hs : EchoSessionState.Step e es es') :
      EchoManager.Step em { em with echoSessions := em.echoSessions.insert d es' }

/-- The states of every interleaving from `NewManager`. -/
def EchoManager.Reachable (em : EchoManager Addr) : Prop :=
  ∃ rand, Relation.ReflTransGen (EchoManager.Step h ip) (EchoManager.init rand) em

theorem EchoManager.Step.valid (hs : EchoManager.Step h ip em em') (hv : em.Valid) : em'.Valid := by
  cases hs with
  | control hs => exact hv.manager _
  | createEchoSession cfg => exact hv.createEchoSession ip cfg
  | destroyEchoSession discr => exact hv.destroyEchoSession discr
  | reconcileEchoSessions desired => exact hv.reconcileEchoSessions ip desired
  | receive l hr => exact hv.recvOne hr
  | session he _ hs => exact hv.refile he hs

theorem EchoManager.Reachable.valid (hr : em.Reachable h ip) : em.Valid := by
  obtain ⟨rand, hr⟩ := hr
  induction hr with
  | refl => exact EchoManager.init_valid rand
  | tail _ hs ih => exact hs.valid h ip ih

/-- Every datagram an echo session has sent, once the remote has forwarded
it back (sent with TTL 255, one hop less on return), is accepted by the
daemon's echo listener, decodes with the session's discriminator as My
Discriminator, and queues one signal on the session that sent it through
`DemuxEcho`; nothing else changes. -/
theorem echo_datagrams_return_to_sender (hr : em.Reachable h ip) {d : UInt32} {es : EchoSessionState Addr}
    (he : em.echoSessions.lookup d = some es) {datagram : List UInt8} (hd : datagram ∈ es.sent)
    {pmeta : PacketMeta Addr} (hloop : pmeta.ttl = ttlRequired - 1) :
    EchoReceiver.recvOne echoListener em [(pmeta, datagram)] =
      some ({ em with echoSessions := em.echoSessions.insert d es.recvEcho }, []) :=
  (hr.valid h ip).recvOne_sent he hd hloop

/-- The echo function works: from every reachable state, an echo session
that is Down, with its loop running and no signal queued, goes Up through
its own echo, and only through it.  Its transmit timer fires and it hands
its sender a datagram; until that datagram comes back, no step of the
session's own goroutine leaves it anything but Down.  The remote forwards
the datagram back over one hop, the echo receiver takes it and queues the
signal, and the loop takes the signal.  The session is then Up with
`DiagNone`, and has sent the move from Down to Up on its notification
channel, which drops it only when its buffer is full. -/
theorem echo_return_brings_session_up (hr : em.Reachable h ip) {d : UInt32}
    {es : EchoSessionState Addr} (he : em.echoSessions.lookup d = some es) (hdown : es.state = .down)
    (hrun : es.running = true) (hidle : es.recvCh = 0) {pmeta : PacketMeta Addr}
    (hloop : pmeta.ttl = ttlRequired - 1) :
    ∃ datagram em₁ es₁ em₂ em₃ es₃,
      EchoManager.Step h ip em em₁ ∧ em₁.echoSessions.lookup d = some es₁ ∧
      es₁.sent = es.sent ++ [datagram] ∧
      (∀ e es', e ≠ .recvEcho → EchoSessionState.Step e es₁ es' → es'.state = .down) ∧
      EchoReceiver.recvOne echoListener em₁ [(pmeta, datagram)] = some (em₂, []) ∧
      EchoManager.Step h ip em₂ em₃ ∧ em₃.echoSessions.lookup d = some es₃ ∧
      es₃.state = .up ∧ es₃.localDiag = DiagNone ∧
      es₃.notifyCh = es.notifyCh.map fun queued =>
        Go.trySend notifyChSize queued ⟨d, es.peerAddr, .down, .up, DiagNone⟩ := by
  have hv := hr.valid h ip
  obtain ⟨hloc, hi⟩ := hv.filed d es he
  -- the transmit timer: the session sends the image of its Down packet
  set datagram := (echoPacket es.timers es.state es.localDiag).wire
  set es₁ : EchoSessionState Addr :=
    { es with
      cachedPacket := Go.overwrite es.cachedPacket 0 datagram
      sent := es.sent ++ [datagram] }
  set em₁ : EchoManager Addr := { em with echoSessions := em.echoSessions.insert d es₁ }
  have hs₁ : EchoManager.Step h ip em em₁ :=
    .session he (by decide) (.txTimer hrun (EchoSessionState.sendEcho_eq hi))
  have he₁ : em₁.echoSessions.lookup d = some es₁ := AList.lookup_insert _
  -- while the echo is away, the session's own steps keep it Down
  have hwait : ∀ e es', e ≠ .recvEcho → EchoSessionState.Step e es₁ es' → es'.state = .down :=
    fun _ _ hne hs => EchoSessionState.Step.state_of_idle hs hne hidle hdown
  -- the echo comes back and is queued on the session
  have hrecv := (hs₁.valid h ip hv).recvOne_sent he₁ (List.mem_append_right _ (List.mem_singleton_self _)) hloop
  set em₂ : EchoManager Addr := { em₁ with echoSessions := em₁.echoSessions.insert d es₁.recvEcho }
  have he₂ : em₂.echoSessions.lookup d = some es₁.recvEcho := AList.lookup_insert _
  obtain ⟨n, hn, hq⟩ := es₁.recvEcho_shape
  -- the loop takes the signal
  have hs₃ : EchoManager.Step h ip em₂ _ :=
    .session he₂ (by decide) (.recv (by rw [hq]; exact hrun) (by rw [hq]; exact hn))
  refine ⟨datagram, em₁, es₁, em₂, _, _, hs₁, he₁, rfl, hwait, hrecv, hs₃, AList.lookup_insert _, ?_⟩
  -- the signal finds the session Down: the machine's move to Up
  have hst : ({ es₁.recvEcho with recvCh := es₁.recvEcho.recvCh - 1 } : EchoSessionState Addr).state = .down := by
    rw [hq]; exact hdown
  rw [EchoSessionState.handleEchoRecv_eq (.inl hst), hst]
  refine ⟨rfl, rfl, ?_⟩
  rw [hq, ← hloc]
  rfl

end Steps

/-- `CreateEchoSession` files a session for `plainEchoConfig` under 5 and
`Run` starts it: a reachable state with a running session, Down. -/
theorem plainEchoManager_running :
    ∃ (em : EchoManager (Option (List UInt8))) (es : EchoSessionState (Option (List UInt8))), em.Reachable lengthDigests ipv4 ∧ em.echoSessions.lookup 5 = some es ∧
      es.state = .down ∧ es.running = true ∧ es.recvCh = 0 := by
  obtain ⟨es₁, he₁, hrn, hdown, hidle⟩ : ∃ es, ((EchoManager.init [5] : EchoManager (Option (List UInt8))).createEchoSession
      ipv4 plainEchoConfig).2.echoSessions.lookup 5 = some es ∧ es.running = false ∧ es.state = .down ∧
        es.recvCh = 0 :=
    ⟨_, rfl, rfl, rfl, rfl⟩
  exact ⟨_, _, ⟨[5], (Relation.ReflTransGen.single (.createEchoSession _ _)).tail (.session he₁ (by decide) (.run hrn))⟩,
    AList.lookup_insert _, hdown, rfl, hidle⟩

/-- The session of `plainEchoManager_running` goes Up on its first echo. -/
theorem echo_return_brings_session_up_plain :
    ∃ (em : EchoManager (Option (List UInt8))) (es : EchoSessionState (Option (List UInt8))), em.Reachable lengthDigests ipv4 ∧ em.echoSessions.lookup 5 = some es ∧
      es.state = .down ∧ es.running = true ∧ es.recvCh = 0 ∧
      ∃ datagram em₁ es₁ em₂ em₃ es₃,
        EchoManager.Step lengthDigests ipv4 em em₁ ∧ em₁.echoSessions.lookup 5 = some es₁ ∧
        es₁.sent = es.sent ++ [datagram] ∧
        (∀ e es', e ≠ .recvEcho → EchoSessionState.Step e es₁ es' → es'.state = .down) ∧
        EchoReceiver.recvOne echoListener em₁
          [(⟨some [10, 0, 0, 1], some [10, 0, 0, 2], 254, "eth0"⟩, datagram)] = some (em₂, []) ∧
        EchoManager.Step lengthDigests ipv4 em₂ em₃ ∧ em₃.echoSessions.lookup 5 = some es₃ ∧
        es₃.state = .up ∧ es₃.localDiag = DiagNone ∧
        es₃.notifyCh = es.notifyCh.map fun queued =>
          Go.trySend notifyChSize queued ⟨5, es.peerAddr, .down, .up, DiagNone⟩ := by
  obtain ⟨em, es, hr, he, hdown, hrun, hidle⟩ := plainEchoManager_running
  exact ⟨em, es, hr, he, hdown, hrun, hidle, echo_return_brings_session_up lengthDigests ipv4 hr he hdown hrun hidle
    (show (⟨some [10, 0, 0, 1], some [10, 0, 0, 2], 254, "eth0"⟩ : PacketMeta _).ttl = ttlRequired - 1 from rfl)⟩

/-- The session of `plainEchoManager_running` sends once; its echo comes
back. -/
theorem echo_datagrams_return_to_sender_plain :
    ∃ (em : EchoManager (Option (List UInt8))) (es : EchoSessionState (Option (List UInt8))) (datagram : List UInt8),
      em.Reachable lengthDigests ipv4 ∧ em.echoSessions.lookup 5 = some es ∧ datagram ∈ es.sent ∧
      EchoReceiver.recvOne echoListener em
          [(⟨some [10, 0, 0, 1], some [10, 0, 0, 2], 254, "eth0"⟩, datagram)] =
        some ({ em with echoSessions := em.echoSessions.insert 5 es.recvEcho }, []) := by
  obtain ⟨em, es, ⟨rand, hr⟩, he, -, hrun, -⟩ := plainEchoManager_running
  have hi := ((EchoManager.Reachable.valid lengthDigests ipv4 ⟨rand, hr⟩).filed 5 es he).2
  -- the transmit timer fires and the session sends its echo
  have hr' := hr.tail (.session he (by decide) (.txTimer hrun (EchoSessionState.sendEcho_eq hi)))
  refine ⟨_, _, _, ⟨rand, hr'⟩, AList.lookup_insert _, List.mem_append_right _ (List.mem_singleton_self _), ?_⟩
  exact echo_datagrams_return_to_sender lengthDigests ipv4 ⟨rand, hr'⟩ (AList.lookup_insert _)
    (List.mem_append_right _ (List.mem_singleton_self _)) rfl

end GoBFD
