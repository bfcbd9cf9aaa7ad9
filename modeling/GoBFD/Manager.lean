import GoBFD.Micro
import GoBFD.Go.Stdlib

/-!
# GoBFD.Manager

The session manager of `internal/bfd/manager.go`, `manager_session.go` and
`manager_micro.go`: the maps of sessions and micro-BFD groups, the
discriminator allocator, session creation and destruction, reconciliation
against a desired set, and the dispatch of state changes to micro-BFD
groups and subscribers.

Every method runs under the manager's locks, so each is one atomic step
`Manager → result × Manager`; a method that fails still returns the state
it leaves, since the Go code mutates in place.  A session's goroutine is
started by `CreateSession`, but what it runs is the session's own step
(`GoBFD.Session.Run`); the manager only holds its record.

Pointers are modelled by what identifies them: `sessionsByPeer` maps a key
to the discriminator under which its entry is filed in `sessions`, and a
subscriber channel is a number.  `crypto/rand` is the stream `rand` of the
words its reads return to the modelled callers, `Allocate` and
`NewAuthState`; an exhausted stream is a read error.  Metrics, logging
and the legacy `publicNotifyCh` are not modelled.  The echo sessions are
those of `GoBFD.Echo.Manager`, and unsolicited BFD (RFC 9468, which the
daemon leaves off by default) is in `GoBFD.Manager.Calls`.
-/

namespace GoBFD

open Go

variable {Addr : Type}

/-! ## Records -/

/-- `sessionKey`: the peer identity of RFC 5880 Section 6.8.6 demultiplexing. -/
structure SessionKey (Addr : Type) where
  peerAddr : Addr
  localAddr : Addr
  ifName : String
  deriving DecidableEq

/-- `sessionEntry`; the cancel function is the entry's lifetime. -/
structure SessionEntry (Addr : Type) where
  session : Session Addr
  key : SessionKey Addr
  unsolicited : Bool

/-- The errors of the manager's methods. -/
inductive ManagerError where
  /-- `ErrInvalidPeerAddr`. -/
  | invalidPeerAddr
  /-- `ErrDuplicateSession`. -/
  | duplicateSession
  /-- A read from `crypto/rand` failed. -/
  | randFailed
  /-- `ErrDiscriminatorExhausted`. -/
  | discriminatorExhausted
  /-- `NewSession` returned this error. -/
  | session (e : SessionError)
  /-- `NewSession` panicked. -/
  | panic
  /-- `ErrSessionNotFound`, for the discriminator given. -/
  | sessionNotFound (discr : UInt32)
  /-- `ErrMicroBFDGroupExists`. -/
  | microGroupExists (lag : String)
  /-- `ErrMicroBFDGroupNotFound`. -/
  | microGroupNotFound (lag : String)
  /-- `NewMicroBFDGroup` returned this error. -/
  | micro (lag : String) (e : MicroError)
  deriving DecidableEq

/-- `DiscriminatorAllocator`: the set of discriminators in use. -/
structure DiscriminatorAllocator where
  allocated : List UInt32

/-- `maxAllocAttempts`. -/
def maxAllocAttempts : Nat := 100

/-- A channel made by `SubscribeStateChanges`, with what it buffers. -/
structure Subscriber (Addr : Type) where
  ch : Nat
  queue : List (StateChange Addr)

/-- `Manager`. -/
structure Manager (Addr : Type) where
  sessions : AList fun _ : UInt32 => SessionEntry Addr
  sessionsByPeer : AList fun _ : SessionKey Addr => UInt32
  microGroups : AList fun _ : String => MicroBFDGroup Addr
  discriminators : DiscriminatorAllocator
  rand : List UInt32
  rawNotifyCh : List (StateChange Addr)
  subscribers : List (Subscriber Addr)
  nextSubscriber : Nat

/-- `NewManager(logger)`, over the stream of random words. -/
def newManager (rand : List UInt32) : Manager Addr :=
  { sessions := ∅
    sessionsByPeer := ∅
    microGroups := ∅
    discriminators := ⟨[]⟩
    rand := rand
    rawNotifyCh := []
    subscribers := []
    nextSubscriber := 0 }

/-! ## The discriminator allocator -/

namespace DiscriminatorAllocator

/-- The loop of `Allocate`: read a word, skip zero and words in use, and
give up after `maxAllocAttempts` reads. -/
def allocateLoop (d : DiscriminatorAllocator) : Nat → List UInt32 →
    Except ManagerError UInt32 × List UInt32
  | 0, rand => (.error .discriminatorExhausted, rand)
  | _ + 1, [] => (.error .randFailed, [])
  | n + 1, w :: rand => if w = 0 ∨ w ∈ d.allocated then d.allocateLoop n rand else (.ok w, rand)

/-- `Allocate()`. -/
def allocate (d : DiscriminatorAllocator) (rand : List UInt32) :
    Except ManagerError UInt32 × DiscriminatorAllocator × List UInt32 :=
  match d.allocateLoop maxAllocAttempts rand with
  | (.ok w, rand) => (.ok w, ⟨w :: d.allocated⟩, rand)
  | (.error e, rand) => (.error e, d, rand)

/-- `Release(discr)`. -/
def release (d : DiscriminatorAllocator) (discr : UInt32) : DiscriminatorAllocator :=
  ⟨d.allocated.filter (· != discr)⟩

/-- A discriminator `Allocate` returns is nonzero and was free. -/
theorem allocateLoop_ok {d : DiscriminatorAllocator} {n : Nat} {rand rand' : List UInt32}
    {w : UInt32} (h : d.allocateLoop n rand = (.ok w, rand')) : w ≠ 0 ∧ w ∉ d.allocated := by
  induction n generalizing rand with
  | zero => cases h
  | succ n ih =>
    match rand, h with
    | x :: rand, h =>
      unfold allocateLoop at h
      split_ifs at h with hx
      · exact ih h
      · cases h
        exact not_or.mp hx

theorem allocate_ok {d d' : DiscriminatorAllocator} {rand rand' : List UInt32} {w : UInt32}
    (h : d.allocate rand = (.ok w, d', rand')) :
    w ≠ 0 ∧ w ∉ d.allocated ∧ d' = ⟨w :: d.allocated⟩ := by
  unfold allocate at h
  split at h
  · rename_i w' r hl
    cases h
    exact ⟨(allocateLoop_ok hl).1, (allocateLoop_ok hl).2, rfl⟩
  · cases h

/-- Releasing a discriminator that was just allocated restores the set. -/
theorem release_cons {d : DiscriminatorAllocator} {w : UInt32} (hw : w ∉ d.allocated) :
    (⟨w :: d.allocated⟩ : DiscriminatorAllocator).release w = d := by
  rw [release, List.filter_cons_of_neg (by simp), List.filter_eq_self.mpr]
  intro x hx
  simpa using fun h : x = w => hw (h ▸ hx)

end DiscriminatorAllocator

/-! ## Sessions -/

section Sessions

variable [DecidableEq Addr] (h : Digests) (ip : NetIP Addr)

/-- Lift `NewSession`'s result into the manager's errors. -/
def liftNewSession : Go.Result SessionError (Session Addr) → Except ManagerError (Session Addr)
  | .ok s => .ok s
  | .error (.error e) => .error (.session e)
  | .error .panic => .error .panic

/-- `NewSession(cfg, discr, sender, m.rawNotifyCh)`, given the words of
`crypto/rand`: after validation, `initAuth` reads one word for the initial
`XmitAuthSeq` when an authenticator is configured. -/
def newSessionFromRand (cfg : SessionConfig Addr) (discr : UInt32) (rand : List UInt32) :
    Except ManagerError (Session Addr) × List UInt32 :=
  match validateSessionConfig cfg discr, cfg.auth, rand with
  | .error e, _, rand => (.error (.session e), rand)
  | .ok (), none, rand => (liftNewSession (newSession h cfg discr true 0), rand)
  | .ok (), some _, [] => (.error .randFailed, [])
  | .ok (), some _, w :: rand => (liftNewSession (newSession h cfg discr true w), rand)

/-- The key `CreateSession` files a session under. -/
def SessionConfig.key (cfg : SessionConfig Addr) : SessionKey Addr :=
  ⟨cfg.peerAddr, cfg.localAddr, cfg.interface⟩

/-- `CreateSession(ctx, cfg, sender)`: check the peer and the key, allocate
a discriminator, build the session (releasing the discriminator if that
fails), and file it in both maps. -/
def Manager.createSession (m : Manager Addr) (cfg : SessionConfig Addr) :
    Except ManagerError (Session Addr) × Manager Addr :=
  if !ip.isValid cfg.peerAddr then (.error .invalidPeerAddr, m)
  -- checkDuplicate
  else if (m.sessionsByPeer.lookup cfg.key).isSome then (.error .duplicateSession, m)
  else
    -- allocateAndBuild
    match m.discriminators.allocate m.rand with
    | (.error e, _, rand) => (.error e, { m with rand := rand })
    | (.ok discr, alloc, rand) =>
      match newSessionFromRand h cfg discr rand with
      | (.error e, rand) => (.error e, { m with discriminators := alloc.release discr, rand := rand })
      | (.ok s, rand) =>
        -- registerAndStart checks the key again under the write lock
        if (m.sessionsByPeer.lookup cfg.key).isSome then
          (.error .duplicateSession, { m with discriminators := alloc.release discr, rand := rand })
        else
          (.ok s,
            { m with
              sessions := m.sessions.insert discr { session := s, key := cfg.key, unsolicited := false }
              sessionsByPeer := m.sessionsByPeer.insert cfg.key discr
              discriminators := alloc
              rand := rand })

/-- `DestroySession(ctx, localDiscr)`: remove the entry from both maps and
release its discriminator.  No notification is emitted. -/
def Manager.destroySession (m : Manager Addr) (localDiscr : UInt32) :
    Except ManagerError Unit × Manager Addr :=
  match m.sessions.lookup localDiscr with
  | none => (.error (.sessionNotFound localDiscr), m)
  | some entry =>
    (.ok (),
      { m with
        sessions := m.sessions.erase localDiscr
        sessionsByPeer := m.sessionsByPeer.erase entry.key
        discriminators := m.discriminators.release localDiscr })

/-- The string `sessionKeySet` files a key under: `peer|local|interface`. -/
def sessionKeyString (sk : SessionKey Addr) : String :=
  ip.string sk.peerAddr ++ "|" ++ ip.string sk.localAddr ++ "|" ++ sk.ifName

/-- `sessionKeySet()`: over `sessionsByPeer`, each key string with the
discriminator of the session filed under it.  A key whose discriminator has
no entry, which the manager's own methods never leave, is skipped. -/
def Manager.sessionKeySet (m : Manager Addr) : AList fun _ : String => UInt32 :=
  m.sessionsByPeer.entries.foldl
    (fun keys kd =>
      match m.sessions.lookup kd.2 with
      | some entry => keys.insert (sessionKeyString ip kd.1) entry.session.localDiscr
      | none => keys)
    ∅

/-- `ReconcileConfig`; the sender is not modelled. -/
structure ReconcileConfig (Addr : Type) where
  key : String
  sessionConfig : SessionConfig Addr

/-- The errors `ReconcileSessions` and `ReconcileMicroBFDGroups` collect,
with the key of the entry that failed. -/
inductive ReconcileError where
  | destroy (key : String) (e : ManagerError)
  | create (key : String) (e : ManagerError)

/-- What a reconcile loop carries: its count, the errors so far, and the
manager. -/
abbrev ReconcileAcc (Addr : Type) := Nat × List ReconcileError × Manager Addr

/-- One iteration of the destroy loop of `ReconcileSessions`. -/
def reconcileDestroyStep (desiredKeys : AList fun _ : String => ReconcileConfig Addr)
    (acc : ReconcileAcc Addr) (kd : Sigma fun _ : String => UInt32) : ReconcileAcc Addr :=
  if (desiredKeys.lookup kd.1).isSome then acc
  else
    match acc.2.2.destroySession kd.2 with
    | (.ok (), m) => (acc.1 + 1, acc.2.1, m)
    | (.error e, m) => (acc.1, acc.2.1 ++ [.destroy kd.1 e], m)

/-- One iteration of the create loop of `ReconcileSessions`. -/
def reconcileCreateStep (currentKeys : AList fun _ : String => UInt32)
    (acc : ReconcileAcc Addr) (kr : Sigma fun _ : String => ReconcileConfig Addr) :
    ReconcileAcc Addr :=
  if (currentKeys.lookup kr.1).isSome then acc
  else
    match acc.2.2.createSession h ip kr.2.sessionConfig with
    | (.ok _, m) => (acc.1 + 1, acc.2.1, m)
    | (.error e, m) => (acc.1, acc.2.1 ++ [.create kr.1 e], m)

/-- `ReconcileSessions(ctx, desired)`: destroy every session whose key
string is not desired, then create every desired session whose key is not
current.  Returns the numbers created and destroyed, and the errors. -/
def Manager.reconcileSessions (m : Manager Addr) (desired : List (ReconcileConfig Addr)) :
    (Nat × Nat × List ReconcileError) × Manager Addr :=
  let desiredKeys : AList fun _ : String => ReconcileConfig Addr :=
    desired.foldl (fun keys rc => keys.insert rc.key rc) ∅
  let currentKeys := m.sessionKeySet ip
  let (destroyed, errs, m) := currentKeys.entries.foldl (reconcileDestroyStep desiredKeys) (0, [], m)
  let (created, errs, m) :=
    desiredKeys.entries.foldl (reconcileCreateStep h ip currentKeys) (0, errs, m)
  ((created, destroyed, errs), m)

/-- `SessionSnapshot`: the fields `Sessions()` copies from the modelled
session record.  Timestamps, counters and the negotiated intervals are not
modelled. -/
structure SessionSnapshot (Addr : Type) where
  localDiscr : UInt32
  remoteDiscr : UInt32
  peerAddr : Addr
  localAddr : Addr
  interface : String
  type : SessionType
  state : State
  remoteState : State
  localDiag : Diag
  desiredMinTx : Duration
  requiredMinRx : Duration
  detectMultiplier : UInt8
  paddedPduSize : Nat

/-- The snapshot of one session; `State()` is the atomic `state`. -/
def Session.snapshot (s : Session Addr) : SessionSnapshot Addr :=
  { localDiscr := s.localDiscr
    remoteDiscr := s.remoteDiscr
    peerAddr := s.peerAddr
    localAddr := s.localAddr
    interface := s.ifName
    type := s.sessionType
    state := s.state
    remoteState := s.remoteState
    localDiag := s.localDiag
    desiredMinTx := s.desiredMinTxInterval
    requiredMinRx := s.requiredMinRxInterval
    detectMultiplier := s.detectMult
    paddedPduSize := s.paddedPduSize }

/-- `Sessions()`. -/
def Manager.sessionSnapshots (m : Manager Addr) : List (SessionSnapshot Addr) :=
  m.sessions.entries.map fun e => e.2.session.snapshot

end Sessions

/-! ## Micro-BFD groups -/

section Micro

/-- `MicroBFDReconcileConfig`. -/
structure MicroBFDReconcileConfig (Addr : Type) where
  key : String
  config : MicroBFDConfig Addr

/-- `CreateMicroBFDGroup(cfg)`. -/
def Manager.createMicroBFDGroup (m : Manager Addr) (cfg : MicroBFDConfig Addr) :
    Except ManagerError (MicroBFDGroup Addr) × Manager Addr :=
  if (m.microGroups.lookup cfg.lagInterface).isSome then
    (.error (.microGroupExists cfg.lagInterface), m)
  else
    match newMicroBFDGroup cfg with
    | .error e => (.error (.micro cfg.lagInterface e), m)
    | .ok g => (.ok g, { m with microGroups := m.microGroups.insert cfg.lagInterface g })

/-- `DestroyMicroBFDGroup(lagInterface)`. -/
def Manager.destroyMicroBFDGroup (m : Manager Addr) (lagInterface : String) :
    Except ManagerError Unit × Manager Addr :=
  if (m.microGroups.lookup lagInterface).isSome then
    (.ok (), { m with microGroups := m.microGroups.erase lagInterface })
  else (.error (.microGroupNotFound lagInterface), m)

/-- `microBFDGroupKeySet()`: the LAG names of the groups. -/
def Manager.microBFDGroupKeySet (m : Manager Addr) : List String := m.microGroups.keys

/-- One iteration of the destroy loop of `ReconcileMicroBFDGroups`. -/
def reconcileGroupDestroyStep (desiredKeys : AList fun _ : String => MicroBFDReconcileConfig Addr)
    (acc : ReconcileAcc Addr) (key : String) : ReconcileAcc Addr :=
  if (desiredKeys.lookup key).isSome then acc
  else
    match acc.2.2.destroyMicroBFDGroup key with
    | (.ok (), m) => (acc.1 + 1, acc.2.1, m)
    | (.error e, m) => (acc.1, acc.2.1 ++ [.destroy key e], m)

/-- One iteration of the create loop of `ReconcileMicroBFDGroups`. -/
def reconcileGroupCreateStep (currentKeys : List String) (acc : ReconcileAcc Addr)
    (kr : Sigma fun _ : String => MicroBFDReconcileConfig Addr) : ReconcileAcc Addr :=
  if kr.1 ∈ currentKeys then acc
  else
    match acc.2.2.createMicroBFDGroup kr.2.config with
    | (.ok _, m) => (acc.1 + 1, acc.2.1, m)
    | (.error e, m) => (acc.1, acc.2.1 ++ [.create kr.1 e], m)

/-- `ReconcileMicroBFDGroups(desired)`: destroy the groups whose LAG is not
desired and create the desired ones that do not exist.  A group that exists
is left as it is, whatever its desired members and threshold. -/
def Manager.reconcileMicroBFDGroups (m : Manager Addr)
    (desired : List (MicroBFDReconcileConfig Addr)) :
    (Nat × Nat × List ReconcileError) × Manager Addr :=
  let desiredKeys : AList fun _ : String => MicroBFDReconcileConfig Addr :=
    desired.foldl (fun keys rc => keys.insert rc.key rc) ∅
  let currentKeys := m.microBFDGroupKeySet
  let (destroyed, errs, m) := currentKeys.foldl (reconcileGroupDestroyStep desiredKeys) (0, [], m)
  let (created, errs, m) :=
    desiredKeys.entries.foldl (reconcileGroupCreateStep currentKeys) (0, errs, m)
  ((created, destroyed, errs), m)

/-- `dispatchMicroBFD(ctx, sc)`: the first group that has the interface as
a member records the new state; the others are not asked.  The actuator is
not modelled. -/
def Manager.dispatchMicroBFD (m : Manager Addr) (sc : StateChange Addr) : Manager Addr :=
  let update (e : Sigma fun _ : String => MicroBFDGroup Addr) :=
    match e.2.updateMemberState sc.interface sc.newState sc.localDiscr with
    | .ok (_, g) => some (e.1, g)
    | .error _ => none
  match m.microGroups.entries.findSome? update with
  | some (lag, g) => { m with microGroups := m.microGroups.insert lag g }
  | none => m

end Micro

/-! ## State-change fan-out -/

/-- A send on a subscriber channel that drops the event when the buffer is
full. -/
def Subscriber.offer (sub : Subscriber Addr) (sc : StateChange Addr) : Subscriber Addr :=
  if sub.queue.length < notifyChSize then { sub with queue := sub.queue ++ [sc] } else sub

/-- `broadcastStateChange(sc)`: offer the event to every subscriber there is
now. -/
def Manager.broadcastStateChange (m : Manager Addr) (sc : StateChange Addr) : Manager Addr :=
  { m with subscribers := m.subscribers.map (·.offer sc) }

/-- The body of `RunDispatch`'s loop for the state change `sc` it received:
route micro-BFD member changes to their group, then broadcast.  The cleanup
of unsolicited sessions does nothing with unsolicited BFD off. -/
def Manager.dispatchStateChange (m : Manager Addr) (sc : StateChange Addr) : Manager Addr :=
  let m := if sc.type = .microBFD ∧ sc.interface ≠ "" then m.dispatchMicroBFD sc else m
  m.broadcastStateChange sc

/-- `SubscribeStateChanges(ctx)`: register a new channel. -/
def Manager.subscribeStateChanges (m : Manager Addr) : Nat × Manager Addr :=
  (m.nextSubscriber,
    { m with
      subscribers := m.subscribers ++ [⟨m.nextSubscriber, []⟩]
      nextSubscriber := m.nextSubscriber + 1 })

end GoBFD
