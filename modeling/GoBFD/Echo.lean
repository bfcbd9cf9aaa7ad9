import GoBFD.Session.Timers
import GoBFD.Session.Transmit

/-!
# GoBFD.Echo

RFC 9747 unaffiliated echo sessions as `internal/bfd/echo.go` runs them.
An echo session sends BFD Control packets that the remote forwards back by
plain IP routing; the echo receiver hands each one that comes back to
`RecvEcho`, and the session loop takes these signals, the transmit timer
and the detection timer in any order.  There is no handshake: a returned
echo moves Down to Up, an expired detection timer moves Up to Down with
`DiagEchoFailed`.

`EchoSessionState` is the whole `EchoSession` object its goroutine and its
callers read and write; `EchoSession` (in `GoBFD.Session.Timers`) is the
part of it the timer functions read.  `EchoSessionState.Step` is one step
of the loop or of a caller, labelled by what it does, and
`EchoSessionState.Run` a run with the events it took.

* `EchoSpec` is what the echo function is for: a machine over the
  verdicts a run hands it (an echo came back, the detection time ran out).
  `echo_run_refines_spec`: along every run from `NewEchoSession`, whatever
  the interleaving of transmissions, receive signals, starts and stops,
  the state, the diagnostic and the notifications are those of `EchoSpec`
  on the run's verdicts.
* `EchoSessionState.Inv` is the invariant of every reachable state: every
  datagram the session handed its sender is the image of one of its own
  echo packets, so the echo receiver accepts it and reads the session's
  discriminator from it (`echo_datagrams_return_to_sender`).

The counters, timestamps, metrics and logging of the session are not
modelled, nor are the timer deadlines: a timer is an event that may fire
at any step.  The notification channel is the buffer of the channel
`NewEchoSession` was handed, of capacity `notifyChSize`; a change sent when
it is full is dropped.  Alone, a session's channel has no reader, so it
keeps the first `notifyChSize` changes; in the manager
(`GoBFD.Echo.Manager`) each step's changes move on to `rawNotifyCh`.
-/

namespace GoBFD

variable {Addr : Type}

/-- `echoRecvChSize`, the capacity of `recvCh`. -/
def echoRecvChSize : Nat := 16

/-- The `StateChange` an echo session sends.  Its `Type` and `Interface`
keep their zero values (type 0, which names no session type, and the empty
interface), which this record does not carry. -/
structure EchoStateChange (Addr : Type) where
  localDiscr : UInt32
  peerAddr : Addr
  oldState : State
  newState : State
  diag : Diag
  deriving DecidableEq

/-- An `EchoSession` with what its goroutine and its callers read and
write: the timer fields `NewEchoSession` validates, the identity, the
`state` and `localDiag` atomics, the cached packet, the signals pending on
`recvCh` (a `chan struct{}`, so only their number matters), the
notifications, the datagrams handed to the sender, and whether `Run` is
active. -/
structure EchoSessionState (Addr : Type) where
  timers : EchoSession
  peerAddr : Addr
  localAddr : Addr
  ifName : String
  state : State
  localDiag : Diag
  recvCh : Nat
  cachedPacket : List UInt8
  notifyCh : Option (List (EchoStateChange Addr))
  sent : List (List UInt8)
  running : Bool

/-- The packet `rebuildCachedPacket` builds for a session with timer fields
`es` in `state` with diagnostic `diag`: My Discriminator for the demux on
return, Your Discriminator only once Up, and no interval requested of the
remote. -/
def echoPacket (es : EchoSession) (state : State) (diag : Diag) : ControlPacket :=
  { version := Version
    diag := diag
    state := state
    poll := false
    final := false
    controlPlaneIndependent := false
    authPresent := false
    demand := false
    multipoint := false
    detectMult := es.detectMult
    myDiscriminator := es.localDiscr
    yourDiscriminator := if state = .up then es.localDiscr else 0
    desiredMinTxInterval := microsecondsFromDuration es.txInterval
    requiredMinRxInterval := 0
    requiredMinEchoRxInterval := 0 }

namespace EchoSessionState

/-- `rebuildCachedPacket()`: marshal the packet into the cached buffer; an
error is logged and leaves the buffer. -/
def rebuildCachedPacket (s : EchoSessionState Addr) : Option (EchoSessionState Addr) :=
  match marshalControlPacket (echoPacket s.timers s.state s.localDiag) s.cachedPacket with
  | .ok (_, buf) => some { s with cachedPacket := buf }
  | .error (.error _) => some s
  | .error .panic => none

/-- `sendEcho(ctx)`: rebuild the cached packet and hand its first `Length`
bytes to the sender.  A send error only skips the counter. -/
def sendEcho (s : EchoSessionState Addr) : Option (EchoSessionState Addr) := do
  let s ← s.rebuildCachedPacket
  let pktLen := (← (Go.load s.cachedPacket 3 : Go.Result Empty UInt8).toOption).toNat
  let datagram ← (Go.slice s.cachedPacket 0 pktLen : Go.Result Empty (List UInt8)).toOption
  pure { s with sent := s.sent ++ [datagram] }

/-- `RecvEcho()`: queue a signal, or drop it on a full channel. -/
def recvEcho (s : EchoSessionState Addr) : EchoSessionState Addr :=
  if s.recvCh < echoRecvChSize then { s with recvCh := s.recvCh + 1 } else s

/-- `emitNotification(oldState, newState, diag)`. -/
def emitNotification (s : EchoSessionState Addr) (oldState newState : State) (diag : Diag) :
    EchoSessionState Addr :=
  match s.notifyCh with
  | none => s
  | some queued =>
    let sc : EchoStateChange Addr :=
      { localDiscr := s.timers.localDiscr
        peerAddr := s.peerAddr
        oldState := oldState
        newState := newState
        diag := diag }
    -- `select` with a `default` case: a full channel drops the change
    { s with notifyCh := some (Go.trySend notifyChSize queued sc) }

/-- `transitionTo(newState, diag)`: nothing when the state is already
`newState`; otherwise store both atomics and notify. -/
def transitionTo (s : EchoSessionState Addr) (newState : State) (diag : Diag) :
    EchoSessionState Addr :=
  let oldState := s.state
  if oldState = newState then s
  else ({ s with state := newState, localDiag := diag } : EchoSessionState Addr).emitNotification
    oldState newState diag

/-- `handleEchoRecv(detectTimer)`: Down moves to Up on a returned echo. -/
def handleEchoRecv (s : EchoSessionState Addr) : EchoSessionState Addr :=
  if s.state = .down then s.transitionTo .up DiagNone else s

/-- `handleDetectTimeout(detectTimer)`: Up moves to Down with
`DiagEchoFailed` when no echo returned in time. -/
def handleDetectTimeout (s : EchoSessionState Addr) : EchoSessionState Addr :=
  if s.state = .up then s.transitionTo .down DiagEchoFailed else s

end EchoSessionState

/-- `NewEchoSession(cfg, localDiscr, sender, notifyCh, logger)`: validate
and copy the timer fields (`newEchoSession`), start Down with `DiagNone`,
and build the first cached packet into a zeroed `MaxPacketSize` buffer.
`notify` says whether `notifyCh` is non-nil. -/
def newEchoSessionState (ip : Go.NetIP Addr) (cfg : EchoSessionConfig Addr) (localDiscr : UInt32)
    (notify : Bool) : Go.Result EchoError (EchoSessionState Addr) :=
  match newEchoSession ip cfg localDiscr with
  | .error e => Go.fail e
  | .ok es =>
    let s : EchoSessionState Addr :=
      { timers := es
        peerAddr := cfg.peerAddr
        localAddr := cfg.localAddr
        ifName := cfg.interface
        state := .down
        localDiag := DiagNone
        recvCh := 0
        cachedPacket := List.replicate MaxPacketSize 0
        notifyCh := if notify then some [] else none
        sent := []
        running := false }
    match s.rebuildCachedPacket with
    | some s => .ok s
    | none => .error .panic

/-! ## Steps and runs -/

/-- What a step of an echo session does. -/
inductive EchoEvent where
  /-- The echo receiver calls `RecvEcho`. -/
  | recvEcho
  /-- `Run` starts the loop. -/
  | run
  /-- The context is cancelled and `Run` returns. -/
  | stop
  /-- The loop takes a signal from `recvCh`. -/
  | recv
  /-- The transmit timer fires. -/
  | txTimer
  /-- The detection timer fires. -/
  | detectTimer
  deriving DecidableEq

/-- One step of an echo session: a call of `RecvEcho`, the start or end of
`Run`, or one case of the `select` of `echoRunLoop`. -/
inductive EchoSessionState.Step : EchoEvent → EchoSessionState Addr → EchoSessionState Addr → Prop
  | recvEcho {s : EchoSessionState Addr} : Step .recvEcho s s.recvEcho
  | run {s : EchoSessionState Addr} (hr : s.running = false) : Step .run s { s with running := true }
  | stop {s : EchoSessionState Addr} (hr : s.running = true) : Step .stop s { s with running := false }
  | recv {s : EchoSessionState Addr} (hr : s.running = true) (hq : 0 < s.recvCh) :
      Step .recv s ({ s with recvCh := s.recvCh - 1 } : EchoSessionState Addr).handleEchoRecv
  | txTimer {s s' : EchoSessionState Addr} (hr : s.running = true) (hx : s.sendEcho = some s') :
      Step .txTimer s s'
  | detectTimer {s : EchoSessionState Addr} (hr : s.running = true) :
      Step .detectTimer s s.handleDetectTimeout

/-- A run of an echo session, with the events it took in order. -/
inductive EchoSessionState.Run : EchoSessionState Addr → List EchoEvent → EchoSessionState Addr → Prop
  | refl (s : EchoSessionState Addr) : Run s [] s
  | tail {s s' s'' : EchoSessionState Addr} {evs : List EchoEvent} {e : EchoEvent} :
      Run s evs s' → Step e s' s'' → Run s (evs ++ [e]) s''

/-! ## What the echo function is for -/

/-- RFC 9747 Section 3.3 as a machine over verdicts: `true` when an echo
came back, `false` when the detection time ran out.  It holds its state,
the diagnostic of its last move, and the moves it reported. -/
structure EchoSpec where
  state : State
  diag : Diag
  moves : List (State × State × Diag)

namespace EchoSpec

/-- Down, with nothing reported. -/
def init : EchoSpec := ⟨.down, DiagNone, []⟩

/-- The state a verdict calls for. -/
def target (v : Bool) : State := if v then .up else .down

/-- The diagnostic of a move to that state. -/
def targetDiag (v : Bool) : Diag := if v then DiagNone else DiagEchoFailed

/-- The move a verdict makes from `st`, if any. -/
def move (st : State) (v : Bool) : Option (State × State × Diag) :=
  if st = target v then none else some (st, target v, targetDiag v)

/-- Read one verdict. -/
def read (m : EchoSpec) (v : Bool) : EchoSpec :=
  match move m.state v with
  | none => m
  | some mv => ⟨mv.2.1, mv.2.2, m.moves ++ [mv]⟩

/-- Read the verdicts of a run from `init`. -/
def run (vs : List Bool) : EchoSpec := vs.foldl read init

/-- The `i`-th move of the machine: up on even, down on odd. -/
def altMove (i : Nat) : State × State × Diag :=
  if i % 2 = 0 then (.down, .up, DiagNone) else (.up, .down, DiagEchoFailed)

/-- The machine's invariant: its moves alternate from Down to Up, it is Up
after an odd number of them, and its diagnostic is that of the last. -/
structure Alternates (m : EchoSpec) : Prop where
  moves : m.moves = (List.range m.moves.length).map altMove
  state : m.state = if m.moves.length % 2 = 1 then .up else .down
  diag : m.diag = if m.moves.length = 0 then DiagNone else (altMove (m.moves.length - 1)).2.2

theorem init_alternates : init.Alternates :=
  ⟨rfl, rfl, rfl⟩

/-- A move leaves for the state the verdict calls for, with its diagnostic. -/
theorem move_eq_some {st : State} {v : Bool} {mv : State × State × Diag} (h : move st v = some mv) :
    mv = (st, target v, targetDiag v) := by
  unfold move at h
  split_ifs at h
  exact (Option.some.inj h).symm

theorem target_cases (v : Bool) : target v = .down ∨ target v = .up := by
  cases v
  · exact .inl rfl
  · exact .inr rfl

theorem targetDiag_cases (v : Bool) : targetDiag v = DiagNone ∨ targetDiag v = DiagEchoFailed := by
  cases v
  · exact .inr rfl
  · exact .inl rfl

theorem altMove_snd (i : Nat) : (altMove i).2.1 = if (i + 1) % 2 = 1 then .up else .down := by
  unfold altMove
  split_ifs <;> first | rfl | omega

/-- On an alternating machine, a move is the next alternating move: an
echo back moves it up from Down after an even number of moves, an expiry
moves it down from Up after an odd number. -/
theorem Alternates.move_eq {m : EchoSpec} (hm : m.Alternates) {v : Bool} {mv : State × State × Diag}
    (h : move m.state v = some mv) : mv = altMove m.moves.length := by
  unfold move at h
  split_ifs at h with hst
  cases h
  rcases Nat.mod_two_eq_zero_or_one m.moves.length with h0 | h1
  · have hdown : m.state = .down := by rw [hm.state, if_neg (by omega)]
    cases v
    · exact absurd hdown hst
    · rw [hdown, altMove, if_pos h0]
      rfl
  · have hup : m.state = .up := by rw [hm.state, if_pos h1]
    cases v
    · rw [hup, altMove, if_neg (by omega)]
      rfl
    · exact absurd hup hst

theorem Alternates.read {m : EchoSpec} (hm : m.Alternates) (v : Bool) : (m.read v).Alternates := by
  unfold EchoSpec.read
  split
  · exact hm
  · rename_i mv h
    rw [hm.move_eq h]
    refine ⟨?_, ?_, ?_⟩
    · rw [List.length_append, List.length_singleton, List.range_succ, List.map_append, ← hm.moves]
      rfl
    · rw [List.length_append, List.length_singleton, altMove_snd]
    · rw [List.length_append, List.length_singleton, if_neg (by omega), Nat.add_sub_cancel]

theorem run_alternates (vs : List Bool) : (run vs).Alternates := by
  unfold run
  induction vs using List.reverseRecOn with
  | nil => exact init_alternates
  | append_singleton vs v ih =>
    rw [List.foldl_append, List.foldl_cons, List.foldl_nil]
    exact ih.read v

/-- The machine is Up exactly when its last verdict was an echo back. -/
theorem run_state (vs : List Bool) : (run vs).state = if vs.getLast? = some true then .up else .down := by
  unfold run
  induction vs using List.reverseRecOn with
  | nil => rfl
  | append_singleton vs v ih =>
    rw [List.foldl_append, List.foldl_cons, List.foldl_nil, List.getLast?_append_of_ne_nil _ (by simp)]
    unfold read move
    split
    · rename_i h
      split_ifs at h with hst
      rw [hst]
      cases v <;> rfl
    · rename_i mv h
      split_ifs at h
      cases h
      cases v <;> rfl

end EchoSpec

/-! ## The loop refines the machine -/

/-- What an event tells the session about the path: an echo came back, or
the detection time ran out. -/
def EchoEvent.verdict : EchoEvent → Option Bool
  | .recv => some true
  | .detectTimer => some false
  | _ => none

/-- The verdicts of a run, in order. -/
def echoVerdicts (evs : List EchoEvent) : List Bool := evs.filterMap EchoEvent.verdict

/-- The notification `emitNotification` sends for a move of the machine. -/
def echoChange (localDiscr : UInt32) (peerAddr : Addr) (mv : State × State × Diag) :
    EchoStateChange Addr :=
  ⟨localDiscr, peerAddr, mv.1, mv.2.1, mv.2.2⟩

namespace EchoSessionState

variable {s s' : EchoSessionState Addr}

/-- The session after the machine's move `mv`: both atomics stored and the
move notified. -/
def moved (s : EchoSessionState Addr) (mv : State × State × Diag) : EchoSessionState Addr :=
  { s with
    state := mv.2.1
    localDiag := mv.2.2
    notifyCh := s.notifyCh.map fun queued =>
      Go.trySend notifyChSize queued (echoChange s.timers.localDiscr s.peerAddr mv) }

/-- `transitionTo` towards the state a verdict calls for is the machine's
move from the session's state. -/
theorem transitionTo_target (s : EchoSessionState Addr) (v : Bool) :
    s.transitionTo (EchoSpec.target v) (EchoSpec.targetDiag v) = (EchoSpec.move s.state v).elim s s.moved := by
  unfold transitionTo EchoSpec.move
  dsimp only
  by_cases h : s.state = EchoSpec.target v
  · rw [if_pos h, if_pos h]
    rfl
  · rw [if_neg h, if_neg h]
    unfold emitNotification moved
    cases s
    rename_i notifyCh _ _
    cases notifyCh <;> rfl

theorem handleEchoRecv_eq (hs : s.state = .down ∨ s.state = .up) :
    s.handleEchoRecv = (EchoSpec.move s.state true).elim s s.moved := by
  rw [← transitionTo_target]
  rcases hs with hs | hs
  · rw [handleEchoRecv, if_pos hs]
    rfl
  · -- already Up: `transitionTo` finds nothing to do
    rw [handleEchoRecv, if_neg (by rw [hs]; nofun)]
    unfold transitionTo
    dsimp only
    rw [if_pos (by rw [hs]; rfl)]

theorem handleDetectTimeout_eq (hs : s.state = .down ∨ s.state = .up) :
    s.handleDetectTimeout = (EchoSpec.move s.state false).elim s s.moved := by
  rw [← transitionTo_target]
  rcases hs with hs | hs
  · -- already Down
    rw [handleDetectTimeout, if_neg (by rw [hs]; nofun)]
    unfold transitionTo
    dsimp only
    rw [if_pos (by rw [hs]; rfl)]
  · rw [handleDetectTimeout, if_pos hs]
    rfl

theorem rebuildCachedPacket_shape (h : s.rebuildCachedPacket = some s') :
    ∃ buf, s' = { s with cachedPacket := buf } := by
  unfold rebuildCachedPacket at h
  split at h
  · cases h
    exact ⟨_, rfl⟩
  · cases h
    exact ⟨s.cachedPacket, rfl⟩
  · cases h

theorem sendEcho_shape (h : s.sendEcho = some s') :
    ∃ buf d, s' = { s with cachedPacket := buf, sent := s.sent ++ [d] } := by
  unfold sendEcho at h
  obtain ⟨s₁, h₁, h⟩ := Option.bind_eq_some_iff.mp h
  obtain ⟨_, -, h⟩ := Option.bind_eq_some_iff.mp h
  obtain ⟨d, -, h⟩ := Option.bind_eq_some_iff.mp h
  cases h
  obtain ⟨buf, rfl⟩ := rebuildCachedPacket_shape h₁
  exact ⟨buf, d, rfl⟩

/-- `s` stands for the machine `m`: the same state and diagnostic, and,
when there is a channel, the machine's moves as the notifications, in
order, as many as its buffer holds. -/
structure Tracks (s : EchoSessionState Addr) (m : EchoSpec) (notify : Bool) : Prop where
  state : s.state = m.state
  diag : s.localDiag = m.diag
  notifyCh : s.notifyCh =
    if notify then some ((m.moves.map (echoChange s.timers.localDiscr s.peerAddr)).take notifyChSize)
    else none

/-- A move of the machine is the session's move. -/
theorem Tracks.moved (ht : s.Tracks m notify) (mv : State × State × Diag) :
    (s.moved mv).Tracks ⟨mv.2.1, mv.2.2, m.moves ++ [mv]⟩ notify := by
  refine ⟨rfl, rfl, ?_⟩
  unfold EchoSessionState.moved
  rw [ht.notifyCh]
  cases notify with
  | false => rfl
  | true =>
    simp only [if_true, Option.map_some, List.map_append, List.map_singleton]
    rw [Go.trySend_take]

/-- The session's handling of a verdict is the machine's reading of it. -/
theorem Tracks.elim (ht : s.Tracks m notify) (v : Bool) :
    ((EchoSpec.move s.state v).elim s s.moved).Tracks (m.read v) notify := by
  unfold EchoSpec.read
  rw [← ht.state]
  cases EchoSpec.move s.state v with
  | none => exact ht
  | some mv => exact ht.moved mv

/-- What names the session: its timer fields, the discriminator among
them, and its peer. -/
def identity (s : EchoSessionState Addr) : EchoSession × Addr := (s.timers, s.peerAddr)

@[simp] theorem emitNotification_identity (o n : State) (d : Diag) :
    (s.emitNotification o n d).identity = s.identity := by
  unfold emitNotification
  split <;> rfl

@[simp] theorem transitionTo_identity (st : State) (d : Diag) :
    (s.transitionTo st d).identity = s.identity := by
  unfold transitionTo
  dsimp only
  split_ifs
  · rfl
  · rw [emitNotification_identity]
    rfl

@[simp] theorem handleEchoRecv_identity : s.handleEchoRecv.identity = s.identity := by
  unfold handleEchoRecv
  split_ifs
  · exact transitionTo_identity _ _
  · rfl

@[simp] theorem handleDetectTimeout_identity : s.handleDetectTimeout.identity = s.identity := by
  unfold handleDetectTimeout
  split_ifs
  · exact transitionTo_identity _ _
  · rfl

/-- `RecvEcho` leaves at least one signal queued, and writes nothing else. -/
theorem recvEcho_shape (s : EchoSessionState Addr) :
    ∃ n, 0 < n ∧ s.recvEcho = { s with recvCh := n } := by
  unfold EchoSessionState.recvEcho
  split_ifs with hq
  · exact ⟨s.recvCh + 1, Nat.succ_pos _, rfl⟩
  · -- a full channel holds `echoRecvChSize` signals already
    exact ⟨s.recvCh, by unfold echoRecvChSize at hq; omega, rfl⟩

@[simp] theorem recvEcho_identity : s.recvEcho.identity = s.identity := by
  unfold EchoSessionState.recvEcho
  split_ifs <;> rfl

/-- No step writes the timer fields or the peer. -/
theorem Step.identity (hs : Step e s s') : s'.identity = s.identity := by
  cases hs with
  | recvEcho => exact recvEcho_identity
  | run hr => rfl
  | stop hr => rfl
  | recv hr hq => exact handleEchoRecv_identity
  | txTimer hr hx =>
    obtain ⟨buf, d, rfl⟩ := sendEcho_shape hx
    rfl
  | detectTimer hr => exact handleDetectTimeout_identity

/-- Only a signal taken off `recvCh` brings a Down session Up: with none
queued, no step but a `RecvEcho` call leaves it anything but Down. -/
theorem Step.state_of_idle (hs : Step e s s') (he : e ≠ .recvEcho) (hq : s.recvCh = 0)
    (hd : s.state = .down) : s'.state = .down := by
  cases hs with
  | recvEcho => exact absurd rfl he
  | run hr => exact hd
  | stop hr => exact hd
  | recv hr hq' => exact absurd hq (Nat.pos_iff_ne_zero.mp hq')
  | txTimer hr hx =>
    obtain ⟨buf, d, rfl⟩ := sendEcho_shape hx
    exact hd
  | detectTimer hr =>
    -- an expiry only ever moves Up to Down
    rw [handleDetectTimeout, if_neg (by rw [hd]; nofun)]
    exact hd

theorem Run.identity (hrun : s.Run evs s') : s'.identity = s.identity := by
  induction hrun with
  | refl => rfl
  | tail _ hs ih => exact (Step.identity hs).trans ih

/-- A step reads its verdict, if it has one, into the machine; the other
steps leave the state, the diagnostic and the notifications alone. -/
theorem Tracks.step (ht : s.Tracks m notify) (hm : m.Alternates) (hs : Step e s s') :
    s'.Tracks ((e.verdict).elim m m.read) notify := by
  -- the loop only ever holds Down or Up
  have hst : s.state = .down ∨ s.state = .up := by
    rw [ht.state, hm.state]
    split <;> simp
  cases hs with
  | recvEcho =>
    unfold EchoSessionState.recvEcho
    split <;> exact ⟨ht.state, ht.diag, ht.notifyCh⟩
  | run hr => exact ⟨ht.state, ht.diag, ht.notifyCh⟩
  | stop hr => exact ⟨ht.state, ht.diag, ht.notifyCh⟩
  | recv hr hq =>
    have ht' : Tracks { s with recvCh := s.recvCh - 1 } m notify := ⟨ht.state, ht.diag, ht.notifyCh⟩
    rw [handleEchoRecv_eq (s := { s with recvCh := s.recvCh - 1 }) hst]
    exact ht'.elim true
  | txTimer hr hx =>
    obtain ⟨buf, d, rfl⟩ := sendEcho_shape hx
    exact ⟨ht.state, ht.diag, ht.notifyCh⟩
  | detectTimer hr =>
    rw [handleDetectTimeout_eq hst]
    exact ht.elim false

end EchoSessionState

theorem EchoSpec.run_verdicts_append (evs : List EchoEvent) (e : EchoEvent) :
    EchoSpec.run (echoVerdicts (evs ++ [e])) =
      (e.verdict).elim (EchoSpec.run (echoVerdicts evs)) (EchoSpec.run (echoVerdicts evs)).read := by
  unfold echoVerdicts EchoSpec.run
  rw [List.filterMap_append, List.foldl_append]
  cases h : e.verdict <;> simp [h]

namespace EchoSessionState

variable {s s' : EchoSessionState Addr}

/-- Along a run, the session stands for the machine on the run's verdicts. -/
theorem Run.tracks (h₀ : s.Tracks EchoSpec.init notify) (hrun : s.Run evs s') :
    s'.Tracks (EchoSpec.run (echoVerdicts evs)) notify := by
  induction hrun with
  | refl => exact h₀
  | tail _ hs ih =>
    rw [EchoSpec.run_verdicts_append]
    exact ih.step (EchoSpec.run_alternates _) hs

end EchoSessionState

/-! ## The datagrams of a session

Every packet `rebuildCachedPacket` builds is well formed, so the marshal
call writes its 24-byte image in front of the buffer, and `sendEcho` hands
exactly that image to the sender. -/

theorem echoPacket_wellFormed {es : EchoSession} (hd : es.localDiscr ≠ 0) (hm : es.detectMult ≠ 0)
    {st : State} (hst : st = .down ∨ st = .up) {dg : Diag} (hdg : dg < 32) :
    (echoPacket es st dg).WellFormed where
  version := rfl
  diag := hdg
  detectMult := hm
  multipoint := rfl
  myDiscriminator := hd
  yourDiscriminator := by
    -- Your Discriminator is zero only while Down
    rcases hst with rfl | rfl
    · exact .inr (.inl rfl)
    · exact .inl (by simpa [echoPacket] using hd)
  authPresent := rfl
  auth _ h := nomatch h

theorem echoPacket_totalLen (es : EchoSession) (st : State) (dg : Diag) :
    (echoPacket es st dg).totalLen = HeaderSize := rfl

namespace EchoSessionState

variable {s s' : EchoSessionState Addr}

/-- What a session with timer fields `es` may hand its sender: the image of
its echo packet in Down or Up, with the diagnostic of a move. -/
def Image (es : EchoSession) (d : List UInt8) : Prop :=
  ∃ st dg, (st = .down ∨ st = .up) ∧ (dg = DiagNone ∨ dg = DiagEchoFailed) ∧ d = (echoPacket es st dg).wire

/-- The invariant of every state a session reaches from `NewEchoSession`:
the discriminator and multiplier `validateEchoConfig` accepted, Down or Up
with the diagnostic of a move, a cached buffer of `MaxPacketSize` bytes,
and nothing handed to the sender but images of its own echo packets. -/
structure Inv (s : EchoSessionState Addr) : Prop where
  localDiscr : s.timers.localDiscr ≠ 0
  detectMult : s.timers.detectMult ≠ 0
  state : s.state = .down ∨ s.state = .up
  diag : s.localDiag = DiagNone ∨ s.localDiag = DiagEchoFailed
  buffer : s.cachedPacket.length = MaxPacketSize
  sent : ∀ d ∈ s.sent, Image s.timers d

/-- The packet the session builds in its current state. -/
theorem Inv.wellFormed (hi : s.Inv) : (echoPacket s.timers s.state s.localDiag).WellFormed := by
  refine echoPacket_wellFormed hi.localDiscr hi.detectMult hi.state ?_
  rcases hi.diag with h | h <;> rw [h] <;> decide

theorem rebuildCachedPacket_eq (hi : s.Inv) :
    s.rebuildCachedPacket =
      some { s with cachedPacket := Go.overwrite s.cachedPacket 0 (echoPacket s.timers s.state s.localDiag).wire } := by
  have hroom : (echoPacket s.timers s.state s.localDiag).totalLen ≤ s.cachedPacket.length := by
    rw [hi.buffer, echoPacket_totalLen]
    decide
  unfold rebuildCachedPacket
  rw [hi.wellFormed.marshal_eq hroom]

/-- `sendEcho` on a session in the invariant: the image of the packet of the
current state is written into the buffer and handed to the sender. -/
theorem sendEcho_eq (hi : s.Inv) :
    s.sendEcho = some
      { s with
        cachedPacket := Go.overwrite s.cachedPacket 0 (echoPacket s.timers s.state s.localDiag).wire
        sent := s.sent ++ [(echoPacket s.timers s.state s.localDiag).wire] } := by
  simp only [sendEcho, rebuildCachedPacket_eq hi, Option.bind_eq_bind, Option.bind_some]
  set q := echoPacket s.timers s.state s.localDiag
  have hq : q.WellFormed := hi.wellFormed
  have h24 : q.wire.length = 24 := by rw [hq.length_wire, echoPacket_totalLen]; rfl
  have hB : (Go.overwrite s.cachedPacket 0 q.wire).length = MaxPacketSize := by
    rw [Go.length_overwrite (by rw [hi.buffer, h24]; decide), hi.buffer]
  -- the Length byte of the rewritten buffer, then the bytes it counts
  have hload : (Go.load (Go.overwrite s.cachedPacket 0 q.wire) 3 : Go.Result Empty UInt8) =
      .ok (UInt8.ofNat q.totalLen) := by
    rw [Go.load_of_lt (by rw [hB]; decide), getElem_eq_getD, Go.overwrite_zero,
      List.getD_append _ _ _ _ (by omega), ControlPacket.getD_wire_three]
  have hslice : (Go.slice (Go.overwrite s.cachedPacket 0 q.wire) 0 q.totalLen :
      Go.Result Empty (List UInt8)) = .ok q.wire := by
    rw [Go.slice_zero (by rw [hB, echoPacket_totalLen]; decide), hq.take_overwrite]
  simp only [hload, Except.toOption, Option.bind_some, hq.toNat_length_byte, hslice, Option.pure_def]

theorem Inv.rebuild (hi : s.Inv) (h : s.rebuildCachedPacket = some s') : s'.Inv := by
  rw [rebuildCachedPacket_eq hi, Option.some.injEq] at h
  subst h
  refine ⟨hi.localDiscr, hi.detectMult, hi.state, hi.diag, ?_, hi.sent⟩
  have hroom : (echoPacket s.timers s.state s.localDiag).wire.length ≤ s.cachedPacket.length := by
    rw [hi.wellFormed.length_wire, hi.buffer, echoPacket_totalLen]
    decide
  rw [Go.length_overwrite hroom, hi.buffer]

theorem Inv.sendEcho (hi : s.Inv) (h : s.sendEcho = some s') : s'.Inv := by
  rw [sendEcho_eq hi, Option.some.injEq] at h
  subst h
  have hroom : (echoPacket s.timers s.state s.localDiag).wire.length ≤ s.cachedPacket.length := by
    rw [hi.wellFormed.length_wire, hi.buffer, echoPacket_totalLen]
    decide
  refine ⟨hi.localDiscr, hi.detectMult, hi.state, hi.diag, ?_, ?_⟩
  · rw [Go.length_overwrite hroom, hi.buffer]
  · intro d hd
    rcases List.mem_append.mp hd with hd | hd
    · exact hi.sent d hd
    · -- the new datagram: the image of the current state's packet
      exact ⟨s.state, s.localDiag, hi.state, hi.diag, List.mem_singleton.mp hd⟩

/-- A verdict moves the session, if at all, to the state it calls for, with
its diagnostic. -/
theorem Inv.elim (hi : s.Inv) (v : Bool) : ((EchoSpec.move s.state v).elim s s.moved).Inv := by
  cases h : EchoSpec.move s.state v with
  | none => exact hi
  | some mv =>
    rw [EchoSpec.move_eq_some h]
    exact ⟨hi.localDiscr, hi.detectMult, EchoSpec.target_cases v, EchoSpec.targetDiag_cases v,
      hi.buffer, hi.sent⟩

theorem Inv.step (hi : s.Inv) (hs : Step e s s') : s'.Inv := by
  cases hs with
  | recvEcho =>
    unfold EchoSessionState.recvEcho
    split
    · exact ⟨hi.localDiscr, hi.detectMult, hi.state, hi.diag, hi.buffer, hi.sent⟩
    · exact hi
  | run hr => exact ⟨hi.localDiscr, hi.detectMult, hi.state, hi.diag, hi.buffer, hi.sent⟩
  | stop hr => exact ⟨hi.localDiscr, hi.detectMult, hi.state, hi.diag, hi.buffer, hi.sent⟩
  | recv hr hq =>
    have hi' : Inv { s with recvCh := s.recvCh - 1 } :=
      ⟨hi.localDiscr, hi.detectMult, hi.state, hi.diag, hi.buffer, hi.sent⟩
    rw [handleEchoRecv_eq (s := { s with recvCh := s.recvCh - 1 }) hi.state]
    exact hi'.elim true
  | txTimer hr hx => exact hi.sendEcho hx
  | detectTimer hr =>
    rw [handleDetectTimeout_eq hi.state]
    exact hi.elim false

theorem Run.inv (hi : s.Inv) (hrun : s.Run evs s') : s'.Inv := by
  induction hrun with
  | refl => exact hi
  | tail _ hs ih => exact ih.step hs

/-- A datagram the session sent decodes, from the first `MaxPacketSize`
bytes a receive path keeps, to a packet whose My Discriminator is the
session's. -/
theorem Inv.unmarshal_sent (hi : s.Inv) {d : List UInt8} (hd : d ∈ s.sent) :
    ∃ pkt, unmarshalControlPacket (d.take MaxPacketSize) = .ok pkt ∧
      pkt.myDiscriminator = s.timers.localDiscr := by
  obtain ⟨st, dg, hst, hdg, rfl⟩ := hi.sent d hd
  have hdg32 : dg < 32 := by rcases hdg with rfl | rfl <;> decide
  have hq := echoPacket_wellFormed hi.localDiscr hi.detectMult hst hdg32
  -- the image is 24 bytes, so the receive buffer holds all of it
  have htake : (echoPacket s.timers st dg).wire.take MaxPacketSize = (echoPacket s.timers st dg).wire :=
    List.take_of_length_le (by rw [hq.length_wire, echoPacket_totalLen]; decide)
  exact ⟨_, by rw [htake, hq.unmarshal_wire], rfl⟩

end EchoSessionState

/-! ## Runs from `NewEchoSession` -/

section Created

variable {ip : Go.NetIP Addr} {cfg : EchoSessionConfig Addr} {localDiscr : UInt32} {notify : Bool}
  {s s₀ : EchoSessionState Addr}

theorem validateEchoConfig_ok (h : validateEchoConfig ip cfg localDiscr = .ok ()) :
    localDiscr ≠ 0 ∧ cfg.detectMultiplier ≠ 0 := by
  unfold validateEchoConfig at h
  split_ifs at h with h₁ h₂
  exact ⟨h₁, fun h0 => h₂ (by rw [h0]; decide)⟩

theorem newEchoSession_ok {es : EchoSession} (h : newEchoSession ip cfg localDiscr = .ok es) :
    validateEchoConfig ip cfg localDiscr = .ok () ∧
      es = ⟨localDiscr, cfg.txInterval, cfg.detectMultiplier⟩ := by
  unfold newEchoSession at h
  split at h
  · cases h
  · rename_i hv
    cases h
    exact ⟨hv, rfl⟩

/-- What `NewEchoSession` returns: a session in the invariant, standing for
the machine's initial state, with the timer fields it validated, its peer,
no signal queued, nothing sent and `Run` not started. -/
theorem newEchoSessionState_ok (hn : newEchoSessionState ip cfg localDiscr notify = .ok s) :
    s.Inv ∧ s.Tracks EchoSpec.init notify ∧
      s.timers = ⟨localDiscr, cfg.txInterval, cfg.detectMultiplier⟩ ∧ s.peerAddr = cfg.peerAddr ∧
      s.recvCh = 0 ∧ s.sent = [] ∧ s.running = false := by
  unfold newEchoSessionState at hn
  split at hn
  · cases hn
  · rename_i es hes
    obtain ⟨hv, rfl⟩ := newEchoSession_ok hes
    obtain ⟨hd, hm⟩ := validateEchoConfig_ok hv
    dsimp only at hn
    -- the first `rebuildCachedPacket` did not panic
    split at hn
    · rename_i s₁ hs₁
      cases hn
      have hi := EchoSessionState.Inv.rebuild ⟨hd, hm, .inl rfl, .inl rfl, List.length_replicate, fun _ h => absurd h List.not_mem_nil⟩ hs₁
      obtain ⟨buf, rfl⟩ := EchoSessionState.rebuildCachedPacket_shape hs₁
      refine ⟨hi, ⟨rfl, rfl, ?_⟩, rfl, rfl, rfl, rfl, rfl⟩
      cases notify <;> rfl
    · cases hn

/-- Along every run from `NewEchoSession`, whatever the interleaving of
transmissions, returned echoes, expiries, starts and stops, the session is
Up exactly when the last verdict of the run was a returned echo; and, with
`k` the number of moves `EchoSpec` makes on the run's verdicts, its
diagnostic is that of the `k`-th alternating move and the notifications on
its channel, which nothing reads here, are the first `k` alternating moves
(Down to Up with `DiagNone`, Up to Down with `DiagEchoFailed`, and so on)
as far as the `notifyChSize` slots of its buffer hold them: the later ones
were dropped. -/
theorem echo_run_refines_spec {evs : List EchoEvent}
    (hn : newEchoSessionState ip cfg localDiscr notify = .ok s₀) (hrun : s₀.Run evs s) :
    s.state = (if (echoVerdicts evs).getLast? = some true then .up else .down) ∧
    s.localDiag = (if (EchoSpec.run (echoVerdicts evs)).moves.length = 0 then DiagNone
      else (EchoSpec.altMove ((EchoSpec.run (echoVerdicts evs)).moves.length - 1)).2.2) ∧
    s.notifyCh = if notify then
      some (((List.range (EchoSpec.run (echoVerdicts evs)).moves.length).map
        fun i => echoChange localDiscr cfg.peerAddr (EchoSpec.altMove i)).take notifyChSize)
      else none := by
  obtain ⟨-, h₀, htimers, hpeer, -⟩ := newEchoSessionState_ok hn
  have ht := EchoSessionState.Run.tracks h₀ hrun
  have hm := EchoSpec.run_alternates (echoVerdicts evs)
  -- no step writes the discriminator or the peer
  have hid := Prod.mk.inj (EchoSessionState.Run.identity hrun)
  have hd : s.timers.localDiscr = localDiscr := by
    rw [hid.1, htimers]
  have hp : s.peerAddr = cfg.peerAddr := hid.2.trans hpeer
  have hmoves : (EchoSpec.run (echoVerdicts evs)).moves.map (echoChange localDiscr cfg.peerAddr) =
      (List.range (EchoSpec.run (echoVerdicts evs)).moves.length).map
        fun i => echoChange localDiscr cfg.peerAddr (EchoSpec.altMove i) := by
    conv_lhs => rw [hm.moves]
    rw [List.map_map]
    rfl
  refine ⟨ht.state.trans (EchoSpec.run_state _), ht.diag.trans hm.diag, ?_⟩
  rw [ht.notifyCh, hd, hp, hmoves]

end Created

/-- An echo peer at 10.0.0.1 probed every 50 ms from 10.0.0.2. -/
def plainEchoConfig : EchoSessionConfig (Option (List UInt8)) where
  peerAddr := some [10, 0, 0, 1]
  localAddr := some [10, 0, 0, 2]
  interface := "eth0"
  txInterval := 50000000
  detectMultiplier := 3

/-- Started, one echo back, its signal taken: Up, one notification. -/
theorem echo_run_refines_spec_plain :
    ∃ s₀ s, newEchoSessionState Go.ipv4 plainEchoConfig 7 true = .ok s₀ ∧
      s₀.Run [.run, .recvEcho, .recv] s ∧ s.state = .up ∧ s.localDiag = DiagNone ∧
      s.notifyCh = some [⟨7, some [10, 0, 0, 1], .down, .up, DiagNone⟩] := by
  obtain ⟨s₀, hn⟩ : ∃ s₀, newEchoSessionState Go.ipv4 plainEchoConfig 7 true = .ok s₀ := ⟨_, rfl⟩
  obtain ⟨-, -, -, -, hq, -, hr⟩ := newEchoSessionState_ok hn
  have hs : ({ s₀ with running := true } : EchoSessionState _).recvEcho =
      { s₀ with running := true, recvCh := 1 } := by
    simp [EchoSessionState.recvEcho, hq, echoRecvChSize]
  have hrun : s₀.Run [.run, .recvEcho, .recv] _ :=
    .tail (.tail (.tail (.refl _) (.run hr)) .recvEcho) (by rw [hs]; exact .recv rfl Nat.one_pos)
  obtain ⟨h₁, h₂, h₃⟩ := echo_run_refines_spec hn hrun
  exact ⟨s₀, _, hn, hrun, h₁.trans rfl, h₂.trans rfl, h₃.trans rfl⟩

end GoBFD
