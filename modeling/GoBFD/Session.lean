import GoBFD.Auth
import GoBFD.FSM

/-!
# GoBFD.Session

One BFD session of `internal/bfd/session.go`, `session_loop.go` and
`session_packet.go`: its configuration and record, `NewSession`, the packet
it transmits (`buildControlPacket`, `rebuildCachedPacket`,
`signCachedPacket`, `sendControl`), what it does with a received packet
(`handleRecvPacket`, RFC 5880 Section 6.8.6 steps 8 to 18), and the handlers
of its event loop: FSM actions, control commands and the two timers.

A handler of the session goroutine is a function `Session → Option Session`:
`none` is a run-time panic, which ends the goroutine.  Logging, metrics and
the timers' deadlines are not modelled; a timer firing is an event of the
loop (`GoBFD.Session.Run`).

The record also holds what the session hands to the outside: `sent`, every
byte string passed to `PacketSender.SendPacket`, and `notifyCh`, the buffer
of the notification channel.  A session sends on it without blocking, so a
`StateChange` that finds the buffer full is dropped (`Go.trySend`).
-/

namespace GoBFD

/-! ## Time -/

/-- `time.Duration`: a count of nanoseconds. -/
abbrev Duration := Int

/-- `slowTxInterval`, one second: the floor of RFC 5880 Section 6.8.3 when
not Up. -/
def slowTxInterval : Duration := 1000000000

/-- `initialRemoteMinRx`, one microsecond. -/
def initialRemoteMinRx : Duration := 1000

/-- `MaxWireInterval`: the largest interval a 32-bit microsecond field holds. -/
def MaxWireInterval : Duration := (2 ^ 32 - 1) * 1000

def MaxPaddedPduSize : Nat := 9000

/-- `notifyChSize` of `manager.go`: the capacity of the manager's
`rawNotifyCh`, the notification channel of every session it creates, and
of each subscriber channel. -/
def notifyChSize : Nat := 64

/-- `recvChSize`, the capacity of the receive channel. -/
def recvChSize : Nat := 16

/-- The capacity of `ctrlCh`, `make(chan sessionControl, 4)`. -/
def ctrlChSize : Nat := 4

/-- `durationFromMicroseconds(us)`. -/
def durationFromMicroseconds (us : UInt32) : Duration :=
  (us.toNat : Int) * 1000

/-- `microsecondsFromDuration(d)`: `uint32(d / time.Microsecond)`, a
truncating division and a wrapping conversion. -/
def microsecondsFromDuration (d : Duration) : UInt32 :=
  UInt32.ofInt (d.tdiv 1000)

/-! ## Configuration and state -/

/-- `SessionType`. -/
inductive SessionType where
  | singleHop
  | multiHop
  | echo
  | microBFD
  | vxlan
  | geneve
  deriving Repr, DecidableEq

/-- `SessionRole`. -/
inductive SessionRole where
  | active
  | passive
  deriving Repr, DecidableEq

/-- `isValidSessionType`: every type but Echo, which runs elsewhere. -/
def isValidSessionType : SessionType → Bool
  | .echo => false
  | _ => true

/-- `SessionConfig`, over the address type of the peer and local ends. -/
structure SessionConfig (Addr : Type) where
  peerAddr : Addr
  localAddr : Addr
  interface : String
  type : SessionType
  role : SessionRole
  desiredMinTxInterval : Duration
  requiredMinRxInterval : Duration
  detectMultiplier : UInt8
  auth : Option Authenticator
  authKeys : Option AuthKeyStore
  paddedPduSize : Nat

/-- `StateChange`; the timestamp is not modelled. -/
structure StateChange (Addr : Type) where
  localDiscr : UInt32
  peerAddr : Addr
  oldState : State
  newState : State
  diag : Diag
  type : SessionType
  interface : String
  deriving Repr, DecidableEq

/-- The errors `NewSession` returns. -/
inductive SessionError where
  | invalidDetectMult
  | invalidTxInterval
  | invalidRxInterval
  | invalidWireInterval
  | invalidSessionType
  | invalidDiscriminator
  | invalidPaddedPduSize
  | missingAuthKeyStore
  | authTypeMismatch
  | authKeyTypeMismatch
  deriving Repr, DecidableEq

/-- `sessionControl`: the commands of `ctrlCh`. -/
inductive SessionControl where
  | pathDown
  | adminDown
  deriving Repr, DecidableEq

/-- `recvItem`: a decoded packet and the raw bytes for auth verification. -/
structure RecvItem where
  pkt : ControlPacket
  wire : List UInt8
  deriving Repr, DecidableEq

/-- The session's `auth`, `authKeys` and `authState`, which `NewSession`
sets together: `validateSessionAuthConfig` requires a key store with an
authenticator, and `initAuth` creates the state for it. -/
structure SessionAuth where
  auth : Authenticator
  keys : AuthKeyStore
  state : AuthState

/-- The `Session` record.  `state`, `remoteState` and `localDiag` are the
atomics other goroutines read; `cachedState` is the goroutine-confined copy
of `state`; `lastPacketRecv` says whether a valid packet was ever recorded.
`recvCh` and `ctrlCh` hold the items queued on the two channels. -/
structure Session (Addr : Type) where
  state : State
  remoteState : State
  localDiag : Diag
  localDiscr : UInt32
  remoteDiscr : UInt32
  desiredMinTxInterval : Duration
  requiredMinRxInterval : Duration
  remoteMinRxInterval : Duration
  remoteDesiredMinTxInterval : Duration
  remoteDetectMult : UInt8
  detectMult : UInt8
  remoteDemandMode : Bool
  pollActive : Bool
  pendingFinal : Bool
  pendingDesiredMinTx : Duration
  pendingRequiredMinRx : Duration
  sessionType : SessionType
  role : SessionRole
  peerAddr : Addr
  localAddr : Addr
  ifName : String
  cachedPacket : List UInt8
  paddedPduSize : Nat
  auth : Option SessionAuth
  lastPacketRecv : Bool
  cachedState : State
  recvCh : List RecvItem
  ctrlCh : List SessionControl
  notifyCh : Option (List (StateChange Addr))
  sent : List (List UInt8)
  running : Bool

variable {Addr : Type}

/-! ## NewSession -/

/-- `validateSessionAuthConfig`: an authenticator comes with a key store
whose current key is of its type. -/
def validateSessionAuthConfig (cfg : SessionConfig Addr) : Except SessionError Unit :=
  match cfg.auth, cfg.authKeys with
  | none, _ => pure ()
  | some _, none => .error .missingAuthKeyStore
  | some auth, some keys =>
    if keys.currentKey.type ≠ authenticatorType auth then .error .authKeyTypeMismatch
    else pure ()

/-- `validateSessionConfig(cfg, localDiscr)`; both roles of `SessionRole`
pass the role check. -/
def validateSessionConfig (cfg : SessionConfig Addr) (localDiscr : UInt32) :
    Except SessionError Unit := do
  if cfg.detectMultiplier < 1 then throw .invalidDetectMult
  if cfg.desiredMinTxInterval ≤ 0 then throw .invalidTxInterval
  if cfg.requiredMinRxInterval ≤ 0 then throw .invalidRxInterval
  if cfg.desiredMinTxInterval > MaxWireInterval then throw .invalidWireInterval
  if cfg.requiredMinRxInterval > MaxWireInterval then throw .invalidWireInterval
  if !isValidSessionType cfg.type then throw .invalidSessionType
  if localDiscr = 0 then throw .invalidDiscriminator
  if cfg.paddedPduSize ≠ 0 ∧
      (cfg.paddedPduSize < HeaderSize ∨ cfg.paddedPduSize > MaxPaddedPduSize) then
    throw .invalidPaddedPduSize
  validateSessionAuthConfig cfg

/-- `initAuth`: the state of a configured authenticator, `seed` being the
random initial `XmitAuthSeq`. -/
def initAuth (cfg : SessionConfig Addr) (seed : UInt32) : Option SessionAuth :=
  match cfg.auth, cfg.authKeys with
  | some auth, some keys =>
    some { auth := auth, keys := keys, state := newAuthState (authenticatorType auth) seed }
  | _, _ => none

section Handlers

variable (h : Digests)

/-! ## The transmitted packet -/

/-- `buildControlPacket`: the packet of RFC 5880 Section 6.8.7 from the
session state, which consumes `pendingFinal`. -/
def Session.buildControlPacket (s : Session Addr) : ControlPacket × Session Addr :=
  let wireTxInterval :=
    if s.cachedState ≠ .up ∧ s.desiredMinTxInterval < slowTxInterval then slowTxInterval
    else s.desiredMinTxInterval
  ({ version := Version
     diag := s.localDiag
     state := s.cachedState
     poll := s.pollActive
     final := s.pendingFinal
     controlPlaneIndependent := false
     authPresent := false
     demand := false
     multipoint := false
     detectMult := s.detectMult
     myDiscriminator := s.localDiscr
     yourDiscriminator := s.remoteDiscr
     desiredMinTxInterval := microsecondsFromDuration wireTxInterval
     requiredMinRxInterval := microsecondsFromDuration s.requiredMinRxInterval
     requiredMinEchoRxInterval := 0 },
   { s with pendingFinal := false })

/-- `signCachedPacket(pkt)`: `Sign` into the cached buffer, then marshal the
signed packet into it again; an error is logged and leaves the rest. -/
def Session.signCachedPacket (s : Session Addr) (a : SessionAuth) (pkt : ControlPacket) :
    Option (Session Addr) :=
  let (state, signed) := a.auth.sign h a.state a.keys pkt s.cachedPacket
  let s := { s with auth := some { a with state := state } }
  match signed with
  | .error (.error _) => some s
  | .error .panic => none
  | .ok (pkt, buf) =>
    match marshalControlPacket pkt buf with
    | .ok (_, buf) => some { s with cachedPacket := buf }
    | .error (.error _) => some { s with cachedPacket := buf }
    | .error .panic => none

/-- `rebuildCachedPacket`: build the packet, then sign it or marshal it into
the cached buffer. -/
def Session.rebuildCachedPacket (s : Session Addr) : Option (Session Addr) :=
  let (pkt, s) := s.buildControlPacket
  match s.auth with
  | some a => s.signCachedPacket h a pkt
  | none =>
    match marshalControlPacket pkt s.cachedPacket with
    | .ok (_, buf) => some { s with cachedPacket := buf }
    | .error (.error _) => some s
    | .error .panic => none

/-- `sendControl`: rebuild the cached packet and hand its first
`max(PaddedPduSize, Length)` bytes to the sender, the padding cleared to
zero (RFC 9764). -/
def Session.sendControl (s : Session Addr) : Option (Session Addr) := do
  let s ← s.rebuildCachedPacket h
  let pktLen := (← (Go.load s.cachedPacket 3 : Go.Result Empty UInt8).toOption).toNat
  let padded := decide (s.paddedPduSize > 0 ∧ s.paddedPduSize > pktLen)
  let sendLen := if padded then s.paddedPduSize else pktLen
  let buf ← if padded then
      (Go.within s.cachedPacket pktLen sendLen (fun w => pure (List.replicate w.length 0)) :
        Go.Result Empty (List UInt8)).toOption
    else pure s.cachedPacket
  let datagram ← (Go.slice buf 0 sendLen : Go.Result Empty (List UInt8)).toOption
  pure { s with cachedPacket := buf, sent := s.sent ++ [datagram] }

/-- `maybeSendControl`: no transmission while passive with no remote
discriminator, or when the remote asked for no packets (RFC 5880 Section
6.8.7). -/
def Session.maybeSendControl (s : Session Addr) : Option (Session Addr) :=
  if s.role = .passive ∧ s.remoteDiscr = 0 then some s
  else if s.remoteMinRxInterval = 0 then some s
  else s.sendControl h

/-- `handleTxTimer`. -/
def Session.handleTxTimer (s : Session Addr) : Option (Session Addr) :=
  s.maybeSendControl h

/-! ## FSM actions -/

/-- `emitNotification(result)`: the `StateChange` of the transition, with
the diagnostic as it stands, sent without blocking. -/
def Session.emitNotification (s : Session Addr) (result : FSMResult) : Session Addr :=
  match s.notifyCh with
  | none => s
  | some queued =>
    let sc : StateChange Addr :=
      { localDiscr := s.localDiscr
        peerAddr := s.peerAddr
        oldState := result.oldState
        newState := result.newState
        diag := s.localDiag
        type := s.sessionType
        interface := s.ifName }
    { s with notifyCh := some (Go.trySend notifyChSize queued sc) }

/-- `executeAction(action)`; the timer resets are not modelled. -/
def Session.executeAction (s : Session Addr) : Action → Option (Session Addr)
  | .sendControl => s.sendControl h
  | .notifyUp => some s
  | .notifyDown => some { s with remoteDiscr := 0 }
  | .setDiagTimeExpired => some { s with localDiag := DiagControlTimeExpired }
  | .setDiagNeighborDown => some { s with localDiag := DiagNeighborDown }
  | .setDiagAdminDown => some { s with localDiag := DiagAdminDown }

/-- `executeFSMActions(result)`: on a change, store the new state in both
copies and notify (`logStateChange`), then run the actions in order. -/
def Session.executeFSMActions (s : Session Addr) (result : FSMResult) : Option (Session Addr) :=
  let s :=
    if result.changed then
      ({ s with state := result.newState, cachedState := result.newState }).emitNotification result
    else s
  result.actions.foldlM (fun s action => s.executeAction h action) s

/-- `applyFSMEvent(event)`. -/
def Session.applyFSMEvent (s : Session Addr) (event : Event) : Option (Session Addr) :=
  s.executeFSMActions h (applyEvent s.cachedState event)

/-! ## Received packets -/

/-- `checkAuthConsistency`: RFC 5880 Section 6.8.6 steps 8 and 9. -/
def Session.checkAuthConsistency (s : Session Addr) (pkt : ControlPacket) : Bool :=
  if pkt.authPresent ∧ s.auth.isNone then false
  else if !pkt.authPresent ∧ s.auth.isSome then false
  else true

/-- The `Verify` call of `handleRecvPacket`, when auth is configured: the
session with what `Verify` left in `s.authState`, and its error. -/
def Session.verifyAuth (s : Session Addr) (item : RecvItem) : Session Addr × Go.Result AuthError Unit :=
  match s.auth with
  | none => (s, .ok ())
  | some a =>
    let (state, r) := (a.auth.verify h a.keys item.pkt item.wire item.wire.length).exec a.state
    ({ s with auth := some { a with state := state } }, r)

/-- `applyPendingParams`. -/
def Session.applyPendingParams (s : Session Addr) : Session Addr :=
  let s :=
    if s.pendingDesiredMinTx > 0 then
      { s with desiredMinTxInterval := s.pendingDesiredMinTx, pendingDesiredMinTx := 0 }
    else s
  if s.pendingRequiredMinRx > 0 then
    { s with requiredMinRxInterval := s.pendingRequiredMinRx, pendingRequiredMinRx := 0 }
  else s

/-- `terminatePollSequence`. -/
def Session.terminatePollSequence (s : Session Addr) : Option (Session Addr) :=
  ({ s with pollActive := false }).applyPendingParams.rebuildCachedPacket h

/-- `handleRecvPacket(item)`: steps 8 and 9, authentication, then steps 13
to 17, the Poll and Final bits, the FSM event, and the Final reply. -/
def Session.handleRecvPacket (s : Session Addr) (item : RecvItem) : Option (Session Addr) :=
  let pkt := item.pkt
  if !s.checkAuthConsistency pkt then some s
  else
    match s.verifyAuth h item with
    | (s, .error (.error _)) => some s
    | (_, .error .panic) => none
    | (s, .ok ()) => do
      let s :=
        { s with
          lastPacketRecv := true
          remoteDiscr := pkt.myDiscriminator
          remoteDemandMode := pkt.demand
          remoteMinRxInterval := durationFromMicroseconds pkt.requiredMinRxInterval
          remoteDesiredMinTxInterval := durationFromMicroseconds pkt.desiredMinTxInterval
          remoteDetectMult := pkt.detectMult
          remoteState := pkt.state }
      let s ← if pkt.final ∧ s.pollActive then s.terminatePollSequence h else pure s
      let s := if pkt.poll then { s with pendingFinal := true } else s
      let s ← s.applyFSMEvent h (recvStateToEvent pkt.state)
      if s.pendingFinal then s.sendControl h else pure s

/-! ## Control commands and the detection timer -/

/-- `handleAdminDown`: the AdminDown event, with an immediate transmission
added; where it changes nothing only the diagnostic is set. -/
def Session.handleAdminDown (s : Session Addr) : Option (Session Addr) :=
  let result := applyEvent s.cachedState .adminDown
  if !result.changed then some { s with localDiag := DiagAdminDown }
  else s.executeFSMActions h { result with actions := result.actions ++ [.sendControl] }

/-- `handlePathDown`: set the Path Down diagnostic, and from Init or Up go
Down. -/
def Session.handlePathDown (s : Session Addr) : Option (Session Addr) :=
  let oldState := s.cachedState
  let s := { s with localDiag := DiagPathDown }
  if oldState = .down ∨ oldState = .adminDown then some s
  else
    s.executeFSMActions h
      { oldState := oldState
        newState := .down
        changed := true
        actions := [.notifyDown, .sendControl] }

/-- `handleControlCommand(cmd)`. -/
def Session.handleControlCommand (s : Session Addr) : SessionControl → Option (Session Addr)
  | .pathDown => s.handlePathDown h
  | .adminDown => s.handleAdminDown h

/-- `maybeResetAuthSeqKnown`; `idle` says that at least twice the detection
time has passed since the last valid packet (RFC 5880 Section 6.8.1). -/
def Session.maybeResetAuthSeqKnown (s : Session Addr) (idle : Bool) : Session Addr :=
  match s.auth with
  | some a =>
    if a.state.authSeqKnown ∧ s.lastPacketRecv ∧ idle then
      { s with auth := some { a with state := { a.state with authSeqKnown := false } } }
    else s
  | none => s

/-- `handleDetectTimer`: the detection time expired; only Init and Up react
(RFC 5880 Section 6.8.4). -/
def Session.handleDetectTimer (s : Session Addr) (idle : Bool) : Option (Session Addr) :=
  let s := s.maybeResetAuthSeqKnown idle
  if s.cachedState ≠ .init ∧ s.cachedState ≠ .up then some s
  else s.applyFSMEvent h .timerExpired

end Handlers

/-- `NewSession(cfg, localDiscr, sender, notifyCh)`: validate, initialize
the RFC 5880 Section 6.8.1 variables, and build the first cached packet.
`notify` says whether `notifyCh` is non-nil and `seed` is the random
initial `XmitAuthSeq`. -/
def newSession (h : Digests) (cfg : SessionConfig Addr) (localDiscr : UInt32) (notify : Bool)
    (seed : UInt32) : Go.Result SessionError (Session Addr) :=
  match validateSessionConfig cfg localDiscr with
  | .error e => Go.fail e
  | .ok () =>
    let pktBufSize := if cfg.paddedPduSize > MaxPacketSize then cfg.paddedPduSize else MaxPacketSize
    let s : Session Addr :=
      { state := .down
        remoteState := .down
        localDiag := DiagNone
        localDiscr := localDiscr
        remoteDiscr := 0
        desiredMinTxInterval := cfg.desiredMinTxInterval
        requiredMinRxInterval := cfg.requiredMinRxInterval
        remoteMinRxInterval := initialRemoteMinRx
        remoteDesiredMinTxInterval := 0
        remoteDetectMult := 0
        detectMult := cfg.detectMultiplier
        remoteDemandMode := false
        pollActive := false
        pendingFinal := false
        pendingDesiredMinTx := 0
        pendingRequiredMinRx := 0
        sessionType := cfg.type
        role := cfg.role
        peerAddr := cfg.peerAddr
        localAddr := cfg.localAddr
        ifName := cfg.interface
        cachedPacket := List.replicate pktBufSize 0
        paddedPduSize := cfg.paddedPduSize
        auth := initAuth cfg seed
        lastPacketRecv := false
        cachedState := .down
        recvCh := []
        ctrlCh := []
        notifyCh := if notify then some [] else none
        sent := []
        running := false }
    match s.rebuildCachedPacket h with
    | some s => .ok s
    | none => .error .panic

end GoBFD
