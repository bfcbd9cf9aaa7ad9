import GoBFD.Daemon
import GoBFD.Session.Invariant

/-!
# GoBFD.Daemon.Run

The running daemon: the manager with the goroutines of its sessions, the
`RunDispatch` goroutine, SIGHUP reloads, and the gRPC handlers of
`WatchSessionEvents` (`internal/server/server.go`).  `Daemon.Step` is one
step of any of them, and `Daemon.Reachable` the states of every
interleaving from a start on a configuration `Validate` accepts.

A session's notifications go to the manager's `rawNotifyCh`: a step of a
session sends what it emitted there, each dropped on a full buffer, and
leaves the session's own queue empty.
A `WatchSessionEvents` handler takes its snapshot, then subscribes, then
forwards what its channel receives; each of the three is one step, and a
client's state for a session is that of the last event about it.  Clients
that disconnect are not modelled; the gRPC calls that create or delete
sessions are those of `GoBFD.Server`.

`Session.fire` and `Daemon.fire` run one event as a function; each is
sound for the step relation (`Session.fire_step`, `Daemon.fire_step`), so a
run computed by `Daemon.runEvents` is a run of the daemon
(`Daemon.runEvents_reachable`).
-/

namespace GoBFD

open Go

variable {Addr : Type}

/-! ## The receive path and session events -/

/-- `recvOne` hands on a packet that `UnmarshalControlPacket` returned. -/
theorem recvOne_decodes {datagram : List UInt8} {item : RecvItem}
    (h : recvOne datagram = some item) : ∃ b, unmarshalControlPacket b = .ok item.pkt := by
  unfold recvOne at h
  dsimp only at h
  split at h
  · rename_i pkt hpkt
    split at h
    · split at h
      · rename_i pkt' hpkt'
        cases h
        -- the copy decodes to the same packet
        injection hpkt' with hp
        subst hp
        exact ⟨_, hpkt⟩
      · cases h
    · cases h
      exact ⟨_, hpkt⟩
  · cases h

/-- What one step of a session does, with the datagram a receiver reads. -/
inductive SessionEvent where
  | run
  | stop
  | setPathDown
  | setAdminDown
  | datagram (b : List UInt8)
  | recv
  | control
  | txTimer
  | detectTimer (idle : Bool)

section Events

variable (h : Digests)

/-- One step of a session, as a function of the event. -/
def Session.fire (s : Session Addr) : SessionEvent → Option (Session Addr)
  | .run => if s.running = false then some s.run else none
  | .stop => if s.running = true then some { s with running := false } else none
  | .setPathDown => some s.setPathDown.2
  | .setAdminDown => some s.setAdminDown
  | .datagram b => (recvOne b).map s.recvPacket
  | .recv =>
    match s.running, s.recvCh with
    | true, item :: rest => ({ s with recvCh := rest } : Session Addr).handleRecvPacket h item
    | _, _ => none
  | .control =>
    match s.running, s.ctrlCh with
    | true, cmd :: rest => ({ s with ctrlCh := rest } : Session Addr).handleControlCommand h cmd
    | _, _ => none
  | .txTimer => if s.running = true then s.handleTxTimer h else none
  | .detectTimer idle => if s.running = true then s.handleDetectTimer h idle else none

/-- Every event `Session.fire` runs is a step of the session. -/
theorem Session.fire_step {s s' : Session Addr} {ev : SessionEvent}
    (hf : s.fire h ev = some s') : Session.Step h s s' := by
  cases ev with
  | run =>
    simp only [Session.fire] at hf
    split_ifs at hf with hr
    cases hf
    exact .run hr
  | stop =>
    simp only [Session.fire] at hf
    split_ifs at hf with hr
    cases hf
    exact .stop hr
  | setPathDown =>
    cases hf
    exact .setPathDown
  | setAdminDown =>
    cases hf
    exact .setAdminDown
  | datagram b =>
    obtain ⟨item, hitem, rfl⟩ := Option.map_eq_some_iff.mp hf
    exact .recvPacket item (recvOne_decodes hitem)
  | recv =>
    simp only [Session.fire] at hf
    split at hf
    · rename_i item rest hr hq
      exact .recv hr hq hf
    · cases hf
  | control =>
    simp only [Session.fire] at hf
    split at hf
    · rename_i cmd rest hr hq
      exact .control hr hq hf
    · cases hf
  | txTimer =>
    simp only [Session.fire] at hf
    split_ifs at hf with hr
    exact .txTimer hr hf
  | detectTimer idle =>
    simp only [Session.fire] at hf
    split_ifs at hf with hr
    exact .detectTimer idle hr hf

end Events

/-! ## The gRPC event stream -/

/-- The event types of `WatchSessionEventsResponse`. -/
inductive WatchEventType where
  | sessionAdded
  | stateChange
  deriving DecidableEq

/-- `WatchSessionEventsResponse`: the type, and the discriminator and local
state of the session it carries.  Addresses, diagnostics, the previous
state and timestamps are not modelled. -/
structure WatchSessionEventsResponse where
  type : WatchEventType
  localDiscriminator : UInt32
  localState : State
  deriving DecidableEq

/-- The `SESSION_ADDED` event of a snapshot (`snapshotToProto`). -/
def sessionAddedEvent (snap : SessionSnapshot Addr) : WatchSessionEventsResponse :=
  { type := .sessionAdded, localDiscriminator := snap.localDiscr, localState := snap.state }

/-- `stateChangeToProto(sc)`. -/
def stateChangeToProto (sc : StateChange Addr) : WatchSessionEventsResponse :=
  { type := .stateChange, localDiscriminator := sc.localDiscr, localState := sc.newState }

/-- Where a `WatchSessionEvents` handler is: before its snapshot, between
the snapshot and `SubscribeStateChanges`, or streaming from a channel. -/
inductive WatchPhase where
  | start
  | subscribing
  | streaming (ch : Nat)
  deriving DecidableEq

/-- A `WatchSessionEvents` call: its request flag, where it is, and what
it has sent. -/
structure Watcher where
  includeCurrent : Bool
  phase : WatchPhase
  sent : List WatchSessionEventsResponse

/-- The state a client holds for session `discr` after the events it
received: that of the last one about it. -/
def clientState (events : List WatchSessionEventsResponse) (discr : UInt32) : Option State :=
  ((events.filter (·.localDiscriminator = discr)).getLast?).map (·.localState)

/-! ## The daemon -/

/-- The daemon: its manager, the configuration in effect, the overlay
backends it started, and the `WatchSessionEvents` calls. -/
structure Daemon (Addr : Type) where
  manager : Manager Addr
  config : Config
  runtime : OverlayRuntime
  watchers : List Watcher

section Steps

variable [DecidableEq Addr] (h : Digests) (ip : NetIP Addr)

/-- The first peer's local address, which `createVXLANConn` and
`createGeneveConn` bind: the backend starts only if it parses and is
valid. -/
def firstLocalValid (locals : List String) : Bool :=
  match locals with
  | loc :: _ => (Config.parseLocal ip loc).any ip.isValid
  | [] => false

/-- `startOverlayReceivers`: a backend runs for each enabled tunnel type
with peers whose first peer has a valid local address. -/
def startOverlayRuntime (cfg : Config) : OverlayRuntime :=
  { vxlan := cfg.vxlan.enabled && firstLocalValid ip (cfg.vxlan.peers.map (·.«local»))
    geneve := cfg.geneve.enabled && firstLocalValid ip (cfg.geneve.peers.map (·.«local»)) }

/-- `runServers` up to `notifyReady`: a new manager, the overlay
backends, and `reconcileAllSessions`. -/
def Daemon.start (cfg : Config) (rand : List UInt32) : Daemon Addr :=
  let rt := startOverlayRuntime ip cfg
  { manager := reconcileAllSessions h ip cfg rt (newManager rand)
    config := cfg
    runtime := rt
    watchers := [] }

/-- A SIGHUP: `reloadConfig` with the configuration the file now holds,
which takes effect if it validates. -/
def Daemon.reload (d : Daemon Addr) (cfg : Config) : Daemon Addr :=
  { d with
    manager := reloadConfig h ip cfg d.runtime d.manager
    config := match Config.validate ip cfg with
      | .ok () => cfg
      | .error _ => d.config }

/-- A configuration with one declarative session and one VXLAN peer, on
distinct (peer, local, interface) tuples. -/
def sessionAndVXLANConfig : Config :=
  { Config.defaultConfig with
    vxlan :=
      { Config.defaultConfig.vxlan with
        enabled := true
        defaultDesiredMinTx := 1000000000
        defaultRequiredMinRx := 1000000000
        defaultDetectMultiplier := 3
        peers :=
          [{ peer := "10.0.0.3"
             «local» := "10.0.0.2"
             desiredMinTx := 0
             requiredMinRx := 0
             detectMult := 0 }] }
    sessions :=
      [{ peer := "10.0.0.1"
         «local» := "10.0.0.2"
         interface := "eth0"
         type := "single_hop"
         desiredMinTx := 0
         requiredMinRx := 0
         detectMult := 0
         paddedPduSize := 0
         auth := { type := "", keyID := 0, secret := "" } }] }

/-- The declarative pass creates session 7 for the declarative tuple, and
the VXLAN pass, whose desired set holds only the VXLAN key, destroys it:
the daemon starts with the VXLAN session 8 alone.  A reload with the same
file destroys and re-creates: session 8 gives way to session 10. -/
theorem vxlan_pass_replaces_declarative_session :
    Config.validate ipv4 sessionAndVXLANConfig = .ok () ∧
      (Daemon.start lengthDigests ipv4 sessionAndVXLANConfig [7, 8, 9, 10]).manager.sessions.keys = [8] ∧
      ((Daemon.start lengthDigests ipv4 sessionAndVXLANConfig [7, 8, 9, 10]).manager.sessions.lookup
        8).map (·.key) = some ⟨some [10, 0, 0, 3], some [10, 0, 0, 2], ""⟩ ∧
      ((Daemon.start lengthDigests ipv4 sessionAndVXLANConfig [7, 8, 9, 10]).reload lengthDigests ipv4
        sessionAndVXLANConfig).manager.sessions.keys = [10] := by
  decide +kernel

/-- A declarative session asking for a Desired Min TX of 5000 s, above the
largest interval a 32-bit microsecond field holds. -/
def slowSession : Config.SessionConfig :=
  { peer := "10.0.0.1"
    «local» := "10.0.0.2"
    interface := "eth0"
    type := "single_hop"
    desiredMinTx := 5000000000000
    requiredMinRx := 0
    detectMult := 0
    paddedPduSize := 0
    auth := { type := "", keyID := 0, secret := "" } }

def slowSessionConfig : Config :=
  { Config.defaultConfig with sessions := [slowSession] }

/-- `Validate` accepts the configuration and `configSessionToBFD` converts
the session, but `NewSession` refuses what it converts to, whatever the
discriminator: the daemon starts without the session. -/
theorem validated_session_skipped :
    Config.validate ipv4 slowSessionConfig = .ok () ∧
      (∃ cfg, configSessionToBFD ipv4 slowSession slowSessionConfig.bfd = .ok cfg ∧
        ∀ localDiscr, validateSessionConfig cfg localDiscr = .error .invalidWireInterval) ∧
      (Daemon.start lengthDigests ipv4 slowSessionConfig [7]).manager.sessions.keys = [] := by
  refine ⟨rfl, ⟨_, rfl, fun localDiscr => rfl⟩, ?_⟩
  decide +kernel

/-- File a session's record after a step of its goroutine: what the step
sent on its notification channel is sent on `rawNotifyCh`, which is that
channel, in order, each change dropped when the buffer is full. -/
def Manager.storeSession (m : Manager Addr) (discr : UInt32) (e : SessionEntry Addr)
    (s : Session Addr) : Manager Addr :=
  { m with
    sessions := m.sessions.insert discr { e with session := { s with notifyCh := some [] } }
    rawNotifyCh := (s.notifyCh.getD []).foldl (Go.trySend notifyChSize) m.rawNotifyCh }

/-- A handler takes its snapshot and sends it, if asked to. -/
def Daemon.snapshotFor (d : Daemon Addr) (i : Nat) (w : Watcher) : Daemon Addr :=
  let added := if w.includeCurrent then d.manager.sessionSnapshots.map sessionAddedEvent else []
  { d with watchers := d.watchers.set i { w with phase := .subscribing, sent := w.sent ++ added } }

/-- A handler subscribes. -/
def Daemon.subscribeFor (d : Daemon Addr) (i : Nat) (w : Watcher) : Daemon Addr :=
  let (ch, m) := d.manager.subscribeStateChanges
  { d with manager := m, watchers := d.watchers.set i { w with phase := .streaming ch } }

/-- The buffer of channel `ch`. -/
def Manager.channel (m : Manager Addr) (ch : Nat) : Option (List (StateChange Addr)) :=
  (m.subscribers.find? (·.ch = ch)).map (·.queue)

/-- A handler receives the first event of its channel and sends it on. -/
def Daemon.forwardFor (d : Daemon Addr) (i : Nat) (w : Watcher) (ch : Nat) (sc : StateChange Addr) :
    Daemon Addr :=
  { d with
    manager :=
      { d.manager with
        subscribers := d.manager.subscribers.map fun sub =>
          if sub.ch = ch then { sub with queue := sub.queue.tail } else sub }
    watchers := d.watchers.set i { w with sent := w.sent ++ [stateChangeToProto sc] } }

/-- One step of one goroutine of the daemon. -/
inductive Daemon.Step : Daemon Addr → Daemon Addr → Prop
  /-- A step of the goroutine of session `discr`, or a call into it. -/
  | session {d : Daemon Addr} {discr : UInt32} {e : SessionEntry Addr} {s : Session Addr}
      (he : d.manager.sessions.lookup discr = some e) (hs : Session.Step h e.session s) :
      Daemon.Step d { d with manager := d.manager.storeSession discr e s }
  /-- One iteration of `RunDispatch`. -/
  | dispatch {d : Daemon Addr} {sc : StateChange Addr} {rest : List (StateChange Addr)}
      (hq : d.manager.rawNotifyCh = sc :: rest) :
      Daemon.Step d { d with manager := ({ d.manager with rawNotifyCh := rest }).dispatchStateChange sc }
  /-- A SIGHUP. -/
  | reload {d : Daemon Addr} (cfg : Config) : Daemon.Step d (d.reload h ip cfg)
  /-- A client calls `WatchSessionEvents`. -/
  | watch {d : Daemon Addr} (includeCurrent : Bool) :
      Daemon.Step d { d with watchers := d.watchers ++ [⟨includeCurrent, .start, []⟩] }
  | watchSnapshot {d : Daemon Addr} {i : Nat} {w : Watcher} (hw : d.watchers[i]? = some w)
      (hp : w.phase = .start) : Daemon.Step d (d.snapshotFor i w)
  | watchSubscribe {d : Daemon Addr} {i : Nat} {w : Watcher} (hw : d.watchers[i]? = some w)
      (hp : w.phase = .subscribing) : Daemon.Step d (d.subscribeFor i w)
  | watchForward {d : Daemon Addr} {i : Nat} {w : Watcher} {ch : Nat} {sc : StateChange Addr}
      {rest : List (StateChange Addr)} (hw : d.watchers[i]? = some w) (hp : w.phase = .streaming ch)
      (hc : d.manager.channel ch = some (sc :: rest)) : Daemon.Step d (d.forwardFor i w ch sc)

/-- The states of the daemon over every interleaving, from a start on a
configuration that validates (`loadConfig` fails otherwise). -/
def Daemon.Reachable (d : Daemon Addr) : Prop :=
  ∃ cfg rand, Config.validate ip cfg = .ok () ∧
    Relation.ReflTransGen (Daemon.Step h ip) (Daemon.start h ip cfg rand) d

/-! ## Runs as functions -/

/-- What one step of the daemon does. -/
inductive DaemonEvent where
  | session (discr : UInt32) (ev : SessionEvent)
  | dispatch
  | reload (cfg : Config)
  | watch (includeCurrent : Bool)
  | watchSnapshot (i : Nat)
  | watchSubscribe (i : Nat)
  | watchForward (i : Nat)

/-- One step of the daemon, as a function of the event. -/
def Daemon.fire (d : Daemon Addr) : DaemonEvent → Option (Daemon Addr)
  | .session discr ev =>
    match d.manager.sessions.lookup discr with
    | some e => (e.session.fire h ev).map fun s => { d with manager := d.manager.storeSession discr e s }
    | none => none
  | .dispatch =>
    match d.manager.rawNotifyCh with
    | sc :: rest => some { d with manager := ({ d.manager with rawNotifyCh := rest }).dispatchStateChange sc }
    | [] => none
  | .reload cfg => some (d.reload h ip cfg)
  | .watch includeCurrent => some { d with watchers := d.watchers ++ [⟨includeCurrent, .start, []⟩] }
  | .watchSnapshot i =>
    match d.watchers[i]? with
    | some w => if w.phase = .start then some (d.snapshotFor i w) else none
    | none => none
  | .watchSubscribe i =>
    match d.watchers[i]? with
    | some w => if w.phase = .subscribing then some (d.subscribeFor i w) else none
    | none => none
  | .watchForward i =>
    match d.watchers[i]? with
    | some ⟨inc, .streaming ch, sent⟩ =>
      match d.manager.channel ch with
      | some (sc :: _) => some (d.forwardFor i ⟨inc, .streaming ch, sent⟩ ch sc)
      | _ => none
    | _ => none

/-- Every event `Daemon.fire` runs is a step of the daemon. -/
theorem Daemon.fire_step {d d' : Daemon Addr} {ev : DaemonEvent}
    (hf : d.fire h ip ev = some d') : Daemon.Step h ip d d' := by
  cases ev with
  | session discr ev =>
    simp only [Daemon.fire] at hf
    split at hf
    · rename_i e he
      obtain ⟨s, hs, rfl⟩ := Option.map_eq_some_iff.mp hf
      exact .session he (Session.fire_step h hs)
    · cases hf
  | dispatch =>
    simp only [Daemon.fire] at hf
    split at hf
    · rename_i sc rest hq
      cases hf
      exact .dispatch hq
    · cases hf
  | reload cfg =>
    cases hf
    exact .reload cfg
  | watch includeCurrent =>
    cases hf
    exact .watch includeCurrent
  | watchSnapshot i =>
    simp only [Daemon.fire] at hf
    split at hf
    · rename_i w hw
      split_ifs at hf with hp
      cases hf
      exact .watchSnapshot hw hp
    · cases hf
  | watchSubscribe i =>
    simp only [Daemon.fire] at hf
    split at hf
    · rename_i w hw
      split_ifs at hf with hp
      cases hf
      exact .watchSubscribe hw hp
    · cases hf
  | watchForward i =>
    simp only [Daemon.fire] at hf
    split at hf
    · rename_i inc ch sent hw
      split at hf
      · rename_i sc rest hc
        cases hf
        exact .watchForward hw rfl hc
      · cases hf
    · cases hf

/-- Run the events in order; `none` if one of them cannot happen. -/
def Daemon.runEvents (d : Daemon Addr) : List DaemonEvent → Option (Daemon Addr)
  | [] => some d
  | ev :: evs => (d.fire h ip ev).bind fun d' => d'.runEvents evs

/-- A run `Daemon.runEvents` computes is a run of the daemon. -/
theorem Daemon.runEvents_steps {d d' : Daemon Addr} {evs : List DaemonEvent}
    (hr : d.runEvents h ip evs = some d') : Relation.ReflTransGen (Daemon.Step h ip) d d' := by
  induction evs generalizing d with
  | nil =>
    cases hr
    exact .refl
  | cons ev evs ih =>
    obtain ⟨d₁, hf, hrest⟩ := Option.bind_eq_some_iff.mp hr
    exact .head (Daemon.fire_step h ip hf) (ih hrest)

/-- A state some run from a start reaches is reachable. -/
theorem Daemon.runEvents_reachable {cfg : Config} {rand : List UInt32}
    (hv : Config.validate ip cfg = .ok ()) {evs : List DaemonEvent} {d : Daemon Addr}
    (hr : (Daemon.start h ip cfg rand).runEvents h ip evs = some d) : Daemon.Reachable h ip d :=
  ⟨cfg, rand, hv, Daemon.runEvents_steps h ip hr⟩

/-! ## Runs of the daemon -/

/-- One micro-BFD group, `bond0` over the member link `eth1`. -/
def lagConfig : Config :=
  { Config.defaultConfig with
    microBFD :=
      { Config.defaultConfig.microBFD with
        groups :=
          [{ lagInterface := "bond0"
             memberLinks := ["eth1"]
             peerAddr := "10.0.0.1"
             localAddr := "10.0.0.2"
             desiredMinTx := 0
             requiredMinRx := 0
             detectMult := 0
             minActiveLinks := 1 }] } }

/-- A daemon started with the group `bond0` and reloaded with no groups at
all keeps the group: `reconcileMicroBFDGroups` returns at once when the new
configuration has none. -/
theorem reload_keeps_removed_lag_group :
    ∃ d, Daemon.Reachable lengthDigests ipv4 d ∧ d.manager.rawNotifyCh = [] ∧
      d.config.microBFD.groups = [] ∧ d.manager.microGroups.keys = ["bond0"] := by
  have hrun : ((Daemon.start lengthDigests ipv4 lagConfig [7]).runEvents lengthDigests ipv4
      [.reload Config.defaultConfig]).any (fun d => decide (d.manager.rawNotifyCh = [] ∧
        d.config.microBFD.groups = [] ∧ d.manager.microGroups.keys = ["bond0"])) = true := by
    decide +kernel
  obtain ⟨d, hd, hp⟩ := (Option.any_eq_true _ _).mp hrun
  exact ⟨d, Daemon.runEvents_reachable lengthDigests ipv4 (by decide +kernel) hd, of_decide_eq_true hp⟩

/-- One declarative session, `10.0.0.1` from `10.0.0.2` on `eth0`. -/
def oneSessionConfig : Config :=
  { Config.defaultConfig with
    sessions :=
      [{ peer := "10.0.0.1"
         «local» := "10.0.0.2"
         interface := "eth0"
         type := "single_hop"
         desiredMinTx := 0
         requiredMinRx := 0
         detectMult := 0
         paddedPduSize := 0
         auth := { type := "", keyID := 0, secret := "" } }] }

/-- A `WatchSessionEvents` handler takes its snapshot while session 7 is
Down; the session then goes AdminDown and `RunDispatch` broadcasts the
change before the handler subscribes.  Nothing is pending afterwards, yet
the client holds Down for a session that is AdminDown. -/
theorem watch_misses_transition_before_subscribe :
    ∃ d, Daemon.Reachable lengthDigests ipv4 d ∧ d.manager.rawNotifyCh = [] ∧
      d.manager.subscribers.map (·.queue) = [[]] ∧ d.watchers.map (·.phase) = [.streaming 0] ∧
      d.watchers.map (fun w => clientState w.sent 7) = [some .down] ∧
      (d.manager.sessions.lookup 7).map (·.session.state) = some .adminDown := by
  have hrun : ((Daemon.start lengthDigests ipv4 oneSessionConfig [7]).runEvents lengthDigests ipv4
      [.session 7 .run, .watch true, .watchSnapshot 0, .session 7 .setAdminDown, .session 7 .control,
        .dispatch, .watchSubscribe 0]).any (fun d => decide (d.manager.rawNotifyCh = [] ∧
        d.manager.subscribers.map (·.queue) = [[]] ∧ d.watchers.map (·.phase) = [.streaming 0] ∧
        d.watchers.map (fun w => clientState w.sent 7) = [some .down] ∧
        (d.manager.sessions.lookup 7).map (·.session.state) = some .adminDown)) = true := by
    decide +kernel
  obtain ⟨d, hd, hp⟩ := (Option.any_eq_true _ _).mp hrun
  exact ⟨d, Daemon.runEvents_reachable lengthDigests ipv4 (by decide +kernel) hd, of_decide_eq_true hp⟩

end Steps

end GoBFD
