import GoBFD.Manager
import GoBFD.Config

/-!
# GoBFD.Daemon

What the daemon `cmd/gobfd` does with a configuration: it converts each
declarative entry into a `SessionConfig` (`factory.go`, `micro_bfd.go`,
`overlay.go`) and reconciles the manager against it, pass by pass
(`reload.go`): declarative sessions, micro-BFD groups and their member
sessions, then the VXLAN and Geneve overlay sessions.  `reconcileAllSessions`
runs the passes at startup and `reloadConfig` on SIGHUP.

Each pass hands `Manager.ReconcileSessions` only its own entries, and
`ReconcileSessions` diffs them against every session the manager holds;
the declarative keys are built from the configuration's text, the
manager's from `Addr.String()`, and the overlay keys carry a `vxlan|` or
`geneve|` prefix that no manager key has.

Sender sockets are not modelled: every sender the daemon asks for is
created.  The overlay backends are `OverlayRuntime`, fixed when the daemon
starts.  The echo pass `reconcileEchoSessions` is modelled with the senders
(`GoBFD.Daemon.Senders`); the log level is not modelled.
-/

namespace GoBFD

open Go

variable {Addr : Type}

/-! ## Converting configuration entries -/

/-- The errors of the conversions, with the text they print. -/
inductive ConvertError where
  /-- `parse peer address`. -/
  | peerAddr (peer : String)
  /-- `parse local address`. -/
  | localAddr (loc : String)
  /-- `errDetectMultOverflow`. -/
  | detectMultOverflow (detectMult : UInt32)
  /-- `config.ErrInvalidSessionAuthType`. -/
  | authType (type : String)
  /-- `config.ErrInvalidSessionAuthKeyID`. -/
  | authKeyID (keyID : UInt32)
  /-- `NewAuthenticator` or `NewStaticAuthKeyStore` failed. -/
  | auth (e : AuthError)
  deriving DecidableEq

/-- `CommonIntervals`, RFC 7419 Section 3. -/
def commonIntervals : List Duration := [3300000, 10000000, 20000000, 50000000, 100000000, 1000000000]

/-- `AlignToCommonInterval(d)`: round up to the next common interval; a
nonpositive value or one above one second is unchanged. -/
def alignToCommonInterval (d : Duration) : Duration :=
  if d ≤ 0 then d else (commonIntervals.find? (d ≤ ·)).getD d

/-- `configSessionTypeToBFD(sessionType)`. -/
def configSessionTypeToBFD (sessionType : String) : SessionType :=
  if sessionType = "multi_hop" then .multiHop else .singleHop

/-- `configAuthTypeToBFD(authType)`. -/
def configAuthTypeToBFD (authType : String) : Except ConvertError AuthType :=
  if authType = "simple_password" then .ok AuthTypeSimplePassword
  else if authType = "keyed_md5" then .ok AuthTypeKeyedMD5
  else if authType = "meticulous_keyed_md5" then .ok AuthTypeMeticulousKeyedMD5
  else if authType = "keyed_sha1" then .ok AuthTypeKeyedSHA1
  else if authType = "meticulous_keyed_sha1" then .ok AuthTypeMeticulousKeyedSHA1
  else .error (.authType authType)

/-- `configAuthToBFD(authCfg)`: no authenticator for an empty or `none`
type, otherwise the authenticator and a static store of the one key. -/
def configAuthToBFD (authCfg : Config.AuthConfig) :
    Except ConvertError (Option Authenticator × Option AuthKeyStore) := do
  let authTypeName := trimSpace authCfg.type
  if authTypeName = "" ∨ authTypeName = "none" then return (none, none)
  let authType ← configAuthTypeToBFD authTypeName
  if authCfg.keyID > 255 then throw (.authKeyID authCfg.keyID)
  let auth ← (newAuthenticator authType).mapError .auth
  let keys ← (newStaticAuthKeyStore
    { id := authCfg.keyID.toUInt8, type := authType, secret := authCfg.secret.toUTF8.toList } []).mapError
      .auth
  return (some auth, some keys)

/-- `configSessionToBFD(sc, defaults)`: parse the addresses, fill in the
defaults, align the intervals if asked, and convert the authentication. -/
def configSessionToBFD (ip : NetIP Addr) (sc : Config.SessionConfig) (defaults : Config.BFDConfig) :
    Except ConvertError (SessionConfig Addr) := do
  let some peerAddr := Config.parsePeer ip sc.peer | throw (.peerAddr sc.peer)
  let some localAddr := Config.parseLocal ip sc.«local» | throw (.localAddr sc.«local»)
  let sessType := configSessionTypeToBFD sc.type
  let desiredMinTx := if sc.desiredMinTx = 0 then defaults.defaultDesiredMinTx else sc.desiredMinTx
  let requiredMinRx := if sc.requiredMinRx = 0 then defaults.defaultRequiredMinRx else sc.requiredMinRx
  let detectMult := if sc.detectMult = 0 then defaults.defaultDetectMultiplier else sc.detectMult
  if detectMult > 255 then throw (.detectMultOverflow detectMult)
  let desiredMinTx := if defaults.alignIntervals then alignToCommonInterval desiredMinTx else desiredMinTx
  let requiredMinRx :=
    if defaults.alignIntervals then alignToCommonInterval requiredMinRx else requiredMinRx
  let paddedPduSize := if sc.paddedPduSize = 0 then defaults.defaultPaddedPduSize else sc.paddedPduSize
  let (auth, authKeys) ← configAuthToBFD sc.auth
  pure
    { peerAddr := peerAddr
      localAddr := localAddr
      interface := sc.interface
      type := sessType
      role := .active
      desiredMinTxInterval := desiredMinTx
      requiredMinRxInterval := requiredMinRx
      detectMultiplier := detectMult.toUInt8
      auth := auth
      authKeys := authKeys
      paddedPduSize := paddedPduSize.toNat }

/-- `configMicroBFDToBFD(gc)`. -/
def configMicroBFDToBFD (ip : NetIP Addr) (gc : Config.MicroBFDGroupConfig) :
    Except ConvertError (MicroBFDConfig Addr) := do
  let some peerAddr := ip.parseAddr gc.peerAddr | throw (.peerAddr gc.peerAddr)
  let some localAddr := ip.parseAddr gc.localAddr | throw (.localAddr gc.localAddr)
  if gc.detectMult > 255 then throw (.detectMultOverflow gc.detectMult)
  pure
    { lagInterface := gc.lagInterface
      memberLinks := gc.memberLinks
      peerAddr := peerAddr
      localAddr := localAddr
      minActiveLinks := gc.minActiveLinks }

/-- `overlayTimerDefaults`. -/
structure OverlayTimerDefaults where
  desiredMinTx : Duration
  requiredMinRx : Duration
  detectMult : UInt32

/-- `buildOverlaySessionConfig(...)`: shared by VXLAN and Geneve peers; an
empty local address stays the zero `Addr`. -/
def buildOverlaySessionConfig (ip : NetIP Addr) (peerStr localStr : String)
    (peerTx peerRx : Duration) (peerDetect : UInt32) (defaults : OverlayTimerDefaults)
    (sessType : SessionType) : Except ConvertError (SessionConfig Addr) := do
  let some peerAddr := ip.parseAddr peerStr | throw (.peerAddr peerStr)
  let some localAddr := (if localStr ≠ "" then ip.parseAddr localStr else some ip.zero)
    | throw (.localAddr localStr)
  let desiredMinTx := if peerTx = 0 then defaults.desiredMinTx else peerTx
  let requiredMinRx := if peerRx = 0 then defaults.requiredMinRx else peerRx
  let detectMult := if peerDetect = 0 then defaults.detectMult else peerDetect
  if detectMult > 255 then throw (.detectMultOverflow detectMult)
  pure
    { peerAddr := peerAddr
      localAddr := localAddr
      interface := ""
      type := sessType
      role := .active
      desiredMinTxInterval := desiredMinTx
      requiredMinRxInterval := requiredMinRx
      detectMultiplier := detectMult.toUInt8
      auth := none
      authKeys := none
      paddedPduSize := 0 }

/-! ## The reconcile passes -/

section Passes

variable [DecidableEq Addr] (h : Digests) (ip : NetIP Addr)

/-- `overlayRuntime`: whether the VXLAN and the Geneve backends run. -/
structure OverlayRuntime where
  vxlan : Bool
  geneve : Bool

/-- The desired set of `reconcileSessions`: each declarative session that
converts, under the key of its text. -/
def desiredDeclarativeSessions (cfg : Config) : List (ReconcileConfig Addr) :=
  cfg.sessions.filterMap fun sc =>
    match configSessionToBFD ip sc cfg.bfd with
    | .ok sessCfg => some { key := sc.sessionKey, sessionConfig := sessCfg }
    | .error _ => none

/-- `reconcileSessions(ctx, cfg, mgr, sf, logger)`: nothing when the
configuration has no sessions. -/
def reconcileSessions (cfg : Config) (m : Manager Addr) : Manager Addr :=
  if cfg.sessions = [] then m
  else (m.reconcileSessions h ip (desiredDeclarativeSessions ip cfg)).2

/-- `reconcileMicroBFDGroupState(cfg, mgr, logger)`. -/
def reconcileMicroBFDGroupState (cfg : Config) (m : Manager Addr) : Manager Addr :=
  let desired := cfg.microBFD.groups.filterMap fun group =>
    match configMicroBFDToBFD ip group with
    | .ok microCfg => some { key := group.lagInterface, config := microCfg }
    | .error _ => none
  (m.reconcileMicroBFDGroups desired).2

/-- `buildMemberReconcile(...)`: one member link's session, keyed by the
printed addresses. -/
def buildMemberReconcile (peerAddr localAddr : Addr) (member : String)
    (desiredMinTx requiredMinRx : Duration) (detectMult : UInt8) : ReconcileConfig Addr :=
  { key := ip.string peerAddr ++ "|" ++ ip.string localAddr ++ "|" ++ member
    sessionConfig :=
      { peerAddr := peerAddr
        localAddr := localAddr
        interface := member
        type := .microBFD
        role := .active
        desiredMinTxInterval := desiredMinTx
        requiredMinRxInterval := requiredMinRx
        detectMultiplier := detectMult
        auth := none
        authKeys := none
        paddedPduSize := 0 } }

/-- `buildMemberSessions(cfg, group, sf, logger)`: the member sessions of
one group, none if its addresses do not parse or its multiplier is out of
range.  A default multiplier above 255 is truncated. -/
def buildMemberSessions (cfg : Config) (group : Config.MicroBFDGroupConfig) :
    List (ReconcileConfig Addr) :=
  match ip.parseAddr group.peerAddr, ip.parseAddr group.localAddr with
  | some peerAddr, some localAddr =>
    if group.detectMult > 255 then []
    else
      let desiredMinTx :=
        if group.desiredMinTx = 0 then cfg.bfd.defaultDesiredMinTx else group.desiredMinTx
      let requiredMinRx :=
        if group.requiredMinRx = 0 then cfg.bfd.defaultRequiredMinRx else group.requiredMinRx
      let detectMult :=
        if group.detectMult = 0 then cfg.bfd.defaultDetectMultiplier else group.detectMult
      group.memberLinks.map fun member =>
        buildMemberReconcile ip peerAddr localAddr member desiredMinTx requiredMinRx detectMult.toUInt8
  | _, _ => []

/-- `reconcileMicroBFDMemberSessions(ctx, cfg, mgr, sf, logger)`: nothing
when no group yields a member session. -/
def reconcileMicroBFDMemberSessions (cfg : Config) (m : Manager Addr) : Manager Addr :=
  let desiredSessions := cfg.microBFD.groups.flatMap (buildMemberSessions ip cfg)
  if desiredSessions = [] then m else (m.reconcileSessions h ip desiredSessions).2

/-- `reconcileMicroBFDGroups(ctx, cfg, mgr, sf, logger)`: nothing when the
configuration has no groups. -/
def reconcileMicroBFDGroups (cfg : Config) (m : Manager Addr) : Manager Addr :=
  if cfg.microBFD.groups = [] then m
  else reconcileMicroBFDMemberSessions h ip cfg (reconcileMicroBFDGroupState ip cfg m)

/-- `overlayPeerEntry`; the peer's name for the log is not modelled. -/
structure OverlayPeerEntry where
  key : String
  peerStr : String
  localStr : String
  peerTx : Duration
  peerRx : Duration
  peerDetect : UInt32

/-- `overlayTunnelParams`; `conn` says whether the backend runs. -/
structure OverlayTunnelParams where
  rfc : String
  sessType : SessionType
  defaults : OverlayTimerDefaults
  conn : Bool
  entries : List OverlayPeerEntry

/-- `buildOverlayTunnelParams(cfg, rt, logger)`: one entry per enabled
tunnel type with peers, VXLAN first. -/
def buildOverlayTunnelParams (cfg : Config) (rt : OverlayRuntime) :
    List OverlayTunnelParams :=
  (if cfg.vxlan.enabled ∧ cfg.vxlan.peers ≠ [] then
    [{ rfc := "RFC 8971"
       sessType := .vxlan
       defaults :=
        { desiredMinTx := cfg.vxlan.defaultDesiredMinTx
          requiredMinRx := cfg.vxlan.defaultRequiredMinRx
          detectMult := cfg.vxlan.defaultDetectMultiplier }
       conn := rt.vxlan
       entries := cfg.vxlan.peers.map fun peer =>
        { key := peer.vxlanSessionKey
          peerStr := peer.peer
          localStr := peer.«local»
          peerTx := peer.desiredMinTx
          peerRx := peer.requiredMinRx
          peerDetect := peer.detectMult } }]
  else []) ++
  (if cfg.geneve.enabled ∧ cfg.geneve.peers ≠ [] then
    [{ rfc := "RFC 9521"
       sessType := .geneve
       defaults :=
        { desiredMinTx := cfg.geneve.defaultDesiredMinTx
          requiredMinRx := cfg.geneve.defaultRequiredMinRx
          detectMult := cfg.geneve.defaultDetectMultiplier }
       conn := rt.geneve
       entries := cfg.geneve.peers.map fun peer =>
        { key := peer.geneveSessionKey
          peerStr := peer.peer
          localStr := peer.«local»
          peerTx := peer.desiredMinTx
          peerRx := peer.requiredMinRx
          peerDetect := peer.detectMult } }]
  else [])

/-- `reconcileOverlayTunnel(ctx, mgr, logger, params)`: nothing when the
backend does not run; otherwise `reconcileOverlaySessions` with the
entries that convert, even if none does. -/
def reconcileOverlayTunnel (m : Manager Addr) (params : OverlayTunnelParams) : Manager Addr :=
  if !params.conn then m
  else
    let desired := params.entries.filterMap fun e =>
      match buildOverlaySessionConfig ip e.peerStr e.localStr e.peerTx e.peerRx e.peerDetect
          params.defaults params.sessType with
      | .ok sessCfg => some { key := e.key, sessionConfig := sessCfg }
      | .error _ => none
    (m.reconcileSessions h ip desired).2

/-- `reconcileOverlayTunnels(ctx, cfg, mgr, overlayRuntime, logger)`. -/
def reconcileOverlayTunnels (cfg : Config) (rt : OverlayRuntime) (m : Manager Addr) :
    Manager Addr :=
  (buildOverlayTunnelParams cfg rt).foldl (reconcileOverlayTunnel h ip) m

/-- `reconcileAllSessions(ctx, cfg, mgr, sf, overlayRuntime, logger)`. -/
def reconcileAllSessions (cfg : Config) (rt : OverlayRuntime) (m : Manager Addr) :
    Manager Addr :=
  reconcileOverlayTunnels h ip cfg rt
    (reconcileMicroBFDGroups h ip cfg (reconcileSessions h ip cfg m))

/-- `reloadConfig(...)` with the configuration the file now decodes to:
keep everything when it does not validate, otherwise run the passes. -/
def reloadConfig (newCfg : Config) (rt : OverlayRuntime) (m : Manager Addr) : Manager Addr :=
  match Config.validate ip newCfg with
  | .error _ => m
  | .ok () =>
    reconcileOverlayTunnels h ip newCfg rt
      (reconcileMicroBFDGroups h ip newCfg (reconcileSessions h ip newCfg m))

end Passes

end GoBFD
