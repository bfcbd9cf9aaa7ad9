import GoBFD.Session
import GoBFD.Go.Stdlib

/-!
# GoBFD.Config

The daemon's configuration, `internal/config/config.go`: the records the
YAML file is decoded into, the keys the reload path diffs sessions by, the
address accessors, and `Validate`.

Reading the file (koanf's defaults, YAML and environment layers) is not
modelled: a configuration is the decoded `Config`.  Of its sections, those
that no modelled function reads are left out: the gRPC and metrics
listeners beyond `grpc.addr`, logging, socket buffers and unsolicited BFD.
-/

namespace GoBFD.Config

open Go

variable {Addr : Type}

/-! ## Records -/

/-- `GRPCConfig`. -/
structure GRPCConfig where
  addr : String

/-- `BFDConfig`: the defaults of declarative sessions. -/
structure BFDConfig where
  defaultDesiredMinTx : Duration
  defaultRequiredMinRx : Duration
  defaultDetectMultiplier : UInt32
  alignIntervals : Bool
  defaultPaddedPduSize : UInt16

/-- `AuthConfig`. -/
structure AuthConfig where
  type : String
  keyID : UInt32
  secret : String

/-- `SessionConfig`: one declarative session. -/
structure SessionConfig where
  peer : String
  «local» : String
  interface : String
  type : String
  desiredMinTx : Duration
  requiredMinRx : Duration
  detectMult : UInt32
  paddedPduSize : UInt16
  auth : AuthConfig

/-- `EchoPeerConfig`. -/
structure EchoPeerConfig where
  peer : String
  «local» : String
  interface : String
  txInterval : Duration
  detectMult : UInt32

/-- `EchoConfig`. -/
structure EchoConfig where
  enabled : Bool
  defaultTxInterval : Duration
  defaultDetectMultiplier : UInt32
  peers : List EchoPeerConfig

/-- `MicroBFDGroupConfig`. -/
structure MicroBFDGroupConfig where
  lagInterface : String
  memberLinks : List String
  peerAddr : String
  localAddr : String
  desiredMinTx : Duration
  requiredMinRx : Duration
  detectMult : UInt32
  minActiveLinks : Int

/-- `MicroBFDActuatorConfig`; the OVSDB endpoint is not read by `Validate`. -/
structure MicroBFDActuatorConfig where
  mode : String
  backend : String
  ownerPolicy : String
  downAction : String
  upAction : String

/-- `MicroBFDConfig`. -/
structure MicroBFDConfig where
  groups : List MicroBFDGroupConfig
  actuator : MicroBFDActuatorConfig

/-- `VXLANPeerConfig`. -/
structure VXLANPeerConfig where
  peer : String
  «local» : String
  desiredMinTx : Duration
  requiredMinRx : Duration
  detectMult : UInt32

/-- `VXLANConfig`. -/
structure VXLANConfig where
  enabled : Bool
  backend : String
  managementVNI : UInt32
  defaultDesiredMinTx : Duration
  defaultRequiredMinRx : Duration
  defaultDetectMultiplier : UInt32
  peers : List VXLANPeerConfig

/-- `GenevePeerConfig`. -/
structure GenevePeerConfig where
  peer : String
  «local» : String
  vni : UInt32
  desiredMinTx : Duration
  requiredMinRx : Duration
  detectMult : UInt32

/-- `GeneveConfig`. -/
structure GeneveConfig where
  enabled : Bool
  backend : String
  defaultVNI : UInt32
  defaultDesiredMinTx : Duration
  defaultRequiredMinRx : Duration
  defaultDetectMultiplier : UInt32
  peers : List GenevePeerConfig

/-- `GoBGPTLSConfig`. -/
structure GoBGPTLSConfig where
  enabled : Bool
  caFile : String
  serverName : String

/-- `GoBGPDampeningConfig`. -/
structure GoBGPDampeningConfig where
  enabled : Bool
  suppressThreshold : Float
  reuseThreshold : Float
  maxSuppressTime : Duration
  halfLife : Duration

/-- `GoBGPConfig`. -/
structure GoBGPConfig where
  enabled : Bool
  addr : String
  strategy : String
  actionTimeout : Duration
  tls : GoBGPTLSConfig
  dampening : GoBGPDampeningConfig

end GoBFD.Config

namespace GoBFD

/-- `Config`.  The package's functions live in its namespace. -/
structure Config where
  grpc : Config.GRPCConfig
  bfd : Config.BFDConfig
  echo : Config.EchoConfig
  microBFD : Config.MicroBFDConfig
  vxlan : Config.VXLANConfig
  geneve : Config.GeneveConfig
  goBGP : Config.GoBGPConfig
  sessions : List Config.SessionConfig

end GoBFD

namespace GoBFD.Config

open Go

variable {Addr : Type}

/-- `DefaultConfig()`: what the loader starts from before the file and the
environment are read. -/
def defaultConfig : Config :=
  { grpc := { addr := ":50051" }
    bfd :=
      { defaultDesiredMinTx := 1000000000
        defaultRequiredMinRx := 1000000000
        defaultDetectMultiplier := 3
        alignIntervals := false
        defaultPaddedPduSize := 0 }
    echo :=
      { enabled := false
        defaultTxInterval := 0
        defaultDetectMultiplier := 0
        peers := [] }
    microBFD :=
      { groups := []
        actuator :=
          { mode := "disabled"
            backend := "auto"
            ownerPolicy := "refuse-if-managed"
            downAction := "remove-member"
            upAction := "add-member" } }
    vxlan :=
      { enabled := false
        backend := "userspace-udp"
        managementVNI := 0
        defaultDesiredMinTx := 0
        defaultRequiredMinRx := 0
        defaultDetectMultiplier := 0
        peers := [] }
    geneve :=
      { enabled := false
        backend := "userspace-udp"
        defaultVNI := 0
        defaultDesiredMinTx := 0
        defaultRequiredMinRx := 0
        defaultDetectMultiplier := 0
        peers := [] }
    goBGP :=
      { enabled := false
        addr := "127.0.0.1:50051"
        strategy := "disable-peer"
        actionTimeout := 5000000000
        tls :=
          { enabled := false
            caFile := ""
            serverName := "" }
        dampening :=
          { enabled := false
            suppressThreshold := 3
            reuseThreshold := 2
            maxSuppressTime := 60000000000
            halfLife := 15000000000 } }
    sessions := [] }

/-! ## Keys and addresses -/

/-- `SessionConfig.SessionKey()`: `peer|local|interface`, from the text as
written. -/
def SessionConfig.sessionKey (sc : SessionConfig) : String :=
  sc.peer ++ "|" ++ sc.«local» ++ "|" ++ sc.interface

/-- `EchoPeerConfig.EchoSessionKey()`. -/
def EchoPeerConfig.echoSessionKey (ec : EchoPeerConfig) : String :=
  "echo|" ++ ec.peer ++ "|" ++ ec.«local» ++ "|" ++ ec.interface

/-- `VXLANPeerConfig.VXLANSessionKey()`. -/
def VXLANPeerConfig.vxlanSessionKey (vc : VXLANPeerConfig) : String :=
  "vxlan|" ++ vc.peer ++ "|" ++ vc.«local»

/-- `GenevePeerConfig.GeneveSessionKey()`. -/
def GenevePeerConfig.geneveSessionKey (gc : GenevePeerConfig) : String :=
  "geneve|" ++ gc.peer ++ "|" ++ gc.«local»

/-- The `PeerAddr()` accessors: an empty peer is an error, otherwise the
text is parsed. -/
def parsePeer (ip : NetIP Addr) (peer : String) : Option Addr :=
  if peer = "" then none else ip.parseAddr peer

/-- The `LocalAddr()` accessors: an empty local address is the zero `Addr`,
otherwise the text is parsed. -/
def parseLocal (ip : NetIP Addr) (loc : String) : Option Addr :=
  if loc = "" then some ip.zero else ip.parseAddr loc

/-! ## Validate -/

/-- The sentinel errors of `Validate`, with the index and value their
messages print. -/
inductive ValidateError where
  | emptyGRPCAddr
  | invalidDetectMultiplier
  | invalidDesiredMinTx
  | invalidRequiredMinRx
  | emptyGoBGPAddr
  | invalidGoBGPStrategy (strategy : String)
  | invalidGoBGPActionTimeout
  | invalidGoBGPTLS
  | invalidDampeningThreshold
  | invalidDampeningHalfLife
  | invalidSessionPeer (field : String) (i : Nat)
  | invalidSessionType (i : Nat) (type : String)
  | invalidSessionDetectMult (field : String) (i : Nat)
  | invalidSessionAuthType (i : Nat) (type : String)
  | invalidSessionAuthKeyID (i : Nat) (keyID : UInt32)
  | invalidSessionAuthSecret (i : Nat) (length : Nat)
  | duplicateSessionKey (field : String) (i : Nat) (key : String)
  | invalidMicroBFDActuatorMode (mode : String)
  | invalidMicroBFDActuatorBackend (backend : String)
  | invalidMicroBFDActuatorOwnerPolicy (policy : String)
  | invalidMicroBFDActuatorAction (field action : String)
  | invalidOverlayBackend (field backend : String)
  | unsupportedOverlayBackend (field backend : String)
  | invalidVNI (field : String) (vni : UInt32)
  | invalidPeerVNI (i : Nat) (vni : UInt32)
  | detectMultTooLarge (field : String) (i : Nat) (detectMult : UInt32)
  deriving DecidableEq

/-- `ValidGoBGPStrategies`. -/
def validGoBGPStrategies : List String := ["disable-peer", "withdraw-routes"]

/-- `validateDampening`. -/
def validateDampening (cfg : GoBGPDampeningConfig) : Except ValidateError Unit :=
  if cfg.suppressThreshold ≤ cfg.reuseThreshold then .error .invalidDampeningThreshold
  else if cfg.halfLife ≤ 0 then .error .invalidDampeningHalfLife
  else pure ()

/-- `validateGoBGP`. -/
def validateGoBGP (cfg : GoBGPConfig) : Except ValidateError Unit :=
  if !cfg.enabled then pure ()
  else if cfg.addr = "" then .error .emptyGoBGPAddr
  else if cfg.strategy ∉ validGoBGPStrategies then .error (.invalidGoBGPStrategy cfg.strategy)
  else if cfg.actionTimeout ≤ 0 then .error .invalidGoBGPActionTimeout
  else if !cfg.tls.enabled ∧ (cfg.tls.caFile ≠ "" ∨ cfg.tls.serverName ≠ "") then
    .error .invalidGoBGPTLS
  else if cfg.dampening.enabled then validateDampening cfg.dampening
  else pure ()

/-- `ValidSessionTypes`. -/
def validSessionTypes : List String := ["single_hop", "multi_hop"]

/-- `ValidAuthTypes`. -/
def validAuthTypes : List String :=
  ["none", "simple_password", "keyed_md5", "meticulous_keyed_md5", "keyed_sha1",
    "meticulous_keyed_sha1"]

/-- `validateSessionAuth`, for the session at index `i`. -/
def validateSessionAuth (i : Nat) (auth : AuthConfig) : Except ValidateError Unit :=
  let authType := trimSpace auth.type
  let secretLen := auth.secret.utf8ByteSize
  if authType = "" ∨ authType = "none" then pure ()
  else if authType ∉ validAuthTypes then .error (.invalidSessionAuthType i auth.type)
  else if auth.keyID > 255 then .error (.invalidSessionAuthKeyID i auth.keyID)
  else if authType = "simple_password" ∨ authType = "keyed_md5" ∨
      authType = "meticulous_keyed_md5" then
    if secretLen < 1 ∨ secretLen > 16 then .error (.invalidSessionAuthSecret i secretLen) else pure ()
  else if authType = "keyed_sha1" ∨ authType = "meticulous_keyed_sha1" then
    if secretLen < 1 ∨ secretLen > 20 then .error (.invalidSessionAuthSecret i secretLen) else pure ()
  else pure ()

/-- The loop of `validateSessions`: `i` is the index of the first session
left and `seen` the keys before it. -/
def validateSessionsFrom (ip : NetIP Addr) (seen : List String) (i : Nat) :
    List SessionConfig → Except ValidateError Unit
  | [] => pure ()
  | sc :: rest =>
    if (parsePeer ip sc.peer).isNone then .error (.invalidSessionPeer "sessions" i)
    else if sc.type ≠ "" ∧ sc.type ∉ validSessionTypes then .error (.invalidSessionType i sc.type)
    -- `DetectMult != 0 && DetectMult < 1` never holds for a uint32
    else if sc.detectMult ≠ 0 ∧ sc.detectMult < 1 then
      .error (.invalidSessionDetectMult "sessions" i)
    else match validateSessionAuth i sc.auth with
      | .error e => .error e
      | .ok () =>
        if sc.sessionKey ∈ seen then .error (.duplicateSessionKey "sessions" i sc.sessionKey)
        else validateSessionsFrom ip (sc.sessionKey :: seen) (i + 1) rest

/-- `validateSessions(sessions)`. -/
def validateSessions (ip : NetIP Addr) (sessions : List SessionConfig) :
    Except ValidateError Unit :=
  validateSessionsFrom ip [] 0 sessions

/-- The loop of `validateEchoPeers`. -/
def validateEchoPeersFrom (ip : NetIP Addr) (seen : List String) (i : Nat) :
    List EchoPeerConfig → Except ValidateError Unit
  | [] => pure ()
  | ep :: rest =>
    if (parsePeer ip ep.peer).isNone then .error (.invalidSessionPeer "echo.peers" i)
    else if ep.detectMult ≠ 0 ∧ ep.detectMult < 1 then
      .error (.invalidSessionDetectMult "echo.peers" i)
    else if ep.echoSessionKey ∈ seen then
      .error (.duplicateSessionKey "echo.peers" i ep.echoSessionKey)
    else validateEchoPeersFrom ip (ep.echoSessionKey :: seen) (i + 1) rest

/-- `validateEchoPeers(cfg)`. -/
def validateEchoPeers (ip : NetIP Addr) (cfg : EchoConfig) : Except ValidateError Unit :=
  if !cfg.enabled ∨ cfg.peers = [] then pure () else validateEchoPeersFrom ip [] 0 cfg.peers

/-- `validateMicroBFDActuator(cfg)`. -/
def validateMicroBFDActuator (cfg : MicroBFDActuatorConfig) : Except ValidateError Unit :=
  let actions := ["none", "remove-member", "add-member"]
  if cfg.mode ∉ ["disabled", "dry-run", "enforce"] then .error (.invalidMicroBFDActuatorMode cfg.mode)
  else if cfg.backend ∉ ["auto", "kernel-bond", "ovs", "networkmanager"] then
    .error (.invalidMicroBFDActuatorBackend cfg.backend)
  else if cfg.ownerPolicy ∉ ["refuse-if-managed", "allow-external", "networkmanager-dbus"] then
    .error (.invalidMicroBFDActuatorOwnerPolicy cfg.ownerPolicy)
  else if cfg.downAction ∉ actions then
    .error (.invalidMicroBFDActuatorAction "micro_bfd.actuator.down_action" cfg.downAction)
  else if cfg.upAction ∉ actions then
    .error (.invalidMicroBFDActuatorAction "micro_bfd.actuator.up_action" cfg.upAction)
  else pure ()

/-- `normalizeOverlayBackend(backend)`. -/
def normalizeOverlayBackend (backend : String) : String :=
  if trimSpace backend = "" then "userspace-udp" else trimSpace backend

/-- `validateOverlayBackend(field, backend)`: only the userspace backend is
implemented. -/
def validateOverlayBackend (field backend : String) : Except ValidateError Unit :=
  let normalized := normalizeOverlayBackend backend
  if normalized ∉ ["userspace-udp", "kernel", "ovs", "ovn", "cilium", "calico", "nsx"] then
    .error (.invalidOverlayBackend field backend)
  else if normalized ≠ "userspace-udp" then .error (.unsupportedOverlayBackend field normalized)
  else pure ()

/-- `vniMax`. -/
def vniMax : UInt32 := 0x00FFFFFF

/-- The loop of `validateVXLAN` over the peers. -/
def validateVXLANPeersFrom (ip : NetIP Addr) (seen : List String) (i : Nat) :
    List VXLANPeerConfig → Except ValidateError Unit
  | [] => pure ()
  | peer :: rest =>
    if (parsePeer ip peer.peer).isNone then .error (.invalidSessionPeer "vxlan.peers" i)
    else if peer.detectMult > 255 then .error (.detectMultTooLarge "vxlan.peers" i peer.detectMult)
    else if peer.vxlanSessionKey ∈ seen then
      .error (.duplicateSessionKey "vxlan.peers" i peer.vxlanSessionKey)
    else validateVXLANPeersFrom ip (peer.vxlanSessionKey :: seen) (i + 1) rest

/-- `validateVXLAN(cfg)`. -/
def validateVXLAN (ip : NetIP Addr) (cfg : VXLANConfig) : Except ValidateError Unit :=
  if !cfg.enabled ∨ cfg.peers = [] then pure ()
  else match validateOverlayBackend "vxlan.backend" cfg.backend with
    | .error e => .error e
    | .ok () =>
      if cfg.managementVNI > vniMax then .error (.invalidVNI "vxlan.management_vni" cfg.managementVNI)
      else validateVXLANPeersFrom ip [] 0 cfg.peers

/-- The loop of `validateGeneve` over the peers. -/
def validateGenevePeersFrom (ip : NetIP Addr) (seen : List String) (i : Nat) :
    List GenevePeerConfig → Except ValidateError Unit
  | [] => pure ()
  | peer :: rest =>
    if (parsePeer ip peer.peer).isNone then .error (.invalidSessionPeer "geneve.peers" i)
    else if peer.vni > vniMax then .error (.invalidPeerVNI i peer.vni)
    else if peer.detectMult > 255 then .error (.detectMultTooLarge "geneve.peers" i peer.detectMult)
    else if peer.geneveSessionKey ∈ seen then
      .error (.duplicateSessionKey "geneve.peers" i peer.geneveSessionKey)
    else validateGenevePeersFrom ip (peer.geneveSessionKey :: seen) (i + 1) rest

/-- `validateGeneve(cfg)`. -/
def validateGeneve (ip : NetIP Addr) (cfg : GeneveConfig) : Except ValidateError Unit :=
  if !cfg.enabled ∨ cfg.peers = [] then pure ()
  else match validateOverlayBackend "geneve.backend" cfg.backend with
    | .error e => .error e
    | .ok () =>
      if cfg.defaultVNI > vniMax then .error (.invalidVNI "geneve.default_vni" cfg.defaultVNI)
      else validateGenevePeersFrom ip [] 0 cfg.peers

/-- `Validate(cfg)`: the first error, section by section. -/
def validate (ip : NetIP Addr) (cfg : Config) : Except ValidateError Unit := do
  if cfg.grpc.addr = "" then throw .emptyGRPCAddr
  if cfg.bfd.defaultDetectMultiplier < 1 then throw .invalidDetectMultiplier
  if cfg.bfd.defaultDesiredMinTx ≤ 0 then throw .invalidDesiredMinTx
  if cfg.bfd.defaultRequiredMinRx ≤ 0 then throw .invalidRequiredMinRx
  validateGoBGP cfg.goBGP
  validateSessions ip cfg.sessions
  validateEchoPeers ip cfg.echo
  validateMicroBFDActuator cfg.microBFD.actuator
  validateVXLAN ip cfg.vxlan
  validateGeneve ip cfg.geneve

/-- The defaults pass validation, whatever the address functions. -/
theorem validate_defaultConfig (ip : NetIP Addr) : validate ip defaultConfig = .ok () := rfl

end GoBFD.Config
