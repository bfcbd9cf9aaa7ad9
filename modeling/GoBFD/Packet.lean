import GoBFD.Go.BigEndian

/-!
# GoBFD.Packet

The BFD Control packet codec of `internal/bfd/packet.go` (RFC 5880
Section 4.1): the packet record, `marshalControlPacket` with
`marshalAuthSection`, and `unmarshalControlPacket` with the three auth
section decoders.

The codec functions mirror the Go code statement by statement over the
slice model of `GoBFD.Go.Slice`: every byte store, re-slice and
`binary.BigEndian` word access is a checked operation that panics out of
range, so the theorems about the codec also say that it never panics where
they say it succeeds.

Wire format (RFC 5880 Section 4.1):

```
Byte 0:      Version (3 bits) | Diag (5 bits)
Byte 1:      State (2 bits) | P | F | C | A | D | M
Byte 2:      Detect Mult
Byte 3:      Length
Bytes 4-23:  My / Your Discriminator, Desired Min TX, Required Min RX,
             Required Min Echo RX (big-endian words)
Bytes 24+:   Authentication Section (optional)
```

`unmarshalControlPacket` fills the Go `ControlPacket` in place and callers
discard it on error; the model returns the packet on success only.
-/

namespace GoBFD

/-! ## Protocol constants — RFC 5880 Section 4.1 -/

/-- The protocol version, `Version uint8 = 1`. -/
def Version : UInt8 := 1

/-- The mandatory header size. -/
def HeaderSize : Nat := 24

/-- The size of the buffers of `PacketPool`. -/
def MaxPacketSize : Nat := 64

/-- Minimum Length with the A bit clear (RFC 5880 Section 6.8.6). -/
def MinPacketSizeNoAuth : Nat := 24

/-- Minimum Length with the A bit set (RFC 5880 Section 6.8.6). -/
def MinPacketSizeWithAuth : Nat := 26

def authLenMD5 : UInt8 := 24
def authLenSHA1 : UInt8 := 28
def md5DigestSize : Nat := 16
def sha1DigestSize : Nat := 20
def simplePasswordMinLen : Nat := 1
def simplePasswordMaxLen : Nat := 16

/-- Auth Type, Auth Len and Auth Key ID before the password. -/
def authSimpleHeaderSize : Nat := 3

/-! ## Diagnostics, states and auth types -/

/-- `type Diag uint8`: a 5-bit field on the wire. -/
abbrev Diag := UInt8

def DiagNone : Diag := 0
def DiagControlTimeExpired : Diag := 1
def DiagEchoFailed : Diag := 2
def DiagNeighborDown : Diag := 3
def DiagForwardingPlaneReset : Diag := 4
def DiagPathDown : Diag := 5
def DiagConcatPathDown : Diag := 6
def DiagAdminDown : Diag := 7
def DiagReverseConcatPathDown : Diag := 8

/-- `diagNames`. -/
def diagNames : List String :=
  ["None", "Control Detection Time Expired", "Echo Function Failed",
    "Neighbor Signaled Session Down", "Forwarding Plane Reset", "Path Down",
    "Concatenated Path Down", "Administratively Down", "Reverse Concatenated Path Down"]

/-- `Diag.String()`: the name of a known code, `Unknown(<code>)` for the
others. -/
def Diag.string (d : Diag) : String :=
  diagNames[d.toNat]?.getD ("Unknown(" ++ toString d.toNat ++ ")")

/-- The session state, a 2-bit field on the wire (`StateAdminDown` = 0 to
`StateUp` = 3). -/
inductive State where
  | adminDown
  | down
  | init
  | up
  deriving Repr, DecidableEq

/-- `uint8(s)`. -/
def State.toUInt8 : State → UInt8
  | .adminDown => 0
  | .down => 1
  | .init => 2
  | .up => 3

/-- `State(b)` for the 2-bit value `b` of byte 1; larger values cannot come
out of a 2-bit field. -/
def State.ofUInt8 (b : UInt8) : State :=
  match b.toNat with
  | 0 => .adminDown
  | 1 => .down
  | 2 => .init
  | _ => .up

/-- `type AuthType uint8`. -/
abbrev AuthType := UInt8

def AuthTypeNone : AuthType := 0
def AuthTypeSimplePassword : AuthType := 1
def AuthTypeKeyedMD5 : AuthType := 2
def AuthTypeMeticulousKeyedMD5 : AuthType := 3
def AuthTypeKeyedSHA1 : AuthType := 4
def AuthTypeMeticulousKeyedSHA1 : AuthType := 5

/-! ## The packet record -/

/-- The optional authentication section (RFC 5880 Sections 4.2 to 4.4);
fields default to Go's zero values. -/
structure AuthSection where
  type : AuthType := 0
  len : UInt8 := 0
  keyID : UInt8 := 0
  authData : List UInt8 := []
  sequenceNumber : UInt32 := 0
  digest : List UInt8 := []
  deriving Repr, DecidableEq

/-- A decoded BFD Control packet; interval fields are in microseconds. -/
structure ControlPacket where
  version : UInt8 := 0
  diag : Diag := 0
  state : State := .adminDown
  poll : Bool := false
  final : Bool := false
  controlPlaneIndependent : Bool := false
  authPresent : Bool := false
  demand : Bool := false
  multipoint : Bool := false
  detectMult : UInt8 := 0
  length : UInt8 := 0
  myDiscriminator : UInt32 := 0
  yourDiscriminator : UInt32 := 0
  desiredMinTxInterval : UInt32 := 0
  requiredMinRxInterval : UInt32 := 0
  requiredMinEchoRxInterval : UInt32 := 0
  auth : Option AuthSection := none
  deriving Repr, DecidableEq

/-- The sentinel errors of the codec (`errors.Is` targets); the wrapping
`fmt.Errorf` text is not modelled. -/
inductive CodecError where
  | invalidVersion
  | packetTooShort
  | invalidLength
  | lengthExceedsPayload
  | zeroDetectMult
  | multipointSet
  | zeroMyDiscriminator
  | zeroYourDiscriminator
  | bufTooSmall
  | invalidAuthType
  | authSectionTruncated
  deriving Repr, DecidableEq

/-! ## MarshalControlPacket -/

/-- Byte 0: `(pkt.Version << 5) | (uint8(pkt.Diag) & 0x1F)`. -/
def ControlPacket.versionDiagByte (pkt : ControlPacket) : UInt8 :=
  (pkt.version <<< 5) ||| (pkt.diag &&& 0x1F)

/-- Byte 1: `uint8(pkt.State) << 6`, then one `flags |= 1 << k` per set bit. -/
def ControlPacket.flagsByte (pkt : ControlPacket) : UInt8 :=
  let flags := pkt.state.toUInt8 <<< 6
  let flags := if pkt.poll then flags ||| ((1 : UInt8) <<< 5) else flags
  let flags := if pkt.final then flags ||| ((1 : UInt8) <<< 4) else flags
  let flags := if pkt.controlPlaneIndependent then flags ||| ((1 : UInt8) <<< 3) else flags
  let flags := if pkt.authPresent then flags ||| ((1 : UInt8) <<< 2) else flags
  let flags := if pkt.demand then flags ||| ((1 : UInt8) <<< 1) else flags
  if pkt.multipoint then flags ||| ((1 : UInt8) <<< 0) else flags

/-- `totalLen`: the header, plus `Auth.Len` when `AuthPresent && Auth != nil`. -/
def ControlPacket.totalLen (pkt : ControlPacket) : Nat :=
  match pkt.authPresent, pkt.auth with
  | true, some auth => HeaderSize + auth.len.toNat
  | _, _ => HeaderSize

/-- `marshalAuthSection`: writes the section into `buf` (the packet buffer
from offset 24 on). -/
def marshalAuthSection (auth : AuthSection) (buf : List UInt8) :
    Go.Result CodecError (List UInt8) := do
  if buf.length < auth.len.toNat then Go.fail .bufTooSmall
  let buf ← Go.store buf 0 auth.type
  let buf ← Go.store buf 1 auth.len
  if auth.type = AuthTypeSimplePassword then
    let buf ← Go.store buf 2 auth.keyID
    Go.within buf 3 buf.length fun w => pure (Go.copy w auth.authData)
  else if auth.type = AuthTypeKeyedMD5 ∨ auth.type = AuthTypeMeticulousKeyedMD5 ∨
      auth.type = AuthTypeKeyedSHA1 ∨ auth.type = AuthTypeMeticulousKeyedSHA1 then
    let buf ← Go.store buf 2 auth.keyID
    -- Reserved: MUST be set to zero on transmit.
    let buf ← Go.store buf 3 0
    let buf ← Go.within buf 4 8 (Go.putUint32 · auth.sequenceNumber)
    Go.within buf 8 buf.length fun w => pure (Go.copy w auth.digest)
  else
    Go.fail .invalidAuthType

/-- `MarshalControlPacket(pkt, buf)`: the number of bytes written and the
buffer after the writes. -/
def marshalControlPacket (pkt : ControlPacket) (buf : List UInt8) :
    Go.Result CodecError (Nat × List UInt8) := do
  let totalLen := pkt.totalLen
  if buf.length < totalLen then Go.fail .bufTooSmall
  let buf ← Go.store buf 0 pkt.versionDiagByte
  let buf ← Go.store buf 1 pkt.flagsByte
  let buf ← Go.store buf 2 pkt.detectMult
  let buf ← Go.store buf 3 (UInt8.ofNat totalLen)
  let buf ← Go.within buf 4 8 (Go.putUint32 · pkt.myDiscriminator)
  let buf ← Go.within buf 8 12 (Go.putUint32 · pkt.yourDiscriminator)
  let buf ← Go.within buf 12 16 (Go.putUint32 · pkt.desiredMinTxInterval)
  let buf ← Go.within buf 16 20 (Go.putUint32 · pkt.requiredMinRxInterval)
  let buf ← Go.within buf 20 24 (Go.putUint32 · pkt.requiredMinEchoRxInterval)
  match pkt.authPresent, pkt.auth with
  | true, some auth =>
    let buf ← Go.within buf HeaderSize buf.length (marshalAuthSection auth)
    pure (totalLen, buf)
  | _, _ => pure (totalLen, buf)

/-! ## UnmarshalControlPacket -/

/-- `unmarshalSimplePassword`: `auth` carries the Type and Len already read. -/
def unmarshalSimplePassword (buf : List UInt8) (auth : AuthSection) :
    Go.Result CodecError AuthSection := do
  if auth.len < UInt8.ofNat (authSimpleHeaderSize + simplePasswordMinLen) then
    Go.fail .authSectionTruncated
  if buf.length < auth.len.toNat then Go.fail .authSectionTruncated
  let keyID ← Go.load buf 2
  let pwLen : Int := auth.len.toNat - authSimpleHeaderSize
  if pwLen < simplePasswordMinLen ∨ pwLen > simplePasswordMaxLen then
    Go.fail .authSectionTruncated
  let authData ← Go.slice buf 3 (3 + pwLen.toNat)
  pure { auth with keyID := keyID, authData := authData }

/-- `unmarshalHashAuth(buf, auth, expectedLen, digestSize, name)`, shared by
MD5 and SHA1; `name` only enters the error text. -/
def unmarshalHashAuth (buf : List UInt8) (auth : AuthSection) (expectedLen : UInt8)
    (digestSize : Nat) : Go.Result CodecError AuthSection := do
  if auth.len ≠ expectedLen then Go.fail .invalidLength
  if buf.length < expectedLen.toNat then Go.fail .authSectionTruncated
  let keyID ← Go.load buf 2
  -- buf[3] is Reserved, ignored on receipt.
  let sequenceNumber ← Go.uint32 (← Go.slice buf 4 8)
  let digest ← Go.slice buf 8 (8 + digestSize)
  pure { auth with keyID := keyID, sequenceNumber := sequenceNumber, digest := digest }

/-- `unmarshalAuthSection`: `buf` holds only the auth section bytes. -/
def unmarshalAuthSection (buf : List UInt8) : Go.Result CodecError AuthSection := do
  if buf.length < 2 then Go.fail .authSectionTruncated
  let type ← Go.load buf 0
  let len ← Go.load buf 1
  let auth : AuthSection := { type := type, len := len }
  if buf.length + HeaderSize < len.toNat then Go.fail .authSectionTruncated
  if type = AuthTypeSimplePassword then
    unmarshalSimplePassword buf auth
  else if type = AuthTypeKeyedMD5 ∨ type = AuthTypeMeticulousKeyedMD5 then
    unmarshalHashAuth buf auth authLenMD5 md5DigestSize
  else if type = AuthTypeKeyedSHA1 ∨ type = AuthTypeMeticulousKeyedSHA1 then
    unmarshalHashAuth buf auth authLenSHA1 sha1DigestSize
  else
    Go.fail .invalidAuthType

/-- `UnmarshalControlPacket(buf, pkt)`: RFC 5880 Section 6.8.6 steps 1 to 7
and the auth section layout. -/
def unmarshalControlPacket (buf : List UInt8) : Go.Result CodecError ControlPacket := do
  if buf.length < MinPacketSizeNoAuth then Go.fail .packetTooShort
  -- the bounds-check hint `_ = buf[23]`
  let _ ← Go.load buf 23
  let b₀ ← Go.load buf 0
  let flags ← Go.load buf 1
  let detectMult ← Go.load buf 2
  let length ← Go.load buf 3
  let version := b₀ >>> 5
  let diag := b₀ &&& 0x1F
  let state := State.ofUInt8 (flags >>> 6)
  let poll := flags &&& ((1 : UInt8) <<< 5) != 0
  let final := flags &&& ((1 : UInt8) <<< 4) != 0
  let controlPlaneIndependent := flags &&& ((1 : UInt8) <<< 3) != 0
  let authPresent := flags &&& ((1 : UInt8) <<< 2) != 0
  let demand := flags &&& ((1 : UInt8) <<< 1) != 0
  let multipoint := flags &&& ((1 : UInt8) <<< 0) != 0
  -- Step 1: version.
  if version ≠ Version then Go.fail .invalidVersion
  -- Step 2: minimum length.
  let minLen : UInt8 :=
    if authPresent then UInt8.ofNat MinPacketSizeWithAuth else UInt8.ofNat MinPacketSizeNoAuth
  if length < minLen then Go.fail .invalidLength
  -- Step 3: length within the payload.
  if buf.length < length.toNat then Go.fail .lengthExceedsPayload
  -- Steps 4 and 5.
  if detectMult = 0 then Go.fail .zeroDetectMult
  if multipoint then Go.fail .multipointSet
  let myDiscriminator ← Go.uint32 (← Go.slice buf 4 8)
  let yourDiscriminator ← Go.uint32 (← Go.slice buf 8 12)
  let desiredMinTxInterval ← Go.uint32 (← Go.slice buf 12 16)
  let requiredMinRxInterval ← Go.uint32 (← Go.slice buf 16 20)
  let requiredMinEchoRxInterval ← Go.uint32 (← Go.slice buf 20 24)
  -- Steps 6 and 7b.
  if myDiscriminator = 0 then Go.fail .zeroMyDiscriminator
  if yourDiscriminator = 0 ∧ state ≠ .down ∧ state ≠ .adminDown then
    Go.fail .zeroYourDiscriminator
  let auth ← if authPresent then do
      let authBytes ← Go.slice buf HeaderSize length.toNat
      some <$> unmarshalAuthSection authBytes
    else pure none
  pure {
    version := version
    diag := diag
    state := state
    poll := poll
    final := final
    controlPlaneIndependent := controlPlaneIndependent
    authPresent := authPresent
    demand := demand
    multipoint := multipoint
    detectMult := detectMult
    length := length
    myDiscriminator := myDiscriminator
    yourDiscriminator := yourDiscriminator
    desiredMinTxInterval := desiredMinTxInterval
    requiredMinRxInterval := requiredMinRxInterval
    requiredMinEchoRxInterval := requiredMinEchoRxInterval
    auth := auth }

end GoBFD
