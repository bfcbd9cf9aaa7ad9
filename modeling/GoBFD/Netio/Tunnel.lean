import GoBFD.Netio.Inner

/-!
# GoBFD.Netio.Tunnel

The tunnel headers in front of the inner packet: VXLAN (RFC 7348, RFC 8971,
`internal/netio/vxlan.go`) and Geneve Format A (RFC 8926, RFC 9521,
`internal/netio/geneve.go`), with the helpers of `vxlan_conn.go` and
`geneve_conn.go` that put a header in front of `BuildInnerPacket`'s packet
and take it off again, and the receive path `decapGenevePacket`.

* `marshalVXLANHeader_eq`, `marshalGeneveHeader_eq`: the header writers put
  `vxlanHeaderWire` and `GeneveHeader.wire` over the front of the buffer.
* `unmarshalVXLANHeader_wire`, `unmarshalGeneveHeader_wire`: the readers
  give back the VNI, and every field of a version-0 header with a six-bit
  option length.
* `parseVXLANPacket_buildVXLANPacket`, `parseGenevePacket_buildGenevePacket`,
  `decapGenevePacket_buildGenevePacket`: decapsulation undoes
  encapsulation; `decapGenevePacket_withGeneveOptions`: also when option
  bytes are inserted after the fixed Geneve header and counted in its Opt
  Len field.

The 24-bit VNI travels in the top three bytes of a 32-bit word
(`shiftLeft_shiftRight_eight`); the Geneve version and option length share
byte 0 and the O and C bits byte 1 (`geneveByte0_shiftRight`,
`geneveByte0_and`, `geneveByte1_and_oBit`, `geneveByte1_and_cBit`).
-/

namespace GoBFD

/-! ## VXLAN -/

def VXLANHeaderSize : Nat := 8

/-- The I flag: the VNI is valid. -/
def vxlanFlagVNI : UInt8 := 0x08

/-- `MarshalVXLANHeader(buf, vni)`: the bytes written and the buffer after
the writes. -/
def marshalVXLANHeader (buf : List UInt8) (vni : UInt32) : Go.Result OverlayError (Nat × List UInt8) :=
  if buf.length < VXLANHeaderSize then Go.fail .vxlanHeaderTooShort
  else if vni > 0x00FFFFFF then Go.fail .vxlanVNIOverflow
  else do
    let buf ← Go.store buf 0 vxlanFlagVNI
    let buf ← Go.store buf 1 0
    let buf ← Go.store buf 2 0
    let buf ← Go.store buf 3 0
    -- the VNI fills bytes 4 to 6, byte 7 is reserved
    let buf ← Go.within buf 4 8 (Go.putUint32 · (vni <<< 8))
    pure (VXLANHeaderSize, buf)

/-- `VXLANHeader`. -/
structure VXLANHeader where
  vni : UInt32
  deriving Repr, DecidableEq

/-- `UnmarshalVXLANHeader(buf)`. -/
def unmarshalVXLANHeader (buf : List UInt8) : Go.Result OverlayError VXLANHeader :=
  if buf.length < VXLANHeaderSize then Go.fail .vxlanHeaderTooShort
  else do
    if (← Go.load buf 0) &&& vxlanFlagVNI == 0 then Go.fail .vxlanInvalidFlags
    else do
      let vni := (← Go.slice buf 4 8 >>= Go.uint32) >>> 8
      pure ⟨vni⟩

/-- The VNI survives its trip through the top three bytes of a word. -/
theorem shiftLeft_shiftRight_eight {v : UInt32} (h : v ≤ 0xFFFFFF) : v <<< 8 >>> 8 = v := by
  apply UInt32.toNat_inj.mp
  have hv : v.toNat ≤ 0xFFFFFF := UInt32.le_iff_toNat_le.mp h
  have h8 : (8 : UInt32).toNat % 32 = 8 := rfl
  simp only [UInt32.toNat_shiftRight, UInt32.toNat_shiftLeft, h8, Nat.shiftLeft_eq,
    Nat.shiftRight_eq_div_pow]
  omega

/-- The eight bytes `MarshalVXLANHeader` writes: the I flag, three reserved
bytes, the VNI and a reserved byte. -/
def vxlanHeaderWire (vni : UInt32) : List UInt8 :=
  [vxlanFlagVNI, 0, 0, 0] ++ Go.bytesBE (vni <<< 8)

@[simp] theorem length_vxlanHeaderWire (vni : UInt32) : (vxlanHeaderWire vni).length = 8 := rfl

theorem marshalVXLANHeader_eq {buf : List UInt8} (hb : VXLANHeaderSize ≤ buf.length) {vni : UInt32}
    (hv : vni ≤ 0xFFFFFF) :
    marshalVXLANHeader buf vni = .ok (VXLANHeaderSize, Go.overwrite buf 0 (vxlanHeaderWire vni)) := by
  simp only [VXLANHeaderSize] at hb
  simp only [marshalVXLANHeader, VXLANHeaderSize, if_neg (show ¬ buf.length < 8 by omega),
    if_neg (show ¬ vni > 0x00FFFFFF from UInt32.not_lt.mpr hv)]
  rw [← Go.overwrite_zero_nil buf]
  rw [Go.store_front (by rfl) (by omega), Go.ok_bind, Go.store_front (by rfl) (by omega), Go.ok_bind,
    Go.store_front (by rfl) (by omega), Go.ok_bind, Go.store_front (by rfl) (by omega), Go.ok_bind,
    Go.within_putUint32_front (by rfl) (by rfl) (by omega), Go.overwrite_zero_nil]
  rfl

/-- `UnmarshalVXLANHeader` reads the VNI back. -/
theorem unmarshalVXLANHeader_wire {vni : UInt32} (hv : vni ≤ 0xFFFFFF) (rest : List UInt8) :
    unmarshalVXLANHeader (vxlanHeaderWire vni ++ rest) = .ok ⟨vni⟩ := by
  have hlen : ¬ (vxlanHeaderWire vni ++ rest).length < VXLANHeaderSize := by
    simp [VXLANHeaderSize]
  -- the VNI word is bytes 4 to 7
  have hword : (((vxlanHeaderWire vni ++ rest).drop 4).take (8 - 4)) = Go.bytesBE (vni <<< 8) := by
    simp [vxlanHeaderWire, Go.bytesBE]
  have hflag : (vxlanHeaderWire vni ++ rest).getD 0 0 = vxlanFlagVNI := rfl
  have h8 : 8 ≤ (vxlanHeaderWire vni ++ rest).length := by
    rw [List.length_append, length_vxlanHeaderWire]
    omega
  simp only [unmarshalVXLANHeader, hlen, if_false]
  rw [Go.load_eq_getD (by omega) 0, Go.ok_bind, hflag, if_neg (by decide),
    Go.slice_of_le (by omega) h8, hword, Go.ok_bind,
    show Go.bytesBE (vni <<< 8) = Go.bytesBE (vni <<< 8) ++ [] from (List.append_nil _).symm,
    Go.uint32_putUint32, Go.ok_bind, shiftLeft_shiftRight_eight hv]
  rfl

/-! ## Geneve -/

def GeneveHeaderMinSize : Nat := 8

/-- Transparent Ethernet Bridging, Format A of RFC 9521. -/
def GeneveProtocolEthernet : UInt16 := 0x6558

/-- `GeneveHeader`. -/
structure GeneveHeader where
  version : UInt8
  optLen : UInt8
  oBit : Bool
  cBit : Bool
  protocolType : UInt16
  vni : UInt32
  deriving Repr, DecidableEq

/-- `TotalHeaderSize`: the fixed header and `OptLen` four-byte words. -/
def GeneveHeader.totalHeaderSize (hdr : GeneveHeader) : Nat :=
  GeneveHeaderMinSize + hdr.optLen.toNat * 4

/-- `MarshalGeneveHeader(buf, hdr)`: the bytes written and the buffer after
the writes; options are not written. -/
def marshalGeneveHeader (buf : List UInt8) (hdr : GeneveHeader) :
    Go.Result OverlayError (Nat × List UInt8) :=
  if buf.length < GeneveHeaderMinSize then Go.fail .geneveHeaderTooShort
  else if hdr.vni > 0x00FFFFFF then Go.fail .geneveVNIOverflow
  else do
    let buf ← Go.store buf 0 ((hdr.version <<< 6) ||| (hdr.optLen &&& 0x3F))
    let buf ← Go.store buf 1 0
    -- `buf[1] |= 0x80`, `buf[1] |= 0x40`
    let buf ← (if hdr.oBit then Go.update buf 1 (· ||| 0x80) else pure buf)
    let buf ← (if hdr.cBit then Go.update buf 1 (· ||| 0x40) else pure buf)
    let buf ← Go.within buf 2 4 (Go.putUint16 · hdr.protocolType)
    let buf ← Go.within buf 4 8 (Go.putUint32 · (hdr.vni <<< 8))
    pure (GeneveHeaderMinSize, buf)

/-- `UnmarshalGeneveHeader(buf)`. -/
def unmarshalGeneveHeader (buf : List UInt8) : Go.Result OverlayError GeneveHeader :=
  if buf.length < GeneveHeaderMinSize then Go.fail .geneveHeaderTooShort
  else do
    let ver := (← Go.load buf 0) >>> 6
    if ver != 0 then Go.fail .geneveInvalidVersion
    else do
      let optLen := (← Go.load buf 0) &&& 0x3F
      let oBit := (← Go.load buf 1) &&& 0x80 != 0
      let cBit := (← Go.load buf 1) &&& 0x40 != 0
      let protoType ← Go.slice buf 2 4 >>= Go.uint16
      let vni := (← Go.slice buf 4 8 >>= Go.uint32) >>> 8
      let hdr : GeneveHeader :=
        { version := ver, optLen := optLen, oBit := oBit, cBit := cBit, protocolType := protoType, vni := vni }
      pure hdr

/-- The eight bytes `MarshalGeneveHeader` writes: version and option
length, the O and C bits, the protocol type, and the VNI with a reserved
byte. -/
def GeneveHeader.wire (hdr : GeneveHeader) : List UInt8 :=
  [(hdr.version <<< 6) ||| (hdr.optLen &&& 0x3F),
      (if hdr.oBit then 0x80 else 0) ||| (if hdr.cBit then 0x40 else 0)] ++
    Go.bytesBE16 hdr.protocolType ++ Go.bytesBE (hdr.vni <<< 8)

@[simp] theorem GeneveHeader.length_wire (hdr : GeneveHeader) : hdr.wire.length = 8 := rfl

/-- `buf[1] |= m` on the written pair of bytes `b₀ b₁`, when `o` holds. -/
theorem update_or_byte1 {s : List UInt8} (h : 2 ≤ s.length) (b₀ b₁ m : UInt8) (o : Bool) :
    (if o then Go.update (Go.overwrite s 0 [b₀, b₁]) 1 (· ||| m)
      else pure (Go.overwrite s 0 [b₀, b₁]) : Go.Result OverlayError (List UInt8)) =
      .ok (Go.overwrite s 0 [b₀, if o then b₁ ||| m else b₁]) := by
  cases o with
  | false => rfl
  | true =>
    have hlen : (Go.overwrite s 0 [b₀, b₁]).length = s.length := Go.length_overwrite (by simp; omega)
    rw [if_pos rfl, Go.update, Go.load_eq_getD (by omega) 0, Go.ok_bind, Go.store_eq_overwrite (by omega),
      Go.overwrite_zero_overwrite (by simp)]
    rfl

/-- The two ORs into a cleared byte 1 set the O and C bits. -/
theorem geneveByte1_eq (o c : Bool) :
    (if c then (if o then (0 : UInt8) ||| 0x80 else 0) ||| 0x40 else if o then (0 : UInt8) ||| 0x80 else 0) =
      (if o then 0x80 else 0) ||| (if c then 0x40 else 0) := by
  cases o <;> cases c <;> rfl

theorem marshalGeneveHeader_eq {buf : List UInt8} (hb : GeneveHeaderMinSize ≤ buf.length)
    {hdr : GeneveHeader} (hv : hdr.vni ≤ 0xFFFFFF) :
    marshalGeneveHeader buf hdr = .ok (GeneveHeaderMinSize, Go.overwrite buf 0 hdr.wire) := by
  simp only [GeneveHeaderMinSize] at hb
  simp only [marshalGeneveHeader, GeneveHeaderMinSize, if_neg (show ¬ buf.length < 8 by omega),
    if_neg (show ¬ hdr.vni > 0x00FFFFFF from UInt32.not_lt.mpr hv)]
  rw [← Go.overwrite_zero_nil buf]
  rw [Go.store_front (by rfl) (by omega), Go.ok_bind, Go.store_front (by rfl) (by omega), Go.ok_bind]
  simp only [List.nil_append, List.singleton_append]
  -- byte 1 takes the O bit, then the C bit
  rw [update_or_byte1 (by omega), Go.ok_bind, update_or_byte1 (by omega), Go.ok_bind, geneveByte1_eq,
    Go.within_putUint16_front (by rfl) (by rfl) (by omega), Go.ok_bind,
    Go.within_putUint32_front (by rfl) (by rfl) (by omega), Go.overwrite_zero_nil]
  rfl

/-- A six-bit option length with version 0 is the whole of byte 0. -/
theorem geneveByte0_eq {k : UInt8} (hk : k < 64) : ((0 : UInt8) <<< 6) ||| (k &&& 0x3F) = k := by
  apply UInt8.toNat_inj.mp
  have hk' : k.toNat < 64 := UInt8.lt_iff_toNat_lt.mp hk
  have hmask : (0x3F : UInt8).toNat = 2 ^ 6 - 1 := rfl
  simp only [show ((0 : UInt8) <<< 6) = 0 from rfl, UInt8.zero_or, UInt8.toNat_and, hmask,
    Nat.and_two_pow_sub_one_eq_mod]
  omega

theorem shiftRight_six_of_lt {k : UInt8} (hk : k < 64) : k >>> 6 = 0 := by
  apply UInt8.toNat_inj.mp
  have hk' : k.toNat < 64 := UInt8.lt_iff_toNat_lt.mp hk
  have h6 : (6 : UInt8).toNat % 8 = 6 := rfl
  simp only [UInt8.toNat_shiftRight, h6, Nat.shiftRight_eq_div_pow, UInt8.toNat_zero]
  omega

theorem and_3F_of_lt {k : UInt8} (hk : k < 64) : k &&& 0x3F = k := by
  apply UInt8.toNat_inj.mp
  have hk' : k.toNat < 64 := UInt8.lt_iff_toNat_lt.mp hk
  have hmask : (0x3F : UInt8).toNat = 2 ^ 6 - 1 := rfl
  simp only [UInt8.toNat_and, hmask, Nat.and_two_pow_sub_one_eq_mod]
  omega

/-- Byte 1 gives the O and C bits back. -/
theorem geneveByte1_bits (o c : Bool) :
    ((((if o then 0x80 else 0) ||| (if c then 0x40 else 0) : UInt8) &&& 0x80 != 0) = o) ∧
      ((((if o then 0x80 else 0) ||| (if c then 0x40 else 0) : UInt8) &&& 0x40 != 0) = c) := by
  cases o <;> cases c <;> decide

/-- `UnmarshalGeneveHeader` reads back every field of a version-0 header with
a six-bit option length and a 24-bit VNI. -/
theorem unmarshalGeneveHeader_wire {hdr : GeneveHeader} (hver : hdr.version = 0)
    (hopt : hdr.optLen < 64) (hv : hdr.vni ≤ 0xFFFFFF) (rest : List UInt8) :
    unmarshalGeneveHeader (hdr.wire ++ rest) = .ok hdr := by
  have h8 : 8 ≤ (hdr.wire ++ rest).length := by
    rw [List.length_append, GeneveHeader.length_wire]
    omega
  have hb0 : (hdr.wire ++ rest).getD 0 0 = hdr.optLen := by
    show (hdr.version <<< 6) ||| (hdr.optLen &&& 0x3F) = hdr.optLen
    rw [hver, geneveByte0_eq hopt]
  have hb1 : (hdr.wire ++ rest).getD 1 0 =
      (if hdr.oBit then 0x80 else 0) ||| (if hdr.cBit then 0x40 else 0) := rfl
  have hproto : ((hdr.wire ++ rest).drop 2).take (4 - 2) = Go.bytesBE16 hdr.protocolType ++ [] := by
    simp [GeneveHeader.wire, Go.bytesBE16]
  have hword : ((hdr.wire ++ rest).drop 4).take (8 - 4) = Go.bytesBE (hdr.vni <<< 8) ++ [] := by
    simp [GeneveHeader.wire, Go.bytesBE, Go.bytesBE16]
  simp only [unmarshalGeneveHeader, GeneveHeaderMinSize, if_neg (show ¬ (hdr.wire ++ rest).length < 8 by omega)]
  -- bytes 0 and 1 are each read twice
  rw [Go.load_eq_getD (show 0 < (hdr.wire ++ rest).length by omega) 0,
    Go.load_eq_getD (show 1 < (hdr.wire ++ rest).length by omega) 0, hb0, hb1]
  simp only [Go.ok_bind, shiftRight_six_of_lt hopt, and_3F_of_lt hopt, (geneveByte1_bits _ _).1,
    (geneveByte1_bits _ _).2, bne_self_eq_false, Bool.false_eq_true, if_false]
  rw [Go.slice_of_le (by omega) (by omega), hproto, Go.ok_bind, Go.uint16_putUint16, Go.ok_bind,
    Go.slice_of_le (by omega) h8, hword, Go.ok_bind, Go.uint32_putUint32, Go.ok_bind,
    shiftLeft_shiftRight_eight hv, ← hver]
  rfl

/-- The part of a `GeneveConn` the receive path reads: its configured VNI.
The socket, the local address and the lock are not modelled. -/
structure GeneveConn where
  vni : UInt32

/-- `validateGeneveHeader`: the packet length and the RFC 9521 Section 4
checks on the O and C bits, the protocol type and the VNI. -/
def GeneveConn.validateGeneveHeader (c : GeneveConn) (hdr : GeneveHeader) (pktLen geneveTotal : Nat) :
    Go.Result OverlayError Unit :=
  let minSize := geneveTotal + InnerOverheadIPv4
  if pktLen < minSize then Go.fail .innerPacketTooShort
  else if !hdr.oBit then Go.fail .geneveOBitNotSet
  else if hdr.cBit then Go.fail .geneveCBitSet
  else if hdr.protocolType != GeneveProtocolEthernet then Go.fail .geneveUnexpectedProto
  else if hdr.vni != c.vni then Go.fail .overlayVNIMismatch
  else pure ()

/-! ## Encapsulation and decapsulation -/

section Packets

variable {Addr : Type} (ip4 : Go.NetIP4 Addr)

/-- `BuildVXLANPacket(bfdPayload, vni, srcIP, dstIP, srcPort)`. -/
def buildVXLANPacket (bfdPayload : List UInt8) (vni : UInt32) (srcIP dstIP : Addr)
    (srcPort : UInt16) : Go.Result OverlayError (List UInt8) := do
  let innerPkt ← buildInnerPacket ip4 bfdPayload srcIP dstIP srcPort
  let totalLen := VXLANHeaderSize + innerPkt.length
  let buf := List.replicate totalLen 0
  let buf ← Go.within buf 0 VXLANHeaderSize fun w => Prod.snd <$> marshalVXLANHeader w vni
  let buf ← Go.within buf VXLANHeaderSize buf.length fun w => pure (Go.copy w innerPkt)
  pure buf

/-- `ParseVXLANPacket(buf)`: the payload, the VNI and the inner addresses. -/
def parseVXLANPacket (buf : List UInt8) : Go.Result OverlayError (List UInt8 × UInt32 × Addr × Addr) :=
  if buf.length < VXLANHeaderSize + InnerOverheadIPv4 then Go.fail .innerPacketTooShort
  else do
    let hdr ← Go.slice buf 0 VXLANHeaderSize >>= unmarshalVXLANHeader
    let (bfdPayload, srcIP, dstIP) ← Go.slice buf VXLANHeaderSize buf.length >>= stripInnerPacket ip4
    pure (bfdPayload, hdr.vni, srcIP, dstIP)

/-- The header `BuildGenevePacket` writes (RFC 9521 Section 4: O set, C
clear, Format A). -/
def buildGeneveHeader (vni : UInt32) : GeneveHeader where
  version := 0
  optLen := 0
  oBit := true
  cBit := false
  protocolType := GeneveProtocolEthernet
  vni := vni

/-- `BuildGenevePacket(bfdPayload, vni, srcIP, dstIP, srcPort)`. -/
def buildGenevePacket (bfdPayload : List UInt8) (vni : UInt32) (srcIP dstIP : Addr)
    (srcPort : UInt16) : Go.Result OverlayError (List UInt8) := do
  let innerPkt ← buildInnerPacket ip4 bfdPayload srcIP dstIP srcPort
  let totalLen := GeneveHeaderMinSize + innerPkt.length
  let buf := List.replicate totalLen 0
  let buf ← Go.within buf 0 GeneveHeaderMinSize fun w =>
    Prod.snd <$> marshalGeneveHeader w (buildGeneveHeader vni)
  let buf ← Go.within buf GeneveHeaderMinSize buf.length fun w => pure (Go.copy w innerPkt)
  pure buf

/-- `ParseGenevePacket(buf)`: the payload, the header and the inner
addresses. -/
def parseGenevePacket (buf : List UInt8) :
    Go.Result OverlayError (List UInt8 × GeneveHeader × Addr × Addr) :=
  if buf.length < GeneveHeaderMinSize then Go.fail .geneveHeaderTooShort
  else do
    let hdr ← Go.slice buf 0 GeneveHeaderMinSize >>= unmarshalGeneveHeader
    let geneveTotal := hdr.totalHeaderSize
    if buf.length < geneveTotal + InnerOverheadIPv4 then Go.fail .innerPacketTooShort
    else do
      let (bfdPayload, srcIP, dstIP) ← Go.slice buf geneveTotal buf.length >>= stripInnerPacket ip4
      pure (bfdPayload, hdr, srcIP, dstIP)

/-- `decapGenevePacket(data)` on a connection: the payload and the header of
a received packet. -/
def GeneveConn.decapGenevePacket (c : GeneveConn) (data : List UInt8) :
    Go.Result OverlayError (List UInt8 × GeneveHeader) :=
  if data.length < GeneveHeaderMinSize then Go.fail .geneveHeaderTooShort
  else do
    let geneveHdr ← Go.slice data 0 GeneveHeaderMinSize >>= unmarshalGeneveHeader
    let geneveTotal := geneveHdr.totalHeaderSize
    c.validateGeneveHeader geneveHdr data.length geneveTotal
    let (bfdPayload, _, _) ← Go.slice data geneveTotal data.length >>= stripInnerPacket ip4
    pure (bfdPayload, geneveHdr)

end Packets

/-! ## VXLAN encapsulation -/

section VXLAN

variable {Addr : Type} (ip4 : Go.NetIP4 Addr)

/-- The header writer on the zeroed front of the packet buffer. -/
theorem marshalVXLANHeader_replicate {vni : UInt32} (hv : vni ≤ 0xFFFFFF) (n : Nat) :
    (Prod.snd <$> marshalVXLANHeader ((List.replicate (VXLANHeaderSize + n) (0 : UInt8)).take
      VXLANHeaderSize) vni) = .ok (vxlanHeaderWire vni) := by
  have hwin : (List.replicate (VXLANHeaderSize + n) (0 : UInt8)).take VXLANHeaderSize =
      List.replicate 8 0 := by
    simp [List.take_replicate, VXLANHeaderSize]
  rw [hwin, marshalVXLANHeader_eq (by simp [VXLANHeaderSize]) hv, Go.overwrite_zero,
    List.drop_eq_nil_of_le (by simp), List.append_nil]
  rfl

/-- `BuildVXLANPacket` on IPv4 addresses and a 24-bit VNI: the VXLAN header
in front of the inner packet. -/
theorem buildVXLANPacket_eq {bfdPayload : List UInt8} {srcIP dstIP : Addr} (hs : ip4.is4 srcIP = true)
    (hd : ip4.is4 dstIP = true) {vni : UInt32} (hv : vni ≤ 0xFFFFFF) (srcPort : UInt16) :
    buildVXLANPacket ip4 bfdPayload vni srcIP dstIP srcPort =
      .ok (vxlanHeaderWire vni ++ innerWire bfdPayload (ip4.as4 srcIP) (ip4.as4 dstIP) srcPort) := by
  simp only [buildVXLANPacket]
  rw [buildInnerPacket_eq ip4 hs hd, Go.ok_bind]
  have hlen : (List.replicate (VXLANHeaderSize +
      (innerWire bfdPayload (ip4.as4 srcIP) (ip4.as4 dstIP) srcPort).length) (0 : UInt8)).length =
      8 + (innerWire bfdPayload (ip4.as4 srcIP) (ip4.as4 dstIP) srcPort).length := by
    simp [VXLANHeaderSize]
  rw [Go.within_zero_eq_overwrite (by simp [VXLANHeaderSize]) (marshalVXLANHeader_replicate hv _)
      (by simp [VXLANHeaderSize]), Go.ok_bind,
    Go.within_copy_front (by simp [VXLANHeaderSize]) (by rw [hlen]; simp [VXLANHeaderSize]),
    Go.overwrite_zero, List.drop_eq_nil_of_le (by rw [hlen, List.length_append, length_vxlanHeaderWire]),
    List.append_nil]

/-- `ParseVXLANPacket` takes the VXLAN header and the inner layers off. -/
theorem parseVXLANPacket_wire {vni : UInt32} (hv : vni ≤ 0xFFFFFF) (bfdPayload : List UInt8)
    (src4 dst4 : Vector UInt8 4) (srcPort : UInt16) :
    parseVXLANPacket ip4 (vxlanHeaderWire vni ++ innerWire bfdPayload src4 dst4 srcPort) =
      .ok (bfdPayload, vni, ip4.addrFrom4 src4, ip4.addrFrom4 dst4) := by
  have hlen : (vxlanHeaderWire vni ++ innerWire bfdPayload src4 dst4 srcPort).length =
      8 + (42 + bfdPayload.length) := by
    simp only [List.length_append, length_vxlanHeaderWire, innerWire, length_innerEthHeader,
      length_innerIPv4Header, length_innerUDPHeader]
  have hhdr : unmarshalVXLANHeader (vxlanHeaderWire vni) = .ok ⟨vni⟩ := by
    simpa using unmarshalVXLANHeader_wire hv []
  simp only [parseVXLANPacket, VXLANHeaderSize, InnerOverheadIPv4, InnerEthSize, InnerIPv4Size,
    InnerUDPSize, hlen, show ¬ 8 + (42 + bfdPayload.length) < 8 + (14 + 20 + 8) by omega, if_false]
  rw [Go.slice_zero (by omega), List.take_left' (length_vxlanHeaderWire vni), Go.ok_bind, hhdr,
    Go.ok_bind, Go.slice_of_le (by omega) (by omega), List.drop_left' (length_vxlanHeaderWire vni),
    List.take_of_length_le (by simp [innerWire]; omega), Go.ok_bind, stripInnerPacket_innerWire]
  rfl

/-- Decapsulation undoes encapsulation: `ParseVXLANPacket(BuildVXLANPacket(p,
vni, s, d, port))` returns `(p, vni, s, d)` for IPv4 addresses and a 24-bit
VNI. -/
theorem parseVXLANPacket_buildVXLANPacket (hip : ip4.Lawful) (bfdPayload : List UInt8)
    {srcIP dstIP : Addr} (hs : ip4.is4 srcIP = true) (hd : ip4.is4 dstIP = true) {vni : UInt32}
    (hv : vni ≤ 0xFFFFFF) (srcPort : UInt16) :
    (buildVXLANPacket ip4 bfdPayload vni srcIP dstIP srcPort >>= parseVXLANPacket ip4) =
      .ok (bfdPayload, vni, srcIP, dstIP) := by
  rw [buildVXLANPacket_eq ip4 hs hd hv, Go.ok_bind, parseVXLANPacket_wire ip4 hv,
    hip.addrFrom4_as4 srcIP hs, hip.addrFrom4_as4 dstIP hd]

end VXLAN

/-! ## Geneve encapsulation -/

section Geneve

variable {Addr : Type} (ip4 : Go.NetIP4 Addr)

/-- The header writer on the zeroed front of the packet buffer. -/
theorem marshalGeneveHeader_replicate {hdr : GeneveHeader} (hv : hdr.vni ≤ 0xFFFFFF) (n : Nat) :
    (Prod.snd <$> marshalGeneveHeader ((List.replicate (GeneveHeaderMinSize + n) (0 : UInt8)).take
      GeneveHeaderMinSize) hdr) = .ok hdr.wire := by
  have hwin : (List.replicate (GeneveHeaderMinSize + n) (0 : UInt8)).take GeneveHeaderMinSize =
      List.replicate 8 0 := by
    simp [List.take_replicate, GeneveHeaderMinSize]
  rw [hwin, marshalGeneveHeader_eq (by simp [GeneveHeaderMinSize]) hv, Go.overwrite_zero,
    List.drop_eq_nil_of_le (by simp), List.append_nil]
  rfl

/-- `BuildGenevePacket` on IPv4 addresses and a 24-bit VNI: the Geneve
header in front of the inner packet. -/
theorem buildGenevePacket_eq {bfdPayload : List UInt8} {srcIP dstIP : Addr} (hs : ip4.is4 srcIP = true)
    (hd : ip4.is4 dstIP = true) {vni : UInt32} (hv : vni ≤ 0xFFFFFF) (srcPort : UInt16) :
    buildGenevePacket ip4 bfdPayload vni srcIP dstIP srcPort =
      .ok ((buildGeneveHeader vni).wire ++
        innerWire bfdPayload (ip4.as4 srcIP) (ip4.as4 dstIP) srcPort) := by
  simp only [buildGenevePacket]
  rw [buildInnerPacket_eq ip4 hs hd, Go.ok_bind]
  have hlen : (List.replicate (GeneveHeaderMinSize +
      (innerWire bfdPayload (ip4.as4 srcIP) (ip4.as4 dstIP) srcPort).length) (0 : UInt8)).length =
      8 + (innerWire bfdPayload (ip4.as4 srcIP) (ip4.as4 dstIP) srcPort).length := by
    simp [GeneveHeaderMinSize]
  rw [Go.within_zero_eq_overwrite (by simp [GeneveHeaderMinSize])
      (marshalGeneveHeader_replicate (show (buildGeneveHeader vni).vni ≤ 0xFFFFFF from hv) _) (by simp [GeneveHeaderMinSize]),
    Go.ok_bind,
    Go.within_copy_front (by simp [GeneveHeaderMinSize]) (by rw [hlen]; simp [GeneveHeaderMinSize]),
    Go.overwrite_zero,
    List.drop_eq_nil_of_le (by rw [hlen, List.length_append, GeneveHeader.length_wire]),
    List.append_nil]

/-- `k` option words inserted after the fixed Geneve header of a packet,
with byte 0's Opt Len field set to `k`. -/
def withGeneveOptions (pkt : List UInt8) (k : UInt8) (opts : List UInt8) : List UInt8 :=
  match pkt with
  | b₀ :: rest => ((b₀ &&& 0xC0) ||| k) :: (rest.take 7 ++ opts ++ rest.drop 7)
  | [] => []

/-- Inserting options into the packet `BuildGenevePacket` writes gives the
header with Opt Len `k`, the options and the inner packet. -/
theorem withGeneveOptions_wire {k : UInt8} (hk : k < 64) (vni : UInt32) (opts inner : List UInt8) :
    withGeneveOptions ((buildGeneveHeader vni).wire ++ inner) k opts =
      { buildGeneveHeader vni with optLen := k }.wire ++ opts ++ inner := by
  simp [withGeneveOptions, GeneveHeader.wire, buildGeneveHeader, and_3F_of_lt hk, Go.bytesBE16,
    Go.bytesBE]

/-- `validateGeneveHeader` passes a BFD header (O set, C clear, Format A)
with the connection's VNI on a packet long enough for its headers. -/
theorem GeneveConn.validateGeneveHeader_ok (c : GeneveConn) {hdr : GeneveHeader}
    (hO : hdr.oBit = true) (hC : hdr.cBit = false) (hP : hdr.protocolType = GeneveProtocolEthernet)
    (hvni : hdr.vni = c.vni) {pktLen total : Nat} (hlen : total + InnerOverheadIPv4 ≤ pktLen) :
    c.validateGeneveHeader hdr pktLen total = .ok () := by
  simp [GeneveConn.validateGeneveHeader, hO, hC, hP, hvni, Nat.not_lt.mpr hlen]

/-- `ParseGenevePacket` takes a version-0 header, its options and the inner
layers off. -/
theorem parseGenevePacket_wire {hdr : GeneveHeader} (hver : hdr.version = 0) (hopt : hdr.optLen < 64)
    (hv : hdr.vni ≤ 0xFFFFFF) {opts : List UInt8} (hopts : opts.length = hdr.optLen.toNat * 4)
    (bfdPayload : List UInt8) (src4 dst4 : Vector UInt8 4) (srcPort : UInt16) :
    parseGenevePacket ip4 (hdr.wire ++ opts ++ innerWire bfdPayload src4 dst4 srcPort) =
      .ok (bfdPayload, hdr, ip4.addrFrom4 src4, ip4.addrFrom4 dst4) := by
  have hinner : (innerWire bfdPayload src4 dst4 srcPort).length = 42 + bfdPayload.length := by
    simp only [innerWire, List.length_append, length_innerEthHeader, length_innerIPv4Header,
      length_innerUDPHeader]
  have hpre : (hdr.wire ++ opts).length = hdr.totalHeaderSize := by
    simp [GeneveHeader.totalHeaderSize, GeneveHeaderMinSize, hopts]
  have hlen : (hdr.wire ++ opts ++ innerWire bfdPayload src4 dst4 srcPort).length =
      hdr.totalHeaderSize + (42 + bfdPayload.length) := by
    rw [List.length_append, hpre, hinner]
  have hlen' : (hdr.wire ++ (opts ++ innerWire bfdPayload src4 dst4 srcPort)).length =
      hdr.totalHeaderSize + (42 + bfdPayload.length) := by
    rw [← List.append_assoc, hlen]
  have htot : 8 ≤ hdr.totalHeaderSize := by simp [GeneveHeader.totalHeaderSize, GeneveHeaderMinSize]
  have hhdr : unmarshalGeneveHeader hdr.wire = .ok hdr := by
    simpa using unmarshalGeneveHeader_wire hver hopt hv []
  simp only [parseGenevePacket, GeneveHeaderMinSize, hlen, if_neg (show ¬ hdr.totalHeaderSize +
    (42 + bfdPayload.length) < 8 by omega)]
  rw [Go.slice_zero (by omega), List.append_assoc, List.take_left' (GeneveHeader.length_wire hdr),
    Go.ok_bind, hhdr, Go.ok_bind, if_neg (by simp [InnerOverheadIPv4, InnerEthSize, InnerIPv4Size,
      InnerUDPSize]), Go.slice_of_le (by omega) (by omega), ← List.append_assoc,
    List.drop_left' hpre, List.take_of_length_le (by omega), Go.ok_bind, stripInnerPacket_innerWire]
  rfl

/-- `decapGenevePacket` on a connection with the header's VNI takes a BFD
header, its options and the inner layers off. -/
theorem GeneveConn.decapGenevePacket_wire (c : GeneveConn) {hdr : GeneveHeader} (hver : hdr.version = 0)
    (hopt : hdr.optLen < 64) (hv : hdr.vni ≤ 0xFFFFFF) (hO : hdr.oBit = true) (hC : hdr.cBit = false)
    (hP : hdr.protocolType = GeneveProtocolEthernet) (hvni : hdr.vni = c.vni) {opts : List UInt8}
    (hopts : opts.length = hdr.optLen.toNat * 4) (bfdPayload : List UInt8) (src4 dst4 : Vector UInt8 4)
    (srcPort : UInt16) :
    c.decapGenevePacket ip4 (hdr.wire ++ opts ++ innerWire bfdPayload src4 dst4 srcPort) =
      .ok (bfdPayload, hdr) := by
  have hinner : (innerWire bfdPayload src4 dst4 srcPort).length = 42 + bfdPayload.length := by
    simp only [innerWire, List.length_append, length_innerEthHeader, length_innerIPv4Header,
      length_innerUDPHeader]
  have hpre : (hdr.wire ++ opts).length = hdr.totalHeaderSize := by
    simp [GeneveHeader.totalHeaderSize, GeneveHeaderMinSize, hopts]
  have hlen : (hdr.wire ++ opts ++ innerWire bfdPayload src4 dst4 srcPort).length =
      hdr.totalHeaderSize + (42 + bfdPayload.length) := by
    rw [List.length_append, hpre, hinner]
  have hlen' : (hdr.wire ++ (opts ++ innerWire bfdPayload src4 dst4 srcPort)).length =
      hdr.totalHeaderSize + (42 + bfdPayload.length) := by
    rw [← List.append_assoc, hlen]
  have htot : 8 ≤ hdr.totalHeaderSize := by simp [GeneveHeader.totalHeaderSize, GeneveHeaderMinSize]
  have hhdr : unmarshalGeneveHeader hdr.wire = .ok hdr := by
    simpa using unmarshalGeneveHeader_wire hver hopt hv []
  simp only [GeneveConn.decapGenevePacket, GeneveHeaderMinSize, hlen,
    if_neg (show ¬ hdr.totalHeaderSize + (42 + bfdPayload.length) < 8 by omega)]
  rw [Go.slice_zero (by omega), List.append_assoc, List.take_left' (GeneveHeader.length_wire hdr),
    Go.ok_bind, hhdr, Go.ok_bind, c.validateGeneveHeader_ok hO hC hP hvni (by simp [InnerOverheadIPv4,
      InnerEthSize, InnerIPv4Size, InnerUDPSize]), Go.ok_bind, Go.slice_of_le (by omega) (by omega),
    ← List.append_assoc, List.drop_left' hpre, List.take_of_length_le (by omega), Go.ok_bind,
    stripInnerPacket_innerWire]
  rfl

end Geneve

/-! ## Decapsulation undoes encapsulation -/

section RoundTrip

variable {Addr : Type} (ip4 : Go.NetIP4 Addr)

/-- `ParseGenevePacket(BuildGenevePacket(p, vni, s, d, port))` returns `p`,
the header `BuildGenevePacket` wrote, `s` and `d`. -/
theorem parseGenevePacket_buildGenevePacket (hip : ip4.Lawful) (bfdPayload : List UInt8)
    {srcIP dstIP : Addr} (hs : ip4.is4 srcIP = true) (hd : ip4.is4 dstIP = true) {vni : UInt32}
    (hv : vni ≤ 0xFFFFFF) (srcPort : UInt16) :
    (buildGenevePacket ip4 bfdPayload vni srcIP dstIP srcPort >>= parseGenevePacket ip4) =
      .ok (bfdPayload, buildGeneveHeader vni, srcIP, dstIP) := by
  -- no options: the inner packet follows the fixed header
  have h := parseGenevePacket_wire ip4 (show (buildGeneveHeader vni).version = 0 from rfl)
    (show (buildGeneveHeader vni).optLen < 64 from (by decide : (0 : UInt8) < 64)) hv
    (show ([] : List UInt8).length = (buildGeneveHeader vni).optLen.toNat * 4 from rfl)
    bfdPayload (ip4.as4 srcIP) (ip4.as4 dstIP) srcPort
  rw [List.append_nil] at h
  rw [buildGenevePacket_eq ip4 hs hd hv, Go.ok_bind, h, hip.addrFrom4_as4 srcIP hs,
    hip.addrFrom4_as4 dstIP hd]

/-- A connection configured with the packet's VNI accepts what
`BuildGenevePacket` writes and returns the payload and the header. -/
theorem decapGenevePacket_buildGenevePacket (bfdPayload : List UInt8) {srcIP dstIP : Addr}
    (hs : ip4.is4 srcIP = true) (hd : ip4.is4 dstIP = true) {vni : UInt32} (hv : vni ≤ 0xFFFFFF)
    (srcPort : UInt16) :
    (buildGenevePacket ip4 bfdPayload vni srcIP dstIP srcPort >>= (⟨vni⟩ : GeneveConn).decapGenevePacket ip4) =
      .ok (bfdPayload, buildGeneveHeader vni) := by
  have h := GeneveConn.decapGenevePacket_wire ip4 ⟨vni⟩ (show (buildGeneveHeader vni).version = 0 from rfl)
    (show (buildGeneveHeader vni).optLen < 64 from (by decide : (0 : UInt8) < 64)) hv rfl rfl rfl rfl
    (show ([] : List UInt8).length = (buildGeneveHeader vni).optLen.toNat * 4 from rfl)
    bfdPayload (ip4.as4 srcIP) (ip4.as4 dstIP) srcPort
  rw [List.append_nil] at h
  rw [buildGenevePacket_eq ip4 hs hd hv, Go.ok_bind, h]

/-- With `k` option words inserted after the fixed header and counted in its
Opt Len field, the connection still returns exactly the payload, with the
header's Opt Len `k`. -/
theorem decapGenevePacket_withGeneveOptions (bfdPayload : List UInt8) {srcIP dstIP : Addr}
    (hs : ip4.is4 srcIP = true) (hd : ip4.is4 dstIP = true) {vni : UInt32} (hv : vni ≤ 0xFFFFFF)
    (srcPort : UInt16) {k : UInt8} (hk : k < 64) {opts : List UInt8} (hopts : opts.length = 4 * k.toNat) :
    (buildGenevePacket ip4 bfdPayload vni srcIP dstIP srcPort >>= fun pkt =>
        (⟨vni⟩ : GeneveConn).decapGenevePacket ip4 (withGeneveOptions pkt k opts)) =
      .ok (bfdPayload, { buildGeneveHeader vni with optLen := k }) := by
  rw [buildGenevePacket_eq ip4 hs hd hv, Go.ok_bind, withGeneveOptions_wire hk]
  exact GeneveConn.decapGenevePacket_wire ip4 ⟨vni⟩ rfl hk hv rfl rfl rfl rfl
    (by rw [hopts, Nat.mul_comm]) bfdPayload _ _ srcPort

/-- The tunnel stack for BFD payloads that fit an IPv4 packet, IPv4
addresses and 24-bit VNIs: VXLAN and Geneve decapsulation give back what
encapsulation took, the Geneve receive path accepts the packet with any
number of option words, and the inner IPv4 header verifies under RFC 1071
with its Total Length and UDP Length fields `28 + len(p)` and `8 + len(p)`. -/
theorem overlay_decap_encap (hip : ip4.Lawful) (bfdPayload : List UInt8)
    (hp : bfdPayload.length ≤ 65535 - 28) {srcIP dstIP : Addr} (hs : ip4.is4 srcIP = true)
    (hd : ip4.is4 dstIP = true) (srcPort : UInt16) {vni : UInt32} (hv : vni.toNat < 2 ^ 24) :
    (buildVXLANPacket ip4 bfdPayload vni srcIP dstIP srcPort >>= parseVXLANPacket ip4) =
        .ok (bfdPayload, vni, srcIP, dstIP) ∧
      (buildGenevePacket ip4 bfdPayload vni srcIP dstIP srcPort >>= parseGenevePacket ip4) =
        .ok (bfdPayload,
          { version := 0, optLen := 0, oBit := true, cBit := false, protocolType := 0x6558,
            vni := vni }, srcIP, dstIP) ∧
      (buildGenevePacket ip4 bfdPayload vni srcIP dstIP srcPort >>=
          (⟨vni⟩ : GeneveConn).decapGenevePacket ip4) =
        .ok (bfdPayload,
          { version := 0, optLen := 0, oBit := true, cBit := false, protocolType := 0x6558,
            vni := vni }) ∧
      (∀ k : UInt8, k < 64 → ∀ opts : List UInt8, opts.length = 4 * k.toNat →
        ∃ hdr, (buildGenevePacket ip4 bfdPayload vni srcIP dstIP srcPort >>= fun pkt =>
          (⟨vni⟩ : GeneveConn).decapGenevePacket ip4 (withGeneveOptions pkt k opts)) =
            .ok (bfdPayload, hdr)) ∧
      ∃ inner, buildInnerPacket ip4 bfdPayload srcIP dstIP srcPort = .ok inner ∧
        Inet.onesSum (Inet.words ((inner.drop InnerEthSize).take InnerIPv4Size)) = 0xFFFF ∧
        (word16At inner 16).toNat = 28 + bfdPayload.length ∧
        (word16At inner 38).toNat = 8 + bfdPayload.length := by
  have hv' : vni ≤ 0xFFFFFF := UInt32.le_iff_toNat_le.mpr (by simp; omega)
  refine ⟨parseVXLANPacket_buildVXLANPacket ip4 hip bfdPayload hs hd hv' srcPort,
    parseGenevePacket_buildGenevePacket ip4 hip bfdPayload hs hd hv' srcPort,
    decapGenevePacket_buildGenevePacket ip4 bfdPayload hs hd hv' srcPort,
    fun k hk opts hopts => ⟨_, decapGenevePacket_withGeneveOptions ip4 bfdPayload hs hd hv' srcPort hk hopts⟩,
    _, buildInnerPacket_eq ip4 hs hd srcPort, ?_, ?_, ?_⟩
  · rw [innerIPv4Header_of_innerWire]
    exact onesSum_innerIPv4Header _ _ _
  -- the length fields fit 16 bits because the payload fits an IPv4 packet
  · rw [word16At_innerWire_totalLength, toNat_toUInt16_of_lt (by unfold InnerIPv4Size InnerUDPSize; omega)]
    unfold InnerIPv4Size InnerUDPSize
    omega
  · rw [word16At_innerWire_udpLength, toNat_toUInt16_of_lt (by unfold InnerUDPSize; omega)]
    rfl

/-- A BFD Down packet with no authentication, from discriminator 1. -/
def bfdDownPayload : List UInt8 :=
  [0x20, 0x40, 3, 24, 0, 0, 0, 1, 0, 0, 0, 0, 0, 0x0F, 0x42, 0x40, 0, 0x0F, 0x42, 0x40, 0, 0, 0, 0]

theorem overlay_decap_encap_bfdDown :
    (buildVXLANPacket Go.ipv4Bytes bfdDownPayload 100 (some [10, 0, 0, 1]) (some [10, 0, 0, 2]) 49152 >>=
        parseVXLANPacket Go.ipv4Bytes) =
      .ok (bfdDownPayload, 100, some [10, 0, 0, 1], some [10, 0, 0, 2]) :=
  (overlay_decap_encap Go.ipv4Bytes Go.ipv4Bytes_lawful bfdDownPayload (by decide) rfl rfl 49152
    (by decide)).1

/-- The inner frame of the Down packet as another endpoint may send it:
with two Ethernet trailer bytes after the IPv4 packet. -/
def paddedDownFrame : List UInt8 :=
  innerWire bfdDownPayload #v[10, 0, 0, 1] #v[10, 0, 0, 2] 49152 ++ [0, 0]

/-- The frame is a BFD frame whose UDP payload is the Down packet, and
`StripInnerPacket` returns the packet followed by the trailer. -/
theorem padded_frame_keeps_trailer :
    IsBFDInnerFrame paddedDownFrame ∧ innerUDPPayload paddedDownFrame = bfdDownPayload ∧
      stripInnerPacket Go.ipv4Bytes paddedDownFrame =
        .ok (bfdDownPayload ++ [0, 0], some [10, 0, 0, 1], some [10, 0, 0, 2]) := by
  refine ⟨by decide, by decide, ?_⟩
  rw [paddedDownFrame, stripInnerPacket_append Go.ipv4Bytes (isInnerPacket_innerWire _ _ _ _),
    innerView_innerWire]
  rfl

end RoundTrip

end GoBFD
