import GoBFD.Go.BigEndian
import GoBFD.Go.Stdlib
import GoBFD.Inet.Checksum

/-!
# GoBFD.Netio.Inner

The inner packet of tunnel-encapsulated BFD, as
`internal/netio/overlay_inner.go` builds and strips it (RFC 8971, RFC 9521
Format A): an Ethernet header, an IPv4 header with its RFC 1071 checksum
and a UDP header in front of the BFD payload.

* `toNat_ipv4HeaderChecksum`: `ipv4HeaderChecksum` is the complement of the
  one's complement sum of the header's 16-bit words.
* `buildInnerPacket_eq`: for IPv4 addresses, `BuildInnerPacket` returns
  `innerWire`, the three headers followed by the payload.
* `onesSum_innerIPv4Header`: the IPv4 header it writes verifies: the one's
  complement sum of its words, checksum included, is `0xFFFF`.
* `stripInnerPacket_innerWire`: `StripInnerPacket` returns the payload and
  the two addresses of the packet `BuildInnerPacket` wrote.

The builder fills a zeroed buffer front to back except for the checksum,
which it computes once the addresses are in and writes back into the
header; the proof follows it write by write (`Go.store_front`,
`Go.within_putUint16_front`, `Go.within_copy_window_front`) and takes the
checksum write as a write inside the prefix (`Go.overwrite_zero_overwrite`).
-/

namespace GoBFD

/-! ## Errors and constants -/

/-- The sentinel errors the tunnel functions of `internal/netio` return.
The texts `fmt.Errorf` wraps around them are not modelled. -/
inductive OverlayError where
  | innerPacketTooShort
  | innerBadEtherType
  | innerBadIPVersion
  | innerBadProtocol
  | innerIPv4Only
  | vxlanHeaderTooShort
  | vxlanInvalidFlags
  | vxlanVNIOverflow
  | geneveHeaderTooShort
  | geneveVNIOverflow
  | geneveInvalidVersion
  | geneveOBitNotSet
  | geneveCBitSet
  | geneveUnexpectedProto
  | overlayVNIMismatch
  deriving Repr, DecidableEq

def InnerEthSize : Nat := 14
def InnerIPv4Size : Nat := 20
def InnerUDPSize : Nat := 8
def InnerOverheadIPv4 : Nat := InnerEthSize + InnerIPv4Size + InnerUDPSize

def innerEtherTypeIPv4 : UInt16 := 0x0800
def innerIPv4VersionIHL : UInt8 := 0x45
def innerIPv4Protocol : UInt8 := 17
def innerIPv4TTL : UInt8 := 255
def innerBFDDstPort : UInt16 := 3784

/-- The IANA BFD-for-VXLAN destination MAC (RFC 8971 Section 3.1). -/
def innerDstMAC : Vector UInt8 6 := #v[0x00, 0x52, 0x02, 0x00, 0x00, 0x00]

/-- A locally administered source MAC. -/
def innerSrcMAC : Vector UInt8 6 := #v[0x02, 0x00, 0x00, 0x00, 0x00, 0x01]

/-! ## ipv4HeaderChecksum -/

/-- The first loop of `ipv4HeaderChecksum`: the words `hdr[i:i+2]` for
`i = 0, 2, …` while `i < len(hdr)-1`, added into `sum`. -/
def sumHeaderWords (sum : UInt32) : List UInt8 → UInt32
  | b₀ :: b₁ :: rest => sumHeaderWords (sum + (Go.wordBE16 b₀ b₁).toUInt32) rest
  | _ => sum

/-- One pass of the carry loop takes the carries out of the top half. -/
theorem toNat_foldCarriesStep (sum : UInt32) :
    ((sum &&& (0xFFFF : UInt32)) + (sum >>> 16)).toNat = sum.toNat % 0x10000 + sum.toNat / 0x10000 := by
  have hs := sum.toNat_lt
  have hmask : (0xFFFF : UInt32).toNat = 2 ^ 16 - 1 := rfl
  have h16 : (16 : UInt32).toNat % 32 = 16 := rfl
  rw [UInt32.toNat_add, UInt32.toNat_and, hmask, Nat.and_two_pow_sub_one_eq_mod,
    UInt32.toNat_shiftRight, h16, Nat.shiftRight_eq_div_pow]
  omega

/-- The second loop: `for sum>>16 != 0 { sum = (sum & 0xFFFF) + (sum >> 16) }`. -/
def foldCarries (sum : UInt32) : UInt32 :=
  if sum >>> 16 != 0 then foldCarries ((sum &&& (0xFFFF : UInt32)) + (sum >>> 16)) else sum
termination_by sum.toNat
decreasing_by
  have hne : (sum >>> 16).toNat ≠ 0 := by
    intro h
    simp_all [UInt32.toNat_inj.symm]
  have h16 : (16 : UInt32).toNat % 32 = 16 := rfl
  rw [UInt32.toNat_shiftRight, h16, Nat.shiftRight_eq_div_pow] at hne
  rw [toNat_foldCarriesStep]
  omega

/-- `ipv4HeaderChecksum(hdr)`: the words summed, a last odd byte added as
the high byte of a word, the carries folded back, and the complement. -/
def ipv4HeaderChecksum (hdr : List UInt8) : UInt16 :=
  let sum := sumHeaderWords 0 hdr
  -- `hdr[len(hdr)-1]` is in range whenever the length is odd
  let sum := if hdr.length % 2 != 0 then sum + (hdr.getD (hdr.length - 1) 0).toUInt32 <<< 8 else sum
  ~~~(foldCarries sum).toUInt16

/-- The carry loop leaves the residue of the sum. -/
theorem toNat_foldCarries (sum : UInt32) : (foldCarries sum).toNat = Inet.residue sum.toNat := by
  fun_induction foldCarries sum with
  | case1 sum hc ih =>
    rw [ih, toNat_foldCarriesStep, Inet.residue_mod_add_div]
  | case2 sum hc =>
    -- no carries are left: the sum is a 16-bit value already
    have hz : sum >>> 16 = 0 := by simpa using hc
    have h16 : (16 : UInt32).toNat % 32 = 16 := rfl
    have hlt : sum.toNat < 0x10000 := by
      have h := congrArg UInt32.toNat hz
      rw [UInt32.toNat_shiftRight, h16, Nat.shiftRight_eq_div_pow] at h
      have hs := sum.toNat_lt
      simp only [UInt32.toNat_zero] at h
      omega
    rw [Inet.residue_of_le (by omega)]

/-- The two summing steps of `ipv4HeaderChecksum`, from `sum`, add the
header's words to it, as long as nothing overflows. -/
theorem toNat_headerSum (hdr : List UInt8) (sum : UInt32)
    (h : sum.toNat + (Inet.words hdr).sum < 2 ^ 32) :
    (if hdr.length % 2 != 0 then sumHeaderWords sum hdr + (hdr.getD (hdr.length - 1) 0).toUInt32 <<< 8
      else sumHeaderWords sum hdr).toNat = sum.toNat + (Inet.words hdr).sum := by
  induction hdr using Inet.words.induct generalizing sum with
  | case1 b₀ b₁ rest ih =>
    have hw := Go.toNat_wordBE16 b₀ b₁
    simp only [Inet.words, List.sum_cons] at h
    -- the word of `b₀ b₁` is added without overflow
    have hsum : (sum + (Go.wordBE16 b₀ b₁).toUInt32).toNat = sum.toNat + (b₀.toNat * 0x100 + b₁.toNat) := by
      rw [UInt32.toNat_add, UInt16.toNat_toUInt32, hw]
      omega
    have ih' := ih (sum + (Go.wordBE16 b₀ b₁).toUInt32) (by omega)
    rw [hsum] at ih'
    have hodd : (rest.length % 2 != 0) = ((b₀ :: b₁ :: rest).length % 2 != 0) := by
      simp only [List.length_cons]
      congr 1
      omega
    -- the last byte of the longer header is the last byte of `rest`
    have hlast : (b₀ :: b₁ :: rest).getD ((b₀ :: b₁ :: rest).length - 1) 0 =
        rest.getD (rest.length - 1) 0 ∨ rest = [] := by
      cases rest with
      | nil => exact .inr rfl
      | cons r rs => exact .inl (by simp)
    rcases hlast with hlast | rfl
    · rw [← hodd, hlast, sumHeaderWords, ih']
      simp only [Inet.words, List.sum_cons]
      omega
    · simp only [sumHeaderWords, List.length_cons, List.length_nil, Inet.words, List.sum_cons,
        List.sum_nil, Nat.add_zero]
      rw [if_neg (by decide), hsum]
  | case2 b =>
    have hb := b.toNat_lt
    have h8 : (8 : UInt32).toNat % 32 = 8 := rfl
    simp only [Inet.words, List.sum_cons, List.sum_nil] at h ⊢
    simp only [List.length_singleton, sumHeaderWords, List.getD_cons_zero, Nat.sub_self]
    rw [if_pos (by decide), UInt32.toNat_add, UInt32.toNat_shiftLeft, UInt8.toNat_toUInt32, h8,
      Nat.shiftLeft_eq]
    omega
  | case3 => simp [sumHeaderWords, Inet.words]

/-- The checksum is the complement of the one's complement sum of the
header's words (RFC 1071), for a header whose words sum below `2 ^ 32`. -/
theorem toNat_ipv4HeaderChecksum {hdr : List UInt8} (h : (Inet.words hdr).sum < 2 ^ 32) :
    (ipv4HeaderChecksum hdr).toNat = 0xFFFF - Inet.onesSum (Inet.words hdr) := by
  have hle := Inet.residue_le (Inet.words hdr).sum
  have hs := toNat_headerSum hdr 0 (by simpa using h)
  rw [UInt32.toNat_zero, Nat.zero_add] at hs
  simp only [ipv4HeaderChecksum]
  rw [UInt16.toNat_not, UInt32.toNat_toUInt16, toNat_foldCarries, hs, Inet.onesSum_words,
    Nat.mod_eq_of_lt (by omega)]
  rfl

/-! ## BuildInnerPacket -/

section Build

variable {Addr : Type} (ip4 : Go.NetIP4 Addr)

/-- `BuildInnerPacket(bfdPayload, srcIP, dstIP, srcPort)`. -/
def buildInnerPacket (bfdPayload : List UInt8) (srcIP dstIP : Addr) (srcPort : UInt16) :
    Go.Result OverlayError (List UInt8) :=
  if !ip4.is4 srcIP || !ip4.is4 dstIP then Go.fail .innerIPv4Only
  else do
    let totalLen := InnerOverheadIPv4 + bfdPayload.length
    let buf := List.replicate totalLen 0
    -- inner Ethernet header
    let buf ← Go.within buf 0 6 fun w => pure (Go.copy w innerDstMAC.toList)
    let buf ← Go.within buf 6 12 fun w => pure (Go.copy w innerSrcMAC.toList)
    let buf ← Go.within buf 12 14 (Go.putUint16 · innerEtherTypeIPv4)
    -- inner IPv4 header, checksum zero for now
    let ipOff := InnerEthSize
    let ipPayloadLen := InnerIPv4Size + InnerUDPSize + bfdPayload.length
    let buf ← Go.store buf ipOff innerIPv4VersionIHL
    let buf ← Go.store buf (ipOff + 1) 0
    let buf ← Go.within buf (ipOff + 2) (ipOff + 4) (Go.putUint16 · ipPayloadLen.toUInt16)
    let buf ← Go.within buf (ipOff + 4) (ipOff + 6) (Go.putUint16 · 0)
    let buf ← Go.within buf (ipOff + 6) (ipOff + 8) (Go.putUint16 · 0x4000)
    let buf ← Go.store buf (ipOff + 8) innerIPv4TTL
    let buf ← Go.store buf (ipOff + 9) innerIPv4Protocol
    let buf ← Go.store buf (ipOff + 10) 0
    let buf ← Go.store buf (ipOff + 11) 0
    let src4 := ip4.as4 srcIP
    let buf ← Go.within buf (ipOff + 12) (ipOff + 16) fun w => pure (Go.copy w src4.toList)
    let dst4 := ip4.as4 dstIP
    let buf ← Go.within buf (ipOff + 16) (ipOff + 20) fun w => pure (Go.copy w dst4.toList)
    -- the checksum over the finished header, written back into it
    let hdr ← Go.slice buf ipOff (ipOff + InnerIPv4Size)
    let csum := ipv4HeaderChecksum hdr
    let buf ← Go.within buf (ipOff + 10) (ipOff + 12) (Go.putUint16 · csum)
    -- inner UDP header, checksum zero (RFC 768 over IPv4)
    let udpOff := InnerEthSize + InnerIPv4Size
    let udpLen := InnerUDPSize + bfdPayload.length
    let buf ← Go.within buf udpOff (udpOff + 2) (Go.putUint16 · srcPort)
    let buf ← Go.within buf (udpOff + 2) (udpOff + 4) (Go.putUint16 · innerBFDDstPort)
    let buf ← Go.within buf (udpOff + 4) (udpOff + 6) (Go.putUint16 · udpLen.toUInt16)
    let buf ← Go.within buf (udpOff + 6) (udpOff + 8) (Go.putUint16 · 0)
    let buf ← Go.within buf InnerOverheadIPv4 buf.length fun w => pure (Go.copy w bfdPayload)
    pure buf

/-- The Ethernet header `BuildInnerPacket` writes. -/
def innerEthHeader : List UInt8 :=
  innerDstMAC.toList ++ innerSrcMAC.toList ++ Go.bytesBE16 innerEtherTypeIPv4

/-- The IPv4 header `BuildInnerPacket` writes for a payload of `len` bytes,
with `csum` in the checksum field. -/
def innerIPv4Header (len : Nat) (src4 dst4 : Vector UInt8 4) (csum : UInt16) : List UInt8 :=
  [innerIPv4VersionIHL, 0] ++ Go.bytesBE16 (InnerIPv4Size + InnerUDPSize + len).toUInt16 ++
    Go.bytesBE16 0 ++ Go.bytesBE16 0x4000 ++ [innerIPv4TTL, innerIPv4Protocol] ++
    Go.bytesBE16 csum ++ src4.toList ++ dst4.toList

/-- The UDP header `BuildInnerPacket` writes for a payload of `len` bytes. -/
def innerUDPHeader (len : Nat) (srcPort : UInt16) : List UInt8 :=
  Go.bytesBE16 srcPort ++ Go.bytesBE16 innerBFDDstPort ++
    Go.bytesBE16 (InnerUDPSize + len).toUInt16 ++ Go.bytesBE16 0

/-- The inner packet: the Ethernet header, the IPv4 header carrying the
checksum of itself written with a zero checksum, the UDP header and the
payload. -/
def innerWire (bfdPayload : List UInt8) (src4 dst4 : Vector UInt8 4) (srcPort : UInt16) :
    List UInt8 :=
  innerEthHeader ++
    innerIPv4Header bfdPayload.length src4 dst4
      (ipv4HeaderChecksum (innerIPv4Header bfdPayload.length src4 dst4 0)) ++
    innerUDPHeader bfdPayload.length srcPort ++ bfdPayload

@[simp] theorem length_innerEthHeader : innerEthHeader.length = 14 := rfl

@[simp] theorem length_innerIPv4Header (len : Nat) (src4 dst4 : Vector UInt8 4) (csum : UInt16) :
    (innerIPv4Header len src4 dst4 csum).length = 20 := by
  simp [innerIPv4Header]

@[simp] theorem length_innerUDPHeader (len : Nat) (srcPort : UInt16) :
    (innerUDPHeader len srcPort).length = 8 := rfl

/-- The checksum step of the builder: the header read back from behind the
Ethernet header and its checksum written into it. -/
theorem overwrite_innerIPv4Checksum {W : List UInt8} (len : Nat) (src4 dst4 : Vector UInt8 4)
    (hW : W = innerEthHeader ++ innerIPv4Header len src4 dst4 0) :
    Go.overwrite W (InnerEthSize + 10) (Go.bytesBE16 (ipv4HeaderChecksum
        ((W.drop InnerEthSize).take (InnerEthSize + InnerIPv4Size - InnerEthSize)))) =
      innerEthHeader ++ innerIPv4Header len src4 dst4
        (ipv4HeaderChecksum (innerIPv4Header len src4 dst4 0)) := by
  subst hW
  have hread : ((innerEthHeader ++ innerIPv4Header len src4 dst4 0).drop InnerEthSize).take
      (InnerEthSize + InnerIPv4Size - InnerEthSize) = innerIPv4Header len src4 dst4 0 := by
    have h14 : innerEthHeader.length = InnerEthSize := rfl
    rw [List.drop_left' h14]
    exact List.take_of_length_le (by simp [InnerEthSize, InnerIPv4Size])
  -- the checksum field sits after the first ten bytes of the header
  have hsplit : ∀ csum, innerEthHeader ++ innerIPv4Header len src4 dst4 csum =
      innerEthHeader ++ ([innerIPv4VersionIHL, 0] ++
        Go.bytesBE16 (InnerIPv4Size + InnerUDPSize + len).toUInt16 ++ Go.bytesBE16 0 ++
        Go.bytesBE16 0x4000 ++ [innerIPv4TTL, innerIPv4Protocol]) ++
      Go.bytesBE16 csum ++ (src4.toList ++ dst4.toList) := by
    intro csum
    simp [innerIPv4Header]
  rw [hread, hsplit 0, hsplit]
  exact Go.overwrite_append_middle (by simp [InnerEthSize]) rfl

theorem buildInnerPacket_eq {bfdPayload : List UInt8} {srcIP dstIP : Addr}
    (hs : ip4.is4 srcIP = true) (hd : ip4.is4 dstIP = true) (srcPort : UInt16) :
    buildInnerPacket ip4 bfdPayload srcIP dstIP srcPort =
      .ok (innerWire bfdPayload (ip4.as4 srcIP) (ip4.as4 dstIP) srcPort) := by
  have hguard : (!ip4.is4 srcIP || !ip4.is4 dstIP) = false := by simp [hs, hd]
  simp only [buildInnerPacket, hguard, Bool.false_eq_true, if_false]
  -- the zeroed buffer has room for the headers and the payload
  have hlen : (List.replicate (InnerOverheadIPv4 + bfdPayload.length) (0 : UInt8)).length =
      42 + bfdPayload.length := by
    simp [InnerOverheadIPv4, InnerEthSize, InnerIPv4Size, InnerUDPSize]
  rw [← Go.overwrite_zero_nil (List.replicate _ 0)]
  -- the Ethernet header
  rw [Go.within_copy_window_front (by rfl) (by rfl) (by rw [hlen]; omega), Go.ok_bind,
    Go.within_copy_window_front (by rfl) (by rfl) (by rw [hlen]; omega), Go.ok_bind,
    Go.within_putUint16_front (by rfl) (by rfl) (by rw [hlen]; omega), Go.ok_bind]
  -- the IPv4 header with a zero checksum
  rw [Go.store_front (by rfl) (by simp only [hlen, InnerEthSize]; omega), Go.ok_bind,
    Go.store_front (by rfl) (by simp only [hlen, InnerEthSize]; omega), Go.ok_bind,
    Go.within_putUint16_front (by rfl) (by rfl) (by simp only [hlen, InnerEthSize]; omega), Go.ok_bind,
    Go.within_putUint16_front (by rfl) (by rfl) (by simp only [hlen, InnerEthSize]; omega), Go.ok_bind,
    Go.within_putUint16_front (by rfl) (by rfl) (by simp only [hlen, InnerEthSize]; omega), Go.ok_bind,
    Go.store_front (by rfl) (by simp only [hlen, InnerEthSize]; omega), Go.ok_bind,
    Go.store_front (by rfl) (by simp only [hlen, InnerEthSize]; omega), Go.ok_bind,
    Go.store_front (by rfl) (by simp only [hlen, InnerEthSize]; omega), Go.ok_bind,
    Go.store_front (by rfl) (by simp only [hlen, InnerEthSize]; omega), Go.ok_bind,
    Go.within_copy_window_front (by rfl) (by simp) (by simp only [hlen, InnerEthSize]; omega), Go.ok_bind,
    Go.within_copy_window_front (by simp [InnerEthSize]) (by simp)
      (by simp only [hlen, InnerEthSize]; omega), Go.ok_bind]
  -- the checksum over the header as written, written back into it
  rw [Go.slice_overwrite_zero (by simp) (by simp [InnerEthSize, InnerIPv4Size]) (by simp [hlen]; omega),
    Go.ok_bind, Go.within_putUint16_inside (by rfl) (by simp [InnerEthSize])
      (by simp [hlen]; omega), Go.ok_bind,
    overwrite_innerIPv4Checksum bfdPayload.length (ip4.as4 srcIP) (ip4.as4 dstIP)
      (by simp [innerEthHeader, innerIPv4Header])]
  -- the UDP header and the payload
  rw [Go.within_putUint16_front (by simp [InnerEthSize, InnerIPv4Size]) (by rfl)
      (by simp only [hlen, InnerEthSize, InnerIPv4Size]; omega), Go.ok_bind,
    Go.within_putUint16_front (by simp [InnerEthSize, InnerIPv4Size]) (by rfl)
      (by simp only [hlen, InnerEthSize, InnerIPv4Size]; omega), Go.ok_bind,
    Go.within_putUint16_front (by simp [InnerEthSize, InnerIPv4Size]) (by rfl)
      (by simp only [hlen, InnerEthSize, InnerIPv4Size]; omega), Go.ok_bind,
    Go.within_putUint16_front (by simp [InnerEthSize, InnerIPv4Size]) (by rfl)
      (by simp only [hlen, InnerEthSize, InnerIPv4Size]; omega), Go.ok_bind,
    Go.within_copy_front (by simp [InnerOverheadIPv4, InnerEthSize, InnerIPv4Size, InnerUDPSize])
      (by simp [InnerOverheadIPv4, InnerEthSize, InnerIPv4Size, InnerUDPSize])]
  -- the packet fills the buffer
  rw [Go.overwrite_zero, List.drop_eq_nil_of_le (by simp [hlen]; omega), List.append_nil]
  simp [innerWire, innerUDPHeader]

end Build

/-! ## The header verifies -/

/-- A big-endian 16-bit field is one word of the checksum. -/
theorem words_bytesBE16_append (v : UInt16) (rest : List UInt8) :
    Inet.words (Go.bytesBE16 v ++ rest) = v.toNat :: Inet.words rest := by
  have h := Go.toNat_wordBE16 (v >>> 8).toUInt8 v.toUInt8
  rw [Go.wordBE16_bytesBE16] at h
  simp only [Go.bytesBE16, List.cons_append, List.nil_append, Inet.words, List.cons.injEq, and_true]
  omega

/-- The words of the header add up to those of the header with a zero
checksum, plus the checksum. -/
theorem sum_words_innerIPv4Header (len : Nat) (src4 dst4 : Vector UInt8 4) (csum : UInt16) :
    (Inet.words (innerIPv4Header len src4 dst4 csum)).sum =
      (Inet.words (innerIPv4Header len src4 dst4 0)).sum + csum.toNat := by
  -- the checksum field is the sixth word: ten bytes before it
  obtain ⟨A, B, hA, hsplit⟩ : ∃ A B : List UInt8, A.length % 2 = 0 ∧
      ∀ c, innerIPv4Header len src4 dst4 c = A ++ (Go.bytesBE16 c ++ B) :=
    ⟨[innerIPv4VersionIHL, 0] ++ Go.bytesBE16 (InnerIPv4Size + InnerUDPSize + len).toUInt16 ++
        Go.bytesBE16 0 ++ Go.bytesBE16 0x4000 ++ [innerIPv4TTL, innerIPv4Protocol],
      src4.toList ++ dst4.toList, by simp, fun c => by simp [innerIPv4Header]⟩
  rw [hsplit csum, hsplit 0, Inet.words_append hA, Inet.words_append hA, words_bytesBE16_append,
    words_bytesBE16_append]
  simp only [List.sum_append, List.sum_cons, UInt16.toNat_zero]
  omega

/-- The IPv4 header `BuildInnerPacket` writes verifies under RFC 1071: the
one's complement sum of its ten words, checksum included, is `0xFFFF`. -/
theorem onesSum_innerIPv4Header (len : Nat) (src4 dst4 : Vector UInt8 4) :
    Inet.onesSum (Inet.words (innerIPv4Header len src4 dst4
      (ipv4HeaderChecksum (innerIPv4Header len src4 dst4 0)))) = 0xFFFF := by
  have hb : (Inet.words (innerIPv4Header len src4 dst4 0)).sum < 2 ^ 32 := by
    have h := Inet.sum_words_le (innerIPv4Header len src4 dst4 0)
    rw [length_innerIPv4Header] at h
    omega
  rw [Inet.onesSum_words, sum_words_innerIPv4Header, toNat_ipv4HeaderChecksum hb,
    Inet.onesSum_words, Inet.residue_add_complement]

/-- The IPv4 header sits right after the Ethernet header. -/
theorem innerIPv4Header_of_innerWire (bfdPayload : List UInt8) (src4 dst4 : Vector UInt8 4)
    (srcPort : UInt16) :
    ((innerWire bfdPayload src4 dst4 srcPort).drop InnerEthSize).take InnerIPv4Size =
      innerIPv4Header bfdPayload.length src4 dst4
        (ipv4HeaderChecksum (innerIPv4Header bfdPayload.length src4 dst4 0)) := by
  have h14 : innerEthHeader.length = InnerEthSize := rfl
  have h20 : (innerIPv4Header bfdPayload.length src4 dst4
      (ipv4HeaderChecksum (innerIPv4Header bfdPayload.length src4 dst4 0))).length = InnerIPv4Size :=
    length_innerIPv4Header _ _ _ _
  simp only [innerWire, List.append_assoc]
  rw [List.drop_left' h14, List.take_left' h20]

/-! ## The length fields -/

/-- The big-endian 16-bit field at offset `i`, as
`binary.BigEndian.Uint16(b[i:i+2])` reads it. -/
def word16At (b : List UInt8) (i : Nat) : UInt16 :=
  Go.wordBE16 (b.getD i 0) (b.getD (i + 1) 0)

/-- The byte after a prefix of length `i` is at index `i`. -/
theorem getD_append_cons {pre : List UInt8} {i : Nat} (h : pre.length = i) (a : UInt8)
    (rest : List UInt8) : (pre ++ a :: rest).getD i 0 = a := by
  subst h
  rw [List.getD_append_right _ _ _ _ (Nat.le_refl _), Nat.sub_self, List.getD_cons_zero]

/-- A field written with `PutUint16` reads back. -/
theorem word16At_append_bytesBE16 {pre : List UInt8} {i : Nat} (h : pre.length = i)
    (rest : List UInt8) (v : UInt16) : word16At (pre ++ Go.bytesBE16 v ++ rest) i = v := by
  subst h
  simp only [word16At, Go.bytesBE16, List.append_assoc, List.cons_append, List.nil_append,
    List.getD_append_right _ _ _ _ (Nat.le_refl _), List.getD_append_right _ _ _ _ (Nat.le_succ _),
    Nat.sub_self, Nat.succ_eq_add_one, Nat.add_sub_cancel_left, List.getD_cons_zero,
    List.getD_cons_succ]
  exact Go.wordBE16_bytesBE16 v

/-- The Total Length field of the inner IPv4 header. -/
theorem word16At_innerWire_totalLength (bfdPayload : List UInt8) (src4 dst4 : Vector UInt8 4)
    (srcPort : UInt16) :
    word16At (innerWire bfdPayload src4 dst4 srcPort) 16 =
      (InnerIPv4Size + InnerUDPSize + bfdPayload.length).toUInt16 := by
  have hpre : innerWire bfdPayload src4 dst4 srcPort =
      (innerEthHeader ++ [innerIPv4VersionIHL, 0]) ++
        Go.bytesBE16 (InnerIPv4Size + InnerUDPSize + bfdPayload.length).toUInt16 ++
        (Go.bytesBE16 0 ++ Go.bytesBE16 0x4000 ++ [innerIPv4TTL, innerIPv4Protocol] ++
          Go.bytesBE16 (ipv4HeaderChecksum (innerIPv4Header bfdPayload.length src4 dst4 0)) ++
          src4.toList ++ dst4.toList ++ innerUDPHeader bfdPayload.length srcPort ++ bfdPayload) := by
    simp [innerWire, innerIPv4Header]
  rw [hpre]
  exact word16At_append_bytesBE16 (by simp) _ _

/-- The Length field of the inner UDP header. -/
theorem word16At_innerWire_udpLength (bfdPayload : List UInt8) (src4 dst4 : Vector UInt8 4)
    (srcPort : UInt16) :
    word16At (innerWire bfdPayload src4 dst4 srcPort) 38 = (InnerUDPSize + bfdPayload.length).toUInt16 := by
  have hpre : innerWire bfdPayload src4 dst4 srcPort =
      (innerEthHeader ++ innerIPv4Header bfdPayload.length src4 dst4
          (ipv4HeaderChecksum (innerIPv4Header bfdPayload.length src4 dst4 0)) ++
        Go.bytesBE16 srcPort ++ Go.bytesBE16 innerBFDDstPort) ++
        Go.bytesBE16 (InnerUDPSize + bfdPayload.length).toUInt16 ++ (Go.bytesBE16 0 ++ bfdPayload) := by
    simp only [innerWire, innerUDPHeader, List.append_assoc]
  rw [hpre]
  exact word16At_append_bytesBE16 (by simp) _ _

/-- A length below `2 ^ 16` survives the `uint16` conversion. -/
theorem toNat_toUInt16_of_lt {n : Nat} (h : n < 2 ^ 16) : n.toUInt16.toNat = n := by
  simp only [Nat.toUInt16, UInt16.toNat_ofNat']
  omega

/-! ## StripInnerPacket -/

section Strip

variable {Addr : Type} (ip4 : Go.NetIP4 Addr)

/-- `StripInnerPacket(buf)`: the payload and the inner source and
destination addresses, after checking the length, the EtherType, the IP
version and the IP protocol.  The IPv4 checksum, the UDP checksum and the
TTL are not checked. -/
def stripInnerPacket (buf : List UInt8) : Go.Result OverlayError (List UInt8 × Addr × Addr) :=
  if buf.length < InnerOverheadIPv4 then Go.fail .innerPacketTooShort
  else do
    let etherType ← Go.slice buf 12 14 >>= Go.uint16
    if etherType != innerEtherTypeIPv4 then Go.fail .innerBadEtherType
    else do
      let ipOff := InnerEthSize
      let ipVersion := (← Go.load buf ipOff) >>> 4
      if ipVersion != 4 then Go.fail .innerBadIPVersion
      else do
        let ipProto ← Go.load buf (ipOff + 9)
        if ipProto != innerIPv4Protocol then Go.fail .innerBadProtocol
        else do
          -- `var src4, dst4 [4]byte` filled by `copy`
          let src4 := Go.copyArray (Vector.replicate 4 0) (← Go.slice buf (ipOff + 12) (ipOff + 16))
          let dst4 := Go.copyArray (Vector.replicate 4 0) (← Go.slice buf (ipOff + 16) (ipOff + 20))
          let payload ← Go.slice buf InnerOverheadIPv4 buf.length
          pure (payload, ip4.addrFrom4 src4, ip4.addrFrom4 dst4)

/-- What `StripInnerPacket` accepts: room for the three headers, EtherType
IPv4, IP version 4 and protocol UDP. -/
def IsInnerPacket (buf : List UInt8) : Prop :=
  InnerOverheadIPv4 ≤ buf.length ∧ word16At buf 12 = innerEtherTypeIPv4 ∧
    buf.getD InnerEthSize 0 >>> 4 = 4 ∧ buf.getD (InnerEthSize + 9) 0 = innerIPv4Protocol

instance (buf : List UInt8) : Decidable (IsInnerPacket buf) :=
  inferInstanceAs (Decidable (_ ∧ _))

/-- What `StripInnerPacket` returns: the bytes after the headers and the two
addresses read from the IPv4 header. -/
def innerView (buf : List UInt8) : List UInt8 × Addr × Addr :=
  (buf.drop InnerOverheadIPv4,
    ip4.addrFrom4 (Go.copyArray (Vector.replicate 4 0) ((buf.drop (InnerEthSize + 12)).take 4)),
    ip4.addrFrom4 (Go.copyArray (Vector.replicate 4 0) ((buf.drop (InnerEthSize + 16)).take 4)))

theorem uint16_window {b : List UInt8} {i : Nat} (h : i + 2 ≤ b.length) :
    (Go.uint16 ((b.drop i).take (i + 2 - i)) : Go.Result ε UInt16) = .ok (word16At b i) := by
  rw [Nat.add_sub_cancel_left, List.drop_eq_getElem_cons (by omega),
    List.drop_eq_getElem_cons (by omega)]
  simp only [List.take_succ_cons, List.take_zero, Go.uint16, word16At, List.getD_eq_getElem?_getD,
    List.getElem?_eq_getElem (show i < b.length by omega),
    List.getElem?_eq_getElem (show i + 1 < b.length by omega), Option.getD_some]

/-- With room for the headers, the reads resolve and only the three checks
are left. -/
theorem stripInnerPacket_eq {buf : List UInt8} (hb : InnerOverheadIPv4 ≤ buf.length) :
    stripInnerPacket ip4 buf =
      if word16At buf 12 != innerEtherTypeIPv4 then Go.fail .innerBadEtherType
      else if buf.getD InnerEthSize 0 >>> 4 != 4 then Go.fail .innerBadIPVersion
      else if buf.getD (InnerEthSize + 9) 0 != innerIPv4Protocol then Go.fail .innerBadProtocol
      else .ok (innerView ip4 buf) := by
  simp only [InnerOverheadIPv4, InnerEthSize, InnerIPv4Size, InnerUDPSize] at hb
  simp only [stripInnerPacket, innerView, InnerOverheadIPv4, InnerEthSize, InnerIPv4Size,
    InnerUDPSize, show ¬ buf.length < 14 + 20 + 8 by omega, if_false,
    Go.slice_of_le (show 12 ≤ 14 by omega) (show 14 ≤ buf.length by omega), Go.ok_bind,
    uint16_window (show 12 + 2 ≤ buf.length by omega),
    Go.load_eq_getD (show 14 < buf.length by omega) 0,
    Go.load_eq_getD (show 14 + 9 < buf.length by omega) 0,
    Go.slice_of_le (show 14 + 12 ≤ 14 + 16 by omega) (show 14 + 16 ≤ buf.length by omega),
    Go.slice_of_le (show 14 + 16 ≤ 14 + 20 by omega) (show 14 + 20 ≤ buf.length by omega),
    Go.slice_of_le (show 14 + 20 + 8 ≤ buf.length by omega) (Nat.le_refl _)]
  -- the payload slice runs to the end of the buffer
  rw [List.take_of_length_le (by simp)]
  rfl

/-- `StripInnerPacket` accepts exactly the inner packets, returning their
view, and never panics. -/
theorem stripInnerPacket_decides (buf : List UInt8) :
    Go.Decides (stripInnerPacket ip4 buf) (IsInnerPacket buf) (innerView ip4 buf) := by
  by_cases hb : buf.length < InnerOverheadIPv4
  · rw [show stripInnerPacket ip4 buf = Go.fail .innerPacketTooShort by simp [stripInnerPacket, hb]]
    exact Go.decides_fail (fun hP => absurd hP.1 (by omega)) _
  have hb' : InnerOverheadIPv4 ≤ buf.length := by omega
  rw [stripInnerPacket_eq ip4 hb']
  refine (Go.Decides.guard (fun _ => Go.Decides.guard (fun _ => Go.Decides.guard
    (fun _ => Go.decides_ok trivial rfl) _) _) _).of_iff ?_
  simp [IsInnerPacket, hb']

/-- The packet `BuildInnerPacket` writes passes the checks of
`StripInnerPacket`. -/
theorem isInnerPacket_innerWire (bfdPayload : List UInt8) (src4 dst4 : Vector UInt8 4)
    (srcPort : UInt16) : IsInnerPacket (innerWire bfdPayload src4 dst4 srcPort) := by
  -- the EtherType follows the two MAC addresses
  have hether : innerWire bfdPayload src4 dst4 srcPort =
      (innerDstMAC.toList ++ innerSrcMAC.toList) ++ Go.bytesBE16 innerEtherTypeIPv4 ++
        (innerIPv4Header bfdPayload.length src4 dst4
            (ipv4HeaderChecksum (innerIPv4Header bfdPayload.length src4 dst4 0)) ++
          innerUDPHeader bfdPayload.length srcPort ++ bfdPayload) := by
    simp only [innerWire, innerEthHeader, List.append_assoc]
  -- the version byte opens the IPv4 header and the protocol is its tenth byte
  have hversion : innerWire bfdPayload src4 dst4 srcPort =
      innerEthHeader ++ innerIPv4VersionIHL :: (0 :: (innerIPv4Header bfdPayload.length src4 dst4
          (ipv4HeaderChecksum (innerIPv4Header bfdPayload.length src4 dst4 0))).drop 2 ++
        innerUDPHeader bfdPayload.length srcPort ++ bfdPayload) := by
    simp [innerWire, innerIPv4Header]
  have hproto : innerWire bfdPayload src4 dst4 srcPort =
      (innerEthHeader ++ [innerIPv4VersionIHL, 0] ++
        Go.bytesBE16 (InnerIPv4Size + InnerUDPSize + bfdPayload.length).toUInt16 ++ Go.bytesBE16 0 ++
        Go.bytesBE16 0x4000 ++ [innerIPv4TTL]) ++ innerIPv4Protocol ::
        (Go.bytesBE16 (ipv4HeaderChecksum (innerIPv4Header bfdPayload.length src4 dst4 0)) ++
          src4.toList ++ dst4.toList ++ innerUDPHeader bfdPayload.length srcPort ++ bfdPayload) := by
    simp [innerWire, innerIPv4Header]
  refine ⟨?_, ?_, ?_, ?_⟩
  · simp only [innerWire, List.length_append, length_innerEthHeader, length_innerIPv4Header,
      length_innerUDPHeader, InnerOverheadIPv4, InnerEthSize, InnerIPv4Size, InnerUDPSize]
    omega
  · rw [hether]
    exact word16At_append_bytesBE16 (by simp) _ _
  · rw [hversion, getD_append_cons (by simp [InnerEthSize])]
    decide
  · rw [hproto]
    exact getD_append_cons (by simp [InnerEthSize]) _ _

/-- The view of the packet `BuildInnerPacket` writes: its payload and
addresses. -/
theorem innerView_innerWire (bfdPayload : List UInt8) (src4 dst4 : Vector UInt8 4)
    (srcPort : UInt16) :
    innerView ip4 (innerWire bfdPayload src4 dst4 srcPort) =
      (bfdPayload, ip4.addrFrom4 src4, ip4.addrFrom4 dst4) := by
  -- the addresses end the IPv4 header, the payload follows the UDP header
  obtain ⟨F, U, hF, hU, hsplit⟩ : ∃ F U : List UInt8, F.length = InnerEthSize + 12 ∧
      (F ++ src4.toList ++ dst4.toList ++ U).length = InnerOverheadIPv4 ∧
      innerWire bfdPayload src4 dst4 srcPort = F ++ src4.toList ++ dst4.toList ++ U ++ bfdPayload :=
    ⟨innerEthHeader ++ ([innerIPv4VersionIHL, 0] ++
        Go.bytesBE16 (InnerIPv4Size + InnerUDPSize + bfdPayload.length).toUInt16 ++ Go.bytesBE16 0 ++
        Go.bytesBE16 0x4000 ++ [innerIPv4TTL, innerIPv4Protocol] ++
        Go.bytesBE16 (ipv4HeaderChecksum (innerIPv4Header bfdPayload.length src4 dst4 0))),
      innerUDPHeader bfdPayload.length srcPort, by simp [InnerEthSize],
      by simp [InnerOverheadIPv4, InnerEthSize, InnerIPv4Size, InnerUDPSize],
      by simp [innerWire, innerIPv4Header]⟩
  have hsrc : ((F ++ src4.toList ++ dst4.toList ++ U ++ bfdPayload).drop (InnerEthSize + 12)).take 4 =
      src4.toList := by
    simp only [List.append_assoc]
    rw [List.drop_left' hF, List.take_left' (by simp)]
  have hdst : ((F ++ src4.toList ++ dst4.toList ++ U ++ bfdPayload).drop (InnerEthSize + 16)).take 4 =
      dst4.toList := by
    have h : (F ++ src4.toList).length = InnerEthSize + 16 := by simp [hF]
    simp only [List.append_assoc] at h ⊢
    rw [← List.append_assoc F, List.drop_left' h, List.take_left' (by simp)]
  have hpay : (F ++ src4.toList ++ dst4.toList ++ U ++ bfdPayload).drop InnerOverheadIPv4 =
      bfdPayload :=
    List.drop_left' hU
  rw [hsplit, innerView, hsrc, hdst, hpay, Go.copyArray_toList, Go.copyArray_toList]

/-- `StripInnerPacket` undoes `BuildInnerPacket`'s layers. -/
theorem stripInnerPacket_innerWire (bfdPayload : List UInt8) (src4 dst4 : Vector UInt8 4)
    (srcPort : UInt16) :
    stripInnerPacket ip4 (innerWire bfdPayload src4 dst4 srcPort) =
      .ok (bfdPayload, ip4.addrFrom4 src4, ip4.addrFrom4 dst4) :=
  (stripInnerPacket_decides ip4 _).eq_ok_iff.mpr
    ⟨isInnerPacket_innerWire bfdPayload src4 dst4 srcPort,
      (innerView_innerWire ip4 bfdPayload src4 dst4 srcPort).symm⟩

/-! ## Frames with more than the headers -/

/-- The checks of `StripInnerPacket` read only the first 24 bytes: bytes
after an accepted frame leave it accepted. -/
theorem isInnerPacket_append {f : List UInt8} (hf : IsInnerPacket f) (t : List UInt8) :
    IsInnerPacket (f ++ t) := by
  obtain ⟨hlen, hether, hversion, hproto⟩ := hf
  have hread : ∀ i, i < InnerOverheadIPv4 → (f ++ t).getD i 0 = f.getD i 0 :=
    fun i hi => List.getD_append _ _ _ _ (by omega)
  refine ⟨by simp only [List.length_append]; omega, ?_, ?_, ?_⟩
  · rw [word16At, hread 12 (by decide), hread 13 (by decide)]
    exact hether
  · rw [hread InnerEthSize (by decide)]
    exact hversion
  · rw [hread (InnerEthSize + 9) (by decide)]
    exact hproto

/-- Bytes after the headers, trailer bytes included, all come back as
payload; the addresses are read from the header. -/
theorem innerView_append {f : List UInt8} (hf : InnerOverheadIPv4 ≤ f.length) (t : List UInt8) :
    innerView ip4 (f ++ t) = ((innerView ip4 f).1 ++ t, (innerView ip4 f).2) := by
  have hwin : ∀ i, i + 4 ≤ InnerOverheadIPv4 → ((f ++ t).drop i).take 4 = (f.drop i).take 4 := by
    intro i hi
    rw [List.drop_append_of_le_length (by omega), List.take_append_of_le_length (by simp; omega)]
  simp only [innerView, List.drop_append_of_le_length hf, hwin (InnerEthSize + 12) (by decide),
    hwin (InnerEthSize + 16) (by decide)]

/-- `StripInnerPacket` on an accepted frame followed by any bytes: the
bytes are returned after the payload. -/
theorem stripInnerPacket_append {f : List UInt8} (hf : IsInnerPacket f) (t : List UInt8) :
    stripInnerPacket ip4 (f ++ t) = .ok ((innerView ip4 f).1 ++ t, (innerView ip4 f).2) := by
  rw [← innerView_append ip4 hf.1 t]
  exact (stripInnerPacket_decides ip4 (f ++ t)).eq_ok_iff.mpr ⟨isInnerPacket_append hf t, rfl⟩

end Strip

/-! ## BFD frames from any endpoint -/

/-- The IPv4 header length of a frame, in bytes: four times its IHL. -/
def innerIHLBytes (f : List UInt8) : Nat :=
  4 * (f.getD InnerEthSize 0 &&& 0x0F).toNat

/-- An Ethernet II frame carrying BFD over UDP over IPv4 as any RFC 8971
endpoint may send it: EtherType IPv4, version 4, a header of 5 to 15
words, protocol UDP, a Total Length inside the frame, which may carry
trailer bytes after it, and inside that a UDP header to port 3784 whose
Length covers at least the header. -/
def IsBFDInnerFrame (f : List UInt8) : Prop :=
  word16At f 12 = innerEtherTypeIPv4 ∧ f.getD InnerEthSize 0 >>> 4 = 4 ∧
    InnerIPv4Size ≤ innerIHLBytes f ∧ f.getD (InnerEthSize + 9) 0 = innerIPv4Protocol ∧
    InnerEthSize + (word16At f (InnerEthSize + 2)).toNat ≤ f.length ∧
    word16At f (InnerEthSize + innerIHLBytes f + 2) = innerBFDDstPort ∧
    InnerUDPSize ≤ (word16At f (InnerEthSize + innerIHLBytes f + 4)).toNat ∧
    innerIHLBytes f + (word16At f (InnerEthSize + innerIHLBytes f + 4)).toNat ≤
      (word16At f (InnerEthSize + 2)).toNat

instance (f : List UInt8) : Decidable (IsBFDInnerFrame f) :=
  inferInstanceAs (Decidable (_ ∧ _))

/-- The UDP payload of such a frame: after the IPv4 header of IHL words and
the UDP header, as many bytes as the UDP Length gives. -/
def innerUDPPayload (f : List UInt8) : List UInt8 :=
  (f.drop (InnerEthSize + innerIHLBytes f + InnerUDPSize)).take
    ((word16At f (InnerEthSize + innerIHLBytes f + 4)).toNat - InnerUDPSize)

end GoBFD
