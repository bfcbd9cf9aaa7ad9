import GoBFD.Packet

/-!
# GoBFD.Packet.Encode

What `MarshalControlPacket` writes.  `ControlPacket.wire` is the byte image
of a packet: the 24 header bytes, then the authentication section when the
A bit is set and a section is attached (`AuthSection.wire`).  The main
result is

* `marshalControlPacket_eq`: for a packet whose section, if written, has a
  type the encoder knows, and a buffer with room for `totalLen` and for the
  image, marshalling succeeds, returns `totalLen`, and leaves the buffer with
  the image written over its front and the rest untouched.

The proofs follow the writers store by store: each write lands right after
the prefix written so far (`Go.store_front`, `Go.within_putUint32_front`,
`Go.within_copy_front`), so a writer comes out as one `Go.overwrite`.
-/

namespace GoBFD

/-! ## The byte image of a packet -/

/-- The auth types `marshalAuthSection` writes (RFC 5880 Sections 4.2 to 4.4). -/
def AuthSection.KnownType (auth : AuthSection) : Prop :=
  auth.type = AuthTypeSimplePassword ∨ auth.type = AuthTypeKeyedMD5 ∨
    auth.type = AuthTypeMeticulousKeyedMD5 ∨ auth.type = AuthTypeKeyedSHA1 ∨
    auth.type = AuthTypeMeticulousKeyedSHA1

instance (auth : AuthSection) : Decidable auth.KnownType :=
  inferInstanceAs (Decidable (_ ∨ _))

/-- The bytes `marshalAuthSection` writes: Type, Len, Key ID and the
password, or Type, Len, Key ID, a zero Reserved byte, the big-endian
sequence number and the digest. -/
def AuthSection.wire (auth : AuthSection) : List UInt8 :=
  if auth.type = AuthTypeSimplePassword then [auth.type, auth.len, auth.keyID] ++ auth.authData
  else [auth.type, auth.len, auth.keyID, 0] ++ Go.bytesBE auth.sequenceNumber ++ auth.digest

/-- The 24 header bytes, with `totalLen` in the Length byte. -/
def ControlPacket.headerWire (pkt : ControlPacket) : List UInt8 :=
  [pkt.versionDiagByte, pkt.flagsByte, pkt.detectMult, UInt8.ofNat pkt.totalLen] ++
    Go.bytesBE pkt.myDiscriminator ++ Go.bytesBE pkt.yourDiscriminator ++
    Go.bytesBE pkt.desiredMinTxInterval ++ Go.bytesBE pkt.requiredMinRxInterval ++
    Go.bytesBE pkt.requiredMinEchoRxInterval

/-- The section `MarshalControlPacket` writes after the header: only when
`AuthPresent && Auth != nil`. -/
def ControlPacket.authWire (pkt : ControlPacket) : List UInt8 :=
  match pkt.authPresent, pkt.auth with
  | true, some auth => auth.wire
  | _, _ => []

/-- The byte image of a packet. -/
def ControlPacket.wire (pkt : ControlPacket) : List UInt8 :=
  pkt.headerWire ++ pkt.authWire

/-- Type, Len and Key ID lead the section in both layouts. -/
@[simp] theorem AuthSection.getD_wire_zero (auth : AuthSection) : auth.wire.getD 0 0 = auth.type := by
  unfold AuthSection.wire
  split <;> rfl

@[simp] theorem AuthSection.getD_wire_one (auth : AuthSection) : auth.wire.getD 1 0 = auth.len := by
  unfold AuthSection.wire
  split <;> rfl

@[simp] theorem AuthSection.getD_wire_two (auth : AuthSection) :
    auth.wire.getD 2 0 = auth.keyID := by
  unfold AuthSection.wire
  split <;> rfl

@[simp] theorem length_headerWire (pkt : ControlPacket) : pkt.headerWire.length = 24 := rfl

theorem length_authWire_simple {auth : AuthSection} (h : auth.type = AuthTypeSimplePassword) :
    auth.wire.length = 3 + auth.authData.length := by
  simp [AuthSection.wire, h]
  omega

theorem length_authWire_hash {auth : AuthSection} (h : auth.type ≠ AuthTypeSimplePassword) :
    auth.wire.length = 8 + auth.digest.length := by
  simp [AuthSection.wire, h]
  omega

/-- The section written depends only on the A bit and the attached section. -/
theorem ControlPacket.authWire_of_some {pkt : ControlPacket} {auth : AuthSection}
    (hA : pkt.authPresent = true) (hs : pkt.auth = some auth) : pkt.authWire = auth.wire := by
  simp [ControlPacket.authWire, hA, hs]

theorem ControlPacket.authWire_of_not {pkt : ControlPacket}
    (h : ¬ (pkt.authPresent = true ∧ pkt.auth.isSome)) : pkt.authWire = [] := by
  unfold ControlPacket.authWire
  split
  · simp_all
  · rfl

theorem ControlPacket.totalLen_of_some {pkt : ControlPacket} {auth : AuthSection}
    (hA : pkt.authPresent = true) (hs : pkt.auth = some auth) :
    pkt.totalLen = HeaderSize + auth.len.toNat := by
  simp [ControlPacket.totalLen, hA, hs]

theorem ControlPacket.totalLen_of_not {pkt : ControlPacket}
    (h : ¬ (pkt.authPresent = true ∧ pkt.auth.isSome)) : pkt.totalLen = HeaderSize := by
  unfold ControlPacket.totalLen
  split
  · simp_all
  · rfl

/-! ## marshalAuthSection -/

section AuthSection

variable {auth : AuthSection} {buf : List UInt8}

/-- The simple-password writer: three stores, then the password copied in. -/
theorem marshalAuthSection_simple (ht : auth.type = AuthTypeSimplePassword)
    (hl : auth.len.toNat ≤ buf.length) (hw : auth.wire.length ≤ buf.length) :
    marshalAuthSection auth buf = .ok (Go.overwrite buf 0 auth.wire) := by
  have hw' := length_authWire_simple ht
  simp only [marshalAuthSection, if_neg (Nat.not_lt.mpr hl), if_pos ht]
  rw [Go.store_eq_overwrite (by omega), Go.ok_bind]
  simp (disch := (try simp only [List.length_append, List.length_cons, List.length_nil,
    Go.length_bytesBE]) <;> omega) only [Go.store_front, Go.within_copy_front, Go.ok_bind]
  simp [AuthSection.wire, ht]

/-- The MD5 and SHA1 writer: four stores, the sequence number, then the
digest copied in. -/
theorem marshalAuthSection_hash (hk : auth.KnownType) (ht : auth.type ≠ AuthTypeSimplePassword)
    (hl : auth.len.toNat ≤ buf.length) (hw : auth.wire.length ≤ buf.length) :
    marshalAuthSection auth buf = .ok (Go.overwrite buf 0 auth.wire) := by
  have hw' := length_authWire_hash ht
  have hhash : auth.type = AuthTypeKeyedMD5 ∨ auth.type = AuthTypeMeticulousKeyedMD5 ∨
      auth.type = AuthTypeKeyedSHA1 ∨ auth.type = AuthTypeMeticulousKeyedSHA1 :=
    hk.resolve_left ht
  simp only [marshalAuthSection, if_neg (Nat.not_lt.mpr hl), if_neg ht, if_pos hhash]
  rw [Go.store_eq_overwrite (by omega), Go.ok_bind]
  simp (disch := (try simp only [List.length_append, List.length_cons, List.length_nil,
    Go.length_bytesBE]) <;> omega) only [Go.store_front, Go.within_putUint32_front,
    Go.within_copy_front, Go.ok_bind]
  simp [AuthSection.wire, ht]

/-- `marshalAuthSection` on a section of a known type, with room for both its
Len and the bytes it writes. -/
theorem marshalAuthSection_eq (hk : auth.KnownType) (hl : auth.len.toNat ≤ buf.length)
    (hw : auth.wire.length ≤ buf.length) :
    marshalAuthSection auth buf = .ok (Go.overwrite buf 0 auth.wire) := by
  by_cases ht : auth.type = AuthTypeSimplePassword
  · exact marshalAuthSection_simple ht hl hw
  · exact marshalAuthSection_hash hk ht hl hw

/-- The section writer run on the tail after a written prefix extends the
prefix by the section's bytes. -/
theorem within_marshalAuthSection {s w : List UInt8} {lo : Nat} (h₁ : lo = w.length)
    (hk : auth.KnownType) (hl : lo + auth.len.toNat ≤ s.length)
    (hw : lo + auth.wire.length ≤ s.length) :
    Go.within (Go.overwrite s 0 w) lo (Go.overwrite s 0 w).length (marshalAuthSection auth) =
      .ok (Go.overwrite s 0 (w ++ auth.wire)) :=
  Go.within_tail_front h₁ hw (marshalAuthSection_eq hk (by simp; omega) (by simp; omega))

end AuthSection

/-! ## MarshalControlPacket -/

section Marshal

variable {pkt : ControlPacket} {buf : List UInt8}

theorem ControlPacket.headerSize_le_totalLen (pkt : ControlPacket) : HeaderSize ≤ pkt.totalLen := by
  unfold ControlPacket.totalLen
  split <;> omega

/-- `MarshalControlPacket` on a packet whose attached section, when it is
written, has a known type, into a buffer with room for `totalLen` and for
the image: it returns `totalLen` and writes the image over the front of the
buffer. -/
theorem marshalControlPacket_eq
    (hk : ∀ auth, pkt.authPresent = true → pkt.auth = some auth → auth.KnownType)
    (hl : pkt.totalLen ≤ buf.length) (hw : pkt.wire.length ≤ buf.length) :
    marshalControlPacket pkt buf = .ok (pkt.totalLen, Go.overwrite buf 0 pkt.wire) := by
  have h24 : 24 ≤ buf.length := by
    simp only [ControlPacket.wire, List.length_append, length_headerWire] at hw
    omega
  simp only [marshalControlPacket, if_neg (Nat.not_lt.mpr hl)]
  rw [Go.store_eq_overwrite (show 0 < buf.length by omega), Go.ok_bind]
  simp -iota (disch := (try simp only [List.length_append, List.length_cons, List.length_nil,
    Go.length_bytesBE]) <;> omega) only [Go.store_front, Go.within_putUint32_front, Go.ok_bind]
  by_cases hsec : pkt.authPresent = true ∧ pkt.auth.isSome
  · -- the section is written on the tail after the 24 header bytes
    obtain ⟨hA, hsome⟩ := hsec
    obtain ⟨auth, hs⟩ := Option.isSome_iff_exists.mp hsome
    have hwire : pkt.wire = pkt.headerWire ++ auth.wire := by
      rw [ControlPacket.wire, ControlPacket.authWire_of_some hA hs]
    have htot := ControlPacket.totalLen_of_some hA hs
    have hkn := hk auth hA hs
    rw [hwire] at hw
    simp only [List.length_append, length_headerWire] at hw
    simp only [HeaderSize] at htot
    simp only [hA, hs]
    rw [within_marshalAuthSection (by simp [HeaderSize]) hkn (by simp [HeaderSize]; omega)
      (by simp [HeaderSize]; omega), Go.ok_bind]
    simp [hwire, ControlPacket.headerWire]
  · -- no section: the image is the header
    have hwire : pkt.wire = pkt.headerWire := by
      rw [ControlPacket.wire, ControlPacket.authWire_of_not hsec, List.append_nil]
    split
    · rename_i hA' hs'
      exact absurd ⟨hA', by simp [hs']⟩ hsec
    · simp [hwire, ControlPacket.headerWire]

/-- Whatever the packet and its section, a `MarshalControlPacket` that
succeeds leaves the header image in front of the buffer: the section, when
there is one, is written after it. -/
theorem marshalControlPacket_take_header {n : Nat} {buf' : List UInt8}
    (h : marshalControlPacket pkt buf = .ok (n, buf')) : buf'.take HeaderSize = pkt.headerWire := by
  have hl : pkt.totalLen ≤ buf.length := by
    by_contra hlt
    rw [marshalControlPacket, if_pos (Nat.lt_of_not_le hlt)] at h
    cases h
  have h24 : 24 ≤ buf.length := le_trans pkt.headerSize_le_totalLen hl
  simp only [marshalControlPacket, if_neg (Nat.not_lt.mpr hl)] at h
  rw [Go.store_eq_overwrite (show 0 < buf.length by omega), Go.ok_bind] at h
  simp -iota (disch := (try simp only [List.length_append, List.length_cons, List.length_nil,
    Go.length_bytesBE]) <;> omega) only [Go.store_front, Go.within_putUint32_front, Go.ok_bind] at h
  -- the 24 bytes written so far are the header image
  have hfront : ∀ W, W = pkt.headerWire → (Go.overwrite buf 0 W).take HeaderSize = pkt.headerWire := by
    intro W hW
    subst hW
    rw [Go.overwrite_zero]
    exact List.take_left' (length_headerWire pkt)
  split at h
  · -- the auth section goes on the tail
    obtain ⟨b, hb, hok⟩ := Go.bind_eq_ok.mp h
    simp only [Go.pure_eq_ok, Except.ok.injEq, Prod.mk.injEq] at hok
    obtain ⟨-, rfl⟩ := hok
    rw [Go.take_of_within hb (le_refl _)]
    exact hfront _ rfl
  · simp only [Go.pure_eq_ok, Except.ok.injEq, Prod.mk.injEq] at h
    obtain ⟨-, rfl⟩ := h
    exact hfront _ rfl

end Marshal

end GoBFD
