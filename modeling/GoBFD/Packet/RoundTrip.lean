import GoBFD.Packet.Encode
import GoBFD.Packet.Decode
import Mathlib.Data.FinEnum
import Mathlib.Data.List.GetD

/-!
# GoBFD.Packet.RoundTrip

The codec's two round trips.

* `unmarshal_marshal`: a well-formed packet (the RFC 5880 Section 6.8.6
  checks, and an auth section of one of the three layouts with matching
  lengths) survives `MarshalControlPacket` followed by
  `UnmarshalControlPacket` of the bytes written, with Length set to the
  bytes written.
* `marshal_unmarshal`: any packet the decoder accepts re-encodes to the bytes
  it came from, up to two normalisations: the Length byte becomes the length
  the encoder writes, and a hash section's Reserved byte becomes zero.

Both go through the byte image `ControlPacket.wire` of `Encode` and the
views `headerOf`, `authView` of `Decode`: decoding an image gives the packet
back (`packetView_wire`), and the image of a decoded packet is the
normalised input (`wire_packetView`).
-/

namespace GoBFD

/-! ## Bytes 0 and 1 -/

/-- Byte 0 of a version 1 packet with a 5-bit diagnostic decodes to both. -/
theorem versionDiagByte_decode {pkt : ControlPacket} (hv : pkt.version = Version)
    (hd : pkt.diag < 32) :
    pkt.versionDiagByte >>> 5 = Version ∧ pkt.versionDiagByte &&& 0x1F = pkt.diag := by
  simp only [ControlPacket.versionDiagByte, hv, Version]
  revert hd
  generalize pkt.diag = d
  revert d
  decide +kernel

/-- Byte 1 decodes to the state and the six flags it was built from. -/
theorem flagsByte_decode (pkt : ControlPacket) :
    State.ofUInt8 (pkt.flagsByte >>> 6) = pkt.state ∧
      (pkt.flagsByte &&& ((1 : UInt8) <<< 5) != 0) = pkt.poll ∧
      (pkt.flagsByte &&& ((1 : UInt8) <<< 4) != 0) = pkt.final ∧
      (pkt.flagsByte &&& ((1 : UInt8) <<< 3) != 0) = pkt.controlPlaneIndependent ∧
      (pkt.flagsByte &&& ((1 : UInt8) <<< 2) != 0) = pkt.authPresent ∧
      (pkt.flagsByte &&& ((1 : UInt8) <<< 1) != 0) = pkt.demand ∧
      (pkt.flagsByte &&& ((1 : UInt8) <<< 0) != 0) = pkt.multipoint := by
  obtain ⟨_, _, s, p, f, c, a, d, m, _⟩ := pkt
  simp only [ControlPacket.flagsByte]
  cases s <;> revert p f c a d m <;> decide +kernel

/-- Byte 0 is re-encoded from its decoded fields. -/
theorem versionDiagByte_headerOf (b : List UInt8) :
    (headerOf b).versionDiagByte = b.getD 0 0 := by
  simp only [ControlPacket.versionDiagByte, headerOf]
  generalize b.getD 0 0 = x
  revert x
  decide +kernel

/-- Every value of byte 1 is re-encoded from the fields it decodes to. -/
theorem flagsByte_reencode : ∀ x : UInt8,
    ControlPacket.flagsByte {
      state := State.ofUInt8 (x >>> 6)
      poll := x &&& ((1 : UInt8) <<< 5) != 0
      final := x &&& ((1 : UInt8) <<< 4) != 0
      controlPlaneIndependent := x &&& ((1 : UInt8) <<< 3) != 0
      authPresent := x &&& ((1 : UInt8) <<< 2) != 0
      demand := x &&& ((1 : UInt8) <<< 1) != 0
      multipoint := x &&& ((1 : UInt8) <<< 0) != 0 } = x := by
  decide +kernel

/-- Byte 1 is re-encoded from its decoded fields. -/
theorem flagsByte_headerOf (b : List UInt8) : (headerOf b).flagsByte = b.getD 1 0 :=
  flagsByte_reencode (b.getD 1 0)

/-! ## Reading back the words -/

/-- A word written after `pre` is read back at offset `pre.length`. -/
theorem wordAt_append_bytesBE (pre rest : List UInt8) (v : UInt32) :
    wordAt (pre ++ Go.bytesBE v ++ rest) pre.length = v := by
  have hread : ∀ k, k < 4 →
      (pre ++ Go.bytesBE v ++ rest).getD (pre.length + k) 0 = (Go.bytesBE v).getD k 0 := by
    intro k hk
    rw [List.append_assoc, List.getD_append_right _ _ _ _ (by omega), Nat.add_sub_cancel_left,
      List.getD_append _ _ _ _ (by simp; omega)]
  simp only [wordAt]
  rw [← Nat.add_zero pre.length, hread 0 (by omega), hread 1 (by omega), hread 2 (by omega),
    hread 3 (by omega)]
  exact Go.wordBE_bytesBE v

/-! ## Well-formed packets -/

/-- The three auth section layouts (RFC 5880 Sections 4.2 to 4.4) with
matching lengths: a 1 to 16 byte password, or a 16-byte MD5 or 20-byte SHA1
digest, with the fields of the other layouts at their zero values. -/
def AuthSection.WellFormed (auth : AuthSection) : Prop :=
  (auth.type = AuthTypeSimplePassword ∧ auth.len.toNat = 3 + auth.authData.length ∧
      1 ≤ auth.authData.length ∧ auth.authData.length ≤ 16 ∧ auth.sequenceNumber = 0 ∧
      auth.digest = []) ∨
    ((auth.type = AuthTypeKeyedMD5 ∨ auth.type = AuthTypeMeticulousKeyedMD5) ∧
      auth.len = authLenMD5 ∧ auth.digest.length = md5DigestSize ∧ auth.authData = []) ∨
    ((auth.type = AuthTypeKeyedSHA1 ∨ auth.type = AuthTypeMeticulousKeyedSHA1) ∧
      auth.len = authLenSHA1 ∧ auth.digest.length = sha1DigestSize ∧ auth.authData = [])

/-- A packet that passes the RFC 5880 Section 6.8.6 checks, with the A bit
set exactly when a well-formed section is attached. -/
structure ControlPacket.WellFormed (pkt : ControlPacket) : Prop where
  version : pkt.version = Version
  diag : pkt.diag < 32
  detectMult : pkt.detectMult ≠ 0
  multipoint : pkt.multipoint = false
  myDiscriminator : pkt.myDiscriminator ≠ 0
  yourDiscriminator : pkt.yourDiscriminator ≠ 0 ∨ pkt.state = .down ∨ pkt.state = .adminDown
  authPresent : pkt.authPresent = pkt.auth.isSome
  auth : ∀ auth, pkt.auth = some auth → auth.WellFormed

section AuthSection

variable {auth : AuthSection}

theorem AuthSection.WellFormed.knownType (h : auth.WellFormed) : auth.KnownType := by
  rcases h with ⟨ht, -⟩ | ⟨ht | ht, -⟩ | ⟨ht | ht, -⟩ <;> simp [AuthSection.KnownType, ht]

theorem AuthSection.WellFormed.length_wire (h : auth.WellFormed) :
    auth.wire.length = auth.len.toNat := by
  rcases h with ⟨ht, hl, -⟩ | ⟨ht, hl, hd, -⟩ | ⟨ht, hl, hd, -⟩
  · rw [length_authWire_simple ht, hl]
  all_goals
    rw [length_authWire_hash (by rcases ht with ht | ht <;> rw [ht] <;> decide), hl, hd]
    rfl

theorem AuthSection.WellFormed.type_ne (h : auth.WellFormed)
    (hd : auth.type ≠ AuthTypeSimplePassword) :
    ((auth.type = AuthTypeKeyedMD5 ∨ auth.type = AuthTypeMeticulousKeyedMD5) ∧
      auth.len = authLenMD5 ∧ auth.digest.length = md5DigestSize ∧ auth.authData = []) ∨
    ((auth.type = AuthTypeKeyedSHA1 ∨ auth.type = AuthTypeMeticulousKeyedSHA1) ∧
      auth.len = authLenSHA1 ∧ auth.digest.length = sha1DigestSize ∧ auth.authData = []) :=
  h.resolve_left fun h' => hd h'.1

theorem AuthSection.WellFormed.four_le_len (h : auth.WellFormed) : 4 ≤ auth.len.toNat := by
  rcases h with ⟨-, hl, h1, -⟩ | ⟨-, hl, -⟩ | ⟨-, hl, -⟩
  · omega
  all_goals rw [hl]; decide

/-- The bytes of a well-formed section are in the section grammar. -/
theorem AuthSection.WellFormed.isAuthSection (h : auth.WellFormed) : IsAuthSection auth.wire := by
  have hlen := h.length_wire
  simp only [IsAuthSection, AuthSection.getD_wire_zero, AuthSection.getD_wire_one, hlen]
  rcases h with ⟨ht, hl, h1, h16, -⟩ | ⟨ht, hl, -⟩ | ⟨ht, hl, -⟩
  · exact .inl ⟨ht, by omega, by omega, le_refl _⟩
  · exact .inr (.inl ⟨ht, by rw [hl]; rfl, by rw [hl]; decide⟩)
  · exact .inr (.inr ⟨ht, by rw [hl]; rfl, by rw [hl]; decide⟩)

/-- Decoding the bytes of a well-formed section gives the section. -/
theorem AuthSection.WellFormed.authView_wire (h : auth.WellFormed) : authView auth.wire = auth := by
  by_cases ht : auth.type = AuthTypeSimplePassword
  · obtain ⟨-, hl, -, -, hseq, hdig⟩ := h.resolve_right fun h' => by
      rcases h' with ⟨ht' | ht', -⟩ | ⟨ht' | ht', -⟩ <;> rw [ht'] at ht <;> exact absurd ht (by decide)
    rw [authView_simple (by rw [AuthSection.getD_wire_zero]; exact ht)]
    have hdata : (auth.wire.drop 3).take (auth.len.toNat - 3) = auth.authData := by
      simp [AuthSection.wire, ht, hl]
    rw [AuthSection.getD_wire_zero, AuthSection.getD_wire_one, AuthSection.getD_wire_two, hdata]
    cases auth
    simp_all
  · have hl8 : auth.len.toNat = 8 + auth.digest.length := by
      rw [← h.length_wire, length_authWire_hash ht]
    rw [authView_hash (by rw [AuthSection.getD_wire_zero]; exact ht)
      (by rw [AuthSection.getD_wire_one]; exact hl8)]
    have hseq : wordAt auth.wire 4 = auth.sequenceNumber := by
      simpa [AuthSection.wire, ht] using
        wordAt_append_bytesBE [auth.type, auth.len, auth.keyID, 0] auth.digest auth.sequenceNumber
    have hdig : (auth.wire.drop 8).take auth.digest.length = auth.digest := by
      simp [AuthSection.wire, ht, Go.bytesBE]
    have hdata : auth.authData = [] := by
      rcases h.type_ne ht with ⟨-, -, -, hd⟩ | ⟨-, -, -, hd⟩ <;> exact hd
    rw [AuthSection.getD_wire_zero, AuthSection.getD_wire_one, AuthSection.getD_wire_two, hseq,
      hdig]
    cases auth
    simp_all

end AuthSection

/-! ## Decoding the image of a packet -/

/-- The header bytes decode to the header fields, with Length the written
length. -/
theorem headerOf_wire {pkt : ControlPacket} (hv : pkt.version = Version) (hd : pkt.diag < 32) :
    headerOf pkt.wire = { pkt with length := UInt8.ofNat pkt.totalLen, auth := none } := by
  obtain ⟨hvd, hdd⟩ := versionDiagByte_decode hv hd
  obtain ⟨hs, hpoll, hf, hc, ha, hdem, hm⟩ := flagsByte_decode pkt
  have h0 : pkt.wire.getD 0 0 = pkt.versionDiagByte := rfl
  have h1 : pkt.wire.getD 1 0 = pkt.flagsByte := rfl
  simp only [headerOf, h0, h1, hvd, hdd, hs, hpoll, hf, hc, ha, hdem, hm, ← hv]
  simp [wordAt, ControlPacket.wire, ControlPacket.headerWire, Go.bytesBE, Go.wordBE_bytesBE]

/-- The header reads only the first 24 bytes. -/
theorem headerOf_take {b : List UInt8} {n : Nat} (hn : HeaderSize ≤ n) :
    headerOf (b.take n) = headerOf b := by
  have h24 : 24 ≤ n := hn
  simp (disch := omega) only [headerOf, wordAt, List.getD_eq_getElem?_getD, List.getElem?_take_of_lt]

/-- Bytes that start with the header image of `q`, whatever follows, carry
`q`'s state and discriminator. -/
theorem headerOf_of_take_headerWire {b : List UInt8} {q : ControlPacket}
    (h : b.take HeaderSize = q.headerWire) :
    (headerOf b).state = q.state ∧ (headerOf b).myDiscriminator = q.myDiscriminator := by
  rw [← headerOf_take (le_refl HeaderSize), h]
  exact ⟨(flagsByte_decode q).1, wordAt_append_bytesBE [_, _, _, _] _ _⟩

section Packet

variable {pkt : ControlPacket}

/-- A well-formed packet carries a well-formed section with the A bit, and
none without. -/
theorem ControlPacket.WellFormed.auth_cases (hp : pkt.WellFormed) :
    (∃ auth, pkt.authPresent = true ∧ pkt.auth = some auth ∧ auth.WellFormed) ∨
      (pkt.authPresent = false ∧ pkt.auth = none) := by
  have hA := hp.authPresent
  cases hs : pkt.auth with
  | none => exact .inr ⟨by simpa [hs] using hA, rfl⟩
  | some auth => exact .inl ⟨auth, by simpa [hs] using hA, rfl, hp.auth auth hs⟩

theorem ControlPacket.WellFormed.length_wire (hp : pkt.WellFormed) :
    pkt.wire.length = pkt.totalLen := by
  rcases hp.auth_cases with ⟨auth, hA, hs, ha⟩ | ⟨hA, hs⟩
  · rw [ControlPacket.wire, List.length_append, length_headerWire,
      ControlPacket.authWire_of_some hA hs, ha.length_wire, ControlPacket.totalLen_of_some hA hs]
    rfl
  · rw [ControlPacket.wire, List.length_append, length_headerWire,
      ControlPacket.authWire_of_not (by simp [hA]), ControlPacket.totalLen_of_not (by simp [hA])]
    rfl

/-- The written length fits the Length byte. -/
theorem ControlPacket.WellFormed.totalLen_le (hp : pkt.WellFormed) : pkt.totalLen ≤ 52 := by
  rcases hp.auth_cases with ⟨auth, hA, hs, ha⟩ | ⟨hA, hs⟩
  · rw [ControlPacket.totalLen_of_some hA hs, HeaderSize]
    rcases ha with ⟨-, hl, -, h16, -⟩ | ⟨-, hl, -⟩ | ⟨-, hl, -⟩
    · omega
    all_goals rw [hl]; decide
  · rw [ControlPacket.totalLen_of_not (by simp [hA])]
    decide

/-- The section bytes of the image are the section written. -/
theorem ControlPacket.WellFormed.authBytes_wire (hp : pkt.WellFormed) :
    authBytes pkt.wire = pkt.authWire := by
  have hlen := hp.length_wire
  have h3 : (pkt.wire.getD 3 0).toNat = pkt.totalLen := by
    show (UInt8.ofNat pkt.totalLen).toNat = _
    rw [UInt8.toNat_ofNat_of_lt' (by have := hp.totalLen_le; simp only [UInt8.size]; omega)]
  rw [authBytes, h3, ← hlen, ControlPacket.wire, HeaderSize, List.drop_left' (length_headerWire pkt),
    List.length_append, length_headerWire, Nat.add_sub_cancel_left, List.take_length]

/-- Decoding the image of a well-formed packet gives the packet, with Length
the written length. -/
theorem ControlPacket.WellFormed.packetView_wire (hp : pkt.WellFormed) :
    packetView pkt.wire = { pkt with length := UInt8.ofNat pkt.totalLen } := by
  simp only [packetView, hp.authBytes_wire, headerOf_wire hp.version hp.diag]
  rcases hp.auth_cases with ⟨auth, hA', hs, ha⟩ | ⟨hA', hs⟩
  · rw [if_pos hA', ControlPacket.authWire_of_some hA' hs, ha.authView_wire, ← hs]
  · rw [if_neg (by simp [hA']), ← hs]

/-- The image of a well-formed packet is in the grammar. -/
theorem ControlPacket.WellFormed.isControlPacket_wire (hp : pkt.WellFormed) :
    IsControlPacket pkt.wire := by
  have h24 : 24 ≤ pkt.wire.length := by
    rw [ControlPacket.wire, List.length_append, length_headerWire]
    omega
  rw [isControlPacket_iff h24, hp.authBytes_wire, headerOf_wire hp.version hp.diag]
  dsimp only
  have htot := hp.totalLen_le
  have hlen : (UInt8.ofNat pkt.totalLen).toNat = pkt.totalLen :=
    UInt8.toNat_ofNat_of_lt' (by simp only [UInt8.size]; omega)
  refine ⟨by simp [hp.version], ?_, by rw [hlen, hp.length_wire]; omega, hp.detectMult,
    by simp [hp.multipoint], hp.myDiscriminator, ?_, ?_⟩
  · -- step 2: the written length covers the section
    rw [UInt8.lt_iff_toNat_lt, hlen]
    rcases hp.auth_cases with ⟨auth, hA, hs, ha⟩ | ⟨hA, hs⟩
    · rw [if_pos hA, ControlPacket.totalLen_of_some hA hs, HeaderSize]
      have := ha.four_le_len
      simp [MinPacketSizeWithAuth]
      omega
    · rw [if_neg (by simp [hA]), ControlPacket.totalLen_of_not (by simp [hA])]
      simp [MinPacketSizeNoAuth, HeaderSize]
  · -- step 7b: a zero Your Discriminator comes with Down or AdminDown
    intro hbad
    obtain ⟨hz, hnd, hna⟩ := hbad
    rcases hp.yourDiscriminator with h | h | h
    · exact h hz
    · exact hnd h
    · exact hna h
  · intro hA
    rcases hp.auth_cases with ⟨auth, hA', hs, ha⟩ | ⟨hA', hs⟩
    · rw [ControlPacket.authWire_of_some hA' hs]
      exact ha.isAuthSection
    · simp [hA'] at hA

end Packet

/-! ## Decode undoes encode -/

section WellFormedPacket

variable {pkt : ControlPacket}

/-- A well-formed packet marshals into any buffer with room for it. -/
theorem ControlPacket.WellFormed.marshal_eq (hp : pkt.WellFormed) {buf : List UInt8}
    (hbuf : pkt.totalLen ≤ buf.length) :
    marshalControlPacket pkt buf = .ok (pkt.totalLen, Go.overwrite buf 0 pkt.wire) :=
  marshalControlPacket_eq (fun auth _ hs => (hp.auth auth hs).knownType) hbuf
    (by rw [hp.length_wire]; exact hbuf)

/-- The image of a well-formed packet decodes to the packet, with Length the
written length. -/
theorem ControlPacket.WellFormed.unmarshal_wire (hp : pkt.WellFormed) :
    unmarshalControlPacket pkt.wire = .ok { pkt with length := UInt8.ofNat pkt.totalLen } :=
  (unmarshalControlPacket_decides _).eq_ok_iff.mpr ⟨hp.isControlPacket_wire, hp.packetView_wire.symm⟩

/-- What a marshal call leaves in front of the buffer is the image. -/
theorem ControlPacket.WellFormed.take_overwrite (hp : pkt.WellFormed) (buf : List UInt8) :
    (Go.overwrite buf 0 pkt.wire).take pkt.totalLen = pkt.wire := by
  rw [Go.overwrite_zero, List.take_left' hp.length_wire]

end WellFormedPacket

/-- Marshalling a well-formed packet into any buffer with room for it writes
`totalLen` bytes (24, plus Auth Len with a section), and unmarshalling those
bytes gives the packet back, with Length the number of bytes written. -/
theorem unmarshal_marshal (pkt : ControlPacket) (hp : pkt.WellFormed) (buf : List UInt8)
    (hbuf : pkt.totalLen ≤ buf.length) :
    ∃ out, marshalControlPacket pkt buf = .ok (pkt.totalLen, out) ∧
      unmarshalControlPacket (out.take pkt.totalLen) =
        .ok { pkt with length := UInt8.ofNat pkt.totalLen } := by
  refine ⟨_, hp.marshal_eq hbuf, ?_⟩
  rw [hp.take_overwrite]
  exact hp.unmarshal_wire

/-- An Up packet signed with Keyed MD5. -/
def md5UpPacket : ControlPacket where
  version := 1
  state := .up
  authPresent := true
  detectMult := 3
  myDiscriminator := 7
  yourDiscriminator := 9
  desiredMinTxInterval := 300000
  requiredMinRxInterval := 300000
  auth := some {
    type := AuthTypeKeyedMD5
    len := authLenMD5
    keyID := 1
    sequenceNumber := 42
    digest := List.replicate 16 0xAB }

theorem unmarshal_marshal_md5UpPacket :
    md5UpPacket.WellFormed ∧ md5UpPacket.totalLen ≤ (List.replicate 64 (0 : UInt8)).length ∧
      ∃ out, marshalControlPacket md5UpPacket (List.replicate 64 0) =
          .ok (md5UpPacket.totalLen, out) ∧
        unmarshalControlPacket (out.take md5UpPacket.totalLen) =
          .ok { md5UpPacket with length := UInt8.ofNat md5UpPacket.totalLen } := by
  have hp : md5UpPacket.WellFormed :=
    ⟨rfl, by decide, by decide, rfl, by decide, .inl (by decide), rfl,
      fun auth h => by cases h; exact .inr (.inl ⟨.inl rfl, rfl, rfl, rfl⟩)⟩
  exact ⟨hp, by decide, unmarshal_marshal md5UpPacket hp _ (by decide)⟩

/-! ## Decoded packets are well formed -/

/-- A 5-bit field read from byte 0 is below 32. -/
theorem and_0x1F_lt : ∀ x : UInt8, x &&& 0x1F < 32 := by
  decide +kernel

/-- A section in the grammar decodes to a well-formed section. -/
theorem authView_wellFormed {s : List UInt8} (h : IsAuthSection s) : (authView s).WellFormed := by
  rcases h with ⟨ht, h4, h19, hs⟩ | ⟨ht, hl, hs⟩ | ⟨ht, hl, hs⟩
  · rw [authView_simple ht]
    refine .inl ⟨ht, ?_, ?_, ?_, rfl, rfl⟩ <;> simp only [List.length_take, List.length_drop] <;>
      omega
  · have hne : s.getD 0 0 ≠ AuthTypeSimplePassword := by
      rcases ht with ht | ht <;> rw [ht] <;> decide
    rw [authView_hash hne (show (s.getD 1 0).toNat = 8 + 16 by rw [hl])]
    refine .inr (.inl ⟨ht, ?_, ?_, rfl⟩)
    · exact UInt8.toNat_inj.mp hl
    · simp only [List.length_take, List.length_drop, md5DigestSize]
      omega
  · have hne : s.getD 0 0 ≠ AuthTypeSimplePassword := by
      rcases ht with ht | ht <;> rw [ht] <;> decide
    rw [authView_hash hne (show (s.getD 1 0).toNat = 8 + 20 by rw [hl])]
    refine .inr (.inr ⟨ht, ?_, ?_, rfl⟩)
    · exact UInt8.toNat_inj.mp hl
    · simp only [List.length_take, List.length_drop, sha1DigestSize]
      omega

/-- Every packet the decoder returns is well formed. -/
theorem packetView_wellFormed {b : List UInt8} (hb : IsControlPacket b) :
    (packetView b).WellFormed := by
  have h24 := hb.1
  obtain ⟨hv, -, -, hdm, hm, hmy, hyour, hauth⟩ := (isControlPacket_iff h24).mp hb
  refine ⟨not_not.mp hv, and_0x1F_lt _, hdm, by simpa [packetView] using hm, hmy, ?_, ?_, ?_⟩
  · -- step 7b read the other way
    by_cases hz : (headerOf b).yourDiscriminator = 0
    · by_cases hd : (headerOf b).state = .down
      · exact .inr (.inl hd)
      · exact .inr (.inr (by_contra fun ha => hyour ⟨hz, hd, ha⟩))
    · exact .inl hz
  · simp only [packetView]
    split <;> simp_all
  · intro auth hs
    simp only [packetView] at hs
    split at hs
    · cases hs
      exact authView_wellFormed (hauth ‹_›)
    · cases hs

/-! ## Encode undoes decode, up to normalisation -/

section Reencode

variable {b : List UInt8}

/-- Each word of the header re-encodes to its four bytes. -/
theorem bytesBE_wordAt {i : Nat} (h : i + 4 ≤ b.length) :
    Go.bytesBE (wordAt b i) = (b.drop i).take 4 := by
  rw [take_four_drop h, wordAt, Go.bytesBE_wordBE]

/-- The first 24 bytes, as the header's four bytes and five words. -/
theorem take_header (hb : 24 ≤ b.length) :
    b.take 24 = [b.getD 0 0, b.getD 1 0, b.getD 2 0, b.getD 3 0] ++ Go.bytesBE (wordAt b 4) ++
      Go.bytesBE (wordAt b 8) ++ Go.bytesBE (wordAt b 12) ++ Go.bytesBE (wordAt b 16) ++
      Go.bytesBE (wordAt b 20) := by
  rw [bytesBE_wordAt (by omega), bytesBE_wordAt (by omega), bytesBE_wordAt (by omega),
    bytesBE_wordAt (by omega), bytesBE_wordAt (by omega), ← take_four_drop (i := 0) (by omega),
    List.drop_zero]
  simp only [← List.take_add, Nat.reduceAdd]

/-- The header of a decoded packet re-encodes to the 24 bytes it came from,
with the written length in byte 3. -/
theorem headerWire_packetView (hb : 24 ≤ b.length) :
    (packetView b).headerWire = (b.take 24).set 3 (UInt8.ofNat (packetView b).totalLen) := by
  have h0 : (packetView b).versionDiagByte = b.getD 0 0 := versionDiagByte_headerOf b
  have h1 : (packetView b).flagsByte = b.getD 1 0 := flagsByte_headerOf b
  rw [take_header hb, ControlPacket.headerWire, h0, h1]
  rfl

/-- A section's first Len bytes, as Type, Len, Key ID and the rest. -/
theorem take_len_simple {s : List UInt8} (h3 : 3 ≤ (s.getD 1 0).toNat)
    (hs : (s.getD 1 0).toNat ≤ s.length) :
    s.take (s.getD 1 0).toNat =
      [s.getD 0 0, s.getD 1 0, s.getD 2 0] ++ (s.drop 3).take ((s.getD 1 0).toNat - 3) := by
  have hfront : s.take 3 = [s.getD 0 0, s.getD 1 0, s.getD 2 0] := by
    calc s.take 3 = (s.drop 0).take 3 := by rw [List.drop_zero]
      _ = [s.getD 0 0, s.getD 1 0, s.getD 2 0] := by
        rw [take_succ_drop (by omega), take_succ_drop (by omega), take_succ_drop (by omega),
          List.take_zero]
  conv_lhs => rw [show (s.getD 1 0).toNat = 3 + ((s.getD 1 0).toNat - 3) by omega]
  rw [List.take_add, hfront]

/-- A hash section's first Len bytes, as Type, Len, Key ID, Reserved, the
sequence number and the digest. -/
theorem take_len_hash {s : List UInt8} (h8 : 8 ≤ (s.getD 1 0).toNat)
    (hs : (s.getD 1 0).toNat ≤ s.length) :
    s.take (s.getD 1 0).toNat =
      [s.getD 0 0, s.getD 1 0, s.getD 2 0, s.getD 3 0] ++ Go.bytesBE (wordAt s 4) ++
        (s.drop 8).take ((s.getD 1 0).toNat - 8) := by
  conv_lhs => rw [show (s.getD 1 0).toNat = 4 + 4 + ((s.getD 1 0).toNat - 8) by omega]
  rw [List.take_add, List.take_add, bytesBE_wordAt (by omega), ← take_four_drop (i := 0) (by omega),
    List.drop_zero]

/-- A section in the grammar re-encodes to its first Len bytes, with the
Reserved byte of a hash section zeroed. -/
theorem wire_authView {s : List UInt8} (h : IsAuthSection s) :
    (authView s).wire =
      if s.getD 0 0 = AuthTypeSimplePassword then s.take (s.getD 1 0).toNat
      else (s.take (s.getD 1 0).toNat).set 3 0 := by
  rcases h with ⟨ht, h4, -, hs⟩ | ⟨ht, hl, hs⟩ | ⟨ht, hl, hs⟩
  · rw [if_pos ht, authView_simple ht, AuthSection.wire, if_pos ht, take_len_simple (by omega) hs]
  all_goals
    have hne : s.getD 0 0 ≠ AuthTypeSimplePassword := by
      rcases ht with ht | ht <;> rw [ht] <;> decide
    rw [if_neg hne, authView_hash hne (Nat.add_sub_of_le (by omega)).symm, AuthSection.wire,
      if_neg hne, take_len_hash (by omega) (by omega)]
    rfl

/-- The decoded section, present exactly with the A bit. -/
theorem packetView_auth (b : List UInt8) :
    (packetView b).auth =
      if (headerOf b).authPresent then some (authView (authBytes b)) else none := rfl

/-- The section bytes the encoder writes are the first Len bytes of the
section the decoder read. -/
theorem take_authBytes (hb : IsControlPacket b) (hA : (headerOf b).authPresent = true) :
    (b.drop 24).take ((authView (authBytes b)).len.toNat) =
      (authBytes b).take ((authBytes b).getD 1 0).toNat := by
  have hs := ((isControlPacket_iff hb.1).mp hb).2.2.2.2.2.2.2 hA
  have hlen : ((authBytes b).getD 1 0).toNat ≤ (authBytes b).length := by
    rcases hs with ⟨-, -, -, h⟩ | ⟨-, h, h'⟩ | ⟨-, h, h'⟩ <;> omega
  have hview : (authView (authBytes b)).len = (authBytes b).getD 1 0 := by
    simp only [authView]
    split <;> rfl
  rw [hview]
  generalize ((authBytes b).getD 1 0).toNat = len at hlen ⊢
  simp only [authBytes, HeaderSize, List.length_take, List.length_drop] at hlen ⊢
  rw [List.take_take]
  congr 1
  omega

/-- The image of a decoded packet is its first `totalLen` input bytes, with
the written length in byte 3 and, for a hash section, a zero Reserved byte
(byte 27). -/
theorem wire_packetView (hb : IsControlPacket b) :
    (packetView b).wire =
      let n := (packetView b).totalLen
      let w := (b.take n).set 3 (UInt8.ofNat n)
      if (packetView b).auth.any (fun auth => auth.type != AuthTypeSimplePassword) then w.set 27 0
      else w := by
  have h24 := hb.1
  have htot : 24 ≤ (packetView b).totalLen := by
    unfold ControlPacket.totalLen
    split <;> simp [HeaderSize]
  have hsplit : b.take (packetView b).totalLen =
      b.take 24 ++ (b.drop 24).take ((packetView b).totalLen - 24) := by
    conv_lhs => rw [show (packetView b).totalLen = 24 + ((packetView b).totalLen - 24) by omega]
    rw [List.take_add]
  have hhead : ∀ x : UInt8, ((b.take 24).set 3 x).length = 24 := by
    intro x
    simp
    omega
  dsimp only
  rw [ControlPacket.wire, headerWire_packetView h24, hsplit,
    List.set_append_left _ _ (by simp; omega)]
  by_cases hA : (headerOf b).authPresent = true
  · have hs : (packetView b).auth = some (authView (authBytes b)) := by
      rw [packetView_auth, if_pos hA]
    have hA' : (packetView b).authPresent = true := hA
    have hAs := ((isControlPacket_iff h24).mp hb).2.2.2.2.2.2.2 hA
    have hview : (authView (authBytes b)).type = (authBytes b).getD 0 0 := by
      simp only [authView]
      split <;> rfl
    rw [ControlPacket.authWire_of_some hA' hs, wire_authView hAs, ControlPacket.totalLen_of_some hA' hs,
      HeaderSize, Nat.add_sub_cancel_left, take_authBytes hb hA, hs]
    by_cases ht : (authBytes b).getD 0 0 = AuthTypeSimplePassword
    · rw [if_pos ht, if_neg (by simp only [Option.any_some, hview, ht, bne_self_eq_false,
        Bool.false_eq_true, not_false_eq_true])]
    · rw [if_neg ht, if_pos (by simp only [Option.any_some, hview, bne_iff_ne, ne_eq, ht,
        not_false_eq_true]), List.set_append_right _ _ (by rw [hhead]; omega), hhead]
  · have hs : (packetView b).auth = none := by
      rw [packetView_auth, if_neg hA]
    rw [ControlPacket.authWire_of_not (by simp [hs]), ControlPacket.totalLen_of_not (by simp [hs]),
      hs]
    simp [HeaderSize]

end Reencode

/-- What the decoder accepts is well formed. -/
theorem wellFormed_of_unmarshal {b : List UInt8} {pkt : ControlPacket}
    (h : unmarshalControlPacket b = .ok pkt) : pkt.WellFormed := by
  obtain ⟨hb, rfl⟩ := (unmarshalControlPacket_decides b).eq_ok_iff.mp h
  exact packetView_wellFormed hb

/-- Re-marshalling a packet the decoder accepted, into a `MaxPacketSize`
buffer, succeeds and writes the input's first `totalLen` bytes, except that
byte 3 (Length) becomes `totalLen` and, for an MD5 or SHA1 section, the
Reserved byte 27 becomes zero; decoding those bytes gives the packet again,
with Length normalised. -/
theorem marshal_unmarshal (b : List UInt8) (pkt : ControlPacket)
    (h : unmarshalControlPacket b = .ok pkt) (buf : List UInt8) (hbuf : buf.length = MaxPacketSize) :
    ∃ out, marshalControlPacket pkt buf = .ok (pkt.totalLen, out) ∧
      out.take pkt.totalLen =
        (let n := pkt.totalLen
         let w := (b.take n).set 3 (UInt8.ofNat n)
         if pkt.auth.any (fun auth => auth.type != AuthTypeSimplePassword) then w.set 27 0 else w) ∧
      unmarshalControlPacket (out.take pkt.totalLen) =
        .ok { pkt with length := UInt8.ofNat pkt.totalLen } := by
  obtain ⟨hb, rfl⟩ := (unmarshalControlPacket_decides b).eq_ok_iff.mp h
  have hp := packetView_wellFormed hb
  have hlen : (packetView b).totalLen ≤ buf.length := by
    have := hp.totalLen_le
    rw [hbuf, MaxPacketSize]
    omega
  refine ⟨_, hp.marshal_eq hlen, ?_, ?_⟩
  · rw [hp.take_overwrite, wire_packetView hb]
  · rw [hp.take_overwrite]
    exact hp.unmarshal_wire

/-- A received Keyed MD5 packet whose Reserved byte is not zero. -/
def md5ReservedWire : List UInt8 :=
  [0x20, 0xC4, 3, 48, 0, 0, 0, 7, 0, 0, 0, 9, 0, 0x04, 0x93, 0xE0, 0, 0x04, 0x93, 0xE0,
    0, 0, 0, 0] ++ [2, 24, 1, 0x55, 0, 0, 0, 42] ++ List.replicate 16 0xAB

theorem marshal_unmarshal_md5ReservedWire :
    unmarshalControlPacket md5ReservedWire = .ok (packetView md5ReservedWire) ∧
      (List.replicate 64 (0 : UInt8)).length = MaxPacketSize ∧
      ∃ out, marshalControlPacket (packetView md5ReservedWire) (List.replicate 64 0) =
          .ok ((packetView md5ReservedWire).totalLen, out) ∧
        out.take (packetView md5ReservedWire).totalLen =
          (let n := (packetView md5ReservedWire).totalLen
           let w := (md5ReservedWire.take n).set 3 (UInt8.ofNat n)
           if (packetView md5ReservedWire).auth.any
               (fun auth => auth.type != AuthTypeSimplePassword) then w.set 27 0
           else w) ∧
        unmarshalControlPacket (out.take (packetView md5ReservedWire).totalLen) =
          .ok { packetView md5ReservedWire with
            length := UInt8.ofNat (packetView md5ReservedWire).totalLen } := by
  have h : unmarshalControlPacket md5ReservedWire = .ok (packetView md5ReservedWire) :=
    (unmarshalControlPacket_decides _).eq_ok_iff.mpr ⟨by decide, rfl⟩
  exact ⟨h, rfl, marshal_unmarshal md5ReservedWire _ h _ rfl⟩

end GoBFD
