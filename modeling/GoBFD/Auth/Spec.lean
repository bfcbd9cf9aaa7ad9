import GoBFD.Auth
import GoBFD.Packet.RoundTrip

/-!
# GoBFD.Auth.Spec

What `Sign` writes and what `Verify` accepts.

* `signHash_eq`: the MD5/SHA1 signer, on a packet with no section yet and a
  buffer with room, leaves the image of `signedPacket` in front of the
  buffer: the section with the digest of the image in which the digest slot
  holds the key (`keyedPacket`).
* `verifyHash_signed`: on exactly that image, decoded, the verifier of the
  same parameters accepts at a peer that knows the key and has not yet
  seen a sequence number.

The two place the key in the slot by different code, `buildAuthSection`'s
zero-padded copy and `clearDigestSlot` followed by a copy of the secret;
`keyed_slot` is the fact that both give the same bytes.
-/

namespace GoBFD

/-! ## Keys and parameters -/

/-- What `validateAuthKey` guarantees of an accepted key: a secret of 1 to
16 bytes for Simple Password and MD5, of 1 to 20 bytes for SHA1. -/
theorem validateAuthKey_ok {key : AuthKey} (h : validateAuthKey key = .ok ()) :
    1 ≤ key.secret.length ∧
      ((key.type = AuthTypeSimplePassword ∨ key.type = AuthTypeKeyedMD5 ∨
          key.type = AuthTypeMeticulousKeyedMD5) → key.secret.length ≤ 16) ∧
      ((key.type = AuthTypeKeyedSHA1 ∨ key.type = AuthTypeMeticulousKeyedSHA1) →
        key.secret.length ≤ 20) := by
  unfold validateAuthKey at h
  split at h
  · rename_i h₁
    split at h
    · cases h
    · rename_i hlen
      refine ⟨by omega, fun _ => by omega, fun h₂ => ?_⟩
      -- an MD5 or Simple Password type is no SHA1 type
      exfalso
      rcases h₁ with h | h | h <;> rcases h₂ with h' | h' <;> rw [h] at h' <;>
        exact absurd h' (by decide)
  · rename_i h₁
    split at h
    · split at h
      · cases h
      · rename_i hlen
        exact ⟨by omega, fun h' => absurd h' h₁, fun _ => by omega⟩
    · cases h

/-- The two shapes of hash parameters: an MD5 type with Auth Len 24 and a
16-byte digest, a SHA1 type with Auth Len 28 and a 20-byte digest. -/
def HashParams.Valid (p : HashParams) : Prop :=
  ((p.authType = AuthTypeKeyedMD5 ∨ p.authType = AuthTypeMeticulousKeyedMD5) ∧
      p.authLen = authLenMD5 ∧ p.digestSize = md5DigestSize) ∨
    ((p.authType = AuthTypeKeyedSHA1 ∨ p.authType = AuthTypeMeticulousKeyedSHA1) ∧
      p.authLen = authLenSHA1 ∧ p.digestSize = sha1DigestSize)

section Params

variable {p : HashParams}

theorem HashParams.Valid.authLen (hp : p.Valid) : p.authLen.toNat = 8 + p.digestSize := by
  rcases hp with ⟨-, hl, hd⟩ | ⟨-, hl, hd⟩ <;> rw [hl, hd] <;> rfl

theorem HashParams.Valid.type_ne (hp : p.Valid) : p.authType ≠ AuthTypeSimplePassword := by
  rcases hp with ⟨ht | ht, -⟩ | ⟨ht | ht, -⟩ <;> rw [ht] <;> decide

theorem HashParams.Valid.digestSize_le (hp : p.Valid) : p.digestSize ≤ 20 := by
  rcases hp with ⟨-, -, hd⟩ | ⟨-, -, hd⟩ <;> rw [hd] <;> decide

/-- `computeDigest` picks the hash of the right size. -/
theorem HashParams.Valid.length_computeDigest (hp : p.Valid) (h : Digests) (data : List UInt8) :
    (computeDigest h data p).length = p.digestSize := by
  unfold computeDigest
  rcases hp with ⟨-, -, hd⟩ | ⟨-, -, hd⟩
  · rw [if_pos hd, h.length_md5, hd]
  · rw [if_neg (by rw [hd]; decide), h.length_sha1, hd]

end Params

/-! ## The image of a hash section -/

/-- The image of a packet with a hash section: header, then the section
fields up to the sequence number, then the digest. -/
theorem ControlPacket.wire_hash {q : ControlPacket} {a : AuthSection} (hA : q.authPresent = true)
    (hs : q.auth = some a) (ht : a.type ≠ AuthTypeSimplePassword) :
    q.wire = (q.headerWire ++ ([a.type, a.len, a.keyID, 0] ++ Go.bytesBE a.sequenceNumber)) ++
      a.digest := by
  rw [ControlPacket.wire, ControlPacket.authWire_of_some hA hs, AuthSection.wire, if_neg ht]
  simp only [List.append_assoc]

/-- Replacing the digest of a hash section replaces the image's last bytes. -/
theorem ControlPacket.wire_digest {q : ControlPacket} {a : AuthSection} (hA : q.authPresent = true)
    (hs : q.auth = some a) (ht : a.type ≠ AuthTypeSimplePassword) (d : List UInt8) :
    ({ q with auth := some { a with digest := d } } : ControlPacket).wire =
      q.wire.take (HeaderSize + 8) ++ d := by
  have hlen : ({ q with auth := some { a with digest := d } } : ControlPacket).totalLen =
      q.totalLen := by
    simp [ControlPacket.totalLen, hA, hs]
  have hhead : ({ q with auth := some { a with digest := d } } : ControlPacket).headerWire =
      q.headerWire := by
    simp only [ControlPacket.headerWire, hlen]
    rfl
  rw [ControlPacket.wire_hash (q := { q with auth := some { a with digest := d } }) hA rfl ht,
    ControlPacket.wire_hash hA hs ht, hhead, List.take_left' (by simp [HeaderSize])]

theorem length_hashPrefix (q : ControlPacket) (a : AuthSection) :
    (q.headerWire ++ ([a.type, a.len, a.keyID, 0] ++ Go.bytesBE a.sequenceNumber)).length =
      HeaderSize + 8 := by
  simp [HeaderSize]

/-! ## The signer -/

section Sign

variable (h : Digests) {p : HashParams} {key : AuthKey} {state : AuthState} {pkt : ControlPacket}

/-- The packet `signHash` marshals before hashing: its section holds the key,
zero-padded, in the digest slot. -/
def keyedPacket (key : AuthKey) (state : AuthState) (pkt : ControlPacket) (p : HashParams) :
    ControlPacket :=
  { pkt with auth := some (buildAuthSection key state p), authPresent := true }

/-- The packet `signHash` leaves: the slot holds the digest of the keyed
packet's image. -/
def signedPacket (key : AuthKey) (state : AuthState) (pkt : ControlPacket) (p : HashParams) :
    ControlPacket :=
  { pkt with
    auth := some { buildAuthSection key state p with
      digest := computeDigest h (keyedPacket key state pkt p).wire p }
    authPresent := true }

/-- The keyed slot: the secret, then zeros up to the digest size. -/
theorem buildAuthSection_digest (hk : key.secret.length ≤ p.digestSize) :
    (buildAuthSection key state p).digest =
      key.secret ++ List.replicate (p.digestSize - key.secret.length) 0 :=
  Go.copy_replicate 0 hk

/-- A hash section of the parameters' type and lengths is well formed. -/
theorem HashParams.Valid.wellFormed (hp : p.Valid) {a : AuthSection} (ht : a.type = p.authType)
    (hl : a.len = p.authLen) (hd : a.digest.length = p.digestSize) (ha : a.authData = []) :
    a.WellFormed := by
  rcases hp with ⟨hpt, hpl, hpd⟩ | ⟨hpt, hpl, hpd⟩
  · exact .inr (.inl ⟨ht ▸ hpt, hl.trans hpl, hd.trans hpd, ha⟩)
  · exact .inr (.inr ⟨ht ▸ hpt, hl.trans hpl, hd.trans hpd, ha⟩)

/-- Attaching a well-formed section, with the A bit, to a well-formed packet. -/
theorem ControlPacket.WellFormed.withAuth (hpkt : pkt.WellFormed) {a : AuthSection}
    (ha : a.WellFormed) : ({ pkt with auth := some a, authPresent := true } : ControlPacket).WellFormed :=
  { version := hpkt.version
    diag := hpkt.diag
    detectMult := hpkt.detectMult
    multipoint := hpkt.multipoint
    myDiscriminator := hpkt.myDiscriminator
    yourDiscriminator := hpkt.yourDiscriminator
    authPresent := rfl
    auth := fun a' hs => by cases hs; exact ha }

theorem keyedPacket_wellFormed (hp : p.Valid) (hpkt : pkt.WellFormed) :
    (keyedPacket key state pkt p).WellFormed :=
  hpkt.withAuth (hp.wellFormed rfl rfl (by simp [buildAuthSection]) rfl)

theorem signedPacket_wellFormed (hp : p.Valid) (hpkt : pkt.WellFormed) :
    (signedPacket h key state pkt p).WellFormed :=
  hpkt.withAuth (hp.wellFormed rfl rfl (hp.length_computeDigest h _) rfl)

theorem totalLen_keyedPacket : (keyedPacket key state pkt p).totalLen = HeaderSize + p.authLen.toNat :=
  rfl

theorem totalLen_signedPacket :
    (signedPacket h key state pkt p).totalLen = HeaderSize + p.authLen.toNat :=
  rfl

/-- The keyed image: 32 bytes of header and section fields, then the keyed
slot. -/
theorem keyedPacket_wire (hp : p.Valid) :
    (keyedPacket key state pkt p).wire =
      (keyedPacket key state pkt p).wire.take (HeaderSize + 8) ++ (buildAuthSection key state p).digest := by
  have hw := ControlPacket.wire_hash (q := keyedPacket key state pkt p) rfl rfl hp.type_ne
  rw [hw, List.take_left' (length_hashPrefix _ _)]

/-- The signed image: the same 32 bytes, then the digest of the keyed image. -/
theorem signedPacket_wire (hp : p.Valid) :
    (signedPacket h key state pkt p).wire =
      (keyedPacket key state pkt p).wire.take (HeaderSize + 8) ++
        computeDigest h (keyedPacket key state pkt p).wire p :=
  ControlPacket.wire_digest (q := keyedPacket key state pkt p) rfl rfl hp.type_ne _

/-- The MD5/SHA1 signer on a well-formed packet, with room in the buffer:
it bumps `XmitAuthSeq`, returns `signedPacket` and leaves its image in front
of the buffer. -/
theorem signHash_eq {keys : AuthKeyStore} {buf : List UInt8} (hp : p.Valid)
    (hk : keys.currentKey.secret.length ≤ p.digestSize) (hpkt : pkt.WellFormed)
    (hbuf : HeaderSize + p.authLen.toNat ≤ buf.length) :
    signHash h state keys pkt buf p =
      ({ state with xmitAuthSeq := state.xmitAuthSeq + 1 },
        .ok (signedPacket h keys.currentKey { state with xmitAuthSeq := state.xmitAuthSeq + 1 } pkt p,
          Go.overwrite buf 0 (signedPacket h keys.currentKey
            { state with xmitAuthSeq := state.xmitAuthSeq + 1 } pkt p).wire)) := by
  have hal := hp.authLen
  set key := keys.currentKey
  set state' : AuthState := { state with xmitAuthSeq := state.xmitAuthSeq + 1 }
  set auth := buildAuthSection key state' p
  have hwf₀ : (keyedPacket key state' pkt p).WellFormed := keyedPacket_wellFormed hp hpkt
  set D := computeDigest h (keyedPacket key state' pkt p).wire p
  have hD : D.length = p.digestSize := hp.length_computeDigest h _
  -- both images split at the digest slot, 32 bytes in
  set P := (keyedPacket key state' pkt p).wire.take (HeaderSize + 8)
  have hP : P.length = HeaderSize + 8 := by
    rw [List.length_take, hwf₀.length_wire, totalLen_keyedPacket]
    omega
  have hkeyed : (keyedPacket key state' pkt p).wire = P ++ auth.digest := keyedPacket_wire hp
  have hsigned : (signedPacket h key state' pkt p).wire = P ++ D := signedPacket_wire h hp
  have hlen : (Go.overwrite buf 0 (keyedPacket key state' pkt p).wire).length = buf.length :=
    Go.length_overwrite (by rw [hwf₀.length_wire, totalLen_keyedPacket]; omega)
  -- marshal the keyed packet, hash its image, put the hash in the slot
  have hplace : computeAndPlaceDigest h (Go.overwrite buf 0 (keyedPacket key state' pkt p).wire)
      (HeaderSize + p.authLen.toNat) p = (.ok (Go.overwrite buf 0 (P ++ D)) : Go.Result AuthError _) := by
    unfold computeAndPlaceDigest
    rw [Go.slice_zero (by omega), Go.ok_bind, ← totalLen_keyedPacket, hwf₀.take_overwrite]
    show Go.within _ (HeaderSize + 8) _ (fun w => pure (Go.copy w D)) = _
    have hroom : HeaderSize + 8 + D.length ≤
        (Go.overwrite buf 0 (keyedPacket key state' pkt p).wire).length := by
      rw [hD, hlen]
      omega
    rw [Go.within_copy hroom, hkeyed, ← hP,
      Go.overwrite_zero_append _ _ _ _ (by rw [hD, buildAuthSection_digest hk]; simp; omega)]
  have hcopy : (copyDigest (Go.overwrite buf 0 (P ++ D)) p : Go.Result AuthError _) = .ok D := by
    unfold copyDigest
    dsimp only
    have hwin : ((Go.overwrite buf 0 (P ++ D)).drop (HeaderSize + 8)).take p.digestSize = D := by
      rw [Go.overwrite_zero, List.append_assoc, List.drop_left' hP, List.take_left' hD]
    rw [Go.slice_of_le (by omega) (by rw [Go.length_overwrite (by simp; omega)]; omega),
      Nat.add_sub_cancel_left, hwin, Go.ok_bind, Go.copy_replicate 0 (by omega), hD, Nat.sub_self]
    simp
  unfold signHash
  dsimp only
  erw [hwf₀.marshal_eq (by rw [totalLen_keyedPacket]; exact hbuf)]
  simp only [Go.wrap_ok, Go.ok_bind, totalLen_keyedPacket]
  rw [hplace, Go.ok_bind, hcopy, Go.ok_bind, hsigned]
  rfl

/-- Whatever the key, a hash signer that succeeds keeps the packet's state
and discriminator, and leaves the header image of a packet with them in
front of the buffer: the digest goes in after it. -/
theorem signHash_header {st' : AuthState} {keys : AuthKeyStore} {pkt' : ControlPacket}
    {buf buf' : List UInt8} (hs : signHash h state keys pkt buf p = (st', .ok (pkt', buf'))) :
    pkt'.state = pkt.state ∧ pkt'.myDiscriminator = pkt.myDiscriminator ∧
      ∃ q : ControlPacket, q.state = pkt.state ∧ q.myDiscriminator = pkt.myDiscriminator ∧
        buf'.take HeaderSize = q.headerWire := by
  simp only [signHash, Prod.mk.injEq] at hs
  obtain ⟨-, hs⟩ := hs
  obtain ⟨⟨n, b₁⟩, hm, hs⟩ := Go.bind_eq_ok.mp hs
  obtain ⟨b₂, hc, hs⟩ := Go.bind_eq_ok.mp hs
  obtain ⟨dg, -, hs⟩ := Go.bind_eq_ok.mp hs
  simp only [Go.pure_eq_ok, Except.ok.injEq, Prod.mk.injEq] at hs
  obtain ⟨rfl, rfl⟩ := hs
  -- the digest is placed from byte 32 on
  obtain ⟨sl, -, hw⟩ := Go.bind_eq_ok.mp hc
  have hhead := marshalControlPacket_take_header (Go.wrap_eq_ok.mp hm)
  rw [← Go.take_of_within hw (by simp [HeaderSize])] at hhead
  refine ⟨rfl, rfl, _, ?_, ?_, hhead⟩ <;> rfl

end Sign

/-! ## The verifier -/

section Verify

variable (h : Digests) {p : HashParams} {key : AuthKey} {state : AuthState} {pkt : ControlPacket}

/-- `clearDigestSlot` on a slot inside the buffer zeroes it. -/
theorem clearDigestSlot_eq {buf : List UInt8} {offset size : Nat} (hs : offset + size ≤ buf.length) :
    (clearDigestSlot buf offset size : Go.Result ε (List UInt8)) =
      .ok (Go.overwrite buf offset (List.replicate size 0)) :=
  Go.foldlM_store_range 0 size hs

/-- The verifier's way of putting the key in the slot, zeroing it and then
copying the secret over it, gives the signer's zero-padded copy. -/
theorem keyed_slot {buf : List UInt8} (hk : key.secret.length ≤ p.digestSize)
    (hs : HeaderSize + 8 + p.digestSize ≤ buf.length) :
    Go.overwrite (Go.overwrite buf (HeaderSize + 8) (List.replicate p.digestSize 0)) (HeaderSize + 8)
        key.secret =
      Go.overwrite buf (HeaderSize + 8) (buildAuthSection key state p).digest := by
  rw [Go.overwrite_overwrite_prefix (by simpa using hk) (by simpa using hs),
    buildAuthSection_digest hk, List.drop_replicate]

/-- The verifier of the signer's parameters accepts the decoded signed image
at a peer that finds the key under its ID and has no sequence number yet,
and records the sequence number. -/
theorem verifyHash_signed (hp : p.Valid) (hk : key.secret.length ≤ p.digestSize)
    (hpkt : pkt.WellFormed) {peer : AuthState} {peerKeys : AuthKeyStore}
    (hkey : peerKeys.lookupKey key.id = some key) (hknown : peer.authSeqKnown = false) :
    (verifyHash h peerKeys
        { signedPacket h key state pkt p with
          length := UInt8.ofNat (signedPacket h key state pkt p).totalLen }
        (signedPacket h key state pkt p).wire (signedPacket h key state pkt p).wire.length p).exec peer =
      ({ peer with rcvAuthSeq := state.xmitAuthSeq, authSeqKnown := true }, .ok ()) := by
  have hal := hp.authLen
  have hwf₀ : (keyedPacket key state pkt p).WellFormed := keyedPacket_wellFormed hp hpkt
  have hwf₁ : (signedPacket h key state pkt p).WellFormed := signedPacket_wellFormed h hp hpkt
  set D := computeDigest h (keyedPacket key state pkt p).wire p
  have hD : D.length = p.digestSize := hp.length_computeDigest h _
  set P := (keyedPacket key state pkt p).wire.take (HeaderSize + 8)
  have hP : P.length = HeaderSize + 8 := by
    rw [List.length_take, hwf₀.length_wire, totalLen_keyedPacket]
    omega
  set W := (signedPacket h key state pkt p).wire
  have hW : W = P ++ D := signedPacket_wire h hp
  have hn : W.length = HeaderSize + 8 + p.digestSize := by rw [hW, List.length_append, hP, hD]
  -- the slot of the received image, keyed again, is the keyed image
  have hrekey : Go.overwrite W (HeaderSize + 8) (buildAuthSection key state p).digest =
      (keyedPacket key state pkt p).wire := by
    rw [hW, ← hP, Go.overwrite_append (by rw [hD]; simp [buildAuthSection]), ← keyedPacket_wire hp]
  have hsaved : Go.copy (List.replicate p.digestSize 0) D = D := by
    rw [Go.copy_replicate 0 (by omega), hD, Nat.sub_self, List.replicate_zero, List.append_nil]
  have hzero : (Go.overwrite W (HeaderSize + 8) (List.replicate p.digestSize 0)).length = W.length :=
    Go.length_overwrite (by simp; omega)
  have hauth : (signedPacket h key state pkt p).auth = some { buildAuthSection key state p with digest := D } :=
    rfl
  -- every check passes, the digest comparison last
  have hchecks : verifyHashChecks h peer peerKeys
      { signedPacket h key state pkt p with length := UInt8.ofNat (signedPacket h key state pkt p).totalLen }
      W W.length p = .ok { buildAuthSection key state p with digest := D } := by
    unfold verifyHashChecks validateHashAuth checkSeqWindow validateAuthWire compareDigest
    simp only [requireAuthSection, hknown, Bool.not_false, if_true, hn, hauth, buildAuthSection, ne_eq,
      not_true_eq_false, if_false, Go.ok_bind, pure_bind, hkey, Nat.lt_irrefl, or_self]
    rw [clearDigestSlot_eq (by omega), Go.ok_bind, Go.within_copy (by rw [hzero]; omega), Go.ok_bind,
      keyed_slot hk (by omega), hrekey, Go.slice_zero (by rw [hwf₀.length_wire, totalLen_keyedPacket]; omega),
      Go.ok_bind]
    -- the hash of the keyed image is the digest that came in
    rw [List.take_of_length_le (by rw [hwf₀.length_wire, totalLen_keyedPacket]; omega), hsaved,
      if_neg (not_not.mpr rfl)]
    rfl
  rw [verifyHash_exec, hchecks]
  rfl

end Verify

/-! ## Simple Password -/

section Simple

variable {keys : AuthKeyStore} {pkt : ControlPacket}

/-- The section `SimplePasswordAuth.Sign` attaches. -/
theorem SimplePasswordAuth.sign_eq (keys : AuthKeyStore) (pkt : ControlPacket) :
    SimplePasswordAuth.sign keys pkt =
      { pkt with
        auth := some {
          type := AuthTypeSimplePassword
          len := UInt8.ofNat (authSimpleHeaderSize + keys.currentKey.secret.length)
          keyID := keys.currentKey.id
          authData := keys.currentKey.secret }
        authPresent := true } :=
  rfl

/-- With a password of 1 to 16 bytes the section is well formed. -/
theorem SimplePasswordAuth.sign_wellFormed (hpkt : pkt.WellFormed)
    (h₁ : 1 ≤ keys.currentKey.secret.length) (h₁₆ : keys.currentKey.secret.length ≤ 16) :
    (SimplePasswordAuth.sign keys pkt).WellFormed := by
  refine hpkt.withAuth (.inl ⟨rfl, ?_, h₁, h₁₆, rfl, rfl⟩)
  show (UInt8.ofNat (3 + keys.currentKey.secret.length)).toNat = 3 + keys.currentKey.secret.length
  rw [UInt8.toNat_ofNat_of_lt' (by rw [UInt8.size]; omega)]

/-- The password check accepts the decoded signed packet at a peer that
finds the key under its ID. -/
theorem SimplePasswordAuth.verify_sign {peerKeys : AuthKeyStore}
    (hkey : peerKeys.lookupKey keys.currentKey.id = some keys.currentKey) (len : UInt8) :
    SimplePasswordAuth.verify peerKeys { SimplePasswordAuth.sign keys pkt with length := len } =
      .ok () := by
  simp [SimplePasswordAuth.verify, SimplePasswordAuth.sign, requireAuthSection, verifyPassword,
    AuthTypeSimplePassword, hkey]

end Simple

/-! ## The Authenticator interface -/

section Interface

variable (h : Digests) {keys : AuthKeyStore} {state : AuthState} {pkt : ControlPacket}
  {buf : List UInt8}

/-- A key an authenticator signs with: `validateAuthKey` accepts it and it is
of the authenticator's type, the two checks of `NewStaticAuthKeyStore` and
`validateSessionAuthConfig`. -/
def AuthKey.Fits (key : AuthKey) (a : Authenticator) : Prop :=
  validateAuthKey key = .ok () ∧ key.type = authenticatorType a

/-- What `Sign` followed by the marshal of `signCachedPacket` produces, and
what `Verify` makes of it: the packet with a well-formed section, its image
in front of the buffer, accepted at a peer that finds the key under its ID
and has no sequence number yet. -/
def SignsAndVerifies (a : Authenticator) (state : AuthState) (keys : AuthKeyStore)
    (pkt : ControlPacket) (buf : List UInt8) : Prop :=
  ∃ state' sec buf',
    let q : ControlPacket := { pkt with auth := some sec, authPresent := true }
    a.sign h state keys pkt buf = (state', .ok (q, buf')) ∧
      marshalControlPacket q buf' = .ok (q.totalLen, Go.overwrite buf 0 q.wire) ∧ sec.WellFormed ∧
      ∀ (peer : AuthState) (peerKeys : AuthKeyStore),
        peerKeys.lookupKey keys.currentKey.id = some keys.currentKey → peer.authSeqKnown = false →
        ∃ peer', (a.verify h peerKeys { q with length := UInt8.ofNat q.totalLen } q.wire
          q.wire.length).exec peer = (peer', .ok ())

/-- The four hash authenticators: `signHash` and `verifyHash` at one
parameter set. -/
theorem signsAndVerifies_hash {a : Authenticator} {p : HashParams} (hp : p.Valid)
    (hsign : ∀ state keys pkt buf, a.sign h state keys pkt buf = signHash h state keys pkt buf p)
    (hverify : ∀ peerKeys q wire n, a.verify h peerKeys q wire n = verifyHash h peerKeys q wire n p)
    (hk : keys.currentKey.secret.length ≤ p.digestSize) (hpkt : pkt.WellFormed)
    (hbuf : 52 ≤ buf.length) :
    SignsAndVerifies h a state keys pkt buf := by
  have hal := hp.authLen
  have hds := hp.digestSize_le
  have h24 : HeaderSize = 24 := rfl
  set state' : AuthState := { state with xmitAuthSeq := state.xmitAuthSeq + 1 }
  set q := signedPacket h keys.currentKey state' pkt p
  have hq : q.WellFormed := signedPacket_wellFormed h hp hpkt
  have hlen : (Go.overwrite buf 0 q.wire).length = buf.length :=
    Go.length_overwrite (by rw [hq.length_wire, totalLen_signedPacket]; omega)
  unfold SignsAndVerifies
  refine ⟨state', { buildAuthSection keys.currentKey state' p with
    digest := computeDigest h (keyedPacket keys.currentKey state' pkt p).wire p },
    Go.overwrite buf 0 q.wire, ?_, ?_, ?_, ?_⟩
  · rw [hsign, signHash_eq h hp hk hpkt (by omega)]
    rfl
  · have hm : marshalControlPacket q (Go.overwrite buf 0 q.wire) =
        .ok (q.totalLen, Go.overwrite (Go.overwrite buf 0 q.wire) 0 q.wire) :=
      hq.marshal_eq (by rw [hlen, totalLen_signedPacket]; omega)
    rw [Go.overwrite_zero_idem] at hm
    exact hm
  · exact hp.wellFormed rfl rfl (hp.length_computeDigest h _) rfl
  · intro peer peerKeys hkey hknown
    exact ⟨_, by rw [hverify]; exact verifyHash_signed h hp hk hpkt hkey hknown⟩

theorem hashParamsMD5_valid : hashParamsMD5.Valid := .inl ⟨.inl rfl, rfl, rfl⟩

theorem hashParamsSHA1_valid : hashParamsSHA1.Valid := .inr ⟨.inl rfl, rfl, rfl⟩

/-- Every authenticator signs with a key that fits it, into a buffer with
room for the largest packet, so that a peer with the key verifies. -/
theorem Authenticator.signsAndVerifies {a : Authenticator} (hkey : keys.currentKey.Fits a)
    (hpkt : pkt.WellFormed) (hbuf : 52 ≤ buf.length) : SignsAndVerifies h a state keys pkt buf := by
  obtain ⟨hv, ht⟩ := hkey
  obtain ⟨h₁, h₁₆, h₂₀⟩ := validateAuthKey_ok hv
  cases a with
  | simplePassword =>
    have hq := SimplePasswordAuth.sign_wellFormed hpkt h₁ (h₁₆ (.inl ht))
    unfold SignsAndVerifies
    refine ⟨state, _, buf, rfl, ?_, ?_, ?_⟩
    · exact hq.marshal_eq (by have := hq.totalLen_le; omega)
    · exact hq.auth _ rfl
    · intro peer peerKeys hkey _
      refine ⟨peer, ?_⟩
      -- the password check writes nothing
      show (Go.Writes.lift (SimplePasswordAuth.verify peerKeys
        { SimplePasswordAuth.sign keys pkt with length := _ })).exec peer = _
      rw [Go.Writes.exec_lift, SimplePasswordAuth.verify_sign hkey]
  | keyedMD5 =>
    exact signsAndVerifies_hash h hashParamsMD5_valid (fun _ _ _ _ => rfl) (fun _ _ _ _ => rfl)
      (h₁₆ (.inr (.inl ht))) hpkt hbuf
  | meticulousKeyedMD5 =>
    exact signsAndVerifies_hash h (.inl ⟨.inr rfl, rfl, rfl⟩) (fun _ _ _ _ => rfl)
      (fun _ _ _ _ => rfl) (h₁₆ (.inr (.inr ht))) hpkt hbuf
  | keyedSHA1 =>
    exact signsAndVerifies_hash h hashParamsSHA1_valid (fun _ _ _ _ => rfl) (fun _ _ _ _ => rfl)
      (h₂₀ (.inl ht)) hpkt hbuf
  | meticulousKeyedSHA1 =>
    exact signsAndVerifies_hash h (.inr ⟨.inr rfl, rfl, rfl⟩) (fun _ _ _ _ => rfl)
      (fun _ _ _ _ => rfl) (h₂₀ (.inr ht)) hpkt hbuf

/-- Every authenticator's `Sign` that succeeds, with any key, keeps the
packet's state and discriminator, and leaves the buffer as it was or
starting with the header image of a packet with them. -/
theorem Authenticator.sign_header {a : Authenticator} {st' : AuthState} {pkt' : ControlPacket}
    {buf' : List UInt8} (hs : a.sign h state keys pkt buf = (st', .ok (pkt', buf'))) :
    pkt'.state = pkt.state ∧ pkt'.myDiscriminator = pkt.myDiscriminator ∧
      (buf' = buf ∨ ∃ q : ControlPacket, q.state = pkt.state ∧
        q.myDiscriminator = pkt.myDiscriminator ∧ buf'.take HeaderSize = q.headerWire) := by
  cases a with
  | simplePassword =>
    -- the password goes in the packet only; the buffer is not written
    simp only [Authenticator.sign, Prod.mk.injEq, Except.ok.injEq] at hs
    obtain ⟨-, rfl, rfl⟩ := hs
    exact ⟨rfl, rfl, .inl rfl⟩
  | keyedMD5 | meticulousKeyedMD5 | keyedSHA1 | meticulousKeyedSHA1 =>
    obtain ⟨h₁, h₂, h₃⟩ := signHash_header h hs
    exact ⟨h₁, h₂, .inr h₃⟩

end Interface

end GoBFD
