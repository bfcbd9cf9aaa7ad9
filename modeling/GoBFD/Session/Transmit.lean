import GoBFD.Session.Run
import GoBFD.Auth.Spec

/-!
# GoBFD.Session.Transmit

What `sendControl` hands to the sender.  A session is `Sane` when the fields
the transmit path reads are in range: a nonzero discriminator and
multiplier, a five-bit diagnostic, no Poll sequence, a buffer with room for
the largest packet and for the padding, a current key that fits the
authenticator, and a remote discriminator whenever the state is Init or Up.

From a sane session

* `buildControlPacket` gives a well-formed packet;
* `rebuildCachedPacket` writes the image of that packet, signed when auth is
  configured, in front of the cached buffer (`Session.Sane.rebuildCachedPacket`);
* `sendControl` never panics, and the datagram it sends is that image
  followed by `PaddedPduSize - Length` zero bytes
  (`Session.Sane.sendControl`).

`Session.Describes` says what a datagram tells a receiver about the session
that sent it; every datagram of `sendControl` describes its session.
-/

namespace GoBFD

variable {Addr : Type} (h : Digests) {s : Session Addr}

/-- The fields of a session that the transmit path relies on, in range. -/
structure Session.Sane (s : Session Addr) : Prop where
  localDiscr : s.localDiscr ≠ 0
  detectMult : s.detectMult ≠ 0
  localDiag : s.localDiag < 32
  pollActive : s.pollActive = false
  buffer : MaxPacketSize ≤ s.cachedPacket.length
  padded : s.paddedPduSize ≤ s.cachedPacket.length
  keys : ∀ a, s.auth = some a → a.keys.currentKey.Fits a.auth
  remoteDiscr : s.cachedState = .init ∨ s.cachedState = .up → s.remoteDiscr ≠ 0

/-- The packet `rebuildCachedPacket` writes for `s`: well formed, the built
packet in every field but the auth section, with the A bit exactly when auth
is configured, and signed so that a peer holding the current key under its
ID accepts it while it has no sequence number yet. -/
structure Session.Writes (s : Session Addr) (q : ControlPacket) : Prop where
  wellFormed : q.WellFormed
  header : ({ q with auth := none, authPresent := false } : ControlPacket) = s.buildControlPacket.1
  authPresent : q.authPresent = s.auth.isSome
  verifies : ∀ a, s.auth = some a → ∀ (peer : AuthState) (peerKeys : AuthKeyStore),
    peerKeys.lookupKey a.keys.currentKey.id = some a.keys.currentKey →
    peer.authSeqKnown = false →
    ∃ peer', (a.auth.verify h peerKeys { q with length := UInt8.ofNat q.totalLen } q.wire
      q.wire.length).exec peer = (peer', .ok ())

/-- What a datagram tells a receiver about the session that sent it: cut at
its Length byte it decodes to a packet with the session's state,
discriminator and multiplier, no Multipoint and no Poll bit, the A bit
exactly when auth is configured, and a remote discriminator whenever it
says Init or Up. -/
def Session.Describes (s : Session Addr) (d : List UInt8) : Prop :=
  ∃ q : ControlPacket, unmarshalControlPacket (d.take (d.getD 3 0).toNat) = .ok q ∧
    q.state = s.cachedState ∧ q.myDiscriminator = s.localDiscr ∧ q.detectMult = s.detectMult ∧
    q.multipoint = false ∧ q.poll = false ∧ q.authPresent = s.auth.isSome ∧
    (q.state = .init ∨ q.state = .up → q.yourDiscriminator ≠ 0)

/-- `Describes` reads four fields of the session. -/
theorem Session.Describes.congr {s' : Session Addr} {d : List UInt8} (hd : s.Describes d)
    (hc : s'.cachedState = s.cachedState) (hl : s'.localDiscr = s.localDiscr)
    (hm : s'.detectMult = s.detectMult) (ha : s'.auth.isSome = s.auth.isSome) :
    s'.Describes d := by
  rw [Session.Describes, hc, hl, hm, ha]
  exact hd

/-! ## The built packet -/

section Build

@[simp] theorem Session.buildControlPacket_snd (s : Session Addr) :
    s.buildControlPacket.2 = { s with pendingFinal := false } := rfl

theorem Session.Sane.buildControlPacket_wellFormed (hs : s.Sane) :
    s.buildControlPacket.1.WellFormed where
  version := rfl
  diag := hs.localDiag
  detectMult := hs.detectMult
  multipoint := rfl
  myDiscriminator := hs.localDiscr
  -- a packet that says Init or Up carries the remote discriminator
  yourDiscriminator := by
    show s.remoteDiscr ≠ 0 ∨ s.cachedState = .down ∨ s.cachedState = .adminDown
    cases hc : s.cachedState with
    | init => exact .inl (hs.remoteDiscr (.inl hc))
    | up => exact .inl (hs.remoteDiscr (.inr hc))
    | down => exact .inr (.inl rfl)
    | adminDown => exact .inr (.inr rfl)
  authPresent := rfl
  auth := fun _ h => nomatch h

end Build

/-! ## The cached packet -/

section Rebuild

/-- The session after `rebuildCachedPacket` wrote `q` and moved the auth
state to `st`. -/
def Session.rewritten (s : Session Addr) (q : ControlPacket) (st : AuthState) : Session Addr :=
  { s with
    pendingFinal := false
    auth := s.auth.map fun a => { a with state := st }
    cachedPacket := Go.overwrite s.cachedPacket 0 q.wire }

@[simp] theorem Session.auth_rewritten (q : ControlPacket) (st : AuthState) :
    (s.rewritten q st).auth = s.auth.map fun a => { a with state := st } := rfl

@[simp] theorem Session.cachedPacket_rewritten (q : ControlPacket) (st : AuthState) :
    (s.rewritten q st).cachedPacket = Go.overwrite s.cachedPacket 0 q.wire := rfl

@[simp] theorem Session.paddedPduSize_rewritten (q : ControlPacket) (st : AuthState) :
    (s.rewritten q st).paddedPduSize = s.paddedPduSize := rfl

theorem Session.Sane.length_rewritten (hs : s.Sane) {q : ControlPacket} (hq : q.WellFormed)
    (st : AuthState) : (s.rewritten q st).cachedPacket.length = s.cachedPacket.length := by
  have hb := hs.buffer
  have hl := hq.totalLen_le
  have h64 : MaxPacketSize = 64 := rfl
  exact Go.length_overwrite (by rw [hq.length_wire]; omega)

/-- Storing a new auth state keeps the current key fitting its
authenticator. -/
theorem Session.Sane.keys_withState (hs : s.Sane) (st : AuthState) :
    ∀ a, (s.auth.map fun a => { a with state := st }) = some a → a.keys.currentKey.Fits a.auth := by
  intro a' ha'
  obtain ⟨a, ha, rfl⟩ := Option.map_eq_some_iff.mp ha'
  exact hs.keys a ha

/-- Rewriting the cached packet keeps the session sane. -/
theorem Session.Sane.rewritten (hs : s.Sane) {q : ControlPacket} (hq : q.WellFormed)
    (st : AuthState) : (s.rewritten q st).Sane :=
  { hs with
    buffer := by rw [hs.length_rewritten hq]; exact hs.buffer
    padded := by rw [hs.length_rewritten hq]; exact hs.padded
    keys := hs.keys_withState st }

/-- Without auth the built packet is marshalled into the cached buffer. -/
theorem Session.Sane.rebuildCachedPacket_none (hs : s.Sane) (ha : s.auth = none) (st : AuthState) :
    s.rebuildCachedPacket h = some (s.rewritten s.buildControlPacket.1 st) ∧
      s.Writes h s.buildControlPacket.1 := by
  have hq := hs.buildControlPacket_wellFormed
  have hb := hs.buffer
  have hl := hq.totalLen_le
  have h64 : MaxPacketSize = 64 := rfl
  constructor
  · simp only [Session.rebuildCachedPacket, Session.buildControlPacket_snd, ha]
    rw [hq.marshal_eq (by omega)]
    simp [Session.rewritten, ha]
  · exact ⟨hq, rfl, by simp [ha]; rfl, fun a h => nomatch ha.symm.trans h⟩

/-- With auth the built packet is signed into the cached buffer and
marshalled again. -/
theorem Session.Sane.rebuildCachedPacket_some (hs : s.Sane) {a : SessionAuth}
    (ha : s.auth = some a) :
    ∃ q st, s.rebuildCachedPacket h = some (s.rewritten q st) ∧ s.Writes h q := by
  have hq := hs.buildControlPacket_wellFormed
  have hb := hs.buffer
  have h64 : MaxPacketSize = 64 := rfl
  have hsv : SignsAndVerifies h a.auth a.state a.keys s.buildControlPacket.1 s.cachedPacket :=
    Authenticator.signsAndVerifies h (hs.keys a ha) hq (by omega)
  obtain ⟨st, sec, buf', hsign, hmarshal, hsec, hverify⟩ := hsv
  refine ⟨{ s.buildControlPacket.1 with auth := some sec, authPresent := true }, st, ?_, ?_⟩
  · simp only [Session.rebuildCachedPacket, Session.buildControlPacket_snd, ha,
      Session.signCachedPacket, hsign, hmarshal]
    simp [Session.rewritten, ha]
  · refine ⟨hq.withAuth hsec, rfl, by simp [ha], ?_⟩
    intro a' ha'
    cases ha.symm.trans ha'
    exact hverify

/-- `rebuildCachedPacket` writes a packet of the session in front of the
cached buffer and never panics. -/
theorem Session.Sane.rebuildCachedPacket (hs : s.Sane) :
    ∃ q st, s.rebuildCachedPacket h = some (s.rewritten q st) ∧ s.Writes h q := by
  cases ha : s.auth with
  | none =>
    obtain ⟨hr, hw⟩ := hs.rebuildCachedPacket_none h ha ⟨0, 0, 0, false⟩
    exact ⟨_, _, hr, hw⟩
  | some a => exact hs.rebuildCachedPacket_some h ha

end Rebuild

/-! ## The datagram -/

section Send

/-- The Length byte of an image is its `totalLen`. -/
theorem ControlPacket.getD_wire_three (q : ControlPacket) :
    q.wire.getD 3 0 = UInt8.ofNat q.totalLen := by
  simp [ControlPacket.wire, ControlPacket.headerWire]

theorem ControlPacket.WellFormed.toNat_length_byte {q : ControlPacket} (hq : q.WellFormed) :
    (UInt8.ofNat q.totalLen).toNat = q.totalLen :=
  UInt8.toNat_ofNat_of_lt' (by have := hq.totalLen_le; rw [UInt8.size]; omega)

/-- The datagram `sendControl` makes of an image: the image, then zeros up
to `PaddedPduSize`. -/
def paddedImage (q : ControlPacket) (paddedPduSize : Nat) : List UInt8 :=
  q.wire ++ List.replicate (paddedPduSize - q.totalLen) 0

theorem take_paddedImage {q : ControlPacket} (hq : q.WellFormed) (pad : Nat) :
    (paddedImage q pad).take q.totalLen = q.wire := by
  rw [paddedImage, List.take_left' hq.length_wire]

theorem getD_paddedImage_three (q : ControlPacket) (pad : Nat) :
    (paddedImage q pad).getD 3 0 = UInt8.ofNat q.totalLen := by
  have h24 : 24 ≤ q.wire.length := by simp [ControlPacket.wire]
  rw [paddedImage, List.getD_append _ _ _ _ (by omega), ControlPacket.getD_wire_three]

/-- Cut at its Length byte, the datagram is the image again. -/
theorem unmarshal_paddedImage {q : ControlPacket} (hq : q.WellFormed) (pad : Nat) :
    unmarshalControlPacket
        ((paddedImage q pad).take ((paddedImage q pad).getD 3 0).toNat) =
      .ok { q with length := UInt8.ofNat q.totalLen } := by
  rw [getD_paddedImage_three, hq.toNat_length_byte, take_paddedImage hq]
  exact hq.unmarshal_wire

/-- The session after `sendControl` sent `d` from the rewritten buffer `buf`. -/
def Session.afterSend (s : Session Addr) (q : ControlPacket) (st : AuthState)
    (buf d : List UInt8) : Session Addr :=
  { s.rewritten q st with cachedPacket := buf, sent := s.sent ++ [d] }

/-- With padding, the front of the cleared buffer is the padded image. -/
theorem take_cleared {C : List UInt8} {q : ControlPacket} (hq : q.WellFormed) {pad : Nat}
    (hp : q.totalLen < pad) (hpad : pad ≤ C.length) :
    (Go.overwrite (Go.overwrite C 0 q.wire) q.totalLen
      (List.replicate (pad - q.totalLen) 0)).take pad = paddedImage q pad := by
  have hB : (Go.overwrite C 0 q.wire).length = C.length :=
    Go.length_overwrite (by rw [hq.length_wire]; omega)
  have ht : (Go.overwrite (Go.overwrite C 0 q.wire) q.totalLen
        (List.replicate (pad - q.totalLen) (0 : UInt8))).take
        (q.totalLen + (List.replicate (pad - q.totalLen) (0 : UInt8)).length) =
      (Go.overwrite C 0 q.wire).take q.totalLen ++ List.replicate (pad - q.totalLen) 0 :=
    Go.take_overwrite (by omega)
  rw [List.length_replicate, Nat.add_sub_cancel' (Nat.le_of_lt hp), hq.take_overwrite C] at ht
  exact ht

/-- Without padding, the front of the buffer is the image. -/
theorem take_unpadded {C : List UInt8} {q : ControlPacket} (hq : q.WellFormed) {pad : Nat}
    (hp : pad ≤ q.totalLen) :
    (Go.overwrite C 0 q.wire).take q.totalLen = paddedImage q pad := by
  rw [hq.take_overwrite C, paddedImage, Nat.sub_eq_zero_of_le hp, List.replicate_zero,
    List.append_nil]

/-- `sendControl` from a sane session: the cached packet is rewritten with
a packet of the session, and the image of that packet, padded with zeros to
`PaddedPduSize`, is sent. -/
theorem Session.Sane.sendControl (hs : s.Sane) :
    ∃ q st buf, s.Writes h q ∧ buf.length = s.cachedPacket.length ∧
      s.sendControl h = some (s.afterSend q st buf (paddedImage q s.paddedPduSize)) := by
  obtain ⟨q, st, hr, hw⟩ := hs.rebuildCachedPacket h
  have hq := hw.wellFormed
  have hb := hs.buffer
  have hl := hq.totalLen_le
  have h64 : MaxPacketSize = 64 := rfl
  have hB : (Go.overwrite s.cachedPacket 0 q.wire).length = s.cachedPacket.length :=
    hs.length_rewritten hq st
  -- the Length byte of the rewritten buffer
  have hload : (Go.load (Go.overwrite s.cachedPacket 0 q.wire) 3 : Go.Result Empty UInt8) =
      .ok (UInt8.ofNat q.totalLen) := by
    have h24 : 24 ≤ q.wire.length := by simp [ControlPacket.wire]
    rw [Go.load_of_lt (by omega), getElem_eq_getD, Go.overwrite_zero,
      List.getD_append _ _ _ _ (by omega), ControlPacket.getD_wire_three]
  by_cases hp : s.paddedPduSize > 0 ∧ s.paddedPduSize > q.totalLen
  · -- RFC 9764 padding: the bytes from Length up to PaddedPduSize are cleared
    have hpad := hs.padded
    set buf := Go.overwrite (Go.overwrite s.cachedPacket 0 q.wire) q.totalLen
      (List.replicate (s.paddedPduSize - q.totalLen) (0 : UInt8))
    have hbuf : buf.length = s.cachedPacket.length := by
      rw [Go.length_overwrite (by simp; omega), hB]
    have hclear : (Go.within (Go.overwrite s.cachedPacket 0 q.wire) q.totalLen s.paddedPduSize
        (fun w => pure (List.replicate w.length 0)) : Go.Result Empty (List UInt8)) = .ok buf :=
      Go.within_clear 0 (Nat.le_of_lt hp.2) (by omega)
    have hslice : (Go.slice buf 0 s.paddedPduSize : Go.Result Empty (List UInt8)) =
        .ok (paddedImage q s.paddedPduSize) := by
      rw [Go.slice_zero (by omega), take_cleared hq hp.2 hpad]
    refine ⟨q, st, buf, hw, hbuf, ?_⟩
    simp only [Session.sendControl, hr, Option.bind_eq_bind, Option.bind_some, hload,
      Except.toOption, hq.toNat_length_byte, Session.paddedPduSize_rewritten,
      Session.cachedPacket_rewritten, decide_eq_true hp, if_true, hclear, hslice]
    rfl
  · -- no padding: the image alone
    refine ⟨q, st, Go.overwrite s.cachedPacket 0 q.wire, hw, hB, ?_⟩
    have hnp : s.paddedPduSize ≤ q.totalLen := by omega
    have hslice : (Go.slice (Go.overwrite s.cachedPacket 0 q.wire) 0 q.totalLen :
        Go.Result Empty (List UInt8)) = .ok (paddedImage q s.paddedPduSize) := by
      rw [Go.slice_zero (by omega), take_unpadded hq hnp]
    simp only [Session.sendControl, hr, Option.bind_eq_bind, Option.bind_some, hload,
      Except.toOption, hq.toNat_length_byte, Session.paddedPduSize_rewritten,
      Session.cachedPacket_rewritten, decide_eq_false hp, Bool.false_eq_true, if_false, Option.pure_def,
      Option.bind_some, hslice]
    rfl

/-- The fields of a written packet that are the built packet's. -/
theorem Session.Writes.fields {q : ControlPacket} (hw : s.Writes h q) :
    q.state = s.cachedState ∧ q.myDiscriminator = s.localDiscr ∧ q.detectMult = s.detectMult ∧
      q.poll = s.pollActive ∧ q.final = s.pendingFinal := by
  have hh := hw.header
  exact ⟨congrArg ControlPacket.state hh, congrArg ControlPacket.myDiscriminator hh,
    congrArg ControlPacket.detectMult hh, congrArg ControlPacket.poll hh,
    congrArg ControlPacket.final hh⟩

/-- Whatever the padding, the datagram of a written packet describes the
session. -/
theorem Session.Writes.describes {q : ControlPacket} (hw : s.Writes h q) (hs : s.Sane) (pad : Nat) :
    s.Describes (paddedImage q pad) := by
  obtain ⟨hstate, hmy, hmult, hpoll, -⟩ := hw.fields
  have hq := hw.wellFormed
  refine ⟨_, unmarshal_paddedImage hq pad, hstate, hmy, hmult, hq.multipoint,
    hpoll.trans hs.pollActive, hw.authPresent, ?_⟩
  -- Init and Up exclude the two states that may go without a remote discriminator
  intro hiu
  rcases hq.yourDiscriminator with hy | hd | ha
  · exact hy
  · rcases hiu with hi | hu
    · exact absurd (hi.symm.trans hd) nofun
    · exact absurd (hu.symm.trans hd) nofun
  · rcases hiu with hi | hu
    · exact absurd (hi.symm.trans ha) nofun
    · exact absurd (hu.symm.trans ha) nofun

/-- Sending keeps the session sane. -/
theorem Session.Sane.afterSend (hs : s.Sane) {q : ControlPacket} (st : AuthState)
    {buf d : List UInt8} (hbuf : buf.length = s.cachedPacket.length) : (s.afterSend q st buf d).Sane :=
  { hs with
    buffer := by rw [Session.afterSend, hbuf]; exact hs.buffer
    padded := by rw [Session.afterSend, hbuf]; exact hs.padded
    keys := hs.keys_withState st }

/-- Digests that only encode the length of what they hash. -/
def lengthDigests : Digests where
  md5 data := List.replicate md5DigestSize (UInt8.ofNat data.length)
  sha1 data := List.replicate sha1DigestSize (UInt8.ofNat data.length)
  length_md5 _ := List.length_replicate
  length_sha1 _ := List.length_replicate

def md5Key : AuthKey where
  id := 1
  type := AuthTypeKeyedMD5
  secret := [0x61]

def md5Store : AuthKeyStore where
  lookupKey i := if i = 1 then some md5Key else none
  currentKey := md5Key

/-- A Keyed MD5 session padded to 64 bytes (RFC 9764). -/
def md5PaddedConfig : SessionConfig Unit where
  peerAddr := ()
  localAddr := ()
  interface := ""
  type := .singleHop
  role := .active
  desiredMinTxInterval := 1000000000
  requiredMinRxInterval := 1000000000
  detectMultiplier := 3
  auth := some .keyedMD5
  authKeys := some md5Store
  paddedPduSize := 64

/-- With padding, `Sign` and `Verify` hash different bytes: the 48-byte
packet is signed, but the receiver hands `Verify` the 64-byte datagram, and
`Verify` hashes all of it, so the peer with the same key rejects the
digest. -/
theorem padded_md5_rejected :
    ∃ s₀ s₁ d item, newSession lengthDigests md5PaddedConfig 7 true 0 = .ok s₀ ∧
      s₀.sendControl lengthDigests = some s₁ ∧ s₁.sent = [d] ∧ d.length = 64 ∧
      recvOne d = some item ∧ item.pkt.length = 48 ∧ item.wire.length = 64 ∧
      (Authenticator.verify lengthDigests .keyedMD5 md5Store item.pkt item.wire item.wire.length).exec
        (newAuthState AuthTypeKeyedMD5 0) = (newAuthState AuthTypeKeyedMD5 0, Go.fail .digestMismatch) := by
  refine ⟨_, _, _, _, rfl, rfl, rfl, rfl, rfl, rfl, rfl, rfl⟩

end Send

end GoBFD
