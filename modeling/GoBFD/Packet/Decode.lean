import GoBFD.Packet

/-!
# GoBFD.Packet.Decode

What `UnmarshalControlPacket` accepts and what it returns, stated over the
raw bytes.

* `IsControlPacket b` is the grammar of RFC 5880 Section 6.8.6 steps 1 to 7
  plus the auth section layout, read directly off the byte string, and
  `IsAuthSection s` the layout of a section.
* `packetView b` is the packet the decoder builds: the header fields read
  from their bit positions and big-endian words (`headerOf`), and the
  section read by `authView`.
* `unmarshalControlPacket_eq_ok_iff`: the decoder succeeds with `p` exactly
  when `b` is in the grammar and `p = packetView b`;
  `unmarshalControlPacket_ne_panic`: no input makes it index outside `b`.

The decoder interleaves reads and checks over four functions.  Each gets one
equation that resolves its reads (`unmarshalSimplePassword_eq`,
`unmarshalHashAuth_eq`, `unmarshalAuthSection_eq`, `unmarshal_eq`), and the
characterisations are read off those equations branch by branch.
-/

namespace GoBFD

/-! ## Reading bytes -/

/-- The big-endian word at offset `i`, as `binary.BigEndian.Uint32(b[i:i+4])`
reads it. -/
def wordAt (b : List UInt8) (i : Nat) : UInt32 :=
  Go.wordBE (b.getD i 0) (b.getD (i + 1) 0) (b.getD (i + 2) 0) (b.getD (i + 3) 0)

theorem getElem_eq_getD {b : List UInt8} {i : Nat} (h : i < b.length) : b[i] = b.getD i 0 := by
  simp [List.getD_eq_getElem?_getD, List.getElem?_eq_getElem h]

/-- A window opened one byte at a time. -/
theorem take_succ_drop {b : List UInt8} {i n : Nat} (h : i < b.length) :
    (b.drop i).take (n + 1) = b.getD i 0 :: (b.drop (i + 1)).take n := by
  rw [List.drop_eq_getElem_cons h, List.take_succ_cons, getElem_eq_getD]

/-- The four bytes at offset `i`. -/
theorem take_four_drop {b : List UInt8} {i : Nat} (h : i + 4 ≤ b.length) :
    (b.drop i).take 4 = [b.getD i 0, b.getD (i + 1) 0, b.getD (i + 2) 0, b.getD (i + 3) 0] := by
  rw [take_succ_drop (by omega), take_succ_drop (by omega), take_succ_drop (by omega),
    take_succ_drop (by omega), List.take_zero]

theorem uint32_window {b : List UInt8} {i : Nat} (h : i + 4 ≤ b.length) :
    (Go.uint32 ((b.drop i).take (i + 4 - i)) : Go.Result ε UInt32) = .ok (wordAt b i) := by
  rw [Nat.add_sub_cancel_left, take_four_drop h]
  rfl

/-- A word read from the wire is zero exactly when its four bytes are. -/
theorem wordAt_eq_zero_iff {b : List UInt8} {i : Nat} (h : i + 4 ≤ b.length) :
    wordAt b i = 0 ↔ (b.drop i).take 4 = [0, 0, 0, 0] := by
  rw [take_four_drop h]
  constructor
  · intro hw
    have hb := Go.bytesBE_wordBE (b.getD i 0) (b.getD (i + 1) 0) (b.getD (i + 2) 0)
      (b.getD (i + 3) 0)
    rw [← wordAt, hw] at hb
    rw [← hb]
    rfl
  · intro hz
    simp only [List.cons.injEq, and_true] at hz
    obtain ⟨h₀, h₁, h₂, h₃⟩ := hz
    simp only [wordAt, h₀, h₁, h₂, h₃]
    rfl

/-! ## What the decoder builds -/

/-- The header fields as the decoder reads them from bytes 0 to 23. -/
def headerOf (b : List UInt8) : ControlPacket :=
  let b₀ := b.getD 0 0
  let flags := b.getD 1 0
  { version := b₀ >>> 5
    diag := b₀ &&& 0x1F
    state := State.ofUInt8 (flags >>> 6)
    poll := flags &&& ((1 : UInt8) <<< 5) != 0
    final := flags &&& ((1 : UInt8) <<< 4) != 0
    controlPlaneIndependent := flags &&& ((1 : UInt8) <<< 3) != 0
    authPresent := flags &&& ((1 : UInt8) <<< 2) != 0
    demand := flags &&& ((1 : UInt8) <<< 1) != 0
    multipoint := flags &&& ((1 : UInt8) <<< 0) != 0
    detectMult := b.getD 2 0
    length := b.getD 3 0
    myDiscriminator := wordAt b 4
    yourDiscriminator := wordAt b 8
    desiredMinTxInterval := wordAt b 12
    requiredMinRxInterval := wordAt b 16
    requiredMinEchoRxInterval := wordAt b 20 }

/-- The section as the decoder reads it: the password runs from byte 3 to
Len, the digest from byte 8 to Len. -/
def authView (s : List UInt8) : AuthSection :=
  let type := s.getD 0 0
  let len := s.getD 1 0
  if type = AuthTypeSimplePassword then
    { type := type
      len := len
      keyID := s.getD 2 0
      authData := (s.drop 3).take (len.toNat - 3) }
  else
    { type := type
      len := len
      keyID := s.getD 2 0
      sequenceNumber := wordAt s 4
      digest := (s.drop 8).take (len.toNat - 8) }

/-- The bytes of the auth section: from the header's end to Length. -/
def authBytes (b : List UInt8) : List UInt8 :=
  (b.drop HeaderSize).take ((b.getD 3 0).toNat - HeaderSize)

/-- The packet the decoder returns. -/
def packetView (b : List UInt8) : ControlPacket :=
  { headerOf b with
    auth := if (headerOf b).authPresent then some (authView (authBytes b)) else none }

/-! ## The grammar -/

/-- The auth section layout: Auth Type 1 to 5, and an Auth Len that fits the
type and the section. -/
def IsAuthSection (s : List UInt8) : Prop :=
  (s.getD 0 0 = AuthTypeSimplePassword ∧ 4 ≤ (s.getD 1 0).toNat ∧ (s.getD 1 0).toNat ≤ 19 ∧
      (s.getD 1 0).toNat ≤ s.length) ∨
    ((s.getD 0 0 = AuthTypeKeyedMD5 ∨ s.getD 0 0 = AuthTypeMeticulousKeyedMD5) ∧
      (s.getD 1 0).toNat = 24 ∧ 24 ≤ s.length) ∨
    ((s.getD 0 0 = AuthTypeKeyedSHA1 ∨ s.getD 0 0 = AuthTypeMeticulousKeyedSHA1) ∧
      (s.getD 1 0).toNat = 28 ∧ 28 ≤ s.length)

instance (s : List UInt8) : Decidable (IsAuthSection s) :=
  inferInstanceAs (Decidable (_ ∨ _))

/-- RFC 5880 Section 6.8.6 steps 1 to 7 on the raw bytes: a 24-byte header,
version 1, a Length (byte 3) of at least 26 with the A bit (0x04 of byte 1)
and 24 without, within the bytes, a nonzero Detect Mult, a clear M bit
(0x01), a nonzero My Discriminator (bytes 4 to 7), a nonzero Your
Discriminator (bytes 8 to 11) unless the State (the top two bits of byte 1)
is AdminDown (0) or Down (1); and with the A bit, an auth section from byte
24 to Length. -/
def IsControlPacket (b : List UInt8) : Prop :=
  24 ≤ b.length ∧
    b.getD 0 0 >>> 5 = 1 ∧
    (if b.getD 1 0 &&& 0x04 ≠ 0 then 26 else 24) ≤ (b.getD 3 0).toNat ∧
    (b.getD 3 0).toNat ≤ b.length ∧
    b.getD 2 0 ≠ 0 ∧
    b.getD 1 0 &&& 0x01 = 0 ∧
    (b.drop 4).take 4 ≠ [0, 0, 0, 0] ∧
    ((b.drop 8).take 4 ≠ [0, 0, 0, 0] ∨ b.getD 1 0 >>> 6 ≤ 1) ∧
    (b.getD 1 0 &&& 0x04 ≠ 0 → IsAuthSection ((b.drop 24).take ((b.getD 3 0).toNat - 24)))

instance (b : List UInt8) : Decidable (IsControlPacket b) :=
  inferInstanceAs (Decidable (_ ∧ _))

/-! ## The auth section decoders -/

/-- `unmarshalSimplePassword` with its reads resolved: it accepts an Auth Len
from 4 to 19 within the section. -/
theorem unmarshalSimplePassword_eq (s : List UInt8) (t l : UInt8) :
    unmarshalSimplePassword s { type := t, len := l } =
      if 4 ≤ l.toNat ∧ l.toNat ≤ 19 ∧ l.toNat ≤ s.length then
        .ok { type := t, len := l, keyID := s.getD 2 0, authData := (s.drop 3).take (l.toNat - 3) }
      else Go.fail .authSectionTruncated := by
  have hlt : (l < UInt8.ofNat (authSimpleHeaderSize + simplePasswordMinLen)) ↔ l.toNat < 4 := by
    simp [authSimpleHeaderSize, simplePasswordMinLen, UInt8.lt_iff_toNat_lt]
  simp only [unmarshalSimplePassword]
  by_cases h₁ : l.toNat < 4
  · rw [if_pos (hlt.mpr h₁), Go.fail_bind, if_neg (by omega)]
  rw [if_neg (mt hlt.mp h₁)]
  by_cases h₂ : s.length < l.toNat
  · rw [if_pos h₂, Go.fail_bind, if_neg (by omega)]
  have h₃ : 2 < s.length := by omega
  have hpw : ((l.toNat : Int) - authSimpleHeaderSize).toNat = l.toNat - 3 := by
    simp only [authSimpleHeaderSize]
    omega
  simp only [if_neg h₂, Go.load_of_lt h₃, Go.ok_bind, hpw]
  by_cases h₄ : 19 < l.toNat
  · rw [if_pos (by simp only [authSimpleHeaderSize, simplePasswordMaxLen]; omega), Go.fail_bind,
      if_neg (by omega)]
  rw [if_neg (by simp only [authSimpleHeaderSize, simplePasswordMinLen, simplePasswordMaxLen]; omega),
    Go.slice_of_le (by omega) (by omega), if_pos (by omega)]
  simp [getElem_eq_getD]

/-- `unmarshalHashAuth` with its reads resolved, for a digest that ends
within the expected length: it accepts exactly the expected Auth Len within
the section. -/
theorem unmarshalHashAuth_eq (s : List UInt8) (t l expectedLen : UInt8) (digestSize : Nat)
    (hd : 8 + digestSize ≤ expectedLen.toNat) :
    unmarshalHashAuth s { type := t, len := l } expectedLen digestSize =
      if l = expectedLen ∧ expectedLen.toNat ≤ s.length then
        .ok {
          type := t
          len := l
          keyID := s.getD 2 0
          sequenceNumber := wordAt s 4
          digest := (s.drop 8).take digestSize }
      else Go.fail (if l ≠ expectedLen then .invalidLength else .authSectionTruncated) := by
  simp only [unmarshalHashAuth]
  by_cases h₁ : l ≠ expectedLen
  · rw [if_pos h₁, Go.fail_bind, if_neg (by tauto), if_pos h₁]
  rw [if_neg h₁]
  by_cases h₂ : s.length < expectedLen.toNat
  · rw [if_pos h₂, Go.fail_bind, if_neg (by omega), if_neg h₁]
  rw [if_neg h₂, if_pos ⟨not_not.mp h₁, by omega⟩, Go.load_of_lt (by omega), Go.ok_bind,
    Go.slice_of_le (by omega) (by omega), Go.ok_bind, uint32_window (by omega), Go.ok_bind,
    Go.slice_of_le (by omega) (by omega), Go.ok_bind, Nat.add_sub_cancel_left,
    getElem_eq_getD]
  rfl

/-- `unmarshalAuthSection` with its reads resolved. -/
theorem unmarshalAuthSection_eq {s : List UInt8} (hs : 2 ≤ s.length) :
    unmarshalAuthSection s =
      if s.length + HeaderSize < (s.getD 1 0).toNat then Go.fail .authSectionTruncated
      else if s.getD 0 0 = AuthTypeSimplePassword then
        unmarshalSimplePassword s { type := s.getD 0 0, len := s.getD 1 0 }
      else if s.getD 0 0 = AuthTypeKeyedMD5 ∨ s.getD 0 0 = AuthTypeMeticulousKeyedMD5 then
        unmarshalHashAuth s { type := s.getD 0 0, len := s.getD 1 0 } authLenMD5 md5DigestSize
      else if s.getD 0 0 = AuthTypeKeyedSHA1 ∨ s.getD 0 0 = AuthTypeMeticulousKeyedSHA1 then
        unmarshalHashAuth s { type := s.getD 0 0, len := s.getD 1 0 } authLenSHA1 sha1DigestSize
      else Go.fail .invalidAuthType := by
  simp only [unmarshalAuthSection, if_neg (Nat.not_lt.mpr hs),
    Go.load_of_lt (show 0 < s.length by omega), Go.load_of_lt (show 1 < s.length by omega),
    Go.ok_bind, getElem_eq_getD]
  rfl

theorem authView_simple {s : List UInt8} (h : s.getD 0 0 = AuthTypeSimplePassword) :
    authView s = {
      type := s.getD 0 0
      len := s.getD 1 0
      keyID := s.getD 2 0
      authData := (s.drop 3).take ((s.getD 1 0).toNat - 3) } := by
  simp only [authView]
  rw [if_pos h]

theorem authView_hash {s : List UInt8} {digestSize : Nat} (h : s.getD 0 0 ≠ AuthTypeSimplePassword)
    (hl : (s.getD 1 0).toNat = 8 + digestSize) :
    authView s = {
      type := s.getD 0 0
      len := s.getD 1 0
      keyID := s.getD 2 0
      sequenceNumber := wordAt s 4
      digest := (s.drop 8).take digestSize } := by
  simp only [authView]
  rw [if_neg h, hl, Nat.add_sub_cancel_left]

/-- The MD5 and SHA1 branches: a section of a hash type is accepted when its
Len is the expected one and fits. -/
theorem unmarshalHashAuth_decides {s : List UInt8} (ht : s.getD 0 0 ≠ AuthTypeSimplePassword)
    (expectedLen : UInt8) (digestSize : Nat) (hd : 8 + digestSize = expectedLen.toNat)
    (hiff : (s.getD 1 0 = expectedLen ∧ expectedLen.toNat ≤ s.length) ↔ IsAuthSection s) :
    Go.Decides (unmarshalHashAuth s { type := s.getD 0 0, len := s.getD 1 0 } expectedLen digestSize)
      (IsAuthSection s) (authView s) := by
  rw [unmarshalHashAuth_eq _ _ _ _ _ hd.le]
  refine (Go.decides_ite (fun hc => (authView_hash ht ?_).symm) _).of_iff hiff
  rw [hc.1]
  omega

/-- `unmarshalAuthSection` decides the section layout, with value `authView`. -/
theorem unmarshalAuthSection_decides (s : List UInt8) :
    Go.Decides (unmarshalAuthSection s) (IsAuthSection s) (authView s) := by
  by_cases hs : s.length < 2
  · -- too short for Type and Len
    rw [show unmarshalAuthSection s = Go.fail .authSectionTruncated by
      simp [unmarshalAuthSection, hs]]
    exact Go.decides_fail (by simp only [IsAuthSection]; omega) _
  rw [unmarshalAuthSection_eq (by omega)]
  refine Go.Decides.ite (fun hb => Go.decides_fail ?_ _) fun hb => ?_
  · -- the bound `auth.Len > len(buf)+HeaderSize` is implied by the per-type ones
    simp only [IsAuthSection, HeaderSize] at hb ⊢
    omega
  refine Go.Decides.ite (fun h₁ => ?_) fun h₁ => Go.Decides.ite (fun h₂ => ?_) fun h₂ =>
    Go.Decides.ite (fun h₃ => ?_) fun h₃ => Go.decides_fail ?_ _
  · rw [unmarshalSimplePassword_eq]
    refine (Go.decides_ite (fun _ => (authView_simple h₁).symm) _).of_iff ?_
    simp only [IsAuthSection, h₁]
    simp [AuthTypeSimplePassword, AuthTypeKeyedMD5, AuthTypeMeticulousKeyedMD5,
      AuthTypeKeyedSHA1, AuthTypeMeticulousKeyedSHA1]
  · refine unmarshalHashAuth_decides h₁ _ _ rfl ?_
    rcases h₂ with h | h <;> simp only [IsAuthSection, h] <;>
      simp [AuthTypeSimplePassword, AuthTypeKeyedMD5, AuthTypeMeticulousKeyedMD5,
        AuthTypeKeyedSHA1, AuthTypeMeticulousKeyedSHA1, authLenMD5, ← UInt8.toNat_inj]
  · refine unmarshalHashAuth_decides h₁ _ _ rfl ?_
    rcases h₃ with h | h <;> simp only [IsAuthSection, h] <;>
      simp [AuthTypeSimplePassword, AuthTypeKeyedMD5, AuthTypeMeticulousKeyedMD5,
        AuthTypeKeyedSHA1, AuthTypeMeticulousKeyedSHA1, authLenSHA1, ← UInt8.toNat_inj]
  · simp only [IsAuthSection]
    tauto

/-! ## The packet decoder -/

section Packet

variable {b : List UInt8}

theorem unmarshal_short (hb : b.length < MinPacketSizeNoAuth) :
    unmarshalControlPacket b = Go.fail .packetTooShort := by
  simp [unmarshalControlPacket, hb]

/-- `UnmarshalControlPacket` with its header reads resolved: the RFC checks
on the decoded header in the code's order, then the auth section. -/
theorem unmarshal_eq (hb : 24 ≤ b.length) :
    unmarshalControlPacket b =
      if (headerOf b).version ≠ Version then Go.fail .invalidVersion
      else if (headerOf b).length < (if (headerOf b).authPresent then
          UInt8.ofNat MinPacketSizeWithAuth else UInt8.ofNat MinPacketSizeNoAuth) then
        Go.fail .invalidLength
      else if b.length < (headerOf b).length.toNat then Go.fail .lengthExceedsPayload
      else if (headerOf b).detectMult = 0 then Go.fail .zeroDetectMult
      else if (headerOf b).multipoint then Go.fail .multipointSet
      else if (headerOf b).myDiscriminator = 0 then Go.fail .zeroMyDiscriminator
      else if (headerOf b).yourDiscriminator = 0 ∧ (headerOf b).state ≠ .down ∧
          (headerOf b).state ≠ .adminDown then
        Go.fail .zeroYourDiscriminator
      else if (headerOf b).authPresent then do
        let authBytes ← Go.slice b HeaderSize (headerOf b).length.toNat
        let auth ← some <$> unmarshalAuthSection authBytes
        pure { headerOf b with auth := auth }
      else .ok (headerOf b) := by
  simp only [unmarshalControlPacket, MinPacketSizeNoAuth, show ¬ b.length < 24 by omega, if_false,
    Go.load_of_lt (show 23 < b.length by omega), Go.load_of_lt (show 0 < b.length by omega),
    Go.load_of_lt (show 1 < b.length by omega), Go.load_of_lt (show 2 < b.length by omega),
    Go.load_of_lt (show 3 < b.length by omega), Go.ok_bind, Go.fail_bind,
    Go.slice_of_le (show 4 ≤ 8 by omega) (show 8 ≤ b.length by omega),
    Go.slice_of_le (show 8 ≤ 12 by omega) (show 12 ≤ b.length by omega),
    Go.slice_of_le (show 12 ≤ 16 by omega) (show 16 ≤ b.length by omega),
    Go.slice_of_le (show 16 ≤ 20 by omega) (show 20 ≤ b.length by omega),
    Go.slice_of_le (show 20 ≤ 24 by omega) (show 24 ≤ b.length by omega),
    uint32_window (show 4 + 4 ≤ b.length by omega), uint32_window (show 8 + 4 ≤ b.length by omega),
    uint32_window (show 12 + 4 ≤ b.length by omega), uint32_window (show 16 + 4 ≤ b.length by omega),
    uint32_window (show 20 + 4 ≤ b.length by omega), getElem_eq_getD]
  rfl

theorem headerOf_authPresent (b : List UInt8) :
    (headerOf b).authPresent = true ↔ b.getD 1 0 &&& 0x04 ≠ 0 := by
  simp [headerOf, show (1 : UInt8) <<< 2 = 0x04 from rfl]

theorem headerOf_multipoint (b : List UInt8) :
    (headerOf b).multipoint = true ↔ b.getD 1 0 &&& 0x01 ≠ 0 := by
  simp [headerOf]

/-- The states that allow a zero Your Discriminator are the 2-bit values 0
and 1. -/
theorem State.ofUInt8_down_or_adminDown (x : UInt8) :
    (State.ofUInt8 x = .down ∨ State.ofUInt8 x = .adminDown) ↔ x ≤ 1 := by
  rw [UInt8.le_iff_toNat_le]
  unfold State.ofUInt8
  split <;> simp_all
  omega

/-- The grammar is the conjunction of the decoder's checks, each negated. -/
theorem isControlPacket_iff (hb : 24 ≤ b.length) :
    IsControlPacket b ↔
      ¬ (headerOf b).version ≠ Version ∧
      ¬ (headerOf b).length < (if (headerOf b).authPresent then
          UInt8.ofNat MinPacketSizeWithAuth else UInt8.ofNat MinPacketSizeNoAuth) ∧
      ¬ b.length < (headerOf b).length.toNat ∧
      ¬ (headerOf b).detectMult = 0 ∧
      ¬ (headerOf b).multipoint = true ∧
      ¬ (headerOf b).myDiscriminator = 0 ∧
      ¬ ((headerOf b).yourDiscriminator = 0 ∧ (headerOf b).state ≠ .down ∧
          (headerOf b).state ≠ .adminDown) ∧
      ((headerOf b).authPresent = true → IsAuthSection (authBytes b)) := by
  have hmy := wordAt_eq_zero_iff (i := 4) (by omega : 4 + 4 ≤ b.length)
  have hyour := wordAt_eq_zero_iff (i := 8) (by omega : 8 + 4 ≤ b.length)
  have hstate := State.ofUInt8_down_or_adminDown (b.getD 1 0 >>> 6)
  have hmin : ¬ (headerOf b).length < (if (headerOf b).authPresent then
        UInt8.ofNat MinPacketSizeWithAuth else UInt8.ofNat MinPacketSizeNoAuth) ↔
      (if b.getD 1 0 &&& 0x04 ≠ 0 then 26 else 24) ≤ (b.getD 3 0).toNat := by
    by_cases hA : b.getD 1 0 &&& 0x04 ≠ 0
    · rw [if_pos ((headerOf_authPresent b).mpr hA), if_pos hA]
      simp [headerOf, MinPacketSizeWithAuth, UInt8.lt_iff_toNat_lt]
    · rw [if_neg (mt (headerOf_authPresent b).mp hA), if_neg hA]
      simp [headerOf, MinPacketSizeNoAuth, UInt8.lt_iff_toNat_lt]
  rw [hmin, headerOf_authPresent, headerOf_multipoint]
  simp only [IsControlPacket, authBytes, HeaderSize, headerOf, Version, hb, true_and]
  rw [hmy, hyour, ← hstate]
  simp only [not_not, Nat.not_lt]
  -- the conjuncts match one for one; the Your Discriminator check is a
  -- disjunction in the grammar and a negated conjunction in the code
  simp only [ne_eq, not_and_or, not_not]

/-- The auth branch: with the A bit set and a Length the checks admitted, the
section is decoded from the bytes between the header and Length. -/
theorem unmarshal_auth_decides (h24 : HeaderSize ≤ (headerOf b).length.toNat)
    (hlen : (headerOf b).length.toNat ≤ b.length) :
    Go.Decides
      (if (headerOf b).authPresent then do
        let authBytes ← Go.slice b HeaderSize (headerOf b).length.toNat
        let auth ← some <$> unmarshalAuthSection authBytes
        pure { headerOf b with auth := auth }
      else .ok (headerOf b))
      ((headerOf b).authPresent = true → IsAuthSection (authBytes b)) (packetView b) := by
  refine Go.Decides.ite (fun hA => ?_) fun hA => Go.decides_ok (fun h => absurd h hA) ?_
  · rw [Go.slice_of_le h24 hlen, Go.ok_bind, bind_pure_comp]
    refine (((unmarshalAuthSection_decides (authBytes b)).map some rfl).map _ ?_).of_iff ?_
    · simp [packetView, hA]
    · simp [hA]
  · simp only [packetView, if_neg hA]
    rfl

/-- `UnmarshalControlPacket` decides the grammar, with value `packetView`. -/
theorem unmarshalControlPacket_decides (b : List UInt8) :
    Go.Decides (unmarshalControlPacket b) (IsControlPacket b) (packetView b) := by
  by_cases hb : b.length < MinPacketSizeNoAuth
  · rw [unmarshal_short hb]
    exact Go.decides_fail (fun hP => absurd hP.1 (by simp only [MinPacketSizeNoAuth] at hb; omega)) _
  have hb' : 24 ≤ b.length := by simp only [MinPacketSizeNoAuth] at hb; omega
  refine Go.Decides.of_iff ?_ (isControlPacket_iff hb').symm
  rw [unmarshal_eq hb']
  refine Go.Decides.guard (fun h₁ => ?_) _
  refine Go.Decides.guard (fun h₂ => ?_) _
  refine Go.Decides.guard (fun h₃ => ?_) _
  refine Go.Decides.guard (fun h₄ => ?_) _
  refine Go.Decides.guard (fun h₅ => ?_) _
  refine Go.Decides.guard (fun h₆ => ?_) _
  refine Go.Decides.guard (fun h₇ => ?_) _
  -- steps 2 and 3 leave a Length between the header size and the payload size
  refine unmarshal_auth_decides ?_ (by omega)
  split at h₂ <;>
    simp [UInt8.lt_iff_toNat_lt, MinPacketSizeWithAuth, MinPacketSizeNoAuth, HeaderSize] at h₂ ⊢ <;>
    omega

/-- `UnmarshalControlPacket` accepts exactly the byte strings of the grammar,
and on no input does it index outside the buffer. -/
theorem unmarshalControlPacket_ok_iff_grammar (b : List UInt8) :
    ((∃ pkt, unmarshalControlPacket b = .ok pkt) ↔ IsControlPacket b) ∧
      unmarshalControlPacket b ≠ .error .panic := by
  have hd := unmarshalControlPacket_decides b
  refine ⟨⟨fun ⟨pkt, hpkt⟩ => (hd.eq_ok_iff.mp hpkt).1, fun hP => ⟨_, hd.eq_ok_iff.mpr ⟨hP, rfl⟩⟩⟩,
    hd.ne_panic⟩

/-- A Down packet without authentication from discriminator 1. -/
example : IsControlPacket
    [0x20, 0x40, 3, 24, 0, 0, 0, 1, 0, 0, 0, 0, 0, 0, 0x03, 0xE8, 0, 0, 0x03, 0xE8, 0, 0, 0, 0] := by
  decide

end Packet

end GoBFD
