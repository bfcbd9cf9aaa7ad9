import GoBFD.Packet
import GoBFD.Go.Effects

/-!
# GoBFD.Auth

RFC 5880 authentication as `internal/bfd/auth.go` implements it: the key
store, the per-session `AuthState`, and the five authenticators, with the
MD5/SHA1 signer `signHash` and verifier `verifyHash` they share.

`Sign` and `Verify` write through their pointer arguments; the model returns
what the code leaves behind.

* `Authenticator.sign` returns the `AuthState` after the call (the sequence
  number is bumped before anything can fail) and, on success, the signed
  packet and the buffer it was serialized into.
* `Authenticator.verify` is a `Go.Writes AuthState` computation: it writes
  through `*state` where the code does, at the end of `verifyAndUpdateSeq`,
  and what it wrote stays whether or not it then fails.  Verification also
  writes key material into the received buffer before hashing; the model
  hashes that modified buffer, and since no caller reads the buffer
  afterwards it is not returned.

The MD5 and SHA1 functions of the Go standard library are a parameter
(`Digests`): the results hold for any functions with Go's output sizes.
-/

namespace GoBFD

/-! ## Errors and keys -/

/-- The sentinel errors of `auth.go`; `marshal` is the codec error that
`signHash` wraps. -/
inductive AuthError where
  | keyNotFound
  | typeMismatch
  | digestMismatch
  | passwordMismatch
  | seqOutOfWindow
  | missingSection
  | lenMismatch
  | keyTypeMismatch
  | secretInvalid
  | wireMissing
  | marshal (e : CodecError)
  deriving Repr, DecidableEq

/-- `AuthKey`: an Auth Key ID, the auth type it is for, and the secret. -/
structure AuthKey where
  id : UInt8
  type : AuthType
  secret : List UInt8
  deriving Repr, DecidableEq

/-- The `AuthKeyStore` interface.  `LookupKey` fails for an unknown ID, and
every caller replaces that error by its own `ErrAuthKeyNotFound`, so `none`
stands for it. -/
structure AuthKeyStore where
  lookupKey : UInt8 → Option AuthKey
  currentKey : AuthKey

/-- `validateAuthKey`: the secret lengths of RFC 5880 Sections 4.2 to 4.4. -/
def validateAuthKey (key : AuthKey) : Except AuthError Unit :=
  if key.type = AuthTypeSimplePassword ∨ key.type = AuthTypeKeyedMD5 ∨
      key.type = AuthTypeMeticulousKeyedMD5 then
    if key.secret.length < 1 ∨ key.secret.length > 16 then .error .secretInvalid else pure ()
  else if key.type = AuthTypeKeyedSHA1 ∨ key.type = AuthTypeMeticulousKeyedSHA1 then
    if key.secret.length < 1 ∨ key.secret.length > 20 then .error .secretInvalid else pure ()
  else
    .error .typeMismatch

/-- The map of a `StaticAuthKeyStore`: `keys[key.ID] = key` for each key in
order, so a later key replaces an earlier one with the same ID. -/
def staticKeys (keys : List AuthKey) : UInt8 → Option AuthKey :=
  keys.foldl (fun m key id => if id = key.id then some key else m id) fun _ => none

/-- `NewStaticAuthKeyStore(current, additional...)`. -/
def newStaticAuthKeyStore (current : AuthKey) (additional : List AuthKey) :
    Except AuthError AuthKeyStore := do
  validateAuthKey current
  additional.forM validateAuthKey
  pure { lookupKey := staticKeys (current :: additional), currentKey := current }

/-! ## Session authentication state -/

/-- `AuthState`: the RFC 5880 Section 6.8.1 variables of one session. -/
structure AuthState where
  type : AuthType
  rcvAuthSeq : UInt32
  xmitAuthSeq : UInt32
  authSeqKnown : Bool
  deriving Repr, DecidableEq

/-- `NewAuthState(authType)`; `seed` is the word read from `crypto/rand`. -/
def newAuthState (authType : AuthType) (seed : UInt32) : AuthState :=
  { type := authType, rcvAuthSeq := 0, xmitAuthSeq := seed, authSeqKnown := false }

/-- `SeqInWindow(seq, lo, hi)`: `seq` lies in `[lo, hi]` in circular 32-bit
space. -/
def seqInWindow (seq lo hi : UInt32) : Bool :=
  seq - lo ≤ hi - lo

/-- `hashParams`: what separates MD5 from SHA1 and the meticulous variants. -/
structure HashParams where
  authType : AuthType
  authLen : UInt8
  digestSize : Nat
  meticulous : Bool := false
  deriving Repr, DecidableEq

def hashParamsMD5 : HashParams :=
  { authType := AuthTypeKeyedMD5, authLen := authLenMD5, digestSize := md5DigestSize }

def hashParamsSHA1 : HashParams :=
  { authType := AuthTypeKeyedSHA1, authLen := authLenSHA1, digestSize := sha1DigestSize }

/-- `md5.Sum` and `sha1.Sum` as functions of the bytes hashed; Go's result
types are `[16]byte` and `[20]byte`. -/
structure Digests where
  md5 : List UInt8 → List UInt8
  sha1 : List UInt8 → List UInt8
  length_md5 : ∀ data, (md5 data).length = md5DigestSize
  length_sha1 : ∀ data, (sha1 data).length = sha1DigestSize

/-- `requireAuthSection`: the section a verifier needs. -/
def requireAuthSection (pkt : ControlPacket) : Go.Result AuthError AuthSection :=
  match pkt.auth with
  | some auth => .ok auth
  | none => Go.fail .missingSection

/-! ## Simple Password — RFC 5880 Section 6.7.2 -/

/-- `SimplePasswordAuth.Sign`: the current key's secret is the password; the
buffer is not written. -/
def SimplePasswordAuth.sign (keys : AuthKeyStore) (pkt : ControlPacket) : ControlPacket :=
  let key := keys.currentKey
  { pkt with
    auth := some {
      type := AuthTypeSimplePassword
      len := UInt8.ofNat (authSimpleHeaderSize + key.secret.length)
      keyID := key.id
      authData := key.secret }
    authPresent := true }

/-- `verifyPassword`: `subtle.ConstantTimeCompare` is equality of the byte
strings. -/
def verifyPassword (key : AuthKey) (auth : AuthSection) : Go.Result AuthError Unit := do
  let expectedLen := UInt8.ofNat (authSimpleHeaderSize + key.secret.length)
  if auth.len ≠ expectedLen then Go.fail .lenMismatch
  if auth.authData ≠ key.secret then Go.fail .passwordMismatch
  pure ()

/-- `SimplePasswordAuth.Verify`. -/
def SimplePasswordAuth.verify (keys : AuthKeyStore) (pkt : ControlPacket) :
    Go.Result AuthError Unit := do
  let auth ← requireAuthSection pkt
  if auth.type ≠ AuthTypeSimplePassword then Go.fail .typeMismatch
  let some key := keys.lookupKey auth.keyID | Go.fail .keyNotFound
  verifyPassword key auth

/-! ## Keyed MD5 and SHA1 — RFC 5880 Sections 6.7.3 and 6.7.4 -/

section Hash

variable (h : Digests)

/-- `computeDigest(data, p)`. -/
def computeDigest (data : List UInt8) (p : HashParams) : List UInt8 :=
  if p.digestSize = md5DigestSize then h.md5 data else h.sha1 data

/-- `buildAuthSection`: the section with the key, zero-padded to the digest
size, in the digest slot. -/
def buildAuthSection (key : AuthKey) (state : AuthState) (p : HashParams) : AuthSection :=
  { type := p.authType
    len := p.authLen
    keyID := key.id
    sequenceNumber := state.xmitAuthSeq
    digest := Go.copy (List.replicate p.digestSize 0) key.secret }

/-- `computeAndPlaceDigest(buf, n, p)`: hash `buf[:n]` and write the hash
into the digest slot at offset 32. -/
def computeAndPlaceDigest (buf : List UInt8) (n : Nat) (p : HashParams) :
    Go.Result ε (List UInt8) := do
  let digestOffset := HeaderSize + 8
  let digest := computeDigest h (← Go.slice buf 0 n) p
  Go.within buf digestOffset buf.length fun w => pure (Go.copy w digest)

/-- `copyDigest(buf, p)`: the digest slot, copied out. -/
def copyDigest (buf : List UInt8) (p : HashParams) : Go.Result ε (List UInt8) := do
  let digestOffset := HeaderSize + 8
  let slot ← Go.slice buf digestOffset (digestOffset + p.digestSize)
  pure (Go.copy (List.replicate p.digestSize 0) slot)

/-- `signHash(state, keys, pkt, buf, _, p)`: bump `XmitAuthSeq`, attach the
section with the key in the digest slot, serialize, hash `buf[0:n]` and put
the hash in the slot, in the buffer and in the packet. -/
def signHash (state : AuthState) (keys : AuthKeyStore) (pkt : ControlPacket)
    (buf : List UInt8) (p : HashParams) :
    AuthState × Go.Result AuthError (ControlPacket × List UInt8) :=
  let key := keys.currentKey
  let state := { state with xmitAuthSeq := state.xmitAuthSeq + 1 }
  let auth := buildAuthSection key state p
  let pkt := { pkt with auth := some auth, authPresent := true }
  (state, do
    let (n, buf) ← Go.wrap AuthError.marshal (marshalControlPacket pkt buf)
    let buf ← computeAndPlaceDigest h buf n p
    let digest ← copyDigest buf p
    pure ({ pkt with auth := some { auth with digest := digest } }, buf))

/-- `validateHashAuth`: a section of the verifier's type and Auth Len. -/
def validateHashAuth (pkt : ControlPacket) (p : HashParams) : Go.Result AuthError AuthSection := do
  let auth ← requireAuthSection pkt
  if auth.type ≠ p.authType then Go.fail .typeMismatch
  if auth.len ≠ p.authLen then Go.fail .lenMismatch
  pure auth

/-- `checkSeqWindow`; `auth` is `pkt.Auth`, which `validateHashAuth` found. -/
def checkSeqWindow (state : AuthState) (pkt : ControlPacket) (auth : AuthSection)
    (p : HashParams) : Go.Result AuthError Unit :=
  if !state.authSeqKnown then pure ()
  else
    let detectMult : UInt32 := pkt.detectMult.toUInt32
    let hi := state.rcvAuthSeq + 3 * detectMult
    let lo := if p.meticulous then state.rcvAuthSeq + 1 else state.rcvAuthSeq
    if !seqInWindow auth.sequenceNumber lo hi then Go.fail .seqOutOfWindow else pure ()

/-- `validateAuthWire`: the wire reaches past the digest slot. -/
def validateAuthWire (buf : List UInt8) (n : Nat) (p : HashParams) : Go.Result AuthError Unit :=
  let digestEnd := HeaderSize + 8 + p.digestSize
  if n < digestEnd ∨ buf.length < n then Go.fail .wireMissing else pure ()

/-- `clearDigestSlot`: `buf[offset+i] = 0` for `i` below `size`. -/
def clearDigestSlot (buf : List UInt8) (offset size : Nat) : Go.Result ε (List UInt8) :=
  (List.range size).foldlM (fun buf i => Go.store buf (offset + i) 0) buf

/-- The checks of `verifyAndUpdateSeq`: save the received digest, put the
key in the slot, hash `buf[:n]` and compare.  They write the caller's
buffer only. -/
def compareDigest (auth : AuthSection) (key : AuthKey) (buf : List UInt8) (n : Nat)
    (p : HashParams) : Go.Result AuthError Unit := do
  let savedDigest := Go.copy (List.replicate p.digestSize 0) auth.digest
  let digestOffset := HeaderSize + 8
  let buf ← clearDigestSlot buf digestOffset p.digestSize
  let buf ← Go.within buf digestOffset buf.length fun w => pure (Go.copy w key.secret)
  let computed := computeDigest h (← Go.slice buf 0 n) p
  if savedDigest ≠ computed then Go.fail .digestMismatch
  pure ()

/-- `verifyAndUpdateSeq(state, pkt, key, buf, n, p)`: the digest checks,
then the two writes through `state`. -/
def verifyAndUpdateSeq (auth : AuthSection) (key : AuthKey) (buf : List UInt8) (n : Nat)
    (p : HashParams) : Go.Writes AuthState AuthError Unit := do
  Go.Writes.lift (compareDigest h auth key buf n p)
  modify fun state => { state with rcvAuthSeq := auth.sequenceNumber }
  modify fun state => { state with authSeqKnown := true }

/-- `verifyHash(state, keys, pkt, buf, n, p)`; `checkSeqWindow` reads
`*state` as it stands when it is called. -/
def verifyHash (keys : AuthKeyStore) (pkt : ControlPacket) (buf : List UInt8) (n : Nat)
    (p : HashParams) : Go.Writes AuthState AuthError Unit := do
  let auth ← Go.Writes.lift (validateHashAuth pkt p)
  let some key := keys.lookupKey auth.keyID | Go.Writes.lift (Go.fail .keyNotFound)
  let state ← get
  Go.Writes.lift (checkSeqWindow state pkt auth p)
  Go.Writes.lift (validateAuthWire buf n p)
  verifyAndUpdateSeq h auth key buf n p

/-- The checks `verifyHash` makes before its writes, in the order it makes
them, with the section they find. -/
def verifyHashChecks (state : AuthState) (keys : AuthKeyStore) (pkt : ControlPacket)
    (buf : List UInt8) (n : Nat) (p : HashParams) : Go.Result AuthError AuthSection := do
  let auth ← validateHashAuth pkt p
  let some key := keys.lookupKey auth.keyID | Go.fail .keyNotFound
  checkSeqWindow state pkt auth p
  validateAuthWire buf n p
  compareDigest h auth key buf n p
  pure auth

section Exec

variable {auth : AuthSection} {key : AuthKey} {buf : List UInt8} {n : Nat} {p : HashParams}

/-- `verifyAndUpdateSeq` writes `*state` only once the digests match. -/
theorem verifyAndUpdateSeq_exec (state : AuthState) :
    (verifyAndUpdateSeq h auth key buf n p).exec state =
      match compareDigest h auth key buf n p with
      | .ok () => ({ state with rcvAuthSeq := auth.sequenceNumber, authSeqKnown := true }, .ok ())
      | .error e => (state, .error e) := by
  unfold verifyAndUpdateSeq
  rw [Go.Writes.exec_lift_bind]
  cases compareDigest h auth key buf n p <;> rfl

/-- `verifyHash` writes `*state` exactly when all its checks pass, and then
records the section's sequence number; a failed check leaves `*state` as
it was.  This follows from where the writes stand in `verifyAndUpdateSeq`:
after the digest comparison, the last check. -/
theorem verifyHash_exec (keys : AuthKeyStore) (pkt : ControlPacket) (state : AuthState) :
    (verifyHash h keys pkt buf n p).exec state =
      match verifyHashChecks h state keys pkt buf n p with
      | .ok auth => ({ state with rcvAuthSeq := auth.sequenceNumber, authSeqKnown := true }, .ok ())
      | .error e => (state, .error e) := by
  unfold verifyHash verifyHashChecks
  rw [Go.Writes.exec_lift_bind]
  rcases validateHashAuth pkt p with e | auth
  · rfl
  -- the key lookup, then the two checks that write nothing
  dsimp only [Go.ok_bind]
  cases keys.lookupKey auth.keyID with
  | none => rfl
  | some key =>
    dsimp only
    rw [Go.Writes.exec_get_bind, Go.Writes.exec_lift_bind]
    rcases checkSeqWindow state pkt auth p with e | ⟨⟩
    · rfl
    rw [Go.Writes.exec_lift_bind]
    rcases validateAuthWire buf n p with e | ⟨⟩
    · rfl
    rw [verifyAndUpdateSeq_exec]
    cases compareDigest h auth key buf n p <;> rfl

/-- A `verifyHash` that fails leaves `*state` as it was. -/
theorem verifyHash_exec_of_error {keys : AuthKeyStore} {pkt : ControlPacket} {state state' : AuthState}
    {e : Go.Fault AuthError} (hv : (verifyHash h keys pkt buf n p).exec state = (state', .error e)) :
    state' = state := by
  rw [verifyHash_exec] at hv
  split at hv
  · cases (Prod.mk.inj hv).2
  · exact (Prod.mk.inj hv).1.symm

end Exec

/-! The four hash authenticators are `signHash` and `verifyHash` at their
own parameters. -/

def KeyedMD5Auth.sign (state : AuthState) (keys : AuthKeyStore) (pkt : ControlPacket)
    (buf : List UInt8) := signHash h state keys pkt buf hashParamsMD5

def KeyedMD5Auth.verify (keys : AuthKeyStore) (pkt : ControlPacket) (buf : List UInt8) (n : Nat) :=
  verifyHash h keys pkt buf n hashParamsMD5

def MeticulousKeyedMD5Auth.sign (state : AuthState) (keys : AuthKeyStore) (pkt : ControlPacket)
    (buf : List UInt8) :=
  signHash h state keys pkt buf
    { hashParamsMD5 with meticulous := true, authType := AuthTypeMeticulousKeyedMD5 }

def MeticulousKeyedMD5Auth.verify (keys : AuthKeyStore) (pkt : ControlPacket) (buf : List UInt8)
    (n : Nat) :=
  verifyHash h keys pkt buf n
    { hashParamsMD5 with meticulous := true, authType := AuthTypeMeticulousKeyedMD5 }

def KeyedSHA1Auth.sign (state : AuthState) (keys : AuthKeyStore) (pkt : ControlPacket)
    (buf : List UInt8) := signHash h state keys pkt buf hashParamsSHA1

def KeyedSHA1Auth.verify (keys : AuthKeyStore) (pkt : ControlPacket) (buf : List UInt8) (n : Nat) :=
  verifyHash h keys pkt buf n hashParamsSHA1

def MeticulousKeyedSHA1Auth.sign (state : AuthState) (keys : AuthKeyStore) (pkt : ControlPacket)
    (buf : List UInt8) :=
  signHash h state keys pkt buf
    { hashParamsSHA1 with meticulous := true, authType := AuthTypeMeticulousKeyedSHA1 }

def MeticulousKeyedSHA1Auth.verify (keys : AuthKeyStore) (pkt : ControlPacket) (buf : List UInt8)
    (n : Nat) :=
  verifyHash h keys pkt buf n
    { hashParamsSHA1 with meticulous := true, authType := AuthTypeMeticulousKeyedSHA1 }

end Hash

/-! ## The Authenticator interface -/

/-- The five implementations of `Authenticator`, the ones `NewAuthenticator`
returns. -/
inductive Authenticator where
  | simplePassword
  | keyedMD5
  | meticulousKeyedMD5
  | keyedSHA1
  | meticulousKeyedSHA1
  deriving Repr, DecidableEq

/-- `NewAuthenticator(authType)`. -/
def newAuthenticator (authType : AuthType) : Except AuthError Authenticator :=
  if authType = AuthTypeSimplePassword then .ok .simplePassword
  else if authType = AuthTypeKeyedMD5 then .ok .keyedMD5
  else if authType = AuthTypeMeticulousKeyedMD5 then .ok .meticulousKeyedMD5
  else if authType = AuthTypeKeyedSHA1 then .ok .keyedSHA1
  else if authType = AuthTypeMeticulousKeyedSHA1 then .ok .meticulousKeyedSHA1
  else .error .typeMismatch

/-- `authenticatorType(auth)`, which reports `ok` for all five. -/
def authenticatorType : Authenticator → AuthType
  | .simplePassword => AuthTypeSimplePassword
  | .keyedMD5 => AuthTypeKeyedMD5
  | .meticulousKeyedMD5 => AuthTypeMeticulousKeyedMD5
  | .keyedSHA1 => AuthTypeKeyedSHA1
  | .meticulousKeyedSHA1 => AuthTypeMeticulousKeyedSHA1

section Interface

variable (h : Digests)

/-- `auth.Sign(state, keys, pkt, buf, n)`; no implementation reads `n`. -/
def Authenticator.sign : Authenticator → AuthState → AuthKeyStore → ControlPacket →
    List UInt8 → AuthState × Go.Result AuthError (ControlPacket × List UInt8)
  | .simplePassword, state, keys, pkt, buf => (state, .ok (SimplePasswordAuth.sign keys pkt, buf))
  | .keyedMD5, state, keys, pkt, buf => KeyedMD5Auth.sign h state keys pkt buf
  | .meticulousKeyedMD5, state, keys, pkt, buf => MeticulousKeyedMD5Auth.sign h state keys pkt buf
  | .keyedSHA1, state, keys, pkt, buf => KeyedSHA1Auth.sign h state keys pkt buf
  | .meticulousKeyedSHA1, state, keys, pkt, buf => MeticulousKeyedSHA1Auth.sign h state keys pkt buf

/-- `auth.Verify(state, keys, pkt, buf, n)`, writing through `state`; Simple
Password ignores it. -/
def Authenticator.verify : Authenticator → AuthKeyStore → ControlPacket → List UInt8 → Nat →
    Go.Writes AuthState AuthError Unit
  | .simplePassword, keys, pkt, _, _ => Go.Writes.lift (SimplePasswordAuth.verify keys pkt)
  | .keyedMD5, keys, pkt, buf, n => KeyedMD5Auth.verify h keys pkt buf n
  | .meticulousKeyedMD5, keys, pkt, buf, n => MeticulousKeyedMD5Auth.verify h keys pkt buf n
  | .keyedSHA1, keys, pkt, buf, n => KeyedSHA1Auth.verify h keys pkt buf n
  | .meticulousKeyedSHA1, keys, pkt, buf, n => MeticulousKeyedSHA1Auth.verify h keys pkt buf n

/-- A `Verify` that fails leaves `*state` as it was: the hash verifiers
write it only after their last check, and Simple Password never does. -/
theorem Authenticator.verify_exec_of_error {a : Authenticator} {keys : AuthKeyStore}
    {pkt : ControlPacket} {buf : List UInt8} {n : Nat} {state state' : AuthState} {e : Go.Fault AuthError}
    (hv : (a.verify h keys pkt buf n).exec state = (state', .error e)) : state' = state := by
  cases a with
  | simplePassword => exact (Prod.mk.inj hv).1.symm
  | keyedMD5 => exact verifyHash_exec_of_error h hv
  | meticulousKeyedMD5 => exact verifyHash_exec_of_error h hv
  | keyedSHA1 => exact verifyHash_exec_of_error h hv
  | meticulousKeyedSHA1 => exact verifyHash_exec_of_error h hv

end Interface

end GoBFD
