import GoBFD.Session.Transmit
import Mathlib.Data.List.Chain

/-!
# GoBFD.Auth.Verify

What `Verify` does to the receive half of `AuthState`, in one call and over
a run of calls on one state.

`verifyHash` reads the state once, in `checkSeqWindow`, and writes it once,
in the last lines of `verifyAndUpdateSeq`, after the digest comparison.
From this:

* a call that fails leaves `*state` as it was, and a hash type's success
  records the packet's Sequence Number and nothing else
  (`Authenticator.verifyInPlace`, `verify_state_atomic`);
* the numbers a run accepts move through the windows of RFC 5880 Sections
  6.7.3 and 6.7.4 (`InSeqWindow`): each at most three times the Detect Mult
  of its packet ahead of the one before, and at least one ahead for the
  meticulous types; a number already accepted is refused until the sequence
  has gone most of the way round (`accepted_seqs_in_window`).

The meticulous window is `[RcvAuthSeq + 1, RcvAuthSeq + 3 * DetectMult]`.
With Detect Mult 0 its upper end lies below its lower one, and in circular
32-bit space that window holds every number
(`checkSeqWindow_meticulous_zero`).  The decoder refuses such packets
(`unmarshalControlPacket_detectMult`); `Verify` itself does not.
-/

namespace GoBFD

/-! ## Circular windows -/

/-- RFC 5880 Sections 6.7.3 and 6.7.4: the numbers a receiver that last
accepted `rcv` takes from a packet with Detect Mult `detectMult`: at most
`3 * detectMult` ahead of `rcv` in circular 32-bit space, and strictly ahead
for the meticulous types. -/
def InSeqWindow (meticulous : Bool) (rcv : UInt32) (detectMult : UInt8) (seq : UInt32) : Prop :=
  (if meticulous then 1 else 0) ≤ (seq - rcv).toNat ∧ (seq - rcv).toNat ≤ 3 * detectMult.toNat

instance {m : Bool} {r : UInt32} {d : UInt8} {s : UInt32} : Decidable (InSeqWindow m r d s) :=
  inferInstanceAs (Decidable (_ ∧ _))

/-- The width `3 * DetectMult` of a window never wraps. -/
theorem toNat_three_mul_toUInt32 (d : UInt8) : (3 * d.toUInt32).toNat = 3 * d.toNat := by
  have hd := d.toNat_lt
  rw [UInt32.toNat_mul, UInt8.toNat_toUInt32]
  simp only [UInt32.reduceToNat]
  omega

theorem seqInWindow_add_iff (seq rcv w : UInt32) :
    seqInWindow seq rcv (rcv + w) = true ↔ (seq - rcv).toNat ≤ w.toNat := by
  have hw : rcv + w - rcv = w := by
    rw [← UInt32.toNat_inj, UInt32.toNat_sub, UInt32.toNat_add]
    have := rcv.toNat_lt
    have := w.toNat_lt
    omega
  simp only [seqInWindow, hw, decide_eq_true_eq, UInt32.le_iff_toNat_le]

theorem seqInWindow_succ_add_iff (seq rcv w : UInt32) (hw : 1 ≤ w.toNat) :
    seqInWindow seq (rcv + 1) (rcv + w) = true ↔
      1 ≤ (seq - rcv).toNat ∧ (seq - rcv).toNat ≤ w.toNat := by
  have := rcv.toNat_lt
  have := w.toNat_lt
  have := seq.toNat_lt
  simp only [seqInWindow, decide_eq_true_eq, UInt32.le_iff_toNat_le, UInt32.toNat_sub,
    UInt32.toNat_add, UInt32.toNat_one]
  omega

/-- A window whose upper end is one below its lower end is the whole circle. -/
theorem seqInWindow_succ_self (seq rcv : UInt32) : seqInWindow seq (rcv + 1) rcv = true := by
  have := rcv.toNat_lt
  have := seq.toNat_lt
  simp only [seqInWindow, decide_eq_true_eq, UInt32.le_iff_toNat_le, UInt32.toNat_sub,
    UInt32.toNat_add, UInt32.toNat_one]
  omega

/-- A number that `rcv` is less than `2^32 - 765` ahead of lies outside
every window `rcv` opens, unless it is `rcv` itself and the type is not
meticulous. -/
theorem not_inSeqWindow_of_behind (m : Bool) (rcv : UInt32) (d : UInt8) (seq : UInt32)
    (hadv : (rcv - seq).toNat < 2 ^ 32 - 765) (hm : m = false → seq ≠ rcv) :
    ¬ InSeqWindow m rcv d seq := by
  intro hin
  obtain ⟨hlo, hhi⟩ := hin
  have hd := d.toNat_lt
  have hs := seq.toNat_lt
  have hr := rcv.toNat_lt
  by_cases heq : seq = rcv
  · -- the latest number itself: only the meticulous floor excludes it
    subst heq
    cases m with
    | false => exact hm rfl rfl
    | true => simp at hlo
  · -- any other number is `2^32 - (rcv - seq)` ahead, past the window
    have hne : seq.toNat ≠ rcv.toNat := fun h => heq (UInt32.toNat_inj.mp h)
    rw [UInt32.toNat_sub] at hhi hadv
    omega

/-! ## The window check -/

variable {state state' : AuthState} {pkt : ControlPacket} {auth : AuthSection} {p : HashParams}

/-- `checkSeqWindow` passes exactly on `InSeqWindow`, for a packet whose
Detect Mult keeps the meticulous window from wrapping. -/
theorem checkSeqWindow_eq_ok_iff (hdm : p.meticulous = true → pkt.detectMult ≠ 0) :
    checkSeqWindow state pkt auth p = .ok () ↔
      (state.authSeqKnown = true →
        InSeqWindow p.meticulous state.rcvAuthSeq pkt.detectMult auth.sequenceNumber) := by
  have hw := toNat_three_mul_toUInt32 pkt.detectMult
  unfold checkSeqWindow InSeqWindow
  cases hk : state.authSeqKnown with
  | false => simp
  | true =>
    simp only [Bool.not_true, Bool.false_eq_true, if_false, true_implies, Go.ite_fail_eq_ok,
      Bool.not_eq_true', Bool.not_eq_false]
    cases hm : p.meticulous with
    | false =>
      rw [if_neg Bool.false_ne_true, seqInWindow_add_iff, hw]
      simp
    | true =>
      have hpos : 1 ≤ (3 * pkt.detectMult.toUInt32).toNat := by
        have hne : pkt.detectMult.toNat ≠ 0 := fun h => hdm hm (UInt8.toNat_inj.mp h)
        omega
      rw [if_pos rfl, seqInWindow_succ_add_iff _ _ _ hpos, hw]
      simp

/-- With Detect Mult 0 the meticulous check passes whatever the number. -/
theorem checkSeqWindow_meticulous_zero (hm : p.meticulous = true) (hdm : pkt.detectMult = 0) :
    checkSeqWindow state pkt auth p = .ok () := by
  unfold checkSeqWindow
  rw [hm, hdm, if_pos rfl]
  dsimp only
  split_ifs with hk hs
  · rfl
  · -- `hi = lo - 1`: the window `[lo, hi]` is the whole circle
    simp [seqInWindow_succ_self] at hs
  · rfl

/-- The window check passes or fails with `ErrAuthSeqOutOfWindow`. -/
theorem checkSeqWindow_eq_fail (hc : checkSeqWindow state pkt auth p ≠ .ok ()) :
    checkSeqWindow state pkt auth p = Go.fail .seqOutOfWindow := by
  unfold checkSeqWindow at hc ⊢
  dsimp only at hc ⊢
  split_ifs at hc ⊢ <;> simp_all

/-! ## One call of `verifyHash` -/

theorem validateHashAuth_eq_ok (hv : validateHashAuth pkt p = .ok auth) :
    pkt.auth = some auth ∧ auth.type = p.authType ∧ auth.len = p.authLen := by
  unfold validateHashAuth requireAuthSection at hv
  split at hv
  · rename_i a ha
    simp only [Go.ok_bind] at hv
    -- each failed guard returns its error
    by_cases ht : a.type = p.authType
    · by_cases hl : a.len = p.authLen
      · simp only [ht, hl, ne_eq, not_true_eq_false, if_false, pure] at hv
        cases hv
        exact ⟨ha, ht, hl⟩
      · simp [ht, hl] at hv
    · simp [ht] at hv
  · cases hv

theorem validateHashAuth_ne_panic : validateHashAuth pkt p ≠ .error .panic := by
  unfold validateHashAuth requireAuthSection
  split
  · simp only [Go.ok_bind]
    split_ifs <;> simp
  · simp

variable (h : Digests)

/-- The checks of `verifyHash` pass only for a packet with an auth section
whose number passes the window check. -/
theorem verifyHashChecks_eq_ok {keys : AuthKeyStore} {buf : List UInt8} {n : Nat}
    (hv : verifyHashChecks h state keys pkt buf n p = .ok auth) :
    pkt.auth = some auth ∧ checkSeqWindow state pkt auth p = .ok () := by
  unfold verifyHashChecks at hv
  obtain ⟨auth', hauth, hv⟩ := Go.bind_eq_ok.mp hv
  split at hv
  · obtain ⟨⟨⟩, hwin, hv⟩ := Go.bind_eq_ok.mp hv
    obtain ⟨⟨⟩, -, hv⟩ := Go.bind_eq_ok.mp hv
    obtain ⟨⟨⟩, -, hv⟩ := Go.bind_eq_ok.mp hv
    -- the section the checks hand back is the one they validated
    cases hv
    exact ⟨(validateHashAuth_eq_ok hauth).1, hwin⟩
  · exact absurd hv (Go.fail_ne_ok _ _)

/-- A successful `verifyHash` found the section, passed the window check, and
wrote the section's number. -/
theorem verifyHash_exec_eq_ok {keys : AuthKeyStore} {buf : List UInt8} {n : Nat}
    (hv : (verifyHash h keys pkt buf n p).exec state = (state', .ok ())) :
    ∃ auth, pkt.auth = some auth ∧ checkSeqWindow state pkt auth p = .ok () ∧
      state' = { state with rcvAuthSeq := auth.sequenceNumber, authSeqKnown := true } := by
  rw [verifyHash_exec] at hv
  split at hv
  · rename_i auth hc
    obtain ⟨hauth, hwin⟩ := verifyHashChecks_eq_ok h hc
    exact ⟨auth, hauth, hwin, (Prod.mk.inj hv).1.symm⟩
  · cases (Prod.mk.inj hv).2

/-- A packet that fails the window check fails the checks with an error;
nothing before the window check can panic. -/
theorem verifyHashChecks_eq_fail_of_window {keys : AuthKeyStore} {buf : List UInt8} {n : Nat}
    (hwin : ∀ auth, pkt.auth = some auth → checkSeqWindow state pkt auth p ≠ .ok ()) :
    ∃ e, verifyHashChecks h state keys pkt buf n p = Go.fail e := by
  unfold verifyHashChecks
  rcases hval : validateHashAuth pkt p with (e | _) | auth
  · exact ⟨e, rfl⟩
  · exact absurd hval validateHashAuth_ne_panic
  · rw [Go.ok_bind]
    split
    · rw [checkSeqWindow_eq_fail (hwin auth (validateHashAuth_eq_ok hval).1)]
      exact ⟨_, rfl⟩
    · exact ⟨_, rfl⟩

/-- Such a packet is refused with an error, and `*state` stays as it was. -/
theorem verifyHash_exec_eq_fail_of_window {keys : AuthKeyStore} {buf : List UInt8} {n : Nat}
    (hwin : ∀ auth, pkt.auth = some auth → checkSeqWindow state pkt auth p ≠ .ok ()) :
    ∃ e, (verifyHash h keys pkt buf n p).exec state = (state, Go.fail e) := by
  obtain ⟨e, he⟩ : ∃ e, verifyHashChecks h state keys pkt buf n p = Go.fail e :=
    verifyHashChecks_eq_fail_of_window h hwin
  refine ⟨e, ?_⟩
  rw [verifyHash_exec, he]
  rfl

/-! ## `Verify` through the interface -/

/-- The `hashParams` each hash authenticator's `Verify` hands to
`verifyHash`; Simple Password has none. -/
def Authenticator.hashParams : Authenticator → Option HashParams
  | .simplePassword => none
  | .keyedMD5 => some hashParamsMD5
  | .meticulousKeyedMD5 =>
    some { hashParamsMD5 with meticulous := true, authType := AuthTypeMeticulousKeyedMD5 }
  | .keyedSHA1 => some hashParamsSHA1
  | .meticulousKeyedSHA1 =>
    some { hashParamsSHA1 with meticulous := true, authType := AuthTypeMeticulousKeyedSHA1 }

theorem Authenticator.verify_of_hashParams {a : Authenticator} (ha : a.hashParams = some p)
    (keys : AuthKeyStore) (pkt : ControlPacket) (buf : List UInt8) (n : Nat) :
    a.verify h keys pkt buf n = verifyHash h keys pkt buf n p := by
  cases a <;> cases ha <;> rfl

theorem Authenticator.hashParams_eq_none {a : Authenticator} :
    a.hashParams = none ↔ a = .simplePassword := by
  cases a <;> simp [Authenticator.hashParams]

/-- `auth.Verify(state, keys, pkt, buf, n)` as its caller sees it: what
`*state` holds afterwards, and the error returned.  Whatever `Verify` wrote
through `state` before it returned stays, an error or not. -/
def Authenticator.verifyInPlace (a : Authenticator) (state : AuthState) (keys : AuthKeyStore)
    (pkt : ControlPacket) (buf : List UInt8) (n : Nat) : AuthState × Option (Go.Fault AuthError) :=
  match (a.verify h keys pkt buf n).exec state with
  | (state', .ok ()) => (state', none)
  | (state', .error e) => (state', some e)

/-- A successful `Verify` of a hash type records the packet's number and
nothing else; Simple Password records nothing. -/
theorem Authenticator.verify_exec_eq_ok {a : Authenticator} {keys : AuthKeyStore}
    {buf : List UInt8} {n : Nat} (hv : (a.verify h keys pkt buf n).exec state = (state', .ok ())) :
    (a = .simplePassword ∧ state' = state) ∨
      (a ≠ .simplePassword ∧ ∃ auth, pkt.auth = some auth ∧
        state' = { state with rcvAuthSeq := auth.sequenceNumber, authSeqKnown := true }) := by
  cases hp : a.hashParams with
  | none =>
    have ha := Authenticator.hashParams_eq_none.mp hp
    subst ha
    -- Simple Password writes nothing through `state`
    exact .inl ⟨rfl, (Prod.mk.inj hv).1.symm⟩
  | some p =>
    rw [a.verify_of_hashParams h hp] at hv
    obtain ⟨auth, hauth, -, hst⟩ := verifyHash_exec_eq_ok h hv
    have ha : a ≠ .simplePassword := fun ha => by
      rw [← Authenticator.hashParams_eq_none, hp] at ha
      cases ha
    exact .inr ⟨ha, auth, hauth, hst⟩

theorem verify_state_atomic (a : Authenticator) (state : AuthState) (keys : AuthKeyStore)
    (pkt : ControlPacket) (buf : List UInt8) (n : Nat) :
    let r := a.verifyInPlace h state keys pkt buf n
    r.1.xmitAuthSeq = state.xmitAuthSeq ∧
      (r.2 ≠ none → r.1.rcvAuthSeq = state.rcvAuthSeq ∧ r.1.authSeqKnown = state.authSeqKnown) ∧
      (r.2 = none → a ≠ .simplePassword →
        ∃ auth, pkt.auth = some auth ∧ r.1.rcvAuthSeq = auth.sequenceNumber ∧
          r.1.authSeqKnown = true) := by
  dsimp only
  unfold Authenticator.verifyInPlace
  rcases hv : (a.verify h keys pkt buf n).exec state with ⟨state', (e | ⟨⟩)⟩
  · -- a failed check returned before the writes at the end of `verifyAndUpdateSeq`
    obtain rfl := Authenticator.verify_exec_of_error h hv
    exact ⟨rfl, fun _ => ⟨rfl, rfl⟩, fun hn => absurd hn (Option.some_ne_none e)⟩
  · rcases Authenticator.verify_exec_eq_ok h hv with ⟨hsp, rfl⟩ | ⟨-, auth, hauth, rfl⟩
    · exact ⟨rfl, fun hn => absurd rfl hn, fun _ hne => absurd hsp hne⟩
    · exact ⟨rfl, fun hn => absurd rfl hn, fun _ _ => ⟨auth, hauth, rfl, rfl⟩⟩

/-! ## Runs of `Verify` -/

/-- The arguments of one `auth.Verify(state, keys, pkt, buf, n)` call, other
than the state. -/
structure VerifyCall where
  keys : AuthKeyStore
  pkt : ControlPacket
  buf : List UInt8
  n : Nat

/-- The Sequence Number of a packet's authentication section. -/
def ControlPacket.sequenceNumber (pkt : ControlPacket) : UInt32 :=
  match pkt.auth with
  | some auth => auth.sequenceNumber
  | none => 0

/-- `Verify` called again and again on one `*AuthState`, with nothing else
writing it in between: the state at the end, and the packets accepted, in
order. -/
def Authenticator.verifyRun (a : Authenticator) : AuthState → List VerifyCall →
    AuthState × List ControlPacket
  | state, [] => (state, [])
  | state, c :: cs =>
    match a.verifyInPlace h state c.keys c.pkt c.buf c.n with
    | (state, none) =>
      let r := a.verifyRun state cs
      (r.1, c.pkt :: r.2)
    | (state, some _) => a.verifyRun state cs

theorem Authenticator.verifyRun_cons_accept {a : Authenticator} {c : VerifyCall}
    (cs : List VerifyCall) (hv : a.verifyInPlace h state c.keys c.pkt c.buf c.n = (state', none)) :
    a.verifyRun h state (c :: cs) =
      ((a.verifyRun h state' cs).1, c.pkt :: (a.verifyRun h state' cs).2) := by
  rw [Authenticator.verifyRun, hv]

theorem Authenticator.verifyRun_cons_reject {a : Authenticator} {c : VerifyCall}
    (cs : List VerifyCall) {e : Go.Fault AuthError}
    (hv : a.verifyInPlace h state c.keys c.pkt c.buf c.n = (state', some e)) :
    a.verifyRun h state (c :: cs) = a.verifyRun h state' cs := by
  rw [Authenticator.verifyRun, hv]

section Run

variable {a : Authenticator} (ha : a.hashParams = some p)
include ha

/-- One call of a hash verifier: it accepts a packet whose number passes the
window check and records that number, or it refuses and writes nothing. -/
theorem Authenticator.verifyInPlace_cases (state : AuthState) (keys : AuthKeyStore)
    (pkt : ControlPacket) (buf : List UInt8) (n : Nat) :
    (a.verifyInPlace h state keys pkt buf n =
        ({ state with rcvAuthSeq := pkt.sequenceNumber, authSeqKnown := true }, none) ∧
      ∃ auth, pkt.auth = some auth ∧ checkSeqWindow state pkt auth p = .ok ()) ∨
    ∃ e, a.verifyInPlace h state keys pkt buf n = (state, some e) := by
  unfold Authenticator.verifyInPlace
  rcases hv : (a.verify h keys pkt buf n).exec state with ⟨state', (e | ⟨⟩)⟩
  · obtain rfl := Authenticator.verify_exec_of_error h hv
    exact .inr ⟨e, rfl⟩
  · rw [a.verify_of_hashParams h ha] at hv
    obtain ⟨auth, hauth, hwin, rfl⟩ := verifyHash_exec_eq_ok h hv
    refine .inl ⟨?_, auth, hauth, hwin⟩
    simp only [ControlPacket.sequenceNumber, hauth]

/-- The state a run leaves holds the number of the last packet accepted, or
is the state it started from. -/
theorem Authenticator.verifyRun_fst (state : AuthState) (calls : List VerifyCall) :
    (a.verifyRun h state calls).1 =
      ((a.verifyRun h state calls).2.getLast?.map fun q =>
        { state with rcvAuthSeq := q.sequenceNumber, authSeqKnown := true }).getD state := by
  induction calls generalizing state with
  | nil => rfl
  | cons c cs ih =>
    rcases a.verifyInPlace_cases h ha state c.keys c.pkt c.buf c.n with ⟨hv, -⟩ | ⟨e, hv⟩
    · rw [Authenticator.verifyRun_cons_accept h cs hv, ih, List.getLast?_cons]
      -- the rest of the run starts from `c`'s number; what it accepts next overrides it
      cases (a.verifyRun h _ cs).2.getLast? <;> rfl
    · rw [Authenticator.verifyRun_cons_reject h cs hv, ih]

/-- Every packet a run accepts is in the window its predecessor opened, and
the first one, if the state knew its sequence, in the window of the state. -/
theorem Authenticator.verifyRun_isChain (state : AuthState) (calls : List VerifyCall)
    (hdm : p.meticulous = true → ∀ c ∈ calls, c.pkt.detectMult ≠ 0) :
    (state.authSeqKnown = true → ∀ q ∈ (a.verifyRun h state calls).2.head?,
        InSeqWindow p.meticulous state.rcvAuthSeq q.detectMult q.sequenceNumber) ∧
      (a.verifyRun h state calls).2.IsChain fun q q' =>
        InSeqWindow p.meticulous q.sequenceNumber q'.detectMult q'.sequenceNumber := by
  induction calls generalizing state with
  | nil =>
    -- nothing is accepted
    refine ⟨fun _ q hq => ?_, List.IsChain.nil⟩
    cases hq
  | cons c cs ih =>
    have hdm' : p.meticulous = true → ∀ c' ∈ cs, c'.pkt.detectMult ≠ 0 :=
      fun hm c' hc' => hdm hm c' (List.mem_cons_of_mem _ hc')
    rcases a.verifyInPlace_cases h ha state c.keys c.pkt c.buf c.n with
      ⟨hv, auth, hauth, hwin⟩ | ⟨e, hv⟩
    · rw [Authenticator.verifyRun_cons_accept h cs hv]
      obtain ⟨ihHead, ihChain⟩ := ih _ hdm'
      refine ⟨fun hk q hq => ?_, ihChain.cons (ihHead rfl)⟩
      -- the head is `c` itself, which passed the window check
      rw [List.head?_cons, Option.mem_some_iff] at hq
      subst hq
      have hin := (checkSeqWindow_eq_ok_iff fun hm => hdm hm c List.mem_cons_self).mp hwin hk
      simpa only [ControlPacket.sequenceNumber, hauth] using hin
    · rw [Authenticator.verifyRun_cons_reject h cs hv]
      exact ih state hdm'

end Run

/-- Along every run of `Verify` on one state, with Detect Mult at least 1 on
every packet a meticulous verifier takes: each accepted number lies in the
window of the one accepted before it, and a packet that repeats an accepted
number far enough behind the last one is refused and leaves the state as it
was. -/
theorem accepted_seqs_in_window {a : Authenticator} {p : HashParams} (ha : a.hashParams = some p)
    (state : AuthState) (calls : List VerifyCall)
    (hdm : p.meticulous = true → ∀ c ∈ calls, c.pkt.detectMult ≠ 0) :
    let r := a.verifyRun h state calls
    r.2.IsChain (fun q q' => InSeqWindow p.meticulous q.sequenceNumber q'.detectMult q'.sequenceNumber) ∧
      ∀ q ∈ r.2, ∀ qk ∈ r.2.getLast?, ∀ c : VerifyCall,
        c.pkt.sequenceNumber = q.sequenceNumber →
        (qk.sequenceNumber - q.sequenceNumber).toNat < 2 ^ 32 - 765 →
        (p.meticulous = true → c.pkt.detectMult ≠ 0) →
        (p.meticulous = false → q.sequenceNumber ≠ qk.sequenceNumber) →
        ∃ e, (a.verify h c.keys c.pkt c.buf c.n).exec r.1 = (r.1, Go.fail e) := by
  intro r
  refine ⟨(a.verifyRun_isChain h ha state calls hdm).2, ?_⟩
  intro q _ qk hqk c hseq hadv hdmc hne
  -- the run left the number of its last accepted packet
  have hst : r.1 = { state with rcvAuthSeq := qk.sequenceNumber, authSeqKnown := true } := by
    rw [a.verifyRun_fst h ha, Option.mem_def.mp hqk]
    rfl
  rw [hst, a.verify_of_hashParams h ha]
  apply verifyHash_exec_eq_fail_of_window h
  intro auth hauth hc
  have hin := (checkSeqWindow_eq_ok_iff hdmc).mp hc rfl
  have hq : auth.sequenceNumber = q.sequenceNumber := by
    rw [← hseq, ControlPacket.sequenceNumber, hauth]
  rw [hq] at hin
  exact not_inSeqWindow_of_behind p.meticulous qk.sequenceNumber c.pkt.detectMult q.sequenceNumber
    hadv hne hin

/-- The call that hands a Meticulous Keyed MD5 verifier `pkt` as the peer
signed it at sequence number `seq`, decoded with its Length. -/
def meticulousMD5Call (pkt : ControlPacket) (seq : UInt32) : VerifyCall :=
  let signed := signedPacket lengthDigests md5Key (newAuthState AuthTypeMeticulousKeyedMD5 seq) pkt
    { hashParamsMD5 with meticulous := true, authType := AuthTypeMeticulousKeyedMD5 }
  { keys := md5Store
    pkt := { signed with length := UInt8.ofNat signed.totalLen }
    buf := signed.wire
    n := signed.wire.length }

/-- A Down packet from discriminator 9 with Detect Mult 3. -/
def replayDownPacket : ControlPacket where
  version := 1
  state := .down
  detectMult := 3
  myDiscriminator := 9
  desiredMinTxInterval := 1000000
  requiredMinRxInterval := 1000000

theorem accepted_seqs_in_window_meticulousMD5 :
    let p : HashParams :=
      { hashParamsMD5 with meticulous := true, authType := AuthTypeMeticulousKeyedMD5 }
    let calls := [meticulousMD5Call replayDownPacket 5, meticulousMD5Call replayDownPacket 7]
    let r := Authenticator.meticulousKeyedMD5.verifyRun lengthDigests
      (newAuthState AuthTypeMeticulousKeyedMD5 0) calls
    Authenticator.meticulousKeyedMD5.hashParams = some p ∧
      (p.meticulous = true → ∀ c ∈ calls, c.pkt.detectMult ≠ 0) ∧
      r.2.IsChain (fun q q' => InSeqWindow p.meticulous q.sequenceNumber q'.detectMult q'.sequenceNumber) ∧
      ∀ q ∈ r.2, ∀ qk ∈ r.2.getLast?, ∀ c : VerifyCall,
        c.pkt.sequenceNumber = q.sequenceNumber →
        (qk.sequenceNumber - q.sequenceNumber).toNat < 2 ^ 32 - 765 →
        (p.meticulous = true → c.pkt.detectMult ≠ 0) →
        (p.meticulous = false → q.sequenceNumber ≠ qk.sequenceNumber) →
        ∃ e, (Authenticator.meticulousKeyedMD5.verify lengthDigests c.keys c.pkt c.buf c.n).exec r.1 =
          (r.1, Go.fail e) := by
  intro p calls r
  have hdm : p.meticulous = true → ∀ c ∈ calls, c.pkt.detectMult ≠ 0 := by decide
  exact ⟨rfl, hdm, accepted_seqs_in_window lengthDigests rfl _ calls hdm⟩

/-- With Detect Mult 3 the replay is refused. -/
example : (Authenticator.meticulousKeyedMD5.verifyRun lengthDigests
      (newAuthState AuthTypeMeticulousKeyedMD5 0)
      [meticulousMD5Call replayDownPacket 5, meticulousMD5Call replayDownPacket 5]).2.length = 1 := by
  decide +kernel

/-- Every packet the decoder accepts has a nonzero Detect Mult, so on the
receive path the meticulous window never wraps. -/
theorem unmarshalControlPacket_detectMult {b : List UInt8}
    (hb : unmarshalControlPacket b = .ok pkt) : pkt.detectMult ≠ 0 := by
  obtain ⟨hP, rfl⟩ := (unmarshalControlPacket_decides b).eq_ok_iff.mp hb
  exact hP.2.2.2.2.1

end GoBFD
