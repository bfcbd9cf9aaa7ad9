import GoBFD.Session.Invariant
import GoBFD.Go.Stdlib

/-!
# GoBFD.Session.Timers

The timers of a session (`internal/bfd/session_packet.go`): the negotiated
transmit interval of RFC 5880 Section 6.8.7, the detection time of Section
6.8.4, and the jitter applied to every transmit interval, with the
xorshift generator it draws from.  `time.Duration` is an `int64`: the
products the code forms are written through `Go.int64`, which wraps.

* `applyJitterWithRand_bounds`: for an interval whose product with 25 fits
  `int64` and a generator that keeps to `[0, n)`, the jittered interval lies
  in `[75%, 100%]` of it, and in `[75%, 90%]` when the multiplier is 1.
  `JitterRNG.intN_range`: `IntN(n)` keeps to `[0, n)` from every state.
* `jitter_exceeds_echo_interval`: an echo session may be configured with
  an interval for which the product overflows; the jittered interval is then
  longer than the interval.
* `Session.Timed`: the reachable-state invariant on the fields the timer
  functions read.  It holds of every session `NewSession` returns and every
  step keeps it, whatever the key store (`Session.Reachable.timed`), so the
  transmit interval and the detection time are positive and their `int64`
  products never overflow (`negotiated_timers_positive`).

The step lemmas use `Session.Updates`: apart from storing a received
packet's fields, no handler writes an interval, a multiplier or the Poll
state.
-/

namespace GoBFD

variable {Addr : Type}

/-! ## The negotiated intervals -/

/-- The transmit interval from one copy of the state: the desired interval,
raised to one second when not Up, or the remote's required minimum, whichever
is larger. -/
def txIntervalFor (st : State) (desiredMinTx remoteMinRx : Duration) : Duration :=
  let desired := if st ≠ .up ∧ desiredMinTx < slowTxInterval then slowTxInterval else desiredMinTx
  max desired remoteMinRx

/-- `calcTxInterval`: from the atomic state. -/
def Session.calcTxInterval (s : Session Addr) : Duration :=
  txIntervalFor s.state s.desiredMinTxInterval s.remoteMinRxInterval

/-- `calcTxIntervalLocked`: the same, for callers already holding the lock. -/
def Session.calcTxIntervalLocked (s : Session Addr) : Duration :=
  txIntervalFor s.state s.desiredMinTxInterval s.remoteMinRxInterval

/-- `calcTxIntervalHot`: from the goroutine's `cachedState`. -/
def Session.calcTxIntervalHot (s : Session Addr) : Duration :=
  txIntervalFor s.cachedState s.desiredMinTxInterval s.remoteMinRxInterval

/-- The detection time given a transmit interval: before any packet the
local multiplier times that interval, then the remote's multiplier times
the agreed interval, each an `int64` product. -/
def detectionTimeFor (s : Session Addr) (txInterval : Duration) : Duration :=
  if s.remoteDetectMult = 0 then Go.int64 (txInterval * s.detectMult.toNat)
  else Go.int64 (max s.requiredMinRxInterval s.remoteDesiredMinTxInterval * s.remoteDetectMult.toNat)

/-- `calcDetectionTime`. -/
def Session.calcDetectionTime (s : Session Addr) : Duration :=
  detectionTimeFor s s.calcTxIntervalLocked

/-- `calcDetectionTimeHot`. -/
def Session.calcDetectionTimeHot (s : Session Addr) : Duration :=
  detectionTimeFor s s.calcTxIntervalHot

/-- `txIntervalFor` is the larger of the remote's minimum and the desired
interval, the latter raised to one second when not Up. -/
theorem txIntervalFor_eq (st : State) (d r : Duration) :
    txIntervalFor st d r = max (if st = .up then d else max d slowTxInterval) r := by
  unfold txIntervalFor
  dsimp only
  by_cases hu : st = .up
  · rw [if_neg (fun h => h.1 hu), if_pos hu]
  · rw [if_neg hu]
    by_cases hd : d < slowTxInterval
    · rw [if_pos ⟨hu, hd⟩, max_eq_right hd.le]
    · rw [if_neg (fun h => hd h.2), max_eq_left (not_lt.mp hd)]

/-- With a desired interval and a remote minimum that fit the wire, the
transmit interval is at least the desired one and still fits the wire. -/
theorem txIntervalFor_bounds (st : State) {d r : Duration}
    (hd : 0 < d ∧ d ≤ MaxWireInterval) (hr : 0 ≤ r ∧ r ≤ MaxWireInterval) :
    d ≤ txIntervalFor st d r ∧ txIntervalFor st d r ≤ MaxWireInterval := by
  have hslow : slowTxInterval ≤ MaxWireInterval := by decide
  rw [txIntervalFor_eq]
  -- `omega` reads `Int` only, not its name `Duration`
  dsimp only [Duration] at *
  split_ifs <;> omega

/-! ## Jitter -/

/-- `jitterRNG`: a xorshift generator on one 64-bit word. -/
structure JitterRNG where
  state : UInt64

/-- `next()`: a zero state restarts from the golden-ratio constant; the
output is the new state times a fixed odd multiplier. -/
def JitterRNG.next (r : JitterRNG) : UInt64 × JitterRNG :=
  let x := if r.state = 0 then 0x9e3779b97f4a7c15 else r.state
  let x := x ^^^ (x >>> 12)
  let x := x ^^^ (x <<< 25)
  let x := x ^^^ (x >>> 27)
  (x * 2685821657736338717, ⟨x⟩)

/-- `maxInt`: the largest 64-bit `int`. -/
def maxInt : Nat := 2 ^ 63 - 1

/-- `IntN(n)`: zero for `n <= 1`, otherwise the next output modulo `n`. -/
def JitterRNG.intN (r : JitterRNG) (n : Int) : Int × JitterRNG :=
  if n ≤ 1 then (0, r)
  else
    let (x, r) := r.next
    let v := x % UInt64.ofInt n
    if v.toNat > maxInt then (n - 1, r) else (v.toNat, r)

/-- `newJitterRNG()`: eight bytes of `crypto/rand` (`seed`, `none` when the
read fails) if they are not all zero, otherwise a word from the clock. -/
def newJitterRNG (seed : Option UInt64) (unixNano unixMicro : UInt64) : JitterRNG :=
  let fallback := unixNano ^^^ (unixMicro <<< 17)
  let fallback := if fallback = 0 then 0x9e3779b97f4a7c15 else fallback
  match seed with
  | some v => if v ≠ 0 then ⟨v⟩ else ⟨fallback⟩
  | none => ⟨fallback⟩

/-- The percentage `applyJitterWithRand` takes off: `10 + intN(16)` for a
multiplier of 1, otherwise `intN(26)`. -/
def jitterPercent (detectMult : UInt8) (intN : Int → Int) : Int :=
  if detectMult = 1 then Go.int64 (10 + intN 16) else intN 26

/-- `applyJitterWithRand(interval, detectMult, intN)`: the reduction is
`int64(interval) * int64(jitterPercent) / 100`. -/
def applyJitterWithRand (interval : Duration) (detectMult : UInt8) (intN : Int → Int) : Duration :=
  let reduction := (Go.int64 (interval * jitterPercent detectMult intN)).tdiv 100
  Go.int64 (interval - reduction)

/-- `ApplyJitter(interval, detectMult)`, with a fresh generator. -/
def applyJitter (interval : Duration) (detectMult : UInt8) (seed : Option UInt64)
    (unixNano unixMicro : UInt64) : Duration :=
  if interval ≤ 0 then interval
  else
    applyJitterWithRand interval detectMult fun n =>
      ((newJitterRNG seed unixNano unixMicro).intN n).1

/-- `Session.applyJitter(interval)`, with the session's generator `rng`. -/
def Session.applyJitter (s : Session Addr) (rng : JitterRNG) (interval : Duration) : Duration :=
  if interval ≤ 0 then interval else applyJitterWithRand interval s.detectMult fun n => (rng.intN n).1

/-- What `applyJitterWithRand` asks of its `intN`: a value in `[0, n)` for
every `n >= 1`. -/
def IntNRange (intN : Int → Int) : Prop :=
  ∀ n, 1 ≤ n → 0 ≤ intN n ∧ intN n < n

/-- `IntN(n)` for `n >= 2`: the next output reduced modulo `uint64(n)`. -/
theorem JitterRNG.intN_of_two_le (r : JitterRNG) {n : Int} (hn : 2 ≤ n) :
    (r.intN n).1 =
      if (r.next.1 % UInt64.ofInt n).toNat > maxInt then n - 1
      else ((r.next.1 % UInt64.ofInt n).toNat : Int) := by
  rw [JitterRNG.intN, if_neg (by omega)]
  obtain ⟨x, r'⟩ := r.next
  dsimp only
  split_ifs <;> rfl

/-- A 64-bit word modulo `uint64(n)` is below `n`, also when `uint64(n)`
wraps to zero. -/
theorem toNat_mod_ofInt_lt (x : UInt64) {n : Int} (hn : 1 ≤ n) :
    ((x % UInt64.ofInt n).toNat : Int) < n := by
  rw [UInt64.toNat_mod]
  have hof : (UInt64.ofInt n).toNat = (n % 2 ^ 64).toNat % 2 ^ 64 := UInt64.toNat_ofNat'
  rcases Nat.eq_zero_or_pos (UInt64.ofInt n).toNat with hz | hpos
  · -- `n` is a multiple of `2^64`, beyond every word
    rw [hz, Nat.mod_zero]
    have hx := x.toNat_lt
    omega
  · have hlt := Nat.mod_lt x.toNat hpos
    omega

/-- `IntN(n)` keeps to `[0, n)` from every state of the generator. -/
theorem JitterRNG.intN_range (r : JitterRNG) : IntNRange fun n => (r.intN n).1 := by
  intro n hn
  dsimp only
  rcases Int.lt_or_le n 2 with h₁ | h₂
  · rw [JitterRNG.intN, if_pos (by omega)]
    omega
  · have hlt := toNat_mod_ofInt_lt r.next.1 hn
    rw [r.intN_of_two_le h₂]
    split_ifs <;> omega

/-- With an `intN` in range, the percentage lies in `[0, 25]`, and in
`[10, 25]` for a multiplier of 1. -/
theorem jitterPercent_bounds (detectMult : UInt8) {intN : Int → Int} (hN : IntNRange intN) :
    0 ≤ jitterPercent detectMult intN ∧ jitterPercent detectMult intN ≤ 25 ∧
      (detectMult = 1 → 10 ≤ jitterPercent detectMult intN) := by
  have h16 := hN 16 (by decide)
  have h26 := hN 26 (by decide)
  by_cases hd : detectMult = 1
  · have hfit : Go.InInt64 (10 + intN 16) := ⟨by omega, by omega⟩
    rw [jitterPercent, if_pos hd, Go.int64_of_inInt64 hfit]
    omega
  · rw [jitterPercent, if_neg hd]
    exact ⟨h26.1, by omega, fun h => absurd h hd⟩

/-- RFC 5880 Section 6.8.7: when `interval * 25` fits `int64`, the jittered
interval lies between 75% and 100% of the interval, and at most 90% of it
for a multiplier of 1. -/
theorem applyJitterWithRand_bounds {interval : Int} {detectMult : UInt8} {intN : Int → Int}
    (hI : 0 < interval) (h25 : Go.InInt64 (interval * 25)) (hN : IntNRange intN) :
    3 * interval ≤ 4 * applyJitterWithRand interval detectMult intN ∧
      applyJitterWithRand interval detectMult intN ≤ interval ∧
      (detectMult = 1 → applyJitterWithRand interval detectMult intN ≤ interval - interval / 10) := by
  obtain ⟨hp₀, hp₂₅, hp₁₀⟩ := jitterPercent_bounds detectMult hN
  unfold applyJitterWithRand
  generalize jitterPercent detectMult intN = p at *
  -- the product lies in `[0, 25 * interval]`, inside `int64`
  have hq₀ : 0 ≤ interval * p := Int.mul_nonneg hI.le hp₀
  have hq₂₅ : interval * p ≤ interval * 25 := Int.mul_le_mul_of_nonneg_left hp₂₅ hI.le
  have hfit : Go.InInt64 (interval * p) := ⟨by omega, by have := h25.2; omega⟩
  have hdiv : (interval * p).tdiv 100 = interval * p / 100 := by
    rw [Int.tdiv_eq_ediv, if_pos (.inl hq₀), Int.add_zero]
  have hJ : Go.InInt64 (interval - interval * p / 100) := ⟨by omega, by have := h25.2; omega⟩
  simp only [Go.int64_of_inInt64 hfit, hdiv, Go.int64_of_inInt64 hJ]
  -- `omega` reads `Int` only, not its name `Duration`
  dsimp only [Duration]
  refine ⟨by omega, by omega, fun hd => ?_⟩
  have hq₁₀ : interval * 10 ≤ interval * p := Int.mul_le_mul_of_nonneg_left (hp₁₀ hd) hI.le
  omega

/-! ## Echo sessions

An RFC 9747 echo session transmits on its own provisioned interval, which
`validateEchoConfig` checks only for being positive, and `EchoSession.Run`
arms its transmit timer with `ApplyJitter(txInterval, detectMult)` at the
start and after every echo sent. -/

/-- `EchoSessionConfig`. -/
structure EchoSessionConfig (Addr : Type) where
  peerAddr : Addr
  localAddr : Addr
  interface : String
  txInterval : Duration
  detectMultiplier : UInt8

/-- The errors `NewEchoSession` returns; the detect multiplier one carries
the value its message prints. -/
inductive EchoError where
  | invalidDiscriminator
  | invalidDetectMult (detectMultiplier : UInt8)
  | invalidEchoTxInterval
  | invalidEchoPeerAddr
  deriving Repr, DecidableEq

/-- `validateEchoConfig(cfg, localDiscr)`. -/
def validateEchoConfig (ip : Go.NetIP Addr) (cfg : EchoSessionConfig Addr) (localDiscr : UInt32) :
    Except EchoError Unit :=
  if localDiscr = 0 then .error .invalidDiscriminator
  else if cfg.detectMultiplier < 1 then .error (.invalidDetectMult cfg.detectMultiplier)
  else if cfg.txInterval ≤ 0 then .error .invalidEchoTxInterval
  else if !ip.isValid cfg.peerAddr then .error .invalidEchoPeerAddr
  else .ok ()

/-- The timer fields of an `EchoSession`, as `NewEchoSession` copies them
from the configuration. -/
structure EchoSession where
  localDiscr : UInt32
  txInterval : Duration
  detectMult : UInt8

/-- `NewEchoSession`, for the fields the timers read. -/
def newEchoSession (ip : Go.NetIP Addr) (cfg : EchoSessionConfig Addr) (localDiscr : UInt32) :
    Except EchoError EchoSession :=
  match validateEchoConfig ip cfg localDiscr with
  | .error e => .error e
  | .ok () => .ok { localDiscr := localDiscr, txInterval := cfg.txInterval, detectMult := cfg.detectMultiplier }

/-- The duration `Run` and `echoRunLoop` reset the transmit timer to, from
the generator `ApplyJitter` seeds. -/
def EchoSession.txTimerInterval (es : EchoSession) (seed : Option UInt64) (unixNano unixMicro : UInt64) :
    Duration :=
  applyJitter es.txInterval es.detectMult seed unixNano unixMicro

/-- `DetectionTime()`: `int64(txInterval) * int64(detectMult)`. -/
def EchoSession.detectionTime (es : EchoSession) : Duration :=
  Go.int64 (es.txInterval * es.detectMult.toNat)

/-- An echo session provisioned with an interval of `10^18` ns, about 31
years, to the IPv4 peer 10.0.0.1. -/
def longEchoConfig : EchoSessionConfig (Option (List UInt8)) where
  peerAddr := some [10, 0, 0, 1]
  localAddr := some [10, 0, 0, 2]
  interface := ""
  txInterval := 1000000000000000000
  detectMultiplier := 3

/-- `NewEchoSession` accepts `longEchoConfig`, and `Run` arms the transmit
timer with a jittered interval longer than the interval: from generator
state 16 `IntN(26)` is 10, and `int64(10^18) * 10` wraps to a negative
reduction. -/
theorem jitter_exceeds_echo_interval :
    ∃ es, newEchoSession Go.ipv4 longEchoConfig 1 = .ok es ∧ es.txInterval = 1000000000000000000 ∧
      es.txTimerInterval (some 16) 0 0 = 1084467440737095516 ∧
      es.txInterval < es.txTimerInterval (some 16) 0 0 := by
  refine ⟨_, rfl, rfl, ?_, ?_⟩ <;> decide

/-! ## The reachable-state invariant -/

/-- A duration a 32-bit microsecond field carries lies in `[0, MaxWireInterval]`. -/
theorem durationFromMicroseconds_bounds (us : UInt32) :
    0 ≤ durationFromMicroseconds us ∧ durationFromMicroseconds us ≤ MaxWireInterval := by
  have hus := us.toNat_lt
  unfold durationFromMicroseconds MaxWireInterval
  dsimp only [Duration]
  omega

/-- The product of an interval that fits the wire and a factor up to 255
fits `int64`, with room to spare. -/
theorem mul_inInt64_of_le_255 {x m : Int} (hx : 0 ≤ x ∧ x ≤ MaxWireInterval) (hm : 0 ≤ m ∧ m ≤ 255) :
    Go.InInt64 (x * m) := by
  have hle : x * m ≤ MaxWireInterval * 255 :=
    calc x * m ≤ x * 255 := Int.mul_le_mul_of_nonneg_left hm.2 hx.1
      _ ≤ MaxWireInterval * 255 := Int.mul_le_mul_of_nonneg_right hx.2 (by decide)
  have hmax : MaxWireInterval * 255 < 2 ^ 63 := by decide
  dsimp only [Duration] at hmax
  exact ⟨by have := Int.mul_nonneg hx.1 hm.1; omega, by omega⟩

theorem mul_uint8_inInt64 {x : Int} (hx : 0 ≤ x ∧ x ≤ MaxWireInterval) (m : UInt8) :
    Go.InInt64 (x * m.toNat) :=
  mul_inInt64_of_le_255 hx ⟨Int.natCast_nonneg _, by have := m.toNat_lt; omega⟩

theorem uint8_toNat_pos {m : UInt8} (hm : m ≠ 0) : 0 < m.toNat :=
  Nat.pos_of_ne_zero fun h0 => hm (UInt8.toNat_inj.mp h0)

/-- What holds of the fields the timer functions read, in every state a
session reaches: the two configured intervals are positive and fit the
wire, the two received ones fit the wire, the local multiplier is nonzero,
no Poll Sequence is active (so no pending interval is applied), a nonzero
remote multiplier marks a recorded packet, and every queued packet carries
a nonzero multiplier. -/
structure Session.Timed (s : Session Addr) : Prop where
  desiredMinTx : 0 < s.desiredMinTxInterval ∧ s.desiredMinTxInterval ≤ MaxWireInterval
  requiredMinRx : 0 < s.requiredMinRxInterval ∧ s.requiredMinRxInterval ≤ MaxWireInterval
  remoteMinRx : 0 ≤ s.remoteMinRxInterval ∧ s.remoteMinRxInterval ≤ MaxWireInterval
  remoteDesiredMinTx : 0 ≤ s.remoteDesiredMinTxInterval ∧ s.remoteDesiredMinTxInterval ≤ MaxWireInterval
  detectMult : s.detectMult ≠ 0
  pollActive : s.pollActive = false
  lastPacketRecv : s.lastPacketRecv = true ↔ s.remoteDetectMult ≠ 0
  recvCh : ∀ item ∈ s.recvCh, item.pkt.detectMult ≠ 0

section Timed

variable (h : Digests) {s s' : Session Addr}

/-- The handlers' writes leave every field the invariant reads. -/
theorem Session.Timed.updates (ht : s.Timed) (hu : s.Updates s') : s'.Timed := by
  obtain ⟨pf, au, c, ds, ld, rd, st, cs, nc, rfl⟩ := hu
  exact { ht with }

/-- Storing a packet with a nonzero multiplier keeps the invariant: its
intervals come from 32-bit fields. -/
theorem Session.Timed.recordPacket (ht : s.Timed) {pkt : ControlPacket} (hd : pkt.detectMult ≠ 0) :
    (s.recordPacket pkt).Timed :=
  { ht with
    remoteMinRx := durationFromMicroseconds_bounds pkt.requiredMinRxInterval
    remoteDesiredMinTx := durationFromMicroseconds_bounds pkt.desiredMinTxInterval
    lastPacketRecv := ⟨fun _ => hd, fun _ => rfl⟩ }

/-- A received packet with a nonzero multiplier keeps the invariant: it is
dropped, or its fields are stored and the FSM and transmit path run. -/
theorem Session.Timed.handleRecvPacket (ht : s.Timed) {item : RecvItem} (hd : item.pkt.detectMult ≠ 0)
    (hx : s.handleRecvPacket h item = some s') : s'.Timed := by
  rcases Session.handleRecvPacket_cases h ht.pollActive hx with ⟨rfl, -⟩ | ⟨s₁, s₄, -, hv, h₄, h₅⟩
  · exact ht
  · obtain ⟨au, rfl⟩ := Session.verifyAuth_shape_of_eq h hv
    have h₃ := (show Session.Timed { s with auth := au } from { ht with }).recordPacket hd
    have h₄' := h₃.updates (.executeFSMActions h h₄)
    -- the Final reply, if one is pending
    split at h₅
    · exact h₄'.updates (.sendControl h h₅)
    · cases h₅
      exact h₄'

/-- The loop takes the head of the receive channel and handles it. -/
theorem Session.Timed.recv (ht : s.Timed) {item : RecvItem} {rest : List RecvItem}
    (hq : s.recvCh = item :: rest)
    (hx : ({ s with recvCh := rest } : Session Addr).handleRecvPacket h item = some s') : s'.Timed := by
  have hmem : ∀ it ∈ item :: rest, it.pkt.detectMult ≠ 0 := hq ▸ ht.recvCh
  have ht' : Session.Timed { s with recvCh := rest } :=
    { ht with recvCh := fun it hit => hmem it (List.mem_cons_of_mem _ hit) }
  exact ht'.handleRecvPacket h (hmem _ List.mem_cons_self) hx

/-- The loop takes the head of the control channel and handles it. -/
theorem Session.Timed.control (ht : s.Timed) {cmd : SessionControl} {rest : List SessionControl}
    (hx : ({ s with ctrlCh := rest } : Session Addr).handleControlCommand h cmd = some s') :
    s'.Timed :=
  (show Session.Timed { s with ctrlCh := rest } from { ht with }).updates (.handleControlCommand h hx)

/-- One step of either side keeps the invariant. -/
theorem Session.Timed.step (ht : s.Timed) (hstep : Session.Step h s s') : s'.Timed := by
  cases hstep with
  | recvPacket item hd =>
    unfold Session.recvPacket
    split
    · refine { ht with recvCh := ?_ }
      intro it hit
      rcases List.mem_append.mp hit with hit | hit
      · exact ht.recvCh it hit
      · -- the receivers queue only packets the decoder accepted
        rw [List.mem_singleton] at hit
        subst hit
        obtain ⟨b, hb⟩ := hd
        exact (wellFormed_of_unmarshal hb).detectMult
    · exact ht
  | setPathDown =>
    unfold Session.setPathDown
    split
    · exact { ht with }
    · exact ht
  | setAdminDown =>
    unfold Session.setAdminDown
    split
    · exact { ht with }
    · exact { ht with }
  | run hr => exact { ht with }
  | stop hr => exact { ht with }
  | recv hr hq hx => exact ht.recv h hq hx
  | control hr hq hx => exact ht.control h hx
  | txTimer hr hx => exact ht.updates (.maybeSendControl h hx)
  | detectTimer idle hr hx => exact ht.updates (.handleDetectTimer h hx)

/-- A run keeps the invariant. -/
theorem Session.Timed.run (ht : s.Timed) (hrun : Relation.ReflTransGen (Session.Step h) s s') :
    s'.Timed := by
  induction hrun with
  | refl => exact ht
  | tail _ hstep ih => exact ih.step h hstep

/-- The intervals `validateSessionConfig` accepts: positive and within the
wire's range. -/
theorem validateSessionConfig_intervals {cfg : SessionConfig Addr} {localDiscr : UInt32}
    (hv : validateSessionConfig cfg localDiscr = .ok ()) :
    (0 < cfg.desiredMinTxInterval ∧ cfg.desiredMinTxInterval ≤ MaxWireInterval) ∧
      (0 < cfg.requiredMinRxInterval ∧ cfg.requiredMinRxInterval ≤ MaxWireInterval) := by
  simp only [validateSessionConfig, throw, throwThe, MonadExceptOf.throw, bind, Except.bind] at hv
  split_ifs at hv with h1 h2 h3 h4 h5
  dsimp only [Duration] at h2 h3 h4 h5 ⊢
  omega

/-- `NewSession` starts a session in the invariant. -/
theorem newSession_timed {cfg : SessionConfig Addr} {localDiscr : UInt32} {notify : Bool}
    {seed : UInt32} (hn : newSession h cfg localDiscr notify seed = .ok s) : s.Timed := by
  unfold newSession at hn
  split at hn
  · cases hn
  · rename_i hv
    obtain ⟨hd, hr⟩ := validateSessionConfig_intervals hv
    obtain ⟨hmult, -, -⟩ := validateSessionConfig_ok hv
    dsimp only at hn
    split at hn
    · rename_i s₀ hb
      cases hn
      -- the RFC 5880 Section 6.8.1 initial values: no packet yet
      refine Session.Timed.updates ?_ (.rebuildCachedPacket h hb)
      exact
        { desiredMinTx := hd
          requiredMinRx := hr
          remoteMinRx := (by decide : (0 : Duration) ≤ initialRemoteMinRx ∧ initialRemoteMinRx ≤ MaxWireInterval)
          remoteDesiredMinTx := (by decide : (0 : Duration) ≤ 0 ∧ (0 : Duration) ≤ MaxWireInterval)
          detectMult := hmult
          pollActive := rfl
          lastPacketRecv := (by decide : false = true ↔ (0 : UInt8) ≠ 0)
          recvCh := by simp }
    · cases hn

/-- Every session along every run from `NewSession` is in the invariant,
whatever its key store. -/
theorem Session.Reachable.timed {cfg : SessionConfig Addr} (hr : Session.Reachable h cfg s) :
    s.Timed := by
  obtain ⟨localDiscr, notify, seed, s₀, hn, hrun⟩ := hr
  exact (newSession_timed h hn).run h hrun

end Timed

/-! ## The timers of a reachable session -/

section Negotiated

variable {s : Session Addr}

/-- The interval the remote expects packets at, once it has sent one:
positive and within the wire's range. -/
theorem Session.Timed.agreed_bounds (ht : s.Timed) :
    0 < max s.requiredMinRxInterval s.remoteDesiredMinTxInterval ∧
      max s.requiredMinRxInterval s.remoteDesiredMinTxInterval ≤ MaxWireInterval :=
  ⟨lt_max_of_lt_left ht.requiredMinRx.1, max_le ht.requiredMinRx.2 ht.remoteDesiredMinTx.2⟩

/-- The detection time for a transmit interval that is positive and fits
the wire is the exact product of the branch a recorded packet selects:
neither product overflows. -/
theorem Session.Timed.detectionTimeFor_eq (ht : s.Timed) {I : Duration}
    (hI : 0 < I ∧ I ≤ MaxWireInterval) :
    detectionTimeFor s I = if s.lastPacketRecv then
        s.remoteDetectMult.toNat * max s.requiredMinRxInterval s.remoteDesiredMinTxInterval
      else s.detectMult.toNat * I := by
  unfold detectionTimeFor
  by_cases hr : s.remoteDetectMult = 0
  · -- no packet recorded yet: the local multiplier times the interval
    have hl : s.lastPacketRecv = false :=
      Bool.eq_false_iff.mpr fun hl => ht.lastPacketRecv.mp hl hr
    rw [if_pos hr, hl, if_neg Bool.false_ne_true,
      Go.int64_of_inInt64 (mul_uint8_inInt64 ⟨hI.1.le, hI.2⟩ _), Int.mul_comm]
  · have hagreed := ht.agreed_bounds
    rw [if_neg hr, if_pos (ht.lastPacketRecv.mpr hr),
      Go.int64_of_inInt64 (mul_uint8_inInt64 ⟨hagreed.1.le, hagreed.2⟩ _), Int.mul_comm]

/-- That detection time is positive. -/
theorem Session.Timed.detectionTimeFor_pos (ht : s.Timed) {I : Duration}
    (hI : 0 < I ∧ I ≤ MaxWireInterval) : 0 < detectionTimeFor s I := by
  rw [ht.detectionTimeFor_eq hI]
  split
  · rename_i hl
    have hm := uint8_toNat_pos (ht.lastPacketRecv.mp hl)
    exact Int.mul_pos (by omega) ht.agreed_bounds.1
  · have hm := uint8_toNat_pos ht.detectMult
    exact Int.mul_pos (by omega) hI.1

/-- The transmit interval from either copy of the state is positive and
fits the wire. -/
theorem Session.Timed.txInterval_bounds (ht : s.Timed) (st : State) :
    0 < txIntervalFor st s.desiredMinTxInterval s.remoteMinRxInterval ∧
      txIntervalFor st s.desiredMinTxInterval s.remoteMinRxInterval ≤ MaxWireInterval := by
  obtain ⟨hle, hmax⟩ := txIntervalFor_bounds st ht.desiredMinTx ht.remoteMinRx
  exact ⟨lt_of_lt_of_le ht.desiredMinTx.1 hle, hmax⟩

/-- The transmit interval of the loop, from `cachedState`. -/
theorem Session.Timed.calcTxIntervalHot_bounds (ht : s.Timed) :
    0 < s.calcTxIntervalHot ∧ s.calcTxIntervalHot ≤ MaxWireInterval :=
  ht.txInterval_bounds s.cachedState

/-- The one computed from the atomic state. -/
theorem Session.Timed.calcTxIntervalLocked_bounds (ht : s.Timed) :
    0 < s.calcTxIntervalLocked ∧ s.calcTxIntervalLocked ≤ MaxWireInterval :=
  ht.txInterval_bounds s.state

/-- The jitter of the loop's transmit interval never overflows: its
product with any percentage in range fits `int64`. -/
theorem Session.Timed.jitter_product_inInt64 (ht : s.Timed) {intN : Int → Int} (hN : IntNRange intN) :
    Go.InInt64 (s.calcTxIntervalHot * jitterPercent s.detectMult intN) := by
  obtain ⟨hp₀, hp₂₅, -⟩ := jitterPercent_bounds s.detectMult hN
  have hI := ht.calcTxIntervalHot_bounds
  exact mul_inInt64_of_le_255 ⟨hI.1.le, hI.2⟩ ⟨hp₀, by omega⟩

end Negotiated

/-- RFC 5880 Sections 6.8.4 and 6.8.7 in every state a session reaches,
whatever its key store: the loop's transmit interval is the larger of the
remote's minimum and the desired interval (raised to one second when not
Up) and is positive; both detection times are the exact products of the
branch a recorded packet selects, and positive; and the `int64` products of
the two detection times and of the jitter never overflow. -/
theorem negotiated_timers_positive (h : Digests) {cfg : SessionConfig Addr} {s : Session Addr}
    (hr : Session.Reachable h cfg s) :
    s.calcTxIntervalHot = max (if s.cachedState = .up then s.desiredMinTxInterval
        else max s.desiredMinTxInterval slowTxInterval) s.remoteMinRxInterval ∧
      0 < s.calcTxIntervalHot ∧
      s.calcDetectionTimeHot = (if s.lastPacketRecv then
          s.remoteDetectMult.toNat * max s.requiredMinRxInterval s.remoteDesiredMinTxInterval
        else s.detectMult.toNat * s.calcTxIntervalHot) ∧
      0 < s.calcDetectionTimeHot ∧
      s.calcDetectionTime = (if s.lastPacketRecv then
          s.remoteDetectMult.toNat * max s.requiredMinRxInterval s.remoteDesiredMinTxInterval
        else s.detectMult.toNat * s.calcTxIntervalLocked) ∧
      0 < s.calcDetectionTime ∧
      Go.InInt64 (s.calcTxIntervalHot * s.detectMult.toNat) ∧
      Go.InInt64 (s.calcTxIntervalLocked * s.detectMult.toNat) ∧
      Go.InInt64 (max s.requiredMinRxInterval s.remoteDesiredMinTxInterval * s.remoteDetectMult.toNat) ∧
      ∀ intN, IntNRange intN → Go.InInt64 (s.calcTxIntervalHot * jitterPercent s.detectMult intN) := by
  have ht := hr.timed h
  have hHot := ht.calcTxIntervalHot_bounds
  have hLocked := ht.calcTxIntervalLocked_bounds
  have hagreed := ht.agreed_bounds
  exact ⟨txIntervalFor_eq _ _ _, hHot.1,
    ht.detectionTimeFor_eq hHot, ht.detectionTimeFor_pos hHot,
    ht.detectionTimeFor_eq hLocked, ht.detectionTimeFor_pos hLocked,
    mul_uint8_inInt64 ⟨hHot.1.le, hHot.2⟩ _, mul_uint8_inInt64 ⟨hLocked.1.le, hLocked.2⟩ _,
    mul_uint8_inInt64 ⟨hagreed.1.le, hagreed.2⟩ _, fun _ hN => ht.jitter_product_inInt64 hN⟩

/-- The session `NewSession` returns for `plainConfig`. -/
theorem negotiated_timers_positive_plainConfig :
    ∃ s : Session Unit, Session.Reachable lengthDigests plainConfig s ∧
      (s.calcTxIntervalHot = max (if s.cachedState = .up then s.desiredMinTxInterval
          else max s.desiredMinTxInterval slowTxInterval) s.remoteMinRxInterval ∧
        0 < s.calcTxIntervalHot ∧
        s.calcDetectionTimeHot = (if s.lastPacketRecv then
            s.remoteDetectMult.toNat * max s.requiredMinRxInterval s.remoteDesiredMinTxInterval
          else s.detectMult.toNat * s.calcTxIntervalHot) ∧
        0 < s.calcDetectionTimeHot ∧
        s.calcDetectionTime = (if s.lastPacketRecv then
            s.remoteDetectMult.toNat * max s.requiredMinRxInterval s.remoteDesiredMinTxInterval
          else s.detectMult.toNat * s.calcTxIntervalLocked) ∧
        0 < s.calcDetectionTime ∧
        Go.InInt64 (s.calcTxIntervalHot * s.detectMult.toNat) ∧
        Go.InInt64 (s.calcTxIntervalLocked * s.detectMult.toNat) ∧
        Go.InInt64 (max s.requiredMinRxInterval s.remoteDesiredMinTxInterval * s.remoteDetectMult.toNat) ∧
        ∀ intN, IntNRange intN → Go.InInt64 (s.calcTxIntervalHot * jitterPercent s.detectMult intN)) :=
  have hr : Session.Reachable lengthDigests plainConfig _ := ⟨7, false, 0, _, rfl, .refl⟩
  ⟨_, hr, negotiated_timers_positive lengthDigests hr⟩

end GoBFD
