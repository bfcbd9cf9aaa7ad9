import GoBFD.Session
import GoBFD.Go.Stdlib
import Mathlib.Data.List.AList

/-!
# GoBFD.GoBGP.Dampening

RFC 5882 Section 3.2 flap dampening as `internal/gobgp/dampening.go`
implements it.  Each peer has a penalty.  Every BFD Down raises it by one,
and it halves every half-life.  A peer whose penalty reaches the suppress
threshold is suppressed.  The suppression is released when an Up finds the
penalty below the reuse threshold, or at the first event that comes
`MaxSuppressTime` or more after it began.

The dampener runs under its mutex, so each method is one step
`Dampener F → Bool × Dampener F`.  The method's clock reading `d.now()` is
its argument `now`, a `time.Time` in nanoseconds.  The penalty is a
`float64` over the carrier `F` (`Go.Float64`).  A peer's record is a
pointer in the map, and what a method changes in it is the record the
model files back.  `Reset`, which nothing calls, and the logging are not
modelled.

What the handler relies on:
- A Down is held back only if the peer was suppressed less than
  `MaxSuppressTime` ago, or if its penalty reaches the threshold now
  (`Dampener.shouldSuppress_eq_true`).
- An Up is held back only while its peer is suppressed
  (`Dampener.shouldSuppressUp_eq_true`).
- No event is held back once its peer's suppression is `MaxSuppressTime`
  old (`Dampener.shouldSuppress_of_expired`,
  `Dampener.shouldSuppressUp_of_expired`).
-/

namespace GoBFD

open Go

variable {F : Type}

/-- `DampeningConfig`. -/
structure DampeningConfig (F : Type) where
  enabled : Bool
  suppressThreshold : F
  reuseThreshold : F
  maxSuppressTime : Duration
  halfLife : Duration

/-- `peerPenalty`, with times in nanoseconds.  The zero time `time.Time{}`
that `unsuppress` stores is `0`; it is read only while the peer is
suppressed, and suppressing a peer always stores the time it began. -/
structure PeerPenalty (F : Type) where
  penalty : F
  lastUpdate : Int
  suppressed : Bool
  suppressedSince : Int

/-- `Dampener`: the configuration and the record of each peer, by its
address text. -/
structure Dampener (F : Type) where
  cfg : DampeningConfig F
  peers : AList fun _ : String => PeerPenalty F

/-- `NewDampener(cfg, logger)`. -/
def newDampener (cfg : DampeningConfig F) : Dampener F := ⟨cfg, ∅⟩

section Methods

variable (fl : Float64 F)

/-- `getOrCreatePeer(peerAddr, now)`: the peer's record, or a new one with
no penalty, last updated now.  Go files the new record at once; here it is
filed with the caller's changes. -/
def Dampener.getOrCreatePeer (d : Dampener F) (peerAddr : String) (now : Int) : PeerPenalty F :=
  (d.peers.lookup peerAddr).getD
    { penalty := fl.ofNat 0
      lastUpdate := now
      suppressed := false
      suppressedSince := 0 }

/-- `decayPenalty(pp, now)`: halve the penalty for every half-life since
its last update, and clear it once it falls below `0.001`. -/
def decayPenalty (cfg : DampeningConfig F) (pp : PeerPenalty F) (now : Int) : PeerPenalty F :=
  if cfg.halfLife ≤ 0 ∨ fl.beq pp.penalty (fl.ofNat 0) = true then pp
  else
    let elapsed := now - pp.lastUpdate
    if elapsed ≤ 0 then pp
    else
      let penalty := fl.mul pp.penalty (fl.halfPow elapsed cfg.halfLife)
      { pp with
        penalty := if fl.lt penalty fl.milli then fl.ofNat 0 else penalty
        lastUpdate := now }

/-- `unsuppress(pp, peerAddr)`. -/
def unsuppress (pp : PeerPenalty F) : PeerPenalty F :=
  { pp with
    suppressed := false
    suppressedSince := 0
    penalty := fl.ofNat 0 }

/-- `ShouldSuppress(peerAddr)`, for a BFD Down of the peer at time `now`:
decay the penalty and add one, release a suppression `MaxSuppressTime`
old, start one at the threshold, and answer whether the peer is
suppressed. -/
def Dampener.shouldSuppress (d : Dampener F) (peerAddr : String) (now : Int) :
    Bool × Dampener F :=
  if !d.cfg.enabled then (false, d)
  else
    let pp := decayPenalty fl d.cfg (d.getOrCreatePeer fl peerAddr now) now
    -- the Down event itself
    let pp := { pp with penalty := fl.add pp.penalty (fl.ofNat 1), lastUpdate := now }
    if pp.suppressed ∧ d.cfg.maxSuppressTime ≤ now - pp.suppressedSince then
      (false, { d with peers := d.peers.insert peerAddr (unsuppress fl pp) })
    else if !pp.suppressed ∧ fl.le d.cfg.suppressThreshold pp.penalty then
      (true, { d with peers := d.peers.insert peerAddr { pp with suppressed := true, suppressedSince := now } })
    else (pp.suppressed, { d with peers := d.peers.insert peerAddr pp })

/-- `ShouldSuppressUp(peerAddr)`, for a BFD Up of the peer at time `now`:
decay the penalty, release a suppression `MaxSuppressTime` old or one
whose penalty is below the reuse threshold, and answer whether the peer is
still suppressed.  A peer with no record is not. -/
def Dampener.shouldSuppressUp (d : Dampener F) (peerAddr : String) (now : Int) :
    Bool × Dampener F :=
  if !d.cfg.enabled then (false, d)
  else
    match d.peers.lookup peerAddr with
    | none => (false, d)
    | some pp =>
      let pp := decayPenalty fl d.cfg pp now
      if pp.suppressed ∧ d.cfg.maxSuppressTime ≤ now - pp.suppressedSince then
        (false, { d with peers := d.peers.insert peerAddr (unsuppress fl pp) })
      else if pp.suppressed ∧ fl.lt pp.penalty d.cfg.reuseThreshold then
        (false, { d with peers := d.peers.insert peerAddr (unsuppress fl pp) })
      else (pp.suppressed, { d with peers := d.peers.insert peerAddr pp })

/-! ## Decay keeps the suppression -/

@[simp] theorem decayPenalty_suppressed (cfg : DampeningConfig F) (pp : PeerPenalty F) (now : Int) :
    (decayPenalty fl cfg pp now).suppressed = pp.suppressed := by
  unfold decayPenalty
  dsimp only
  split_ifs <;> rfl

@[simp] theorem decayPenalty_suppressedSince (cfg : DampeningConfig F) (pp : PeerPenalty F)
    (now : Int) : (decayPenalty fl cfg pp now).suppressedSince = pp.suppressedSince := by
  unfold decayPenalty
  dsimp only
  split_ifs <;> rfl

/-! ## What each method answers -/

variable {d : Dampener F} {peerAddr : String} {now : Int}

/-- A Down is held back only if the peer was suppressed less than
`MaxSuppressTime` ago, or if it was not suppressed and its penalty, with
this Down, reaches the suppress threshold. -/
theorem Dampener.shouldSuppress_eq_true (h : (d.shouldSuppress fl peerAddr now).1 = true) :
    let pp := decayPenalty fl d.cfg (d.getOrCreatePeer fl peerAddr now) now
    d.cfg.enabled = true ∧
      ((pp.suppressed = true ∧ now - pp.suppressedSince < d.cfg.maxSuppressTime) ∨
        (pp.suppressed = false ∧ fl.le d.cfg.suppressThreshold (fl.add pp.penalty (fl.ofNat 1)) = true)) := by
  intro pp
  unfold Dampener.shouldSuppress at h
  by_cases he : d.cfg.enabled = true
  · rw [if_neg (by simp [he])] at h
    dsimp only at h
    refine ⟨he, ?_⟩
    -- the branch that releases the peer answers false
    split_ifs at h with hmax hsup
    · -- suppression starts with this Down
      simp only [Bool.not_eq_true'] at hsup
      exact .inr hsup
    · -- the answer is the flag as it stood
      dsimp only at h
      simp only [h, true_and, Int.not_le] at hmax
      exact .inl ⟨h, hmax⟩
  · simp only [Bool.not_eq_true] at he
    simp [he] at h

/-- An Up is held back only while its peer is suppressed, less than
`MaxSuppressTime` after the suppression began, and with a decayed penalty
not below the reuse threshold. -/
theorem Dampener.shouldSuppressUp_eq_true (h : (d.shouldSuppressUp fl peerAddr now).1 = true) :
    ∃ pp, d.peers.lookup peerAddr = some pp ∧ pp.suppressed = true ∧
      now - pp.suppressedSince < d.cfg.maxSuppressTime ∧
      fl.lt (decayPenalty fl d.cfg pp now).penalty d.cfg.reuseThreshold = false := by
  unfold Dampener.shouldSuppressUp at h
  by_cases he : d.cfg.enabled = true
  · rw [if_neg (by simp [he])] at h
    split at h
    · cases h
    · next pp hl =>
      dsimp only at h
      -- both branches that release the peer answer false
      split_ifs at h with hmax hreuse
      rw [decayPenalty_suppressed] at h hmax hreuse
      rw [decayPenalty_suppressedSince] at hmax
      dsimp only at h
      simp only [h, true_and, Int.not_le, Bool.not_eq_true] at hmax hreuse
      exact ⟨pp, hl, h, hmax, hreuse⟩
  · simp only [Bool.not_eq_true] at he
    simp [he] at h

/-- A Down comes `MaxSuppressTime` or more after its peer's suppression
began: it is passed on. -/
theorem Dampener.shouldSuppress_of_expired {pp : PeerPenalty F}
    (hl : d.peers.lookup peerAddr = some pp) (hs : pp.suppressed = true)
    (ht : d.cfg.maxSuppressTime ≤ now - pp.suppressedSince) :
    (d.shouldSuppress fl peerAddr now).1 = false := by
  unfold Dampener.shouldSuppress
  by_cases he : d.cfg.enabled = true
  · rw [if_neg (by simp [he])]
    dsimp only
    have hpp : d.getOrCreatePeer fl peerAddr now = pp := by
      rw [Dampener.getOrCreatePeer, hl, Option.getD_some]
    rw [hpp, decayPenalty_suppressed, decayPenalty_suppressedSince, if_pos ⟨hs, ht⟩]
  · simp only [Bool.not_eq_true] at he
    simp [he]

/-- An Up comes `MaxSuppressTime` or more after its peer's suppression
began: it is passed on. -/
theorem Dampener.shouldSuppressUp_of_expired {pp : PeerPenalty F}
    (hl : d.peers.lookup peerAddr = some pp)
    (ht : d.cfg.maxSuppressTime ≤ now - pp.suppressedSince) :
    (d.shouldSuppressUp fl peerAddr now).1 = false := by
  cases hsu : (d.shouldSuppressUp fl peerAddr now).1 with
  | false => rfl
  | true =>
    -- a held-back Up finds the suppression younger than `MaxSuppressTime`
    obtain ⟨pp', hl', -, hlt, -⟩ := d.shouldSuppressUp_eq_true fl hsu
    rw [hl, Option.some.injEq] at hl'
    subst hl'
    exact absurd ht (Int.not_le.mpr hlt)

/-! ## What each method files

The handler's run invariant (`GoBGP.Handler`) needs more than the answer:
what record each method files for its peer.  `Dampener.Answered` says it
once for both methods; `starts` marks the method that may begin a
suppression (`ShouldSuppress`, for a Down). -/

/-- One call of the dampener for `peerAddr` at `now` took `d` to `d'` and
answered `b`: the configuration and the other peers' records are as they
were; the peer's record, if any, is not suppressed when the answer is
false; when it is true the record is suppressed, and its suppression
either began with this call or is the one the record held, less than
`MaxSuppressTime` old. -/
structure Dampener.Answered (d d' : Dampener F) (peerAddr : String) (now : Int) (starts b : Bool) :
    Prop where
  cfg : d'.cfg = d.cfg
  other : ∀ p, p ≠ peerAddr → d'.peers.lookup p = d.peers.lookup p
  released : b = false → ∀ pp', d'.peers.lookup peerAddr = some pp' → pp'.suppressed = false
  held : b = true → ∃ pp', d'.peers.lookup peerAddr = some pp' ∧ pp'.suppressed = true ∧
    ((starts = true ∧ pp'.suppressedSince = now) ∨
      ∃ pp, d.peers.lookup peerAddr = some pp ∧ pp.suppressed = true ∧
        pp'.suppressedSince = pp.suppressedSince ∧ now - pp.suppressedSince < d.cfg.maxSuppressTime)

/-- Filing a record `pp'` for the peer, suppressed exactly when the answer
is true, is an answer in the sense of `Dampener.Answered` as soon as the
suppression it holds is accounted for. -/
theorem Dampener.answered_insert (d : Dampener F) {peerAddr : String} {now : Int} {starts : Bool}
    (pp' : PeerPenalty F)
    (hs : pp'.suppressed = true → (starts = true ∧ pp'.suppressedSince = now) ∨
      ∃ pp, d.peers.lookup peerAddr = some pp ∧ pp.suppressed = true ∧
        pp'.suppressedSince = pp.suppressedSince ∧ now - pp.suppressedSince < d.cfg.maxSuppressTime) :
    d.Answered { d with peers := d.peers.insert peerAddr pp' } peerAddr now starts pp'.suppressed where
  cfg := rfl
  other p hp := AList.lookup_insert_ne hp
  released h pp'' hl := by
    rw [AList.lookup_insert, Option.some.injEq] at hl
    rw [← hl, h]
  held h := ⟨pp', AList.lookup_insert _, h, hs h⟩

/-- A dampener that is off and holds no record answers false and stays as
it is. -/
theorem Dampener.answered_self (d : Dampener F) (hp : d.peers = ∅) (peerAddr : String) (now : Int)
    (starts : Bool) : d.Answered d peerAddr now starts false where
  cfg := rfl
  other _ _ := rfl
  released _ pp' hl := by
    rw [hp] at hl
    cases hl
  held h := by cases h

variable {d : Dampener F} {peerAddr : String} {now : Int}

/-- `ShouldSuppress` with dampening on files one record for its peer: a
suppression it holds began with this Down, or is the one the record held,
less than `MaxSuppressTime` old (the Down that would make it older
releases it). -/
theorem Dampener.shouldSuppress_answered (he : d.cfg.enabled = true) :
    d.Answered (d.shouldSuppress fl peerAddr now).2 peerAddr now true (d.shouldSuppress fl peerAddr now).1 := by
  unfold Dampener.shouldSuppress
  rw [if_neg (by simp [he])]
  dsimp only
  split_ifs with hmax hsup
  · -- released: the record is unsuppressed
    exact d.answered_insert (unsuppress fl _) fun h => by simp [unsuppress] at h
  · -- the suppression begins with this Down
    exact d.answered_insert _ fun _ => .inl ⟨rfl, rfl⟩
  · -- the flag as it stood: a suppressed flag comes from the peer's record
    refine d.answered_insert _ fun h => .inr ?_
    simp only [decayPenalty_suppressed, decayPenalty_suppressedSince] at h hmax ⊢
    cases hl : d.peers.lookup peerAddr with
    | none => simp [Dampener.getOrCreatePeer, hl] at h
    | some pp =>
      simp only [Dampener.getOrCreatePeer, hl, Option.getD_some] at h hmax ⊢
      simp only [h, true_and, Int.not_le] at hmax
      exact ⟨pp, rfl, h, rfl, hmax⟩

/-- `ShouldSuppressUp` with dampening on never begins a suppression: a
suppression it leaves in place is the one the record held, less than
`MaxSuppressTime` old. -/
theorem Dampener.shouldSuppressUp_answered (he : d.cfg.enabled = true) :
    d.Answered (d.shouldSuppressUp fl peerAddr now).2 peerAddr now false
      (d.shouldSuppressUp fl peerAddr now).1 := by
  unfold Dampener.shouldSuppressUp
  rw [if_neg (by simp [he])]
  split
  · -- no record: nothing is filed
    next hl =>
    refine ⟨rfl, fun _ _ => rfl, fun _ pp' h => ?_, fun h => ?_⟩
    · rw [hl] at h
      cases h
    · cases h
  · next pp hl =>
    dsimp only
    split_ifs with hmax hreuse
    · exact d.answered_insert (unsuppress fl _) fun h => by simp [unsuppress] at h
    · exact d.answered_insert (unsuppress fl _) fun h => by simp [unsuppress] at h
    · refine d.answered_insert _ fun h => .inr ?_
      simp only [decayPenalty_suppressed, decayPenalty_suppressedSince] at h hmax ⊢
      simp only [h, true_and, Int.not_le] at hmax
      exact ⟨pp, hl, h, rfl, hmax⟩

end Methods

end GoBFD
