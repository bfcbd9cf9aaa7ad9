import GoBFD.GoBGP.Dampening

/-!
# GoBFD.GoBGP.Handler

The BFD-to-BGP handler of `internal/gobgp/handler.go`.  It consumes the
daemon's state changes.  For the strategy `disable-peer`, the only one
`NewHandler` accepts, it asks GoBGP to disable a peer whose session went
Down from Init or Up, with the RFC 9384 communication of
`internal/gobgp/rfc9384.go`, and to enable the peer again when its session
comes Up.  Flap dampening (`GoBGP.Dampening`) may hold either event back.
The GoBGP client is the list of calls the handler makes: a call that fails
is only logged.  Each event carries the reading of the dampener's clock at
its call.

* `Handler.Inv`: what a run from `NewHandler` keeps.  Every suppressed
  peer's suppression began at a held-back Down of that peer, at the time
  its record holds, and every actionable event of that peer since then was
  held back.
* `handler_suppression_window`: along every run, each event gets the call
  its transition asks for, or nothing; an actionable event gets nothing
  only inside a suppression window, which began at a held-back Down of the
  same peer less than `MaxSuppressTime` before it, every actionable event
  of that peer in between held back too.  With dampening off, every event
  gets its call.

The action timeout and the logger are not modelled; neither changes what
the handler asks.
-/

namespace GoBFD

open Go

variable {F Addr : Type}

/-- `bfdDownPrefix`. -/
def bfdDownPrefix : String := "BFD Down (RFC 9384 Cease/10)"

/-- `FormatBFDDownCommunication(diag)`. -/
def formatBFDDownCommunication (diag : Diag) : String :=
  bfdDownPrefix ++ ": diag=" ++ diag.string

/-- `StrategyDisablePeer`. -/
def strategyDisablePeer : String := "disable-peer"

/-- `StrategyWithdrawRoutes`, reserved. -/
def strategyWithdrawRoutes : String := "withdraw-routes"

/-- `ValidStrategies`. -/
def validStrategies : List String := [strategyDisablePeer, strategyWithdrawRoutes]

/-- The errors of `NewHandler`: "handler strategy %q: invalid gobgp
strategy" and "handler strategy %q: unsupported gobgp strategy". -/
inductive HandlerError where
  | invalidStrategy (strategy : String)
  | unsupportedStrategy (strategy : String)
  deriving DecidableEq

/-- `HandlerConfig`, without the client, the action timeout and the
logger. -/
structure HandlerConfig (F : Type) where
  strategy : String
  dampening : DampeningConfig F

/-- `Handler`, without the client, the action timeout and the logger. -/
structure Handler (F : Type) where
  strategy : String
  dampener : Dampener F

/-- `NewHandler(cfg)`: the strategy must be valid and not the reserved
`withdraw-routes`. -/
def newHandler (cfg : HandlerConfig F) : Except HandlerError (Handler F) :=
  if cfg.strategy ∉ validStrategies then .error (.invalidStrategy cfg.strategy)
  else if cfg.strategy = strategyWithdrawRoutes then .error (.unsupportedStrategy cfg.strategy)
  else .ok ⟨cfg.strategy, newDampener cfg.dampening⟩

/-- The GoBGP API calls of the handler: `DisablePeer(ctx, addr,
communication)` and `EnablePeer(ctx, addr)`. -/
inductive BGPCall where
  | disablePeer (peerAddr communication : String)
  | enablePeer (peerAddr : String)
  deriving DecidableEq

/-- The errors of `applyDownAction` and `applyUpAction` that come before
any call: "apply down action for peer %s: unsupported gobgp strategy" and
"... strategy %q: invalid gobgp strategy".  The handler only logs them. -/
inductive ActionError where
  | unsupportedStrategy (peerAddr : String)
  | invalidStrategy (peerAddr strategy : String)
  deriving DecidableEq

namespace Handler

/-- `applyDownAction(ctx, peerAddr, sc)`: the call the strategy makes. -/
def applyDownAction (hd : Handler F) (peerAddr : String) (sc : StateChange Addr) :
    Except ActionError BGPCall :=
  if hd.strategy = strategyDisablePeer then
    .ok (.disablePeer peerAddr (formatBFDDownCommunication sc.diag))
  else if hd.strategy = strategyWithdrawRoutes then .error (.unsupportedStrategy peerAddr)
  else .error (.invalidStrategy peerAddr hd.strategy)

/-- `applyUpAction(ctx, peerAddr, sc)`. -/
def applyUpAction (hd : Handler F) (peerAddr : String) : Except ActionError BGPCall :=
  if hd.strategy = strategyDisablePeer then .ok (.enablePeer peerAddr)
  else if hd.strategy = strategyWithdrawRoutes then .error (.unsupportedStrategy peerAddr)
  else .error (.invalidStrategy peerAddr hd.strategy)

end Handler

/-- `isTransitionToDown(sc)`: Down from Init or Up; a move out of
AdminDown is not a failure. -/
def isTransitionToDown (sc : StateChange Addr) : Bool :=
  decide (sc.newState = .down ∧ (sc.oldState = .up ∨ sc.oldState = .init))

/-- `isTransitionToUp(sc)`. -/
def isTransitionToUp (sc : StateChange Addr) : Bool :=
  decide (sc.newState = .up ∧ sc.oldState ≠ .up)

section Handle

variable (fl : Float64 F) (ip : NetIP Addr)

namespace Handler

/-- `handleDown(ctx, peerAddr, sc)`: a Down the dampener holds back makes
no call. -/
def handleDown (hd : Handler F) (peerAddr : String) (sc : StateChange Addr) (now : Int) :
    Option BGPCall × Handler F :=
  match hd.dampener.shouldSuppress fl peerAddr now with
  | (true, d) => (none, { hd with dampener := d })
  | (false, d) => ((hd.applyDownAction peerAddr sc).toOption, { hd with dampener := d })

/-- `handleUp(ctx, peerAddr, sc)`. -/
def handleUp (hd : Handler F) (peerAddr : String) (now : Int) : Option BGPCall × Handler F :=
  match hd.dampener.shouldSuppressUp fl peerAddr now with
  | (true, d) => (none, { hd with dampener := d })
  | (false, d) => ((hd.applyUpAction peerAddr).toOption, { hd with dampener := d })

/-- `handleStateChange(ctx, sc)`: the peer is the text of the session's
peer address; other transitions are informational. -/
def handleStateChange (hd : Handler F) (sc : StateChange Addr) (now : Int) :
    Option BGPCall × Handler F :=
  let peerAddr := ip.string sc.peerAddr
  if isTransitionToDown sc then hd.handleDown fl peerAddr sc now
  else if isTransitionToUp sc then hd.handleUp fl peerAddr now
  else (none, hd)

/-- `Run(ctx, events)` over the state changes it received, each with the
clock reading of its dampener call: the call made for each. -/
def run (hd : Handler F) (evs : List (StateChange Addr × Int)) : List (Option BGPCall) × Handler F :=
  evs.foldl (fun acc e =>
    let r := acc.2.handleStateChange fl ip e.1 e.2
    (acc.1 ++ [r.1], r.2)) ([], hd)

theorem run_append_singleton (hd : Handler F) (evs : List (StateChange Addr × Int))
    (e : StateChange Addr × Int) :
    hd.run fl ip (evs ++ [e]) =
      ((hd.run fl ip evs).1 ++ [((hd.run fl ip evs).2.handleStateChange fl ip e.1 e.2).1],
        ((hd.run fl ip evs).2.handleStateChange fl ip e.1 e.2).2) := by
  simp only [Handler.run, List.foldl_append, List.foldl_cons, List.foldl_nil]

end Handler

end Handle

/-! ## What the strategy asks -/

section Spec

variable (ip : NetIP Addr)

/-- The transitions the handler acts on. -/
def actionable (sc : StateChange Addr) : Bool := isTransitionToDown sc || isTransitionToUp sc

/-- The call `disable-peer` makes for a state change, if any. -/
def expectedCall (sc : StateChange Addr) : Option BGPCall :=
  if isTransitionToDown sc then
    some (.disablePeer (ip.string sc.peerAddr) (formatBFDDownCommunication sc.diag))
  else if isTransitionToUp sc then some (.enablePeer (ip.string sc.peerAddr))
  else none

theorem expectedCall_of_not_actionable {sc : StateChange Addr} (h : actionable sc = false) :
    expectedCall ip sc = none := by
  simp only [actionable, Bool.or_eq_false_iff] at h
  simp [expectedCall, h.1, h.2]

/-- The actionable events of peer `p` from index `j` to index `i` made no
call. -/
def HeldFrom (evs : List (StateChange Addr × Int)) (outs : List (Option BGPCall)) (p : String)
    (j i : Nat) : Prop :=
  ∀ k sc t, j ≤ k → k ≤ i → evs[k]? = some (sc, t) → ip.string sc.peerAddr = p →
    actionable sc = true → outs[k]? = some none

/-- What the handler did with the event at `i`: the call its transition
asks for, or, for an actionable event, nothing, inside a window that began
at a held-back Down of the same peer, the event itself or one less than
`maxSuppressTime` before it. -/
def Handled (maxSuppressTime : Duration) (evs : List (StateChange Addr × Int))
    (outs : List (Option BGPCall)) (i : Nat) : Prop :=
  ∀ sc t, evs[i]? = some (sc, t) →
    outs[i]? = some (expectedCall ip sc) ∨
      (actionable sc = true ∧
        ∃ j sc₀ t₀, j ≤ i ∧ evs[j]? = some (sc₀, t₀) ∧ isTransitionToDown sc₀ = true ∧
          ip.string sc₀.peerAddr = ip.string sc.peerAddr ∧ (j = i ∨ t - t₀ < maxSuppressTime) ∧
          HeldFrom ip evs outs (ip.string sc.peerAddr) j i)

variable {ip}

/-- A window up to `i` stays one when events are appended after `i`. -/
theorem HeldFrom.append {evs : List (StateChange Addr × Int)} {outs : List (Option BGPCall)}
    {p : String} {j i : Nat} (h : HeldFrom ip evs outs p j i) (hi : i < evs.length)
    (hl : outs.length = evs.length) (es : List (StateChange Addr × Int)) (os : List (Option BGPCall)) :
    HeldFrom ip (evs ++ es) (outs ++ os) p j i := by
  intro k sc t hjk hki he hp ha
  rw [List.getElem?_append_left (by omega)] at he
  rw [List.getElem?_append_left (by omega)]
  exact h k sc t hjk hki he hp ha

/-- A window open to the end of the run grows by an event that made no
call or that is not its peer's actionable event. -/
theorem HeldFrom.snoc {evs : List (StateChange Addr × Int)} {outs : List (Option BGPCall)}
    {p : String} {j : Nat} (h : HeldFrom ip evs outs p j evs.length) (hl : outs.length = evs.length)
    {sc : StateChange Addr} {t : Int} {o : Option BGPCall}
    (ho : ip.string sc.peerAddr = p → actionable sc = true → o = none) :
    HeldFrom ip (evs ++ [(sc, t)]) (outs ++ [o]) p j (evs.length + 1) := by
  intro k sc' t' hjk hki he hp ha
  rcases Nat.lt_or_ge k evs.length with hk | hk
  · rw [List.getElem?_append_left hk] at he
    rw [List.getElem?_append_left (by omega)]
    exact h k sc' t' hjk (by omega) he hp ha
  · -- the event appended
    have hk' : k = evs.length := by
      rcases Nat.lt_or_ge k (evs.length + 1) with hk'' | hk''
      · omega
      · rw [List.getElem?_eq_none (by simp; omega)] at he
        cases he
    subst hk'
    rw [List.getElem?_concat_length, Option.some.injEq, Prod.mk.injEq] at he
    obtain ⟨rfl, rfl⟩ := he
    rw [← hl, List.getElem?_concat_length, ho hp ha]

/-- `Handled` at an index before the end is kept by appending events. -/
theorem Handled.append {m : Duration} {evs : List (StateChange Addr × Int)}
    {outs : List (Option BGPCall)} {i : Nat} (h : Handled ip m evs outs i) (hi : i < evs.length)
    (hl : outs.length = evs.length) (es : List (StateChange Addr × Int)) (os : List (Option BGPCall)) :
    Handled ip m (evs ++ es) (outs ++ os) i := by
  intro sc t he
  rw [List.getElem?_append_left hi] at he
  rw [List.getElem?_append_left (by omega)]
  rcases h sc t he with hc | ⟨ha, j, sc₀, t₀, hj, he₀, hd₀, hp, ht, hw⟩
  · exact .inl hc
  · refine .inr ⟨ha, j, sc₀, t₀, hj, ?_, hd₀, hp, ht, hw.append hi hl es os⟩
    rw [List.getElem?_append_left (by omega), he₀]

end Spec

/-! ## One event -/

section Step

variable (fl : Float64 F) (ip : NetIP Addr)

namespace Handler

variable {hd : Handler F}

/-- Under `disable-peer` an actionable event is answered by the dampener,
and makes its call unless the answer holds it back; any other event
changes nothing.  A dampener that is off holds no record. -/
theorem handleStateChange_eq (hs : hd.strategy = strategyDisablePeer)
    (hoff : hd.dampener.cfg.enabled = false → hd.dampener.peers = ∅) (sc : StateChange Addr) (t : Int) :
    (actionable sc = false ∧ hd.handleStateChange fl ip sc t = (none, hd)) ∨
      (actionable sc = true ∧ ∃ b d',
        (hd.dampener.Answered d' (ip.string sc.peerAddr) t (isTransitionToDown sc) b ∧
          (hd.dampener.cfg.enabled = false → b = false ∧ d' = hd.dampener)) ∧
        hd.handleStateChange fl ip sc t = (if b then none else expectedCall ip sc, { hd with dampener := d' })) := by
  -- the dampener's answer for either kind of event, on or off
  have hans : ∀ (r : Bool × Dampener F) (starts : Bool),
      (hd.dampener.cfg.enabled = true → hd.dampener.Answered r.2 (ip.string sc.peerAddr) t starts r.1) →
      (hd.dampener.cfg.enabled = false → r = (false, hd.dampener)) →
      hd.dampener.Answered r.2 (ip.string sc.peerAddr) t starts r.1 ∧
        (hd.dampener.cfg.enabled = false → r.1 = false ∧ r.2 = hd.dampener) := by
    intro r starts hon hof
    refine ⟨?_, fun he => by rw [hof he]; exact ⟨rfl, rfl⟩⟩
    cases he : hd.dampener.cfg.enabled
    · rw [hof he]
      exact hd.dampener.answered_self (hoff he) _ t starts
    · exact hon he
  unfold Handler.handleStateChange
  dsimp only
  by_cases hdn : isTransitionToDown sc = true
  · -- a Down: `ShouldSuppress`
    refine .inr ⟨by simp [actionable, hdn], _, _, hans (hd.dampener.shouldSuppress fl _ t) _
      (fun he => hdn ▸ hd.dampener.shouldSuppress_answered fl he)
      (fun he => by simp [Dampener.shouldSuppress, he]), ?_⟩
    rw [if_pos hdn]
    unfold Handler.handleDown
    rcases hd.dampener.shouldSuppress fl (ip.string sc.peerAddr) t with ⟨_ | _, d'⟩
    · simp [expectedCall, hdn, Handler.applyDownAction, hs, Except.toOption]
    · rfl
  · rw [if_neg hdn]
    by_cases hup : isTransitionToUp sc = true
    · -- an Up: `ShouldSuppressUp`
      have hdn' : isTransitionToDown sc = false := by simpa using hdn
      refine .inr ⟨by simp [actionable, hup], _, _, hans (hd.dampener.shouldSuppressUp fl _ t) _
        (fun he => hdn' ▸ hd.dampener.shouldSuppressUp_answered fl he)
        (fun he => by simp [Dampener.shouldSuppressUp, he]), ?_⟩
      rw [if_pos hup]
      unfold Handler.handleUp
      rcases hd.dampener.shouldSuppressUp fl (ip.string sc.peerAddr) t with ⟨_ | _, d'⟩
      · simp [expectedCall, hdn', hup, Handler.applyUpAction, hs, Except.toOption]
      · rfl
    · rw [if_neg hup]
      exact .inl ⟨by simp [actionable, hdn, hup], rfl⟩

end Handler

end Step

/-! ## Runs -/

section Runs

variable (ip : NetIP Addr)

/-- Peer `p`'s suppression, begun at time `s`, is accounted for by the
run so far: it began at a held-back Down of `p` at `s`, and every
actionable event of `p` since then was held back. -/
def Window (evs : List (StateChange Addr × Int)) (outs : List (Option BGPCall)) (p : String) (s : Int) :
    Prop :=
  ∃ j sc₀, evs[j]? = some (sc₀, s) ∧ isTransitionToDown sc₀ = true ∧ ip.string sc₀.peerAddr = p ∧
    HeldFrom ip evs outs p j evs.length

variable {ip}

theorem HeldFrom.mono {evs : List (StateChange Addr × Int)} {outs : List (Option BGPCall)} {p : String}
    {j i i' : Nat} (h : HeldFrom ip evs outs p j i) (hi : i' ≤ i) : HeldFrom ip evs outs p j i' :=
  fun k sc t hjk hki => h k sc t hjk (le_trans hki hi)

theorem getElem?_append_of_eq_some {α : Type} {l l' : List α} {j : Nat} {x : α} (h : l[j]? = some x) :
    (l ++ l')[j]? = some x := by
  rw [List.getElem?_append_left (List.getElem?_eq_some_iff.mp h).1, h]

/-- A window grows by an event that made no call or that is not its
peer's actionable event. -/
theorem Window.snoc {evs : List (StateChange Addr × Int)} {outs : List (Option BGPCall)} {p : String}
    {s : Int} (hw : Window ip evs outs p s) (hl : outs.length = evs.length) {sc : StateChange Addr}
    {t : Int} {o : Option BGPCall} (ho : ip.string sc.peerAddr = p → actionable sc = true → o = none) :
    Window ip (evs ++ [(sc, t)]) (outs ++ [o]) p s := by
  obtain ⟨j, sc₀, he₀, hd₀, hp₀, hh⟩ := hw
  refine ⟨j, sc₀, getElem?_append_of_eq_some he₀, hd₀, hp₀, ?_⟩
  rw [List.length_append, List.length_singleton]
  exact hh.snoc hl ho

/-- A window that begins with an event that made no call. -/
theorem HeldFrom.start {evs : List (StateChange Addr × Int)} {outs : List (Option BGPCall)}
    (hl : outs.length = evs.length) (p : String) (e : StateChange Addr × Int) :
    HeldFrom ip (evs ++ [e]) (outs ++ [none]) p evs.length (evs.length + 1) := by
  -- nothing of the run before the event is in the window
  have hnil : HeldFrom ip evs outs p evs.length evs.length := by
    intro k sc' t' hjk hki he
    rw [show k = evs.length by omega, List.getElem?_eq_none (le_refl _)] at he
    cases he
  exact hnil.snoc hl fun _ _ => rfl

variable (fl : Float64 F) (ip)

/-- What a run from `NewHandler cfg` keeps, after the events `evs` with
the calls `outs`: the strategy and the dampener's configuration as built,
no record while dampening is off, each event handled, and each suppressed
peer's suppression accounted for by a `Window`. -/
structure Handler.Inv (cfg : HandlerConfig F) (evs : List (StateChange Addr × Int))
    (outs : List (Option BGPCall)) (hd : Handler F) : Prop where
  strategy : hd.strategy = strategyDisablePeer
  dcfg : hd.dampener.cfg = cfg.dampening
  off : cfg.dampening.enabled = false → hd.dampener.peers = ∅
  length : outs.length = evs.length
  handled : ∀ i, i < evs.length → Handled ip cfg.dampening.maxSuppressTime evs outs i
  window : ∀ p pp, hd.dampener.peers.lookup p = some pp → pp.suppressed = true →
    Window ip evs outs p pp.suppressedSince

namespace Handler

variable {cfg : HandlerConfig F} {hd : Handler F}

theorem Inv.init (h : newHandler cfg = .ok hd) : hd.Inv ip cfg [] [] := by
  unfold newHandler at h
  split_ifs at h with hv hw
  cases h
  refine ⟨?_, rfl, fun _ => rfl, rfl, fun i hi => absurd hi (Nat.not_lt_zero i), ?_⟩
  · simp only [validStrategies, List.mem_cons, List.not_mem_nil, or_false] at hv
    rcases hv with hv | hv
    · exact hv
    · exact absurd hv hw
  · intro p pp hl
    simp [newDampener] at hl

/-- A held-back actionable event: its peer's record is suppressed, and
the window it is in either begins with it or began less than
`MaxSuppressTime` before it. -/
theorem Inv.held {evs : List (StateChange Addr × Int)} {outs : List (Option BGPCall)}
    (hi : hd.Inv ip cfg evs outs) {sc : StateChange Addr} {t : Int} {d' : Dampener F}
    (hans : hd.dampener.Answered d' (ip.string sc.peerAddr) t (isTransitionToDown sc) true) :
    ∃ pp', d'.peers.lookup (ip.string sc.peerAddr) = some pp' ∧ pp'.suppressed = true ∧
      ∃ j sc₀, j ≤ evs.length ∧ (evs ++ [(sc, t)])[j]? = some (sc₀, pp'.suppressedSince) ∧
        isTransitionToDown sc₀ = true ∧ ip.string sc₀.peerAddr = ip.string sc.peerAddr ∧
        HeldFrom ip (evs ++ [(sc, t)]) (outs ++ [none]) (ip.string sc.peerAddr) j (evs.length + 1) ∧
        (j = evs.length ∨ t - pp'.suppressedSince < cfg.dampening.maxSuppressTime) := by
  obtain ⟨pp', hl', hs', hcase⟩ := hans.held rfl
  refine ⟨pp', hl', hs', ?_⟩
  rcases hcase with ⟨hdn, hsince⟩ | ⟨pp, hl, hs, hsince, hlt⟩
  · -- the window begins with this Down
    rw [hsince]
    exact ⟨evs.length, sc, le_refl _, List.getElem?_concat_length .., hdn, rfl,
      HeldFrom.start hi.length _ _, .inl rfl⟩
  · -- the window the record held goes on
    obtain ⟨j, sc₀, he₀, hd₀, hp₀, hh⟩ := hi.window _ pp hl hs
    have hj : j < evs.length := (List.getElem?_eq_some_iff.mp he₀).1
    rw [hsince]
    refine ⟨j, sc₀, hj.le, getElem?_append_of_eq_some he₀, hd₀, hp₀, hh.snoc hi.length fun _ _ => rfl,
      .inr ?_⟩
    rw [← hi.dcfg]
    exact hlt

/-- The invariant after one more event. -/
theorem Inv.snoc {evs : List (StateChange Addr × Int)} {outs : List (Option BGPCall)}
    (hi : hd.Inv ip cfg evs outs) (sc : StateChange Addr) (t : Int) :
    (hd.handleStateChange fl ip sc t).2.Inv ip cfg (evs ++ [(sc, t)])
      (outs ++ [(hd.handleStateChange fl ip sc t).1]) := by
  have hoff : hd.dampener.cfg.enabled = false → hd.dampener.peers = ∅ := fun he =>
    hi.off (hi.dcfg ▸ he)
  have hlen : ∀ o : Option BGPCall, (outs ++ [o]).length = (evs ++ [(sc, t)]).length := by
    simp [hi.length]
  -- the events before the new one are handled as they were
  have hstep : ∀ o, Handled ip cfg.dampening.maxSuppressTime (evs ++ [(sc, t)]) (outs ++ [o]) evs.length →
      ∀ i, i < (evs ++ [(sc, t)]).length →
        Handled ip cfg.dampening.maxSuppressTime (evs ++ [(sc, t)]) (outs ++ [o]) i := by
    intro o h i hlt
    by_cases hlt' : i < evs.length
    · exact (hi.handled i hlt').append hlt' hi.length _ _
    · simp only [List.length_append, List.length_singleton] at hlt
      rwa [show i = evs.length by omega]
  have hat : ∀ {sc' t'}, (evs ++ [(sc, t)])[evs.length]? = some (sc', t') → sc' = sc ∧ t' = t := by
    intro sc' t' he
    rw [List.getElem?_concat_length, Option.some.injEq, Prod.mk.injEq] at he
    exact ⟨he.1.symm, he.2.symm⟩
  rcases Handler.handleStateChange_eq fl ip hi.strategy hoff sc t with
    ⟨ha, heq⟩ | ⟨ha, b, d', ⟨hans, hdis⟩, heq⟩
  · -- an informational event: no call, which is what it asks
    rw [heq]
    refine ⟨hi.strategy, hi.dcfg, hi.off, hlen none, hstep none ?_, fun p pp hl hs => ?_⟩
    · intro sc' t' he
      obtain ⟨rfl, rfl⟩ := hat he
      left
      rw [← hi.length, List.getElem?_concat_length, expectedCall_of_not_actionable ip ha]
    · exact (hi.window p pp hl hs).snoc hi.length fun _ h => absurd h (by simp [ha])
  · rw [heq]
    refine ⟨hi.strategy, hans.cfg.trans hi.dcfg, fun he => ?_, hlen _, hstep _ ?_, fun p pp hl hs => ?_⟩
    · rw [(hdis (hi.dcfg ▸ he)).2]
      exact hi.off he
    · intro sc' t' he
      obtain ⟨rfl, rfl⟩ := hat he
      cases b with
      | false =>
        left
        rw [← hi.length, List.getElem?_concat_length]
        rfl
      | true =>
        -- held back, inside its window
        obtain ⟨pp', -, -, j, sc₀, hj, he₀, hd₀, hp₀, hh, ht⟩ := hi.held ip hans
        right
        refine ⟨ha, j, sc₀, pp'.suppressedSince, hj, he₀, hd₀, hp₀, ?_, hh.mono (Nat.le_succ _)⟩
        rcases ht with rfl | ht
        · exact .inl rfl
        · exact .inr ht
    · by_cases hp : p = ip.string sc.peerAddr
      · subst hp
        cases b with
        | false => exact absurd (hans.released rfl pp hl) (by simp [hs])
        | true =>
          obtain ⟨pp', hl', -, j, sc₀, -, he₀, hd₀, hp₀, hh, -⟩ := hi.held ip hans
          rw [hl, Option.some.injEq] at hl'
          subst hl'
          refine ⟨j, sc₀, he₀, hd₀, hp₀, ?_⟩
          rw [List.length_append, List.length_singleton]
          exact hh
      · rw [hans.other p hp] at hl
        exact (hi.window p pp hl hs).snoc hi.length fun h => absurd h.symm hp

/-- Every run from `NewHandler cfg` keeps the invariant. -/
theorem Inv.run (h : newHandler cfg = .ok hd) (evs : List (StateChange Addr × Int)) :
    (hd.run fl ip evs).2.Inv ip cfg evs (hd.run fl ip evs).1 := by
  induction evs using List.reverseRecOn with
  | nil => exact Inv.init ip h
  | append_singleton evs e ih =>
    rw [Handler.run_append_singleton]
    exact Handler.Inv.snoc ip fl ih e.1 e.2

/-- With dampening off, every event gets the call its transition asks
for, and the handler stays as it is. -/
theorem handleStateChange_of_off (hs : hd.strategy = strategyDisablePeer)
    (he : hd.dampener.cfg.enabled = false) (sc : StateChange Addr) (t : Int) :
    hd.handleStateChange fl ip sc t = (expectedCall ip sc, hd) := by
  have hdown : hd.dampener.shouldSuppress fl (ip.string sc.peerAddr) t = (false, hd.dampener) := by
    simp [Dampener.shouldSuppress, he]
  have hup : hd.dampener.shouldSuppressUp fl (ip.string sc.peerAddr) t = (false, hd.dampener) := by
    simp [Dampener.shouldSuppressUp, he]
  unfold Handler.handleStateChange Handler.handleDown Handler.handleUp expectedCall
  simp only [hdown, hup, Handler.applyDownAction, Handler.applyUpAction, if_pos hs]
  split_ifs <;> rfl

/-- With dampening off, a run makes the call of every event. -/
theorem run_of_off (hs : hd.strategy = strategyDisablePeer) (he : hd.dampener.cfg.enabled = false)
    (evs : List (StateChange Addr × Int)) :
    hd.run fl ip evs = (evs.map fun e => expectedCall ip e.1, hd) := by
  induction evs using List.reverseRecOn with
  | nil => rfl
  | append_singleton evs e ih =>
    rw [Handler.run_append_singleton, ih, handleStateChange_of_off ip fl hs he, List.map_append]
    rfl

end Handler

/-- Along every run of the handler from `NewHandler`, whatever the state
changes and the clock readings: each event gets the call its transition
asks for, or nothing; an actionable event gets nothing only inside a
suppression window of its peer, begun at a held-back Down of the same peer
(the event itself, or one less than `MaxSuppressTime` before it), every
actionable event of that peer in between held back too.  With dampening
off, every event gets its call. -/
theorem handler_suppression_window {cfg : HandlerConfig F} {hd : Handler F} (h : newHandler cfg = .ok hd)
    (evs : List (StateChange Addr × Int)) :
    (∀ i, i < evs.length → Handled ip cfg.dampening.maxSuppressTime evs (hd.run fl ip evs).1 i) ∧
      (cfg.dampening.enabled = false → (hd.run fl ip evs).1 = evs.map fun e => expectedCall ip e.1) := by
  refine ⟨(Handler.Inv.run ip fl h evs).handled, fun he => ?_⟩
  have h₀ := Handler.Inv.init ip h
  rw [Handler.run_of_off ip fl h₀.strategy (h₀.dcfg ▸ he) evs]

/-- `disable-peer` with dampening: suppression at a penalty of 2, reuse
below 1, for at most 60 s. -/
def flapHandlerConfig : HandlerConfig Rat :=
  ⟨"disable-peer", ⟨true, 2, 1, 60000000000, 15000000000⟩⟩

/-- The handler `NewHandler` builds from `flapHandlerConfig`. -/
def flapHandler : Handler Rat := ⟨"disable-peer", newDampener flapHandlerConfig.dampening⟩

/-- A state change of the session to 10.0.0.2. -/
def flapChange (oldState newState : State) : StateChange (Option (List UInt8)) :=
  ⟨7, some [10, 0, 0, 2], oldState, newState, 1, .singleHop, "eth0"⟩

/-- The session flaps twice, one second apart. -/
def flapEvents : List (StateChange (Option (List UInt8)) × Int) :=
  [(flapChange .up .down, 0), (flapChange .down .up, 1000000000), (flapChange .up .down, 2000000000),
    (flapChange .down .up, 3000000000)]

/-- The second Down starts a suppression and the Up after it is held back
in the window it began. -/
theorem handler_suppression_window_flap :
    (flapHandler.run (exact fun _ _ => 1) ipv4 flapEvents).1.map Option.isSome = [true, true, false, false] ∧
      Handled ipv4 60000000000 flapEvents (flapHandler.run (exact fun _ _ => 1) ipv4 flapEvents).1 3 :=
  ⟨by decide +kernel, (handler_suppression_window ipv4 (exact fun _ _ => 1)
    (show newHandler flapHandlerConfig = .ok flapHandler from rfl) flapEvents).1 3 (by decide)⟩

end Runs

end GoBFD
