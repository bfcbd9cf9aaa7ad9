import GoBFD.Session
import GoBFD.Go.Map

/-!
# GoBFD.Micro

RFC 7130 micro-BFD on LAG interfaces, `internal/bfd/micro.go`: a
`MicroBFDGroup` records, for each member link of one LAG, the state of the
member's BFD session as the notifications reported it, and from them the
number of Up members and the aggregate state.

The group is a plain record here; `MicroBFDGroup.Consistent` is the
relation between its counters and its member map that the group's methods
are meant to keep:

* `newMicroBFDGroup_consistent` — a group built from a valid configuration
  starts consistent;
* `Consistent.updateMemberState`, `Consistent.addMember`,
  `Consistent.removeMember` — every method keeps it, on success and on
  error;
* `Consistent.aggregateUp_iff` — so the aggregate is Up exactly when at
  least `minActive` members are recorded Up;
* `Consistent.runCalls` — and it holds after any sequence of calls
  (`MicroBFDGroup.Call`), failed ones included, while
  `MicroBFDGroup.applyCall_changed` says each call reports exactly whether
  the aggregate moved.

Logging is not modelled.
-/

namespace GoBFD

variable {Addr : Type}

/-- The errors of `micro.go`, with the values their messages print. -/
inductive MicroError where
  /-- `ErrMicroBFDNoMembers`. -/
  | noMembers
  /-- `ErrMicroBFDDuplicateMember`, for the member link named. -/
  | duplicateMember (link : String)
  /-- `ErrMicroBFDInvalidMinActive`, with `min_active_links` and the number
  of members. -/
  | invalidMinActive (minActive : Int) (members : Nat)
  /-- `ErrMicroBFDMemberNotFound`. -/
  | memberNotFound (lag member : String)
  /-- `ErrMicroBFDMemberExists`. -/
  | memberExists (lag member : String)
  deriving Repr, DecidableEq

/-- `MicroBFDConfig`: the fields `NewMicroBFDGroup` reads.  The timers and
the multiplier of the member sessions, which it does not read, are left
out. -/
structure MicroBFDConfig (Addr : Type) where
  lagInterface : String
  memberLinks : List String
  peerAddr : Addr
  localAddr : Addr
  minActiveLinks : Int

/-- `memberEntry`: the recorded state of one member link. -/
structure MemberEntry where
  ifName : String
  state : State
  localDiscr : UInt32
  deriving Repr, DecidableEq

/-- `MicroBFDGroup`. -/
structure MicroBFDGroup (Addr : Type) where
  lagInterface : String
  members : AList fun _ : String => MemberEntry
  minActive : Int
  aggregateUp : Bool
  upCount : Int
  peerAddr : Addr
  localAddr : Addr

/-! ## Construction -/

/-- The loop of `validateMicroBFDConfig` over the member links: the first
link already in `seen`. -/
def firstDuplicateLink (seen : List String) : List String → Option String
  | [] => none
  | link :: links => if link ∈ seen then some link else firstDuplicateLink (link :: seen) links

/-- `validateMicroBFDConfig(cfg)`. -/
def validateMicroBFDConfig (cfg : MicroBFDConfig Addr) : Except MicroError Unit :=
  if cfg.memberLinks = [] then .error .noMembers
  else
    match firstDuplicateLink [] cfg.memberLinks with
    | some link => .error (.duplicateMember link)
    | none =>
      if cfg.minActiveLinks < 1 ∨ cfg.minActiveLinks > cfg.memberLinks.length then
        .error (.invalidMinActive cfg.minActiveLinks cfg.memberLinks.length)
      else pure ()

/-- One iteration of the loop of `NewMicroBFDGroup`: the link joins Down. -/
def insertDownMember (members : AList fun _ : String => MemberEntry) (link : String) :
    AList fun _ : String => MemberEntry :=
  members.insert link { ifName := link, state := .down, localDiscr := 0 }

/-- The member map of a new group: every link Down. -/
def initialMembers (links : List String) : AList fun _ : String => MemberEntry :=
  links.foldl insertDownMember ∅

/-- `NewMicroBFDGroup(cfg, logger)`. -/
def newMicroBFDGroup (cfg : MicroBFDConfig Addr) : Except MicroError (MicroBFDGroup Addr) := do
  validateMicroBFDConfig cfg
  pure
    { lagInterface := cfg.lagInterface
      members := initialMembers cfg.memberLinks
      minActive := cfg.minActiveLinks
      aggregateUp := false
      upCount := 0
      peerAddr := cfg.peerAddr
      localAddr := cfg.localAddr }

/-! ## Methods -/

namespace MicroBFDGroup

/-- `AddMember(ifName)`: a new member starts Down. -/
def addMember (g : MicroBFDGroup Addr) (ifName : String) :
    Except MicroError (MicroBFDGroup Addr) :=
  if (g.members.lookup ifName).isSome then .error (.memberExists g.lagInterface ifName)
  else .ok { g with members := g.members.insert ifName { ifName := ifName, state := .down, localDiscr := 0 } }

/-- `RemoveMember(ifName)`: drop the member, re-evaluate the aggregate, and
report whether it changed. -/
def removeMember (g : MicroBFDGroup Addr) (ifName : String) :
    Except MicroError (Bool × MicroBFDGroup Addr) :=
  match g.members.lookup ifName with
  | none => .error (.memberNotFound g.lagInterface ifName)
  | some entry =>
    let upCount := if entry.state = .up then g.upCount - 1 else g.upCount
    let aggregateUp := decide (upCount ≥ g.minActive)
    .ok (g.aggregateUp != aggregateUp,
      { g with members := g.members.erase ifName, upCount := upCount, aggregateUp := aggregateUp })

/-- The Up count after one member moves from `oldState` to `newState`. -/
def stepUpCount (upCount : Int) (oldState newState : State) : Int :=
  if oldState = .up ∧ newState ≠ .up then upCount - 1
  else if oldState ≠ .up ∧ newState = .up then upCount + 1
  else upCount

/-- `UpdateMemberState(ifName, newState, localDiscr)`: record the member's
new state and discriminator, re-evaluate the aggregate, and report whether
it changed.  A state equal to the recorded one changes nothing, not even the
discriminator. -/
def updateMemberState (g : MicroBFDGroup Addr) (ifName : String) (newState : State)
    (localDiscr : UInt32) : Except MicroError (Bool × MicroBFDGroup Addr) :=
  match g.members.lookup ifName with
  | none => .error (.memberNotFound g.lagInterface ifName)
  | some entry =>
    if entry.state = newState then .ok (false, g)
    else
      let upCount := stepUpCount g.upCount entry.state newState
      let aggregateUp := decide (upCount ≥ g.minActive)
      .ok (g.aggregateUp != aggregateUp,
        { g with
          members := g.members.insert ifName { entry with state := newState, localDiscr := localDiscr }
          upCount := upCount
          aggregateUp := aggregateUp })

/-- `IsUp()`. -/
def isUp (g : MicroBFDGroup Addr) : Bool := g.aggregateUp

/-! ## The group invariant -/

/-- Whether a member entry records Up. -/
def recordsUp (e : Sigma fun _ : String => MemberEntry) : Bool := decide (e.2.state = .up)

@[simp] theorem recordsUp_mk (link : String) (e : MemberEntry) :
    recordsUp ⟨link, e⟩ = decide (e.state = .up) := rfl

/-- The number of members recorded Up. -/
def upMembers (g : MicroBFDGroup Addr) : Nat := g.members.entries.countP recordsUp

/-- Each entry of a member map is filed under its own name. -/
def FiledByName (members : AList fun _ : String => MemberEntry) : Prop :=
  ∀ link e, members.lookup link = some e → e.ifName = link

theorem FiledByName.insert {members : AList fun _ : String => MemberEntry}
    (h : FiledByName members) {link : String} {e : MemberEntry} (he : e.ifName = link) :
    FiledByName (members.insert link e) := by
  intro l e' hl
  by_cases hk : l = link
  · subst hk
    simp only [AList.lookup_insert, Option.some.injEq] at hl
    rw [← hl, he]
  · rw [AList.lookup_insert_ne hk] at hl
    exact h l e' hl

theorem FiledByName.erase {members : AList fun _ : String => MemberEntry}
    (h : FiledByName members) (link : String) : FiledByName (members.erase link) := by
  intro l e hl
  by_cases hk : l = link
  · subst hk
    rw [AList.lookup_erase] at hl
    cases hl
  · rw [AList.lookup_erase_ne hk] at hl
    exact h l e hl

/-- What `NewMicroBFDGroup` sets up and the methods keep: the Up count is
the number of members recorded Up, the aggregate is the threshold test on
it, the threshold is at least one, and each entry is filed under its own
name. -/
structure Consistent (g : MicroBFDGroup Addr) : Prop where
  upCount_eq : g.upCount = g.upMembers
  aggregateUp_eq : g.aggregateUp = decide (g.upCount ≥ g.minActive)
  minActive_pos : 1 ≤ g.minActive
  filed : FiledByName g.members

variable {g g' : MicroBFDGroup Addr}

/-- The aggregate is Up exactly when at least `minActive` members are
recorded Up. -/
theorem Consistent.aggregateUp_iff (hg : g.Consistent) :
    g.isUp = true ↔ g.minActive ≤ g.upMembers := by
  rw [isUp, hg.aggregateUp_eq, hg.upCount_eq]
  simp

/-- One member's move changes the Up count as it changes the number of
members recorded Up. -/
theorem stepUpCount_upMembers (hg : g.Consistent) {ifName : String} {entry : MemberEntry}
    (he : g.members.lookup ifName = some entry) (entry' : MemberEntry) :
    stepUpCount g.upCount entry.state entry'.state =
      ((g.members.insert ifName entry').entries.countP recordsUp : Nat) := by
  have hc := AList.countP_insert_of_lookup he entry' recordsUp
  have hup : g.upCount = (g.members.entries.countP recordsUp : Nat) := hg.upCount_eq
  simp only [recordsUp_mk, decide_eq_true_eq] at hc
  rw [stepUpCount, hup]
  by_cases h₁ : entry.state = .up <;> by_cases h₂ : entry'.state = .up <;>
    simp [h₁, h₂] at hc ⊢ <;> omega

theorem Consistent.updateMemberState (hg : g.Consistent) {ifName : String} {newState : State}
    {localDiscr : UInt32} {changed : Bool}
    (hu : g.updateMemberState ifName newState localDiscr = .ok (changed, g')) :
    g'.Consistent := by
  unfold MicroBFDGroup.updateMemberState at hu
  split at hu
  · cases hu
  · rename_i entry he
    split at hu
    -- an unchanged state leaves the group as it was
    · cases hu
      exact hg
    · cases hu
      exact ⟨stepUpCount_upMembers hg he { entry with state := newState, localDiscr := localDiscr },
        rfl, hg.minActive_pos,
        hg.filed.insert (hg.filed ifName entry he)⟩

theorem Consistent.addMember (hg : g.Consistent) {ifName : String}
    (ha : g.addMember ifName = .ok g') : g'.Consistent := by
  unfold MicroBFDGroup.addMember at ha
  split at ha
  · cases ha
  · rename_i hnone
    cases ha
    have hl : g.members.lookup ifName = none := Option.not_isSome_iff_eq_none.mp hnone
    have hc := AList.countP_insert_of_lookup_none hl
      { ifName := ifName, state := .down, localDiscr := 0 } recordsUp
    -- the new member is Down, so the count of Up members does not move
    have hcount : g.upCount = ((g.members.insert ifName
        { ifName := ifName, state := .down, localDiscr := 0 }).entries.countP recordsUp : Nat) := by
      rw [hc, hg.upCount_eq, upMembers]
      simp
    exact ⟨hcount, hg.aggregateUp_eq, hg.minActive_pos, hg.filed.insert rfl⟩

theorem Consistent.removeMember (hg : g.Consistent) {ifName : String} {changed : Bool}
    (hr : g.removeMember ifName = .ok (changed, g')) : g'.Consistent := by
  unfold MicroBFDGroup.removeMember at hr
  split at hr
  · cases hr
  · rename_i entry he
    cases hr
    have hc := AList.countP_erase_of_lookup he recordsUp
    have hup : g.upCount = (g.members.entries.countP recordsUp : Nat) := hg.upCount_eq
    have hcount : (if entry.state = .up then g.upCount - 1 else g.upCount) =
        ((g.members.erase ifName).entries.countP recordsUp : Nat) := by
      simp only [recordsUp_mk, decide_eq_true_eq] at hc
      rw [hup]
      split_ifs at hc ⊢ <;> omega
    exact ⟨hcount, rfl, hg.minActive_pos, hg.filed.erase ifName⟩

/-! ## Runs of calls

The methods run under the group's mutex, so what the Manager does to a
group is a sequence of calls.  A call that fails returns before it writes
anything. -/

/-- A call of one of the group's methods, with its arguments. -/
inductive Call where
  | addMember (ifName : String)
  | removeMember (ifName : String)
  | updateMemberState (ifName : String) (newState : State) (localDiscr : UInt32)

/-- A call on `g`: the `changed` it returns (`AddMember` returns none) and
the group after it. -/
def applyCall (g : MicroBFDGroup Addr) : Call → Except MicroError (Option Bool × MicroBFDGroup Addr)
  | .addMember ifName => (fun g' => (none, g')) <$> g.addMember ifName
  | .removeMember ifName => (fun r => (some r.1, r.2)) <$> g.removeMember ifName
  | .updateMemberState ifName newState localDiscr =>
    (fun r => (some r.1, r.2)) <$> g.updateMemberState ifName newState localDiscr

/-- The group after a sequence of calls; a failed call leaves it as it was. -/
def runCalls (g : MicroBFDGroup Addr) : List Call → MicroBFDGroup Addr
  | [] => g
  | c :: cs =>
    match g.applyCall c with
    | .ok (_, g') => g'.runCalls cs
    | .error _ => g.runCalls cs

/-- What a successful call was: the method, its result, and what it
returned. -/
theorem applyCall_eq_ok {c : Call} {r : Option Bool} (hc : g.applyCall c = .ok (r, g')) :
    (∃ ifName, r = none ∧ g.addMember ifName = .ok g') ∨
      (∃ ifName changed, r = some changed ∧ g.removeMember ifName = .ok (changed, g')) ∨
      (∃ ifName newState localDiscr changed, r = some changed ∧
        g.updateMemberState ifName newState localDiscr = .ok (changed, g')) := by
  cases c with
  | addMember ifName =>
    cases ha : g.addMember ifName with
    | error e => simp [MicroBFDGroup.applyCall, ha] at hc
    | ok g₁ =>
      simp only [MicroBFDGroup.applyCall, ha] at hc
      cases hc
      exact .inl ⟨ifName, rfl, ha⟩
  | removeMember ifName =>
    cases hr : g.removeMember ifName with
    | error e => simp [MicroBFDGroup.applyCall, hr] at hc
    | ok res =>
      simp only [MicroBFDGroup.applyCall, hr] at hc
      cases hc
      exact .inr (.inl ⟨ifName, res.1, rfl, hr⟩)
  | updateMemberState ifName newState localDiscr =>
    cases hu : g.updateMemberState ifName newState localDiscr with
    | error e => simp [MicroBFDGroup.applyCall, hu] at hc
    | ok res =>
      simp only [MicroBFDGroup.applyCall, hu] at hc
      cases hc
      exact .inr (.inr ⟨ifName, newState, localDiscr, res.1, rfl, hu⟩)

theorem Consistent.applyCall (hg : g.Consistent) {c : Call} {r : Option Bool}
    (hc : g.applyCall c = .ok (r, g')) : g'.Consistent := by
  rcases applyCall_eq_ok hc with ⟨_, -, ha⟩ | ⟨_, _, -, hr⟩ | ⟨_, _, _, _, -, hu⟩
  · exact hg.addMember ha
  · exact hg.removeMember hr
  · exact hg.updateMemberState hu

theorem Consistent.runCalls (hg : g.Consistent) (calls : List Call) :
    (g.runCalls calls).Consistent := by
  induction calls generalizing g with
  | nil => exact hg
  | cons c cs ih =>
    rw [MicroBFDGroup.runCalls]
    split
    · rename_i r g' hc
      exact ih (hg.applyCall hc)
    · exact ih hg

/-- `RemoveMember` reports exactly whether the aggregate moved. -/
theorem removeMember_changed {ifName : String} {changed : Bool}
    (hr : g.removeMember ifName = .ok (changed, g')) :
    changed = (g.aggregateUp != g'.aggregateUp) := by
  unfold MicroBFDGroup.removeMember at hr
  split at hr
  · cases hr
  · cases hr
    rfl

/-- `UpdateMemberState` reports exactly whether the aggregate moved; an
unchanged state returns false and moves nothing. -/
theorem updateMemberState_changed {ifName : String} {newState : State} {localDiscr : UInt32}
    {changed : Bool} (hu : g.updateMemberState ifName newState localDiscr = .ok (changed, g')) :
    changed = (g.aggregateUp != g'.aggregateUp) := by
  unfold MicroBFDGroup.updateMemberState at hu
  split at hu
  · cases hu
  · split at hu
    · cases hu
      simp
    · cases hu
      rfl

/-- What a call reports: whether the aggregate moved, with `AddMember`,
which reports nothing, never moving it. -/
theorem applyCall_changed {c : Call} {r : Option Bool} (hc : g.applyCall c = .ok (r, g')) :
    r.getD false = (g.aggregateUp != g'.aggregateUp) := by
  rcases applyCall_eq_ok hc with ⟨_, rfl, ha⟩ | ⟨_, _, rfl, hr⟩ | ⟨_, _, _, _, rfl, hu⟩
  · -- a new member joins Down; the aggregate is not re-evaluated
    unfold MicroBFDGroup.addMember at ha
    split at ha
    · cases ha
    · cases ha
      simp
  · exact removeMember_changed hr
  · exact updateMemberState_changed hu

end MicroBFDGroup

/-! ## A new group -/

/-- The loop of `NewMicroBFDGroup` files every link Down under its own
name, given a map where that already holds. -/
theorem lookup_foldl_insertDownMember {links : List String}
    {acc : AList fun _ : String => MemberEntry}
    (hacc : ∀ l e, acc.lookup l = some e → e.ifName = l ∧ e.state = .down) {link : String}
    {e : MemberEntry} (h : (links.foldl insertDownMember acc).lookup link = some e) :
    e.ifName = link ∧ e.state = .down := by
  induction links generalizing acc with
  | nil => exact hacc link e h
  | cons x xs ih =>
    refine ih ?_ h
    intro l e' hl
    by_cases hk : l = x
    · subst hk
      simp only [insertDownMember, AList.lookup_insert, Option.some.injEq] at hl
      rw [← hl]
      exact ⟨rfl, rfl⟩
    · rw [insertDownMember, AList.lookup_insert_ne hk] at hl
      exact hacc l e' hl

/-- No member of a new group is recorded Up. -/
theorem upMembers_initialMembers (links : List String) :
    (initialMembers links).entries.countP MicroBFDGroup.recordsUp = 0 := by
  rw [List.countP_eq_zero]
  intro e he
  have hl : (initialMembers links).lookup e.1 = some e.2 := AList.mem_lookup_iff.mpr he
  have hdown := (lookup_foldl_insertDownMember (fun _ _ h => by cases h) hl).2
  simp [MicroBFDGroup.recordsUp, hdown]

/-- What a configuration `validateMicroBFDConfig` accepts. -/
theorem validateMicroBFDConfig_ok {cfg : MicroBFDConfig Addr}
    (h : validateMicroBFDConfig cfg = .ok ()) :
    cfg.memberLinks ≠ [] ∧ firstDuplicateLink [] cfg.memberLinks = none ∧
      1 ≤ cfg.minActiveLinks ∧ cfg.minActiveLinks ≤ cfg.memberLinks.length := by
  unfold validateMicroBFDConfig at h
  by_cases hnil : cfg.memberLinks = []
  · rw [if_pos hnil] at h
    cases h
  rw [if_neg hnil] at h
  cases hdup : firstDuplicateLink [] cfg.memberLinks with
  | some link =>
    simp only [hdup] at h
    cases h
  | none =>
    simp only [hdup] at h
    by_cases hmin : cfg.minActiveLinks < 1 ∨ cfg.minActiveLinks > cfg.memberLinks.length
    · rw [if_pos hmin] at h
      cases h
    · exact ⟨hnil, rfl, by omega, by omega⟩

theorem newMicroBFDGroup_consistent {cfg : MicroBFDConfig Addr} {g : MicroBFDGroup Addr}
    (hn : newMicroBFDGroup cfg = .ok g) : g.Consistent := by
  unfold newMicroBFDGroup at hn
  cases hv : validateMicroBFDConfig cfg with
  | error e =>
    rw [hv] at hn
    cases hn
  | ok u =>
    rw [hv] at hn
    cases hn
    have hmin := (validateMicroBFDConfig_ok hv).2.2.1
    refine ⟨by simp [MicroBFDGroup.upMembers, upMembers_initialMembers], ?_, hmin, ?_⟩
    · dsimp only
      exact (decide_eq_false (by omega)).symm
    · exact fun link e h => (lookup_foldl_insertDownMember (fun _ _ h => by cases h) h).1

theorem micro_group_counters_consistent {cfg : MicroBFDConfig Addr} {g : MicroBFDGroup Addr}
    (hn : newMicroBFDGroup cfg = .ok g) (calls : List MicroBFDGroup.Call) (c : MicroBFDGroup.Call) :
    let g₁ := g.runCalls calls
    g₁.upCount = g₁.upMembers ∧ g₁.aggregateUp = decide (g₁.upCount ≥ g₁.minActive) ∧
      ∀ r g₂, g₁.applyCall c = .ok (r, g₂) → r.getD false = (g₁.aggregateUp != g₂.aggregateUp) := by
  intro g₁
  have hg : g₁.Consistent := (newMicroBFDGroup_consistent hn).runCalls calls
  exact ⟨hg.upCount_eq, hg.aggregateUp_eq, fun _ _ hc => MicroBFDGroup.applyCall_changed hc⟩

/-- A LAG of two links that needs one Up. -/
def bond0Config : MicroBFDConfig Unit where
  lagInterface := "bond0"
  memberLinks := ["eth0", "eth1"]
  peerAddr := ()
  localAddr := ()
  minActiveLinks := 1

theorem micro_group_counters_consistent_bond0 :
    ∃ g : MicroBFDGroup Unit, newMicroBFDGroup bond0Config = .ok g ∧
      let g₁ := g.runCalls [.updateMemberState "eth0" .up 7, .addMember "eth2", .removeMember "eth1"]
      g₁.upCount = g₁.upMembers ∧ g₁.aggregateUp = decide (g₁.upCount ≥ g₁.minActive) ∧
        ∀ r g₂, g₁.applyCall (.updateMemberState "eth0" .down 7) = .ok (r, g₂) →
          r.getD false = (g₁.aggregateUp != g₂.aggregateUp) :=
  ⟨_, rfl, @micro_group_counters_consistent Unit bond0Config _ rfl _ _⟩

end GoBFD
