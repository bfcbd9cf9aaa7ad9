import GoBFD.Daemon.Run

/-!
# GoBFD.Daemon.Groups

The micro-BFD groups over every run of the daemon.  Under its own methods a
group keeps its Up count and aggregate in step with the member states it
records (`MicroBFDGroup.Consistent`).  Here that is carried up to the
manager and the daemon.  The session methods never touch the groups,
group reconciliation files only groups that `NewMicroBFDGroup` built, and
`RunDispatch` changes a group only through `UpdateMemberState`.  So in every
reachable state of the daemon, under any interleaving of session steps,
dispatches, reloads and `WatchSessionEvents` handlers, each group the
manager holds is consistent: its aggregate is Up exactly when at least
`min_active_links` of the members it records are Up.

Whether the recorded states are those of the live member sessions is a
different question, which this invariant does not answer.

The reconcile loops are folds.  Each iteration either leaves the manager as
it was or makes one call of the manager, which is what the `_manager`
lemmas below say; an invariant of those calls is then carried through the
loop by `List.foldlRecOn`.
-/

namespace GoBFD

open Go

variable {Addr : Type}

/-! ## The group invariant of the manager -/

section Invariant

variable {m m' : Manager Addr}

/-- Every group the manager holds is consistent. -/
def Manager.GroupsConsistent (m : Manager Addr) : Prop :=
  ∀ lag g, m.microGroups.lookup lag = some g → g.Consistent

theorem Manager.GroupsConsistent.of_microGroups_eq (hm : m.GroupsConsistent)
    (he : m'.microGroups = m.microGroups) : m'.GroupsConsistent := by
  intro lag g hl
  rw [he] at hl
  exact hm lag g hl

theorem Manager.GroupsConsistent.insert (hm : m.GroupsConsistent) {lag : String}
    {g : MicroBFDGroup Addr} (hg : g.Consistent) :
    ({ m with microGroups := m.microGroups.insert lag g } : Manager Addr).GroupsConsistent := by
  intro lag' g' hl
  dsimp only at hl
  by_cases hk : lag' = lag
  · subst hk
    rw [AList.lookup_insert, Option.some.injEq] at hl
    rw [← hl]
    exact hg
  · rw [AList.lookup_insert_ne hk] at hl
    exact hm lag' g' hl

theorem Manager.GroupsConsistent.erase (hm : m.GroupsConsistent) (lag : String) :
    ({ m with microGroups := m.microGroups.erase lag } : Manager Addr).GroupsConsistent := by
  intro lag' g' hl
  dsimp only at hl
  by_cases hk : lag' = lag
  · subst hk
    rw [AList.lookup_erase] at hl
    cases hl
  · rw [AList.lookup_erase_ne hk] at hl
    exact hm lag' g' hl

theorem newManager_groupsConsistent (rand : List UInt32) :
    (newManager rand : Manager Addr).GroupsConsistent := by
  intro lag g hl
  rw [newManager, AList.lookup_empty] at hl
  cases hl

/-! ## Group reconciliation and dispatch keep the invariant -/

/-- An iteration of the destroy loop of `ReconcileMicroBFDGroups` leaves
the manager or destroys one group. -/
theorem reconcileGroupDestroyStep_manager
    (dk : AList fun _ : String => MicroBFDReconcileConfig Addr) (acc : ReconcileAcc Addr)
    (key : String) :
    (reconcileGroupDestroyStep dk acc key).2.2 = acc.2.2 ∨
      (reconcileGroupDestroyStep dk acc key).2.2 = (acc.2.2.destroyMicroBFDGroup key).2 := by
  unfold reconcileGroupDestroyStep
  split
  · exact .inl rfl
  · right
    split
    · next m heq => rw [heq]
    · next e m heq => rw [heq]

/-- An iteration of the create loop of `ReconcileMicroBFDGroups` leaves the
manager or makes one `CreateMicroBFDGroup` call. -/
theorem reconcileGroupCreateStep_manager (ck : List String) (acc : ReconcileAcc Addr)
    (kr : Sigma fun _ : String => MicroBFDReconcileConfig Addr) :
    (reconcileGroupCreateStep ck acc kr).2.2 = acc.2.2 ∨
      (reconcileGroupCreateStep ck acc kr).2.2 = (acc.2.2.createMicroBFDGroup kr.2.config).2 := by
  unfold reconcileGroupCreateStep
  split
  · exact .inl rfl
  · right
    split
    · next g m heq => rw [heq]
    · next e m heq => rw [heq]

theorem Manager.GroupsConsistent.createMicroBFDGroup (hm : m.GroupsConsistent)
    (cfg : MicroBFDConfig Addr) : (m.createMicroBFDGroup cfg).2.GroupsConsistent := by
  unfold Manager.createMicroBFDGroup
  split_ifs
  · exact hm
  · split
    · exact hm
    · next g hn => exact hm.insert (newMicroBFDGroup_consistent hn)

theorem Manager.GroupsConsistent.destroyMicroBFDGroup (hm : m.GroupsConsistent) (lag : String) :
    (m.destroyMicroBFDGroup lag).2.GroupsConsistent := by
  unfold Manager.destroyMicroBFDGroup
  split_ifs
  · exact hm.erase lag
  · exact hm

theorem foldl_reconcileGroupDestroyStep_groupsConsistent
    (dk : AList fun _ : String => MicroBFDReconcileConfig Addr) (keys : List String)
    (acc : ReconcileAcc Addr) (hacc : acc.2.2.GroupsConsistent) :
    (keys.foldl (reconcileGroupDestroyStep dk) acc).2.2.GroupsConsistent := by
  apply List.foldlRecOn (motive := fun a : ReconcileAcc Addr => a.2.2.GroupsConsistent)
  · exact hacc
  · intro a ha key _
    rcases reconcileGroupDestroyStep_manager dk a key with he | he
    · rw [he]
      exact ha
    · rw [he]
      exact ha.destroyMicroBFDGroup key

theorem foldl_reconcileGroupCreateStep_groupsConsistent (ck : List String)
    (krs : List (Sigma fun _ : String => MicroBFDReconcileConfig Addr)) (acc : ReconcileAcc Addr)
    (hacc : acc.2.2.GroupsConsistent) :
    (krs.foldl (reconcileGroupCreateStep ck) acc).2.2.GroupsConsistent := by
  apply List.foldlRecOn (motive := fun a : ReconcileAcc Addr => a.2.2.GroupsConsistent)
  · exact hacc
  · intro a ha kr _
    rcases reconcileGroupCreateStep_manager ck a kr with he | he
    · rw [he]
      exact ha
    · rw [he]
      exact ha.createMicroBFDGroup kr.2.config

theorem Manager.GroupsConsistent.reconcileMicroBFDGroups (hm : m.GroupsConsistent)
    (desired : List (MicroBFDReconcileConfig Addr)) :
    (m.reconcileMicroBFDGroups desired).2.GroupsConsistent := by
  unfold Manager.reconcileMicroBFDGroups
  dsimp only
  -- the create loop starts from the manager the destroy loop left
  have hdestroy := foldl_reconcileGroupDestroyStep_groupsConsistent
    (desired.foldl (fun keys rc => keys.insert rc.key rc) ∅) m.microBFDGroupKeySet (0, [], m) hm
  exact foldl_reconcileGroupCreateStep_groupsConsistent _ _ _ hdestroy

/-- The group `dispatchMicroBFD` changes is one the manager held, moved by
`UpdateMemberState`. -/
theorem Manager.GroupsConsistent.dispatchMicroBFD (hm : m.GroupsConsistent) (sc : StateChange Addr) :
    (m.dispatchMicroBFD sc).GroupsConsistent := by
  unfold Manager.dispatchMicroBFD
  dsimp only
  split
  · next lag g hfind =>
    obtain ⟨e, he, hu⟩ := List.exists_of_findSome?_eq_some hfind
    have hg : e.2.Consistent := hm e.1 e.2 (AList.mem_lookup_iff.mpr he)
    split at hu
    · next changed g' hok =>
      rw [Option.some.injEq, Prod.mk.injEq] at hu
      obtain ⟨-, rfl⟩ := hu
      exact hm.insert (hg.updateMemberState hok)
    · cases hu
  · exact hm

theorem Manager.GroupsConsistent.dispatchStateChange (hm : m.GroupsConsistent)
    (sc : StateChange Addr) : (m.dispatchStateChange sc).GroupsConsistent := by
  unfold Manager.dispatchStateChange
  dsimp only
  -- the broadcast only offers the change to the subscribers
  split_ifs
  · exact (hm.dispatchMicroBFD sc).of_microGroups_eq rfl
  · exact hm.of_microGroups_eq rfl

end Invariant

section Passes

variable [DecidableEq Addr] (h : Digests) (ip : NetIP Addr) {m : Manager Addr}

/-! ## The session methods leave the groups alone -/

/-- An iteration of the destroy loop of `ReconcileSessions` leaves the
manager or destroys one session. -/
theorem reconcileDestroyStep_manager (dk : AList fun _ : String => ReconcileConfig Addr)
    (acc : ReconcileAcc Addr) (kd : Sigma fun _ : String => UInt32) :
    (reconcileDestroyStep dk acc kd).2.2 = acc.2.2 ∨
      (reconcileDestroyStep dk acc kd).2.2 = (acc.2.2.destroySession kd.2).2 := by
  unfold reconcileDestroyStep
  split
  · exact .inl rfl
  · right
    split
    · next m heq => rw [heq]
    · next e m heq => rw [heq]

/-- An iteration of the create loop of `ReconcileSessions` leaves the
manager or makes one `CreateSession` call. -/
theorem reconcileCreateStep_manager (ck : AList fun _ : String => UInt32)
    (acc : ReconcileAcc Addr) (kr : Sigma fun _ : String => ReconcileConfig Addr) :
    (reconcileCreateStep h ip ck acc kr).2.2 = acc.2.2 ∨
      (reconcileCreateStep h ip ck acc kr).2.2 = (acc.2.2.createSession h ip kr.2.sessionConfig).2 := by
  unfold reconcileCreateStep
  split
  · exact .inl rfl
  · right
    split
    · next s m heq => rw [heq]
    · next e m heq => rw [heq]

@[simp] theorem Manager.createSession_microGroups (m : Manager Addr) (cfg : SessionConfig Addr) :
    (m.createSession h ip cfg).2.microGroups = m.microGroups := by
  unfold Manager.createSession
  split_ifs
  · rfl
  · rfl
  · -- allocation and construction touch the allocator, the stream and the session maps
    split
    · rfl
    · split <;> rfl

@[simp] theorem Manager.destroySession_microGroups (m : Manager Addr) (discr : UInt32) :
    (m.destroySession discr).2.microGroups = m.microGroups := by
  unfold Manager.destroySession
  split <;> rfl

theorem foldl_reconcileDestroyStep_microGroups (dk : AList fun _ : String => ReconcileConfig Addr)
    (kds : List (Sigma fun _ : String => UInt32)) (acc : ReconcileAcc Addr) :
    (kds.foldl (reconcileDestroyStep dk) acc).2.2.microGroups = acc.2.2.microGroups := by
  apply List.foldlRecOn (motive := fun a : ReconcileAcc Addr => a.2.2.microGroups = acc.2.2.microGroups)
  · rfl
  · intro a ha kd _
    rcases reconcileDestroyStep_manager dk a kd with he | he
    · rw [he, ha]
    · rw [he, Manager.destroySession_microGroups, ha]

theorem foldl_reconcileCreateStep_microGroups (ck : AList fun _ : String => UInt32)
    (krs : List (Sigma fun _ : String => ReconcileConfig Addr)) (acc : ReconcileAcc Addr) :
    (krs.foldl (reconcileCreateStep h ip ck) acc).2.2.microGroups = acc.2.2.microGroups := by
  apply List.foldlRecOn (motive := fun a : ReconcileAcc Addr => a.2.2.microGroups = acc.2.2.microGroups)
  · rfl
  · intro a ha kr _
    rcases reconcileCreateStep_manager h ip ck a kr with he | he
    · rw [he, ha]
    · rw [he, Manager.createSession_microGroups, ha]

@[simp] theorem Manager.reconcileSessions_microGroups (m : Manager Addr)
    (desired : List (ReconcileConfig Addr)) :
    (m.reconcileSessions h ip desired).2.microGroups = m.microGroups := by
  unfold Manager.reconcileSessions
  dsimp only
  -- the create loop starts from the manager the destroy loop left
  simp only [foldl_reconcileCreateStep_microGroups, foldl_reconcileDestroyStep_microGroups]

/-! ## The passes of the daemon -/

@[simp] theorem reconcileSessions_microGroups (cfg : Config) (m : Manager Addr) :
    (reconcileSessions h ip cfg m).microGroups = m.microGroups := by
  unfold reconcileSessions
  split_ifs
  · rfl
  · exact Manager.reconcileSessions_microGroups h ip m _

@[simp] theorem reconcileMicroBFDMemberSessions_microGroups (cfg : Config) (m : Manager Addr) :
    (reconcileMicroBFDMemberSessions h ip cfg m).microGroups = m.microGroups := by
  unfold reconcileMicroBFDMemberSessions
  dsimp only
  split_ifs
  · rfl
  · exact Manager.reconcileSessions_microGroups h ip m _

@[simp] theorem reconcileOverlayTunnel_microGroups (m : Manager Addr) (params : OverlayTunnelParams) :
    (reconcileOverlayTunnel h ip m params).microGroups = m.microGroups := by
  unfold reconcileOverlayTunnel
  split_ifs
  · rfl
  · exact Manager.reconcileSessions_microGroups h ip m _

@[simp] theorem reconcileOverlayTunnels_microGroups (cfg : Config) (rt : OverlayRuntime)
    (m : Manager Addr) : (reconcileOverlayTunnels h ip cfg rt m).microGroups = m.microGroups := by
  unfold reconcileOverlayTunnels
  apply List.foldlRecOn (motive := fun m' : Manager Addr => m'.microGroups = m.microGroups)
  · rfl
  · intro m' hm' params _
    rw [reconcileOverlayTunnel_microGroups, hm']

/-- Of the passes, only the group pass touches the groups, and it keeps
them consistent. -/
theorem Manager.GroupsConsistent.reconcileAllSessions (hm : m.GroupsConsistent)
    (cfg : Config) (rt : OverlayRuntime) :
    (GoBFD.reconcileAllSessions h ip cfg rt m).GroupsConsistent := by
  unfold GoBFD.reconcileAllSessions
  have hs : (GoBFD.reconcileSessions h ip cfg m).GroupsConsistent :=
    hm.of_microGroups_eq (GoBFD.reconcileSessions_microGroups h ip cfg m)
  have hg : (GoBFD.reconcileMicroBFDGroups h ip cfg (GoBFD.reconcileSessions h ip cfg m)).GroupsConsistent := by
    unfold GoBFD.reconcileMicroBFDGroups
    split_ifs
    · exact hs
    · -- the groups themselves, then their member sessions
      have hgs : (reconcileMicroBFDGroupState ip cfg (GoBFD.reconcileSessions h ip cfg m)).GroupsConsistent :=
        hs.reconcileMicroBFDGroups _
      exact hgs.of_microGroups_eq (reconcileMicroBFDMemberSessions_microGroups h ip cfg _)
  exact hg.of_microGroups_eq (reconcileOverlayTunnels_microGroups h ip cfg rt _)

theorem Manager.GroupsConsistent.reloadConfig (hm : m.GroupsConsistent) (cfg : Config)
    (rt : OverlayRuntime) : (GoBFD.reloadConfig h ip cfg rt m).GroupsConsistent := by
  unfold GoBFD.reloadConfig
  split
  · exact hm
  · exact hm.reconcileAllSessions h ip cfg rt

/-! ## Every run of the daemon -/

variable {d d' : Daemon Addr}

theorem Daemon.start_groupsConsistent (cfg : Config) (rand : List UInt32) :
    (Daemon.start h ip cfg rand).manager.GroupsConsistent :=
  (newManager_groupsConsistent rand).reconcileAllSessions h ip cfg _

/-- One step of any goroutine keeps the groups consistent: a session step,
a watcher and a subscription leave the groups as they are, and a dispatch
and a reload keep the invariant. -/
theorem Daemon.Step.groupsConsistent (hstep : Daemon.Step h ip d d')
    (hd : d.manager.GroupsConsistent) : d'.manager.GroupsConsistent := by
  cases hstep with
  | session he hs => exact hd.of_microGroups_eq rfl
  | dispatch hq =>
    apply Manager.GroupsConsistent.dispatchStateChange
    exact hd.of_microGroups_eq rfl
  | reload cfg => exact hd.reloadConfig h ip cfg d.runtime
  | watch includeCurrent => exact hd
  | watchSnapshot hw hp => exact hd
  | watchSubscribe hw hp => exact hd.of_microGroups_eq rfl
  | watchForward hw hp hc => exact hd.of_microGroups_eq rfl

/-- In every reachable state of the daemon, every micro-BFD group the
manager holds is consistent. -/
theorem Daemon.Reachable.groupsConsistent (hd : Daemon.Reachable h ip d) :
    d.manager.GroupsConsistent := by
  obtain ⟨cfg, rand, -, hrun⟩ := hd
  induction hrun with
  | refl => exact Daemon.start_groupsConsistent h ip cfg rand
  | tail _ hstep ih => exact hstep.groupsConsistent h ip ih

end Passes

end GoBFD
