import GoBFD.Daemon.Groups

/-!
# GoBFD.Daemon.Sessions

The session tables of the manager over every sequence of its methods, and
what `ReconcileSessions` leaves in them.

`Manager.Valid` is the representation invariant of `sessions`,
`sessionsByPeer` and the discriminator allocator: the two maps hold the
same entries, each filed under its session's own discriminator, and every
discriminator in use is allocated.  `Manager.Step` is one call of a
method of the manager, or one step of a session goroutine it holds, and
`Manager.Reachable.valid` says every state reached from `NewManager` is
valid.

`ReconcileSessions` is then specified from its two loops: the destroy loop
removes the sessions of the current keys that are not desired
(`foldl_reconcileDestroyStep_spec`), and the create loop files one new
session per desired key that was not current, leaving the others alone
(`foldl_reconcileCreateStep_spec`).  The result depends on
`sessionKeySet` filing each session under a text of its own: the key text
`peer|local|interface` is not injective once an IPv6 zone, which is free
text, holds a `|`.
-/

namespace GoBFD

open Go

variable {Addr : Type}

/-! ## Building a session -/

section Build

variable (h : Digests)

theorem liftNewSession_eq_ok {r : Go.Result SessionError (Session Addr)} {s : Session Addr}
    (hr : liftNewSession r = .ok s) : r = .ok s := by
  unfold liftNewSession at hr
  split at hr
  · cases hr
    rfl
  · cases hr
  · cases hr

/-- The session `CreateSession` builds carries the discriminator it was
given. -/
theorem newSessionFromRand_localDiscr {cfg : SessionConfig Addr} {discr : UInt32}
    {rand rand' : List UInt32} {s : Session Addr}
    (hn : newSessionFromRand h cfg discr rand = (.ok s, rand')) : s.localDiscr = discr := by
  unfold newSessionFromRand at hn
  split at hn
  · cases hn
  · have hi := newSession_identity h (liftNewSession_eq_ok (Prod.mk.inj hn).1)
    exact congrArg Prod.fst hi
  · cases hn
  · have hi := newSession_identity h (liftNewSession_eq_ok (Prod.mk.inj hn).1)
    exact congrArg Prod.fst hi

end Build

/-! ## The desired table of `ReconcileSessions` -/

/-- The desired table of `ReconcileSessions` files exactly the desired keys. -/
theorem lookup_desiredKeys_isSome (desired : List (ReconcileConfig Addr)) (str : String) :
    ((desired.foldl (fun keys rc => keys.insert rc.key rc) ∅ :
        AList fun _ : String => ReconcileConfig Addr).lookup str).isSome ↔
      str ∈ desired.map (·.key) := by
  rw [AList.lookup_foldl_insert_isSome (fun rc : ReconcileConfig Addr => rc.key) (fun rc => rc)]
  simp

/-- With distinct desired keys, the desired table's entries are the desired
configurations under their keys, the last first. -/
theorem entries_desiredKeys {desired : List (ReconcileConfig Addr)}
    (hnd : (desired.map (·.key)).Nodup) :
    (desired.foldl (fun keys rc => keys.insert rc.key rc) ∅ :
        AList fun _ : String => ReconcileConfig Addr).entries =
      (desired.map fun rc => (⟨rc.key, rc⟩ : Sigma fun _ : String => ReconcileConfig Addr)).reverse := by
  rw [AList.entries_foldl_insert (fun rc : ReconcileConfig Addr => rc.key) (fun rc => rc) hnd (by simp)]
  exact List.append_nil _

/-! ## The session methods -/

section Sessions

variable [DecidableEq Addr] (h : Digests) (ip : NetIP Addr) {m m' : Manager Addr}

theorem Manager.createSession_eq_ok {cfg : SessionConfig Addr} {s : Session Addr}
    (hc : m.createSession h ip cfg = (.ok s, m')) :
    ∃ w, m.sessionsByPeer.lookup cfg.key = none ∧ w ∉ m.discriminators.allocated ∧
      s.localDiscr = w ∧
      m'.sessions = m.sessions.insert w { session := s, key := cfg.key, unsolicited := false } ∧
      m'.sessionsByPeer = m.sessionsByPeer.insert cfg.key w ∧
      m'.discriminators = ⟨w :: m.discriminators.allocated⟩ := by
  unfold Manager.createSession at hc
  split_ifs at hc with hv hdup
  · cases hc
  · cases hc
  split at hc
  · cases hc
  · rename_i w alloc rand halloc
    obtain ⟨-, hfree, rfl⟩ := DiscriminatorAllocator.allocate_ok halloc
    split at hc
    · cases hc
    · rename_i s₀ rand' hn
      -- the second duplicate check sees the same map as the first
      cases hc
      exact ⟨w, Option.not_isSome_iff_eq_none.mp hdup, hfree, newSessionFromRand_localDiscr h hn,
        rfl, rfl, rfl⟩


theorem Manager.createSession_eq_error {cfg : SessionConfig Addr} {e : ManagerError}
    (hc : m.createSession h ip cfg = (.error e, m')) : m' = { m with rand := m'.rand } := by
  unfold Manager.createSession at hc
  split_ifs at hc with hv hdup
  · cases hc
    rfl
  · cases hc
    rfl
  split at hc
  · cases hc
    rfl
  · rename_i w alloc rand halloc
    obtain ⟨-, hfree, rfl⟩ := DiscriminatorAllocator.allocate_ok halloc
    -- a failed build releases the discriminator it was given
    split at hc
    · cases hc
      rw [DiscriminatorAllocator.release_cons hfree]
    · cases hc

theorem Manager.destroySession_eq_ok {d : UInt32} (hd : m.destroySession d = (.ok (), m')) :
    ∃ e, m.sessions.lookup d = some e ∧
      m' = { m with
        sessions := m.sessions.erase d
        sessionsByPeer := m.sessionsByPeer.erase e.key
        discriminators := m.discriminators.release d } := by
  unfold Manager.destroySession at hd
  split at hd
  · cases hd
  · rename_i e he
    cases hd
    exact ⟨e, he, rfl⟩

theorem Manager.destroySession_eq_error {d : UInt32} {e : ManagerError}
    (hd : m.destroySession d = (.error e, m')) : m' = m := by
  unfold Manager.destroySession at hd
  split at hd
  · cases hd
    rfl
  · cases hd

/-- The manager's representation invariant: `sessions` and `sessionsByPeer`
hold the same entries, each filed under its session's discriminator, and
every discriminator in use is allocated. -/
structure Manager.Valid (m : Manager Addr) : Prop where
  filed : ∀ d e, m.sessions.lookup d = some e →
    m.sessionsByPeer.lookup e.key = some d ∧ e.session.localDiscr = d
  byPeer : ∀ k d, m.sessionsByPeer.lookup k = some d → ∃ e, m.sessions.lookup d = some e ∧ e.key = k
  allocated : ∀ d e, m.sessions.lookup d = some e → d ∈ m.discriminators.allocated

theorem Manager.Valid.congr (hm : m.Valid) (hs : m'.sessions = m.sessions)
    (hb : m'.sessionsByPeer = m.sessionsByPeer) (hd : m'.discriminators = m.discriminators) :
    m'.Valid := by
  constructor
  · intro d e he
    rw [hs] at he
    rw [hb]
    exact hm.filed d e he
  · intro k d hk
    rw [hb] at hk
    rw [hs]
    exact hm.byPeer k d hk
  · intro d e he
    rw [hs] at he
    rw [hd]
    exact hm.allocated d e he

/-- Two keys filed under one discriminator are the same key. -/
theorem Manager.Valid.byPeer_inj (hm : m.Valid) {k₁ k₂ : SessionKey Addr} {d : UInt32}
    (h₁ : m.sessionsByPeer.lookup k₁ = some d) (h₂ : m.sessionsByPeer.lookup k₂ = some d) :
    k₁ = k₂ := by
  obtain ⟨e₁, he₁, rfl⟩ := hm.byPeer k₁ d h₁
  obtain ⟨e₂, he₂, rfl⟩ := hm.byPeer k₂ d h₂
  rw [he₁, Option.some.injEq] at he₂
  rw [he₂]

theorem newManager_valid (rand : List UInt32) : (newManager rand : Manager Addr).Valid where
  filed d e he := by simp [newManager] at he
  byPeer k d hk := by simp [newManager] at hk
  allocated d e he := by simp [newManager] at he


/-! ## What keeps the invariant

The methods change the tables by four moves, each keeping `Manager.Valid`:
filing an entry under a free discriminator and an unused key, filing a new
record for a live entry, removing an entry from both maps, and allocating
or releasing a discriminator no entry holds. -/

/-- Filing an entry under a free discriminator and an unused key. -/
theorem Manager.Valid.file (hm : m.Valid) {w : UInt32} (e : SessionEntry Addr)
    (hk : m.sessionsByPeer.lookup e.key = none) (hfree : m.sessions.lookup w = none)
    (hw : w ∈ m.discriminators.allocated) (hs : e.session.localDiscr = w) :
    ({ m with
        sessions := m.sessions.insert w e
        sessionsByPeer := m.sessionsByPeer.insert e.key w } : Manager Addr).Valid := by
  constructor
  · intro d e' he'
    dsimp only at he' ⊢
    by_cases hd : d = w
    · subst hd
      rw [AList.lookup_insert, Option.some.injEq] at he'
      subst he'
      exact ⟨AList.lookup_insert _, hs⟩
    · rw [AList.lookup_insert_ne hd] at he'
      obtain ⟨hb, hl⟩ := hm.filed d e' he'
      -- a live key, so not the unused one
      have hne : e'.key ≠ e.key := fun hek => by rw [hek, hk] at hb; cases hb
      exact ⟨by rw [AList.lookup_insert_ne hne, hb], hl⟩
  · intro k d hb
    dsimp only at hb ⊢
    by_cases hkk : k = e.key
    · subst hkk
      rw [AList.lookup_insert, Option.some.injEq] at hb
      subst hb
      exact ⟨_, AList.lookup_insert _, rfl⟩
    · rw [AList.lookup_insert_ne hkk] at hb
      obtain ⟨e', he', hek⟩ := hm.byPeer k d hb
      have hne : d ≠ w := fun hdw => by rw [hdw, hfree] at he'; cases he'
      exact ⟨e', by rw [AList.lookup_insert_ne hne, he'], hek⟩
  · intro d e' he'
    dsimp only at he' ⊢
    by_cases hd : d = w
    · rw [hd]
      exact hw
    · rw [AList.lookup_insert_ne hd] at he'
      exact hm.allocated d e' he'

/-- Filing a new record for a live entry, with its key and discriminator. -/
theorem Manager.Valid.refile (hm : m.Valid) {d₀ : UInt32} {e₀ : SessionEntry Addr}
    (he₀ : m.sessions.lookup d₀ = some e₀) (e : SessionEntry Addr) (hk : e.key = e₀.key)
    (hl : e.session.localDiscr = e₀.session.localDiscr) :
    ({ m with sessions := m.sessions.insert d₀ e } : Manager Addr).Valid := by
  constructor
  · intro d e' he'
    dsimp only at he' ⊢
    by_cases hd : d = d₀
    · subst hd
      rw [AList.lookup_insert, Option.some.injEq] at he'
      subst he'
      rw [hk, hl]
      exact hm.filed d e₀ he₀
    · rw [AList.lookup_insert_ne hd] at he'
      exact hm.filed d e' he'
  · intro k d hb
    dsimp only at hb ⊢
    obtain ⟨e', he', hek⟩ := hm.byPeer k d hb
    by_cases hd : d = d₀
    · subst hd
      rw [he₀, Option.some.injEq] at he'
      subst he'
      exact ⟨e, AList.lookup_insert _, hk.trans hek⟩
    · exact ⟨e', by rw [AList.lookup_insert_ne hd, he'], hek⟩
  · intro d e' he'
    dsimp only at he' ⊢
    by_cases hd : d = d₀
    · subst hd
      exact hm.allocated d e₀ he₀
    · rw [AList.lookup_insert_ne hd] at he'
      exact hm.allocated d e' he'

/-- Removing a live entry from both maps. -/
theorem Manager.Valid.unfile (hm : m.Valid) {d₀ : UInt32} {e₀ : SessionEntry Addr}
    (he₀ : m.sessions.lookup d₀ = some e₀) :
    ({ m with
        sessions := m.sessions.erase d₀
        sessionsByPeer := m.sessionsByPeer.erase e₀.key } : Manager Addr).Valid := by
  have hb₀ := (hm.filed d₀ e₀ he₀).1
  constructor
  · intro d e he
    dsimp only at he ⊢
    have hd : d ≠ d₀ := fun hd => by rw [hd, AList.lookup_erase] at he; cases he
    rw [AList.lookup_erase_ne hd] at he
    obtain ⟨hb, hl⟩ := hm.filed d e he
    -- another key than the one removed, since `sessionsByPeer` files it under `d`
    have hne : e.key ≠ e₀.key := fun hek => by
      rw [hek, hb₀, Option.some.injEq] at hb
      exact hd hb.symm
    exact ⟨by rw [AList.lookup_erase_ne hne, hb], hl⟩
  · intro k d hb
    dsimp only at hb ⊢
    have hk : k ≠ e₀.key := fun hk => by rw [hk, AList.lookup_erase] at hb; cases hb
    rw [AList.lookup_erase_ne hk] at hb
    obtain ⟨e, he, hek⟩ := hm.byPeer k d hb
    have hne : d ≠ d₀ := fun hd => by
      rw [hd, he₀, Option.some.injEq] at he
      exact hk (hek ▸ he ▸ rfl)
    exact ⟨e, by rw [AList.lookup_erase_ne hne, he], hek⟩
  · intro d e he
    dsimp only at he ⊢
    have hd : d ≠ d₀ := fun hd => by rw [hd, AList.lookup_erase] at he; cases he
    rw [AList.lookup_erase_ne hd] at he
    exact hm.allocated d e he

/-- Allocating a discriminator. -/
theorem Manager.Valid.allocate (hm : m.Valid) (w : UInt32) :
    ({ m with discriminators := ⟨w :: m.discriminators.allocated⟩ } : Manager Addr).Valid where
  filed := hm.filed
  byPeer := hm.byPeer
  allocated d e he := List.mem_cons_of_mem w (hm.allocated d e he)

/-- Releasing a discriminator no entry holds. -/
theorem Manager.Valid.release (hm : m.Valid) {d₀ : UInt32} (hd₀ : m.sessions.lookup d₀ = none) :
    ({ m with discriminators := m.discriminators.release d₀ } : Manager Addr).Valid where
  filed := hm.filed
  byPeer := hm.byPeer
  allocated d e he := by
    have hd : d ≠ d₀ := fun hd => by rw [hd, hd₀] at he; cases he
    simp only [DiscriminatorAllocator.release, List.mem_filter, bne_iff_ne, ne_eq]
    exact ⟨hm.allocated d e he, hd⟩

theorem Manager.Valid.createSession (hm : m.Valid) (cfg : SessionConfig Addr) :
    (m.createSession h ip cfg).2.Valid := by
  rcases hc : m.createSession h ip cfg with ⟨_ | s, m'⟩
  · rw [Manager.createSession_eq_error h ip hc]
    exact hm.congr rfl rfl rfl
  · obtain ⟨w, hk, hw, hs, hss, hb, hd⟩ := Manager.createSession_eq_ok h ip hc
    -- no live session holds `w`, since every live one is allocated
    have hfree : m.sessions.lookup w = none := by
      cases hl : m.sessions.lookup w with
      | none => rfl
      | some e => exact absurd (hm.allocated w e hl) hw
    have hv := (hm.allocate w).file { session := s, key := cfg.key, unsolicited := false } hk hfree
      List.mem_cons_self hs
    exact hv.congr hss hb hd

theorem Manager.Valid.destroySession (hm : m.Valid) (d : UInt32) :
    (m.destroySession d).2.Valid := by
  rcases hd : m.destroySession d with ⟨_ | ⟨⟩, m'⟩
  · rw [Manager.destroySession_eq_error hd]
    exact hm
  · obtain ⟨e, he, rfl⟩ := Manager.destroySession_eq_ok hd
    exact (hm.unfile he).release (AList.lookup_erase _ _)


/-! ## The other methods keep the invariant -/

theorem Manager.Valid.reconcileSessions (hm : m.Valid) (desired : List (ReconcileConfig Addr)) :
    (m.reconcileSessions h ip desired).2.Valid := by
  unfold Manager.reconcileSessions
  dsimp only
  -- each iteration of either loop leaves the manager or makes one call
  have hd : (((m.sessionKeySet ip).entries.foldl
      (reconcileDestroyStep (desired.foldl (fun keys rc => keys.insert rc.key rc) ∅)) (0, [], m)).2.2).Valid := by
    apply List.foldlRecOn (motive := fun a : ReconcileAcc Addr => a.2.2.Valid)
    · exact hm
    · intro a ha kd _
      rcases reconcileDestroyStep_manager _ a kd with he | he
      · rw [he]
        exact ha
      · rw [he]
        exact ha.destroySession _
  apply List.foldlRecOn (motive := fun a : ReconcileAcc Addr => a.2.2.Valid)
  · exact hd
  · intro a ha kr _
    rcases reconcileCreateStep_manager h ip _ a kr with he | he
    · rw [he]
      exact ha
    · rw [he]
      exact ha.createSession h ip _

theorem Manager.Valid.createMicroBFDGroup (hm : m.Valid) (cfg : MicroBFDConfig Addr) :
    (m.createMicroBFDGroup cfg).2.Valid := by
  unfold Manager.createMicroBFDGroup
  split_ifs
  · exact hm
  · split
    · exact hm
    · exact hm.congr rfl rfl rfl

theorem Manager.Valid.destroyMicroBFDGroup (hm : m.Valid) (lag : String) :
    (m.destroyMicroBFDGroup lag).2.Valid := by
  unfold Manager.destroyMicroBFDGroup
  split_ifs
  · exact hm.congr rfl rfl rfl
  · exact hm

theorem Manager.Valid.reconcileMicroBFDGroups (hm : m.Valid)
    (desired : List (MicroBFDReconcileConfig Addr)) :
    (m.reconcileMicroBFDGroups desired).2.Valid := by
  unfold Manager.reconcileMicroBFDGroups
  dsimp only
  have hd : ((m.microBFDGroupKeySet.foldl
      (reconcileGroupDestroyStep (desired.foldl (fun keys rc => keys.insert rc.key rc) ∅)) (0, [], m)).2.2).Valid := by
    apply List.foldlRecOn (motive := fun a : ReconcileAcc Addr => a.2.2.Valid)
    · exact hm
    · intro a ha key _
      rcases reconcileGroupDestroyStep_manager _ a key with he | he
      · rw [he]
        exact ha
      · rw [he]
        exact ha.destroyMicroBFDGroup _
  apply List.foldlRecOn (motive := fun a : ReconcileAcc Addr => a.2.2.Valid)
  · exact hd
  · intro a ha kr _
    rcases reconcileGroupCreateStep_manager _ a kr with he | he
    · rw [he]
      exact ha
    · rw [he]
      exact ha.createMicroBFDGroup _

theorem Manager.Valid.dispatchStateChange (hm : m.Valid) (sc : StateChange Addr) :
    (m.dispatchStateChange sc).Valid := by
  unfold Manager.dispatchStateChange Manager.broadcastStateChange
  -- routing to a group and broadcasting touch the groups and the channels only
  have hg : (if sc.type = .microBFD ∧ sc.interface ≠ "" then m.dispatchMicroBFD sc else m).Valid := by
    split_ifs
    · unfold Manager.dispatchMicroBFD
      dsimp only
      split
      · exact hm.congr rfl rfl rfl
      · exact hm
    · exact hm
  exact hg.congr rfl rfl rfl

/-- Filing a session's record after a step of its goroutine: the step
kept its discriminator and key. -/
theorem Manager.Valid.storeSession (hm : m.Valid) {discr : UInt32} {e : SessionEntry Addr}
    {s : Session Addr} (he : m.sessions.lookup discr = some e)
    (hid : s.identity = e.session.identity) : (m.storeSession discr e s).Valid := by
  have hl : s.localDiscr = e.session.localDiscr := congrArg Prod.fst hid
  have hv := hm.refile he { e with session := { s with notifyCh := some [] } } rfl hl
  exact hv.congr rfl rfl rfl

/-! ## Every sequence of calls -/

/-- One call of a method of the manager, or one step of a session
goroutine it holds.  `receive` is a subscriber taking the first event of
its channel. -/
inductive Manager.Step : Manager Addr → Manager Addr → Prop
  | createSession (m : Manager Addr) (cfg : SessionConfig Addr) :
      Manager.Step m (m.createSession h ip cfg).2
  | destroySession (m : Manager Addr) (discr : UInt32) :
      Manager.Step m (m.destroySession discr).2
  | reconcileSessions (m : Manager Addr) (desired : List (ReconcileConfig Addr)) :
      Manager.Step m (m.reconcileSessions h ip desired).2
  | createMicroBFDGroup (m : Manager Addr) (cfg : MicroBFDConfig Addr) :
      Manager.Step m (m.createMicroBFDGroup cfg).2
  | destroyMicroBFDGroup (m : Manager Addr) (lag : String) :
      Manager.Step m (m.destroyMicroBFDGroup lag).2
  | reconcileMicroBFDGroups (m : Manager Addr) (desired : List (MicroBFDReconcileConfig Addr)) :
      Manager.Step m (m.reconcileMicroBFDGroups desired).2
  | session {m : Manager Addr} {discr : UInt32} {e : SessionEntry Addr} {s : Session Addr}
      (he : m.sessions.lookup discr = some e) (hs : Session.Step h e.session s) :
      Manager.Step m (m.storeSession discr e s)
  | dispatch {m : Manager Addr} {sc : StateChange Addr} {rest : List (StateChange Addr)}
      (hq : m.rawNotifyCh = sc :: rest) :
      Manager.Step m (({ m with rawNotifyCh := rest } : Manager Addr).dispatchStateChange sc)
  | subscribe (m : Manager Addr) : Manager.Step m m.subscribeStateChanges.2
  | receive (m : Manager Addr) (ch : Nat) :
      Manager.Step m
        { m with
          subscribers := m.subscribers.map fun sub =>
            if sub.ch = ch then { sub with queue := sub.queue.tail } else sub }

/-- The states of the manager over every sequence of calls from
`NewManager`. -/
def Manager.Reachable (m : Manager Addr) : Prop :=
  ∃ rand, Relation.ReflTransGen (Manager.Step h ip) (newManager rand) m

theorem Manager.Step.valid (hstep : Manager.Step h ip m m') (hm : m.Valid) : m'.Valid := by
  cases hstep with
  | createSession cfg => exact hm.createSession h ip cfg
  | destroySession discr => exact hm.destroySession discr
  | reconcileSessions desired => exact hm.reconcileSessions h ip desired
  | createMicroBFDGroup cfg => exact hm.createMicroBFDGroup cfg
  | destroyMicroBFDGroup lag => exact hm.destroyMicroBFDGroup lag
  | reconcileMicroBFDGroups desired => exact hm.reconcileMicroBFDGroups desired
  | session he hs => exact hm.storeSession he (Session.Step.identity h hs)
  | dispatch hq =>
    refine Manager.Valid.dispatchStateChange ?_ _
    exact hm.congr rfl rfl rfl
  | subscribe => exact hm.congr rfl rfl rfl
  | receive ch => exact hm.congr rfl rfl rfl

/-- Every reachable manager is valid. -/
theorem Manager.Reachable.valid (hr : m.Reachable h ip) : m.Valid := by
  obtain ⟨rand, hr⟩ := hr
  induction hr with
  | refl => exact newManager_valid rand
  | tail _ hstep ih => exact hstep.valid h ip ih


/-! ## One destroy, one create -/

/-- A destroy on a valid manager removes the discriminator from both
maps, and nothing else. -/
theorem Manager.Valid.lookup_destroySession (hm : m.Valid) {d : UInt32}
    (hd : m.destroySession d = (.ok (), m')) :
    (∀ d' e', m'.sessions.lookup d' = some e' ↔ m.sessions.lookup d' = some e' ∧ d' ≠ d) ∧
      ∀ k d', m'.sessionsByPeer.lookup k = some d' ↔ m.sessionsByPeer.lookup k = some d' ∧ d' ≠ d := by
  obtain ⟨e, he, rfl⟩ := Manager.destroySession_eq_ok hd
  have hb := (hm.filed d e he).1
  constructor
  · intro d' e'
    dsimp only
    by_cases hd' : d' = d
    · subst hd'
      simp [AList.lookup_erase]
    · rw [AList.lookup_erase_ne hd']
      simp [hd']
  · intro k d'
    dsimp only
    by_cases hk : k = e.key
    · -- the key removed is the one filed under `d`
      subst hk
      rw [AList.lookup_erase, hb]
      simp only [reduceCtorEq, Option.some.injEq, false_iff, not_and, not_not]
      exact Eq.symm
    · rw [AList.lookup_erase_ne hk]
      constructor
      · intro hk'
        refine ⟨hk', ?_⟩
        rintro rfl
        exact hk (hm.byPeer_inj hk' hb)
      · intro hk'
        exact hk'.1

/-- A create on a valid manager keeps every entry and files the new key. -/
theorem Manager.Valid.lookup_createSession (hm : m.Valid) {cfg : SessionConfig Addr}
    {s : Session Addr} (hc : m.createSession h ip cfg = (.ok s, m')) :
    (∀ d e, m.sessions.lookup d = some e → m'.sessions.lookup d = some e) ∧
      (∀ k d, m.sessionsByPeer.lookup k = some d → m'.sessionsByPeer.lookup k = some d) ∧
      (m'.sessionsByPeer.lookup cfg.key).isSome ∧
      ∀ k, (m'.sessionsByPeer.lookup k).isSome → (m.sessionsByPeer.lookup k).isSome ∨ k = cfg.key := by
  obtain ⟨w, hk, hw, -, hss, hb, -⟩ := Manager.createSession_eq_ok h ip hc
  refine ⟨?_, ?_, ?_, ?_⟩
  · -- the new discriminator was free, so no live entry holds it
    intro d e he
    have hne : d ≠ w := fun hdw => hw (hdw ▸ hm.allocated d e he)
    rw [hss, AList.lookup_insert_ne hne, he]
  · intro k d hkd
    have hne : k ≠ cfg.key := fun hkc => by rw [hkc, hk] at hkd; cases hkd
    rw [hb, AList.lookup_insert_ne hne, hkd]
  · rw [hb, AList.lookup_insert]
    rfl
  · intro k hks
    by_cases hkc : k = cfg.key
    · exact .inr hkc
    · rw [hb, AList.lookup_insert_ne hkc] at hks
      exact .inl hks

/-! ## The two loops of `ReconcileSessions` -/

/-- The errors only grow along the destroy loop. -/
theorem reconcileDestroyStep_errors (dk : AList fun _ : String => ReconcileConfig Addr)
    (acc : ReconcileAcc Addr) (kd : Sigma fun _ : String => UInt32) :
    acc.2.1 <+: (reconcileDestroyStep dk acc kd).2.1 := by
  unfold reconcileDestroyStep
  split
  · exact List.prefix_refl _
  · split
    · exact List.prefix_refl _
    · exact List.prefix_append _ _

theorem reconcileCreateStep_errors (ck : AList fun _ : String => UInt32) (acc : ReconcileAcc Addr)
    (kr : Sigma fun _ : String => ReconcileConfig Addr) :
    acc.2.1 <+: (reconcileCreateStep h ip ck acc kr).2.1 := by
  unfold reconcileCreateStep
  split
  · exact List.prefix_refl _
  · split
    · exact List.prefix_refl _
    · exact List.prefix_append _ _

theorem foldl_reconcileDestroyStep_errors (dk : AList fun _ : String => ReconcileConfig Addr)
    (kds : List (Sigma fun _ : String => UInt32)) (acc : ReconcileAcc Addr) :
    acc.2.1 <+: (kds.foldl (reconcileDestroyStep dk) acc).2.1 := by
  apply List.foldlRecOn (motive := fun a : ReconcileAcc Addr => acc.2.1 <+: a.2.1)
  · exact List.prefix_refl _
  · intro a ha kd _
    exact ha.trans (reconcileDestroyStep_errors dk a kd)

theorem foldl_reconcileCreateStep_errors (ck : AList fun _ : String => UInt32)
    (krs : List (Sigma fun _ : String => ReconcileConfig Addr)) (acc : ReconcileAcc Addr) :
    acc.2.1 <+: (krs.foldl (reconcileCreateStep h ip ck) acc).2.1 := by
  apply List.foldlRecOn (motive := fun a : ReconcileAcc Addr => acc.2.1 <+: a.2.1)
  · exact List.prefix_refl _
  · intro a ha kr _
    exact ha.trans (reconcileCreateStep_errors h ip ck a kr)

/-- An iteration of the destroy loop that adds no error skipped a desired
key or destroyed a session. -/
theorem reconcileDestroyStep_of_errors_nil {dk : AList fun _ : String => ReconcileConfig Addr}
    {acc : ReconcileAcc Addr} {kd : Sigma fun _ : String => UInt32}
    (hk : (dk.lookup kd.1).isSome = false) (hok : (reconcileDestroyStep dk acc kd).2.1 = []) :
    ∃ m', acc.2.2.destroySession kd.2 = (.ok (), m') ∧
      reconcileDestroyStep dk acc kd = (acc.1 + 1, acc.2.1, m') := by
  unfold reconcileDestroyStep at hok ⊢
  rw [if_neg (by simp [hk])] at hok ⊢
  split at hok
  · next m' heq => exact ⟨m', heq, rfl⟩
  · simp at hok

theorem reconcileCreateStep_of_errors_nil {ck : AList fun _ : String => UInt32}
    {acc : ReconcileAcc Addr} {kr : Sigma fun _ : String => ReconcileConfig Addr}
    (hk : (ck.lookup kr.1).isSome = false) (hok : (reconcileCreateStep h ip ck acc kr).2.1 = []) :
    ∃ s m', acc.2.2.createSession h ip kr.2.sessionConfig = (.ok s, m') ∧
      reconcileCreateStep h ip ck acc kr = (acc.1 + 1, acc.2.1, m') := by
  unfold reconcileCreateStep at hok ⊢
  rw [if_neg (by simp [hk])] at hok ⊢
  split at hok
  · next s m' heq => exact ⟨s, m', heq, rfl⟩
  · simp at hok

/-- The destroy loop, when it reports no error, destroys exactly the
sessions of the keys that are not desired. -/
theorem foldl_reconcileDestroyStep_spec (dk : AList fun _ : String => ReconcileConfig Addr) :
    ∀ (kds : List (Sigma fun _ : String => UInt32)) (acc : ReconcileAcc Addr), acc.2.2.Valid →
      (kds.foldl (reconcileDestroyStep dk) acc).2.1 = [] →
      let r := kds.foldl (reconcileDestroyStep dk) acc
      let X := (kds.filter fun kd => (dk.lookup kd.1).isNone).map (·.2)
      r.1 = acc.1 + X.length ∧ r.2.2.Valid ∧
        (∀ d e, r.2.2.sessions.lookup d = some e ↔ acc.2.2.sessions.lookup d = some e ∧ d ∉ X) ∧
        ∀ k d, r.2.2.sessionsByPeer.lookup k = some d ↔
          acc.2.2.sessionsByPeer.lookup k = some d ∧ d ∉ X := by
  intro kds
  induction kds with
  | nil =>
    intro acc hv _
    simp [hv]
  | cons kd kds ih =>
    intro acc hv hok
    rw [List.foldl_cons] at hok ⊢
    cases hk : dk.lookup kd.1 with
    | none =>
      -- a key that is not desired: its session is destroyed
      have hok₁ : (reconcileDestroyStep dk acc kd).2.1 = [] :=
        List.prefix_nil.mp (hok ▸ foldl_reconcileDestroyStep_errors dk kds _)
      obtain ⟨m', hd, hstep⟩ := reconcileDestroyStep_of_errors_nil (by rw [hk]; rfl) hok₁
      obtain ⟨hs, hb⟩ := hv.lookup_destroySession hd
      have hv₁ : m'.Valid := by
        have hv₁ := hv.destroySession kd.2
        rwa [hd] at hv₁
      rw [hstep] at hok ⊢
      obtain ⟨hcnt, hv', hs', hb'⟩ := ih _ hv₁ hok
      dsimp only at hcnt hs' hb' ⊢
      simp only [List.filter_cons, hk, Option.isNone_none, if_true, List.map_cons, List.length_cons,
        List.mem_cons, not_or]
      refine ⟨by omega, hv', ?_, ?_⟩
      · intro d e
        rw [hs', hs]
        tauto
      · intro k d
        rw [hb', hb]
        tauto
    | some rc =>
      -- a desired key is skipped
      have hstep : reconcileDestroyStep dk acc kd = acc := if_pos (by rw [hk]; rfl)
      rw [hstep] at hok ⊢
      simp only [List.filter_cons, hk, Option.isNone_some, Bool.false_eq_true, if_false]
      exact ih acc hv hok

/-- The create loop, when it reports no error, files one new key per
entry whose key was not current, and keeps every entry it found. -/
theorem foldl_reconcileCreateStep_spec (ck : AList fun _ : String => UInt32) :
    ∀ (krs : List (Sigma fun _ : String => ReconcileConfig Addr)) (acc : ReconcileAcc Addr),
      acc.2.2.Valid → (krs.foldl (reconcileCreateStep h ip ck) acc).2.1 = [] →
      let r := krs.foldl (reconcileCreateStep h ip ck) acc
      let Y := krs.filter fun kr => (ck.lookup kr.1).isNone
      r.1 = acc.1 + Y.length ∧ r.2.2.Valid ∧
        (∀ d e, acc.2.2.sessions.lookup d = some e → r.2.2.sessions.lookup d = some e) ∧
        (∀ k d, acc.2.2.sessionsByPeer.lookup k = some d → r.2.2.sessionsByPeer.lookup k = some d) ∧
        (∀ kr ∈ Y, (r.2.2.sessionsByPeer.lookup kr.2.sessionConfig.key).isSome) ∧
        ∀ k, (r.2.2.sessionsByPeer.lookup k).isSome →
          (acc.2.2.sessionsByPeer.lookup k).isSome ∨ ∃ kr ∈ Y, kr.2.sessionConfig.key = k := by
  intro krs
  induction krs with
  | nil =>
    intro acc hv _
    simp [hv]
  | cons kr krs ih =>
    intro acc hv hok
    rw [List.foldl_cons] at hok ⊢
    cases hk : ck.lookup kr.1 with
    | none =>
      -- a key that is not current: a session is created for it
      have hok₁ : (reconcileCreateStep h ip ck acc kr).2.1 = [] :=
        List.prefix_nil.mp (hok ▸ foldl_reconcileCreateStep_errors h ip ck krs _)
      obtain ⟨s, m', hc, hstep⟩ := reconcileCreateStep_of_errors_nil h ip (by rw [hk]; rfl) hok₁
      obtain ⟨hs, hb, hnew, hold⟩ := hv.lookup_createSession h ip hc
      have hv₁ : m'.Valid := by
        have hv₁ := hv.createSession h ip kr.2.sessionConfig
        rwa [hc] at hv₁
      rw [hstep] at hok ⊢
      obtain ⟨hcnt, hv', hs', hb', hnew', hold'⟩ := ih _ hv₁ hok
      dsimp only at hcnt hs' hb' hnew' hold' ⊢
      simp only [List.filter_cons, hk, Option.isNone_none, if_true, List.length_cons,
        List.mem_cons, forall_eq_or_imp, exists_eq_or_imp]
      refine ⟨by omega, hv', fun d e he => hs' d e (hs d e he), fun k d hkd => hb' k d (hb k d hkd),
        ⟨?_, hnew'⟩, ?_⟩
      · -- the key filed now stays filed
        obtain ⟨d, hd⟩ := Option.isSome_iff_exists.mp hnew
        rw [hb' _ d hd]
        rfl
      · intro k hks
        rcases hold' k hks with hk' | hk'
        · rcases hold k hk' with hk'' | hk''
          · exact .inl hk''
          · exact .inr (.inl hk''.symm)
        · exact .inr (.inr hk')
    | some d =>
      -- a current key is skipped
      have hstep : reconcileCreateStep h ip ck acc kr = acc := if_pos (by rw [hk]; rfl)
      rw [hstep] at hok ⊢
      simp only [List.filter_cons, hk, Option.isNone_some, Bool.false_eq_true, if_false]
      exact ih acc hv hok

/-- `ReconcileSessions` on a valid manager, when it reports no error: the two
loops composed.  The sessions of the current texts that are not desired are
destroyed, one session is created per desired text that is not current, and
everything else is kept. -/
theorem Manager.Valid.reconcileSessions_eq (hv : m.Valid) {desired : List (ReconcileConfig Addr)}
    (hok : (m.reconcileSessions h ip desired).1.2.2 = []) :
    let dk : AList fun _ : String => ReconcileConfig Addr :=
      desired.foldl (fun keys rc => keys.insert rc.key rc) ∅
    let S := m.sessionKeySet ip
    let X := (S.entries.filter fun kd => (dk.lookup kd.1).isNone).map (·.2)
    let Y := dk.entries.filter fun kr => (S.lookup kr.1).isNone
    let m' := (m.reconcileSessions h ip desired).2
    (m.reconcileSessions h ip desired).1.1 = Y.length ∧
      (m.reconcileSessions h ip desired).1.2.1 = X.length ∧ m'.Valid ∧
      (∀ d e, m.sessions.lookup d = some e → d ∉ X → m'.sessions.lookup d = some e) ∧
      (∀ k d, m.sessionsByPeer.lookup k = some d → d ∉ X → m'.sessionsByPeer.lookup k = some d) ∧
      (∀ kr ∈ Y, (m'.sessionsByPeer.lookup kr.2.sessionConfig.key).isSome) ∧
      ∀ k, (m'.sessionsByPeer.lookup k).isSome →
        (∃ d, m.sessionsByPeer.lookup k = some d ∧ d ∉ X) ∨ ∃ kr ∈ Y, kr.2.sessionConfig.key = k := by
  intro dk S X Y m'
  let r₁ := S.entries.foldl (reconcileDestroyStep dk) (0, [], m)
  let r₂ := dk.entries.foldl (reconcileCreateStep h ip S) (0, r₁.2.1, r₁.2.2)
  have hr : m.reconcileSessions h ip desired = ((r₂.1, r₁.1, r₂.2.1), r₂.2.2) := rfl
  have hm' : m' = r₂.2.2 := by
    rw [show m' = (m.reconcileSessions h ip desired).2 from rfl, hr]
  rw [hr] at hok ⊢
  rw [hm']
  dsimp only at hok ⊢
  -- the create loop only appends errors, so the destroy loop reported none
  have hok₁ : r₁.2.1 = [] := by
    have hpre : r₁.2.1 <+: r₂.2.1 :=
      foldl_reconcileCreateStep_errors h ip S dk.entries (0, r₁.2.1, r₁.2.2)
    rw [hok] at hpre
    exact List.prefix_nil.mp hpre
  obtain ⟨hcnt₁, hv₁, hs₁, hb₁⟩ := foldl_reconcileDestroyStep_spec dk S.entries (0, [], m) hv hok₁
  obtain ⟨hcnt₂, hv₂, hs₂, hb₂, hnew, hold⟩ :=
    foldl_reconcileCreateStep_spec h ip S dk.entries (0, r₁.2.1, r₁.2.2) hv₁ hok
  dsimp only at hcnt₁ hs₁ hb₁ hcnt₂ hs₂ hb₂ hnew hold
  refine ⟨by rw [hcnt₂, zero_add], by rw [hcnt₁, zero_add], hv₂,
    fun d e he hd => hs₂ d e ((hs₁ d e).mpr ⟨he, hd⟩),
    fun k d hk hd => hb₂ k d ((hb₁ k d).mpr ⟨hk, hd⟩), hnew, ?_⟩
  intro k hk
  rcases hold k hk with hk₁ | hkr
  · obtain ⟨d, hd⟩ := Option.isSome_iff_exists.mp hk₁
    exact .inl ⟨d, (hb₁ k d).mp hd⟩
  · exact .inr hkr

/-! ## The key table of a valid manager -/

/-- On a valid manager every key of `sessionsByPeer` finds its entry, so
`sessionKeySet` files each key's text with its discriminator. -/
theorem Manager.Valid.sessionKeySet_eq (hm : m.Valid) :
    m.sessionKeySet ip = m.sessionsByPeer.entries.foldl
      (fun keys kd => keys.insert (sessionKeyString ip kd.1) kd.2) ∅ := by
  unfold Manager.sessionKeySet
  apply List.foldl_ext
  intro keys kd hkd
  obtain ⟨e, he, -⟩ := hm.byPeer kd.1 kd.2 (AList.mem_lookup_iff.mpr hkd)
  simp only [he, (hm.filed kd.2 e he).2]

theorem Manager.Valid.exists_of_lookup_sessionKeySet (hm : m.Valid) {str : String} {d : UInt32}
    (hl : (m.sessionKeySet ip).lookup str = some d) :
    ∃ k, m.sessionsByPeer.lookup k = some d ∧ sessionKeyString ip k = str := by
  rw [hm.sessionKeySet_eq ip] at hl
  rcases AList.exists_of_lookup_foldl_insert
      (fun kd : Sigma fun _ : SessionKey Addr => UInt32 => sessionKeyString ip kd.1) (·.2) hl with
    h₀ | ⟨kd, hkd, hstr, hd⟩
  · simp at h₀
  · refine ⟨kd.1, AList.mem_lookup_iff.mpr ?_, hstr⟩
    rw [← hd]
    exact hkd

theorem Manager.Valid.mem_keys_sessionKeySet (hm : m.Valid) {str : String} :
    str ∈ (m.sessionKeySet ip).keys ↔ ∃ k ∈ m.sessionsByPeer.keys, sessionKeyString ip k = str := by
  rw [← AList.mem_keys, ← AList.lookup_isSome, hm.sessionKeySet_eq ip,
    AList.lookup_foldl_insert_isSome]
  simp [AList.keys, List.keys]

/-- A key's text finds its discriminator when no other live key has the
same text and another discriminator. -/
theorem Manager.Valid.lookup_sessionKeySet (hm : m.Valid) {k : SessionKey Addr} {d : UInt32}
    (hb : m.sessionsByPeer.lookup k = some d)
    (hu : ∀ k' d', m.sessionsByPeer.lookup k' = some d' →
      sessionKeyString ip k' = sessionKeyString ip k → d' = d) :
    (m.sessionKeySet ip).lookup (sessionKeyString ip k) = some d := by
  have hx : (⟨k, d⟩ : Sigma fun _ : SessionKey Addr => UInt32) ∈ m.sessionsByPeer.entries :=
    AList.mem_lookup_iff.mp hb
  have hl := AList.lookup_foldl_insert_of_mem
    (fun kd : Sigma fun _ : SessionKey Addr => UInt32 => sessionKeyString ip kd.1) (·.2) ∅ hx
    fun y hy hyk => hu y.1 y.2 (AList.mem_lookup_iff.mpr hy) hyk
  rw [hm.sessionKeySet_eq ip]
  exact hl

/-- Live keys with distinct texts are told apart by their texts. -/
theorem eq_of_sessionKeyString_eq (hinj : (m.sessionsByPeer.keys.map (sessionKeyString ip)).Nodup)
    {k₁ k₂ : SessionKey Addr} {d₁ d₂ : UInt32} (h₁ : m.sessionsByPeer.lookup k₁ = some d₁)
    (h₂ : m.sessionsByPeer.lookup k₂ = some d₂)
    (hs : sessionKeyString ip k₁ = sessionKeyString ip k₂) : k₁ = k₂ := by
  have hk₁ : k₁ ∈ m.sessionsByPeer.keys := AList.mem_keys.mp (AList.lookup_isSome.mp (by rw [h₁]; rfl))
  have hk₂ : k₂ ∈ m.sessionsByPeer.keys := AList.mem_keys.mp (AList.lookup_isSome.mp (by rw [h₂]; rfl))
  exact List.inj_on_of_nodup_map hinj hk₁ hk₂ hs

/-- With distinct texts, every live key's text finds its discriminator. -/
theorem Manager.Valid.lookup_sessionKeySet_of_nodup (hm : m.Valid)
    (hinj : (m.sessionsByPeer.keys.map (sessionKeyString ip)).Nodup) {k : SessionKey Addr}
    {d : UInt32} (hkd : m.sessionsByPeer.lookup k = some d) :
    (m.sessionKeySet ip).lookup (sessionKeyString ip k) = some d := by
  apply hm.lookup_sessionKeySet ip hkd
  intro k' d' hk' hs
  rw [eq_of_sessionKeyString_eq ip hinj hk' hkd hs, hkd] at hk'
  exact (Option.some.inj hk').symm

/-- Two texts filed with one discriminator are one text. -/
theorem Manager.Valid.sessionKeySet_lookup_inj (hm : m.Valid) {s₁ s₂ : String} {d : UInt32}
    (h₁ : (m.sessionKeySet ip).lookup s₁ = some d) (h₂ : (m.sessionKeySet ip).lookup s₂ = some d) :
    s₁ = s₂ := by
  obtain ⟨k₁, hk₁, rfl⟩ := hm.exists_of_lookup_sessionKeySet ip h₁
  obtain ⟨k₂, hk₂, rfl⟩ := hm.exists_of_lookup_sessionKeySet ip h₂
  rw [hm.byPeer_inj hk₁ hk₂]

/-- The destroy loop, run over the key table with any desired table, takes
the discriminator of a text exactly when the text is not desired. -/
theorem Manager.Valid.mem_destroyed_iff (hm : m.Valid)
    (dk : AList fun _ : String => ReconcileConfig Addr) {str : String} {d : UInt32}
    (hsd : (m.sessionKeySet ip).lookup str = some d) :
    d ∈ ((m.sessionKeySet ip).entries.filter fun kd => (dk.lookup kd.1).isNone).map (·.2) ↔
      ¬ (dk.lookup str).isSome := by
  constructor
  · intro hd
    obtain ⟨kd, hkd, rfl⟩ := List.mem_map.mp hd
    obtain ⟨hkd, hn⟩ := List.mem_filter.mp hkd
    rw [hm.sessionKeySet_lookup_inj ip hsd (AList.mem_lookup_iff.mpr hkd)]
    simpa using hn
  · intro hn
    refine List.mem_map.mpr ⟨⟨str, d⟩, List.mem_filter.mpr ⟨AList.mem_lookup_iff.mp hsd, ?_⟩, rfl⟩
    simpa using hn

/-- The key table files each discriminator under one text only, and every
discriminator it files is live. -/
theorem Manager.Valid.nodup_sessionKeySet (hm : m.Valid) :
    ((m.sessionKeySet ip).entries.map (·.2)).Nodup := by
  apply List.Nodup.map_on _ (m.sessionKeySet ip).nodupKeys.nodup
  intro x hx y hy hxy
  have h₁ : (m.sessionKeySet ip).lookup x.1 = some y.2 := by
    rw [← hxy]
    exact AList.mem_lookup_iff.mpr hx
  have h₂ : (m.sessionKeySet ip).lookup y.1 = some y.2 := AList.mem_lookup_iff.mpr hy
  exact Sigma.ext (hm.sessionKeySet_lookup_inj ip h₁ h₂) (heq_of_eq hxy)

theorem Manager.Valid.live_sessionKeySet (hm : m.Valid) :
    ∀ kd ∈ (m.sessionKeySet ip).entries, (m.sessions.lookup kd.2).isSome := by
  intro kd hkd
  obtain ⟨k, hk, -⟩ := hm.exists_of_lookup_sessionKeySet ip (AList.mem_lookup_iff.mpr hkd)
  obtain ⟨e, he, -⟩ := hm.byPeer k kd.2 hk
  rw [he]
  rfl

theorem Manager.destroySession_of_lookup {d : UInt32} {e : SessionEntry Addr}
    (he : m.sessions.lookup d = some e) : (m.destroySession d).1 = .ok () := by
  simp only [Manager.destroySession, he]

/-- The destroy loop reports no error over texts whose discriminators are
distinct and all live: each destroy removes its own session only. -/
theorem foldl_reconcileDestroyStep_errors_of_live (dk : AList fun _ : String => ReconcileConfig Addr) :
    ∀ (kds : List (Sigma fun _ : String => UInt32)) (acc : ReconcileAcc Addr), acc.2.2.Valid →
      (kds.map (·.2)).Nodup → (∀ kd ∈ kds, (acc.2.2.sessions.lookup kd.2).isSome) →
      (kds.foldl (reconcileDestroyStep dk) acc).2.1 = acc.2.1 := by
  intro kds
  induction kds with
  | nil =>
    intro acc _ _ _
    rfl
  | cons kd kds ih =>
    intro acc hv hnd hlive
    rw [List.map_cons, List.nodup_cons] at hnd
    have hlive' : ∀ kd' ∈ kds, (acc.2.2.sessions.lookup kd'.2).isSome :=
      fun kd' hkd' => hlive kd' (List.mem_cons_of_mem _ hkd')
    rw [List.foldl_cons]
    cases hk : dk.lookup kd.1 with
    | some rc =>
      -- a desired text is skipped
      have hstep : reconcileDestroyStep dk acc kd = acc := if_pos (by rw [hk]; rfl)
      rw [hstep]
      exact ih acc hv hnd.2 hlive'
    | none =>
      obtain ⟨e, he⟩ := Option.isSome_iff_exists.mp (hlive kd List.mem_cons_self)
      have hd : acc.2.2.destroySession kd.2 = (.ok (), (acc.2.2.destroySession kd.2).2) :=
        Prod.ext (Manager.destroySession_of_lookup he) rfl
      have hstep : reconcileDestroyStep dk acc kd = (acc.1 + 1, acc.2.1, (acc.2.2.destroySession kd.2).2) := by
        unfold reconcileDestroyStep
        rw [if_neg (by simp [hk]), hd]
      have hv₁ := hv.destroySession kd.2
      rw [hd] at hv₁
      have hs := (hv.lookup_destroySession hd).1
      rw [hstep]
      refine ih _ hv₁ hnd.2 ?_
      -- the other texts' discriminators differ from this one, so they stay live
      intro kd' hkd'
      have hne : kd'.2 ≠ kd.2 := fun heq => hnd.1 (heq ▸ List.mem_map_of_mem hkd')
      obtain ⟨e', he'⟩ := Option.isSome_iff_exists.mp (hlive' kd' hkd')
      rw [(hs kd'.2 e').mpr ⟨he', hne⟩]
      rfl

/-- `ReconcileSessions` with nothing desired, on a valid manager whose live
sessions have distinct key texts: it reports no error and destroys every
session. -/
theorem Manager.Valid.reconcileSessions_nil (hm : m.Valid)
    (hinj : (m.sessionsByPeer.keys.map (sessionKeyString ip)).Nodup) :
    (m.reconcileSessions h ip []).1.2.2 = [] ∧ ∀ d, (m.reconcileSessions h ip []).2.sessions.lookup d = none := by
  have hok : (m.reconcileSessions h ip []).1.2.2 = [] :=
    foldl_reconcileDestroyStep_errors_of_live ∅ _ (0, [], m) hm (hm.nodup_sessionKeySet ip)
      (hm.live_sessionKeySet ip)
  obtain ⟨-, -, hv', -, -, -, hold⟩ := hm.reconcileSessions_eq h ip hok
  refine ⟨hok, ?_⟩
  -- no key is left, since every live text was undesired
  have hnone : ∀ k, (m.reconcileSessions h ip []).2.sessionsByPeer.lookup k = none := by
    intro k
    by_contra hk
    rcases hold k (Option.ne_none_iff_isSome.mp hk) with ⟨d, hkd, hX⟩ | ⟨kr, hkr, -⟩
    · have hsd := hm.lookup_sessionKeySet_of_nodup ip hinj hkd
      exact hX ((hm.mem_destroyed_iff ip ∅ hsd).mpr (by simp))
    · simp at hkr
  intro d
  cases hd : (m.reconcileSessions h ip []).2.sessions.lookup d with
  | none => rfl
  | some e =>
    have hb := (hv'.filed d e hd).1
    have hn := hnone e.key
    rw [hb] at hn
    cases hn

/-! ## `ReconcileSessions` -/

/-- `ReconcileSessions` on a reachable manager whose live sessions have
distinct key texts, towards a desired list with distinct keys, each the
text of its own configuration's key: when it reports no error, the key
texts afterwards are exactly the desired ones, a session both current and
desired is still filed under its text with the same discriminator and the
same entry, and the counts are those of the desired keys not current and
of the current keys not desired. -/
theorem reconcileSessions_reaches_desired {m : Manager Addr} (hm : m.Reachable h ip)
    (hinj : (m.sessionsByPeer.keys.map (sessionKeyString ip)).Nodup)
    {desired : List (ReconcileConfig Addr)} (hnd : (desired.map (·.key)).Nodup)
    (hkey : ∀ rc ∈ desired, rc.key = sessionKeyString ip rc.sessionConfig.key)
    (hok : (m.reconcileSessions h ip desired).1.2.2 = []) :
    let S := m.sessionKeySet ip
    let m' := (m.reconcileSessions h ip desired).2
    (∀ str, str ∈ (m'.sessionKeySet ip).keys ↔ str ∈ desired.map (·.key)) ∧
      (∀ str d, S.lookup str = some d → str ∈ desired.map (·.key) →
        (m'.sessionKeySet ip).lookup str = some d ∧ m'.sessions.lookup d = m.sessions.lookup d) ∧
      (m.reconcileSessions h ip desired).1.1 = (desired.filter fun rc => rc.key ∉ S.keys).length ∧
      (m.reconcileSessions h ip desired).1.2.1 =
        (S.keys.filter fun str => str ∉ desired.map (·.key)).length := by
  intro S m'
  have hv := hm.valid
  obtain ⟨hcnt₂, hcnt₁, hv₂, hs, hb, hnew, hold⟩ := hv.reconcileSessions_eq h ip hok
  set dk : AList fun _ : String => ReconcileConfig Addr :=
    desired.foldl (fun keys rc => keys.insert rc.key rc) ∅
  have hdk : ∀ str, (dk.lookup str).isSome ↔ str ∈ desired.map (·.key) :=
    lookup_desiredKeys_isSome desired
  have hdk_entries := entries_desiredKeys hnd
  -- the destroy loop takes a current session exactly when its text is not desired
  have hX : ∀ str d, S.lookup str = some d →
      (d ∈ (S.entries.filter fun kd => (dk.lookup kd.1).isNone).map (·.2) ↔
        str ∉ desired.map (·.key)) := by
    intro str d hsd
    rw [hv.mem_destroyed_iff ip dk hsd, hdk]
  refine ⟨?_, ?_, ?_, ?_⟩
  · intro str
    rw [hv₂.mem_keys_sessionKeySet ip]
    constructor
    · rintro ⟨k, hk, rfl⟩
      rcases hold k (AList.lookup_isSome.mpr (AList.mem_keys.mpr hk)) with
        ⟨d, hd₀, hdX⟩ | ⟨kr, hkr, rfl⟩
      · -- a key kept from before: its text was desired, or the loop took it
        by_contra hn
        exact hdX ((hX _ _ (hv.lookup_sessionKeySet_of_nodup ip hinj hd₀)).mpr hn)
      · -- a key created now: the text of a desired config
        obtain ⟨hkr, -⟩ := List.mem_filter.mp hkr
        rw [hdk_entries, List.mem_reverse, List.mem_map] at hkr
        obtain ⟨rc, hrc, rfl⟩ := hkr
        rw [← hkey rc hrc]
        exact List.mem_map_of_mem hrc
    · intro hstr
      cases hSs : S.lookup str with
      | some d =>
        obtain ⟨k, hkd, rfl⟩ := hv.exists_of_lookup_sessionKeySet ip hSs
        have hk₂ := hb k d hkd fun hd => (hX _ _ hSs).mp hd hstr
        exact ⟨k, AList.mem_keys.mp (AList.lookup_isSome.mp (by rw [hk₂]; rfl)), rfl⟩
      | none =>
        obtain ⟨rc, hrc, rfl⟩ := List.mem_map.mp hstr
        have hY : (⟨rc.key, rc⟩ : Sigma fun _ : String => ReconcileConfig Addr) ∈
            dk.entries.filter fun kr => (S.lookup kr.1).isNone := by
          rw [List.mem_filter, hdk_entries, List.mem_reverse]
          exact ⟨List.mem_map_of_mem hrc, by simp [hSs]⟩
        exact ⟨rc.sessionConfig.key, AList.mem_keys.mp (AList.lookup_isSome.mp (hnew _ hY)),
          (hkey rc hrc).symm⟩
  · intro str d hSs hstr
    obtain ⟨k, hkd, rfl⟩ := hv.exists_of_lookup_sessionKeySet ip hSs
    have hdX := fun hd => (hX _ _ hSs).mp hd hstr
    have hbk := hb k d hkd hdX
    obtain ⟨e, he, -⟩ := hv.byPeer k d hkd
    refine ⟨hv₂.lookup_sessionKeySet ip hbk ?_, by rw [hs d e he hdX, he]⟩
    -- the only key of the final table with this text is `k`
    intro k' d' hk' hs'
    rcases hold k' (by rw [hk']; rfl) with ⟨d'', hd''₀, -⟩ | ⟨kr, hkr, rfl⟩
    · have hkk := eq_of_sessionKeyString_eq ip hinj hd''₀ hkd hs'
      subst hkk
      rw [hbk] at hk'
      exact (Option.some.inj hk').symm
    · -- a key created now has a text that was not current
      obtain ⟨hkr, hn⟩ := List.mem_filter.mp hkr
      rw [hdk_entries, List.mem_reverse, List.mem_map] at hkr
      obtain ⟨rc, hrc, rfl⟩ := hkr
      rw [← hkey rc hrc] at hs'
      dsimp only at hn
      rw [hs', hSs] at hn
      cases hn
  · rw [hcnt₂, hdk_entries]
    simp only [List.filter_reverse, List.length_reverse, List.filter_map, List.length_map]
    congr 1
    apply List.filter_congr
    intro rc _
    have hiff : (S.lookup rc.key).isNone ↔ rc.key ∉ S.keys := by
      rw [Option.isNone_iff_eq_none, AList.lookup_eq_none, AList.mem_keys]
    rw [Function.comp_apply, Bool.eq_iff_iff, decide_eq_true_iff]
    exact hiff
  · rw [hcnt₁]
    have hp : ∀ kd ∈ S.entries,
        (dk.lookup kd.1).isNone = decide (kd.1 ∉ desired.map (·.key)) := by
      intro kd _
      have hkd := hdk kd.1
      cases hl : dk.lookup kd.1 <;> simp_all
    simp only [List.length_map, AList.keys, List.keys, List.filter_map, Function.comp_def]
    exact congrArg List.length (List.filter_congr hp)

end Sessions

/-! ## Two peers, and two keys with one text -/

/-- A session without authentication or padding, at one-second timers. -/
def plainSessionConfig (peerAddr localAddr : Addr) (interface : String) : SessionConfig Addr where
  peerAddr := peerAddr
  localAddr := localAddr
  interface := interface
  type := .singleHop
  role := .active
  desiredMinTxInterval := 1000000000
  requiredMinRxInterval := 1000000000
  detectMultiplier := 3
  auth := none
  authKeys := none
  paddedPduSize := 0

/-- The manager after one `CreateSession`, from 10.0.0.2 to 10.0.0.1. -/
def onePeerManager : Manager (Option (List UInt8)) :=
  ((newManager [7, 8, 9]).createSession lengthDigests ipv4
    (plainSessionConfig (some [10, 0, 0, 1]) (some [10, 0, 0, 2]) "eth0")).2

/-- The desired set: the peer the manager has, and 10.0.0.3. -/
def twoPeersDesired : List (ReconcileConfig (Option (List UInt8))) :=
  [{ key := "10.0.0.1|10.0.0.2|eth0"
     sessionConfig := plainSessionConfig (some [10, 0, 0, 1]) (some [10, 0, 0, 2]) "eth0" },
   { key := "10.0.0.3|10.0.0.2|eth0"
     sessionConfig := plainSessionConfig (some [10, 0, 0, 3]) (some [10, 0, 0, 2]) "eth0" }]

theorem reconcileSessions_reaches_desired_twoPeers :
    let S := onePeerManager.sessionKeySet ipv4
    let m' := (onePeerManager.reconcileSessions lengthDigests ipv4 twoPeersDesired).2
    (∀ str, str ∈ (m'.sessionKeySet ipv4).keys ↔ str ∈ twoPeersDesired.map (·.key)) ∧
      (∀ str d, S.lookup str = some d → str ∈ twoPeersDesired.map (·.key) →
        (m'.sessionKeySet ipv4).lookup str = some d ∧
          m'.sessions.lookup d = onePeerManager.sessions.lookup d) ∧
      (onePeerManager.reconcileSessions lengthDigests ipv4 twoPeersDesired).1.1 =
        (twoPeersDesired.filter fun rc => rc.key ∉ S.keys).length ∧
      (onePeerManager.reconcileSessions lengthDigests ipv4 twoPeersDesired).1.2.1 =
        (S.keys.filter fun str => str ∉ twoPeersDesired.map (·.key)).length :=
  reconcileSessions_reaches_desired lengthDigests ipv4 ⟨[7, 8, 9], .single (.createSession _ _)⟩
    (by decide +kernel) (by decide) (by decide) rfl

/-- Addresses as the text `Addr.String()` prints them, `none` being
`Addr{}`.  A zone is free text, so `fe80::2%b|c` is one IPv6 address. -/
def textIP : NetIP (Option String) where
  parseAddr s := some (some s)
  string
    | none => "invalid IP"
    | some s => s
  isValid := Option.isSome
  zero := none

/-- Two sessions whose keys print as the same text,
`fe80::1%a|fe80::2%b|c|eth0`: one with local zone `b|c` on `eth0`, one
with local zone `b` on the interface `c|eth0`. -/
def zoneCollisionManager : Manager (Option String) :=
  let m := ((newManager [7, 8, 9]).createSession lengthDigests textIP
    (plainSessionConfig (some "fe80::1%a") (some "fe80::2%b|c") "eth0")).2
  (m.createSession lengthDigests textIP
    (plainSessionConfig (some "fe80::1%a") (some "fe80::2%b") "c|eth0")).2

/-- `sessionKeySet` files one of the two sessions under the shared text, so
reconciling towards nothing destroys that one, reports no error, and leaves
the other. -/
theorem reconcileSessions_zone_collision :
    zoneCollisionManager.Reachable lengthDigests textIP ∧
      (zoneCollisionManager.reconcileSessions lengthDigests textIP []).1.2.2 = [] ∧
      ((zoneCollisionManager.reconcileSessions lengthDigests textIP []).2.sessionKeySet textIP).keys =
        ["fe80::1%a|fe80::2%b|c|eth0"] := by
  refine ⟨⟨[7, 8, 9], ?_⟩, rfl, by decide +kernel⟩
  exact .tail (.single (.createSession _ _)) (.createSession _ _)


end GoBFD
