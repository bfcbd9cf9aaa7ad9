import GoBFD.Daemon.Sessions

/-!
# GoBFD.Manager.Calls

The session tables of the manager as the goroutines that call into it see
them.  `CreateSession`, `DestroySession`, `CreateEchoSession`,
`DestroyEchoSession` and the unsolicited path of `DemuxWithWire` give up
the manager's lock between their steps: `CreateSession` checks the key
under the read lock, allocates a discriminator and builds the session with
no lock held, and registers it under the write lock; `DestroySession`
removes the entry under the lock and releases the discriminator after it.
A `Call` is such a method between two of its steps, with what its
goroutine holds.  `Runtime.Step` starts a call, takes the next step of a
call in progress, closes the manager, or takes a step of a session
goroutine.  `ReconcileSessions` and the cleanup of unsolicited sessions
change the tables only through `CreateSession` and `DestroySession`
calls, which the steps include.

RFC 9468 unsolicited BFD is configured, with a policy and a sender, as the
daemon configures it when it is enabled.

What holds over every interleaving (`Runtime.Reachable`), from
`Runtime.Inv`:
- the two maps stay consistent (`Manager.Valid`);
- the allocator holds, each once, exactly the discriminators of the
  sessions, of the echo sessions and of the calls in progress
  (`Runtime.Inv.allocated`), so the sessions and the echo sessions hold
  all of them only when no call is in progress;
- the sessions marked unsolicited, with the reservations the calls in
  progress hold, never exceed the counter, and the counter never exceeds
  `MaxSessions` when that is positive.
-/

namespace GoBFD

open Go

variable {Addr : Type}

/-! ## Unsolicited BFD -/

/-- The errors of `reserve`. -/
inductive UnsolicitedError where
  /-- `ErrUnsolicitedDisabled`. -/
  | disabled
  /-- `ErrUnsolicitedInterfaceNotEnabled`. -/
  | interfaceNotEnabled
  /-- `ErrUnsolicitedPrefixDenied`. -/
  | prefixDenied
  /-- `ErrUnsolicitedMaxSessions`. -/
  | maxSessions
  deriving DecidableEq

/-- `UnsolicitedInterfaceConfig`; a prefix is its `Contains`. -/
structure UnsolicitedInterfaceConfig (Addr : Type) where
  enabled : Bool
  allowedPrefixes : List (Addr → Bool)

/-- `UnsolicitedSessionDefaults`. -/
structure UnsolicitedSessionDefaults where
  desiredMinTxInterval : Duration
  requiredMinRxInterval : Duration
  detectMultiplier : UInt8

/-- `UnsolicitedPolicy`.  `CleanupTimeout` only delays the cleanup's
`DestroySession`, a call the model makes at any time. -/
structure UnsolicitedPolicy (Addr : Type) where
  enabled : Bool
  interfaces : AList fun _ : String => UnsolicitedInterfaceConfig Addr
  maxSessions : Int
  sessionDefaults : UnsolicitedSessionDefaults

namespace UnsolicitedPolicy

/-- `checkInterfacePolicy(srcAddr, ifName)`. -/
def checkInterfacePolicy (p : UnsolicitedPolicy Addr) (srcAddr : Addr) (ifName : String) :
    Except UnsolicitedError Unit :=
  if !p.enabled then .error .disabled
  else
    match p.interfaces.lookup ifName with
    | none => .error .interfaceNotEnabled
    | some ifCfg =>
      if !ifCfg.enabled then .error .interfaceNotEnabled
      -- RFC 9468 Section 6.1: the subnet and host ACL
      else if ifCfg.allowedPrefixes.length > 0 ∧ !ifCfg.allowedPrefixes.any (· srcAddr) then
        .error .prefixDenied
      else .ok ()

/-- `reserve(srcAddr, ifName)` on the counter `sessionCount`: the CAS loop
counts one more session unless the limit is reached. -/
def reserve (p : UnsolicitedPolicy Addr) (sessionCount : Nat) (srcAddr : Addr) (ifName : String) :
    Except UnsolicitedError Unit × Nat :=
  match p.checkInterfacePolicy srcAddr ifName with
  | .error e => (.error e, sessionCount)
  | .ok () =>
    if p.maxSessions ≤ 0 then (.ok (), sessionCount + 1)
    else if p.maxSessions ≤ sessionCount then (.error .maxSessions, sessionCount)
    else (.ok (), sessionCount + 1)

/-- The configuration `tryCreateUnsolicited` builds: a passive single-hop
session with the policy's timers. -/
def sessionConfig (p : UnsolicitedPolicy Addr) (srcAddr dstAddr : Addr) (ifName : String) :
    SessionConfig Addr where
  peerAddr := srcAddr
  localAddr := dstAddr
  interface := ifName
  type := .singleHop
  role := .passive
  desiredMinTxInterval := p.sessionDefaults.desiredMinTxInterval
  requiredMinRxInterval := p.sessionDefaults.requiredMinRxInterval
  detectMultiplier := p.sessionDefaults.detectMultiplier
  auth := none
  authKeys := none
  paddedPduSize := 0

end UnsolicitedPolicy

/-- `release()`: one session fewer, never below zero. -/
def releaseUnsolicited (sessionCount : Nat) : Nat :=
  if sessionCount = 0 then 0 else sessionCount - 1

/-! ## Calls in progress -/

/-- A method call between two of its steps.  `unsolicited` marks the
`CreateSession` that `tryCreateUnsolicited` makes. -/
inductive Call (Addr : Type) where
  /-- `CreateSession(cfg)`: the peer check and `checkDuplicate`. -/
  | checkDuplicate (cfg : SessionConfig Addr) (unsolicited : Bool)
  /-- `allocateAndBuild`: `Allocate`. -/
  | allocate (cfg : SessionConfig Addr) (unsolicited : Bool)
  /-- `allocateAndBuild`: `NewSession`, and `Release` if it fails. -/
  | build (cfg : SessionConfig Addr) (unsolicited : Bool) (discr : UInt32)
  /-- `registerAndStart`. -/
  | register (cfg : SessionConfig Addr) (unsolicited : Bool) (discr : UInt32) (s : Session Addr)
  /-- `CreateSession`: `Release` after the registration found the key taken. -/
  | releaseDiscr (unsolicited : Bool) (discr : UInt32)
  /-- `tryCreateUnsolicited`: `release()` after `CreateSession` failed. -/
  | releaseReservation
  /-- `tryCreateUnsolicited`: `markSessionUnsolicited`. -/
  | markUnsolicited (discr : UInt32)
  /-- `DestroySession(localDiscr)`: the removal under the lock. -/
  | destroy (discr : UInt32)
  /-- `DestroySession`: `release()` for an entry marked unsolicited. -/
  | destroyReservation (discr : UInt32)
  /-- `DestroySession`: `Release(localDiscr)`. -/
  | destroyRelease (discr : UInt32)
  /-- `CreateEchoSession`: `Allocate`; `accepted` says whether
  `NewEchoSession` accepts the configuration. -/
  | echoAllocate (accepted : Bool)
  /-- `CreateEchoSession`: `NewEchoSession`, and `Release` if it fails. -/
  | echoBuild (accepted : Bool) (discr : UInt32)
  /-- `CreateEchoSession`: the registration under the lock. -/
  | echoRegister (discr : UInt32)
  /-- `DestroyEchoSession(discr)`: the removal under the lock. -/
  | echoDestroy (discr : UInt32)
  /-- `DestroyEchoSession`: `Release(discr)`. -/
  | echoRelease (discr : UInt32)
  /-- `DemuxWithWire` of a packet with Your Discriminator zero:
  `LookupByPeer`. -/
  | demuxByPeer (srcAddr dstAddr : Addr) (ifName : String)
  /-- `tryCreateUnsolicited`: `reserve`. -/
  | reserve (srcAddr dstAddr : Addr) (ifName : String)

/-- The manager's tables as the calls share them. -/
structure Runtime (Addr : Type) where
  manager : Manager Addr
  /-- The keys of `echoSessions`; echo sessions themselves are not
  modelled. -/
  echoSessions : AList fun _ : UInt32 => Unit
  /-- `unsolicited.sessionCount`. -/
  sessionCount : Nat
  /-- The calls in progress. -/
  calls : List (Call Addr)

/-- `NewManager` with unsolicited BFD configured. -/
def Runtime.init (rand : List UInt32) : Runtime Addr := ⟨newManager rand, ∅, 0, []⟩

/-- `Release(discr)` on the manager's allocator. -/
def Runtime.releaseDiscr (rt : Runtime Addr) (discr : UInt32) : Runtime Addr :=
  { rt with manager := { rt.manager with discriminators := rt.manager.discriminators.release discr } }

/-- Where a failed `CreateSession` returns: `tryCreateUnsolicited` gives
its reservation back. -/
def Call.failed (unsolicited : Bool) : Option (Call Addr) :=
  if unsolicited then some .releaseReservation else none

section Steps

variable [DecidableEq Addr] (h : Digests) (ip : NetIP Addr) (pol : UnsolicitedPolicy Addr)

/-- The next step of a call: the tables it leaves, and the call's next
point, `none` once it returns. -/
def Call.step (rt : Runtime Addr) : Call Addr → Runtime Addr × Option (Call Addr)
  | .checkDuplicate cfg u =>
    if !ip.isValid cfg.peerAddr then (rt, Call.failed u)
    else if (rt.manager.sessionsByPeer.lookup cfg.key).isSome then (rt, Call.failed u)
    else (rt, some (.allocate cfg u))
  | .allocate cfg u =>
    match rt.manager.discriminators.allocate rt.manager.rand with
    | (.error _, _, rand) => ({ rt with manager := { rt.manager with rand := rand } }, Call.failed u)
    | (.ok discr, alloc, rand) =>
      ({ rt with manager := { rt.manager with discriminators := alloc, rand := rand } },
        some (.build cfg u discr))
  | .build cfg u discr =>
    match newSessionFromRand h cfg discr rt.manager.rand with
    | (.error _, rand) =>
      ({ rt.releaseDiscr discr with manager := { (rt.releaseDiscr discr).manager with rand := rand } },
        Call.failed u)
    | (.ok s, rand) => ({ rt with manager := { rt.manager with rand := rand } }, some (.register cfg u discr s))
  | .register cfg u discr s =>
    -- the key is checked again under the write lock
    if (rt.manager.sessionsByPeer.lookup cfg.key).isSome then (rt, some (.releaseDiscr u discr))
    else
      ({ rt with
          manager :=
            { rt.manager with
              sessions := rt.manager.sessions.insert discr { session := s, key := cfg.key, unsolicited := false }
              sessionsByPeer := rt.manager.sessionsByPeer.insert cfg.key discr } },
        if u then some (.markUnsolicited discr) else none)
  | .releaseDiscr u discr => (rt.releaseDiscr discr, Call.failed u)
  | .releaseReservation => ({ rt with sessionCount := releaseUnsolicited rt.sessionCount }, none)
  | .markUnsolicited discr =>
    match rt.manager.sessions.lookup discr with
    | some e =>
      ({ rt with
          manager := { rt.manager with sessions := rt.manager.sessions.insert discr { e with unsolicited := true } } },
        none)
    | none => (rt, none)
  | .destroy discr =>
    match rt.manager.sessions.lookup discr with
    | none => (rt, none)
    | some e =>
      ({ rt with
          manager :=
            { rt.manager with
              sessions := rt.manager.sessions.erase discr
              sessionsByPeer := rt.manager.sessionsByPeer.erase e.key } },
        -- the flag is read after the unlock, from an entry no call can reach any more
        some (if e.unsolicited then .destroyReservation discr else .destroyRelease discr))
  | .destroyReservation discr =>
    ({ rt with sessionCount := releaseUnsolicited rt.sessionCount }, some (.destroyRelease discr))
  | .destroyRelease discr => (rt.releaseDiscr discr, none)
  | .echoAllocate accepted =>
    match rt.manager.discriminators.allocate rt.manager.rand with
    | (.error _, _, rand) => ({ rt with manager := { rt.manager with rand := rand } }, none)
    | (.ok discr, alloc, rand) =>
      ({ rt with manager := { rt.manager with discriminators := alloc, rand := rand } },
        some (.echoBuild accepted discr))
  | .echoBuild accepted discr =>
    if accepted then (rt, some (.echoRegister discr)) else (rt.releaseDiscr discr, none)
  | .echoRegister discr => ({ rt with echoSessions := rt.echoSessions.insert discr () }, none)
  | .echoDestroy discr =>
    if (rt.echoSessions.lookup discr).isSome then
      ({ rt with echoSessions := rt.echoSessions.erase discr }, some (.echoRelease discr))
    else (rt, none)
  | .echoRelease discr => (rt.releaseDiscr discr, none)
  | .demuxByPeer srcAddr dstAddr ifName =>
    -- a known peer gets the packet through `RecvPacket`, a step of its session
    if (rt.manager.sessionsByPeer.lookup ⟨srcAddr, dstAddr, ifName⟩).isSome then (rt, none)
    else (rt, some (.reserve srcAddr dstAddr ifName))
  | .reserve srcAddr dstAddr ifName =>
    match pol.reserve rt.sessionCount srcAddr ifName with
    | (.error _, n) => ({ rt with sessionCount := n }, none)
    | (.ok (), n) =>
      ({ rt with sessionCount := n }, some (.checkDuplicate (pol.sessionConfig srcAddr dstAddr ifName) true))

/-- `Close()`: release the discriminator of every session and echo
session, and clear the maps and the subscribers. -/
def Runtime.close (rt : Runtime Addr) : Runtime Addr :=
  { rt with
    manager :=
      { rt.manager with
        sessions := ∅
        sessionsByPeer := ∅
        microGroups := ∅
        discriminators := (rt.manager.sessions.keys ++ rt.echoSessions.keys).foldl
          DiscriminatorAllocator.release rt.manager.discriminators
        subscribers := [] }
    echoSessions := ∅ }

/-- One step of one goroutine: a call of a method starts, a call in
progress takes its next step, `Close` runs, or a session goroutine takes
a step. -/
inductive Runtime.Step : Runtime Addr → Runtime Addr → Prop
  | createSession (rt : Runtime Addr) (cfg : SessionConfig Addr) :
      Runtime.Step rt { rt with calls := rt.calls ++ [.checkDuplicate cfg false] }
  | destroySession (rt : Runtime Addr) (discr : UInt32) :
      Runtime.Step rt { rt with calls := rt.calls ++ [.destroy discr] }
  | createEchoSession (rt : Runtime Addr) (accepted : Bool) :
      Runtime.Step rt { rt with calls := rt.calls ++ [.echoAllocate accepted] }
  | destroyEchoSession (rt : Runtime Addr) (discr : UInt32) :
      Runtime.Step rt { rt with calls := rt.calls ++ [.echoDestroy discr] }
  | demux (rt : Runtime Addr) (srcAddr dstAddr : Addr) (ifName : String) :
      Runtime.Step rt { rt with calls := rt.calls ++ [.demuxByPeer srcAddr dstAddr ifName] }
  | advance {rt : Runtime Addr} (pre post : List (Call Addr)) (c : Call Addr)
      (hc : rt.calls = pre ++ c :: post) :
      Runtime.Step rt
        { (c.step h ip pol rt).1 with calls := pre ++ (c.step h ip pol rt).2.toList ++ post }
  | close (rt : Runtime Addr) : Runtime.Step rt rt.close
  | session {rt : Runtime Addr} {discr : UInt32} {e : SessionEntry Addr} {s : Session Addr}
      (he : rt.manager.sessions.lookup discr = some e) (hs : Session.Step h e.session s) :
      Runtime.Step rt { rt with manager := rt.manager.storeSession discr e s }

/-- The states over every interleaving from `NewManager`. -/
def Runtime.Reachable (rt : Runtime Addr) : Prop :=
  ∃ rand, Relation.ReflTransGen (Runtime.Step h ip pol) (Runtime.init rand) rt

end Steps

/-! ## What the calls hold -/

/-- The discriminator a call in progress holds: allocated, and in neither
map. -/
def Call.held : Call Addr → List UInt32
  | .build _ _ discr | .register _ _ discr _ | .releaseDiscr _ discr | .destroyReservation discr
  | .destroyRelease discr | .echoBuild _ discr | .echoRegister discr | .echoRelease discr => [discr]
  | _ => []

/-- Whether a call in progress holds one count of the unsolicited
counter: a reservation not yet marked or given back, or the count of a
marked session it has removed. -/
def Call.reserved : Call Addr → Bool
  | .checkDuplicate _ u | .allocate _ u | .build _ u _ | .register _ u _ _ | .releaseDiscr u _ => u
  | .releaseReservation | .markUnsolicited _ | .destroyReservation _ => true
  | _ => false

/-- A registration carries a session built for its discriminator. -/
def Call.Wf : Call Addr → Prop
  | .register _ _ discr s => s.localDiscr = discr
  | _ => True

/-- The number of sessions marked unsolicited. -/
def Manager.unsolicitedCount (m : Manager Addr) : Nat :=
  m.sessions.entries.countP fun e => e.2.unsolicited

/-- `Release` of each discriminator of a list. -/
theorem DiscriminatorAllocator.foldl_release (l : List UInt32) (d : DiscriminatorAllocator) :
    (l.foldl DiscriminatorAllocator.release d).allocated = d.allocated.filter fun x => x ∉ l := by
  induction l generalizing d with
  | nil => simp
  | cons a l ih =>
    rw [List.foldl_cons, ih, DiscriminatorAllocator.release, List.filter_filter]
    apply List.filter_congr
    intro x _
    by_cases hx : x = a <;> simp [hx]

/-! ## What `reserve` and a failed creation leave -/

theorem UnsolicitedPolicy.reserve_ok {p : UnsolicitedPolicy Addr} {n n' : Nat} {srcAddr : Addr}
    {ifName : String} (h : p.reserve n srcAddr ifName = (.ok (), n')) :
    n' = n + 1 ∧ (0 < p.maxSessions → (n' : Int) ≤ p.maxSessions) := by
  unfold UnsolicitedPolicy.reserve at h
  split at h
  · cases h
  · by_cases hle : p.maxSessions ≤ 0
    · rw [if_pos hle] at h
      cases h
      exact ⟨rfl, fun hpos => absurd hle (by omega)⟩
    · rw [if_neg hle] at h
      by_cases hmax : p.maxSessions ≤ n
      · rw [if_pos hmax] at h
        cases h
      · rw [if_neg hmax] at h
        cases h
        exact ⟨rfl, fun _ => by push_cast; omega⟩

theorem UnsolicitedPolicy.reserve_error {p : UnsolicitedPolicy Addr} {n n' : Nat} {srcAddr : Addr}
    {ifName : String} {e : UnsolicitedError} (h : p.reserve n srcAddr ifName = (.error e, n')) :
    n' = n := by
  unfold UnsolicitedPolicy.reserve at h
  split at h
  · cases h
    rfl
  · split_ifs at h <;> cases h
    rfl

/-- Where a failed `CreateSession` returns holds no discriminator and
keeps the reservation of an unsolicited call. -/
theorem Call.failed_held (u : Bool) : (Call.failed u : Option (Call Addr)).toList.flatMap Call.held = [] := by
  cases u <;> rfl

theorem Call.failed_reserved (u : Bool) :
    (Call.failed u : Option (Call Addr)).toList.countP Call.reserved = if u then 1 else 0 := by
  cases u <;> rfl

theorem Call.countP_reserved_some (c : Call Addr) :
    (some c).toList.countP Call.reserved = if c.reserved then 1 else 0 :=
  List.countP_singleton

theorem Call.failed_wf (u : Bool) : ∀ c ∈ (Call.failed u : Option (Call Addr)).toList, c.Wf := by
  cases u <;> simp [Call.failed, Call.Wf]

section Invariant

variable [DecidableEq Addr]

/-- The invariant of the tables under any interleaving. -/
structure Runtime.Inv (pol : UnsolicitedPolicy Addr) (rt : Runtime Addr) : Prop where
  valid : rt.manager.Valid
  nodup : rt.manager.discriminators.allocated.Nodup
  allocated : rt.manager.discriminators.allocated.Perm
    (rt.manager.sessions.keys ++ rt.echoSessions.keys ++ rt.calls.flatMap Call.held)
  wf : ∀ c ∈ rt.calls, c.Wf
  counted : rt.manager.unsolicitedCount + rt.calls.countP Call.reserved ≤ rt.sessionCount
  bounded : 0 < pol.maxSessions → (rt.sessionCount : Int) ≤ pol.maxSessions

section Frame

variable {pol : UnsolicitedPolicy Addr} {rt : Runtime Addr} {c : Call Addr} {rest : List (Call Addr)}

/-- The order of the calls does not matter. -/
theorem Runtime.Inv.perm_calls (hinv : rt.Inv pol) {calls : List (Call Addr)}
    (hp : rt.calls.Perm calls) : Runtime.Inv pol { rt with calls := calls } where
  valid := hinv.valid
  nodup := hinv.nodup
  allocated := hinv.allocated.trans (List.Perm.append_left _ (hp.flatMap_right _))
  wf c' hc' := hinv.wf c' (hp.mem_iff.mpr hc')
  counted := by
    rw [← hp.countP_eq]
    exact hinv.counted
  bounded := hinv.bounded

/-- The random stream plays no part. -/
theorem Runtime.Inv.rand (hinv : rt.Inv pol) (rand : List UInt32) :
    Runtime.Inv pol { rt with manager := { rt.manager with rand := rand } } where
  valid := hinv.valid.congr rfl rfl rfl
  nodup := hinv.nodup
  allocated := hinv.allocated
  wf := hinv.wf
  counted := hinv.counted
  bounded := hinv.bounded

/-- A discriminator a call holds is in neither map. -/
theorem Runtime.Inv.held_fresh (hinv : Runtime.Inv pol { rt with calls := c :: rest }) {d : UInt32}
    (hd : c.held = [d]) : rt.manager.sessions.lookup d = none ∧ d ∉ rt.echoSessions.keys := by
  have hnd := hinv.allocated.nodup_iff.mp hinv.nodup
  simp only [List.flatMap_cons, hd, List.singleton_append] at hnd
  have hne := (List.nodup_middle.mp hnd |> List.nodup_cons.mp).1
  simp only [List.mem_append, not_or] at hne
  exact ⟨AList.lookup_eq_none.mpr fun hm => hne.1.1 (AList.mem_keys.mp hm), hne.1.2⟩

/-- A step that leaves the tables and passes the call's discriminator and
reservation on. -/
theorem Runtime.Inv.advance_same (hinv : Runtime.Inv pol { rt with calls := c :: rest })
    (next : Option (Call Addr)) (hheld : next.toList.flatMap Call.held = c.held)
    (hres : next.toList.countP Call.reserved ≤ if c.reserved then 1 else 0)
    (hwf : ∀ c' ∈ next.toList, c'.Wf) : Runtime.Inv pol { rt with calls := next.toList ++ rest } where
  valid := hinv.valid
  nodup := hinv.nodup
  allocated := by
    have hA := hinv.allocated
    rwa [List.flatMap_cons, ← hheld, ← List.flatMap_append] at hA
  wf c' hc' := by
    rcases List.mem_append.mp hc' with h | h
    · exact hwf c' h
    · exact hinv.wf c' (List.mem_cons_of_mem c h)
  counted := by
    have hc := hinv.counted
    dsimp only at hc ⊢
    rw [List.countP_cons] at hc
    rw [List.countP_append]
    omega
  bounded := hinv.bounded

/-- A step that gives back the call's count of the unsolicited counter. -/
theorem Runtime.Inv.release_reservation (hinv : Runtime.Inv pol { rt with calls := c :: rest })
    (hc : c.reserved = true) (next : Option (Call Addr))
    (hheld : next.toList.flatMap Call.held = c.held)
    (hres : next.toList.countP Call.reserved = 0) (hwf : ∀ c' ∈ next.toList, c'.Wf) :
    Runtime.Inv pol
      { rt with sessionCount := releaseUnsolicited rt.sessionCount, calls := next.toList ++ rest } := by
  have hsame := hinv.advance_same next hheld (by rw [hres]; exact Nat.zero_le _) hwf
  have hcnt := hinv.counted
  dsimp only at hcnt
  rw [List.countP_cons, hc, if_pos rfl] at hcnt
  -- the call's count is one of the counter's, so the counter is positive
  have hpos : rt.sessionCount ≠ 0 := by omega
  refine ⟨hsame.valid, hsame.nodup, hsame.allocated, hsame.wf, ?_, ?_⟩
  · dsimp only
    rw [releaseUnsolicited, if_neg hpos, List.countP_append, hres]
    omega
  · intro hmax
    have hb := hinv.bounded hmax
    dsimp only at hb ⊢
    rw [releaseUnsolicited, if_neg hpos]
    omega

/-- A step that releases the discriminator the call holds. -/
theorem Runtime.Inv.release_held (hinv : Runtime.Inv pol { rt with calls := c :: rest })
    {d : UInt32} (hd : c.held = [d]) (next : Option (Call Addr))
    (hnext : next.toList.flatMap Call.held = [])
    (hres : next.toList.countP Call.reserved ≤ if c.reserved then 1 else 0)
    (hwf : ∀ c' ∈ next.toList, c'.Wf) :
    Runtime.Inv pol { rt.releaseDiscr d with calls := next.toList ++ rest } := by
  have hA := hinv.allocated
  dsimp only at hA
  rw [List.flatMap_cons, hd, List.singleton_append] at hA
  refine ⟨hinv.valid.release (hinv.held_fresh hd).1, hinv.nodup.filter _, ?_, ?_, ?_, hinv.bounded⟩
  · dsimp only [Runtime.releaseDiscr, DiscriminatorAllocator.release]
    rw [List.flatMap_append, hnext, List.nil_append]
    exact List.perm_filter_bne_of_perm hA hinv.nodup
  · intro c' hc'
    rcases List.mem_append.mp hc' with h | h
    · exact hwf c' h
    · exact hinv.wf c' (List.mem_cons_of_mem c h)
  · have hcnt := hinv.counted
    dsimp only at hcnt
    rw [List.countP_cons] at hcnt
    show rt.manager.unsolicitedCount + (next.toList ++ rest).countP Call.reserved ≤ rt.sessionCount
    rw [List.countP_append]
    omega

/-- A step that allocates a discriminator for the call. -/
theorem Runtime.Inv.allocate_held (hinv : Runtime.Inv pol { rt with calls := c :: rest })
    (hc : c.held = []) {w : UInt32} (hw : w ∉ rt.manager.discriminators.allocated) (next : Call Addr)
    (hnext : next.held = [w]) (hres : next.reserved = c.reserved) (hwf : next.Wf)
    (rand : List UInt32) :
    Runtime.Inv pol
      { rt with
        manager := { rt.manager with discriminators := ⟨w :: rt.manager.discriminators.allocated⟩, rand := rand }
        calls := next :: rest } := by
  have hA := hinv.allocated
  dsimp only at hA
  rw [List.flatMap_cons, hc, List.nil_append] at hA
  refine ⟨(hinv.valid.allocate w).congr rfl rfl rfl, List.nodup_cons.mpr ⟨hw, hinv.nodup⟩, ?_, ?_, ?_,
    hinv.bounded⟩
  · dsimp only
    rw [List.flatMap_cons, hnext, List.singleton_append]
    exact (hA.cons w).trans List.perm_middle.symm
  · intro c' hc'
    rcases List.mem_cons.mp hc' with rfl | h
    · exact hwf
    · exact hinv.wf c' (List.mem_cons_of_mem c h)
  · have hcnt := hinv.counted
    dsimp only at hcnt ⊢
    rw [List.countP_cons] at hcnt ⊢
    rw [hres]
    exact hcnt

/-- `registerAndStart` files the session under the discriminator the call
holds. -/
theorem Runtime.Inv.register {cfg : SessionConfig Addr} {u : Bool} {d : UInt32} {s : Session Addr}
    (hinv : Runtime.Inv pol { rt with calls := .register cfg u d s :: rest })
    (hk : rt.manager.sessionsByPeer.lookup cfg.key = none) :
    Runtime.Inv pol
      { rt with
        manager :=
          { rt.manager with
            sessions := rt.manager.sessions.insert d { session := s, key := cfg.key, unsolicited := false }
            sessionsByPeer := rt.manager.sessionsByPeer.insert cfg.key d }
        calls := (if u then some (Call.markUnsolicited d) else none).toList ++ rest } := by
  have hfresh := hinv.held_fresh (c := .register cfg u d s) rfl
  have hA := hinv.allocated
  dsimp only at hA
  rw [List.flatMap_cons] at hA
  simp only [Call.held, List.singleton_append] at hA
  have hwd : d ∈ rt.manager.discriminators.allocated := hA.mem_iff.mpr (by simp)
  have hs : s.localDiscr = d := hinv.wf _ List.mem_cons_self
  have hnext : ((if u then some (Call.markUnsolicited d : Call Addr) else none).toList).flatMap Call.held = [] := by
    split_ifs <;> rfl
  refine ⟨hinv.valid.file { session := s, key := cfg.key, unsolicited := false } hk hfresh.1 hwd hs,
    hinv.nodup, ?_, ?_, ?_, hinv.bounded⟩
  · dsimp only
    rw [AList.keys_insert_of_lookup_none hfresh.1, List.flatMap_append, hnext, List.nil_append]
    exact hA.trans List.perm_middle
  · intro c' hc'
    rcases List.mem_append.mp hc' with h | h
    · -- a marking carries nothing to check
      cases u
      · simp at h
      · rw [if_pos rfl, Option.toList_some, List.mem_singleton] at h
        rw [h]
        trivial
    · exact hinv.wf c' (List.mem_cons_of_mem _ h)
  · have hcnt := hinv.counted
    dsimp only at hcnt ⊢
    unfold Manager.unsolicitedCount at hcnt ⊢
    rw [AList.countP_insert_of_lookup_none hfresh.1, List.countP_cons] at *
    rw [List.countP_append]
    -- the new entry is not marked, and the marking keeps the reservation
    cases u <;> simp only [Call.reserved, if_true, if_false, Bool.false_eq_true, Option.toList_some,
      Option.toList_none, List.countP_nil, List.countP_singleton] at hcnt ⊢ <;> omega

/-- `markSessionUnsolicited` turns the call's reservation into a marked
session, or drops it when the entry is already marked. -/
theorem Runtime.Inv.markUnsolicited {d : UInt32}
    (hinv : Runtime.Inv pol { rt with calls := .markUnsolicited d :: rest })
    {e : SessionEntry Addr} (he : rt.manager.sessions.lookup d = some e) :
    Runtime.Inv pol
      { rt with
        manager := { rt.manager with sessions := rt.manager.sessions.insert d { e with unsolicited := true } }
        calls := rest } := by
  have hA := hinv.allocated
  dsimp only at hA
  simp only [List.flatMap_cons, Call.held, List.nil_append] at hA
  refine ⟨hinv.valid.refile he _ rfl rfl, hinv.nodup, ?_,
    fun c' hc' => hinv.wf c' (List.mem_cons_of_mem _ hc'), ?_, hinv.bounded⟩
  · exact hA.trans (((AList.keys_insert_perm_of_lookup he _).symm.append_right _).append_right _)
  · have hcnt := hinv.counted
    have hk := AList.countP_insert_of_lookup he { e with unsolicited := true } fun e => e.2.unsolicited
    simp only [↓reduceIte] at hk
    unfold Manager.unsolicitedCount at hcnt ⊢
    dsimp only at hcnt ⊢
    simp only [List.countP_cons, Call.reserved, ↓reduceIte] at hcnt
    omega

/-- `DestroySession` removes the entry and keeps its discriminator, and
the count of a marked entry, for its later steps. -/
theorem Runtime.Inv.destroy {d : UInt32} (hinv : Runtime.Inv pol { rt with calls := .destroy d :: rest })
    {e : SessionEntry Addr} (he : rt.manager.sessions.lookup d = some e) :
    Runtime.Inv pol
      { rt with
        manager :=
          { rt.manager with
            sessions := rt.manager.sessions.erase d
            sessionsByPeer := rt.manager.sessionsByPeer.erase e.key }
        calls := (if e.unsolicited then Call.destroyReservation d else Call.destroyRelease d) :: rest } := by
  have hA := hinv.allocated
  dsimp only at hA
  simp only [List.flatMap_cons, Call.held, List.nil_append] at hA
  have hheld : (if e.unsolicited then Call.destroyReservation d else Call.destroyRelease d : Call Addr).held =
      [d] := by
    split_ifs <;> rfl
  have hres : (if e.unsolicited then Call.destroyReservation d else Call.destroyRelease d : Call Addr).reserved =
      e.unsolicited := by
    split_ifs with hu <;> simp [Call.reserved, hu]
  refine ⟨hinv.valid.unfile he, hinv.nodup, ?_, ?_, ?_, hinv.bounded⟩
  · dsimp only
    rw [List.flatMap_cons, hheld, List.singleton_append, AList.keys_erase]
    have hK := (AList.keys_perm_erase_of_lookup he)
    rw [AList.keys_erase] at hK
    exact hA.trans (((hK.append_right _).append_right _).trans List.perm_middle.symm)
  · intro c' hc'
    rcases List.mem_cons.mp hc' with h | h
    · rw [h]
      split_ifs <;> trivial
    · exact hinv.wf c' (List.mem_cons_of_mem _ h)
  · have hcnt := hinv.counted
    have hk := AList.countP_erase_of_lookup he fun e => e.2.unsolicited
    unfold Manager.unsolicitedCount at hcnt ⊢
    dsimp only at hcnt hk ⊢
    simp only [List.countP_cons, Call.reserved, Bool.false_eq_true, ↓reduceIte, add_zero] at hcnt
    rw [List.countP_cons, hres]
    omega

/-- `CreateEchoSession` files the discriminator the call holds. -/
theorem Runtime.Inv.echoRegister {d : UInt32}
    (hinv : Runtime.Inv pol { rt with calls := .echoRegister d :: rest }) :
    Runtime.Inv pol { rt with echoSessions := rt.echoSessions.insert d (), calls := rest } := by
  have hfresh := hinv.held_fresh (c := .echoRegister d) rfl
  have hA := hinv.allocated
  dsimp only at hA
  simp only [List.flatMap_cons, Call.held, List.singleton_append] at hA
  have hnone : rt.echoSessions.lookup d = none :=
    AList.lookup_eq_none.mpr fun hm => hfresh.2 (AList.mem_keys.mp hm)
  refine ⟨hinv.valid, hinv.nodup, ?_, fun c' hc' => hinv.wf c' (List.mem_cons_of_mem _ hc'), ?_, hinv.bounded⟩
  · dsimp only
    rw [AList.keys_insert_of_lookup_none hnone]
    refine hA.trans ?_
    rw [List.append_assoc, List.append_assoc, List.cons_append]
    exact List.perm_middle.append_left _
  · have hcnt := hinv.counted
    dsimp only at hcnt ⊢
    simpa only [List.countP_cons, Call.reserved, Bool.false_eq_true, ↓reduceIte, add_zero] using hcnt

/-- `DestroyEchoSession` removes the discriminator and keeps it for its
release. -/
theorem Runtime.Inv.echoDestroy {d : UInt32}
    (hinv : Runtime.Inv pol { rt with calls := .echoDestroy d :: rest })
    (he : (rt.echoSessions.lookup d).isSome) :
    Runtime.Inv pol { rt with echoSessions := rt.echoSessions.erase d, calls := .echoRelease d :: rest } := by
  obtain ⟨u, hu⟩ := Option.isSome_iff_exists.mp he
  have hA := hinv.allocated
  dsimp only at hA
  simp only [List.flatMap_cons, Call.held, List.nil_append] at hA
  refine ⟨hinv.valid, hinv.nodup, ?_, ?_, ?_, hinv.bounded⟩
  · dsimp only
    rw [List.flatMap_cons, Call.held, List.singleton_append]
    have hE := AList.keys_perm_erase_of_lookup hu
    refine hA.trans ?_
    rw [List.append_assoc, List.append_assoc]
    refine List.Perm.append_left _ ((hE.append_right _).trans ?_)
    exact List.perm_middle.symm
  · intro c' hc'
    rcases List.mem_cons.mp hc' with h | h
    · rw [h]
      trivial
    · exact hinv.wf c' (List.mem_cons_of_mem _ h)
  · have hcnt := hinv.counted
    dsimp only at hcnt ⊢
    simpa only [List.countP_cons, Call.reserved, Bool.false_eq_true, ↓reduceIte, add_zero] using hcnt

/-- A session goroutine files its record back, under its discriminator
and with its flag. -/
theorem Runtime.Inv.storeSession (hinv : rt.Inv pol) {discr : UInt32} {e : SessionEntry Addr}
    {s : Session Addr} (he : rt.manager.sessions.lookup discr = some e)
    (hid : s.identity = e.session.identity) :
    Runtime.Inv pol { rt with manager := rt.manager.storeSession discr e s } := by
  refine ⟨hinv.valid.storeSession he hid, hinv.nodup, ?_, hinv.wf, ?_, hinv.bounded⟩
  · exact hinv.allocated.trans (((AList.keys_insert_perm_of_lookup he _).symm.append_right _).append_right _)
  · have hcnt := hinv.counted
    have hk := AList.countP_insert_of_lookup he { e with session := { s with notifyCh := some [] } }
      fun e => e.2.unsolicited
    unfold Manager.unsolicitedCount at hcnt ⊢
    dsimp only [Manager.storeSession] at hcnt hk ⊢
    omega

/-- A call starts holding nothing. -/
theorem Runtime.Inv.start (hinv : rt.Inv pol) {c : Call Addr} (hh : c.held = [])
    (hr : c.reserved = false) (hw : c.Wf) : Runtime.Inv pol { rt with calls := rt.calls ++ [c] } := by
  refine ⟨hinv.valid, hinv.nodup, ?_, ?_, ?_, hinv.bounded⟩
  · dsimp only
    rw [List.flatMap_append, List.flatMap_singleton, hh, List.append_nil]
    exact hinv.allocated
  · intro c' hc'
    rcases List.mem_append.mp hc' with h | h
    · exact hinv.wf c' h
    · rw [List.mem_singleton.mp h]
      exact hw
  · have hcnt := hinv.counted
    dsimp only at hcnt ⊢
    rw [List.countP_append, List.countP_singleton, hr]
    simpa using hcnt

/-- A successful `reserve`: one count more, held by the call. -/
theorem Runtime.Inv.reserve_held (hinv : Runtime.Inv pol { rt with calls := c :: rest })
    (hc : c.reserved = false) (hh : c.held = []) (next : Call Addr) (hn : next.reserved = true)
    (hnh : next.held = []) (hnw : next.Wf) {n : Nat} (hn₁ : n = rt.sessionCount + 1)
    (hb : 0 < pol.maxSessions → (n : Int) ≤ pol.maxSessions) :
    Runtime.Inv pol { rt with sessionCount := n, calls := next :: rest } := by
  have hA := hinv.allocated
  dsimp only at hA
  rw [List.flatMap_cons, hh, List.nil_append] at hA
  have hcnt := hinv.counted
  dsimp only at hcnt
  refine ⟨hinv.valid, hinv.nodup, ?_, ?_, ?_, hb⟩
  · dsimp only
    rw [List.flatMap_cons, hnh, List.nil_append]
    exact hA
  · intro c' hc'
    rcases List.mem_cons.mp hc' with h | h
    · rw [h]
      exact hnw
    · exact hinv.wf c' (List.mem_cons_of_mem _ h)
  dsimp only
  rw [List.countP_cons, hc] at hcnt
  rw [List.countP_cons, hn]
  simp only [Bool.false_eq_true, ↓reduceIte, add_zero] at hcnt
  simp only [↓reduceIte]
  omega

end Frame

/-! ## Every step keeps the invariant -/

section Steps

variable (h : Digests) (ip : NetIP Addr) {pol : UnsolicitedPolicy Addr} {rt rt' : Runtime Addr}
  {rest : List (Call Addr)}

/-- The next step of a call keeps the invariant, one case per point a
call can stand at. -/
theorem Call.step_inv {c : Call Addr} (hinv : Runtime.Inv pol { rt with calls := c :: rest }) :
    Runtime.Inv pol { (c.step h ip pol rt).1 with calls := (c.step h ip pol rt).2.toList ++ rest } := by
  cases c with
  | checkDuplicate cfg u =>
    -- every branch leaves the tables; a failure keeps an unsolicited call's reservation
    have hfail := hinv.advance_same (Call.failed u) (Call.failed_held u)
      (by rw [Call.failed_reserved]; exact Nat.le_refl _) (Call.failed_wf u)
    simp only [Call.step]
    split_ifs
    · exact hfail
    · exact hfail
    · exact hinv.advance_same (some (.allocate cfg u)) rfl (by rw [Call.countP_reserved_some]; exact Nat.le_refl _) (by simp [Call.Wf])
  | allocate cfg u =>
    simp only [Call.step]
    split
    · next rand _ =>
      exact (hinv.advance_same (Call.failed u) (Call.failed_held u)
        (by rw [Call.failed_reserved]; exact Nat.le_refl _) (Call.failed_wf u)).rand rand
    · next w alloc rand hres =>
      obtain ⟨-, hw, rfl⟩ := DiscriminatorAllocator.allocate_ok hres
      exact hinv.allocate_held rfl hw (.build cfg u w) rfl rfl trivial rand
  | build cfg u d =>
    simp only [Call.step]
    split
    · next rand _ =>
      exact (hinv.release_held rfl (Call.failed u) (Call.failed_held u)
        (by rw [Call.failed_reserved]; exact Nat.le_refl _) (Call.failed_wf u)).rand rand
    · next s rand hres =>
      exact (hinv.advance_same (some (.register cfg u d s)) rfl (by rw [Call.countP_reserved_some]; exact Nat.le_refl _)
        (by simp [Call.Wf, newSessionFromRand_localDiscr h hres])).rand rand
  | register cfg u d s =>
    simp only [Call.step]
    by_cases hk : (rt.manager.sessionsByPeer.lookup cfg.key).isSome
    · rw [if_pos hk]
      exact hinv.advance_same (some (.releaseDiscr u d)) rfl (by rw [Call.countP_reserved_some]; exact Nat.le_refl _) (by simp [Call.Wf])
    · rw [if_neg hk]
      exact hinv.register (Option.not_isSome_iff_eq_none.mp hk)
  | releaseDiscr u d =>
    exact hinv.release_held rfl (Call.failed u) (Call.failed_held u)
      (by rw [Call.failed_reserved]; exact Nat.le_refl _) (Call.failed_wf u)
  | releaseReservation => exact hinv.release_reservation rfl none rfl rfl (by simp)
  | markUnsolicited d =>
    simp only [Call.step]
    split
    · next e he => exact hinv.markUnsolicited he
    · exact hinv.advance_same none rfl (by simp) (by simp)
  | destroy d =>
    simp only [Call.step]
    split
    · exact hinv.advance_same none rfl (by simp) (by simp)
    · next e he => exact hinv.destroy he
  | destroyReservation d =>
    exact hinv.release_reservation rfl (some (.destroyRelease d)) rfl rfl (by simp [Call.Wf])
  | destroyRelease d => exact hinv.release_held rfl none rfl (by simp) (by simp)
  | echoAllocate accepted =>
    simp only [Call.step]
    split
    · next rand _ => exact (hinv.advance_same none rfl (by simp) (by simp)).rand rand
    · next w alloc rand hres =>
      obtain ⟨-, hw, rfl⟩ := DiscriminatorAllocator.allocate_ok hres
      exact hinv.allocate_held rfl hw (.echoBuild accepted w) rfl rfl trivial rand
  | echoBuild accepted d =>
    simp only [Call.step]
    split_ifs
    · exact hinv.advance_same (some (.echoRegister d)) rfl (by rw [Call.countP_reserved_some]; exact Nat.le_refl _) (by simp [Call.Wf])
    · exact hinv.release_held rfl none rfl (by simp) (by simp)
  | echoRegister d => exact hinv.echoRegister
  | echoDestroy d =>
    simp only [Call.step]
    split_ifs with he
    · exact hinv.echoDestroy he
    · exact hinv.advance_same none rfl (by simp) (by simp)
  | echoRelease d => exact hinv.release_held rfl none rfl (by simp) (by simp)
  | demuxByPeer srcAddr dstAddr ifName =>
    simp only [Call.step]
    split_ifs
    · exact hinv.advance_same none rfl (by simp) (by simp)
    · exact hinv.advance_same (some (.reserve srcAddr dstAddr ifName)) rfl (by rw [Call.countP_reserved_some]; exact Nat.le_refl _)
        (by simp [Call.Wf])
  | reserve srcAddr dstAddr ifName =>
    simp only [Call.step]
    split
    · next e n hr =>
      rw [UnsolicitedPolicy.reserve_error hr]
      exact hinv.advance_same none rfl (by simp) (by simp)
    · next n hr =>
      obtain ⟨hn, hb⟩ := UnsolicitedPolicy.reserve_ok hr
      exact hinv.reserve_held rfl rfl (.checkDuplicate _ true) rfl rfl trivial hn hb

/-- `Close` releases what the maps held and keeps what the calls hold. -/
theorem Runtime.Inv.close (hinv : rt.Inv pol) : rt.close.Inv pol := by
  have hA := hinv.allocated
  refine ⟨⟨?_, ?_, ?_⟩, ?_, ?_, hinv.wf, ?_, hinv.bounded⟩
  · intro d e he
    simp [Runtime.close] at he
  · intro k d hk
    simp [Runtime.close] at hk
  · intro d e he
    simp [Runtime.close] at he
  · dsimp only [Runtime.close]
    rw [DiscriminatorAllocator.foldl_release]
    exact hinv.nodup.filter _
  · dsimp only [Runtime.close]
    rw [DiscriminatorAllocator.foldl_release, AList.keys_empty, AList.keys_empty, List.nil_append,
      List.nil_append]
    exact List.perm_filter_not_mem_of_perm hA hinv.nodup
  · have hcnt := hinv.counted
    unfold Manager.unsolicitedCount at hcnt ⊢
    dsimp only [Runtime.close]
    rw [AList.empty_entries, List.countP_nil, zero_add]
    omega

/-- `NewManager` starts with nothing allocated and no call in progress. -/
theorem Runtime.init_inv (rand : List UInt32) : (Runtime.init rand : Runtime Addr).Inv pol where
  valid := newManager_valid rand
  nodup := List.nodup_nil
  allocated := List.Perm.refl _
  wf c hc := by cases hc
  counted := le_refl _
  bounded hpos := by
    show ((0 : Nat) : Int) ≤ pol.maxSessions
    omega

theorem Runtime.Step.inv (hstep : Runtime.Step h ip pol rt rt') (hinv : rt.Inv pol) : rt'.Inv pol := by
  cases hstep with
  | createSession cfg => exact hinv.start rfl rfl trivial
  | destroySession d => exact hinv.start rfl rfl trivial
  | createEchoSession accepted => exact hinv.start rfl rfl trivial
  | destroyEchoSession d => exact hinv.start rfl rfl trivial
  | demux srcAddr dstAddr ifName => exact hinv.start rfl rfl trivial
  | advance pre post c hc =>
    -- the call steps as if it were the first, then goes back among the others
    have h₁ : Runtime.Inv pol { rt with calls := c :: (pre ++ post) } :=
      hinv.perm_calls (by rw [hc]; exact List.perm_middle)
    have h₂ := Call.step_inv h ip h₁
    refine h₂.perm_calls ?_
    rw [← List.append_assoc]
    exact List.perm_append_comm.append_right _
  | close => exact hinv.close
  | session he hs => exact hinv.storeSession he (Session.Step.identity h hs)

/-- Every state over every interleaving satisfies the invariant. -/
theorem Runtime.Reachable.inv (hr : rt.Reachable h ip pol) : rt.Inv pol := by
  obtain ⟨rand, hr⟩ := hr
  induction hr with
  | refl => exact Runtime.init_inv rand
  | tail _ hstep ih => exact hstep.inv h ip ih

end Steps

end Invariant

/-! ## The tables over every interleaving -/

section Tables

variable [DecidableEq Addr] (h : Digests) (ip : NetIP Addr) {pol : UnsolicitedPolicy Addr} {rt : Runtime Addr}

/-- Over every interleaving of the calls: each session is filed in both
maps under its own discriminator, no two sessions share a key, and the
allocator holds, each once, the discriminators of the sessions, of the
echo sessions and of the calls in progress, so exactly those of the
sessions and the echo sessions once no call is in progress. -/
theorem manager_tables_consistent (hr : rt.Reachable h ip pol) :
    (∀ d e, rt.manager.sessions.lookup d = some e →
        rt.manager.sessionsByPeer.lookup e.key = some d ∧ e.session.localDiscr = d) ∧
      (∀ k d, rt.manager.sessionsByPeer.lookup k = some d →
        ∃ e, rt.manager.sessions.lookup d = some e ∧ e.key = k) ∧
      (∀ d₁ d₂ e₁ e₂, rt.manager.sessions.lookup d₁ = some e₁ → rt.manager.sessions.lookup d₂ = some e₂ →
        e₁.key = e₂.key → d₁ = d₂) ∧
      rt.manager.sessions.keys.Disjoint rt.echoSessions.keys ∧
      rt.manager.discriminators.allocated.Nodup ∧
      rt.manager.discriminators.allocated.Perm
        (rt.manager.sessions.keys ++ rt.echoSessions.keys ++ rt.calls.flatMap Call.held) ∧
      (rt.calls = [] →
        rt.manager.discriminators.allocated.Perm (rt.manager.sessions.keys ++ rt.echoSessions.keys)) := by
  have hinv := hr.inv h ip
  refine ⟨hinv.valid.filed, hinv.valid.byPeer, ?_, ?_, hinv.nodup, hinv.allocated, ?_⟩
  · -- the key of each entry is filed under its own discriminator
    intro d₁ d₂ e₁ e₂ h₁ h₂ hk
    have hb₁ := (hinv.valid.filed d₁ e₁ h₁).1
    have hb₂ := (hinv.valid.filed d₂ e₂ h₂).1
    rw [hk, hb₂, Option.some.injEq] at hb₁
    exact hb₁.symm
  · -- the allocator holds each discriminator once
    have hnd := hinv.allocated.nodup_iff.mp hinv.nodup
    exact List.disjoint_of_nodup_append hnd.of_append_left
  · intro hc
    have hA := hinv.allocated
    rw [hc, List.flatMap_nil, List.append_nil] at hA
    exact hA

end Tables

/-! ## Runs -/

/-- What a goroutine does next: call a method, take the next step of the
call at a position of the list, or close the manager. -/
inductive RuntimeEvent (Addr : Type) where
  | createSession (cfg : SessionConfig Addr)
  | destroySession (discr : UInt32)
  | createEchoSession (accepted : Bool)
  | destroyEchoSession (discr : UInt32)
  | demux (srcAddr dstAddr : Addr) (ifName : String)
  | advance (i : Nat)
  | close

section Runs

variable [DecidableEq Addr] (h : Digests) (ip : NetIP Addr) (pol : UnsolicitedPolicy Addr)

/-- One event; advancing a position with no call does nothing. -/
def Runtime.fire (rt : Runtime Addr) : RuntimeEvent Addr → Runtime Addr
  | .createSession cfg => { rt with calls := rt.calls ++ [.checkDuplicate cfg false] }
  | .destroySession discr => { rt with calls := rt.calls ++ [.destroy discr] }
  | .createEchoSession accepted => { rt with calls := rt.calls ++ [.echoAllocate accepted] }
  | .destroyEchoSession discr => { rt with calls := rt.calls ++ [.echoDestroy discr] }
  | .demux srcAddr dstAddr ifName => { rt with calls := rt.calls ++ [.demuxByPeer srcAddr dstAddr ifName] }
  | .advance i =>
    match rt.calls[i]? with
    | some c =>
      { (c.step h ip pol rt).1 with
        calls := rt.calls.take i ++ (c.step h ip pol rt).2.toList ++ rt.calls.drop (i + 1) }
    | none => rt
  | .close => rt.close

/-- A list of events, in order. -/
def Runtime.runEvents (rt : Runtime Addr) (evs : List (RuntimeEvent Addr)) : Runtime Addr :=
  evs.foldl (Runtime.fire h ip pol) rt

theorem Runtime.fire_steps (rt : Runtime Addr) (ev : RuntimeEvent Addr) :
    Relation.ReflTransGen (Runtime.Step h ip pol) rt (rt.fire h ip pol ev) := by
  cases ev with
  | createSession cfg => exact .single (.createSession rt cfg)
  | destroySession discr => exact .single (.destroySession rt discr)
  | createEchoSession accepted => exact .single (.createEchoSession rt accepted)
  | destroyEchoSession discr => exact .single (.destroyEchoSession rt discr)
  | demux srcAddr dstAddr ifName => exact .single (.demux rt srcAddr dstAddr ifName)
  | advance i =>
    simp only [Runtime.fire]
    split
    · next c hc =>
      -- the call at `i` splits the list into those before and those after it
      obtain ⟨hi, hget⟩ := List.getElem?_eq_some_iff.mp hc
      have hsplit : rt.calls = rt.calls.take i ++ c :: rt.calls.drop (i + 1) := by
        rw [← hget, ← List.drop_eq_getElem_cons hi, List.take_append_drop]
      exact .single (.advance _ _ c hsplit)
    · exact .refl
  | close => exact .single (.close rt)

theorem Runtime.runEvents_reachable {rt : Runtime Addr} (hr : rt.Reachable h ip pol)
    (evs : List (RuntimeEvent Addr)) : (rt.runEvents h ip pol evs).Reachable h ip pol := by
  induction evs generalizing rt with
  | nil => exact hr
  | cons ev evs ih =>
    obtain ⟨rand, hrt⟩ := hr
    exact ih ⟨rand, hrt.trans (Runtime.fire_steps h ip pol rt ev)⟩

end Runs

/-! ## Two runs -/

/-- Unsolicited BFD on `eth0` for any source, at most 16 sessions, at
one-second timers. -/
def eth0Policy : UnsolicitedPolicy (Option (List UInt8)) where
  enabled := true
  interfaces := (∅ : AList fun _ : String => UnsolicitedInterfaceConfig (Option (List UInt8))).insert
    "eth0" ⟨true, []⟩
  maxSessions := 16
  sessionDefaults := ⟨1000000000, 1000000000, 3⟩

/-- A session from 10.0.0.2 to 10.0.0.1 on `eth0`. -/
def eth0Config : SessionConfig (Option (List UInt8)) :=
  plainSessionConfig (some [10, 0, 0, 1]) (some [10, 0, 0, 2]) "eth0"

/-- `CreateSession` after its allocation, before its registration. -/
def allocatedRuntime : Runtime (Option (List UInt8)) :=
  (Runtime.init [7, 8, 9]).runEvents lengthDigests ipv4 eth0Policy
    [.createSession eth0Config, .advance 0, .advance 0]

/-- The same call run to its end. -/
def oneSessionRuntime : Runtime (Option (List UInt8)) :=
  allocatedRuntime.runEvents lengthDigests ipv4 eth0Policy [.advance 0, .advance 0]

theorem manager_tables_consistent_oneSession :
    oneSessionRuntime.manager.discriminators.allocated.Perm
      (oneSessionRuntime.manager.sessions.keys ++ oneSessionRuntime.echoSessions.keys) :=
  (manager_tables_consistent lengthDigests ipv4
    (Runtime.runEvents_reachable lengthDigests ipv4 eth0Policy
      (Runtime.runEvents_reachable lengthDigests ipv4 eth0Policy ⟨[7, 8, 9], .refl⟩ _) _)).2.2.2.2.2.2 rfl

/-- Between its allocation and its registration, `CreateSession` holds a
discriminator that is allocated and in neither map. -/
theorem allocated_outside_tables :
    allocatedRuntime.Reachable lengthDigests ipv4 eth0Policy ∧
      allocatedRuntime.manager.discriminators.allocated = [7] ∧
      allocatedRuntime.manager.sessions.keys = [] ∧ allocatedRuntime.echoSessions.keys = [] :=
  ⟨Runtime.runEvents_reachable lengthDigests ipv4 eth0Policy ⟨[7, 8, 9], .refl⟩ _, by decide +kernel,
    by decide +kernel, by decide +kernel⟩

/-- A packet from an unknown peer starts `tryCreateUnsolicited`, which
reserves a count and registers session 7; a `DestroySession(7)` removes
it before it is marked, so the destroy gives no count back and the
marking finds nothing.  Every call has returned, the counter stays at one,
and no session is marked. -/
def unsolicitedLeakRuntime : Runtime (Option (List UInt8)) :=
  (Runtime.init [7, 8, 9]).runEvents lengthDigests ipv4 eth0Policy
    [.demux (some [10, 0, 0, 1]) (some [10, 0, 0, 2]) "eth0",
     .advance 0, .advance 0, .advance 0, .advance 0, .advance 0, .advance 0,
     .destroySession 7, .advance 1, .advance 1, .advance 0]

theorem unsolicited_counter_leaks :
    unsolicitedLeakRuntime.Reachable lengthDigests ipv4 eth0Policy ∧
      unsolicitedLeakRuntime.calls.length = 0 ∧ unsolicitedLeakRuntime.sessionCount = 1 ∧
      unsolicitedLeakRuntime.manager.unsolicitedCount = 0 :=
  ⟨Runtime.runEvents_reachable lengthDigests ipv4 eth0Policy ⟨[7, 8, 9], .refl⟩ _, by decide +kernel,
    by decide +kernel, by decide +kernel⟩

end GoBFD
