import GoBFD.Daemon.Senders

/-!
# GoBFD.Server

The gRPC handlers of `internal/server/server.go` that create and delete
sessions.  `AddSession` asks the sender factory for a sender, then the
manager for the session, and closes the sender again if the manager
refuses; it records the sender's port under the session's discriminator in
`senderPorts`.  `DeleteSession` destroys the session, then closes the
sender recorded for it.

Each of these steps takes its own lock (the factory's, the manager's or
`senderPortsMu`) and gives it back before the next, so the handlers of
concurrent requests interleave between them.  `addSession` and
`deleteSession` read a handler's code in one go; a `ServerCall` is a
handler between two of its steps, and `ServerRuntime.Step` starts a call,
takes the next step of a call in progress, or takes a step of a session
goroutine.  Run alone, the steps of a call are the handler's code
(`addSession_phases`, `deleteSession_phases`).

* `ServerRuntime.Accounts`: each port in use is in one place only:
  recorded in `senderPorts`, held by a call between two of its steps, or
  in a set `O` of ports that nothing gives back.  Every step keeps it, and
  `O` grows only when `trackSenderPort` overwrites a record.
* `server_ports_accounted`: along every interleaving from a new server,
  whatever the kernel and the random sources do, the ports in use are the
  recorded ones, the held ones and the lost ones, and a lost port stays in
  use along every continuation.

The ports in use do not follow the sessions.  A `DeleteSession` that runs
between the `CreateSession` and the `trackSenderPort` of the session it
deletes finds no port to close, and the port stays recorded for a session
that is gone (`server_ports_accounted_leak`).  Requests arrive converted:
`sessionConfigFromProto` and the response built from the session are not
modelled.
-/

namespace GoBFD

open Go

variable {Addr : Type}

/-- The connect codes `mapManagerError` chooses between. -/
inductive Code where
  | alreadyExists
  | notFound
  | invalidArgument
  | internal
  deriving DecidableEq

/-- `mapManagerError(err, operation)`: the sentinel the error wraps picks the
code; anything else is internal. -/
def mapManagerError : ManagerError → Code
  | .duplicateSession => .alreadyExists
  | .sessionNotFound _ => .notFound
  | .invalidPeerAddr => .invalidArgument
  | .session .invalidDetectMult => .invalidArgument
  | .session .invalidTxInterval => .invalidArgument
  | .session .invalidSessionType => .invalidArgument
  | _ => .internal

/-- The errors of the two handlers. -/
inductive ServerError (Addr : Type) where
  /-- "create sender: %w", which `mapManagerError` maps to `CodeInternal`. -/
  | createSender (e : SenderError Addr)
  /-- An error of the manager, mapped by `mapManagerError`. -/
  | manager (e : ManagerError)

/-- The code the handlers answer with. -/
def ServerError.code : ServerError Addr → Code
  | .createSender _ => .internal
  | .manager e => mapManagerError e

/-- `BFDServer`: the manager, the sender factory, and the port of the sender
of each session `AddSession` created. -/
structure BFDServer (Addr : Type) where
  manager : Manager Addr
  senderFactory : UDPSenderFactory Addr
  senderPorts : AList fun _ : UInt32 => UInt16

namespace BFDServer

/-- `New(mgr, sf, logger)`: no port recorded yet. -/
def new (m : Manager Addr) (sf : UDPSenderFactory Addr) : BFDServer Addr := ⟨m, sf, ∅⟩

/-- `trackSenderPort(discr, srcPort)`. -/
def trackSenderPort (s : BFDServer Addr) (discr : UInt32) (srcPort : UInt16) : BFDServer Addr :=
  { s with senderPorts := s.senderPorts.insert discr srcPort }

/-- `cleanupSender(discr)`: close the sender recorded for a destroyed
session, if there is one.  A failed close is only logged. -/
def cleanupSender (s : BFDServer Addr) (discr : UInt32) : BFDServer Addr :=
  match s.senderPorts.lookup discr with
  | none => s
  | some srcPort =>
    { s with
      senderPorts := s.senderPorts.erase discr
      senderFactory := s.senderFactory.closeSender srcPort }

variable [DecidableEq Addr]

/-- `DeleteSession(ctx, req)`: destroy the session, then close its sender. -/
def deleteSession (s : BFDServer Addr) (discr : UInt32) : Except (ServerError Addr) Unit × BFDServer Addr :=
  match s.manager.destroySession discr with
  | (.error e, m) => (.error (.manager e), { s with manager := m })
  | (.ok (), m) => (.ok (), ({ s with manager := m } : BFDServer Addr).cleanupSender discr)

section Handlers

variable (dial : UDPSender Addr → Bool) (h : Digests) (ip : NetIP Addr)

/-- `createSessionWithSender(ctx, cfg)`: the sender first, then the session;
a session the manager refuses has its sender closed. -/
def createSessionWithSender (s : BFDServer Addr) (cfg : SessionConfig Addr) :
    Except (ServerError Addr) (Session Addr × UInt16) × BFDServer Addr :=
  match s.senderFactory.createSender dial cfg.localAddr (decide (cfg.type = .multiHop)) with
  | (.error e, f) => (.error (.createSender e), { s with senderFactory := f })
  | (.ok (_, srcPort), f) =>
    match s.manager.createSession h ip cfg with
    | (.error e, m) => (.error (.manager e), { s with manager := m, senderFactory := f.closeSender srcPort })
    | (.ok sess, m) => (.ok (sess, srcPort), { s with manager := m, senderFactory := f })

/-- `AddSession(ctx, req)` on the converted request: the session made, with
its sender's port recorded under its discriminator. -/
def addSession (s : BFDServer Addr) (cfg : SessionConfig Addr) :
    Except (ServerError Addr) (Session Addr) × BFDServer Addr :=
  match s.createSessionWithSender dial h ip cfg with
  | (.error e, s) => (.error e, s)
  | (.ok (sess, srcPort), s) => (.ok sess, s.trackSenderPort sess.localDiscr srcPort)

end Handlers

end BFDServer

/-! ## Handlers between their steps -/

/-- A call of a handler between two of its steps, with what its goroutine
holds.  `AddSession` takes the factory's lock in `CreateSender`, the
manager's in `CreateSession` and `senderPortsMu` in `trackSenderPort`, one
after another; `DeleteSession` takes the manager's in `DestroySession`,
then `senderPortsMu` in `cleanupSender`, and the factory's in its
`CloseSender`. -/
inductive ServerCall (Addr : Type) where
  /-- `createSessionWithSender`, holding the sender of `srcPort`:
  `CreateSession`. -/
  | createSession (cfg : SessionConfig Addr) (srcPort : UInt16)
  /-- `CloseSender(srcPort)`: of the sender a refused `CreateSession` left,
  or of the one `cleanupSender` took off the table. -/
  | closeSender (srcPort : UInt16)
  /-- `trackSenderPort(discr, srcPort)`. -/
  | track (discr : UInt32) (srcPort : UInt16)
  /-- `cleanupSender(discr)` after `DestroySession` returned nil: the lookup
  and the delete under `senderPortsMu`. -/
  | cleanup (discr : UInt32)

/-- The port of the sender a call holds. -/
def ServerCall.port : ServerCall Addr → Option UInt16
  | .createSession _ srcPort | .closeSender srcPort | .track _ srcPort => some srcPort
  | .cleanup _ => none

namespace BFDServer

/-- The ports `senderPorts` records, one per discriminator. -/
def recorded (s : BFDServer Addr) : List UInt16 := s.senderPorts.entries.map Sigma.snd

/-- `AddSession` up to its first step, `CreateSender`: the error it answers
with when there is no sender, or the call, holding the sender, on its way
to `CreateSession`. -/
def startAddSession (dial : UDPSender Addr → Bool) (s : BFDServer Addr) (cfg : SessionConfig Addr) :
    BFDServer Addr × Except (ServerError Addr) (ServerCall Addr) :=
  match s.senderFactory.createSender dial cfg.localAddr (decide (cfg.type = .multiHop)) with
  | (.error e, f) => ({ s with senderFactory := f }, .error (.createSender e))
  | (.ok (_, srcPort), f) => ({ s with senderFactory := f }, .ok (.createSession cfg srcPort))

/-- `DeleteSession` up to its first step, `DestroySession`. -/
def startDeleteSession [DecidableEq Addr] (s : BFDServer Addr) (discr : UInt32) :
    BFDServer Addr × Except (ServerError Addr) (ServerCall Addr) :=
  match s.manager.destroySession discr with
  | (.error e, m) => ({ s with manager := m }, .error (.manager e))
  | (.ok (), m) => ({ s with manager := m }, .ok (.cleanup discr))

end BFDServer

section Steps

variable [DecidableEq Addr] (h : Digests) (ip : NetIP Addr)

/-- The next step of a call: the server it leaves, and the call's next
point, `none` once the handler returns. -/
def ServerCall.step (s : BFDServer Addr) : ServerCall Addr → BFDServer Addr × Option (ServerCall Addr)
  | .createSession cfg srcPort =>
    match s.manager.createSession h ip cfg with
    | (.error _, m) => ({ s with manager := m }, some (.closeSender srcPort))
    | (.ok sess, m) => ({ s with manager := m }, some (.track sess.localDiscr srcPort))
  | .closeSender srcPort => ({ s with senderFactory := s.senderFactory.closeSender srcPort }, none)
  | .track discr srcPort => (s.trackSenderPort discr srcPort, none)
  | .cleanup discr =>
    -- `CloseSender` runs after `senderPortsMu` is given back
    match s.senderPorts.lookup discr with
    | none => (s, none)
    | some srcPort => ({ s with senderPorts := s.senderPorts.erase discr }, some (.closeSender srcPort))

/-- A call run to its end with no other step in between: after its first
step, two more steps end every call. -/
def ServerCall.finish (s : BFDServer Addr) (c : ServerCall Addr) : BFDServer Addr :=
  match c.step h ip s with
  | (s₁, none) => s₁
  | (s₁, some c₁) => (c₁.step h ip s₁).1

namespace BFDServer

variable (dial : UDPSender Addr → Bool)

/-- Run alone, the steps of `AddSession` are the handler's code. -/
theorem addSession_phases (s : BFDServer Addr) (cfg : SessionConfig Addr) :
    (s.addSession dial h ip cfg).2 =
      match s.startAddSession dial cfg with
      | (s₁, .ok c) => c.finish h ip s₁
      | (s₁, .error _) => s₁ := by
  unfold addSession createSessionWithSender startAddSession
  rcases s.senderFactory.createSender dial cfg.localAddr (decide (cfg.type = .multiHop)) with
    ⟨_ | ⟨sender, p⟩, f⟩
  · rfl
  · -- `CreateSession`, then `CloseSender` or `trackSenderPort`
    dsimp only
    unfold ServerCall.finish ServerCall.step
    dsimp only
    rcases s.manager.createSession h ip cfg with ⟨_ | sess, m⟩ <;> rfl

/-- Run alone, the steps of `DeleteSession` are the handler's code. -/
theorem deleteSession_phases (s : BFDServer Addr) (discr : UInt32) :
    (s.deleteSession discr).2 =
      match s.startDeleteSession discr with
      | (s₁, .ok c) => c.finish h ip s₁
      | (s₁, .error _) => s₁ := by
  unfold deleteSession startDeleteSession
  rcases s.manager.destroySession discr with ⟨_ | ⟨⟩, m⟩
  · rfl
  · -- the lookup and delete of `cleanupSender`, then its `CloseSender`
    dsimp only
    unfold ServerCall.finish ServerCall.step cleanupSender
    dsimp only
    cases s.senderPorts.lookup discr <;> rfl

variable (s : BFDServer Addr)

omit [DecidableEq Addr] in
theorem startAddSession_manager (cfg : SessionConfig Addr) :
    (s.startAddSession dial cfg).1.manager = s.manager := by
  unfold startAddSession
  split <;> rfl

theorem startDeleteSession_manager (discr : UInt32) :
    (s.startDeleteSession discr).1.manager = (s.manager.destroySession discr).2 := by
  unfold startDeleteSession
  split <;> rename_i hd <;> rw [hd]

omit [DecidableEq Addr] in
/-- With the range used up `AddSession` fails at its first step, with the
factory's `ErrPortExhausted`, and changes nothing. -/
theorem startAddSession_of_le_card
    (hc : s.senderFactory.portAlloc.portSpan ≤ s.senderFactory.portAlloc.inUse.card) (cfg : SessionConfig Addr) :
    s.startAddSession dial cfg =
      (s, .error (.createSender (.allocateSourcePort (.portExhausted s.senderFactory.portAlloc.portSpan)))) := by
  simp only [startAddSession, UDPSenderFactory.createSender_of_le_card dial hc]

end BFDServer

/-- The next step of a call leaves the manager as it was, or as
`CreateSession` leaves it. -/
theorem ServerCall.step_manager (s : BFDServer Addr) (c : ServerCall Addr) :
    (c.step h ip s).1.manager = s.manager ∨ ∃ cfg, (c.step h ip s).1.manager = (s.manager.createSession h ip cfg).2 := by
  cases c with
  | createSession cfg p =>
    refine .inr ⟨cfg, ?_⟩
    simp only [ServerCall.step]
    split <;> rename_i hcs <;> rw [hcs]
  | closeSender p => exact .inl rfl
  | track d p => exact .inl rfl
  | cleanup d =>
    left
    simp only [ServerCall.step]
    split <;> rfl

/-- The server with the calls of its handlers in progress. -/
structure ServerRuntime (Addr : Type) where
  server : BFDServer Addr
  calls : List (ServerCall Addr)

namespace ServerRuntime

/-- The ports of the senders the calls in progress hold. -/
def held (rt : ServerRuntime Addr) : List UInt16 := rt.calls.filterMap ServerCall.port

/-- The ports the server knows of: those `senderPorts` records, then those
its calls hold. -/
def ports (rt : ServerRuntime Addr) : List UInt16 := rt.server.recorded ++ rt.held

/-- A new server, before any request. -/
def init (rand : List UInt32) (frand : List Nat) : ServerRuntime Addr :=
  ⟨BFDServer.new (newManager rand) (newUDPSenderFactory frand), []⟩

/-- One step of one goroutine: a request arrives and its handler takes its
first step (with the kernel's answer `dial` to the socket of
`AddSession`), a call in progress takes its next step, or a session
goroutine takes a step. -/
inductive Step : ServerRuntime Addr → ServerRuntime Addr → Prop
  | addSession (rt : ServerRuntime Addr) (dial : UDPSender Addr → Bool) (cfg : SessionConfig Addr) :
      Step rt ⟨(rt.server.startAddSession dial cfg).1,
        rt.calls ++ (rt.server.startAddSession dial cfg).2.toOption.toList⟩
  | deleteSession (rt : ServerRuntime Addr) (discr : UInt32) :
      Step rt ⟨(rt.server.startDeleteSession discr).1,
        rt.calls ++ (rt.server.startDeleteSession discr).2.toOption.toList⟩
  | advance {rt : ServerRuntime Addr} (pre post : List (ServerCall Addr)) (c : ServerCall Addr)
      (hc : rt.calls = pre ++ c :: post) :
      Step rt ⟨(c.step h ip rt.server).1, pre ++ (c.step h ip rt.server).2.toList ++ post⟩
  | session {rt : ServerRuntime Addr} {discr : UInt32} {e : SessionEntry Addr} {sess : Session Addr}
      (he : rt.server.manager.sessions.lookup discr = some e) (hs : Session.Step h e.session sess) :
      Step rt ⟨{ rt.server with manager := rt.server.manager.storeSession discr e sess }, rt.calls⟩

/-- The states of every interleaving from a new manager and a new factory. -/
def Reachable (rt : ServerRuntime Addr) : Prop :=
  ∃ rand frand, Relation.ReflTransGen (Step h ip) (init rand frand) rt

end ServerRuntime

/-- A step of the handlers as an event: a request arrives, or the call at
position `i` of the calls in progress takes its next step. -/
inductive ServerEvent (Addr : Type) where
  | addSession (dial : UDPSender Addr → Bool) (cfg : SessionConfig Addr)
  | deleteSession (discr : UInt32)
  | advance (i : Nat)

namespace ServerRuntime

/-- One step of the handlers, as a function of the event. -/
def fire (rt : ServerRuntime Addr) : ServerEvent Addr → Option (ServerRuntime Addr)
  | .addSession dial cfg =>
    some ⟨(rt.server.startAddSession dial cfg).1, rt.calls ++ (rt.server.startAddSession dial cfg).2.toOption.toList⟩
  | .deleteSession discr =>
    some ⟨(rt.server.startDeleteSession discr).1, rt.calls ++ (rt.server.startDeleteSession discr).2.toOption.toList⟩
  | .advance i =>
    match rt.calls[i]? with
    | some c =>
      some ⟨(c.step h ip rt.server).1, rt.calls.take i ++ (c.step h ip rt.server).2.toList ++ rt.calls.drop (i + 1)⟩
    | none => none

theorem fire_step {rt rt' : ServerRuntime Addr} {ev : ServerEvent Addr} (hf : rt.fire h ip ev = some rt') :
    Step h ip rt rt' := by
  cases ev with
  | addSession dial cfg =>
    cases hf
    exact .addSession rt dial cfg
  | deleteSession discr =>
    cases hf
    exact .deleteSession rt discr
  | advance i =>
    simp only [fire] at hf
    split at hf
    · rename_i c hc
      cases hf
      -- the call at `i` splits the list in two
      obtain ⟨hi, rfl⟩ := List.getElem?_eq_some_iff.mp hc
      refine .advance _ _ _ ?_
      rw [← List.drop_eq_getElem_cons hi, List.take_append_drop]
    · cases hf

/-- The steps of a list of events, in order. -/
def runEvents (rt : ServerRuntime Addr) : List (ServerEvent Addr) → Option (ServerRuntime Addr)
  | [] => some rt
  | ev :: evs => (rt.fire h ip ev).bind fun rt' => rt'.runEvents evs

theorem runEvents_reachable {rand : List UInt32} {frand : List Nat} {evs : List (ServerEvent Addr)}
    {rt : ServerRuntime Addr} (hr : (init rand frand).runEvents h ip evs = some rt) : rt.Reachable h ip := by
  refine ⟨rand, frand, ?_⟩
  -- the run, one event after another
  suffices hs : ∀ (rt₀ : ServerRuntime Addr) evs, rt₀.runEvents h ip evs = some rt →
      Relation.ReflTransGen (Step h ip) rt₀ rt from hs _ evs hr
  intro rt₀ evs hr₀
  induction evs generalizing rt₀ with
  | nil =>
    cases hr₀
    exact .refl
  | cons ev evs ih =>
    obtain ⟨rt₁, hf, hrest⟩ := Option.bind_eq_some_iff.mp hr₀
    exact .head (fire_step h ip hf) (ih rt₁ hrest)

end ServerRuntime

end Steps

/-! ## Where the ports are -/

namespace BFDServer

variable {s : BFDServer Addr}

theorem mem_recorded {p : UInt16} : p ∈ s.recorded ↔ ∃ d, s.senderPorts.lookup d = some p := by
  simp only [recorded, List.mem_map]
  constructor
  · rintro ⟨⟨d, q⟩, hq, rfl⟩
    exact ⟨d, AList.mem_lookup_iff.mpr hq⟩
  · rintro ⟨d, hd⟩
    exact ⟨⟨d, p⟩, AList.mem_lookup_iff.mp hd, rfl⟩

theorem length_recorded : s.recorded.length = s.senderPorts.keys.length := by
  simp only [recorded, AList.keys, List.keys, List.length_map]

/-- The record a discriminator had, taken off the table. -/
theorem recorded_perm_erase {d : UInt32} {p : UInt16} (hd : s.senderPorts.lookup d = some p) :
    s.recorded.Perm (p :: ({ s with senderPorts := s.senderPorts.erase d } : BFDServer Addr).recorded) := by
  have hk : d ∈ s.senderPorts.entries.keys := AList.lookup_isSome.mp (by rw [hd]; rfl)
  obtain ⟨b, l₁, l₂, -, he, hker⟩ := List.exists_of_kerase hk
  -- the entry split off is the record of `d`
  have hb : b = p := by
    have hmem : Sigma.mk d b ∈ s.senderPorts.entries := by
      rw [he]
      exact List.mem_append_right _ List.mem_cons_self
    exact Option.some.inj ((AList.mem_lookup_iff.mpr hmem).symm.trans hd)
  subst hb
  show (s.senderPorts.entries.map Sigma.snd).Perm (b :: (s.senderPorts.entries.kerase d).map Sigma.snd)
  rw [hker, he, List.map_append, List.map_cons, List.map_append]
  exact List.perm_middle

theorem recorded_erase_of_none {d : UInt32} (hd : s.senderPorts.lookup d = none) :
    ({ s with senderPorts := s.senderPorts.erase d } : BFDServer Addr).recorded = s.recorded := by
  simp only [recorded, AList.erase, List.kerase_of_notMem_keys (AList.lookup_eq_none.mp hd)]

theorem recorded_trackSenderPort (d : UInt32) (p : UInt16) :
    (s.trackSenderPort d p).recorded = p :: ({ s with senderPorts := s.senderPorts.erase d } : BFDServer Addr).recorded :=
  rfl

end BFDServer

namespace ServerRuntime

@[simp] theorem ports_mk (s : BFDServer Addr) (calls : List (ServerCall Addr)) :
    (⟨s, calls⟩ : ServerRuntime Addr).ports = s.recorded ++ calls.filterMap ServerCall.port := rfl

variable [DecidableEq Addr]

/-- Each port in use is recorded in `senderPorts` or held by a call in
progress, in one place only, or is in `O`: in use, and neither. -/
structure Accounts (rt : ServerRuntime Addr) (O : Finset UInt16) : Prop where
  manager : rt.server.manager.Valid
  factory : rt.server.senderFactory.Valid
  nodup : rt.ports.Nodup
  inUse : rt.server.senderFactory.portAlloc.inUse = rt.ports.toFinset ∪ O
  disjoint : Disjoint rt.ports.toFinset O

theorem init_accounts (rand : List UInt32) (frand : List Nat) : (init rand frand : ServerRuntime Addr).Accounts ∅ where
  manager := newManager_valid rand
  factory := UDPSenderFactory.newUDPSenderFactory_valid frand
  nodup := by simp [init, BFDServer.new, BFDServer.recorded]
  inUse := by simp [init, BFDServer.new, BFDServer.recorded, newUDPSenderFactory, newSourcePortAllocator]
  disjoint := Finset.disjoint_empty_right _

section Keeps

variable {rt rt' : ServerRuntime Addr} {O : Finset UInt16}

theorem Accounts.mem_of_ports (ha : rt.Accounts O) {p : UInt16} (hp : p ∈ rt.ports.toFinset) :
    p ∈ rt.server.senderFactory.portAlloc.inUse := by
  rw [ha.inUse]
  exact Finset.mem_union_left _ hp

theorem Accounts.subset_inUse (ha : rt.Accounts O) : O ⊆ rt.server.senderFactory.portAlloc.inUse := by
  intro p hp
  rw [ha.inUse]
  exact Finset.mem_union_right _ hp

/-- The same ports, in another order or other places: the accounting
holds. -/
theorem Accounts.perm (ha : rt.Accounts O) (hm : rt'.server.manager.Valid) (hf : rt'.server.senderFactory.Valid)
    (hp : rt'.ports.Perm rt.ports)
    (hu : rt'.server.senderFactory.portAlloc.inUse = rt.server.senderFactory.portAlloc.inUse) :
    rt'.Accounts O where
  manager := hm
  factory := hf
  nodup := hp.nodup_iff.mpr ha.nodup
  inUse := by rw [hu, ha.inUse, List.toFinset_eq_of_perm _ _ hp]
  disjoint := by
    rw [List.toFinset_eq_of_perm _ _ hp]
    exact ha.disjoint

/-- A port a call takes from the factory: it was free, and it is held. -/
theorem Accounts.take (ha : rt.Accounts O) (hm : rt'.server.manager.Valid) (hf : rt'.server.senderFactory.Valid)
    {p : UInt16} (hp : rt'.ports.Perm (p :: rt.ports)) (hfree : p ∉ rt.server.senderFactory.portAlloc.inUse)
    (hu : rt'.server.senderFactory.portAlloc.inUse = insert p rt.server.senderFactory.portAlloc.inUse) :
    rt'.Accounts O where
  manager := hm
  factory := hf
  nodup := hp.nodup_iff.mpr
    (List.nodup_cons.mpr ⟨fun hmem => hfree (ha.mem_of_ports (List.mem_toFinset.mpr hmem)), ha.nodup⟩)
  inUse := by rw [hu, ha.inUse, List.toFinset_eq_of_perm _ _ hp, List.toFinset_cons, Finset.insert_union]
  disjoint := by
    rw [List.toFinset_eq_of_perm _ _ hp, List.toFinset_cons, Finset.disjoint_insert_left]
    exact ⟨fun hO => hfree (ha.subset_inUse hO), ha.disjoint⟩

/-- A port that leaves the tables: the ports left are those the server
knows of but it, and none of them is in `O`. -/
theorem Accounts.drop (ha : rt.Accounts O) {p : UInt16} {ports : List UInt16} (hp : (p :: ports).Perm rt.ports) :
    p ∉ ports ∧ ports.Nodup ∧ insert p ports.toFinset = rt.ports.toFinset ∧ p ∉ O ∧
      Disjoint ports.toFinset O := by
  have hnd := List.nodup_cons.mp (hp.nodup_iff.mpr ha.nodup)
  have hto := List.toFinset_eq_of_perm _ _ hp
  rw [List.toFinset_cons] at hto
  have hd := ha.disjoint
  rw [← hto, Finset.disjoint_insert_left] at hd
  exact ⟨hnd.1, hnd.2, hto, hd.1, hd.2⟩

/-- A port whose sender a call closes: it leaves the tables and the ports
in use. -/
theorem Accounts.give (ha : rt.Accounts O) (hm : rt'.server.manager.Valid) (hf : rt'.server.senderFactory.Valid)
    {p : UInt16} (hp : (p :: rt'.ports).Perm rt.ports)
    (hu : rt'.server.senderFactory.portAlloc.inUse = rt.server.senderFactory.portAlloc.inUse.erase p) :
    rt'.Accounts O := by
  obtain ⟨hnp, hnd, hto, hpO, hd⟩ := ha.drop hp
  refine ⟨hm, hf, hnd, ?_, hd⟩
  rw [hu, ha.inUse, ← hto, Finset.insert_union, Finset.erase_insert]
  rw [Finset.mem_union, not_or]
  exact ⟨fun hmem => hnp (List.mem_toFinset.mp hmem), hpO⟩

/-- A port that leaves the tables but stays in use: it joins `O`. -/
theorem Accounts.lose (ha : rt.Accounts O) (hm : rt'.server.manager.Valid) (hf : rt'.server.senderFactory.Valid)
    {p : UInt16} (hp : (p :: rt'.ports).Perm rt.ports)
    (hu : rt'.server.senderFactory.portAlloc.inUse = rt.server.senderFactory.portAlloc.inUse) :
    rt'.Accounts (insert p O) := by
  obtain ⟨hnp, hnd, hto, -, hd⟩ := ha.drop hp
  refine ⟨hm, hf, hnd, ?_, ?_⟩
  · rw [hu, ha.inUse, ← hto, Finset.insert_union, Finset.union_insert]
  · rw [Finset.disjoint_insert_right]
    exact ⟨fun hmem => hnp (List.mem_toFinset.mp hmem), hd⟩

/-- A port taken from the factory that no record and no call holds: it
joins `O`. -/
theorem Accounts.orphan (ha : rt.Accounts O) (hm : rt'.server.manager.Valid) (hf : rt'.server.senderFactory.Valid)
    {p : UInt16} (hp : rt'.ports.Perm rt.ports) (hfree : p ∉ rt.server.senderFactory.portAlloc.inUse)
    (hu : rt'.server.senderFactory.portAlloc.inUse = insert p rt.server.senderFactory.portAlloc.inUse) :
    rt'.Accounts (insert p O) where
  manager := hm
  factory := hf
  nodup := hp.nodup_iff.mpr ha.nodup
  inUse := by rw [hu, ha.inUse, List.toFinset_eq_of_perm _ _ hp, Finset.union_insert]
  disjoint := by
    rw [List.toFinset_eq_of_perm _ _ hp, Finset.disjoint_insert_right]
    exact ⟨fun hmem => hfree (ha.mem_of_ports hmem), ha.disjoint⟩

theorem Accounts.mem_inUse (ha : rt.Accounts O) (p : UInt16) :
    p ∈ rt.server.senderFactory.portAlloc.inUse ↔
      (∃ d, rt.server.senderPorts.lookup d = some p) ∨ p ∈ rt.held ∨ p ∈ O := by
  rw [ha.inUse, Finset.mem_union, List.mem_toFinset, ports, List.mem_append, BFDServer.mem_recorded, or_assoc]

/-- The ports in use are as many as the records, the held ports and the
ports of `O` together. -/
theorem Accounts.card_inUse (ha : rt.Accounts O) :
    rt.server.senderFactory.portAlloc.inUse.card =
      rt.server.senderPorts.keys.length + rt.held.length + O.card := by
  rw [ha.inUse, Finset.card_union_of_disjoint ha.disjoint, List.toFinset_card_of_nodup ha.nodup, ports,
    List.length_append, BFDServer.length_recorded]

end Keeps

section Steps

variable (h : Digests) (ip : NetIP Addr) {rt : ServerRuntime Addr} {O : Finset UInt16}

/-- The first step of `AddSession` takes a port for the call, or none. -/
theorem Accounts.startAddSession (ha : rt.Accounts O) (dial : UDPSender Addr → Bool) (cfg : SessionConfig Addr) :
    (⟨(rt.server.startAddSession dial cfg).1,
      rt.calls ++ (rt.server.startAddSession dial cfg).2.toOption.toList⟩ : ServerRuntime Addr).Accounts O := by
  have hvf := ha.factory.createSender dial cfg.localAddr (decide (cfg.type = .multiHop))
  unfold BFDServer.startAddSession
  rcases hc : rt.server.senderFactory.createSender dial cfg.localAddr (decide (cfg.type = .multiHop)) with
    ⟨e | ⟨sender, p⟩, f⟩ <;> rw [hc] at hvf
  · -- no sender: the ports in use are as they were
    obtain ⟨hpa, -⟩ := UDPSenderFactory.createSenderForSession_eq_error dial
      (UDPSenderFactory.createSender_eq_error dial hc)
    refine ha.perm ha.manager hvf ?_ (by dsimp only; rw [hpa])
    simp [ports, held, BFDServer.recorded, Except.toOption]
  · obtain ⟨hc', rfl⟩ := UDPSenderFactory.createSender_eq_ok dial hc
    obtain ⟨hfree, -, hin, -⟩ := UDPSenderFactory.createSenderForSession_eq_ok dial hc'
    refine ha.take ha.manager hvf ?_ hfree hin
    -- the call holds the new port, at the end of the list
    simp only [ports_mk, Except.toOption, Option.toList_some, List.filterMap_append, List.filterMap_cons,
      ServerCall.port, List.filterMap_nil, ← List.append_assoc]
    exact List.perm_append_singleton _ _

/-- The first step of `DeleteSession` changes the manager only. -/
theorem Accounts.startDeleteSession (ha : rt.Accounts O) (discr : UInt32) :
    (⟨(rt.server.startDeleteSession discr).1,
      rt.calls ++ (rt.server.startDeleteSession discr).2.toOption.toList⟩ : ServerRuntime Addr).Accounts O := by
  have hvm := ha.manager.destroySession discr
  unfold BFDServer.startDeleteSession
  rcases hd : rt.server.manager.destroySession discr with ⟨e | ⟨⟩, m⟩ <;> rw [hd] at hvm <;>
    refine ha.perm hvm ha.factory ?_ rfl <;>
    simp [ports, held, ServerCall.port, BFDServer.recorded, Except.toOption, List.filterMap_cons]

/-- The next step of a call keeps the accounting; a `trackSenderPort` that
overwrites a record loses the port recorded. -/
theorem Accounts.advance (ha : rt.Accounts O) {pre post : List (ServerCall Addr)} {c : ServerCall Addr}
    (hc : rt.calls = pre ++ c :: post) :
    ∃ O', O ⊆ O' ∧
      (⟨(c.step h ip rt.server).1, pre ++ (c.step h ip rt.server).2.toList ++ post⟩ : ServerRuntime Addr).Accounts O' := by
  have hports : rt.ports = rt.server.recorded ++ (pre.filterMap ServerCall.port ++
      (c.port.toList ++ post.filterMap ServerCall.port)) := by
    rw [ports, held, hc, List.filterMap_append, List.filterMap_cons]
    cases c.port <;> rfl
  -- a port among the held ones, brought to the front
  have mid : ∀ (R A B : List UInt16) (p : UInt16), (R ++ (A ++ p :: B)).Perm (p :: (R ++ (A ++ B))) :=
    fun R _ _ _ => (List.perm_middle.append_left R).trans List.perm_middle
  cases c with
  | createSession cfg p =>
    -- the manager's answer decides the next step; the call keeps its port
    have hvm := ha.manager.createSession h ip cfg
    refine ⟨O, subset_rfl, ?_⟩
    simp only [ServerCall.step]
    rcases hcs : rt.server.manager.createSession h ip cfg with ⟨_ | sess, m⟩ <;> rw [hcs] at hvm <;>
      refine ha.perm hvm ha.factory ?_ rfl <;>
      simp [hports, ServerCall.port, BFDServer.recorded]
  | closeSender p =>
    refine ⟨O, subset_rfl, ha.give ha.manager (ha.factory.closeSender p) ?_ (ha.factory.closeSender_inUse p)⟩
    rw [ServerCall.port, Option.toList_some, List.singleton_append] at hports
    simp only [ServerCall.step, ports_mk, hports, Option.toList_none, List.append_nil, List.filterMap_append,
      BFDServer.recorded]
    exact (mid _ _ _ p).symm
  | track d p =>
    simp only [ServerCall.step, Option.toList_none, List.append_nil]
    rw [ServerCall.port, Option.toList_some, List.singleton_append] at hports
    cases hd : rt.server.senderPorts.lookup d with
    | none =>
      -- a new record: the port moves from the call to the table
      refine ⟨O, subset_rfl, ha.perm ha.manager ha.factory ?_ rfl⟩
      rw [ports_mk, BFDServer.recorded_trackSenderPort, BFDServer.recorded_erase_of_none hd, hports,
        List.filterMap_append, List.cons_append]
      exact (mid _ _ _ p).symm
    | some q =>
      -- the record is overwritten: its port stays in use, and nothing holds it any more
      refine ⟨insert q O, Finset.subset_insert q O, ?_⟩
      apply ha.lose
      · exact ha.manager
      · exact ha.factory
      · rw [ports_mk, BFDServer.recorded_trackSenderPort, hports, List.filterMap_append, List.cons_append]
        have he := BFDServer.recorded_perm_erase hd
        exact (List.Perm.swap p q _).trans ((((he.append_right _).symm).cons p).trans (mid _ _ _ p).symm)
      · rfl
  | cleanup d =>
    simp only [ServerCall.step]
    rw [ServerCall.port, Option.toList_none, List.nil_append] at hports
    cases hd : rt.server.senderPorts.lookup d with
    | none =>
      refine ⟨O, subset_rfl, ha.perm ha.manager ha.factory ?_ rfl⟩
      simp [hports]
    | some p =>
      -- the port moves from the table to the call that closes it
      refine ⟨O, subset_rfl, ha.perm ha.manager ha.factory ?_ rfl⟩
      have he := BFDServer.recorded_perm_erase hd
      dsimp only
      rw [ports_mk, hports]
      simp only [List.filterMap_append, ServerCall.port, List.append_assoc]
      exact (mid _ _ _ p).trans (he.symm.append_right _)

/-- Every step keeps the accounting, and the ports that no record and no
call holds only ever grow. -/
theorem Step.accounts {rt' : ServerRuntime Addr} (hs : Step h ip rt rt') (ha : rt.Accounts O) :
    ∃ O', O ⊆ O' ∧ rt'.Accounts O' := by
  cases hs with
  | addSession dial cfg => exact ⟨O, subset_rfl, ha.startAddSession dial cfg⟩
  | deleteSession discr => exact ⟨O, subset_rfl, ha.startDeleteSession discr⟩
  | advance pre post c hc => exact ha.advance h ip hc
  | session he hs =>
    -- a session goroutine refiles its record under the same discriminator
    exact ⟨O, subset_rfl, ha.perm (ha.manager.storeSession he (Session.Step.identity h hs)) ha.factory
      (List.Perm.refl _) rfl⟩

theorem Accounts.run {rt' : ServerRuntime Addr} (ha : rt.Accounts O)
    (hrun : Relation.ReflTransGen (Step h ip) rt rt') : ∃ O', O ⊆ O' ∧ rt'.Accounts O' := by
  induction hrun with
  | refl => exact ⟨O, subset_rfl, ha⟩
  | tail _ hs ih =>
    obtain ⟨O₁, hO₁, ha₁⟩ := ih
    obtain ⟨O₂, hO₂, ha₂⟩ := hs.accounts h ip ha₁
    exact ⟨O₂, hO₁.trans hO₂, ha₂⟩

end Steps

end ServerRuntime

section Ports

variable [DecidableEq Addr] (h : Digests) (ip : NetIP Addr)

/-- Along every interleaving of the steps of `AddSession`, `DeleteSession`
and the session goroutines from a new server, whatever the kernel and the
random sources do: each port in use is recorded in `senderPorts`, held by
a call between two of its steps, or lost; no port is in two of these
places or twice in one, so the ports in use are as many as the records,
the held ports and the lost ports together; and a lost port stays in use
along every continuation, since no call will close its sender. -/
theorem server_ports_accounted {rt : ServerRuntime Addr} (hr : rt.Reachable h ip) :
    ∃ lost : Finset UInt16,
      (∀ p, p ∈ rt.server.senderFactory.portAlloc.inUse ↔
        (∃ d, rt.server.senderPorts.lookup d = some p) ∨ p ∈ rt.held ∨ p ∈ lost) ∧
      rt.server.senderFactory.portAlloc.inUse.card =
        rt.server.senderPorts.keys.length + rt.held.length + lost.card ∧
      ∀ rt', Relation.ReflTransGen (ServerRuntime.Step h ip) rt rt' →
        lost ⊆ rt'.server.senderFactory.portAlloc.inUse := by
  obtain ⟨rand, frand, hrun⟩ := hr
  obtain ⟨lost, -, ha⟩ := (ServerRuntime.init_accounts rand frand).run h ip hrun
  refine ⟨lost, ha.mem_inUse, ha.card_inUse, fun rt' hrun' => ?_⟩
  -- nothing holds a lost port, so no later step closes its sender
  obtain ⟨O', hsub, ha'⟩ := ha.run h ip hrun'
  exact hsub.trans ha'.subset_inUse

/-- An `AddSession` from 10.0.0.2 to 10.0.0.1 takes port 49155 and files
its session under 7; a `DeleteSession` of 7 runs before its
`trackSenderPort` and finds no port to close.  Once both have returned
the session is gone and its port is still in use, recorded under 7. -/
theorem server_ports_accounted_leak :
    ∃ rt : ServerRuntime (Option (List UInt8)), rt.Reachable lengthDigests ipv4 ∧ rt.calls = [] ∧
      rt.server.manager.sessions.keys = [] ∧ rt.server.senderPorts.lookup 7 = some 49155 ∧
      rt.server.senderFactory.portAlloc.inUse.card = 1 ∧
      ∃ lost : Finset UInt16,
        (∀ p, p ∈ rt.server.senderFactory.portAlloc.inUse ↔
          (∃ d, rt.server.senderPorts.lookup d = some p) ∨ p ∈ rt.held ∨ p ∈ lost) ∧
        rt.server.senderFactory.portAlloc.inUse.card =
          rt.server.senderPorts.keys.length + rt.held.length + lost.card ∧
        ∀ rt', Relation.ReflTransGen (ServerRuntime.Step lengthDigests ipv4) rt rt' →
          lost ⊆ rt'.server.senderFactory.portAlloc.inUse := by
  -- `CreateSender`, `CreateSession`, `DestroySession`, `cleanupSender`, `trackSenderPort`
  have hrun : ((ServerRuntime.init [7] [3] : ServerRuntime (Option (List UInt8))).runEvents lengthDigests ipv4
      [.addSession (fun _ => true) (plainSessionConfig (some [10, 0, 0, 1]) (some [10, 0, 0, 2]) "eth0"),
        .advance 0, .deleteSession 7, .advance 1, .advance 0]).any (fun rt => decide (rt.calls.length = 0 ∧
        rt.server.manager.sessions.keys = [] ∧ rt.server.senderPorts.lookup 7 = some 49155 ∧
        rt.server.senderFactory.portAlloc.inUse.card = 1)) = true := by
    decide +kernel
  obtain ⟨rt, hrt, hp⟩ := (Option.any_eq_true _ _).mp hrun
  obtain ⟨hc, hk, hl, hn⟩ := of_decide_eq_true hp
  have hr := ServerRuntime.runEvents_reachable lengthDigests ipv4 hrt
  exact ⟨rt, hr, List.length_eq_zero_iff.mp hc, hk, hl, hn, server_ports_accounted lengthDigests ipv4 hr⟩

end Ports

end GoBFD
