import GoBFD.Server
import GoBFD.Echo.Manager

/-!
# GoBFD.Server.Echo

The echo service of `internal/server/echo.go`, which `newGRPCServer`
(`cmd/gobfd/shutdown.go`) mounts beside the BFD service over the same
manager and the same sender factory.  `AddEchoSession` asks the factory for
a sender, drops the port it returns, and creates the echo session; a session
the manager refuses keeps its sender.  `DeleteEchoSession` destroys the echo
session and closes nothing.

`Services` is the state the two services share, with the calls of the BFD
service's handlers in progress.  `Services.Step` is one step of the BFD
service's handlers (`ServerRuntime.Step`: each locked section of
`AddSession` and `DeleteSession` apart), a call of a handler of the echo
service, or a step of a session goroutine or of the echo receiver, indexed
by the ports it takes from the factory that nothing gives back;
`Services.Run` adds these up along an interleaving.

* `Services.Accounts`: the BFD service's accounting holds, and every echo
  session holds an allocated discriminator that no control session holds.
  A sender made for an echo session joins the ports nothing holds.
* `echo_ports_never_returned`: along every interleaving from a new manager
  and a new factory, each port in use is recorded by the BFD service, held
  by a call of it in progress, or in a set of ports that stays in use along
  every continuation, with at least one port per `AddEchoSession` that got
  a sender, however many echo sessions were deleted or refused since; once
  the ports in use reach the 16384 of the range, every `AddSession` and
  every `AddEchoSession` fails with `ErrPortExhausted` and changes nothing.

Requests arrive converted: `echoSessionConfigFromProto` and the response
built from the snapshot are not modelled.
-/

namespace GoBFD

open Go

variable {Addr : Type}

/-- The errors of the echo handlers. -/
inductive EchoServerError (Addr : Type) where
  /-- "create echo sender: %w", which `mapManagerError` maps to `CodeInternal`. -/
  | createEchoSender (e : SenderError Addr)
  /-- An error of the manager's echo methods, mapped by `mapManagerError`. -/
  | echoManager (e : EchoManagerError)
  /-- "echo session %d created but not visible in snapshot: %w" over
  `ErrEchoSessionNotFound`. -/
  | notVisible (discr : UInt32)

/-- The code the echo handlers answer with.  Of the echo sentinels
`mapManagerError` knows `ErrInvalidDetectMult` only: a missing echo session
is `CodeInternal`. -/
def EchoServerError.code : EchoServerError Addr → Code
  | .createEchoSender _ => .internal
  | .echoManager (.manager e) => mapManagerError e
  | .echoManager (.echo (.invalidDetectMult _)) => .invalidArgument
  | .echoManager _ => .internal
  | .notVisible _ => .internal

/-- The state of the BFD and echo services: the manager with its echo
sessions, the one sender factory both use, the ports the BFD service
records, and the calls of the BFD service's handlers in progress. -/
structure Services (Addr : Type) where
  echoManager : EchoManager Addr
  senderFactory : UDPSenderFactory Addr
  senderPorts : AList fun _ : UInt32 => UInt16
  calls : List (ServerCall Addr)

namespace Services

/-- `newGRPCServer(cfg, mgr, sf, logger)`: `New` and `NewEcho` over `mgr`
and `sf`. -/
def new (em : EchoManager Addr) (sf : UDPSenderFactory Addr) : Services Addr := ⟨em, sf, ∅, []⟩

/-- What the BFD service sees. -/
def bfd (s : Services Addr) : BFDServer Addr := ⟨s.echoManager.manager, s.senderFactory, s.senderPorts⟩

/-- The BFD service with its calls in progress. -/
def runtime (s : Services Addr) : ServerRuntime Addr := ⟨s.bfd, s.calls⟩

/-- The state a step of the BFD service leaves. -/
def withRuntime (s : Services Addr) (rt : ServerRuntime Addr) : Services Addr :=
  ⟨{ s.echoManager with manager := rt.server.manager }, rt.server.senderFactory, rt.server.senderPorts, rt.calls⟩

section Handlers

variable (dial : UDPSender Addr → Bool) (ip : NetIP Addr)

/-- `AddEchoSession(ctx, req)` on the converted request: a single-hop sender
for the local address, its port dropped, then the echo session, answered
with the snapshot filed under its discriminator. -/
def addEchoSession (s : Services Addr) (cfg : EchoSessionConfig Addr) :
    Except (EchoServerError Addr) UInt32 × Services Addr :=
  match s.senderFactory.createSender dial cfg.localAddr false with
  | (.error e, f) => (.error (.createEchoSender e), { s with senderFactory := f })
  | (.ok _, f) =>
    -- a session the manager refuses leaves the sender open
    match s.echoManager.createEchoSession ip cfg with
    | (.error e, em) => (.error (.echoManager e), { s with echoManager := em, senderFactory := f })
    | (.ok discr, em) =>
      match em.echoSessions.lookup discr with
      | some _ => (.ok discr, { s with echoManager := em, senderFactory := f })
      | none => (.error (.notVisible discr), { s with echoManager := em, senderFactory := f })

/-- The ports a call of `AddEchoSession` takes for good: the port of the
sender it gets, if it gets one. -/
def echoPortsTaken (s : Services Addr) (cfg : EchoSessionConfig Addr) : Nat :=
  match (s.senderFactory.createSender dial cfg.localAddr false).1 with
  | .ok _ => 1
  | .error _ => 0

end Handlers

/-- `DeleteEchoSession(ctx, req)`. -/
def deleteEchoSession (s : Services Addr) (discr : UInt32) : Except (EchoServerError Addr) Unit × Services Addr :=
  match s.echoManager.destroyEchoSession discr with
  | (.error e, em) => (.error (.echoManager e), { s with echoManager := em })
  | (.ok (), em) => (.ok (), { s with echoManager := em })

end Services

/-! ## The discriminators of the echo sessions -/

/-- A discriminator the allocator has handed out that no control session
holds. -/
def Manager.Reserved (m : Manager Addr) (d : UInt32) : Prop :=
  d ∈ m.discriminators.allocated ∧ m.sessions.lookup d = none

/-- Every echo session holds a reserved discriminator. -/
def EchoManager.Reserves (em : EchoManager Addr) : Prop :=
  ∀ d, (em.echoSessions.lookup d).isSome → em.manager.Reserved d

section Reserved

variable [DecidableEq Addr] (h : Digests) (ip : NetIP Addr) {m : Manager Addr} {d : UInt32}

/-- `CreateSession` allocates a discriminator that was free, so a reserved
one stays reserved. -/
theorem Manager.Reserved.createSession (hr : m.Reserved d) (cfg : SessionConfig Addr) :
    (m.createSession h ip cfg).2.Reserved d := by
  rcases hc : m.createSession h ip cfg with ⟨_ | sess, m'⟩
  · rw [Manager.createSession_eq_error h ip hc]
    exact hr
  · obtain ⟨w, -, hw, -, hss, -, hd⟩ := Manager.createSession_eq_ok h ip hc
    have hne : d ≠ w := fun hdw => hw (hdw ▸ hr.1)
    refine ⟨?_, ?_⟩
    · rw [hd]
      exact List.mem_cons_of_mem w hr.1
    · rw [hss, AList.lookup_insert_ne hne]
      exact hr.2

/-- `DestroySession` releases the discriminator of a control session, never
a reserved one. -/
theorem Manager.Reserved.destroySession (hr : m.Reserved d) (d₀ : UInt32) :
    (m.destroySession d₀).2.Reserved d := by
  rcases hc : m.destroySession d₀ with ⟨_ | _, m'⟩
  · rw [Manager.destroySession_eq_error hc]
    exact hr
  · obtain ⟨e, he, rfl⟩ := Manager.destroySession_eq_ok hc
    have hne : d ≠ d₀ := by
      rintro rfl
      exact Option.some_ne_none e (he.symm.trans hr.2)
    refine ⟨?_, ?_⟩
    · simp only [DiscriminatorAllocator.release, List.mem_filter, bne_iff_ne, ne_eq]
      exact ⟨hr.1, hne⟩
    · dsimp only
      rw [AList.lookup_erase_ne hne]
      exact hr.2

omit [DecidableEq Addr] in
theorem Manager.Reserved.storeSession (hr : m.Reserved d) {discr : UInt32} {e : SessionEntry Addr}
    (he : m.sessions.lookup discr = some e) (sess : Session Addr) : (m.storeSession discr e sess).Reserved d := by
  have hne : d ≠ discr := by
    rintro rfl
    exact Option.some_ne_none e (he.symm.trans hr.2)
  refine ⟨hr.1, ?_⟩
  dsimp only [Manager.storeSession]
  rw [AList.lookup_insert_ne hne]
  exact hr.2

/-- No step of the BFD service's handlers and no step of a control session
takes a reserved discriminator. -/
theorem ServerRuntime.Step.reserved {rt rt' : ServerRuntime Addr} (hs : ServerRuntime.Step h ip rt rt')
    (hr : rt.server.manager.Reserved d) : rt'.server.manager.Reserved d := by
  cases hs with
  | addSession dial cfg =>
    -- `CreateSender` leaves the manager alone
    show (rt.server.startAddSession dial cfg).1.manager.Reserved d
    rw [BFDServer.startAddSession_manager]
    exact hr
  | deleteSession discr =>
    show (rt.server.startDeleteSession discr).1.manager.Reserved d
    rw [BFDServer.startDeleteSession_manager]
    exact hr.destroySession discr
  | advance pre post c hc =>
    show (c.step h ip rt.server).1.manager.Reserved d
    rcases ServerCall.step_manager h ip rt.server c with hm | ⟨cfg, hm⟩ <;> rw [hm]
    · exact hr
    · exact hr.createSession h ip cfg
  | session he hs => exact hr.storeSession he _

end Reserved

namespace EchoManager

variable [DecidableEq Addr] {ip : NetIP Addr} {em : EchoManager Addr}

/-- `CreateEchoSession` on a valid manager keeps it valid, leaves the
control sessions alone, and files its session under a discriminator it
reserves. -/
theorem Reserves.createEchoSession (hr : em.Reserves) (hm : em.manager.Valid) (cfg : EchoSessionConfig Addr) :
    (em.createEchoSession ip cfg).2.Reserves ∧ (em.createEchoSession ip cfg).2.manager.Valid ∧
      (em.createEchoSession ip cfg).2.manager.sessions = em.manager.sessions := by
  rcases hc : em.createEchoSession ip cfg with ⟨_ | w, em'⟩
  · rw [createEchoSession_eq_error hc]
    exact ⟨hr, hm.congr rfl rfl rfl, rfl⟩
  · obtain ⟨hw, hman, hnew, hold⟩ := createEchoSession_eq_ok hc
    -- a free discriminator has no control session
    have hwl : em.manager.sessions.lookup w = none := by
      cases hl : em.manager.sessions.lookup w with
      | none => rfl
      | some e => exact absurd (hm.allocated w e hl) hw
    refine ⟨fun d hd => ?_, by rw [hman]; exact (hm.allocate w).congr rfl rfl rfl, by rw [hman]⟩
    rw [hman]
    by_cases hdw : d = w
    · subst hdw
      exact ⟨List.mem_cons_self, hwl⟩
    · rw [hold d hdw] at hd
      exact ⟨List.mem_cons_of_mem w (hr d hd).1, (hr d hd).2⟩

/-- `DestroyEchoSession` releases a reserved discriminator: no control
session loses its own. -/
theorem Reserves.destroyEchoSession (hr : em.Reserves) (hm : em.manager.Valid) (discr : UInt32) :
    (em.destroyEchoSession discr).2.Reserves ∧ (em.destroyEchoSession discr).2.manager.Valid ∧
      (em.destroyEchoSession discr).2.manager.sessions = em.manager.sessions := by
  rcases hc : em.destroyEchoSession discr with ⟨_ | _, em'⟩
  · rw [(destroyEchoSession_eq_error hc).1]
    exact ⟨hr, hm, rfl⟩
  · obtain ⟨hd, rfl⟩ := destroyEchoSession_eq_ok hc
    refine ⟨fun d hdl => ?_, hm.release (hr discr hd).2, rfl⟩
    have hne : d ≠ discr := by
      rintro rfl
      simp at hdl
    rw [AList.lookup_erase_ne hne] at hdl
    refine ⟨?_, (hr d hdl).2⟩
    simp only [DiscriminatorAllocator.release, List.mem_filter, bne_iff_ne, ne_eq]
    exact ⟨(hr d hdl).1, hne⟩

omit [DecidableEq Addr] in
/-- Steps of an echo session, and the receiver's `DemuxEcho`, refile a
session under its discriminator. -/
theorem Reserves.refile (hr : em.Reserves) {d : UInt32} {es es' : EchoSessionState Addr}
    (he : em.echoSessions.lookup d = some es) :
    Reserves { em with echoSessions := em.echoSessions.insert d es' } := by
  intro d' hd'
  by_cases hdd : d' = d
  · subst hdd
    exact hr d' (by rw [he]; rfl)
  · rw [AList.lookup_insert_ne hdd] at hd'
    exact hr d' hd'

omit [DecidableEq Addr] in
theorem Reserves.recvOne (hr : em.Reserves) {l : Listener} {em' : EchoManager Addr}
    {queue rest : List (PacketMeta Addr × List UInt8)} (hrecv : EchoReceiver.recvOne l em queue = some (em', rest)) :
    em'.Reserves ∧ em'.manager = em.manager := by
  obtain ⟨_, _, _, -, -, -, hem⟩ := EchoReceiver.recvOne_eq_some hrecv
  rcases hem with rfl | ⟨pkt, -, -, hdm⟩
  · exact ⟨hr, rfl⟩
  · unfold EchoManager.demuxEcho at hdm
    split at hdm
    · cases hdm
    · rename_i es he
      cases hdm
      exact ⟨hr.refile he, rfl⟩

end EchoManager

/-! ## The two services over every interleaving -/

namespace Services

section Calls

variable (dial : UDPSender Addr → Bool) (ip : NetIP Addr) (s : Services Addr)

/-- What `AddEchoSession` does to the state: with no sender, the factory's
refusal; with one, its port stays taken whatever the manager answers. -/
theorem addEchoSession_eq (cfg : EchoSessionConfig Addr) :
    (∃ e f, s.senderFactory.createSender dial cfg.localAddr false = (.error e, f) ∧
        s.echoPortsTaken dial cfg = 0 ∧ (s.addEchoSession dial ip cfg).2 = { s with senderFactory := f }) ∨
      ∃ sender f, s.senderFactory.createSender dial cfg.localAddr false = (.ok sender, f) ∧
        s.echoPortsTaken dial cfg = 1 ∧
        (s.addEchoSession dial ip cfg).2 =
          { s with echoManager := (s.echoManager.createEchoSession ip cfg).2, senderFactory := f } := by
  unfold addEchoSession echoPortsTaken
  rcases s.senderFactory.createSender dial cfg.localAddr false with ⟨e | sender, f⟩
  · exact .inl ⟨e, f, rfl, rfl, rfl⟩
  · refine .inr ⟨sender, f, rfl, rfl, ?_⟩
    dsimp only
    rcases s.echoManager.createEchoSession ip cfg with ⟨e | w, em⟩
    · rfl
    · dsimp only
      split <;> rfl

/-- With the range used up `AddEchoSession` fails at its first step, with
the factory's `ErrPortExhausted`, and changes nothing. -/
theorem addEchoSession_of_le_card (hc : s.senderFactory.portAlloc.portSpan ≤ s.senderFactory.portAlloc.inUse.card)
    (cfg : EchoSessionConfig Addr) :
    s.addEchoSession dial ip cfg =
      (.error (.createEchoSender (.allocateSourcePort (.portExhausted s.senderFactory.portAlloc.portSpan))), s) := by
  simp only [addEchoSession, UDPSenderFactory.createSender_of_le_card dial hc]

/-- `DeleteEchoSession` of a discriminator with no echo session answers
`CodeInternal`, not `CodeNotFound`, and changes nothing. -/
theorem deleteEchoSession_of_lookup_none {discr : UInt32} (hd : s.echoManager.echoSessions.lookup discr = none) :
    s.deleteEchoSession discr = (.error (.echoManager (.echoSessionNotFound discr)), s) ∧
      EchoServerError.code (.echoManager (.echoSessionNotFound discr) : EchoServerError Addr) = .internal := by
  refine ⟨?_, rfl⟩
  simp only [deleteEchoSession, EchoManager.destroyEchoSession, hd]

end Calls

variable [DecidableEq Addr] (h : Digests) (ip : NetIP Addr)

/-- A step of the BFD service's handlers or of a control session's
goroutine, a call of a handler of the echo service, a step of an echo
session's goroutine, or of the echo receiver; indexed by the ports the step
takes from the factory for good. -/
inductive Step : Services Addr → Nat → Services Addr → Prop
  | bfd {s : Services Addr} {rt : ServerRuntime Addr} (hs : ServerRuntime.Step h ip s.runtime rt) :
      Step s 0 (s.withRuntime rt)
  | addEchoSession (s : Services Addr) (dial : UDPSender Addr → Bool) (cfg : EchoSessionConfig Addr) :
      Step s (s.echoPortsTaken dial cfg) (s.addEchoSession dial ip cfg).2
  | deleteEchoSession (s : Services Addr) (discr : UInt32) : Step s 0 (s.deleteEchoSession discr).2
  /-- A step of the session's own goroutine; its `RecvEcho` calls come from
  the echo receiver. -/
  | echoSession {s : Services Addr} {d : UInt32} {es es' : EchoSessionState Addr} {e : EchoEvent}
      (he : s.echoManager.echoSessions.lookup d = some es) (hown : e ≠ .recvEcho)
      (hs : EchoSessionState.Step e es es') :
      Step s 0 { s with echoManager := { s.echoManager with echoSessions := s.echoManager.echoSessions.insert d es' } }
  | echoReceive {s : Services Addr} {em : EchoManager Addr} (l : Listener)
      {queue rest : List (PacketMeta Addr × List UInt8)}
      (hr : EchoReceiver.recvOne l s.echoManager queue = some (em, rest)) :
      Step s 0 { s with echoManager := em }

/-- An interleaving of steps, with the ports its steps took for good. -/
inductive Run : Services Addr → Nat → Services Addr → Prop
  | refl (s : Services Addr) : Run s 0 s
  | tail {s t u : Services Addr} {n k : Nat} (hr : Run s n t) (hs : Step h ip t k u) : Run s (n + k) u

/-- The states every interleaving leads to from a new manager and a new
factory, with the ports taken for good on the way. -/
def Reachable (s : Services Addr) (n : Nat) : Prop :=
  ∃ rand frand, Run h ip (new (EchoManager.init rand) (newUDPSenderFactory frand)) n s

/-- The BFD service's accounting of the ports in use, with `O` the ports
that neither a record nor a call of it holds; every echo session holds a
reserved discriminator. -/
structure Accounts (s : Services Addr) (O : Finset UInt16) : Prop where
  runtime : s.runtime.Accounts O
  reserves : s.echoManager.Reserves

section Keeps

variable {s s' : Services Addr} {O : Finset UInt16}

theorem new_accounts (rand : List UInt32) (frand : List Nat) :
    (new (EchoManager.init rand) (newUDPSenderFactory frand) : Services Addr).Accounts ∅ where
  runtime := ServerRuntime.init_accounts rand frand
  reserves d hd := by simp [new, EchoManager.init] at hd

/-- A step that changes neither the BFD service's view nor the calls of its
handlers keeps its accounting. -/
theorem Accounts.of_runtime (ha : s.Accounts O) (hrt : s'.runtime = s.runtime) (hres : s'.echoManager.Reserves) :
    s'.Accounts O :=
  ⟨hrt ▸ ha.runtime, hres⟩

/-- A step of the BFD service keeps the accounting with more ports in `O`
perhaps, and takes no reserved discriminator. -/
theorem Accounts.bfd (ha : s.Accounts O) {rt : ServerRuntime Addr} (hs : ServerRuntime.Step h ip s.runtime rt) :
    ∃ O', O ⊆ O' ∧ (s.withRuntime rt).Accounts O' := by
  obtain ⟨O', hsub, ha'⟩ := hs.accounts h ip ha.runtime
  exact ⟨O', hsub, ha', fun d hd => hs.reserved h ip (ha.reserves d hd)⟩

/-- A sender made for an echo session takes a port that nothing holds and
nothing gives back; no sender made takes none. -/
theorem Accounts.addEchoSession (ha : s.Accounts O) (dial : UDPSender Addr → Bool) (cfg : EchoSessionConfig Addr) :
    ∃ O', O ⊆ O' ∧ O.card + s.echoPortsTaken dial cfg ≤ O'.card ∧ (s.addEchoSession dial ip cfg).2.Accounts O' := by
  have hvf : (s.senderFactory.createSender dial cfg.localAddr false).2.Valid :=
    ha.runtime.factory.createSender dial cfg.localAddr false
  rcases addEchoSession_eq dial ip s cfg with ⟨e, f, hc, hk, hs⟩ | ⟨sender, f, hc, hk, hs⟩ <;>
    rw [hk, hs] <;> rw [hc] at hvf
  · -- the ports in use are as they were
    obtain ⟨hpa, -⟩ := UDPSenderFactory.createSenderForSession_eq_error dial
      (UDPSenderFactory.createSender_eq_error dial hc)
    refine ⟨O, subset_rfl, le_rfl, ha.runtime.perm ha.runtime.manager hvf (List.Perm.refl _) ?_, ha.reserves⟩
    exact congrArg SourcePortAllocator.inUse hpa
  · obtain ⟨hc', -⟩ := UDPSenderFactory.createSender_eq_ok dial hc
    obtain ⟨hfree, -, hin, -⟩ := UDPSenderFactory.createSenderForSession_eq_ok dial hc'
    obtain ⟨hres, hvm, hss⟩ := ha.reserves.createEchoSession ha.runtime.manager cfg
    -- the new port joins the ports nothing holds
    have hnO : sender.1.srcPort ∉ O := fun hq => hfree (ha.runtime.subset_inUse hq)
    refine ⟨insert sender.1.srcPort O, Finset.subset_insert _ O, by rw [Finset.card_insert_of_notMem hnO], ?_, hres⟩
    apply ha.runtime.orphan
    · exact hvm
    · exact hvf
    · simp only [Services.runtime, Services.bfd, ServerRuntime.ports_mk, BFDServer.recorded]
      exact List.Perm.refl _
    · exact hfree
    · exact hin

theorem Accounts.deleteEchoSession (ha : s.Accounts O) (discr : UInt32) : (s.deleteEchoSession discr).2.Accounts O := by
  obtain ⟨hres, hvm, -⟩ := ha.reserves.destroyEchoSession ha.runtime.manager discr
  have hd : (s.deleteEchoSession discr).2 = { s with echoManager := (s.echoManager.destroyEchoSession discr).2 } := by
    unfold Services.deleteEchoSession
    rcases s.echoManager.destroyEchoSession discr with ⟨_ | _, em⟩ <;> rfl
  rw [hd]
  -- the factory is untouched: the port of the echo sender stays in use
  exact ⟨ha.runtime.perm hvm ha.runtime.factory (List.Perm.refl _) rfl, hres⟩

theorem Accounts.step (ha : s.Accounts O) {k : Nat} (hs : Step h ip s k s') :
    ∃ O', O ⊆ O' ∧ O.card + k ≤ O'.card ∧ s'.Accounts O' := by
  cases hs with
  | bfd hs =>
    obtain ⟨O', hsub, ha'⟩ := ha.bfd h ip hs
    exact ⟨O', hsub, Finset.card_le_card hsub, ha'⟩
  | addEchoSession dial cfg => exact ha.addEchoSession ip dial cfg
  | deleteEchoSession discr => exact ⟨O, subset_rfl, le_rfl, ha.deleteEchoSession discr⟩
  | echoSession he _ hs => exact ⟨O, subset_rfl, le_rfl, ha.of_runtime rfl (ha.reserves.refile he)⟩
  | echoReceive l hr =>
    -- the receiver refiles echo sessions only
    obtain ⟨hres, hman⟩ := ha.reserves.recvOne hr
    refine ⟨O, subset_rfl, le_rfl, ha.of_runtime ?_ hres⟩
    simp only [Services.runtime, Services.bfd, hman]

theorem Accounts.run (ha : s.Accounts O) {k : Nat} (hr : Run h ip s k s') :
    ∃ O', O ⊆ O' ∧ O.card + k ≤ O'.card ∧ s'.Accounts O' := by
  induction hr with
  | refl => exact ⟨O, subset_rfl, le_rfl, ha⟩
  | tail _ hs ih =>
    obtain ⟨O₁, hO₁, hk₁, ha₁⟩ := ih
    obtain ⟨O₂, hO₂, hk₂, ha₂⟩ := ha₁.step h ip hs
    exact ⟨O₂, hO₁.trans hO₂, by omega, ha₂⟩

end Keeps

/-- Along every interleaving of the two services' handlers (the BFD
service's in their separately locked steps), the control and echo
sessions' goroutines and the echo receiver, from a new manager and a new
factory, whatever the kernel and the random sources do: each port in use
is recorded by the BFD service, held by one of its calls in progress, or
in a set `O` of ports that stay in use along every continuation, and `O`
has at least one port per `AddEchoSession` that got a sender, deleted or
refused since or not: `DeleteEchoSession` gives back no port.  Once the
ports in use reach the 16384 of the range, every `AddSession` and every
`AddEchoSession` fails at once with `ErrPortExhausted` and changes
nothing. -/
theorem echo_ports_never_returned {s : Services Addr} {n : Nat} (hr : s.Reachable h ip n) :
    ∃ O : Finset UInt16, n ≤ O.card ∧
      (∀ p, p ∈ s.senderFactory.portAlloc.inUse ↔
        (∃ d, s.senderPorts.lookup d = some p) ∨ p ∈ s.runtime.held ∨ p ∈ O) ∧
      s.senderFactory.portAlloc.inUse.card = s.senderPorts.keys.length + s.runtime.held.length + O.card ∧
      (∀ s' k, Run h ip s k s' → O ⊆ s'.senderFactory.portAlloc.inUse) ∧
      (16384 ≤ s.senderFactory.portAlloc.inUse.card →
        ∀ dial cfg ecfg,
          s.bfd.startAddSession dial cfg = (s.bfd, .error (.createSender (.allocateSourcePort (.portExhausted 16384)))) ∧
            s.addEchoSession dial ip ecfg =
              (.error (.createEchoSender (.allocateSourcePort (.portExhausted 16384))), s)) := by
  obtain ⟨rand, frand, hrun⟩ := hr
  obtain ⟨O, -, hn, ha⟩ := (new_accounts rand frand).run h ip hrun
  refine ⟨O, by simpa using hn, ha.runtime.mem_inUse, ha.runtime.card_inUse, fun s' k hrun' => ?_, ?_⟩
  · -- nothing holds a port of `O`, so no later step gives it back
    obtain ⟨O', hsub, -, ha'⟩ := ha.run h ip hrun'
    exact hsub.trans ha'.runtime.subset_inUse
  · intro hfull dial cfg ecfg
    have hspan : s.senderFactory.portAlloc.portSpan = 16384 := ha.runtime.factory.portAlloc.portSpan
    have hc : s.senderFactory.portAlloc.portSpan ≤ s.senderFactory.portAlloc.inUse.card := by
      rw [hspan]
      exact hfull
    constructor
    · rw [BFDServer.startAddSession_of_le_card dial s.bfd hc cfg, ← hspan]
      rfl
    · rw [addEchoSession_of_le_card dial ip s hc ecfg, hspan]

/-- One `AddEchoSession` from 10.0.0.2 to 10.0.0.1, then `DeleteEchoSession`
of the discriminator it got. -/
def echoDeletedServices : Services (Option (List UInt8)) :=
  (((new (EchoManager.init [5]) (newUDPSenderFactory [3])).addEchoSession (fun _ => true) ipv4
    plainEchoConfig).2.deleteEchoSession 5).2

/-- The echo session is gone, and its port stays in use whatever runs
next. -/
theorem echo_ports_never_returned_deleted :
    echoDeletedServices.echoManager.echoSessions.keys = [] ∧
      ∃ O : Finset UInt16, 1 ≤ O.card ∧
        ∀ s' k, Run lengthDigests ipv4 echoDeletedServices k s' → O ⊆ s'.senderFactory.portAlloc.inUse := by
  have hr : echoDeletedServices.Reachable lengthDigests ipv4
      (0 + (new (EchoManager.init [5]) (newUDPSenderFactory [3]) : Services (Option (List UInt8))).echoPortsTaken
        (fun _ => true) plainEchoConfig + 0) :=
    ⟨[5], [3], ((Run.refl _).tail (.addEchoSession _ _ _)).tail (.deleteEchoSession _ _)⟩
  have htaken : 0 + (new (EchoManager.init [5]) (newUDPSenderFactory [3]) : Services (Option (List UInt8))).echoPortsTaken
      (fun _ => true) plainEchoConfig + 0 = 1 := by
    decide +kernel
  obtain ⟨O, hn, -, -, hkeep, -⟩ := echo_ports_never_returned lengthDigests ipv4 hr
  exact ⟨by decide +kernel, O, htaken ▸ hn, hkeep⟩

end Services

end GoBFD
