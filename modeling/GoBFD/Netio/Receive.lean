import GoBFD.Daemon.Sessions
import GoBFD.Session.Honest

/-!
# GoBFD.Netio.Receive

The receive path of BFD Control packets, from the socket to the receive
channel of one session.  `Listener.RecvPacket` drops every datagram whose
TTL fails the GTSM check of RFC 5082 (`rawsock.go`), `Receiver.recvOne`
decodes what is left (`recvOne`, in `GoBFD.Session.Run`), and
`Manager.DemuxWithWire` hands the packet to one session, chosen as RFC 5880
Section 6.8.6 says: by Your Discriminator when it is not zero, and
otherwise by the peer key of source address, destination address and
interface.

* `Listener.recvPacket_eq_some`: the listener returns the first datagram
  whose TTL passes its check, having dropped every one before it.
* `Manager.Valid.demuxWithWire_eq_ok` and `Manager.Valid.demuxWithWire_eq_error`:
  on a valid manager the demultiplexer delivers to the session the packet
  names, and fails exactly when there is none.
* `control_receive_selects_session`: the receive path drops a datagram
  that does not decode or names no session, and otherwise takes one step
  of `Manager.Step`, which queues the packet on the one session RFC 5880
  Section 6.8.6 selects, and no other.

The demultiplexer here is that of a manager with no unsolicited policy,
as `NewManager` builds it unless `WithUnsolicitedPolicy` is given (the
daemon gives it only when unsolicited BFD is enabled): `demuxByPeer` then
fails on an unknown peer.  With a policy it calls `tryCreateUnsolicited`
instead, whose steps are `Call.demuxByPeer` and `Call.reserve` of
`GoBFD.Manager.Calls`.  A datagram is read whole; the `MaxPacketSize` cut
of the pool buffer is made by `recvOne`.
-/

namespace GoBFD

open Go

variable {Addr : Type}

/-! ## GTSM -/

/-- `ttlRequired`: single-hop BFD arrives with TTL 255 (RFC 5881 Section 5). -/
def ttlRequired : UInt8 := 255

/-- `ttlMultiHopMin`: multi-hop BFD arrives with TTL 254 at least (RFC 5883
Section 2). -/
def ttlMultiHopMin : UInt8 := 254

/-- `TTLEchoLoopback`: an RFC 9747 echo comes back with TTL 254, after one
hop of loopback forwarding. -/
def TTLEchoLoopback : UInt8 := 254

/-- `PacketMeta`, with the fields the receive path reads; `IfIndex` is not
read. -/
structure PacketMeta (Addr : Type) where
  srcAddr : Addr
  dstAddr : Addr
  ttl : UInt8
  ifName : String

/-- The `ErrTTLInvalid` errors, with the values their messages print. -/
inductive TTLError where
  /-- "multi-hop TTL %d, minimum %d (RFC 5883 Section 2)". -/
  | multiHop (ttl minimum : UInt8)
  /-- "single-hop TTL %d, required %d (RFC 5881 Section 5)". -/
  | singleHop (ttl required : UInt8)
  /-- "%s TTL %d, required %d". -/
  | expected (context : String) (ttl required : UInt8)
  deriving DecidableEq

/-- `ValidateTTL(meta, multiHop)`. -/
def validateTTL (pmeta : PacketMeta Addr) (multiHop : Bool) : Except TTLError Unit :=
  if multiHop then
    if pmeta.ttl < ttlMultiHopMin then .error (.multiHop pmeta.ttl ttlMultiHopMin) else .ok ()
  else if pmeta.ttl ≠ ttlRequired then .error (.singleHop pmeta.ttl ttlRequired)
  else .ok ()

/-- `ValidateExpectedTTL(meta, expected, context)`. -/
def validateExpectedTTL (pmeta : PacketMeta Addr) (expected : UInt8) (context : String) :
    Except TTLError Unit :=
  if pmeta.ttl ≠ expected then .error (.expected context pmeta.ttl expected) else .ok ()

/-- A `Listener`, with the fields its receive loop reads. -/
structure Listener where
  multiHop : Bool
  expectedTTL : UInt8

/-- `(*Listener).validateTTL(meta)`: the exact TTL of `ExpectedTTL` when one
is set, GTSM otherwise. -/
def Listener.validateTTL (l : Listener) (pmeta : PacketMeta Addr) : Except TTLError Unit :=
  if l.expectedTTL ≠ 0 then validateExpectedTTL pmeta l.expectedTTL "listener"
  else GoBFD.validateTTL pmeta l.multiHop

/-- `RecvPacket(ctx)` over the datagrams waiting on the socket, each with
its metadata: read one, drop it and read on when its TTL fails the check,
and return it with what is left otherwise.  When nothing is left the read
blocks until the context ends, and `RecvPacket` fails. -/
def Listener.recvPacket (l : Listener) :
    List (PacketMeta Addr × List UInt8) →
      Option ((PacketMeta Addr × List UInt8) × List (PacketMeta Addr × List UInt8))
  | [] => none
  | p :: rest =>
    match l.validateTTL p.1 with
    | .ok () => some (p, rest)
    | .error _ => l.recvPacket rest

/-! ## Demultiplexing -/

/-- The `ErrDemuxNoMatch` errors, with the values their messages print. -/
inductive DemuxError (Addr : Type) where
  /-- "demux: your discriminator %d not found". -/
  | yourDiscriminatorNotFound (discr : UInt32)
  /-- "demux: no session for peer %s -> %s (iface=%s)". -/
  | noSessionForPeer (srcAddr dstAddr : Addr) (ifName : String)

/-- The `sessionKey` of the source address, destination address and
interface a packet arrived with. -/
def PacketMeta.key (pmeta : PacketMeta Addr) : SessionKey Addr :=
  ⟨pmeta.srcAddr, pmeta.dstAddr, pmeta.ifName⟩

namespace Manager

/-- `sess.RecvPacket(pkt, wire)` on the session filed under `discr`. -/
def recvOn (m : Manager Addr) (discr : UInt32) (e : SessionEntry Addr) (item : RecvItem) :
    Manager Addr :=
  m.storeSession discr e (e.session.recvPacket item)

/-- Of the sessions, `RecvPacket` writes the one filed under `discr` and no
other. -/
theorem recvOn_lookup_ne {m : Manager Addr} {item : RecvItem} {d d' : UInt32} {e : SessionEntry Addr}
    (hd : d' ≠ d) : (m.recvOn d e item).sessions.lookup d' = m.sessions.lookup d' :=
  AList.lookup_insert_ne hd

theorem recvOn_sessionsByPeer (m : Manager Addr) (d : UInt32) (e : SessionEntry Addr) (item : RecvItem) :
    (m.recvOn d e item).sessionsByPeer = m.sessionsByPeer := rfl

/-- `demuxByDiscr(pkt, wire)`: tier 1, the session whose discriminator is
Your Discriminator. -/
def demuxByDiscr (m : Manager Addr) (item : RecvItem) : Except (DemuxError Addr) (Manager Addr) :=
  match m.sessions.lookup item.pkt.yourDiscriminator with
  | some e => .ok (m.recvOn item.pkt.yourDiscriminator e item)
  | none => .error (.yourDiscriminatorNotFound item.pkt.yourDiscriminator)

variable [DecidableEq Addr]

/-- `demuxByPeer(pkt, meta, wire)` with unsolicited BFD off: tier 2, the
session of the peer key. -/
def demuxByPeer (m : Manager Addr) (item : RecvItem) (pmeta : PacketMeta Addr) :
    Except (DemuxError Addr) (Manager Addr) :=
  match m.sessionsByPeer.lookup pmeta.key with
  | some discr =>
    -- `sessionsByPeer` holds the entry itself in Go, so this lookup finds it
    match m.sessions.lookup discr with
    | some e => .ok (m.recvOn discr e item)
    | none => .error (.noSessionForPeer pmeta.srcAddr pmeta.dstAddr pmeta.ifName)
  | none => .error (.noSessionForPeer pmeta.srcAddr pmeta.dstAddr pmeta.ifName)

/-- `DemuxWithWire(pkt, meta, wire)`. -/
def demuxWithWire (m : Manager Addr) (item : RecvItem) (pmeta : PacketMeta Addr) :
    Except (DemuxError Addr) (Manager Addr) :=
  if item.pkt.yourDiscriminator ≠ 0 then m.demuxByDiscr item else m.demuxByPeer item pmeta

end Manager

section Receiver

variable [DecidableEq Addr]

/-- `Receiver.recvOne(ctx, ln)` with the manager as its demuxer: take a
datagram from the listener, decode it (`recvOne`), and hand it to
`DemuxWithWire`.  A datagram that does not decode and a failed demux are
logged and dropped; `none` is a failed `RecvPacket`. -/
def Receiver.recvOne (l : Listener) (m : Manager Addr) (queue : List (PacketMeta Addr × List UInt8)) :
    Option (Manager Addr × List (PacketMeta Addr × List UInt8)) :=
  match l.recvPacket queue with
  | none => none
  | some ((pmeta, datagram), rest) =>
    match GoBFD.recvOne datagram with
    | none => some (m, rest)
    | some item =>
      match m.demuxWithWire item pmeta with
      | .ok m' => some (m', rest)
      | .error _ => some (m, rest)

end Receiver

/-! ## The listener -/

section Listener

variable {l : Listener} {pmeta : PacketMeta Addr}

theorem Listener.validateTTL_eq_ok :
    l.validateTTL pmeta = .ok () ↔
      if l.expectedTTL ≠ 0 then pmeta.ttl = l.expectedTTL
      else if l.multiHop then ttlMultiHopMin ≤ pmeta.ttl else pmeta.ttl = ttlRequired := by
  unfold Listener.validateTTL validateExpectedTTL GoBFD.validateTTL
  split_ifs <;> simp_all [UInt8.not_lt]

/-- The loop of `RecvPacket`: it returns the first datagram whose TTL passes
the check, with the rest of the queue, and drops every datagram before
it. -/
theorem Listener.recvPacket_eq_some {q rest : List (PacketMeta Addr × List UInt8)}
    {p : PacketMeta Addr × List UInt8} :
    l.recvPacket q = some (p, rest) ↔
      ∃ dropped, q = dropped ++ p :: rest ∧ (∀ x ∈ dropped, l.validateTTL x.1 ≠ .ok ()) ∧
        l.validateTTL p.1 = .ok () := by
  induction q with
  | nil =>
    simp only [Listener.recvPacket, reduceCtorEq, false_iff, not_exists, not_and]
    intro dropped h
    exact absurd h.symm (by simp)
  | cons x q ih =>
    unfold Listener.recvPacket
    split
    · -- `x` passes: it is the one returned, and nothing was dropped
      rename_i hx
      constructor
      · intro h
        cases h
        exact ⟨[], rfl, nofun, hx⟩
      · rintro ⟨dropped, hq, hd, hp⟩
        cases dropped with
        | nil => cases hq; rfl
        | cons y dropped =>
          obtain ⟨rfl, -⟩ := List.cons.inj hq
          exact absurd hx (hd x List.mem_cons_self)
    · -- `x` fails: it is dropped, and the loop reads on
      rename_i e hx
      rw [ih]
      constructor
      · rintro ⟨dropped, rfl, hd, hp⟩
        refine ⟨x :: dropped, rfl, ?_, hp⟩
        intro y hy
        rcases List.mem_cons.mp hy with rfl | hy
        · rw [hx]; nofun
        · exact hd y hy
      · rintro ⟨dropped, hq, hd, hp⟩
        cases dropped with
        | nil =>
          cases hq
          rw [hx] at hp
          cases hp
        | cons y dropped =>
          obtain ⟨rfl, rfl⟩ := List.cons.inj hq
          exact ⟨dropped, rfl, fun z hz => hd z (List.mem_cons_of_mem _ hz), hp⟩

end Listener

/-! ## What the demultiplexer selects -/

section Demux

variable [DecidableEq Addr] {m m' : Manager Addr} {item : RecvItem} {pmeta : PacketMeta Addr}

/-- On a valid manager, a packet is delivered to the session whose
discriminator is its Your Discriminator or, when that is zero, to the
session of its peer key; nothing else happens to the tables. -/
theorem Manager.Valid.demuxWithWire_eq_ok (hm : m.Valid) (h : m.demuxWithWire item pmeta = .ok m') :
    ∃ d e, m.sessions.lookup d = some e ∧ m' = m.recvOn d e item ∧
      ((item.pkt.yourDiscriminator ≠ 0 ∧ d = item.pkt.yourDiscriminator ∧ e.session.localDiscr = d) ∨
        (item.pkt.yourDiscriminator = 0 ∧ e.key = pmeta.key ∧ e.session.localDiscr = d)) := by
  unfold Manager.demuxWithWire at h
  split_ifs at h with hy
  · -- tier 1
    unfold Manager.demuxByDiscr at h
    split at h
    · rename_i e he
      cases h
      exact ⟨_, e, he, rfl, .inl ⟨hy, rfl, (hm.filed _ e he).2⟩⟩
    · cases h
  · -- tier 2
    unfold Manager.demuxByPeer at h
    split at h
    · rename_i d hk
      split at h
      · rename_i e he
        cases h
        obtain ⟨e', he', hkey⟩ := hm.byPeer _ d hk
        rw [he, Option.some.injEq] at he'
        subst he'
        exact ⟨d, e, he, rfl, .inr ⟨not_not.mp hy, hkey, (hm.filed d e he).2⟩⟩
      · cases h
    · cases h

/-- On a valid manager, the demultiplexer fails exactly when no session is
filed under the packet's Your Discriminator or, when that is zero, under
its peer key. -/
theorem Manager.Valid.demuxWithWire_eq_error (hm : m.Valid) :
    (∃ err, m.demuxWithWire item pmeta = .error err) ↔
      if item.pkt.yourDiscriminator ≠ 0 then m.sessions.lookup item.pkt.yourDiscriminator = none
      else m.sessionsByPeer.lookup pmeta.key = none := by
  unfold Manager.demuxWithWire
  split_ifs with hy
  · unfold Manager.demuxByDiscr
    split <;> simp_all
  · unfold Manager.demuxByPeer
    split
    · rename_i d hk
      -- a filed key always has its entry
      obtain ⟨e, he, -⟩ := hm.byPeer _ d hk
      simp [he, hk]
    · rename_i hk
      simp [hk]

end Demux

/-! ## The receive path -/

section Receive

variable [DecidableEq Addr] {l : Listener} {m m' : Manager Addr}
  {queue rest : List (PacketMeta Addr × List UInt8)}

/-- What one call of `Receiver.recvOne` does: the listener passes over the
datagrams whose TTL fails its check and takes the next one, which is
dropped when it does not decode or the demultiplexer fails, and
demultiplexed otherwise. -/
theorem Receiver.recvOne_eq_some (hrecv : Receiver.recvOne l m queue = some (m', rest)) :
    ∃ dropped pmeta datagram, queue = dropped ++ (pmeta, datagram) :: rest ∧
      (∀ x ∈ dropped, l.validateTTL x.1 ≠ .ok ()) ∧ l.validateTTL pmeta = .ok () ∧
      ((GoBFD.recvOne datagram = none ∧ m' = m) ∨
        ∃ item, GoBFD.recvOne datagram = some item ∧
          (((∃ err, m.demuxWithWire item pmeta = .error err) ∧ m' = m) ∨
            m.demuxWithWire item pmeta = .ok m')) := by
  unfold Receiver.recvOne at hrecv
  split at hrecv
  · cases hrecv
  · rename_i pmeta datagram rest' hp
    obtain ⟨dropped, hq, hd, hv⟩ := Listener.recvPacket_eq_some.mp hp
    refine ⟨dropped, pmeta, datagram, ?_, hd, hv, ?_⟩
    · -- the loop returned `rest'`, which is `rest`
      split at hrecv
      · cases hrecv; exact hq
      · split at hrecv <;> (cases hrecv; exact hq)
    · split at hrecv
      · rename_i hnone
        cases hrecv
        exact .inl ⟨hnone, rfl⟩
      · rename_i item hitem
        refine .inr ⟨item, hitem, ?_⟩
        split at hrecv
        · rename_i m'' hdm
          cases hrecv
          exact .inr hdm
        · rename_i err hdm
          cases hrecv
          exact .inl ⟨⟨err, hdm⟩, rfl⟩

variable (h : Digests) (ip : NetIP Addr)

/-- RFC 5880 Section 6.8.6 along the whole receive path of a reachable
manager, which `NewManager` built with no unsolicited policy (the daemon
gives it one only when `unsolicited.enabled` is set).  When
`Receiver.recvOne` takes a datagram, the listener has passed over only
datagrams whose TTL failed its check, and the one taken passed it.  The
datagram is then dropped, with the manager unchanged, exactly when it does
not decode or no session is filed under the key the packet names: its Your
Discriminator when this is not zero, and its source address, destination
address and interface otherwise.  Else it is delivered: the new manager is
the old one after `RecvPacket` on one session, a step of `Manager.Step`,
and that session is the one with discriminator Your Discriminator when
this is not zero; otherwise the packet says Down or AdminDown and the
session is the one of the datagram's source address, destination address
and interface.  No other session is written. -/
theorem control_receive_selects_session (hr : m.Reachable h ip)
    (hrecv : Receiver.recvOne l m queue = some (m', rest)) :
    ∃ dropped pmeta datagram, queue = dropped ++ (pmeta, datagram) :: rest ∧
      (∀ x ∈ dropped, l.validateTTL x.1 ≠ .ok ()) ∧ l.validateTTL pmeta = .ok () ∧
      ((recvOne datagram = none ∧ m' = m) ∨
        (∃ item, recvOne datagram = some item ∧
          (if item.pkt.yourDiscriminator ≠ 0 then m.sessions.lookup item.pkt.yourDiscriminator = none
            else m.sessionsByPeer.lookup pmeta.key = none) ∧ m' = m) ∨
        ∃ item d e, recvOne datagram = some item ∧ m.sessions.lookup d = some e ∧
          m' = m.recvOn d e item ∧ Manager.Step h ip m m' ∧
          (∀ d', d' ≠ d → m'.sessions.lookup d' = m.sessions.lookup d') ∧
          ((item.pkt.yourDiscriminator ≠ 0 ∧ d = item.pkt.yourDiscriminator ∧ e.session.localDiscr = d) ∨
            (item.pkt.yourDiscriminator = 0 ∧ (item.pkt.state = .down ∨ item.pkt.state = .adminDown) ∧
              e.key = pmeta.key ∧ e.session.localDiscr = d))) := by
  obtain ⟨dropped, pmeta, datagram, hq, hd, hv, hm'⟩ := Receiver.recvOne_eq_some hrecv
  refine ⟨dropped, pmeta, datagram, hq, hd, hv, ?_⟩
  rcases hm' with hnone | ⟨item, hitem, ⟨herr, rfl⟩ | hdm⟩
  · exact .inl hnone
  · -- the demultiplexer fails exactly when no session is filed under the key
    exact .inr (.inl ⟨item, hitem, hr.valid.demuxWithWire_eq_error.mp herr, rfl⟩)
  refine .inr (.inr ?_)
  obtain ⟨d, e, he, rfl, hsel⟩ := hr.valid.demuxWithWire_eq_ok hdm
  -- the packet decoded from the datagram, so it is well formed
  have hwf := wellFormed_of_unmarshal (recvOne_unmarshal hitem)
  have hstep : Manager.Step h ip m (m.recvOn d e item) :=
    .session he (.recvPacket item ⟨_, recvOne_unmarshal hitem⟩)
  refine ⟨item, d, e, hitem, he, rfl, hstep, fun d' hd' => Manager.recvOn_lookup_ne hd', ?_⟩
  rcases hsel with hsel | ⟨hy, hkey, hloc⟩
  · exact .inl hsel
  · -- Your Discriminator zero: only a Down or AdminDown packet decodes
    have hs : item.pkt.state = .down ∨ item.pkt.state = .adminDown :=
      hwf.yourDiscriminator.resolve_left (not_not.mpr hy)
    exact .inr ⟨hy, hs, hkey, hloc⟩

end Receive

/-- A Down packet of 10.0.0.1 with My Discriminator 1 and Your
Discriminator zero, at one-second intervals. -/
def peerDownDatagram : List UInt8 :=
  [0x20, 0x40, 3, 24, 0, 0, 0, 1, 0, 0, 0, 0, 0, 0x0F, 0x42, 0x40, 0, 0x0F, 0x42, 0x40, 0, 0, 0, 0]

/-- The datagram reaches `onePeerManager` over a single-hop listener with
TTL 255, from the peer of its session. -/
theorem control_receive_selects_session_onePeer :
    ∃ m' rest, onePeerManager.Reachable lengthDigests ipv4 ∧
      Receiver.recvOne ⟨false, 0⟩ onePeerManager
        [(⟨some [10, 0, 0, 1], some [10, 0, 0, 2], 255, "eth0"⟩, peerDownDatagram)] = some (m', rest) ∧
      ∃ dropped pmeta datagram,
        [(⟨some [10, 0, 0, 1], some [10, 0, 0, 2], 255, "eth0"⟩, peerDownDatagram)] =
          dropped ++ (pmeta, datagram) :: rest ∧
        (∀ x ∈ dropped, Listener.validateTTL ⟨false, 0⟩ x.1 ≠ .ok ()) ∧
        Listener.validateTTL ⟨false, 0⟩ pmeta = .ok () ∧
        ((recvOne datagram = none ∧ m' = onePeerManager) ∨
          (∃ item, recvOne datagram = some item ∧
            (if item.pkt.yourDiscriminator ≠ 0 then
              onePeerManager.sessions.lookup item.pkt.yourDiscriminator = none
              else onePeerManager.sessionsByPeer.lookup pmeta.key = none) ∧ m' = onePeerManager) ∨
          ∃ item d e, recvOne datagram = some item ∧ onePeerManager.sessions.lookup d = some e ∧
            m' = onePeerManager.recvOn d e item ∧ Manager.Step lengthDigests ipv4 onePeerManager m' ∧
            (∀ d', d' ≠ d → m'.sessions.lookup d' = onePeerManager.sessions.lookup d') ∧
            ((item.pkt.yourDiscriminator ≠ 0 ∧ d = item.pkt.yourDiscriminator ∧ e.session.localDiscr = d) ∨
              (item.pkt.yourDiscriminator = 0 ∧ (item.pkt.state = .down ∨ item.pkt.state = .adminDown) ∧
                e.key = pmeta.key ∧ e.session.localDiscr = d))) := by
  have hr : onePeerManager.Reachable lengthDigests ipv4 := ⟨[7, 8, 9], .single (.createSession _ _)⟩
  obtain ⟨m', rest, hrecv⟩ : ∃ m' rest, Receiver.recvOne ⟨false, 0⟩ onePeerManager
      [(⟨some [10, 0, 0, 1], some [10, 0, 0, 2], 255, "eth0"⟩, peerDownDatagram)] = some (m', rest) :=
    ⟨_, _, rfl⟩
  exact ⟨m', rest, hr, hrecv, control_receive_selects_session lengthDigests ipv4 hr hrecv⟩

example : ((Receiver.recvOne ⟨false, 0⟩ onePeerManager
        [(⟨some [10, 0, 0, 1], some [10, 0, 0, 2], 255, "eth0"⟩, peerDownDatagram)]).map fun r =>
          (r.1.sessions.lookup 7).map fun e => e.session.recvCh.length) = some (some 1) := by decide
example : ((Receiver.recvOne ⟨false, 0⟩ onePeerManager
        [(⟨some [10, 0, 0, 1], some [10, 0, 0, 2], 254, "eth0"⟩, peerDownDatagram)])) = none := by decide

end GoBFD
