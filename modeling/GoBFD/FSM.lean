import GoBFD.Packet

/-!
# GoBFD.FSM

The session state machine of `internal/bfd/fsm.go` (RFC 5880 Section 6.8.6):
the events, the actions, the transition table `fsmTable`, `ApplyEvent` and
`RecvStateToEvent`.

`ApplyEvent` reads a 4 by 7 array filled from the table at start-up; a pair
the table does not list leaves the state alone with no actions.  The model
reads the table directly.

What the rest of the development uses about the table is stated once here:

* `applyEvent_newState_up_or_init`: a transition ends in Init or Up only on
  a received Down, Init or Up, or by staying where it was;
* `applyEvent_notifyDown`: `NotifyDown` is only ever asked for on a change
  into Down;
* `applyEvent_adminDown_state`: AdminDown is left only on `AdminUp`;
* `applyEvent_down_diag`: every transition into Down or AdminDown carries
  the action that sets its diagnostic.
-/

namespace GoBFD

/-- `Event`, in the order of its Go constants. -/
inductive Event where
  | recvAdminDown
  | recvDown
  | recvInit
  | recvUp
  | timerExpired
  | adminDown
  | adminUp
  deriving Repr, DecidableEq

/-- `Action`, in the order of its Go constants. -/
inductive Action where
  | sendControl
  | notifyUp
  | notifyDown
  | setDiagTimeExpired
  | setDiagNeighborDown
  | setDiagAdminDown
  deriving Repr, DecidableEq

/-- A table entry: the next state and the actions to run. -/
structure Transition where
  newState : State
  actions : List Action
  deriving Repr, DecidableEq

/-- `FSMResult`. -/
structure FSMResult where
  oldState : State
  newState : State
  actions : List Action
  changed : Bool
  deriving Repr, DecidableEq

/-- `fsmTable`: the transitions of RFC 5880 Section 6.8.6 with their
actions; the pairs it does not list are `none`. -/
def fsmTable : State → Event → Option Transition
  | .adminDown, .adminUp => some ⟨.down, []⟩
  | .down, .recvDown => some ⟨.init, [.sendControl]⟩
  | .down, .recvInit => some ⟨.up, [.sendControl, .notifyUp]⟩
  | .down, .adminDown => some ⟨.adminDown, [.setDiagAdminDown]⟩
  | .init, .recvAdminDown => some ⟨.down, [.setDiagNeighborDown, .notifyDown]⟩
  | .init, .recvDown => some ⟨.init, []⟩
  | .init, .recvInit => some ⟨.up, [.sendControl, .notifyUp]⟩
  | .init, .recvUp => some ⟨.up, [.sendControl, .notifyUp]⟩
  | .init, .timerExpired => some ⟨.down, [.setDiagTimeExpired, .notifyDown]⟩
  | .init, .adminDown => some ⟨.adminDown, [.setDiagAdminDown]⟩
  | .up, .recvAdminDown => some ⟨.down, [.setDiagNeighborDown, .notifyDown]⟩
  | .up, .recvDown => some ⟨.down, [.setDiagNeighborDown, .notifyDown]⟩
  | .up, .recvInit => some ⟨.up, []⟩
  | .up, .recvUp => some ⟨.up, []⟩
  | .up, .timerExpired => some ⟨.down, [.setDiagTimeExpired, .notifyDown]⟩
  | .up, .adminDown => some ⟨.adminDown, [.setDiagAdminDown]⟩
  | _, _ => none

/-- `ApplyEvent(currentState, event)`. -/
def applyEvent (currentState : State) (event : Event) : FSMResult :=
  match fsmTable currentState event with
  | none => { oldState := currentState, newState := currentState, actions := [], changed := false }
  | some tr =>
    { oldState := currentState
      newState := tr.newState
      actions := tr.actions
      changed := currentState != tr.newState }

/-- `RecvStateToEvent(remoteState)`. -/
def recvStateToEvent : State → Event
  | .adminDown => .recvAdminDown
  | .down => .recvDown
  | .init => .recvInit
  | .up => .recvUp

/-! ## What a transition can do -/

variable {s : State} {e : Event}

@[simp] theorem applyEvent_oldState (s : State) (e : Event) : (applyEvent s e).oldState = s := by
  unfold applyEvent
  split <;> rfl

/-- `Changed` is exactly a move to another state. -/
theorem applyEvent_changed (s : State) (e : Event) :
    (applyEvent s e).changed = true ↔ (applyEvent s e).newState ≠ s := by
  unfold applyEvent
  split
  · simp
  · simp [bne_iff_ne, ne_comm]

/-- A pair outside the table moves nowhere and asks for nothing. -/
theorem applyEvent_of_none (h : fsmTable s e = none) :
    applyEvent s e = { oldState := s, newState := s, actions := [], changed := false } := by
  simp [applyEvent, h]

theorem applyEvent_of_some {tr : Transition} (h : fsmTable s e = some tr) :
    applyEvent s e =
      { oldState := s
        newState := tr.newState
        actions := tr.actions
        changed := s != tr.newState } := by
  simp [applyEvent, h]

/-- Init and Up are entered only on a received Down, Init or Up. -/
theorem applyEvent_newState_up_or_init
    (h : (applyEvent s e).newState = .init ∨ (applyEvent s e).newState = .up) :
    (applyEvent s e).newState = s ∨ e = .recvDown ∨ e = .recvInit ∨ e = .recvUp := by
  cases s <;> cases e <;> simp_all [applyEvent, fsmTable]

/-- Up is entered from another state only on a received Init or Up. -/
theorem applyEvent_up (hc : (applyEvent s e).changed = true)
    (hup : (applyEvent s e).newState = .up) : e = .recvInit ∨ e = .recvUp := by
  cases s <;> cases e <;> simp_all [applyEvent, fsmTable]

/-- The received states that give the events `RecvInit` and `RecvUp`. -/
theorem recvStateToEvent_init_or_up {st : State}
    (h : recvStateToEvent st = .recvInit ∨ recvStateToEvent st = .recvUp) :
    st = .init ∨ st = .up := by
  cases st <;> simp_all [recvStateToEvent]

/-- `NotifyDown` is only asked for on a transition into Down from another
state. -/
theorem applyEvent_notifyDown (h : Action.notifyDown ∈ (applyEvent s e).actions) :
    (applyEvent s e).changed = true ∧ (applyEvent s e).newState = .down := by
  cases s <;> cases e <;> simp_all [applyEvent, fsmTable]

/-- AdminDown is left only on `AdminUp`, and then only for Down. -/
theorem applyEvent_adminDown_state (e : Event) :
    (applyEvent .adminDown e).newState = .adminDown ∨
      (e = .adminUp ∧ (applyEvent .adminDown e).newState = .down) := by
  cases e <;> simp [applyEvent, fsmTable]

/-- The diagnostic action each transition into Down or AdminDown carries:
time expired on the timer, neighbor down on a received Down or AdminDown,
admin down on the local AdminDown event. -/
theorem applyEvent_down_diag (hc : (applyEvent s e).changed = true) :
    ((applyEvent s e).newState = .down →
      (e = .timerExpired ∧ (applyEvent s e).actions = [.setDiagTimeExpired, .notifyDown]) ∨
      ((e = .recvDown ∨ e = .recvAdminDown) ∧
        (applyEvent s e).actions = [.setDiagNeighborDown, .notifyDown]) ∨
      (e = .adminUp ∧ (applyEvent s e).actions = [])) ∧
    ((applyEvent s e).newState = .adminDown →
      e = .adminDown ∧ (applyEvent s e).actions = [.setDiagAdminDown]) := by
  cases s <;> cases e <;> simp_all [applyEvent, fsmTable]

end GoBFD
