import Sastt.Domain.Errors

/-!
# The identity state machine

A session speaker is in one of six internal states, and moves between them
along the edges of a diagram; the machine keeps a history of the edges it
took. A machine enters in one of two states only, which the type of a
machine does not say and `SpeakerIdentityStateMachine.new` checks.

`SpeakerIdentityStateMachine.transition` raises on an edge that is not in
the diagram. Its specification is `transition_of_can` and
`transition_of_not_can`; nothing later unfolds it.
-/

namespace Sastt

/-- Internal identity state of a speaker. -/
inductive IdentityState
  | provisional
  | sessionAnonymous
  | enrolled
  | merged
  | ambiguous
  | unknown
deriving DecidableEq, Repr

/-- Public identity status. -/
inductive IdentityStatus
  | provisional
  | enrolled
  | anonymous
  | unknown
  | ambiguous
deriving DecidableEq, Repr

namespace IdentityState

/-- The `value` of a state. -/
def value : IdentityState → String
  | provisional => "PROVISIONAL"
  | sessionAnonymous => "SESSION_ANONYMOUS"
  | enrolled => "ENROLLED"
  | merged => "MERGED"
  | ambiguous => "AMBIGUOUS"
  | unknown => "UNKNOWN"

/-- `public_status`. -/
def publicStatus : IdentityState → IdentityStatus
  | provisional => .provisional
  | sessionAnonymous => .anonymous
  | merged => .anonymous
  | enrolled => .enrolled
  | ambiguous => .ambiguous
  | unknown => .unknown

/-- `INITIAL_STATES`, sorted by value. -/
def initialStates : List IdentityState := [provisional, sessionAnonymous]

/-- `ALLOWED_TRANSITIONS`, each row sorted by value. -/
def allowedTransitions : IdentityState → List IdentityState
  | provisional => [enrolled, sessionAnonymous, unknown]
  | sessionAnonymous => [enrolled, merged]
  | merged => [sessionAnonymous]
  | enrolled => [ambiguous]
  | ambiguous => [enrolled, unknown]
  | unknown => []

end IdentityState

/-- The `value` of a public status. -/
def IdentityStatus.value : IdentityStatus → String
  | provisional => "provisional"
  | enrolled => "enrolled"
  | anonymous => "anonymous"
  | unknown => "unknown"
  | ambiguous => "ambiguous"

/-- An edge taken. -/
structure StateTransition where
  fromState : IdentityState
  toState : IdentityState
  reason : String
  revision : ℕ
deriving DecidableEq, Repr

/-- **The machine**: its state, and the edges it took to get there. -/
structure SpeakerIdentityStateMachine where
  state : IdentityState
  history : List StateTransition
deriving DecidableEq, Repr

namespace SpeakerIdentityStateMachine

/-- The constructor: only some states are valid to start in. -/
def new (initial : IdentityState) : Except PyError SpeakerIdentityStateMachine :=
  if initial ∈ IdentityState.initialStates then .ok ⟨initial, []⟩
  else .error (.sastt .invalidStateTransition
    (initial.value ++ " is not a valid initial state")
    [("allowed", .strs (IdentityState.initialStates.map IdentityState.value))])

def status (m : SpeakerIdentityStateMachine) : IdentityStatus := m.state.publicStatus

/-- Revisions start at 1 and increase with every edge. -/
def revision (m : SpeakerIdentityStateMachine) : ℕ := m.history.length + 1

def canTransition (m : SpeakerIdentityStateMachine) (toState : IdentityState) : Bool :=
  toState ∈ m.state.allowedTransitions

/-- The machine after an edge, whether or not the diagram has it. -/
def move (m : SpeakerIdentityStateMachine) (toState : IdentityState) (reason : String) :
    SpeakerIdentityStateMachine where
  state := toState
  history := m.history ++ [⟨m.state, toState, reason, m.revision + 1⟩]

/-- `transition`: take an edge of the diagram, or raise. -/
def transition (m : SpeakerIdentityStateMachine) (toState : IdentityState) (reason : String) :
    Except PyError SpeakerIdentityStateMachine :=
  if m.canTransition toState then .ok (m.move toState reason)
  else .error (.sastt .invalidStateTransition
    ("illegal transition " ++ m.state.value ++ " -> " ++ toState.value)
    [("from", .str m.state.value), ("to", .str toState.value),
      ("allowed", .strs (m.state.allowedTransitions.map IdentityState.value))])

variable {m : SpeakerIdentityStateMachine} {toState : IdentityState}

@[simp] theorem move_state (m : SpeakerIdentityStateMachine) (toState : IdentityState)
    (reason : String) : (m.move toState reason).state = toState := rfl

/-- An edge of the diagram is taken. -/
theorem transition_of_can (h : toState ∈ m.state.allowedTransitions) (reason : String) :
    m.transition toState reason = .ok (m.move toState reason) := by
  unfold transition canTransition
  rw [if_pos (decide_eq_true h)]

/-- Any other raises. -/
theorem transition_of_not_can (h : toState ∉ m.state.allowedTransitions) (reason : String) :
    ∃ e, m.transition toState reason = .error e := by
  unfold transition canTransition
  rw [if_neg (by simpa using h)]
  exact ⟨_, rfl⟩

/-- Every edge taken leads to the state asked for. -/
theorem transition_eq_ok {reason : String} {m' : SpeakerIdentityStateMachine}
    (h : m.transition toState reason = .ok m') :
    toState ∈ m.state.allowedTransitions ∧ m' = m.move toState reason := by
  unfold transition canTransition at h
  split at h
  · next hcan =>
    cases h
    exact ⟨of_decide_eq_true hcan, rfl⟩
  · cases h

/-! ## Paths -/

/-- **A path of the diagram**: each edge is one of it, and begins where the last
one ended. -/
def IsPath : IdentityState → List StateTransition → IdentityState → Prop
  | start, [], stop => start = stop
  | start, e :: rest, stop =>
    e.fromState = start ∧ e.toState ∈ start.allowedTransitions ∧ IsPath e.toState rest stop

/-- Paths are put together. -/
theorem IsPath.append {start middle stop : IdentityState} {edges more : List StateTransition}
    (h : IsPath start edges middle) (h' : IsPath middle more stop) :
    IsPath start (edges ++ more) stop := by
  induction edges generalizing start with
  | nil =>
    cases h
    exact h'
  | cons e edges ih => exact ⟨h.1, h.2.1, ih h.2.2⟩

/-- A machine went somewhere along the diagram. -/
def Reaches (m m' : SpeakerIdentityStateMachine) : Prop :=
  ∃ edges, m'.history = m.history ++ edges ∧ IsPath m.state edges m'.state

theorem Reaches.refl (m : SpeakerIdentityStateMachine) : m.Reaches m :=
  ⟨[], (List.append_nil _).symm, rfl⟩

theorem Reaches.trans {m m' m'' : SpeakerIdentityStateMachine} (h : m.Reaches m')
    (h' : m'.Reaches m'') : m.Reaches m'' := by
  obtain ⟨edges, hedges, hpath⟩ := h
  obtain ⟨more, hmore, hpath'⟩ := h'
  exact ⟨edges ++ more, by rw [hmore, hedges, List.append_assoc], hpath.append hpath'⟩

/-- An edge of the diagram is a path. -/
theorem reaches_move (h : toState ∈ m.state.allowedTransitions) (reason : String) :
    m.Reaches (m.move toState reason) :=
  ⟨[⟨m.state, toState, reason, m.revision + 1⟩], rfl, rfl, h, rfl⟩

/-- **The history accounts for the state**: it is a path from a state that
machines enter in. -/
def Accounted (m : SpeakerIdentityStateMachine) : Prop :=
  ∃ initial ∈ IdentityState.initialStates, IsPath initial m.history m.state

theorem Accounted.of_reaches {m m' : SpeakerIdentityStateMachine} (h : m.Accounted)
    (h' : m.Reaches m') : m'.Accounted := by
  obtain ⟨initial, hinitial, hpath⟩ := h
  obtain ⟨edges, hedges, hpath'⟩ := h'
  exact ⟨initial, hinitial, hedges ▸ hpath.append hpath'⟩

/-- A machine that has just entered. -/
theorem accounted_new {initial : IdentityState} (h : initial ∈ IdentityState.initialStates) :
    Accounted ⟨initial, []⟩ := ⟨initial, h, rfl⟩

end SpeakerIdentityStateMachine

end Sastt
