import StoredArray.Store.Action

namespace StoredArray

variable {σ α : Type}

/-- One turn of an action: it logs or makes a call. An action that has ended does nothing more. -/
def Action.turn (store : Store σ) : Action α → σ → Action α × σ
  | done result, state => (done result, state)
  | log _ next, state => (next, state)
  | call c next, state => (next (store.serve c state).1, (store.serve c state).2)

structure Crew (σ α : Type) where
  actions : List (Action α)
  state : σ

namespace Crew

def turn (store : Store σ) (crew : Crew σ α) (who : Nat) : Crew σ α :=
  match crew.actions[who]? with
  | none => crew
  | some action =>
    let next := action.turn store crew.state
    { actions := crew.actions.set who next.1, state := next.2 }

def run (store : Store σ) (crew : Crew σ α) (schedule : List Nat) : Crew σ α :=
  schedule.foldl (turn store) crew

def Finished (crew : Crew σ α) : Prop :=
  ∀ action ∈ crew.actions, ∃ result, action = .done result

theorem turn_of_getElem? (store : Store σ) {crew : Crew σ α} {who : Nat} {action : Action α}
    (found : crew.actions[who]? = some action) :
    crew.turn store who =
      { actions := crew.actions.set who (action.turn store crew.state).1
        state := (action.turn store crew.state).2 } := by
  simp only [turn, found]

theorem turn_of_absent (store : Store σ) {crew : Crew σ α} {who : Nat}
    (absent : crew.actions[who]? = none) : crew.turn store who = crew := by
  simp only [turn, absent]

theorem run_cons (store : Store σ) (crew : Crew σ α) (who : Nat) (schedule : List Nat) :
    crew.run store (who :: schedule) = (crew.turn store who).run store schedule := rfl

theorem run_append (store : Store σ) (crew : Crew σ α) (schedule more : List Nat) :
    crew.run store (schedule ++ more) = (crew.run store schedule).run store more :=
  List.foldl_append

@[simp]
theorem length_turn (store : Store σ) (crew : Crew σ α) (who : Nat) :
    (crew.turn store who).actions.length = crew.actions.length := by
  unfold turn
  split
  · rfl
  · simp only [List.length_set]

@[simp]
theorem length_run (store : Store σ) (crew : Crew σ α) (schedule : List Nat) :
    (crew.run store schedule).actions.length = crew.actions.length := by
  induction schedule generalizing crew with
  | nil => rfl
  | cons who rest shorter => rw [run_cons, shorter, length_turn]

theorem turn_advances (store : Store σ) {crew : Crew σ α} {who : Nat} {action : Action α}
    (found : crew.actions[who]? = some action) :
    (crew.turn store who).actions[who]? = some (action.turn store crew.state).1 ∧
      (crew.turn store who).state = (action.turn store crew.state).2 ∧
      ∀ last, (crew.turn store who).actions.set who last = crew.actions.set who last := by
  obtain ⟨bound, _⟩ := List.getElem?_eq_some_iff.mp found
  rw [turn_of_getElem? store found]
  exact ⟨List.getElem?_set_self bound, rfl, fun last => List.set_set _⟩

theorem exists_run_alone (store : Store σ) {crew : Crew σ α} {who : Nat} {action : Action α}
    (found : crew.actions[who]? = some action) :
    ∃ schedule,
      crew.run store schedule =
        { actions := crew.actions.set who (.done (action.run store crew.state).result)
          state := (action.run store crew.state).state } := by
  induction action generalizing crew with
  | done result =>
    obtain ⟨bound, same⟩ := List.getElem?_eq_some_iff.mp found
    have unchanged : crew.actions.set who (.done result) = crew.actions := by
      rw [← same, List.set_getElem_self]
    refine ⟨[], ?_⟩
    rw [Action.run, unchanged]
    rfl
  | log record next shorter =>
    obtain ⟨onward, state, kept⟩ := turn_advances store found
    obtain ⟨schedule, ended⟩ := shorter onward
    exact ⟨who :: schedule, by rw [run_cons, ended, kept, state]; rfl⟩
  | call c next shorter =>
    obtain ⟨onward, state, kept⟩ := turn_advances store found
    obtain ⟨schedule, ended⟩ := shorter (store.serve c crew.state).1 onward
    exact ⟨who :: schedule, by rw [run_cons, ended, kept, state]; rfl⟩

theorem exists_done_below (store : Store σ) (crew : Crew σ α) (count : Nat) :
    ∃ schedule, ∀ who < count, ∀ action, (crew.run store schedule).actions[who]? = some action →
      ∃ result, action = .done result := by
  induction count with
  | zero => exact ⟨[], nofun⟩
  | succ count fewer =>
    obtain ⟨schedule, below⟩ := fewer
    cases found : (crew.run store schedule).actions[count]? with
    | none =>
      refine ⟨schedule, fun who bound action member => ?_⟩
      rcases Nat.lt_succ_iff_lt_or_eq.mp bound with earlier | rfl
      · exact below who earlier action member
      · rw [found] at member
        cases member
    | some action =>
      obtain ⟨more, ended⟩ := exists_run_alone store found
      refine ⟨schedule ++ more, fun who bound other member => ?_⟩
      rw [run_append, ended, List.getElem?_set] at member
      split at member
      · split at member
        · exact ⟨_, (Option.some.inj member).symm⟩
        · cases member
      · exact below who (by omega) other member

theorem exists_finished (store : Store σ) (crew : Crew σ α) :
    ∃ schedule, (crew.run store schedule).Finished := by
  obtain ⟨schedule, below⟩ := exists_done_below store crew crew.actions.length
  refine ⟨schedule, fun action member => ?_⟩
  obtain ⟨who, bound, found⟩ := List.mem_iff_getElem.mp member
  rw [length_run] at bound
  exact below who bound action (List.getElem?_eq_some_iff.mpr ⟨_, found⟩)

end Crew

end StoredArray
