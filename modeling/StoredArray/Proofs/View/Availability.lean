import StoredArray.Proofs.Memory.Ranges
import StoredArray.Proofs.Store.Interleaving
import StoredArray.Proofs.View.Calls

namespace StoredArray

variable {α β : Type}

theorem Memory.Bounded.turn {memory : Memory} (bounded : memory.Bounded) (action : Action α) :
    (action.turn Memory.store memory).2.Bounded := by
  cases action with
  | done | log => exact bounded
  | call c next => exact bounded.serve c

namespace Action

/-- The action ends well whichever bounded memories answer its calls, a different one each time. So
it does not matter what others do to the memory between any two of them. -/
def Ends (well : Except Error α → Prop) : Action α → Prop
  | done result => well result
  | log _ next => next.Ends well
  | call c next =>
    ∀ memory : Memory, memory.Bounded → (next (Memory.store.serve c memory).1).Ends well

def attempt : Action α → Action (Except Error α)
  | done result => done (.ok result)
  | log record next => log record next.attempt
  | call c next => call c fun reply => (next reply).attempt

theorem Orderly.ends {allowed : Call → Prop} {own : Error → Prop} {action : Action α}
    (orderly : action.Orderly allowed own)
    (accepted : ∀ c memory, allowed c → ∃ reply, (Memory.store.serve c memory).1 = .ok reply) :
    action.Ends fun result => ∀ error, result = .error error → own error := by
  induction action with
  | done result => exact orderly
  | log record next shorter => exact shorter orderly
  | call c next shorter =>
    obtain ⟨permitted, _, goes⟩ := orderly
    intro memory _
    obtain ⟨reply, answered⟩ := accepted c memory permitted
    rw [answered]
    exact shorter (.ok reply) (goes reply)

namespace Ends

variable {action : Action α} {well : Except Error α → Prop}

theorem bind {f : α → Action β} {good : Except Error β → Prop} (first : action.Ends well)
    (fails : ∀ error, well (.error error) → good (.error error))
    (second : ∀ a, well (.ok a) → (f a).Ends good) : (action >>= f).Ends good := by
  induction action with
  | done result =>
    cases result with
    | ok a => exact second a first
    | error error => exact fails error first
  | log record next shorter => exact shorter first
  | call c next shorter => exact fun memory bounded => shorter _ (first memory bounded)

theorem imp {good : Except Error α → Prop} (ends : action.Ends well)
    (wider : ∀ result, well result → good result) : action.Ends good := by
  induction action with
  | done result => exact wider result ends
  | log record next shorter => exact shorter ends
  | call c next shorter => exact fun memory bounded => shorter _ (ends memory bounded)

theorem note (record : Record) : (Action.note record).Ends fun _ => True := trivial

theorem request (c : Call) :
    (Action.request c).Ends fun result => ∃ memory : Memory, memory.Bounded ∧
      result = (Memory.store.serve c memory).1.mapError .storeUnavailable := by
  intro memory bounded
  cases answered : (Memory.store.serve c memory).1 with
  | ok reply => exact ⟨memory, bounded, by rw [answered]; rfl⟩
  | error cause => exact ⟨memory, bounded, by rw [answered]; rfl⟩

theorem attempt (ends : action.Ends well) :
    action.attempt.Ends fun result => ∃ ended, result = .ok ended ∧ well ended := by
  induction action with
  | done result => exact ⟨result, rfl, ends⟩
  | log record next shorter => exact shorter ends
  | call c next shorter => exact fun memory bounded => shorter _ (ends memory bounded)

theorem turn (ends : action.Ends well) {memory : Memory} (bounded : memory.Bounded) :
    (action.turn Memory.store memory).1.Ends well := by
  cases action with
  | done | log => exact ends
  | call c next => exact ends memory bounded

theorem exec (ends : action.Ends well) {memory : Memory} (bounded : memory.Bounded) :
    well (action.exec Memory.store memory).1 := by
  induction action generalizing memory with
  | done result => exact ends
  | log record next shorter => exact shorter ends bounded
  | call c next shorter => exact shorter _ (ends memory bounded) (bounded.serve c)

end Ends

end Action

namespace View

theorem Contains.accepted {view : View} (fits : view.length ≤ Memory.maxValueLength) (call : Call)
    (memory : Memory) (inside : view.Contains call) :
    ∃ reply, (Memory.store.serve call memory).1 = .ok reply := by
  cases call with
  | get | set => exact inside.elim
  | getRange key first last => exact ⟨_, rfl⟩
  | setRange key offset data =>
    obtain ⟨-, nonempty, bound⟩ := inside
    have written := memory.setRange_eq_insert key offset data nonempty (Nat.le_trans bound fits)
    exact ⟨(), congrArg Prod.fst written⟩

theorem perform_ends {view : View} (fits : view.length ≤ Memory.maxValueLength)
    (operation : Operation) :
    (view.perform operation).Ends fun result => ∀ error, result = .error error → error.Refusal :=
  (view.perform_orderly operation).ends (Contains.accepted fits)

theorem openAt_ends (allocator : Allocator) (key : String) (length : Nat) :
    (openAt allocator key length).Ends fun result => ∀ view, result = .ok view →
      view = { key, length } ∧ length ≤ Memory.maxValueLength := by
  apply (Action.Ends.request (.get key)).bind fun _ _ => nofun
  rintro current ⟨memory, bounded, got⟩
  obtain rfl : current = memory.get key := Except.ok.inj got
  split
  · rename_i enough
    obtain ⟨value, found, long⟩ := shortValue_eq_none enough
    have limit := bounded key
    rw [Memory.bytes_of_get found] at limit
    rintro view ⟨⟩
    exact ⟨rfl, Nat.le_trans long limit⟩
  · rename_i value _
    apply (Action.Ends.note _).bind fun _ _ => nofun
    intro _ _
    split
    · -- What was found may be gone by now, but the padded value is set or refused as a whole.
      apply (Action.Ends.request _).bind fun _ _ => nofun
      rintro _ ⟨other, _, stored⟩ view ⟨⟩
      refine ⟨rfl, ?_⟩
      simp only [Memory.store, Memory.set] at stored
      split at stored
      · rename_i short
        rw [Bytes.length_padTo] at short
        omega
      · cases stored
    · rintro view ⟨⟩

def attemptAll (view : View) : List Operation → Action (List (Except Error (Option Value)))
  | [] => pure []
  | operation :: rest => do
    let first ← (view.perform operation).attempt
    let others ← view.attemptAll rest
    return first :: others

def client (allocator : Allocator) (key : String) (length : Nat) (operations : List Operation) :
    Action (List (Except Error (Option Value))) := do
  let view ← openAt allocator key length
  view.attemptAll operations

theorem attemptAll_ends {view : View} (fits : view.length ≤ Memory.maxValueLength)
    (operations : List Operation) :
    (view.attemptAll operations).Ends fun result => ∀ results, result = .ok results →
      ∀ ended ∈ results, ∀ error, ended = .error error → error.Refusal := by
  induction operations with
  | nil =>
    rintro results ⟨⟩ ended member
    cases member
  | cons operation rest shorter =>
    apply (perform_ends fits operation).attempt.bind fun _ _ => nofun
    rintro first ⟨ended, same, refusal⟩
    cases same
    apply shorter.bind fun _ _ => nofun
    rintro others fine results ⟨⟩
    exact List.forall_mem_cons.mpr ⟨refusal, fine others rfl⟩

theorem client_ends (allocator : Allocator) (key : String) (length : Nat)
    (operations : List Operation) :
    (client allocator key length operations).Ends fun result => ∀ results, result = .ok results →
      length ≤ Memory.maxValueLength ∧
        ∀ ended ∈ results, ∀ error, ended = .error error → error.Refusal := by
  apply (openAt_ends allocator key length).bind fun _ _ => nofun
  intro view opened
  obtain ⟨rfl, fits⟩ := opened view rfl
  exact (attemptAll_ends fits operations).imp fun _ fine results ended =>
    ⟨fits, fine results ended⟩

end View

namespace Crew

variable {crew : Crew Memory α} {who : Nat} {well : Except Error α → Prop}

/-- One of the actions takes a turn, or somebody else removes a key. -/
def stir (crew : Crew Memory α) : Nat ⊕ String → Crew Memory α
  | .inl who => crew.turn Memory.store who
  | .inr key => { crew with state := (crew.state.remove key).2 }

def stirAll (crew : Crew Memory α) (events : List (Nat ⊕ String)) : Crew Memory α :=
  events.foldl stir crew

structure Ending (crew : Crew Memory α) (who : Nat) (well : Except Error α → Prop) : Prop where
  bounded : crew.state.Bounded
  ends : ∀ action, crew.actions[who]? = some action → action.Ends well

theorem Ending.start (bounded : crew.state.Bounded) {action : Action α}
    (found : crew.actions[who]? = some action) (ends : action.Ends well) :
    crew.Ending who well := by
  refine ⟨bounded, fun other same => ?_⟩
  rw [found] at same
  cases same
  exact ends

theorem Ending.turn (ending : crew.Ending who well) (other : Nat) :
    (crew.turn Memory.store other).Ending who well := by
  cases found : crew.actions[other]? with
  | none =>
    rw [turn_of_absent Memory.store found]
    exact ending
  | some action =>
    rw [turn_of_getElem? Memory.store found]
    refine ⟨ending.bounded.turn action, fun next there => ?_⟩
    rw [List.getElem?_set] at there
    split at there
    · rename_i same
      subst same
      split at there
      · cases there
        exact (ending.ends action found).turn ending.bounded
      · cases there
    · exact ending.ends next there

theorem Ending.stir (ending : crew.Ending who well) (event : Nat ⊕ String) :
    (crew.stir event).Ending who well := by
  cases event with
  | inl other => exact ending.turn other
  | inr key => exact ⟨ending.bounded.remove key, ending.ends⟩

theorem Ending.stirAll (ending : crew.Ending who well) (events : List (Nat ⊕ String)) :
    (crew.stirAll events).Ending who well := by
  induction events generalizing crew with
  | nil => exact ending
  | cons event rest shorter => exact shorter (ending.stir event)

/-- Calls that come between the calls of an operation do not make it fail. Whatever else shares a
memory, in whatever order calls and removals happen, the memory stays bounded, and whoever has
opened a view and performed operations on it finds its length within the limit, the store never
unavailable and no length too large. -/
theorem clients_never_unavailable
    (crew : Crew Memory (List (Except Error (Option Value)))) (bounded : crew.state.Bounded)
    (events : List (Nat ⊕ String)) :
    let after := crew.stirAll events
    after.state.Bounded ∧
      ∀ (who : Nat) allocator key length operations results,
        crew.actions[who]? = some (View.client allocator key length operations) →
        after.actions[who]? = some (.done (.ok results)) →
        length ≤ Memory.maxValueLength ∧
          ∀ ended ∈ results, ∀ error, ended = .error error →
            error.kind ≠ .storeUnavailable ∧ error.kind ≠ .lengthTooLarge := by
  intro after
  constructor
  · have anyone : crew.Ending crew.actions.length fun _ => True := by
      refine ⟨bounded, fun action there => ?_⟩
      rw [List.getElem?_eq_none (Nat.le_refl _)] at there
      cases there
    exact (anyone.stirAll events).bounded
  · intro who allocator key length operations results there finished
    have ending := Ending.start bounded there (View.client_ends allocator key length operations)
    exact (ending.stirAll events).ends _ finished results rfl

end Crew

end StoredArray
