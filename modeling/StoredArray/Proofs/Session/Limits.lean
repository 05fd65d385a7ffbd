import Mathlib.Data.List.Forall2
import StoredArray.Proofs.Session.InMemory
import StoredArray.Proofs.View.Availability

namespace StoredArray

theorem Index.parse_refusal {text : String} {error : Error}
    (refused : Index.parse text = .error error) : error.Refusal := by
  unfold Index.parse at refused
  split at refused
  · cases refused
  · cases refused
    simp [Error.Refusal, Error.kind]

namespace Session

/-- Any step that does not tell the stores to fail. -/
def Step.Faultless : Step → Prop
  | .addFault _ => False
  | _ => True

/-- No fault rule is set, every store is a memory whose values keep to the limit, and so do the
views. -/
structure State.Sound (state : State) : Prop where
  calm : state.faults = []
  memories : ∀ home, ∃ memory, state.pool.backend home = .memory memory ∧ memory.Bounded
  views : ∀ (name : String) (mounted : Mounted), state.views[name]? = some mounted →
    mounted.view.length ≤ Memory.maxValueLength

/-- What a step may answer: a view that it opened keeps to the limit, and an operation of a view
fails only because of what it is asked. -/
structure Step.Answers (step : Step) (answer : Except Failure Answer) : Prop where
  opened : ∀ key length, step.opened key answer = some length → length ≤ Memory.maxValueLength
  refused : step.OnView → ∀ error, answer = .error (.view error) → error.Refusal

theorem Step.Answers.unopened {step : Step} {answer : Except Failure Answer}
    (quiet : ∀ key, step.opened key answer = none)
    (refused : ∀ error, answer = .error (.view error) → error.Refusal) : step.Answers answer := by
  refine ⟨fun key length opened => ?_, fun _ => refused⟩
  rw [quiet] at opened
  cases opened

structure Turn.Sound (step : Step) (turn : Turn) : Prop where
  state : turn.state.Sound
  answers : step.Answers turn.answer

theorem Step.opened_eq_some {name handle target key : String} {requested : Option Nat}
    {answer : Except Failure Answer} {length : Nat}
    (opened : (Step.openView name handle target requested).opened key answer = some length) :
    ∃ value, answer = .ok value ∧ requested.getD View.defaultLength = length := by
  cases answer with
  | error failure => cases opened
  | ok value =>
    simp only [Step.opened] at opened
    split at opened
    · exact ⟨value, rfl, Option.some.inj opened⟩
    · cases opened

namespace State.Sound

variable {state : State}

theorem memory_put (sound : state.Sound) (home : Nat) {memory : Memory} (bounded : memory.Bounded) :
    { state with pool := state.pool.put home (.memory memory) }.Sound := by
  refine ⟨sound.calm, fun other => ?_, sound.views⟩
  simp only [Pool.backend_put]
  split
  · exact ⟨memory, rfl, bounded⟩
  · exact sound.memories other

theorem act {α : Type} {allowed : Call → Prop} {own : Error → Prop} {action : Action α}
    (sound : state.Sound) (home : Nat) (orderly : action.Orderly allowed own) :
    (state.act home action).state.Sound ∧
      ∃ memory, memory.Bounded ∧
        (state.act home action).result = (action.exec Memory.store memory).1 := by
  obtain ⟨memory, held, bounded⟩ := sound.memories home
  obtain ⟨result, holds⟩ := State.act_memory orderly sound.calm held
  refine ⟨⟨holds.calm, fun other => ?_, sound.views⟩, memory, bounded, result⟩
  by_cases same : other = home
  · subst same
    exact ⟨_, holds.held, bounded.exec action⟩
  · have kept := holds.others other same
    dsimp only at kept
    rw [kept]
    exact sound.memories other

theorem perform (sound : state.Sound) {mounted : Mounted}
    (short : mounted.view.length ≤ Memory.maxValueLength) (operation : Operation) :
    (state.perform mounted operation).state.Sound ∧
      ∀ error, (state.perform mounted operation).answer = .error (.view error) →
        error.Refusal := by
  obtain ⟨after, memory, bounded, result⟩ :=
    sound.act mounted.home (mounted.view.perform_orderly operation)
  refine ⟨after, fun error failed => ?_⟩
  simp only [State.perform, result] at failed
  split at failed
  · cases failed
  · cases failed
  · rename_i failure
    cases failed
    exact (View.perform_ends short operation).exec bounded error failure

theorem openView (allocator : Allocator) (sound : state.Sound) (name key : String)
    (length home : Nat) :
    (state.openView allocator name key length home).state.Sound ∧
      ∀ answer, (state.openView allocator name key length home).answer = .ok answer →
        length ≤ Memory.maxValueLength := by
  obtain ⟨after, memory, bounded, result⟩ :=
    sound.act home (View.openAt_orderly allocator key length)
  simp only [State.openView]
  split
  · rename_i view opened
    rw [result] at opened
    obtain ⟨rfl, fits⟩ := (View.openAt_ends allocator key length).exec bounded view opened
    refine ⟨⟨after.calm, after.memories, fun other mounted found => ?_⟩, fun _ _ => fits⟩
    rw [Std.ExtTreeMap.getElem?_insert] at found
    split at found
    · cases found
      exact fits
    · exact after.views other mounted found
  · refine ⟨after, ?_⟩
    intro answer succeeded
    cases succeeded

theorem callStore (sound : state.Sound) (call : Call) (home : Nat) :
    (state.callStore call home).state.Sound := by
  obtain ⟨memory, held, bounded⟩ := sound.memories home
  simp only [State.callStore, Pool.store, held, Backend.store]
  exact sound.memory_put home (bounded.serve call)

theorem remove (sound : state.Sound) (key : String) (home : Nat) :
    (state.remove key home).state.Sound := by
  obtain ⟨memory, held, bounded⟩ := sound.memories home
  simp only [State.remove, held]
  exact sound.memory_put home (bounded.remove key)

theorem script (sound : state.Sound) (reply : Remote.Reply) : (state.script reply).state.Sound := by
  obtain ⟨memory, held, _⟩ := sound.memories 0
  simp only [State.script, State.origin, held]
  exact sound

theorem make (allocator : Allocator) (sound : state.Sound) {step : Step} {move : Move}
    (comes : step.Comes state.handles state.views move) (faultless : step.Faultless) :
    (state.make allocator move).Sound step := by
  cases comes with
  | unknownHandle | unknownView => exact ⟨sound, .unopened (step.opened_error · _) nofun⟩
  | unreadable _ refused =>
    refine ⟨sound, .unopened (step.opened_error · _) fun error same => ?_⟩
    cases same
    exact Index.parse_refusal refused
  | performed viewed found =>
    obtain ⟨after, refused⟩ := sound.perform (sound.views _ _ found) _
    exact ⟨after, .unopened (Step.opened_of_handle?_eq_none viewed · _) refused⟩
  | opened found =>
    obtain ⟨after, fits⟩ := sound.openView allocator _ _ _ _
    refine ⟨after, fun target size opened => ?_, nofun⟩
    obtain ⟨answer, answered, rfl⟩ := Step.opened_eq_some opened
    exact fits answer answered
  | called => exact ⟨sound.callStore _ _, nofun, nofun⟩
  | removed => exact ⟨sound.remove _ _, nofun, nofun⟩
  | scripted => exact ⟨sound.script _, nofun, nofun⟩
  | described | counted | tested | inspected => exact ⟨sound, nofun, nofun⟩
  | shared | created => exact ⟨{ sound with }, nofun, nofun⟩
  | healed => exact ⟨{ sound with calm := rfl }, nofun, nofun⟩
  | faulted => exact faultless.elim

theorem step (allocator : Allocator) (sound : state.Sound) (step : Step)
    (faultless : step.Faultless) : (state.step allocator step).Sound step :=
  sound.make allocator (step.comes _ _) faultless

theorem run (allocators : Nat → Allocator) (sound : state.Sound) (steps : List Step)
    (faultless : ∀ step ∈ steps, step.Faultless) :
    List.Forall₂ (fun step report => step.Answers report.answer) steps
        (state.run allocators steps).1 ∧
      (state.run allocators steps).2.Sound := by
  induction steps generalizing allocators state with
  | nil => exact ⟨.nil, sound⟩
  | cons step rest shorter =>
    have turn := sound.step (allocators 0) step (faultless step List.mem_cons_self)
    obtain ⟨reports, final⟩ :=
      shorter _ turn.state fun later member => faultless later (List.mem_cons_of_mem _ member)
    exact ⟨.cons turn.answers reports, final⟩

theorem start : (State.start (.memory .empty)).Sound := by
  refine ⟨rfl, fun home => ⟨.empty, ?_, Memory.Bounded.empty⟩, fun name mounted found => ?_⟩
  · simp
  · simp at found

end State.Sound

/-- Views of stores in memory cannot fail once they are open. However calls to the stores, removals,
clones, opened views and their operations follow each other from an empty store, no value and no
view passes the limit, and no operation of an open view finds the store unavailable or a length too
large, even where its value was removed or replaced by a shorter one. -/
theorem views_never_unavailable (allocators : Nat → Allocator) (steps : List Step)
    (faultless : ∀ step ∈ steps, step.Faultless) :
    let run := (State.start (.memory .empty)).run allocators steps
    (∀ home key value, (run.2.pool.backend home).contents.get key = some value →
        value.length ≤ Memory.maxValueLength) ∧
      (∀ (name : String) (mounted : Mounted), run.2.views[name]? = some mounted →
        mounted.view.length ≤ Memory.maxValueLength) ∧
      List.Forall₂ (fun step report =>
        (∀ key length, step.opened key report.answer = some length →
          length ≤ Memory.maxValueLength) ∧
        (step.OnView → ∀ error, report.answer = .error (.view error) →
          error.kind ≠ .storeUnavailable ∧ error.kind ≠ .lengthTooLarge)) steps run.1 := by
  obtain ⟨answers, final⟩ := State.Sound.start.run allocators steps faultless
  refine ⟨fun home key value found => ?_, final.views,
    answers.imp fun _ _ answered => ⟨answered.opened, answered.refused⟩⟩
  obtain ⟨memory, held, bounded⟩ := final.memories home
  rw [held] at found
  have same : memory.bytes key = value := Memory.bytes_of_get found
  rw [← same]
  exact bounded key

theorem views_never_unavailable_removed :
    let steps : List Step :=
      [.openView "v" "main" "k" (some 8), .share "main" "other", .remove "other" "k",
        .perform "v" (.get (-1)), .perform "v" (.setSlice { step := some (-3) } [1, 2, 3]),
        .callStore "main" (.set "k" [9]), .writeText "v" "-1" [5], .readText "v" "::2",
        .callStore "other" (.setRange "k" 0xffffffffffffffff [1])]
    (∀ step ∈ steps, step.Faultless) ∧
      List.Forall₂ (fun step report => step.OnView → ∀ error,
        report.answer = .error (.view error) → error.kind ≠ .storeUnavailable)
        steps ((State.start (.memory .empty)).run (fun _ => .machine) steps).1 := by
  intro steps
  have faultless : ∀ step ∈ steps, step.Faultless := by
    simp [steps, Step.Faultless]
  have run := views_never_unavailable (fun _ => .machine) steps faultless
  exact ⟨faultless, run.2.2.imp fun _ _ answered on error failed => (answered.2 on error failed).1⟩

end Session

end StoredArray
