import StoredArray.Proofs.Memory.Dictionary
import StoredArray.Proofs.Session.InMemory

namespace StoredArray.Session

/-- A call, a removal or a question to a store without a view, or a clone of a handle. -/
def Step.Direct : Step → Prop
  | .callStore .. | .remove .. | .count _ | .isEmpty _ | .share .. => True
  | _ => False

structure Shared where
  names : Finset String
  entries : Dictionary

namespace Shared

def start : Shared where
  names := {"main"}
  entries := ∅

def through (shared : Shared) (name : String) (turn : Except Failure Answer × Shared) :
    Except Failure Answer × Shared :=
  if name ∈ shared.names then turn else (.error (.unknown name), shared)

def call (shared : Shared) (call : Call) : Except Failure Answer × Shared :=
  let served := Dictionary.store.serve call shared.entries
  let answer :=
    match served.1 with
    | .ok reply => .ok (.ofReply call reply)
    | .error error => .error (.store error)
  (answer, { shared with entries := served.2 })

def step (shared : Shared) : Step → Except Failure Answer × Shared
  | .callStore name call => shared.through name (shared.call call)
  | .remove name key =>
    shared.through name
      (.ok (.stored (shared.entries.lookup key)),
        { shared with entries := shared.entries.erase key })
  | .count name => shared.through name (.ok (.count shared.entries.keys.card), shared)
  | .isEmpty name => shared.through name (.ok (.flag (shared.entries.keys = ∅)), shared)
  | .share source target =>
    shared.through source (.ok .nothing, { shared with names := insert target shared.names })
  | _ => (.error .unsupported, shared)

def run (shared : Shared) : List Step → List (Except Failure Answer) × Shared
  | [] => ([], shared)
  | step :: rest =>
    let turn := shared.step step
    let further := turn.2.run rest
    (turn.1 :: further.1, further.2)

theorem step_unknown (shared : Shared) {step : Step} (direct : step.Direct) {name : String}
    (named : step.handle? = some name) (missing : name ∉ shared.names) :
    shared.step step = (.error (.unknown name), shared) := by
  cases step with
  | callStore | remove | count | isEmpty | share =>
    cases named
    exact if_neg missing
  | _ => exact direct.elim

end Shared

theorem Step.Direct.handle?_ne_none {step : Step} (direct : step.Direct) : step.handle? ≠ none := by
  cases step with
  | callStore | remove | count | isEmpty | share => exact Option.some_ne_none _
  | _ => exact direct.elim

/-- The handles of a session are the names of the map, and all lead to a memory with its entries. -/
structure State.Mirrors (state : State) (shared : Shared) : Prop where
  handles : ∀ name, state.handles[name]? = if name ∈ shared.names then some 0 else none
  held : ∃ memory, state.pool.backend 0 = .memory memory ∧ memory.Represents shared.entries

structure Turn.Mirrors (turn : Turn) (image : Except Failure Answer × Shared) : Prop where
  answer_eq : turn.answer = image.1
  state : turn.state.Mirrors image.2

namespace State.Mirrors

variable {state : State} {shared : Shared}

theorem put (mirrors : state.Mirrors shared) {memory : Memory} {entries : Dictionary}
    (represents : memory.Represents entries) :
    { state with pool := state.pool.put 0 (.memory memory) }.Mirrors { shared with entries } :=
  ⟨mirrors.handles, memory, by simp, represents⟩

theorem not_mem (mirrors : state.Mirrors shared) {name : String}
    (missing : state.handles[name]? = none) : name ∉ shared.names := by
  intro known
  rw [mirrors.handles, if_pos known] at missing
  cases missing

theorem of_found (mirrors : state.Mirrors shared) {name : String} {home : Nat}
    (found : state.handles[name]? = some home) :
    home = 0 ∧ ∀ turn, shared.through name turn = turn := by
  rw [mirrors.handles] at found
  split at found
  · rename_i known
    exact ⟨(Option.some.inj found).symm, fun turn => if_pos known⟩
  · cases found

theorem callStore (mirrors : state.Mirrors shared) (call : Call) :
    (state.callStore call 0).Mirrors (shared.call call) := by
  obtain ⟨memory, held, represents⟩ := mirrors.held
  obtain ⟨answer, after⟩ := Memory.dictionary_parallel call memory shared.entries trivial represents
  simp only [State.callStore, Pool.store, held, Backend.store, Shared.call]
  rcases mapError_cases answer with ⟨reply, here, there⟩ | ⟨error, other, here, there, same⟩
  · rw [here, there]
    exact ⟨rfl, mirrors.put after⟩
  · obtain rfl : error = other := same
    rw [here, there]
    exact ⟨rfl, mirrors.put after⟩

theorem remove (mirrors : state.Mirrors shared) (key : String) :
    (state.remove key 0).Mirrors
      (.ok (.stored (shared.entries.lookup key)),
        { shared with entries := shared.entries.erase key }) := by
  obtain ⟨memory, held, represents⟩ := mirrors.held
  simp only [State.remove, held]
  refine ⟨?_, mirrors.put (represents.remove key)⟩
  simp only [State.answer, Memory.remove, represents key]

theorem ask (mirrors : state.Mirrors shared) {question : Memory → Answer} {answer : Answer}
    (told : ∀ memory : Memory, memory.Represents shared.entries → question memory = answer) :
    (state.answer (Backend.tell question (state.pool.backend 0))).Mirrors (.ok answer, shared) := by
  obtain ⟨memory, held, represents⟩ := mirrors.held
  rw [held]
  exact ⟨congrArg Except.ok (told memory represents), mirrors⟩

theorem share (mirrors : state.Mirrors shared) (target : String) :
    ({ state with handles := state.handles.insert target 0 }.answer (.ok .nothing)).Mirrors
      (.ok .nothing, { shared with names := insert target shared.names }) := by
  refine ⟨rfl, fun name => ?_, mirrors.held⟩
  simp only [State.answer, Std.ExtTreeMap.getElem?_insert, Finset.mem_insert, mirrors.handles]
  by_cases same : target = name
  · simp [same]
  · simp [same, Ne.symm same]

theorem make (allocator : Allocator) (mirrors : state.Mirrors shared) {step : Step} {move : Move}
    (comes : step.Comes state.handles state.views move) (direct : step.Direct) :
    (state.make allocator move).Mirrors (shared.step step) := by
  cases comes with
  | unknownHandle named missing =>
    rw [shared.step_unknown direct named (mirrors.not_mem missing)]
    exact ⟨rfl, mirrors⟩
  | unknownView viewed | unreadable viewed | performed viewed =>
    exact absurd viewed direct.handle?_ne_none
  | called found =>
    obtain ⟨rfl, known⟩ := mirrors.of_found found
    rw [Shared.step, known]
    exact mirrors.callStore _
  | removed found =>
    obtain ⟨rfl, known⟩ := mirrors.of_found found
    rw [Shared.step, known]
    exact mirrors.remove _
  | counted found =>
    obtain ⟨rfl, known⟩ := mirrors.of_found found
    rw [Shared.step, known]
    exact mirrors.ask fun _ represents => congrArg Answer.count represents.size_eq
  | tested found =>
    obtain ⟨rfl, known⟩ := mirrors.of_found found
    rw [Shared.step, known]
    exact mirrors.ask fun _ represents => congrArg Answer.flag represents.isEmpty_eq
  | shared found =>
    obtain ⟨rfl, known⟩ := mirrors.of_found found
    rw [Shared.step, known]
    exact mirrors.share _
  | described | opened | inspected | created | faulted | healed | scripted => exact direct.elim

theorem step (allocator : Allocator) (mirrors : state.Mirrors shared) (step : Step)
    (direct : step.Direct) : (state.step allocator step).Mirrors (shared.step step) :=
  mirrors.make allocator (step.comes _ _) direct

theorem run (allocators : Nat → Allocator) (mirrors : state.Mirrors shared) (steps : List Step)
    (direct : ∀ step ∈ steps, step.Direct) :
    (state.run allocators steps).1.map Report.answer = (shared.run steps).1 ∧
      (state.run allocators steps).2.Mirrors (shared.run steps).2 := by
  induction steps generalizing allocators state shared with
  | nil => exact ⟨rfl, mirrors⟩
  | cons step rest shorter =>
    have turn := mirrors.step (allocators 0) step (direct step List.mem_cons_self)
    obtain ⟨answers, final⟩ :=
      shorter _ turn.state fun later member => direct later (List.mem_cons_of_mem _ member)
    refine ⟨?_, final⟩
    simp only [State.run, Shared.run, List.map_cons, answers, State.report, turn.answer_eq]

theorem start : (State.start (.memory .empty)).Mirrors Shared.start := by
  refine ⟨fun name => ?_, .empty, State.start_backend _ 0, Memory.Represents.empty⟩
  rw [State.start_handles, Shared.start]
  simp only [Finset.mem_singleton, eq_comm]

end State.Mirrors

/-- A memory is a finite map of byte strings, through however many clones it is used. In every run
of direct steps each answer is that of the map, and so is every value at the end. On the way no read
leaves the value it reads from, and every write finds just the room that its data takes. -/
theorem clones_share_dictionary (allocators : Nat → Allocator) (steps : List Step)
    (direct : ∀ step ∈ steps, step.Direct) :
    let run := (State.start (.memory .empty)).run allocators steps
    let mapped := Shared.start.run steps
    run.1.map Report.answer = mapped.1 ∧
      (∀ key, run.2.value key = mapped.2.entries.lookup key) ∧
      (∀ (memory : Memory) key value first last window, memory.get key = some value →
        Window.clip { first, last } value.length = some window →
        value.slice? window = some (memory.getRange key first last)) ∧
      ∀ (memory : Memory) key offset data, data ≠ [] →
        offset + data.length ≤ Memory.maxValueLength →
        ∃ stored,
          ((memory.bytes key).padTo (offset + data.length)).copyInto? offset
              (offset + data.length) data = some stored ∧
            memory.setRange key offset data = (.ok (), memory.insert key stored) := by
  obtain ⟨answers, final⟩ := State.Mirrors.start.run allocators steps direct
  refine ⟨answers, fun key => ?_, ?_, Memory.copyInto?_setRange⟩
  · obtain ⟨memory, held, represents⟩ := final.held
    rw [State.value, State.origin, held]
    exact represents key
  · intro memory key value first last window found clipped
    exact Memory.slice?_getRange found clipped

theorem clones_share_dictionary_gap :
    let steps : List Step :=
      [.share "main" "other", .callStore "other" (.setRange "k" 2 [7]),
        .callStore "main" (.getRange "k" 1 0xffffffffffffffff),
        .callStore "other" (.setRange "j" 0xffffffffffffffff [1]),
        .callStore "main" (.setRange "j" 0xffffffffffffffff []), .count "other",
        .remove "main" "k", .isEmpty "other"]
    (∀ step ∈ steps, step.Direct) ∧
      ((State.start (.memory .empty)).run (fun _ => .machine) steps).1.map Report.answer =
        (Shared.start.run steps).1 := by
  intro steps
  have direct : ∀ step ∈ steps, step.Direct := by
    simp [steps, Step.Direct]
  exact ⟨direct, (clones_share_dictionary (fun _ => .machine) steps direct).1⟩

end StoredArray.Session
