import StoredArray.Proofs.Remote.Serving
import StoredArray.Proofs.Session.Moves
import StoredArray.Proofs.View.Calls

namespace StoredArray

theorem View.Whole.addressable {key : String} {call : Call} (whole : View.Whole key call) :
    call.Addressable := by
  cases call with
  | get | set => trivial
  | getRange | setRange => exact whole.elim

theorem View.Contains.addressable {view : View} (short : view.length < 0x8000000000000000)
    {call : Call} (inside : view.Contains call) : call.Addressable := by
  cases call with
  | get key => trivial
  | set key data => trivial
  | getRange key first last =>
    obtain ⟨_, ordered, bound⟩ := inside
    exact ⟨by omega, by omega⟩
  | setRange key offset data =>
    obtain ⟨_, _, bound⟩ := inside
    exact Nat.lt_of_le_of_lt (Nat.le_trans (Nat.le_add_right _ _) bound) short

theorem View.length_opened {σ : Type} (allocator : Allocator) (store : Store σ) (state : σ)
    (key : String) (length : Nat) {view : View}
    (short : ∀ value, (store.serve (.get key) state).1 = .ok (some value) →
      value.length < 0x8000000000000000)
    (opened : ((View.openAt allocator key length).run store state).result = .ok view) :
    view.length < 0x8000000000000000 := by
  rw [View.openAt, Action.run_request_bind] at opened
  cases answered : (store.serve (.get key) state).1 with
  | error cause =>
    rw [answered] at opened
    cases opened
  | ok current =>
    rw [answered] at opened
    dsimp only at opened
    cases lacking : View.shortValue length current with
    | none =>
      rw [lacking] at opened
      obtain ⟨value, rfl, enough⟩ := View.shortValue_eq_none lacking
      cases opened
      exact Nat.lt_of_le_of_lt enough (short value answered)
    | some value =>
      rw [lacking] at opened
      dsimp only at opened
      rw [Action.run_note_bind] at opened
      dsimp only at opened
      by_cases granted : allocator.grants length
      · rw [if_pos granted, Action.run_bind_pure] at opened
        dsimp only at opened
        cases stored : ((Action.request (.set key (value.padTo length))).run store
            (store.serve (.get key) state).2).result with
        | error error =>
          rw [stored] at opened
          cases opened
        | ok _ =>
          rw [stored] at opened
          cases opened
          exact allocator.lt_of_grants length granted
      · rw [if_neg granted] at opened
        cases opened

namespace Session

namespace Backend

def Unscripted : Backend → Prop
  | memory _ => True
  | remote _ server => server.script = []

theorem serve_unscripted (backend : Backend) (silent : backend.Unscripted) (call : Call)
    (addressable : call.Addressable) :
    (store.serve call backend).1.mapError StoreError.blank =
        (Memory.store.serve call backend.contents).1.mapError StoreError.blank ∧
      (store.serve call backend).2.contents = (Memory.store.serve call backend.contents).2 ∧
      (store.serve call backend).2.Unscripted := by
  cases backend with
  | memory memory => exact ⟨rfl, rfl, trivial⟩
  | remote client server => exact server.serve_unscripted client silent call addressable

structure Twins (backend mirror : Backend) : Prop where
  contents_eq : backend.contents = mirror.contents
  bounded : backend.contents.Bounded
  silent : backend.Unscripted
  mirror_silent : mirror.Unscripted

theorem twins_parallel :
    Backend.store.Parallel StoreError.blank Call.Addressable Twins Backend.store := by
  intro call backend mirror addressable twins
  obtain ⟨answer, contents, silent⟩ := backend.serve_unscripted twins.silent call addressable
  obtain ⟨mirrored, image, muted⟩ := mirror.serve_unscripted twins.mirror_silent call addressable
  rw [← twins.contents_eq] at mirrored image
  refine ⟨answer.trans mirrored.symm, contents.trans image.symm, ?_, silent, muted⟩
  rw [contents]
  exact twins.bounded.serve call

theorem Twins.length_found {backend mirror : Backend} (twins : backend.Twins mirror)
    {key : String} {value : Bytes} (found : (store.serve (.get key) backend).1 = .ok (some value)) :
    value.length < 0x8000000000000000 := by
  have served := (backend.serve_unscripted twins.silent (.get key) trivial).1
  rw [found] at served
  have present : backend.contents.get key = some value := (Except.ok.inj served).symm
  have limited := twins.bounded key
  rw [Memory.bytes_of_get present] at limited
  exact Nat.lt_of_le_of_lt limited (by decide)

end Backend

namespace Pool

def Twins (pool mirror : Pool) : Prop :=
  ∀ home, (pool.backend home).Twins (mirror.backend home)

theorem Twins.put {pool mirror : Pool} (twins : pool.Twins mirror) (home : Nat)
    {backend image : Backend} (alike : backend.Twins image) :
    (pool.put home backend).Twins (mirror.put home image) := by
  intro other
  rw [backend_put, backend_put]
  split
  · exact alike
  · exact twins other

theorem twins_parallel (home : Nat) :
    (Pool.store home).Parallel StoreError.blank Call.Addressable Twins (Pool.store home) := by
  intro call pool mirror addressable twins
  obtain ⟨answer, after⟩ := Backend.twins_parallel call _ _ addressable (twins home)
  exact ⟨answer, twins.put home after⟩

theorem Twins.length_found {pool mirror : Pool} (twins : pool.Twins mirror) (home : Nat)
    (faults : List Fault) {key : String} {value : Bytes}
    (found : ((store home).guarded.serve (.get key) (faults, pool)).1 = .ok (some value)) :
    value.length < 0x8000000000000000 := by
  simp only [Store.guarded] at found
  split at found
  · cases found
  · exact (twins home).length_found found

end Pool

def Failure.outline : Failure → Failure
  | .view error => .view (error.through StoreError.blank)
  | .store error => .store error.blank
  | .removal key cause => .removal key cause.blank
  | .unknown name => .unknown name
  | .unsupported => .unsupported

/-- What a report says of a step without the words of the store, the answers to single calls and
the commands on the wire. -/
def Report.outline (report : Report) : Except Failure Answer × List (Record ⊕ Call) :=
  (report.answer.mapError Failure.outline, report.events.map Event.seen)

/-- A step that both kinds of store take in the same way: a call without a view has to keep to
positions that a signed word can hold. -/
def Step.Portable : Step → Prop
  | .callStore _ call => call.Addressable
  | .remove .. | .count _ | .isEmpty _ | .inspect _ | .script _ => False
  | _ => True

/-- Two sessions that differ only in where values are kept, and whose views are all short enough. -/
structure State.Twins (state mirror : State) : Prop where
  pool : state.pool.Twins mirror.pool
  next_eq : state.next = mirror.next
  handles_eq : state.handles = mirror.handles
  views_eq : state.views = mirror.views
  faults_eq : state.faults = mirror.faults
  short : ∀ (name : String) (mounted : Mounted),
    state.views[name]? = some mounted → mounted.view.length < 0x8000000000000000

structure Turn.Twins (turn image : Turn) : Prop where
  answer_eq : turn.answer.mapError Failure.outline = image.answer.mapError Failure.outline
  events_eq : turn.events.map Event.seen = image.events.map Event.seen
  state : turn.state.Twins image.state

namespace State.Twins

variable {state mirror : State}

theorem answer (twins : state.Twins mirror) (answer : Except Failure Answer) :
    (state.answer answer).Twins (mirror.answer answer) :=
  ⟨rfl, rfl, twins⟩

theorem act {α : Type} (twins : state.Twins mirror) (home : Nat) {own : Error → Prop}
    {action : Action α} (orderly : action.Orderly Call.Addressable own) :
    (state.act home action).result.mapError (Error.through StoreError.blank) =
        (mirror.act home action).result.mapError (Error.through StoreError.blank) ∧
      (state.act home action).events.map Event.seen =
        (mirror.act home action).events.map Event.seen ∧
      (state.act home action).state.Twins (mirror.act home action).state := by
  have alike : Fault.Alike Pool.Twins (state.faults, state.pool) (mirror.faults, mirror.pool) :=
    ⟨twins.faults_eq, twins.pool⟩
  obtain ⟨result, events, faults, pool⟩ :=
    orderly.run_parallel (Pool.twins_parallel home).guarded alike
  exact ⟨result, events, pool, twins.next_eq, twins.handles_eq, twins.views_eq, faults, twins.short⟩

theorem perform (twins : state.Twins mirror) (mounted : Mounted)
    (short : mounted.view.length < 0x8000000000000000) (operation : Operation) :
    (state.perform mounted operation).Twins (mirror.perform mounted operation) := by
  have orderly := (mounted.view.perform_orderly operation).weaken fun _ inside =>
    View.Contains.addressable short inside
  obtain ⟨result, events, after⟩ := twins.act mounted.home orderly
  refine ⟨?_, events, after⟩
  simp only [State.perform]
  rcases mapError_cases result with ⟨value, here, there⟩ | ⟨error, other, here, there, alike⟩
  · rw [here, there]
  · rw [here, there]
    simp [Failure.outline, alike]

theorem openView (allocator : Allocator) (twins : state.Twins mirror) (name key : String)
    (length home : Nat) :
    (state.openView allocator name key length home).Twins
      (mirror.openView allocator name key length home) := by
  have orderly := (View.openAt_orderly allocator key length).weaken fun _ => View.Whole.addressable
  obtain ⟨result, events, after⟩ := twins.act home orderly
  simp only [State.openView]
  rcases mapError_cases result with ⟨view, here, there⟩ | ⟨error, other, here, there, alike⟩
  · have short : view.length < 0x8000000000000000 :=
      View.length_opened allocator _ _ key length
        (fun _ found => twins.pool.length_found home state.faults found) here
    rw [here, there]
    refine ⟨rfl, events, after.pool, after.next_eq, after.handles_eq, ?_, after.faults_eq, ?_⟩
    · rw [after.views_eq]
    · intro other mounted found
      rw [Std.ExtTreeMap.getElem?_insert] at found
      split at found
      · cases found
        exact short
      · exact after.short other mounted found
  · rw [here, there]
    refine ⟨?_, events, after⟩
    simp [Failure.outline, alike]

theorem callStore (twins : state.Twins mirror) (call : Call) (addressable : call.Addressable)
    (home : Nat) : (state.callStore call home).Twins (mirror.callStore call home) := by
  obtain ⟨answer, after⟩ := Pool.twins_parallel home call _ _ addressable twins.pool
  refine ⟨?_, rfl, after, twins.next_eq, twins.handles_eq, twins.views_eq, twins.faults_eq,
    twins.short⟩
  simp only [State.callStore]
  rcases mapError_cases answer with ⟨reply, here, there⟩ | ⟨error, other, here, there, _⟩
  · rw [here, there]
  · rw [here, there]
    rfl

theorem make (allocator : Allocator) (twins : state.Twins mirror) {step : Step} {move : Move}
    (comes : step.Comes state.handles state.views move) (portable : step.Portable) :
    (state.make allocator move).Twins (mirror.make allocator move) := by
  cases comes with
  | unknownHandle | unknownView | unreadable | described => exact twins.answer _
  | performed _ found => exact twins.perform _ (twins.short _ _ found) _
  | opened => exact twins.openView allocator _ _ _ _
  | called => exact twins.callStore _ portable _
  | shared =>
    apply State.Twins.answer
    exact { twins with handles_eq := by rw [twins.handles_eq] }
  | created =>
    apply State.Twins.answer
    exact { twins with
      next_eq := by rw [twins.next_eq]
      handles_eq := by rw [twins.handles_eq, twins.next_eq] }
  | faulted =>
    apply State.Twins.answer
    exact { twins with faults_eq := by rw [twins.faults_eq] }
  | healed =>
    apply State.Twins.answer
    exact { twins with faults_eq := rfl }
  | removed | counted | tested | inspected | scripted => exact portable.elim

theorem step (allocator : Allocator) (twins : state.Twins mirror) (step : Step)
    (portable : step.Portable) :
    (state.step allocator step).Twins (mirror.step allocator step) := by
  rw [State.step, State.step, ← twins.handles_eq, ← twins.views_eq]
  exact twins.make allocator (step.comes _ _) portable

theorem run (allocators : Nat → Allocator) (twins : state.Twins mirror) (steps : List Step)
    (portable : ∀ step ∈ steps, step.Portable) :
    (state.run allocators steps).1.map Report.outline =
        (mirror.run allocators steps).1.map Report.outline ∧
      (state.run allocators steps).2.Twins (mirror.run allocators steps).2 := by
  induction steps generalizing allocators state mirror with
  | nil => exact ⟨rfl, twins⟩
  | cons step rest shorter =>
    have turn := twins.step (allocators 0) step (portable step List.mem_cons_self)
    obtain ⟨reports, final⟩ :=
      shorter _ turn.state fun later member => portable later (List.mem_cons_of_mem _ member)
    refine ⟨?_, final⟩
    simp only [State.run, List.map_cons, reports]
    simp only [State.report, Report.outline, turn.answer_eq, turn.events_eq]

theorem value_eq (twins : state.Twins mirror) (key : String) :
    state.value key = mirror.value key := by
  rw [State.value, State.value, State.origin, State.origin, (twins.pool 0).contents_eq]

end State.Twins

theorem State.start_twins {backend mirror : Backend} (twins : backend.Twins mirror) :
    (State.start backend).Twins (State.start mirror) := by
  refine ⟨fun home => ?_, rfl, rfl, rfl, rfl, fun name mounted found => ?_⟩
  · simp only [start_backend]
    split
    · exact twins
    · exact ⟨rfl, Memory.Bounded.empty, trivial, trivial⟩
  · simp at found

/-- A session cannot tell a memory from a server. Whatever portable steps it takes from an empty
store, both answer each of them alike, show the same records and calls, and end with the same
values. -/
theorem backends_interchangeable (client : Remote.Client) (allocators : Nat → Allocator)
    (steps : List Step) (portable : ∀ step ∈ steps, step.Portable) :
    let inMemory := (State.start (.memory .empty)).run allocators steps
    let onServer := (State.start (.remote client .empty)).run allocators steps
    inMemory.1.map Report.outline = onServer.1.map Report.outline ∧
      ∀ key, inMemory.2.value key = onServer.2.value key := by
  have twins : (Backend.memory .empty).Twins (.remote client .empty) :=
    ⟨rfl, Memory.Bounded.empty, trivial, rfl⟩
  obtain ⟨reports, final⟩ := (State.start_twins twins).run allocators steps portable
  exact ⟨reports, final.value_eq⟩

theorem backends_interchangeable_inverted :
    let steps : List Step :=
      [.openView "v" "main" "k" (some 4), .perform "v" (.setSlice { step := some (-3) } [7, 8]),
        .callStore "main" (.getRange "k" 3 1),
        .callStore "main" (.setRange "j" 0x7fffffffffffffff [1])]
    (∀ step ∈ steps, step.Portable) ∧
      ((State.start (.memory .empty)).run (fun _ => .machine) steps).1.map Report.outline =
        ((State.start (.remote .standard .empty)).run (fun _ => .machine) steps).1.map
          Report.outline := by
  intro steps
  have portable : ∀ step ∈ steps, step.Portable := by
    simp [steps, Step.Portable, Call.Addressable]
  exact ⟨portable, (backends_interchangeable .standard (fun _ => .machine) steps portable).1⟩

end Session

end StoredArray
