import StoredArray.Proofs.Session.Limits
import StoredArray.Proofs.View.LocalArray

namespace StoredArray

namespace Memory

def lengthAt (memory : Memory) (key : String) : Option Nat :=
  (memory.get key).map List.length

@[simp]
theorem lengthAt_insert (memory : Memory) (key other : String) (value : Bytes) :
    (memory.insert key value).lengthAt other =
      if key = other then some value.length else memory.lengthAt other := by
  rw [lengthAt, get_insert]
  split <;> rfl

theorem length_bytes (memory : Memory) (key : String) :
    (memory.bytes key).length = (memory.lengthAt key).getD 0 := by
  rw [bytes, lengthAt]
  cases memory.get key <;> rfl

def Covers (memory : Memory) (view : View) : Prop :=
  ∃ stored, memory.lengthAt view.key = some stored ∧ view.length ≤ stored

/-- Each value has grown to the length that is given for its key, if it was shorter. -/
def Grown (memory after : Memory) (opened : String → Option Nat) : Prop :=
  ∀ key, after.lengthAt key = Option.merge max (memory.lengthAt key) (opened key)

theorem Grown.refl (memory : Memory) : memory.Grown memory fun _ => none := by
  intro key
  cases memory.lengthAt key <;> rfl

theorem Covers.grown {memory after : Memory} {opened : String → Option Nat} {view : View}
    (covers : memory.Covers view) (grown : memory.Grown after opened) : after.Covers view := by
  obtain ⟨stored, found, enough⟩ := covers
  have next := grown view.key
  rw [found] at next
  cases here : opened view.key with
  | none =>
    rw [here] at next
    exact ⟨stored, next, enough⟩
  | some length =>
    rw [here] at next
    exact ⟨max stored length, next, Nat.le_trans enough (Nat.le_max_left _ _)⟩

theorem Covers.length_le {memory : Memory} {view : View} (covers : memory.Covers view)
    (bounded : memory.Bounded) : view.length ≤ maxValueLength := by
  obtain ⟨stored, found, enough⟩ := covers
  have short := bounded view.key
  rw [length_bytes, found, Option.getD_some] at short
  exact Nat.le_trans enough short

end Memory

namespace View

theorem exec_perform_covered {view : View} {memory : Memory} (covers : memory.Covers view)
    (bounded : memory.Bounded) (operation : Operation) :
    (∃ array : Bytes, array.length = view.length ∧
        ((view.perform operation).exec Memory.store memory).1 =
          (LocalArray.perform array operation).1) ∧
      memory.Grown ((view.perform operation).exec Memory.store memory).2 fun _ => none := by
  have fits := covers.length_le bounded
  obtain ⟨stored, found, enough⟩ := covers
  obtain ⟨value, present, rfl⟩ := Option.map_eq_some_iff.mp found
  -- Cut at the length of the view, the value is a local array and a rest that no operation reaches.
  have holds : memory.get view.key = some (value.take view.length ++ value.drop view.length) := by
    rw [List.take_append_drop, present]
  have same : (value.take view.length).length = view.length := by
    rw [List.length_take]
    omega
  rw [exec_perform_local holds same fits operation]
  refine ⟨⟨_, same, rfl⟩, fun key => ?_⟩
  rw [Memory.lengthAt_insert]
  split
  · rename_i here
    rw [← here, found, List.length_append, LocalArray.length_perform, same, List.length_drop]
    exact congrArg some (by omega)
  · exact Memory.Grown.refl memory key

theorem opened_grown {allocator : Allocator} {memory after : Memory} (bounded : memory.Bounded)
    {key : String} {length : Nat} {view : View}
    (opened : (openAt allocator key length).exec Memory.store memory = (.ok view, after)) :
    memory.Grown after fun other => if key = other then some length else none := by
  obtain ⟨_, _, rfl⟩ := opened_of_exec bounded opened
  intro other
  by_cases here : key = other
  · subst here
    simp only [Memory.lengthAt_insert, if_true, Bytes.length_padTo, Memory.length_bytes]
    cases memory.lengthAt key with
    | none => exact congrArg some (Nat.zero_max length)
    | some stored => rfl
  · simp only [Memory.lengthAt_insert, here, if_false]
    exact Memory.Grown.refl memory other

theorem kept_of_unopened {allocator : Allocator} {memory after : Memory} {key : String}
    {length : Nat} {error : Error}
    (failed : (openAt allocator key length).exec Memory.store memory = (.error error, after)) :
    after = memory := by
  rw [exec_openAt] at failed
  split at failed
  · split at failed
    · split at failed
      · cases failed
      · exact (Prod.mk.inj failed).2.symm
    · exact (Prod.mk.inj failed).2.symm
  · cases failed

end View

namespace LocalArray

theorem length_filterMap_getElem? (array : Bytes) {positions : List Nat}
    (inside : ∀ position ∈ positions, position < array.length) :
    (positions.filterMap (array[·]?)).length = positions.length := by
  induction positions with
  | nil => rfl
  | cons position rest shorter =>
    have here := inside position List.mem_cons_self
    have later := shorter fun other member => inside other (List.mem_cons_of_mem _ member)
    rw [List.filterMap_cons, List.getElem?_eq_getElem here, List.length_cons, List.length_cons,
      later]

theorem length_getSlice {view : View} {array : Bytes} (same : array.length = view.length)
    (small : view.length < 0x8000000000000000) (slice : Slice) :
    slice.step = some 0 ∧ getSlice array slice = .error .zeroStep ∨
      ∃ bytes, getSlice array slice = .ok bytes ∧
        bytes.length = (slice.walk view.length).positions.length := by
  by_cases zero : slice.step = some 0
  · left
    rw [getSlice, select, if_pos zero]
    exact ⟨zero, rfl⟩
  · right
    rcases View.resolve_cases view array same small slice with
      ⟨_, refused⟩ | ⟨span, _, follows, selected⟩
    · rw [select, if_neg zero] at refused
      cases refused
    · refine ⟨span.indices.filterMap (array[·]?), by rw [getSlice, selected]; rfl, ?_⟩
      rw [length_filterMap_getElem? array fun _ member => follows.lt_extent_of_mem_indices member,
        follows.indices_eq_positions, same]

end LocalArray

namespace Session

def Step.ThroughViews : Step → Prop
  | .openView .. | .describe _ | .perform .. | .readText .. | .writeText .. | .share .. => True
  | _ => False

/-- All handles lead to one memory, which covers every open view. -/
structure State.Covered (state : State) (memory : Memory) : Prop where
  calm : state.faults = []
  held : state.pool.backend 0 = .memory memory
  bounded : memory.Bounded
  handles : ∀ (handle : String) (home : Nat), state.handles[handle]? = some home → home = 0
  views : ∀ (name : String) (mounted : Mounted), state.views[name]? = some mounted →
    mounted.home = 0 ∧ memory.Covers mounted.view

/-- A turn after which values have grown as the views opened in it demand, and no more. -/
def Turn.Grows (memory : Memory) (step : Step) (turn : Turn) : Prop :=
  ∃ after, turn.state.Covered after ∧ memory.Grown after fun key => step.opened key turn.answer

namespace State.Covered

variable {state : State} {memory : Memory}

theorem idle {step : Step} (covered : state.Covered memory) {turn : Turn}
    (same : turn.state = state)
    (quiet : ∀ key, step.opened key turn.answer = none) : turn.Grows memory step := by
  refine ⟨memory, same ▸ covered, fun key => ?_⟩
  simp only [quiet]
  exact Memory.Grown.refl memory key

theorem perform {step : Step} (covered : state.Covered memory) {mounted : Mounted}
    (home : mounted.home = 0) (covers : memory.Covers mounted.view) (operation : Operation)
    (quiet : ∀ key answer, step.opened key answer = none) :
    (state.perform mounted operation).Grows memory step := by
  obtain ⟨_, grown⟩ := View.exec_perform_covered covers covered.bounded operation
  obtain ⟨_, holds⟩ := State.act_memory (mounted.view.perform_orderly operation) covered.calm
    (home ▸ covered.held)
  have bounded := covered.bounded.exec (mounted.view.perform operation)
  refine ⟨_, ⟨holds.calm, home ▸ holds.held, bounded, covered.handles, fun name other found => ?_⟩,
    fun key => by simp only [quiet]; exact grown key⟩
  obtain ⟨there, enough⟩ := covered.views name other found
  exact ⟨there, enough.grown grown⟩

theorem openView (allocator : Allocator) (covered : state.Covered memory)
    (name handle key : String) (length : Option Nat) :
    (state.openView allocator name key (length.getD View.defaultLength) 0).Grows memory
      (.openView name handle key length) := by
  obtain ⟨result, holds⟩ := State.act_memory
    (View.openAt_orderly allocator key (length.getD View.defaultLength)) covered.calm covered.held
  have bounded :=
    covered.bounded.exec (View.openAt allocator key (length.getD View.defaultLength))
  rcases done :
    (View.openAt allocator key (length.getD View.defaultLength)).exec Memory.store memory with
    ⟨outcome, after⟩
  rw [done] at result holds bounded
  simp only [State.openView]
  cases outcome with
  | ok view =>
    rw [result]
    obtain ⟨rfl, _, final⟩ := View.opened_of_exec covered.bounded done
    have grown := View.opened_grown covered.bounded done
    refine ⟨after, ⟨holds.calm, holds.held, bounded, covered.handles, ?_⟩, grown⟩
    intro other mounted found
    rw [Std.ExtTreeMap.getElem?_insert] at found
    split at found
    · cases found
      refine ⟨rfl, max (memory.bytes key).length (length.getD View.defaultLength), ?_,
        Nat.le_max_right _ _⟩
      simp [final]
    · obtain ⟨there, enough⟩ := covered.views other mounted found
      exact ⟨there, enough.grown grown⟩
  | error error =>
    rw [result]
    obtain rfl := View.kept_of_unopened done
    exact ⟨after, ⟨holds.calm, holds.held, bounded, covered.handles, covered.views⟩,
      Memory.Grown.refl after⟩

theorem share (covered : state.Covered memory) (source target : String) :
    Turn.Grows memory (.share source target)
      ({ state with handles := state.handles.insert target 0 }.answer (.ok .nothing)) := by
  refine ⟨memory, { covered with handles := fun handle home found => ?_ }, Memory.Grown.refl memory⟩
  simp only [State.answer, Std.ExtTreeMap.getElem?_insert] at found
  split at found
  · exact (Option.some.inj found).symm
  · exact covered.handles handle home found

theorem make (allocator : Allocator) (covered : state.Covered memory) {step : Step} {move : Move}
    (comes : step.Comes state.handles state.views move) (through : step.ThroughViews) :
    (state.make allocator move).Grows memory step := by
  cases comes with
  | unknownHandle | unknownView | unreadable =>
    exact covered.idle rfl (step.opened_error · _)
  | described => exact covered.idle rfl fun _ => rfl
  | performed viewed found =>
    obtain ⟨home, covers⟩ := covered.views _ _ found
    exact covered.perform home covers _ (Step.opened_of_handle?_eq_none viewed)
  | opened found =>
    cases covered.handles _ _ found
    exact covered.openView allocator _ _ _ _
  | shared found =>
    cases covered.handles _ _ found
    exact covered.share _ _
  | called | removed | counted | tested | inspected | created | faulted | healed | scripted =>
    exact through.elim

theorem step (allocator : Allocator) (covered : state.Covered memory) (step : Step)
    (through : step.ThroughViews) : (state.step allocator step).Grows memory step :=
  covered.make allocator (step.comes _ _) through

theorem start {memory : Memory} (bounded : memory.Bounded) :
    (State.start (.memory memory)).Covered memory := by
  refine ⟨rfl, State.start_backend _ 0, bounded, fun handle home found => ?_,
    fun name mounted found => ?_⟩
  · obtain ⟨-, rfl⟩ : "main" = handle ∧ 0 = home := by simpa using found
    rfl
  · simp at found

end State.Covered

def openedOn (key : String) (steps : List Step) (reports : List Report) : List Nat :=
  (steps.zip reports).filterMap fun taken => taken.1.opened key taken.2.answer

def grownTo (lengths : List Nat) (stored : Option Nat) : Option Nat :=
  lengths.foldl (fun stored length => Option.merge max stored (some length)) stored

theorem getD_grownTo (lengths : List Nat) (stored : Option Nat) :
    (grownTo lengths stored).getD 0 = lengths.foldl max (stored.getD 0) := by
  induction lengths generalizing stored with
  | nil => rfl
  | cons length rest shorter =>
    rw [grownTo, List.foldl_cons, ← grownTo, shorter, List.foldl_cons]
    cases stored with
    | none => rw [Option.getD_none, Nat.zero_max]; rfl
    | some stored => rfl

theorem isSome_grownTo (lengths : List Nat) (stored : Option Nat) :
    (grownTo lengths stored).isSome ↔ stored.isSome ∨ lengths ≠ [] := by
  induction lengths generalizing stored with
  | nil => simp [grownTo]
  | cons length rest shorter =>
    rw [grownTo, List.foldl_cons, ← grownTo, shorter]
    cases stored <;> simp [Option.merge]

namespace State.Covered

variable {state : State} {memory : Memory}

theorem run (allocators : Nat → Allocator) (covered : state.Covered memory) (steps : List Step)
    (through : ∀ step ∈ steps, step.ThroughViews) :
    ∃ after, (state.run allocators steps).2.Covered after ∧
      ∀ key, after.lengthAt key =
        grownTo (openedOn key steps (state.run allocators steps).1) (memory.lengthAt key) := by
  induction steps generalizing allocators state memory with
  | nil => exact ⟨memory, covered, fun _ => rfl⟩
  | cons step rest shorter =>
    obtain ⟨middle, turn, grown⟩ :=
      covered.step (allocators 0) step (through step List.mem_cons_self)
    obtain ⟨after, final, lengths⟩ :=
      shorter _ turn fun later member => through later (List.mem_cons_of_mem _ member)
    refine ⟨after, final, fun key => ?_⟩
    -- The first step takes the length from `memory` to `middle`, and the others from there.
    rw [lengths key, grown key]
    simp only [State.run, openedOn, List.zip_cons_cons, List.filterMap_cons, State.report]
    cases step.opened key (state.step (allocators 0) step).answer with
    | none => cases memory.lengthAt key <;> rfl
    | some length => rfl

theorem value_eq (covered : state.Covered memory) (key : String) :
    state.value key = memory.get key := by
  rw [State.value, State.origin, covered.held]
  rfl

theorem read_slice (allocator : Allocator) (covered : state.Covered memory) {name : String}
    {mounted : Mounted} (found : state.views[name]? = some mounted) {operation : Operation}
    {slice : Slice} (plain : operation.plain = .getSlice slice) :
    slice.step = some 0 ∧
        (state.step allocator (.perform name operation)).answer = .error (.view .zeroStep) ∨
      ∃ bytes,
        (state.step allocator (.perform name operation)).answer = .ok (.value (.bytes bytes)) ∧
        bytes.length = (slice.walk mounted.view.length).positions.length := by
  obtain ⟨home, covers⟩ := covered.views name mounted found
  have small : mounted.view.length < 0x8000000000000000 :=
    Nat.lt_of_le_of_lt (covers.length_le covered.bounded) (by decide)
  obtain ⟨result, _⟩ := State.act_memory (mounted.view.perform_orderly operation) covered.calm
    (home ▸ covered.held)
  obtain ⟨⟨array, same, performed⟩, _⟩ :=
    View.exec_perform_covered covers covered.bounded operation
  rw [performed, ← LocalArray.perform_plain, plain] at result
  simp only [State.step, Step.move, Move.ofView, found, State.make, State.perform, result,
    LocalArray.perform, LocalArray.reading]
  rcases LocalArray.length_getSlice same small slice with ⟨zero, refused⟩ | ⟨bytes, read, count⟩
  · rw [refused]
    exact .inl ⟨zero, rfl⟩
  · rw [read]
    exact .inr ⟨bytes, rfl, count⟩

end State.Covered

/-- Opened views are the only thing that makes values longer. After any number of steps through any
views of one memory, each value is as long as the longest of what it was at the start and the views
opened on it, and a key is there if it was or if a view was opened on it. So whatever other views
did, reading a slice through an open view gives as many bytes as the slice selects. -/
theorem lengths_of_opened_views (allocators : Nat → Allocator) (memory : Memory)
    (reachable : memory.Reachable) (steps : List Step)
    (through : ∀ step ∈ steps, step.ThroughViews) :
    let run := (State.start (.memory memory)).run allocators steps
    (∀ key,
        let lengths := openedOn key steps run.1
        ((run.2.value key).getD []).length = lengths.foldl max (memory.bytes key).length ∧
          ((run.2.value key).isSome ↔ (memory.get key).isSome ∨ lengths ≠ [])) ∧
      ∀ (allocator : Allocator) (name : String) (mounted : Mounted) (operation : Operation)
        (slice : Slice), run.2.views[name]? = some mounted → operation.plain = .getSlice slice →
        let answer := (run.2.step allocator (.perform name operation)).answer
        (slice.step ≠ some 0 → ∃ bytes, answer = .ok (.value (.bytes bytes))) ∧
          ∀ bytes, answer = .ok (.value (.bytes bytes)) →
            bytes.length = (slice.walk mounted.view.length).positions.length := by
  intro run
  obtain ⟨after, final, lengths⟩ :=
    (State.Covered.start reachable.bounded).run allocators steps through
  constructor
  · intro key
    have present : (run.2.value key).isSome = (after.lengthAt key).isSome := by
      rw [final.value_eq, Memory.lengthAt, Option.isSome_map]
    have found : (memory.get key).isSome = (memory.lengthAt key).isSome := by
      rw [Memory.lengthAt, Option.isSome_map]
    rw [present, found, lengths key]
    refine ⟨?_, isSome_grownTo _ _⟩
    rw [final.value_eq, ← Memory.bytes, Memory.length_bytes, lengths key, getD_grownTo,
      ← Memory.length_bytes]
  · intro allocator name mounted operation slice found plain
    rcases final.read_slice allocator found plain with ⟨zero, refused⟩ | ⟨bytes, read, count⟩
    · refine ⟨fun nonzero => absurd zero nonzero, fun bytes read => ?_⟩
      rw [refused] at read
      cases read
    · refine ⟨fun _ => ⟨bytes, read⟩, fun other same => ?_⟩
      rw [read] at same
      cases same
      exact count

theorem lengths_of_opened_views_overlapping :
    let memory := (Memory.store.serve (.set "k" [1, 2, 3]) .empty).2
    let steps : List Step :=
      [.openView "short" "main" "k" (some 2), .openView "long" "main" "k" (some 5),
        .perform "long" (.setSlice { start := some 1, step := some 3 } [7, 8]),
        .openView "endless" "main" "j" (some 0x1000000000000), .perform "short" .toBytes]
    memory.Reachable ∧ (∀ step ∈ steps, step.ThroughViews) ∧
      let run := (State.start (.memory memory)).run (fun _ => .machine) steps
      ∀ key, ((run.2.value key).getD []).length =
        (openedOn key steps run.1).foldl max (memory.bytes key).length := by
  intro memory steps
  have reachable : memory.Reachable := .serve _ .empty
  have through : ∀ step ∈ steps, step.ThroughViews := by
    simp [steps, Step.ThroughViews]
  have run := lengths_of_opened_views (fun _ => .machine) memory reachable steps through
  exact ⟨reachable, through, fun key => (run.1 key).1⟩

end Session

end StoredArray
