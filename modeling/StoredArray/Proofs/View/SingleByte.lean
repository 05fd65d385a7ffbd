import StoredArray.Proofs.Slice.Summaries
import StoredArray.Proofs.View.Containment
import StoredArray.Proofs.View.Validation

namespace StoredArray

open Word

/-- The slice from an index up to the next one. After the last index counted from the end comes
zero, which as a bound is the start of the array, so that the stop is left out there. -/
def Slice.single (index : Int64) : Slice :=
  if index = -1 then .onward index else .between index (index + 1)

theorem Word.toInt_succ {word : Int64} (notLast : word ≠ Int64.maxValue) :
    (word + 1).toInt = word.toInt + 1 := by
  have least := word.le_toInt
  have most := word.toInt_lt
  have one := Int64.toInt_one
  have short : word.toInt ≠ 0x7fffffffffffffff := fun last => notLast (Int64.toInt_inj.mp last)
  rw [toInt_add_of_fits word 1 (by omega) (by omega), one]

theorem Walk.positions_of_adjacent {walk : Walk} (one : walk.step = 1)
    (adjacent : walk.stop = walk.start + 1) : walk.positions = [walk.start.toNat] := by
  have first : walk.Before walk.start := by
    unfold Before
    omega
  have ended : ¬ walk.Before (walk.start + walk.step) := by
    unfold Before
    omega
  rw [positions, onward, if_pos first, onward, if_neg ended]
  rfl

namespace Slice

theorem step_single_ne_zero (index : Int64) : (single index).step ≠ some 0 := by
  rw [single]
  split <;> exact nofun

theorem walk_single (index : Int64) (length : Nat) (notLast : index ≠ Int64.maxValue) :
    (single index).walk length =
      { start := if index.toInt < 0 then max (index.toInt + length) 0 else min index.toInt length
        stop :=
          if index.toInt < 0 then max (index.toInt + 1 + length) 0
          else min (index.toInt + 1) length
        step := 1 } := by
  -- Only at the last index does the next integer count from the other end.
  by_cases minus : index = -1
  · subst minus
    have word : (-1 : Int64).toInt = -1 := rfl
    simp [single, onward, walk, settle, word]
  · have next := toInt_succ notLast
    have past : index.toInt ≠ -1 := fun same => minus (Int64.toInt_inj.mp same)
    have negative : index.toInt + 1 < 0 ↔ index.toInt < 0 := by omega
    simp [single, minus, between, walk, settle, next, negative]

end Slice

structure Span.Lone (span : Span) (position : Nat) : Prop where
  step_eq : span.step = 1
  indices_eq : span.indices = [position]
  lowest_eq : span.lowest = some position
  window_eq : span.window = some { first := position, last := position }

theorem Span.Follows.lone {span : Span} {position extent : Nat}
    (follows : span.Follows { start := position, stop := position + 1, step := 1 } extent) :
    span.Lone position := by
  have indices : span.indices = [position] := by
    rw [follows.indices_eq_positions, Walk.positions_of_adjacent rfl rfl]
    rfl
  have nonempty : span.window ≠ none := by
    rw [ne_eq, span.window_eq_none_iff, ← span.length_indices, indices]
    exact Nat.one_ne_zero
  obtain ⟨window, found⟩ := Option.ne_none_iff_exists'.mp nonempty
  obtain ⟨first, last⟩ := (follows.window_covers found).forward Int.one_pos
  obtain ⟨low, high⟩ := window
  dsimp only at first last
  refine ⟨Int64.toInt_inj.mp follows.step_eq, indices, ?_, ?_⟩
  · rw [follows.lowest_eq_min?, indices]
    rfl
  · rw [found, Option.some.injEq, Window.mk.injEq]
    omega

variable {σ α : Type}

/-- A run that asks the store one thing: it makes this call and no other, and leaves the store as
the call leaves it. -/
structure Outcome.Asks (outcome : Outcome σ α) (store : Store σ) (call : Call) (state : σ) :
    Prop where
  calls_eq : outcome.calls = [call]
  state_eq : outcome.state = (store.serve call state).2

theorem Action.run_request (store : Store σ) (c : Call) (state : σ) :
    (request c).run store state =
      { result := (store.serve c state).1.mapError .storeUnavailable
        state := (store.serve c state).2
        events := [.called ⟨c, (store.serve c state).1⟩] } := by
  simp only [request, run]
  cases (store.serve c state).1 <;> rfl

theorem Action.run_writeAll_singleton (store : Store σ) (key : String) (offset : Nat) (data : Bytes)
    (state : σ) :
    (writeAll key [(offset, data)]).run store state =
      (request (.setRange key offset data)).run store state := by
  rw [writeAll, run_request_bind, run_request]
  cases (store.serve (.setRange key offset data) state).1 <;> rfl

theorem Span.Lone.headD_pick {span : Span} {position : Nat} (lone : span.Lone position)
    (bytes : Bytes) : (span.pick bytes).headD 0 = bytes.headD 0 := by
  rw [pick, lone.step_eq, if_pos (by decide)]
  cases bytes <;> rfl

namespace View

theorem position_of_located {view : View} {index : Int64} {position : Nat}
    (located : view.locate index = .ok position) :
    (position : Int) = if index.toInt < 0 then index.toInt + view.length else index.toInt := by
  simp only [locate, neg_iff] at located
  generalize (if index.toInt < 0 then index.toInt + view.length else index.toInt) = place
    at located ⊢
  split at located
  · have same := Except.ok.inj located
    omega
  · cases located

variable {view : View} {index : Int64} {position : Nat}

theorem positions_single_of_outside (notLast : index ≠ Int64.maxValue)
    (outside : Operation.Outside view.length index) :
    ((Slice.single index).walk view.length).positions = [] := by
  apply Walk.positions_of_ended
  rw [Slice.walk_single index view.length notLast]
  unfold Operation.Outside at outside
  unfold Walk.Before
  dsimp only
  split <;> omega

theorem walk_single_of_located (notLast : index ≠ Int64.maxValue)
    (located : view.locate index = .ok position) :
    (Slice.single index).walk view.length =
      { start := position, stop := position + 1, step := 1 } := by
  have place := position_of_located located
  have bound := locate_lt located
  rw [Slice.walk_single index view.length notLast, Walk.mk.injEq]
  split at place
  · rename_i negative
    simp only [negative, if_true]
    exact ⟨by omega, by omega, trivial⟩
  · rename_i nonneg
    simp only [nonneg, if_false]
    exact ⟨by omega, by omega, trivial⟩

theorem exists_lone_of_located (addressable : view.length ≤ 0x7fffffffffffffff)
    (notLast : index ≠ Int64.maxValue) (located : view.locate index = .ok position) :
    ∃ span, (Slice.single index).resolve view.length = .ok span ∧ span.Lone position := by
  obtain ⟨span, resolved, follows⟩ :=
    Slice.exists_span addressable (Slice.step_single_ne_zero index)
  rw [walk_single_of_located notLast located] at follows
  exact ⟨span, resolved, follows.lone⟩

theorem exists_none_of_outside (addressable : view.length ≤ 0x7fffffffffffffff)
    (notLast : index ≠ Int64.maxValue) (outside : Operation.Outside view.length index) :
    ∃ span, (Slice.single index).resolve view.length = .ok span ∧ span.indices = [] := by
  obtain ⟨span, resolved, follows⟩ :=
    Slice.exists_span addressable (Slice.step_single_ne_zero index)
  refine ⟨span, resolved, ?_⟩
  rw [follows.indices_eq_positions, positions_single_of_outside notLast outside]

variable (store : Store σ) (state : σ)

theorem run_get (located : view.locate index = .ok position) :
    (view.get index).run store state =
      let call := Call.getRange view.key position position
      { result := ((store.serve call state).1.mapError Error.storeUnavailable).map (·.headD 0)
        state := (store.serve call state).2
        events :=
          [.logged (.getByte view.key position), .called ⟨call, (store.serve call state).1⟩] } := by
  rw [get, located, Action.done_ok_bind, Action.run_note_bind, Action.run_bind_pure,
    Action.run_request]

theorem run_getSlice {slice : Slice} {span : Span} {window : Window}
    (resolved : slice.resolve view.length = .ok span) (found : span.window = some window) :
    (view.getSlice slice).run store state =
      let call := Call.getRange view.key window.first window.last
      { result := ((store.serve call state).1.mapError Error.storeUnavailable).map span.pick
        state := (store.serve call state).2
        events :=
          [.logged (.getSlice view.key slice window),
            .called ⟨call, (store.serve call state).1⟩] } := by
  rw [getSlice, resolved, Action.done_ok_bind, found]
  dsimp only
  rw [Action.run_note_bind, Action.run_bind_pure, Action.run_request]

theorem run_set (located : view.locate index = .ok position) (byte : UInt8) :
    (view.set index [byte]).run store state =
      let call := Call.setRange view.key position [byte]
      { result := (store.serve call state).1.mapError Error.storeUnavailable
        state := (store.serve call state).2
        events :=
          [.logged (.setByte view.key position), .called ⟨call, (store.serve call state).1⟩] } := by
  rw [set, located, Action.done_ok_bind, if_pos List.length_singleton, Action.run_note_bind,
    Action.run_request]

theorem run_setSlice_lone {slice : Slice} {span : Span}
    (resolved : slice.resolve view.length = .ok span) (lone : span.Lone position) (byte : UInt8) :
    (view.setSlice slice [byte]).run store state =
      let call := Call.setRange view.key position [byte]
      { result := (store.serve call state).1.mapError Error.storeUnavailable
        state := (store.serve call state).2
        events :=
          [.logged (.setSlice view.key slice), .called ⟨call, (store.serve call state).1⟩] } := by
  have count : [byte].length = span.length := by
    rw [← span.length_indices, lone.indices_eq]
    rfl
  have writes : span.writes position [byte] = [(position, [byte])] := if_pos lone.step_eq
  rw [view.run_setSlice store slice [byte] state resolved count, lone.lowest_eq]
  dsimp only
  rw [writes, Action.run_writeAll_singleton, Action.run_request]

/-- For every index but the largest word, the slice from it to the next one selects what the index
names, and nothing exactly where the index is out of range. Reading and writing that byte comes to
one and the same call either way, which leaves the store the same and is answered alike. -/
theorem single_slice_is_byte (view : View) (addressable : view.length ≤ 0x7fffffffffffffff)
    (index : Int64) (notLast : index ≠ Int64.maxValue) :
    ∃ span, (Slice.single index).resolve view.length = .ok span ∧
      (∀ position, view.locate index = .ok position ↔ span.indices = [position]) ∧
      (view.locate index = .error (.indexOutOfRange index view.length) ↔ span.indices = []) ∧
      ∀ position, view.locate index = .ok position → ∀ {σ : Type} (store : Store σ) (state : σ),
        let read := Call.getRange view.key position position
        let byByte := (view.get index).run store state
        let bySlice := (view.getSlice (.single index)).run store state
        byByte.Asks store read state ∧ bySlice.Asks store read state ∧
          byByte.result = bySlice.result.map (·.headD 0) ∧
          ∀ byte,
            let written := Call.setRange view.key position [byte]
            let byByte := (view.set index [byte]).run store state
            let bySlice := (view.setSlice (.single index) [byte]).run store state
            byByte.Asks store written state ∧ bySlice.Asks store written state ∧
              byByte.result = bySlice.result := by
  by_cases outside : Operation.Outside view.length index
  · have refused := locate_of_outside outside
    obtain ⟨span, resolved, nothing⟩ := exists_none_of_outside addressable notLast outside
    refine ⟨span, resolved, ?_, ?_, ?_⟩
    · intro position
      rw [refused, nothing]
      exact ⟨nofun, nofun⟩
    · exact ⟨fun _ => nothing, fun _ => refused⟩
    · intro position located
      rw [refused] at located
      cases located
  · obtain ⟨place, found⟩ := exists_of_not_outside outside
    obtain ⟨span, resolved, lone⟩ := exists_lone_of_located addressable notLast found
    refine ⟨span, resolved, ?_, ?_, ?_⟩
    · intro position
      rw [found, lone.indices_eq, Except.ok.injEq, List.cons.injEq]
      exact ⟨fun same => ⟨same, rfl⟩, fun same => same.1⟩
    · rw [found, lone.indices_eq]
      exact ⟨nofun, nofun⟩
    · intro position located σ store state
      obtain rfl : place = position := Except.ok.inj (found.symm.trans located)
      dsimp only
      rw [run_get store state located, run_getSlice store state resolved lone.window_eq]
      refine ⟨⟨rfl, rfl⟩, ⟨rfl, rfl⟩, ?_, fun byte => ?_⟩
      · dsimp only
        cases (store.serve (.getRange view.key place place) state).1 with
        | ok bytes => exact congrArg Except.ok (lone.headD_pick bytes).symm
        | error cause => rfl
      · rw [run_set store state located byte, run_setSlice_lone store state resolved lone byte]
        exact ⟨⟨rfl, rfl⟩, ⟨rfl, rfl⟩, rfl⟩

theorem single_slice_is_byte_from_end :
    let view : View := { key := "k", length := 4 }
    (-4 : Int64) ≠ Int64.maxValue ∧ (-5 : Int64) ≠ Int64.maxValue ∧
      (∃ span, (Slice.single (-4)).resolve view.length = .ok span ∧ span.indices = [0]) ∧
      (∃ span, (Slice.single (-5)).resolve view.length = .ok span ∧ span.indices = []) ∧
      ((view.set (-4) [7]).run Memory.store .empty).Asks Memory.store (.setRange "k" 0 [7]) .empty ∧
      ((view.setSlice (.single (-4)) [7]).run Memory.store .empty).Asks Memory.store
        (.setRange "k" 0 [7]) .empty := by
  intro view
  have addressable : view.length ≤ 0x7fffffffffffffff := by decide
  have near : (-4 : Int64) ≠ Int64.maxValue := by decide
  have far : (-5 : Int64) ≠ Int64.maxValue := by decide
  have located : view.locate (-4) = .ok 0 := rfl
  obtain ⟨span, resolved, selects, -, calls⟩ := single_slice_is_byte view addressable (-4) near
  obtain ⟨other, settled, -, nothing, -⟩ := single_slice_is_byte view addressable (-5) far
  obtain ⟨-, -, -, written⟩ := calls 0 located Memory.store .empty
  obtain ⟨byByte, bySlice, -⟩ := written 7
  exact ⟨near, far, ⟨span, resolved, (selects 0).mp located⟩, ⟨other, settled, nothing.mp rfl⟩,
    byByte, bySlice⟩

end View

end StoredArray
