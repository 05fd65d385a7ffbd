import StoredArray.Proofs.Memory.Backing
import StoredArray.Proofs.Memory.Placement
import StoredArray.Proofs.View.Containment

namespace StoredArray

variable {σ : Type} {store : Store σ} {held : σ → Memory} {cause : StoreError}

namespace Action

theorem calls_writeAll_of_accepted (key : String) {writes : List (Nat × Bytes)}
    (accepted : ∀ write ∈ writes, write.2 ≠ [] ∧ write.1 + write.2.length ≤ Memory.maxValueLength)
    (memory : Memory) :
    ((writeAll key writes).run Memory.store memory).calls =
      writes.map fun write => Call.setRange key write.1 write.2 := by
  induction writes generalizing memory with
  | nil => rfl
  | cons write rest shorter =>
    obtain ⟨⟨nonempty, bound⟩, others⟩ := List.forall_mem_cons.mp accepted
    have made : (Memory.store.serve (.setRange key write.1 write.2) memory).1 = .ok () :=
      (memory.setRange_eq_ok_iff key write.1 write.2).mpr (.inr bound)
    rw [writeAll, run_request_bind, made]
    exact congrArg (_ :: ·) (shorter others _)

theorem writeAll_interrupted (key : String) {writes : List (Nat × Bytes)}
    (accepted : ∀ write ∈ writes, write.2 ≠ [] ∧ write.1 + write.2.length ≤ Memory.maxValueLength)
    {count : Nat} {state : σ}
    (interrupts : store.Interrupts held cause
      (writes.map fun write => Call.setRange key write.1 write.2) count state)
    (reached : count < writes.length) :
    let outcome := (writeAll key writes).run store state
    outcome.result = .error (.storeUnavailable cause) ∧ outcome.calls.length = count + 1 ∧
      held outcome.state = (held state).place key (placed (writes.take count)) := by
  -- The induction is on the writes that are still served, and goes on from the state they leave.
  induction count generalizing writes state with
  | zero =>
    cases writes with
    | nil => cases reached
    | cons write rest =>
      cases interrupts with
      | refused _ refuses =>
        obtain ⟨refused, kept⟩ := refuses
        rw [writeAll, run_request_bind, refused]
        refine ⟨rfl, rfl, ?_⟩
        simpa [placed] using kept
  | succ count fewer =>
    cases writes with
    | nil => cases reached
    | cons write rest =>
      cases interrupts with
      | served serves later =>
        obtain ⟨⟨nonempty, bound⟩, others⟩ := List.forall_mem_cons.mp accepted
        obtain ⟨answered, onward⟩ := serves
        have made : Memory.store.serve (.setRange key write.1 write.2) (held state) =
            (.ok (), (held state).place key (Bytes.spread write.1 write.2)) :=
          (held state).setRange_eq_place key write.1 write.2 nonempty bound
        rw [made] at answered onward
        obtain ⟨result, calls, final⟩ := fewer others later (Nat.lt_of_succ_lt_succ reached)
        rw [writeAll, run_request_bind, answered]
        refine ⟨result, congrArg Nat.succ calls, ?_⟩
        rw [onward, Memory.place_append] at final
        exact final

end Action

namespace View

variable {slice : Slice} {span : Span} {values : Bytes}

theorem writes_accepted {view : View} (fits : view.length ≤ Memory.maxValueLength)
    (resolved : slice.resolve view.length = .ok span) (count : values.length = span.length)
    {lowest : Nat} (found : span.lowest = some lowest) :
    ∀ write ∈ span.writes lowest values,
      write.2 ≠ [] ∧ write.1 + write.2.length ≤ Memory.maxValueLength := by
  have follows := Slice.resolve_follows resolved
  intro write member
  have inside := follows.writes_inside count found member
  exact ⟨follows.writes_nonempty count found member, by omega⟩

theorem calls_setSlice_of_fits {view : View} (fits : view.length ≤ Memory.maxValueLength)
    (resolved : slice.resolve view.length = .ok span) (count : values.length = span.length)
    {lowest : Nat} (found : span.lowest = some lowest) (memory : Memory) :
    ((view.setSlice slice values).run Memory.store memory).calls =
      (span.writes lowest values).map fun write => Call.setRange view.key write.1 write.2 := by
  rw [view.run_setSlice Memory.store slice values memory resolved count, found]
  exact Action.calls_writeAll_of_accepted view.key (writes_accepted fits resolved count found)
    memory

theorem run_setSlice_interrupted (view : View) (fits : view.length ≤ Memory.maxValueLength)
    (resolved : slice.resolve view.length = .ok span) (count : values.length = span.length)
    {lowest : Nat} (found : span.lowest = some lowest) {made : Nat} {state : σ}
    (interrupts : store.Interrupts held cause
      ((view.setSlice slice values).run Memory.store (held state)).calls made state)
    (reached : made < (span.writes lowest values).length) :
    let outcome := (view.setSlice slice values).run store state
    outcome.result = .error (.storeUnavailable cause) ∧ outcome.calls.length = made + 1 ∧
      held outcome.state =
        (held state).place view.key (placed ((span.writes lowest values).take made)) := by
  rw [calls_setSlice_of_fits fits resolved count found] at interrupts
  rw [view.run_setSlice store slice values state resolved count, found]
  exact Action.writeAll_interrupted view.key (writes_accepted fits resolved count found) interrupts
    reached

/-- A write that fails part way has put the bytes of the lowest indices, one for each call before
the one that failed, and a slice of neighbours has put nothing. The bound is no restriction: a view
that was opened on a memory is no longer than a value may be. -/
theorem setSlice_interrupted (view : View) (fits : view.length ≤ Memory.maxValueLength)
    (resolved : slice.resolve view.length = .ok span) (count : values.length = span.length)
    (selected : 0 < span.length) (made : Nat) (state : σ)
    (interrupts : store.Interrupts held cause
      ((view.setSlice slice values).run Memory.store (held state)).calls made state) :
    let outcome := (view.setSlice slice values).run store state
    let sorted := (span.indices.zip values).mergeSort fun near far => near.1 ≤ far.1
    (span.stride ≠ 1 → made < span.length →
      outcome.result = .error (.storeUnavailable cause) ∧ outcome.calls.length = made + 1 ∧
        (held state).Receives view.key (sorted.take made) (held outcome.state)) ∧
      (span.stride = 1 → made = 0 →
        outcome.result = .error (.storeUnavailable cause) ∧ held outcome.state = held state) := by
  have follows := Slice.resolve_follows resolved
  have stride := follows.stride_eq
  obtain ⟨lowest, found⟩ : ∃ lowest, span.lowest = some lowest := by
    apply Option.ne_none_iff_exists'.mp
    intro missing
    have empty := follows.lowest_eq_none_iff.mp missing
    omega
  have interrupted := view.run_setSlice_interrupted fits resolved count found interrupts
  constructor
  · intro apart before
    have single : span.writes lowest values =
        (span.ascending values).map fun pair => (pair.1, [pair.2]) := by
      rw [follows.writes_eq, if_neg (by omega), if_neg (by omega)]
    have nodup : (((span.ascending values).take made).map Prod.fst).Nodup :=
      (follows.nodup_ascending values).sublist ((List.take_sublist made _).map Prod.fst)
    rw [single, List.length_map, span.length_ascending count, ← List.map_take,
      placed_singles] at interrupted
    obtain ⟨result, calls, final⟩ := interrupted before
    rw [← Span.ascending_eq_mergeSort follows values, final]
    exact ⟨result, calls, (held state).place_receives view.key nodup⟩
  · rintro - rfl
    have first := List.length_pos_iff.mpr (follows.writes_ne_nil count found)
    obtain ⟨result, -, final⟩ := interrupted first
    exact ⟨result, by simpa [placed] using final⟩

theorem setSlice_interrupted_backward :
    let view : View := { key := "k", length := 10 }
    let slice : Slice := { start := some 8, stop := some 0, step := some (-3) }
    let down : StoreError := { text := "down", causes := [] }
    let memory := Memory.empty.insert "k" [9]
    let fault : Fault := { on := some .setRange, after := 1, error := down }
    let outcome := (view.setSlice slice [1, 2, 3]).run Memory.store.guarded ([fault], memory)
    outcome.result = .error (.storeUnavailable down) ∧ outcome.calls.length = 2 ∧
      (outcome.state.2.bytes "k").length = 3 ∧ (outcome.state.2.bytes "k")[0]? = some 9 ∧
      (outcome.state.2.bytes "k")[1]? = some 0 ∧ (outcome.state.2.bytes "k")[2]? = some 3 := by
  intro view slice down memory fault
  let span : Span := { start := 8, stop := 0, step := -3, size := 3 }
  have resolved : slice.resolve view.length = .ok span := by decide
  have count : [1, 2, (3 : UInt8)].length = span.length := rfl
  have pairs : span.indices.zip [1, 2, 3] = [(8, 1), (5, 2), (2, (3 : UInt8))] := by decide
  have sorted : [(8, 1), (5, 2), (2, (3 : UInt8))].mergeSort (fun near far => near.1 ≤ far.1) =
      [(2, 3), (5, 2), (8, 1)] := by
    simp [List.mergeSort, List.MergeSort.Internal.splitInTwo]
  have old : memory.bytes "k" = [9] := Memory.bytes_insert_self _ _ _
  have concerned : ∀ call ∈ ((view.setSlice slice [1, 2, 3]).run Memory.store memory).calls,
      fault.concerns call = true := by
    rw [calls_setSlice_of_fits (by decide) resolved count rfl]
    exact List.forall_mem_map.mpr fun _ _ => rfl
  have interrupts : Memory.store.guarded.Interrupts Prod.snd down
      ((view.setSlice slice [1, 2, 3]).run Memory.store memory).calls 1 ([fault], memory) :=
    Store.guarded_interrupts fault concerned memory
  obtain ⟨strided, -⟩ := setSlice_interrupted view (by decide) resolved count (by decide) 1
    ([fault], memory) interrupts
  obtain ⟨result, calls, received⟩ := strided (by decide) (by decide)
  rw [pairs, sorted] at received
  generalize (view.setSlice slice [1, 2, 3]).run Memory.store.guarded ([fault], memory) = outcome
    at result calls received ⊢
  have at_start := received.kept 0 (by rw [old]; decide) (by decide)
  have length := received.length_eq 2 rfl
  have between := received.filled 1 (by rw [old]; decide) (by rw [length]; decide) (by decide)
  have lowest := received.put (2, 3) (by decide)
  rw [old] at at_start length
  exact ⟨result, calls, length, at_start, between, lowest⟩

end View

end StoredArray
