import StoredArray.Proofs.Memory.Placement
import StoredArray.Proofs.View.Alignment

namespace StoredArray

theorem Span.Follows.start_mem_indices {span : Span} {walk : Walk} {extent : Nat}
    (follows : span.Follows walk extent) (some_index : span.length ≠ 0) :
    ∃ position ∈ span.indices, (position : Int) = walk.start := by
  have first : 0 < span.length := Nat.pos_of_ne_zero some_index
  have place := follows.index_eq first
  rw [Int.natCast_zero, Int.zero_mul, Int.add_zero] at place
  exact ⟨span.index 0, List.mem_map_of_mem (List.mem_range.mpr first), place⟩

namespace View

variable {slice : Slice} {span : Span} {values : Bytes}

theorem exec_setSlice_place (view : View) (memory : Memory)
    (resolved : slice.resolve view.length = .ok span) (count : values.length = span.length)
    (fits : view.length ≤ Memory.maxValueLength) :
    (view.setSlice slice values).exec Memory.store memory =
      (.ok (), memory.place view.key (span.indices.zip values)) := by
  have follows := Slice.resolve_follows resolved
  have none_iff : span.ascending values = [] ↔ span.length = 0 := by
    rw [← List.length_eq_zero_iff, span.length_ascending count]
  rw [view.exec_setSlice memory resolved count fits,
    ← Memory.place_perm (span.ascending_perm values) (follows.nodup_ascending values),
    Memory.place]
  simp only [none_iff]

theorem exec_getSlice_stored (view : View) (memory : Memory)
    (resolved : slice.resolve view.length = .ok span)
    (stored : ∀ position ∈ span.indices, position < (memory.bytes view.key).length) :
    (view.getSlice slice).exec Memory.store memory =
      (.ok (span.indices.filterMap ((memory.bytes view.key)[·]?)), memory) := by
  have follows := Slice.resolve_follows resolved
  by_cases empty : span.length = 0
  · rw [view.exec_getSlice memory resolved, (Span.window_eq_none_iff span).mpr empty,
      Span.indices_eq_nil empty]
    rfl
  · -- The walk starts at a selected index, so the end of the value does not cut its start off.
    obtain ⟨position, member, start⟩ := follows.start_mem_indices empty
    have reached := stored position member
    rw [view.exec_getSlice_clipped memory resolved, follows.walk_eq, follows.indices_eq_positions,
      Walk.clip_eq_self]
    intro _
    omega

theorem filterMap_indices {value : Bytes} (count : values.length = span.length)
    (put : ∀ pair ∈ span.indices.zip values, value[pair.1]? = some pair.2) :
    span.indices.filterMap (value[·]?) = values := by
  apply filterMap_eq_of_getElem?
  intro i
  have lengths : span.indices.length = values.length := by simp [count]
  by_cases selected : i < values.length
  · have member : (span.indices[i], values[i]) ∈ span.indices.zip values := by
      apply List.mem_iff_getElem.mpr
      exact ⟨i, by rw [List.length_zip]; omega, List.getElem_zip⟩
    rw [List.getElem?_eq_getElem selected, List.getElem?_eq_getElem (by omega), Option.bind_some,
      put _ member]
  · rw [List.getElem?_eq_none (by omega), List.getElem?_eq_none (by omega), Option.bind_none]

/-- Whichever way a slice is written, the memory is the one that single bytes leave, each written to
its own index in a call of its own, in any order at all. -/
theorem setSlice_eq_single_writes (view : View) (fits : view.length ≤ Memory.maxValueLength)
    (slice : Slice) (nonzero : slice.step ≠ some 0) (memory : Memory) :
    ∃ span, slice.resolve view.length = .ok span ∧
      ∀ values : Bytes, values.length = span.length →
        ∃ after, (view.setSlice slice values).exec Memory.store memory = (.ok (), after) ∧
          memory.Receives view.key (span.indices.zip values) after ∧
          ∀ order : List (Nat × UInt8), order.Perm (span.indices.zip values) →
            memory.setSingly view.key order = (.ok (), after) := by
  have resolved := Slice.resolve_eq_ok view.length nonzero
  have follows := Slice.resolve_follows resolved
  refine ⟨_, resolved, fun values count => ?_⟩
  have nodup := follows.nodup_indices
  rw [← Span.map_fst_zip_indices _ count] at nodup
  have received := memory.place_receives view.key nodup
  refine ⟨_, view.exec_setSlice_place memory resolved count fits, received, fun order perm => ?_⟩
  have room : ∀ pair ∈ order, pair.1 < Memory.maxValueLength := by
    intro pair member
    have selected := (List.of_mem_zip (perm.subset member)).1
    have inside := follows.lt_extent_of_mem_indices selected
    omega
  rw [memory.setSingly_eq_place view.key room, Memory.place_perm perm.symm nodup]

theorem setSlice_eq_single_writes_reversed :
    let view : View := { key := "k", length := 4 }
    let slice : Slice := { start := some 2, step := some (-1) }
    let memory := Memory.empty.insert "k" [9]
    ∃ after, (view.setSlice slice [1, 2, 3]).exec Memory.store memory = (.ok (), after) ∧
      (after.bytes "k").length = 3 ∧ (after.bytes "k")[2]? = some 1 ∧
      memory.setSingly "k" [(1, 2), (0, 3), (2, 1)] = (.ok (), after) := by
  intro view slice memory
  have nonzero : slice.step ≠ some 0 := by decide
  obtain ⟨span, resolved, writes⟩ := setSlice_eq_single_writes view (by decide) slice nonzero memory
  have selected : slice.resolve view.length =
      .ok { start := 2, stop := -1, step := -1, size := 3 } := by decide
  cases selected.symm.trans resolved
  obtain ⟨after, written, received, singly⟩ := writes [1, 2, 3] (by decide)
  have length := received.length_eq 2 (by decide)
  rw [Memory.bytes_insert_self] at length
  have put := received.put (2, 1) (by decide)
  exact ⟨after, written, length, put, singly [(1, 2), (0, 3), (2, 1)] (by decide)⟩

/-- A slice that was written is read back as it was written, whatever the memory held at the key of
the view before, and only the selected indices were written. -/
theorem setSlice_then_getSlice (view : View) (fits : view.length ≤ Memory.maxValueLength)
    (slice : Slice) (nonzero : slice.step ≠ some 0) (memory : Memory) :
    ∃ span, slice.resolve view.length = .ok span ∧
      ∀ values : Bytes, values.length = span.length →
        ∃ after, (view.setSlice slice values).exec Memory.store memory = (.ok (), after) ∧
          (view.getSlice slice).exec Memory.store after = (.ok values, after) ∧
          memory.Receives view.key (span.indices.zip values) after := by
  have resolved := Slice.resolve_eq_ok view.length nonzero
  have follows := Slice.resolve_follows resolved
  refine ⟨_, resolved, fun values count => ?_⟩
  have positions := Span.map_fst_zip_indices _ count
  have nodup := follows.nodup_indices
  rw [← positions] at nodup
  have received := memory.place_receives view.key nodup
  refine ⟨_, view.exec_setSlice_place memory resolved count fits, ?_, received⟩
  rw [view.exec_getSlice_stored _ resolved, filterMap_indices count received.put]
  intro position member
  rw [← positions] at member
  obtain ⟨pair, put, rfl⟩ := List.mem_map.mp member
  exact (List.getElem?_eq_some_iff.mp (received.put pair put)).1

theorem setSlice_then_getSlice_shorter :
    let view : View := { key := "k", length := 6 }
    let slice : Slice := { start := some (-2), step := some (-2) }
    let memory := (Memory.empty.insert "k" [9, 9]).insert "x" [7]
    ∃ after, (view.setSlice slice [1, 2, 3]).exec Memory.store memory = (.ok (), after) ∧
      (view.getSlice slice).exec Memory.store after = (.ok [1, 2, 3], after) ∧
      (after.bytes "k").length = 5 ∧ (after.bytes "k")[1]? = some 9 ∧
      (after.bytes "k")[3]? = some 0 ∧ after.get "x" = some [7] := by
  intro view slice memory
  have nonzero : slice.step ≠ some 0 := by decide
  obtain ⟨span, resolved, writes⟩ := setSlice_then_getSlice view (by decide) slice nonzero memory
  have selected : slice.resolve view.length =
      .ok { start := 4, stop := -1, step := -2, size := 3 } := by decide
  cases selected.symm.trans resolved
  have old : memory.bytes "k" = [9, 9] := by
    simp [memory, Memory.bytes]
  obtain ⟨after, written, read, received⟩ := writes [1, 2, 3] (by decide)
  have length := received.length_eq 4 (by decide)
  have kept := received.kept 1 (by rw [old]; decide) (by decide)
  have filled := received.filled 3 (by rw [old]; decide) (by rw [length]; decide) (by decide)
  have other := received.others "x" (by decide)
  rw [old] at length kept
  rw [Memory.get_insert_self] at other
  exact ⟨after, written, read, length, kept, filled, other⟩

end View

end StoredArray
