import StoredArray.Proofs.View.Stored

namespace StoredArray

theorem filterMap_getElem?_of_past {α : Type} {positions : List Nat} {items : List α}
    (past : ∀ position ∈ positions, items.length ≤ position) :
    positions.filterMap (items[·]?) = [] := by
  rw [List.filterMap_eq_nil_iff]
  intro position member
  exact List.getElem?_eq_none (past position member)

theorem getElem?_zeros_one (count position : Nat) :
    (List.replicate count (0 : UInt8) ++ [1])[position]? = some 1 ↔ position = count := by
  grind

namespace Walk

theorem mem_positions_iff (walk : Walk) (position : Nat) :
    position ∈ walk.positions ↔
      ∃ i : Nat, walk.Before (walk.start + i * walk.step) ∧
        (walk.start + i * walk.step).toNat = position := by
  simp [List.mem_iff_getElem?, getElem?_positions]

theorem positions_clip_eq_nil {walk : Walk} (ended : ¬ walk.Before walk.start) (size : Nat) :
    (walk.clip size).positions = [] := by
  apply positions_of_ended
  rw [clip]
  unfold Before at *
  split
  · dsimp only
    omega
  · exact ended

theorem drop_positions (walk : Walk) (count : Nat) :
    walk.positions.drop count =
      { walk with start := walk.start + count * walk.step : Walk }.positions := by
  apply List.ext_getElem?
  intro i
  have place : walk.start + ((count + i : Nat) : Int) * walk.step =
      walk.start + count * walk.step + i * walk.step := by
    rw [Int.natCast_add, Int.add_mul, Int.add_assoc]
  rw [List.getElem?_drop, getElem?_positions, getElem?_positions, place]
  rfl

/-- A backward walk that starts past the end of a value, and goes on inside it, steps on the last
byte of the value. -/
def Aligned (walk : Walk) (size : Nat) : Prop :=
  walk.step < 0 → walk.stop + 1 < size → size ≤ walk.start → walk.step ∣ walk.start + 1 - size

instance (walk : Walk) (size : Nat) : Decidable (walk.Aligned size) :=
  inferInstanceAs (Decidable (_ → _))

theorem take_positions_past (walk : Walk) (count : Nat) (size : Nat) (negative : walk.step < 0)
    (last : walk.start + count * walk.step = size - 1) :
    ∀ position ∈ walk.positions.take count, size ≤ position := by
  intro position member
  obtain ⟨i, found⟩ := List.mem_iff_getElem?.mp member
  rw [List.getElem?_take, getElem?_positions] at found
  split at found
  · rename_i early
    split at found
    · have ahead : ((count - i : Nat) : Int) * walk.step ≤ 1 * walk.step :=
        Int.mul_le_mul_of_nonpos_right (by omega) (by omega)
      rw [Int.natCast_sub (by omega), Int.sub_mul] at ahead
      cases found
      omega
    · cases found
  · cases found

theorem filterMap_positions_of_past {walk : Walk} {value : Bytes} (negative : walk.step < 0)
    (past : value.length ≤ walk.stop + 1) : walk.positions.filterMap (value[·]?) = [] := by
  apply filterMap_getElem?_of_past
  intro position member
  obtain ⟨i, before, rfl⟩ := (walk.mem_positions_iff position).mp member
  unfold Before at before
  omega

theorem Aligned.exists_steps {walk : Walk} {size : Nat} (aligned : walk.Aligned size)
    (negative : walk.step < 0) (inside : walk.stop + 1 < size) (past : size ≤ walk.start) :
    ∃ count : Nat, walk.start + count * walk.step = size - 1 := by
  obtain ⟨factor, distance⟩ := aligned negative inside past
  have steps : factor ≤ 0 := by
    apply Int.not_lt.mp
    intro positive
    have behind : walk.step * factor < 0 := Int.mul_neg_of_neg_of_pos negative positive
    omega
  refine ⟨factor.natAbs, ?_⟩
  rw [Int.ofNat_natAbs_of_nonpos steps, Int.neg_mul, Int.mul_comm, ← distance]
  omega

theorem Aligned.filterMap_clip {walk : Walk} {value : Bytes} (aligned : walk.Aligned value.length) :
    (walk.clip value.length).positions.filterMap (value[·]?) =
      walk.positions.filterMap (value[·]?) := by
  by_cases short : walk.step < 0 ∧ value.length ≤ walk.start
  · obtain ⟨negative, past⟩ := short
    have start : min walk.start ((value.length : Int) - 1) = value.length - 1 := by omega
    rw [clip, if_pos negative, start]
    by_cases inside : walk.stop + 1 < value.length
    · obtain ⟨count, last⟩ := aligned.exists_steps negative inside past
      have missed : (walk.positions.take count).filterMap (value[·]?) = [] :=
        filterMap_getElem?_of_past (walk.take_positions_past _ _ negative last)
      calc { walk with start := value.length - 1 : Walk }.positions.filterMap (value[·]?)
          = (walk.positions.drop count).filterMap (value[·]?) := by
            rw [drop_positions, last]
        _ = (walk.positions.take count).filterMap (value[·]?) ++
              (walk.positions.drop count).filterMap (value[·]?) := by
            rw [missed, List.nil_append]
        _ = walk.positions.filterMap (value[·]?) := by
            rw [← List.filterMap_append, List.take_append_drop]
    · have nothing : walk.positions.filterMap (value[·]?) = [] :=
        filterMap_positions_of_past negative (by omega)
      rw [nothing]
      exact filterMap_positions_of_past negative (by dsimp only; omega)
  · rw [clip_eq_self (by omega)]

-- Zeros with a one at the end tell a walk that steps on the last byte from one made to start there.
theorem aligned_of_filterMap_clip {walk : Walk} {size : Nat} (floor : -1 ≤ walk.stop)
    (agree : ∀ value : Bytes, value.length = size →
      (walk.clip size).positions.filterMap (value[·]?) = walk.positions.filterMap (value[·]?)) :
    walk.Aligned size := by
  intro negative inside past
  obtain ⟨final, rfl⟩ : ∃ final, size = final + 1 := ⟨size - 1, by omega⟩
  have start : min walk.start (((final + 1 : Nat) : Int) - 1) = final := by omega
  have same := agree (List.replicate final 0 ++ [1])
    (by rw [List.length_append, List.length_replicate, List.length_singleton])
  have taken : final ∈ (walk.clip (final + 1)).positions := by
    rw [mem_positions_iff, clip, if_pos negative, start]
    refine ⟨0, ?_, ?_⟩
    · unfold Before
      dsimp only
      omega
    · dsimp only
      omega
  have read := List.mem_filterMap.mpr ⟨final, taken, (getElem?_zeros_one final final).mpr rfl⟩
  rw [same] at read
  obtain ⟨position, member, found⟩ := List.mem_filterMap.mp read
  rw [getElem?_zeros_one] at found
  obtain ⟨i, before, place⟩ := (walk.mem_positions_iff position).mp member
  unfold Before at before
  refine ⟨-i, ?_⟩
  rw [Int.mul_neg, Int.mul_comm]
  omega

end Walk

namespace View

theorem exec_getSlice_clipped (view : View) (memory : Memory) {slice : Slice} {span : Span}
    (resolved : slice.resolve view.length = .ok span) :
    (view.getSlice slice).exec Memory.store memory =
      (.ok ((span.walk.clip (memory.bytes view.key).length).positions.filterMap
        ((memory.bytes view.key)[·]?)), memory) := by
  have follows := Slice.resolve_follows resolved
  rw [exec_getSlice view memory resolved, follows.walk_eq]
  cases found : span.window with
  | none =>
    have empty := (Span.window_eq_none_iff span).mp found
    have ended := mt (follows.lt_length_iff 0).mpr (by omega)
    rw [Int.natCast_zero, Int.zero_mul, Int.add_zero] at ended
    rw [Walk.positions_clip_eq_nil ended, List.filterMap_nil]
  | some window =>
    dsimp only
    rw [follows.pick_slice_clipped found]

/-- What a slice reads from a value of any size, and the sizes for which these are always the stored
bytes at the selected indices. -/
theorem getSlice_reads_selected_iff (view : View) {slice : Slice} {span : Span}
    (resolved : slice.resolve view.length = .ok span) :
    (∀ memory : Memory, (view.getSlice slice).exec Memory.store memory =
      (.ok ((span.walk.clip (memory.bytes view.key).length).positions.filterMap
        ((memory.bytes view.key)[·]?)), memory)) ∧
    ∀ size : Nat, span.walk.Aligned size ↔
      ∀ memory : Memory, (memory.bytes view.key).length = size →
        (view.getSlice slice).exec Memory.store memory =
          (.ok (span.indices.filterMap ((memory.bytes view.key)[·]?)), memory) := by
  have follows := Slice.resolve_follows resolved
  have selected : span.indices = span.walk.positions := by
    rw [follows.walk_eq, follows.indices_eq_positions]
  refine ⟨fun memory => view.exec_getSlice_clipped memory resolved, fun size => ⟨?_, ?_⟩⟩
  · rintro aligned memory rfl
    rw [view.exec_getSlice_clipped memory resolved, selected, aligned.filterMap_clip]
  · intro reads
    by_cases negative : span.walk.step < 0
    · have floor : -1 ≤ span.walk.stop := by
        rw [follows.walk_eq] at negative ⊢
        exact (follows.backward negative).1
      apply Walk.aligned_of_filterMap_clip floor
      rintro value rfl
      have stored := Memory.bytes_insert_self Memory.empty view.key value
      have read := reads (Memory.empty.insert view.key value) (by rw [stored])
      rw [view.exec_getSlice_clipped _ resolved, stored, selected] at read
      exact Except.ok.inj (Prod.mk.inj read).1
    · intro backward
      exact absurd backward negative

theorem getSlice_reads_selected_iff_odd :
    let view : View := { key := "k", length := 3 }
    let slice : Slice := { step := some (-2) }
    let span : Span := { start := 2, stop := -1, step := -2, size := 2 }
    let memory := Memory.empty.insert "k" [10]
    slice.resolve view.length = .ok span ∧ span.walk.Aligned 1 ∧
      (view.getSlice slice).exec Memory.store memory = (.ok [10], memory) := by
  intro view slice span memory
  have resolved : slice.resolve view.length = .ok span :=
    (Slice.resolve_eq_ok view.length (by decide)).trans (congrArg Except.ok (by decide))
  have aligned : span.walk.Aligned 1 := by decide
  have stored : memory.bytes view.key = [10] := Memory.bytes_insert_self _ _ _
  have read := ((getSlice_reads_selected_iff view resolved).2 1).mp aligned memory
    (by rw [stored]; rfl)
  have indices : span.indices = [2, 0] := by decide
  rw [stored, indices] at read
  exact ⟨resolved, aligned, read⟩

/-- Two bytes are left of an array of three. The slice selects the indices two and zero, but what it
reads is the byte at index one. -/
theorem getSlice_reads_unselected :
    let view : View := { key := "k", length := 3 }
    let slice : Slice := { step := some (-2) }
    let span : Span := { start := 2, stop := -1, step := -2, size := 2 }
    let memory := Memory.empty.insert "k" [10, 11]
    slice.resolve view.length = .ok span ∧ span.indices = [2, 0] ∧
      memory.bytes view.key = [10, 11] ∧
      (view.getSlice slice).exec Memory.store memory = (.ok [11], memory) ∧
      span.indices.filterMap ((memory.bytes view.key)[·]?) = [10] := by
  intro view slice span memory
  have resolved : slice.resolve view.length = .ok span :=
    (Slice.resolve_eq_ok view.length (by decide)).trans (congrArg Except.ok (by decide))
  have indices : span.indices = [2, 0] := by decide
  have stored : memory.bytes view.key = [10, 11] := Memory.bytes_insert_self _ _ _
  have read := view.exec_getSlice memory resolved
  have window : span.window = some { first := 0, last := 2 } := by decide
  have picked : span.pick (Bytes.slice [10, 11] { first := 0, last := 2 }) = [11] := by decide
  simp only [stored, window, picked] at read
  rw [stored, indices]
  exact ⟨resolved, rfl, rfl, read, rfl⟩

end View

end StoredArray
