import StoredArray.Proofs.Bytes
import StoredArray.Proofs.Slice.Selection
import StoredArray.View.Basic

namespace StoredArray

open Word

def placed (writes : List (Nat × Bytes)) : List (Nat × UInt8) :=
  writes.flatMap fun write => Bytes.spread write.1 write.2

theorem Bytes.spread_eq_zip (offset : Nat) (data : Bytes) :
    spread offset data = (List.range' offset data.length).zip data := by
  induction data generalizing offset with
  | nil => rfl
  | cons byte rest shorter =>
    rw [spread, shorter, List.length_cons, List.range'_succ, List.zip_cons_cons]

theorem placed_singles (pairs : List (Nat × UInt8)) :
    placed (pairs.map fun pair => (pair.1, [pair.2])) = pairs := by
  induction pairs with
  | nil => rfl
  | cons pair rest shorter =>
    rw [placed] at shorter
    rw [placed, List.map_cons, List.flatMap_cons, shorter]
    rfl

namespace Walk

/-- What remains of a walk on a value of some size, if the last byte of the value stands in for a
start past it. -/
def clip (walk : Walk) (size : Nat) : Walk :=
  if walk.step < 0 then { walk with start := min walk.start (size - 1) } else walk

theorem clip_eq_self {walk : Walk} {size : Nat} (stored : walk.step < 0 → walk.start < size) :
    walk.clip size = walk := by
  rw [clip]
  split
  · rename_i negative
    have early := stored negative
    rw [Int.min_eq_left (by omega)]
  · rfl

end Walk

namespace Span

def ascending (span : Span) (values : Bytes) : List (Nat × UInt8) :=
  if span.step < 0 then (span.indices.zip values).reverse else span.indices.zip values

theorem placed_range (span : Span) {values : Bytes} (lowest : Nat)
    (count : values.length = span.length) :
    placed [(lowest, values)] = (List.range' lowest span.length).zip values := by
  rw [placed, List.flatMap_cons, List.flatMap_nil, List.append_nil, Bytes.spread_eq_zip, count]

theorem ascending_perm (span : Span) (values : Bytes) :
    (span.ascending values).Perm (span.indices.zip values) := by
  rw [ascending]
  split
  · exact List.reverse_perm _
  · exact List.Perm.refl _

theorem map_fst_zip_indices (span : Span) {values : Bytes} (count : values.length = span.length) :
    (span.indices.zip values).map Prod.fst = span.indices :=
  List.map_fst_zip (Nat.le_of_eq (by simp [count]))

theorem positions_ascending (span : Span) {values : Bytes} (count : values.length = span.length) :
    ((span.ascending values).map Prod.fst).Perm span.indices := by
  have permuted := (ascending_perm span values).map Prod.fst
  rwa [map_fst_zip_indices span count] at permuted

theorem length_ascending (span : Span) {values : Bytes} (count : values.length = span.length) :
    (span.ascending values).length = span.length := by
  rw [← length_indices, ← (positions_ascending span count).length_eq, List.length_map]

theorem pairwise_zip_indices (span : Span) (values : Bytes) (ordered : Nat → Nat → Prop)
    (places : ∀ {i j}, i < j → j < span.length → ordered (span.index i) (span.index j)) :
    (span.indices.zip values).Pairwise fun near far => ordered near.1 far.1 := by
  rw [List.pairwise_iff_getElem]
  intro i j early late later
  simp only [List.length_zip, length_indices] at early late
  rw [List.getElem_zip, List.getElem_zip, getElem_indices, getElem_indices]
  exact places later (by omega)

namespace Follows

variable {span : Span} {walk : Walk} {extent : Nat}

theorem indices_of_step_one (follows : span.Follows walk extent) (one : walk.step = 1) :
    span.indices = List.range' (span.index 0) span.length := by
  apply List.ext_getElem
  · simp
  · intro i selected _
    rw [length_indices] at selected
    have first := follows.index_eq (Nat.zero_lt_of_lt selected)
    have place := follows.index_eq selected
    rw [one] at first place
    rw [getElem_indices, List.getElem_range']
    omega

theorem reverse_indices_of_step_minus_one (follows : span.Follows walk extent)
    (minus : walk.step = -1) :
    span.indices.reverse = List.range' (span.index (span.length - 1)) span.length := by
  apply List.ext_getElem
  · simp
  · intro i selected _
    rw [List.length_reverse, length_indices] at selected
    have last := follows.index_eq (by omega : span.length - 1 < span.length)
    have place := follows.index_eq (by omega : span.length - 1 - i < span.length)
    rw [minus] at last place
    rw [List.getElem_reverse, getElem_indices, List.getElem_range', length_indices]
    omega

theorem writes_eq (follows : span.Follows walk extent) (lowest : Nat) (values : Bytes) :
    span.writes lowest values =
      if walk.step = 1 then [(lowest, values)]
      else if walk.step = -1 then [(lowest, values.reverse)]
      else (span.ascending values).map fun pair => (pair.1, [pair.2]) := by
  have step := follows.step_eq
  have minus : (-1 : Int64).toInt = -1 := rfl
  have single : List.zipWith (fun index value => (index, [value])) span.indices values =
      (span.indices.zip values).map fun pair => (pair.1, [pair.2]) := by
    rw [List.map_zip_eq_zipWith]
    rfl
  simp only [writes, ascending, single, ← List.map_reverse, ← Int64.toInt_inj, neg_iff, step, minus,
    Int64.toInt_one, apply_ite (List.map fun pair : Nat × UInt8 => (pair.1, [pair.2]))]

/-- Whichever way a slice is written, its range writes place each value at its own index, in
ascending order of the indices. -/
theorem placed_writes (follows : span.Follows walk extent) {values : Bytes} {lowest : Nat}
    (count : values.length = span.length) (found : span.lowest = some lowest) :
    placed (span.writes lowest values) = span.ascending values := by
  have lowest_eq : span.index (if 0 < walk.step then 0 else span.length - 1) = lowest := by
    rw [follows.lowest_eq] at found
    split at found
    · cases found
    · exact Option.some.inj found
  have direction := follows.step_eq
  rw [follows.writes_eq]
  split
  · rename_i one
    rw [one] at lowest_eq direction
    rw [placed_range span lowest count, ascending, if_neg (by rw [neg_iff]; omega),
      follows.indices_of_step_one one, ← lowest_eq]
    rfl
  · split
    · rename_i minus
      have lengths : span.indices.length = values.length := by simp [count]
      rw [minus] at lowest_eq direction
      rw [placed_range span lowest (by rw [List.length_reverse, count]), ascending,
        if_pos (by rw [neg_iff]; omega), List.zip, List.reverse_zipWith lengths,
        follows.reverse_indices_of_step_minus_one minus, ← lowest_eq]
      rfl
    · exact placed_singles _

theorem ascending_of_lowest_none (follows : span.Follows walk extent) (values : Bytes)
    (missing : span.lowest = none) : span.ascending values = [] := by
  have nothing := indices_eq_nil (follows.lowest_eq_none_iff.mp missing)
  simp [ascending, nothing]

theorem pairwise_ascending (follows : span.Follows walk extent) (values : Bytes) :
    (span.ascending values).Pairwise fun near far => near.1 < far.1 := by
  have direction := follows.step_eq
  have nonzero := follows.step_ne_zero
  simp only [ascending, neg_iff, direction]
  split
  · rename_i negative
    rw [List.pairwise_reverse]
    exact pairwise_zip_indices span values (fun near far => far < near) fun later selected =>
      (follows.index_lt_index later selected).2 negative
  · exact pairwise_zip_indices span values (fun near far => near < far) fun later selected =>
      (follows.index_lt_index later selected).1 (by omega)

theorem nodup_ascending (follows : span.Follows walk extent) (values : Bytes) :
    ((span.ascending values).map Prod.fst).Nodup := by
  rw [List.Nodup, List.pairwise_map]
  exact (follows.pairwise_ascending values).imp Nat.ne_of_lt

theorem lt_extent_of_mem_ascending (follows : span.Follows walk extent) {values : Bytes}
    {pair : Nat × UInt8} (member : pair ∈ span.ascending values) : pair.1 < extent := by
  have zipped := (ascending_perm span values).mem_iff.mp member
  exact follows.lt_extent_of_mem_indices (List.of_mem_zip zipped).1

theorem writes_ne_nil (follows : span.Follows walk extent) {values : Bytes} {lowest : Nat}
    (count : values.length = span.length) (found : span.lowest = some lowest) :
    span.writes lowest values ≠ [] := by
  intro nothing
  have ascending_nil : span.ascending values = [] := by
    rw [← follows.placed_writes count found, nothing]
    rfl
  apply follows.length_ne_zero_of_lowest found
  rw [← length_ascending span count, ascending_nil]
  rfl

theorem writes_nonempty (follows : span.Follows walk extent) {values : Bytes} {lowest : Nat}
    (count : values.length = span.length) (found : span.lowest = some lowest)
    {write : Nat × Bytes} (member : write ∈ span.writes lowest values) : write.2 ≠ [] := by
  have some_values : values ≠ [] := by
    intro none_left
    apply follows.length_ne_zero_of_lowest found
    rw [← count, none_left]
    rfl
  rw [follows.writes_eq] at member
  split at member
  · rw [List.mem_singleton.mp member]
    exact some_values
  · split at member
    · rw [List.mem_singleton.mp member]
      simpa using some_values
    · obtain ⟨pair, _, rfl⟩ := List.mem_map.mp member
      simp

theorem writes_inside (follows : span.Follows walk extent) {values : Bytes} {lowest : Nat}
    (count : values.length = span.length) (found : span.lowest = some lowest)
    {write : Nat × Bytes} (member : write ∈ span.writes lowest values) :
    write.1 + write.2.length ≤ extent := by
  have nonempty := List.length_pos_iff.mpr (follows.writes_nonempty count found member)
  have spread : (write.1 + (write.2.length - 1), write.2[write.2.length - 1]) ∈
      Bytes.spread write.1 write.2 := by
    rw [Bytes.spread_eq_zip, List.mem_iff_getElem]
    refine ⟨write.2.length - 1, ?_, ?_⟩
    · rw [List.length_zip, List.length_range']
      omega
    · rw [List.getElem_zip, List.getElem_range', Nat.one_mul]
  have placedLast : (write.1 + (write.2.length - 1), write.2[write.2.length - 1]) ∈
      placed (span.writes lowest values) := List.mem_flatMap.mpr ⟨write, member, spread⟩
  rw [follows.placed_writes count found] at placedLast
  have bound := follows.lt_extent_of_mem_ascending placedLast
  dsimp only at bound
  omega

theorem getElem?_pick_forward (follows : span.Follows walk extent) {window : Window}
    (found : span.window = some window) (positive : 0 < walk.step) (value : Bytes) (i : Nat) :
    (span.pick (value.slice window))[i]? = walk.positions[i]?.bind (value[·]?) := by
  obtain ⟨first, last⟩ := (follows.window_covers found).forward positive
  have walked : ((i * span.stride : Nat) : Int) = i * walk.step := by
    rw [Int.natCast_mul, follows.stride_eq, Int.natAbs_of_nonneg (by omega)]
  simp only [pick, pos_iff, follows.step_eq, positive, if_true]
  rw [getElem?_everyNth _ follows.stride_pos, Bytes.getElem?_slice, Walk.getElem?_positions]
  by_cases before : walk.Before (walk.start + i * walk.step)
  · have place : (walk.start + i * walk.step).toNat = window.first + i * span.stride := by omega
    rw [if_pos before, Option.bind_some, place]
    unfold Walk.Before at before
    rw [if_pos (by omega)]
  · rw [if_neg before, Option.bind_none]
    unfold Walk.Before at before
    rw [if_neg (by omega)]

theorem getElem?_pick_backward (follows : span.Follows walk extent) {window : Window}
    (found : span.window = some window) (negative : walk.step < 0) (value : Bytes) (i : Nat) :
    (span.pick (value.slice window))[i]? =
      (walk.clip value.length).positions[i]?.bind (value[·]?) := by
  obtain ⟨first, last⟩ := (follows.window_covers found).backward negative
  have size := Bytes.length_slice value window
  have walked : ((i * span.stride : Nat) : Int) = -(i * walk.step) := by
    rw [Int.natCast_mul, follows.stride_eq, Int.ofNat_natAbs_of_nonpos (by omega), Int.mul_neg]
  have notPositive : ¬ 0 < walk.step := by omega
  simp only [pick, pos_iff, follows.step_eq, notPositive, if_false]
  simp only [getElem?_everyNth _ follows.stride_pos, Walk.getElem?_positions, Walk.clip, negative,
    if_true, Walk.Before, notPositive, false_and, true_and, false_or]
  split
  · rename_i before
    have place : (min walk.start (value.length - 1) + i * walk.step).toNat =
        window.first + ((value.slice window).length - 1 - i * span.stride) := by omega
    rw [Option.bind_some, place, List.getElem?_reverse (by omega), Bytes.getElem?_slice,
      if_pos (by omega)]
  · rename_i ended
    rw [List.getElem?_eq_none (by rw [List.length_reverse]; omega), Option.bind_none]

theorem pick_slice_clipped (follows : span.Follows walk extent) {window : Window}
    (found : span.window = some window) (value : Bytes) :
    span.pick (value.slice window) =
      (walk.clip value.length).positions.filterMap (value[·]?) := by
  have nonzero := follows.step_ne_zero
  symm
  apply filterMap_eq_of_getElem?
  intro i
  by_cases negative : walk.step < 0
  · exact follows.getElem?_pick_backward found negative value i
  · rw [Walk.clip_eq_self (absurd · negative)]
    exact follows.getElem?_pick_forward found (by omega) value i

theorem pick_slice (follows : span.Follows walk extent) {window : Window} {value : Bytes}
    (found : span.window = some window) (stored : extent ≤ value.length) :
    span.pick (value.slice window) = span.indices.filterMap (value[·]?) := by
  have whole : walk.clip value.length = walk := by
    apply Walk.clip_eq_self
    intro negative
    have bounds := follows.backward negative
    omega
  rw [follows.pick_slice_clipped found, whole, follows.indices_eq_positions]

end Follows

end Span

end StoredArray
