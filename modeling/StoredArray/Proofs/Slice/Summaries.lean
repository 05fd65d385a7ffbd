import StoredArray.Proofs.Bytes
import StoredArray.Proofs.Slice.Selection

namespace StoredArray

open Word

namespace Window

def positions (window : Window) : List Nat :=
  List.range' window.first (window.last + 1 - window.first)

theorem getElem?_positions (window : Window) (i : Nat) :
    window.positions[i]? =
      if window.first + i ≤ window.last then some (window.first + i) else none := by
  by_cases inside : window.first + i ≤ window.last
  · rw [if_pos inside, positions, List.getElem?_range' (by omega), Nat.one_mul]
  · rw [if_neg inside, List.getElem?_eq_none_iff, positions, List.length_range']
    omega

theorem getElem?_reverse_positions (window : Window) (i : Nat) :
    window.positions.reverse[i]? =
      if window.first + i ≤ window.last then some (window.last - i) else none := by
  have size : window.positions.length = window.last + 1 - window.first := by
    rw [positions, List.length_range']
  by_cases inside : window.first + i ≤ window.last
  · have place : window.first + (window.last + 1 - window.first - 1 - i) = window.last - i := by
      omega
    rw [if_pos inside, List.getElem?_reverse (by omega), getElem?_positions, size, place,
      if_pos (by omega)]
  · rw [if_neg inside, List.getElem?_eq_none_iff, List.length_reverse]
    omega

end Window

namespace Span

variable {span : Span} {walk : Walk} {extent : Nat}

theorem index_mem_indices {i : Nat} (selected : i < span.length) : span.index i ∈ span.indices :=
  List.mem_map.mpr ⟨i, List.mem_range.mpr selected, rfl⟩

namespace Follows

theorem pairwise_indices (follows : span.Follows walk extent) :
    span.indices.Pairwise fun near far =>
      (0 < walk.step → near < far) ∧ (walk.step < 0 → far < near) := by
  rw [List.pairwise_iff_getElem]
  intro i j early late later
  rw [length_indices] at late
  rw [getElem_indices, getElem_indices]
  exact follows.index_lt_index later late

theorem indices_increase (follows : span.Follows walk extent) (positive : 0 < walk.step) :
    span.indices.Pairwise (· < ·) :=
  follows.pairwise_indices.imp fun ordered => ordered.1 positive

theorem indices_decrease (follows : span.Follows walk extent) (negative : walk.step < 0) :
    span.indices.Pairwise (· > ·) :=
  follows.pairwise_indices.imp fun ordered => ordered.2 negative

theorem lowest_le_index (follows : span.Follows walk extent) {i : Nat}
    (selected : i < span.length) :
    span.index (if 0 < walk.step then 0 else span.length - 1) ≤ span.index i := by
  have nonzero := follows.step_ne_zero
  split
  · rename_i positive
    rcases Nat.eq_zero_or_pos i with rfl | later
    · exact Nat.le_refl _
    · exact Nat.le_of_lt ((follows.index_lt_index later selected).1 positive)
  · rename_i notPositive
    by_cases last : i = span.length - 1
    · exact Nat.le_of_eq (congrArg span.index last.symm)
    · apply Nat.le_of_lt
      apply (follows.index_lt_index (by omega) (by omega)).2
      omega

theorem lowest_eq_min? (follows : span.Follows walk extent) :
    span.lowest = span.indices.min? := by
  rw [follows.lowest_eq]
  split
  · rename_i empty
    rw [indices_eq_nil empty]
    rfl
  · rename_i nonempty
    symm
    rw [List.min?_eq_some_iff]
    constructor
    · apply index_mem_indices
      split <;> omega
    · intro position member
      obtain ⟨i, selected, rfl⟩ := List.mem_map.mp member
      exact follows.lowest_le_index (List.mem_range.mp selected)

theorem mem_window (follows : span.Follows walk extent) {window : Window}
    (found : span.window = some window) {position : Nat} (member : position ∈ span.indices) :
    window.first ≤ position ∧ position ≤ window.last := by
  have covers := follows.window_covers found
  obtain ⟨i, listed, rfl⟩ := List.mem_map.mp member
  have selected := List.mem_range.mp listed
  have place := follows.index_eq selected
  rcases (follows.lt_length_iff i).mp selected with ⟨positive, reached⟩ | ⟨negative, reached⟩
  · obtain ⟨first, last⟩ := covers.forward positive
    have ahead : 0 ≤ (i : Int) * walk.step := Int.mul_nonneg (by omega) (by omega)
    omega
  · obtain ⟨first, last⟩ := covers.backward negative
    have behind : (i : Int) * walk.step ≤ 0 :=
      Int.mul_nonpos_of_nonneg_of_nonpos (by omega) (by omega)
    omega

/-- From its lowest position upward, or from its highest downward, the window is the walk with every
stop between two indices left in. -/
theorem everyNth_window (follows : span.Follows walk extent) {window : Window}
    (found : span.window = some window) :
    everyNth walk.step.natAbs
        (if 0 < walk.step then window.positions else window.positions.reverse) =
      span.indices := by
  have nonzero := follows.step_ne_zero
  have covers := follows.window_covers found
  have ordered := covers.ordered
  apply List.ext_getElem?
  intro i
  rw [follows.indices_eq_positions, getElem?_everyNth _ (by omega), Walk.getElem?_positions]
  split
  · rename_i positive
    obtain ⟨first, last⟩ := covers.forward positive
    have advance : ((i * walk.step.natAbs : Nat) : Int) = i * walk.step := by
      rw [Int.natCast_mul, Int.natAbs_of_nonneg (by omega)]
    have place : window.first + i * walk.step.natAbs = (walk.start + i * walk.step).toNat := by
      omega
    have inside : (walk.start + i * walk.step).toNat ≤ window.last ↔
        walk.Before (walk.start + i * walk.step) := by
      unfold Walk.Before
      omega
    simp only [Window.getElem?_positions, place, inside]
  · obtain ⟨first, last⟩ := covers.backward (by omega)
    have advance : ((i * walk.step.natAbs : Nat) : Int) = -(i * walk.step) := by
      rw [Int.natCast_mul, Int.ofNat_natAbs_of_nonpos (by omega), Int.mul_neg]
    have place : window.last - i * walk.step.natAbs = (walk.start + i * walk.step).toNat := by
      omega
    have inside : window.first + i * walk.step.natAbs ≤ window.last ↔
        walk.Before (walk.start + i * walk.step) := by
      unfold Walk.Before
      omega
    simp only [Window.getElem?_reverse_positions, place, inside]

end Follows

end Span

namespace Slice

theorem step_of_resolve {slice : Slice} {length : Nat} {span : Span}
    (resolved : slice.resolve length = .ok span) : span.step = slice.step.getD 1 := by
  rw [resolve_eq_span resolved, Slice.span]
  split <;> rfl

/-- What a span tells of its indices is true of them: their number, which of them is the lowest, and
the window that they lie in. The indices come in the direction of the step, none of them twice, and
the window gives them back when it is walked in that direction and one position is kept in each
stride. -/
theorem summaries_of_indices (slice : Slice) (length : Nat) (nonzero : slice.step ≠ some 0) :
    ∃ span, slice.resolve length = .ok span ∧ span.step = slice.step.getD 1 ∧
      span.indices.length = span.length ∧
      (0 < span.step → span.indices.Pairwise (· < ·)) ∧
      (span.step < 0 → span.indices.Pairwise (· > ·)) ∧
      span.indices.Nodup ∧
      span.lowest = span.indices.min? ∧
      (span.lowest = none ↔ span.indices = []) ∧
      (span.window = none ↔ span.indices = []) ∧
      ∀ window, span.window = some window →
        (∀ index ∈ span.indices, window.first ≤ index ∧ index ≤ window.last) ∧
          window.last < min length 0x7fffffffffffffff ∧
          everyNth span.step.toInt.natAbs
              (if 0 < span.step then window.positions else window.positions.reverse) =
            span.indices := by
  have resolved := resolve_eq_ok length nonzero
  have follows := resolve_follows resolved
  generalize slice.span (slice.step.getD 1) (extent length) = span at resolved follows
  have empty : span.indices = [] ↔ span.length = 0 := by
    rw [← List.length_eq_zero_iff, span.length_indices]
  refine ⟨span, resolved, step_of_resolve resolved, span.length_indices, ?_, ?_,
    follows.nodup_indices, follows.lowest_eq_min?, ?_, ?_, ?_⟩
  · rw [pos_iff, follows.step_eq]
    exact follows.indices_increase
  · rw [neg_iff, follows.step_eq]
    exact follows.indices_decrease
  · rw [empty, follows.lowest_eq_none_iff]
  · rw [empty, span.window_eq_none_iff]
  · intro window found
    simp only [pos_iff, follows.step_eq]
    exact ⟨fun _ => follows.mem_window found, (follows.window_covers found).last_lt,
      follows.everyNth_window found⟩

theorem summaries_of_indices_remainder :
    let slice : Slice := { start := some 8, stop := some 1, step := some (-3) }
    slice.step ≠ some 0 ∧
      ∃ span, slice.resolve 16 = .ok span ∧ span.indices = [8, 5, 2] ∧ span.length = 3 ∧
        span.lowest = some 2 ∧ span.window = some { first := 2, last := 8 } ∧
        everyNth 3 [8, 7, 6, 5, 4, 3, 2] = span.indices := by
  intro slice
  have nonzero : slice.step ≠ some 0 := by decide
  obtain ⟨span, resolved, -, counted, -, -, -, lowest, -, -, windows⟩ :=
    summaries_of_indices slice 16 nonzero
  obtain rfl : span = { start := 8, stop := 1, step := -3, size := 3 } :=
    (resolve_eq_span resolved).trans (by decide)
  obtain ⟨-, -, walked⟩ := windows { first := 2, last := 8 } (by decide)
  exact ⟨nonzero, _, resolved, by decide, counted.symm, lowest.trans (by decide), by decide, walked⟩

end Slice

end StoredArray
