import StoredArray.Proofs.Slice.Bounds

namespace StoredArray

open Word

/-- A walk over positions in unbounded integers: it starts at one position, goes on by its step and
ends before it reaches the stop. -/
structure Walk where
  start : Int
  stop : Int
  step : Int

namespace Walk

def Before (walk : Walk) (position : Int) : Prop :=
  0 < walk.step ∧ position < walk.stop ∨ walk.step < 0 ∧ walk.stop < position

instance (walk : Walk) (position : Int) : Decidable (walk.Before position) :=
  inferInstanceAs (Decidable (_ ∨ _))

def onward (walk : Walk) (position : Int) : List Int :=
  if walk.Before position then position :: walk.onward (position + walk.step) else []
termination_by (if 0 < walk.step then walk.stop - position else position - walk.stop).toNat
decreasing_by
  rename_i before
  unfold Before at before
  split <;> omega

def positions (walk : Walk) : List Nat :=
  (walk.onward walk.start).map Int.toNat

theorem positions_of_ended {walk : Walk} (ended : ¬ walk.Before walk.start) :
    walk.positions = [] := by
  rw [positions, onward, if_neg ended, List.map_nil]

theorem not_before_ahead {walk : Walk} {position : Int} (ended : ¬ walk.Before position) (i : Nat) :
    ¬ walk.Before (position + i * walk.step) := by
  unfold Before at *
  by_cases positive : 0 < walk.step
  · have ahead : 0 ≤ (i : Int) * walk.step := Int.mul_nonneg (by omega) (by omega)
    omega
  · have behind : (i : Int) * walk.step ≤ 0 :=
      Int.mul_nonpos_of_nonneg_of_nonpos (by omega) (by omega)
    omega

theorem getElem?_onward (walk : Walk) (position : Int) (i : Nat) :
    (walk.onward position)[i]? =
      if walk.Before (position + i * walk.step) then some (position + i * walk.step) else none := by
  induction i generalizing position with
  | zero =>
    rw [onward]
    split <;> simp_all
  | succ i shorter =>
    rw [onward]
    split
    · have place : position + walk.step + i * walk.step =
          position + ((i + 1 : Nat) : Int) * walk.step := by
        rw [Int.natCast_succ, Int.add_mul]
        omega
      rw [List.getElem?_cons_succ, shorter, place]
    · rename_i ended
      rw [if_neg (not_before_ahead ended _)]
      rfl

theorem getElem?_positions (walk : Walk) (i : Nat) :
    walk.positions[i]? =
      if walk.Before (walk.start + i * walk.step) then some (walk.start + i * walk.step).toNat
      else none := by
  rw [positions, List.getElem?_map, getElem?_onward]
  split <;> rfl

theorem onward_eq_map_range (walk : Walk) (position : Int) (count : Nat)
    (counts : ∀ i : Nat, i < count ↔ walk.Before (position + i * walk.step)) :
    walk.onward position = (List.range count).map fun i : Nat => position + i * walk.step := by
  apply List.ext_getElem?
  intro i
  rw [getElem?_onward, List.getElem?_map]
  by_cases inside : i < count
  · rw [if_pos ((counts i).mp inside), List.getElem?_range inside, Option.map_some]
  · have past : (List.range count)[i]? = none :=
      List.getElem?_eq_none (by rw [List.length_range]; omega)
    rw [if_neg (fun before => inside ((counts i).mpr before)), past, Option.map_none]

end Walk

namespace Slice

/-- Where a bound stands in an array: a bound that is left out at the given default, a negative one
counted from the end, and neither of them outside `lower` and `upper`. -/
def settle (length lower upper default : Int) : Option Int64 → Int
  | none => default
  | some bound =>
    if bound.toInt < 0 then max (bound.toInt + length) lower else min bound.toInt upper

def walk (slice : Slice) (length : Nat) : Walk :=
  let step := (slice.step.map Int64.toInt).getD 1
  if step < 0 then
    { start := settle length (-1) (length - 1) (length - 1) slice.start
      stop := settle length (-1) (length - 1) (-1) slice.stop
      step }
  else
    { start := settle length 0 length 0 slice.start
      stop := settle length 0 length length slice.stop
      step }

theorem settle_bounds (length lower upper default : Int) (bound : Option Int64)
    (nonpos : lower ≤ 0) (reach : length ≤ upper + 1) (room : lower ≤ upper)
    (least : lower ≤ default) (most : default ≤ upper) :
    lower ≤ settle length lower upper default bound ∧
      settle length lower upper default bound ≤ upper := by
  cases bound with
  | none => exact ⟨least, most⟩
  | some bound =>
    simp only [settle]
    split <;> omega

theorem toInt_place_eq_settle (extent lower upper default : Int64) (bound : Option Int64)
    (nonneg : 0 ≤ extent.toInt) :
    (place extent lower upper default bound).toInt =
      settle extent.toInt lower.toInt upper.toInt default.toInt bound := by
  cases bound with
  | none => rfl
  | some bound =>
    simp only [place, settle, neg_iff]
    split
    · have least := bound.le_toInt
      have most := extent.toInt_lt
      rw [toInt_max, toInt_add_of_fits bound extent (by omega) (by omega)]
    · exact toInt_min bound upper

theorem toInt_step (slice : Slice) :
    (slice.step.map Int64.toInt).getD 1 = (slice.step.getD 1).toInt := by
  cases slice.step <;> rfl

theorem step_eq_zero_iff (slice : Slice) : slice.step.getD 1 = 0 ↔ slice.step = some 0 := by
  cases slice.step with
  | none => simp
  | some step => simp

theorem resolve_eq_error_iff (slice : Slice) (length : Nat) (error : Error) :
    slice.resolve length = .error error ↔ slice.step = some 0 ∧ error = .zeroStep := by
  simp only [resolve, step_eq_zero_iff]
  split <;> simp_all [eq_comm]

theorem resolve_eq_ok {slice : Slice} (length : Nat) (nonzero : slice.step ≠ some 0) :
    slice.resolve length = .ok (slice.span (slice.step.getD 1) (extent length)) := by
  simp only [resolve, step_eq_zero_iff, nonzero, if_false]

theorem resolve_step_ne_zero {slice : Slice} {length : Nat} {span : Span}
    (resolved : slice.resolve length = .ok span) : slice.step.getD 1 ≠ 0 := by
  intro zero
  simp only [resolve, zero, if_true] at resolved
  cases resolved

theorem resolve_eq_span {slice : Slice} {length : Nat} {span : Span}
    (resolved : slice.resolve length = .ok span) :
    span = slice.span (slice.step.getD 1) (extent length) := by
  simp only [resolve, resolve_step_ne_zero resolved, if_false] at resolved
  exact (Except.ok.inj resolved).symm

end Slice

/-- A span follows a walk in an array of `extent` bytes if its words stand for the integers of the
walk, its bounds are those of the array, and its size counts the steps between them. -/
structure Span.Follows (span : Span) (walk : Walk) (extent : Nat) : Prop where
  extent_lt : extent < 0x8000000000000000
  start_eq : span.start.toInt = walk.start
  stop_eq : span.stop.toInt = walk.stop
  step_eq : span.step.toInt = walk.step
  step_ne_zero : walk.step ≠ 0
  forward : 0 < walk.step → 0 ≤ walk.start ∧ walk.stop ≤ extent
  backward : walk.step < 0 → -1 ≤ walk.stop ∧ walk.start < extent
  size_eq : span.size = Slice.countSteps span.start span.stop span.step

namespace Slice

theorem span_follows_backward (slice : Slice) (extent : Int64) (length : Nat)
    (extent_eq : extent.toInt = length) (negative : (slice.step.getD 1).toInt < 0) :
    (slice.span (slice.step.getD 1) extent).Follows (slice.walk length) length := by
  have most := extent.toInt_lt
  have minus : (-1 : Int64).toInt = -1 := rfl
  have last : (extent - 1).toInt = length - 1 := by
    rw [toInt_sub_of_fits extent 1 (by rw [Int64.toInt_one]; omega)
      (by rw [Int64.toInt_one]; omega), Int64.toInt_one, extent_eq]
  have start := settle_bounds length (-1) (length - 1) (length - 1) slice.start
    (by omega) (by omega) (by omega) (by omega) (by omega)
  have stop := settle_bounds length (-1) (length - 1) (-1) slice.stop
    (by omega) (by omega) (by omega) (by omega) (by omega)
  have walked : slice.walk length =
      { start := settle length (-1) (length - 1) (length - 1) slice.start
        stop := settle length (-1) (length - 1) (-1) slice.stop
        step := (slice.step.getD 1).toInt } := by
    simp only [walk, toInt_step, negative, if_true]
  have backward : slice.step.getD 1 < 0 := (neg_iff _).mpr negative
  simp only [walked, span, backward, if_true]
  refine ⟨by omega, ?_, ?_, rfl, ?_, fun positive => ?_, fun _ => ?_, rfl⟩
  all_goals dsimp only at *
  · rw [toInt_place_eq_settle _ _ _ _ _ (by omega), extent_eq, minus, last]
  · rw [toInt_place_eq_settle _ _ _ _ _ (by omega), extent_eq, minus, last]
  · omega
  · omega
  · omega

theorem span_follows_forward (slice : Slice) (extent : Int64) (length : Nat)
    (extent_eq : extent.toInt = length) (positive : 0 < (slice.step.getD 1).toInt) :
    (slice.span (slice.step.getD 1) extent).Follows (slice.walk length) length := by
  have most := extent.toInt_lt
  have start := settle_bounds length 0 length 0 slice.start
    (by omega) (by omega) (by omega) (by omega) (by omega)
  have stop := settle_bounds length 0 length length slice.stop
    (by omega) (by omega) (by omega) (by omega) (by omega)
  have notNegative : ¬ (slice.step.getD 1).toInt < 0 := by omega
  have walked : slice.walk length =
      { start := settle length 0 length 0 slice.start
        stop := settle length 0 length length slice.stop
        step := (slice.step.getD 1).toInt } := by
    simp only [walk, toInt_step, notNegative, if_false]
  have notBackward : ¬ slice.step.getD 1 < 0 :=
    fun backward => notNegative ((neg_iff _).mp backward)
  simp only [walked, span, notBackward, if_false]
  refine ⟨by omega, ?_, ?_, rfl, ?_, fun _ => ?_, fun negative => ?_, rfl⟩
  all_goals dsimp only at *
  · rw [toInt_place_eq_settle _ _ _ _ _ (by omega), extent_eq, Int64.toInt_zero]
  · rw [toInt_place_eq_settle _ _ _ _ _ (by omega), extent_eq, Int64.toInt_zero]
  · omega
  · omega
  · omega

theorem resolve_follows {slice : Slice} {length : Nat} {span : Span}
    (resolved : slice.resolve length = .ok span) :
    span.Follows (slice.walk (min length 0x7fffffffffffffff)) (min length 0x7fffffffffffffff) := by
  have nonzero : (slice.step.getD 1).toInt ≠ 0 :=
    fun zero => resolve_step_ne_zero resolved (Int64.toInt_inj.mp zero)
  rw [resolve_eq_span resolved]
  by_cases negative : (slice.step.getD 1).toInt < 0
  · exact span_follows_backward slice _ _ (toInt_extent length) negative
  · exact span_follows_forward slice _ _ (toInt_extent length) (by omega)

theorem exists_span {slice : Slice} {length : Nat} (addressable : length ≤ 0x7fffffffffffffff)
    (nonzero : slice.step ≠ some 0) :
    ∃ span, slice.resolve length = .ok span ∧ span.Follows (slice.walk length) length := by
  have resolved := resolve_eq_ok length nonzero
  have follows := resolve_follows resolved
  rw [Nat.min_eq_left addressable] at follows
  exact ⟨_, resolved, follows⟩

end Slice

structure Window.Covers (window : Window) (walk : Walk) (extent : Nat) : Prop where
  ordered : window.first ≤ window.last
  last_lt : window.last < extent
  forward : 0 < walk.step → (window.first : Int) = walk.start ∧ (window.last : Int) = walk.stop - 1
  backward : walk.step < 0 → (window.first : Int) = walk.stop + 1 ∧ (window.last : Int) = walk.start

namespace Span

def walk (span : Span) : Walk where
  start := span.start.toInt
  stop := span.stop.toInt
  step := span.step.toInt

theorem size_eq_zero_iff (span : Span) : span.size = 0 ↔ span.length = 0 := by
  rw [length, ← UInt64.toNat_inj, UInt64.toNat_zero]

@[simp, grind =]
theorem length_indices (span : Span) : span.indices.length = span.length := by
  simp [indices]

@[simp]
theorem getElem_indices (span : Span) (i : Nat) (selected : i < span.indices.length) :
    span.indices[i] = span.index i := by
  simp [indices]

theorem indices_eq_nil {span : Span} (empty : span.length = 0) : span.indices = [] := by
  rw [← List.length_eq_zero_iff, length_indices, empty]

theorem window_eq_none_iff (span : Span) : span.window = none ↔ span.length = 0 := by
  rw [window]
  simp only [size_eq_zero_iff]
  split
  · simp_all
  · split <;> simp_all

theorem length_ne_zero_of_window {span : Span} {window : Window}
    (found : span.window = some window) : span.length ≠ 0 := by
  intro empty
  rw [(window_eq_none_iff span).mpr empty] at found
  cases found

end Span

namespace Span.Follows

variable {span : Span} {walk : Walk} {extent : Nat}

theorem walk_eq (follows : span.Follows walk extent) : span.walk = walk := by
  rw [Span.walk, follows.start_eq, follows.stop_eq, follows.step_eq]

theorem stride_eq (follows : span.Follows walk extent) : span.stride = walk.step.natAbs := by
  rw [stride, toNat_magnitude, follows.step_eq]

theorem stride_pos (follows : span.Follows walk extent) : 0 < span.stride := by
  have nonzero := follows.step_ne_zero
  rw [follows.stride_eq]
  omega

theorem lt_length_iff (follows : span.Follows walk extent) (i : Nat) :
    i < span.length ↔ walk.Before (walk.start + i * walk.step) := by
  have room := follows.extent_lt
  have nonzero := follows.step_ne_zero
  rw [length, follows.size_eq, Walk.Before]
  by_cases negative : walk.step < 0
  · have bounds := follows.backward negative
    rw [Slice.lt_countSteps_backward _ _ _ _ (by rw [follows.step_eq]; exact negative)
      (by rw [follows.stop_eq]; omega) (by rw [follows.start_eq]; omega),
      follows.start_eq, follows.stop_eq, follows.step_eq]
    omega
  · have bounds := follows.forward (by omega)
    rw [Slice.lt_countSteps_forward _ _ _ _ (by rw [follows.step_eq]; omega)
      (by rw [follows.start_eq]; omega), follows.start_eq, follows.stop_eq, follows.step_eq]
    omega

theorem position_bounds (follows : span.Follows walk extent) {i : Nat}
    (selected : i < span.length) :
    0 ≤ walk.start + i * walk.step ∧ walk.start + i * walk.step < extent := by
  have before := (follows.lt_length_iff i).mp selected
  rcases before with ⟨positive, reached⟩ | ⟨negative, reached⟩
  · have bounds := follows.forward positive
    have product : 0 ≤ (i : Int) * walk.step := Int.mul_nonneg (by omega) (by omega)
    omega
  · have bounds := follows.backward negative
    have product : (i : Int) * walk.step ≤ 0 :=
      Int.mul_nonpos_of_nonneg_of_nonpos (by omega) (by omega)
    omega

theorem index_eq (follows : span.Follows walk extent) {i : Nat} (selected : i < span.length) :
    (span.index i : Int) = walk.start + i * walk.step := by
  have bounds := follows.position_bounds selected
  have room := follows.extent_lt
  have word : (span.start + Int64.ofNat i * span.step).toInt = walk.start + i * walk.step := by
    rw [← follows.start_eq, ← follows.step_eq] at bounds ⊢
    exact toInt_affine _ _ _ (by omega) (by omega)
  rw [index, toNat_unsigned _ (by omega), word]

theorem index_lt (follows : span.Follows walk extent) {i : Nat} (selected : i < span.length) :
    span.index i < extent := by
  have bounds := follows.position_bounds selected
  have place := follows.index_eq selected
  omega

theorem onward_eq_map_indices (follows : span.Follows walk extent) :
    walk.onward walk.start = span.indices.map Int.ofNat := by
  rw [walk.onward_eq_map_range walk.start span.length follows.lt_length_iff, indices, List.map_map]
  apply List.map_congr_left
  intro i member
  exact (follows.index_eq (List.mem_range.mp member)).symm

theorem indices_eq_positions (follows : span.Follows walk extent) :
    span.indices = walk.positions := by
  simp [Walk.positions, follows.onward_eq_map_indices, Function.comp_def]

theorem length_positions (follows : span.Follows walk extent) :
    walk.positions.length = span.length := by
  rw [← follows.indices_eq_positions, length_indices]

theorem index_lt_index (follows : span.Follows walk extent) {i j : Nat} (later : i < j)
    (selected : j < span.length) :
    (0 < walk.step → span.index i < span.index j) ∧
      (walk.step < 0 → span.index j < span.index i) := by
  have near := follows.index_eq (Nat.lt_trans later selected)
  have far := follows.index_eq selected
  have apart : 0 < (j : Int) - i := by omega
  have gap : (span.index j : Int) - span.index i = ((j : Int) - i) * walk.step := by
    rw [near, far, Int.sub_mul]
    omega
  constructor
  · intro positive
    have ahead : 0 < ((j : Int) - i) * walk.step := Int.mul_pos apart positive
    omega
  · intro negative
    have behind : ((j : Int) - i) * walk.step < 0 := Int.mul_neg_of_pos_of_neg apart negative
    omega

theorem nodup_indices (follows : span.Follows walk extent) : span.indices.Nodup := by
  rw [List.Nodup, List.pairwise_iff_getElem]
  intro i j early late later
  rw [length_indices] at late
  have nonzero := follows.step_ne_zero
  have order := follows.index_lt_index later late
  rw [getElem_indices, getElem_indices]
  omega

theorem lt_extent_of_mem_indices (follows : span.Follows walk extent) {position : Nat}
    (member : position ∈ span.indices) : position < extent := by
  obtain ⟨i, selected, rfl⟩ := List.mem_map.mp member
  exact follows.index_lt (List.mem_range.mp selected)

theorem lowest_eq (follows : span.Follows walk extent) :
    span.lowest =
      if span.length = 0 then none
      else some (span.index (if 0 < walk.step then 0 else span.length - 1)) := by
  rw [lowest]
  simp only [size_eq_zero_iff, pos_iff, follows.step_eq]
  split
  · rfl
  · rename_i nonempty
    split
    · have zero : Int64.ofNat 0 = 0 := rfl
      rw [index, zero, Int64.zero_mul, Int64.add_zero]
    · rw [index, toInt64_pred _ (by rw [← length]; omega), length]

theorem lowest_eq_none_iff (follows : span.Follows walk extent) :
    span.lowest = none ↔ span.length = 0 := by
  rw [follows.lowest_eq]
  split
  · simp_all
  · simp_all

theorem length_ne_zero_of_lowest (follows : span.Follows walk extent) {lowest : Nat}
    (found : span.lowest = some lowest) : span.length ≠ 0 := by
  intro empty
  rw [follows.lowest_eq_none_iff.mpr empty] at found
  cases found

theorem window_covers (follows : span.Follows walk extent) {window : Window}
    (found : span.window = some window) : window.Covers walk extent := by
  have room := follows.extent_lt
  have one := Int64.toInt_one
  have nonempty := length_ne_zero_of_window found
  have first := (follows.lt_length_iff 0).mp (by omega)
  have nonzero := follows.step_ne_zero
  simp only [Span.window, size_eq_zero_iff, nonempty, if_false, pos_iff, follows.step_eq] at found
  simp only [Walk.Before, Int.natCast_zero, Int.zero_mul, Int.add_zero] at first
  by_cases positive : 0 < walk.step
  · simp only [positive, if_true] at found
    cases found
    have bounds := follows.forward positive
    have start := follows.start_eq
    have stop := follows.stop_eq
    have before := toInt_sub_of_fits span.stop 1 (by omega) (by omega)
    have low := toNat_unsigned span.start (by omega)
    have high := toNat_unsigned (span.stop - 1) (by omega)
    constructor <;> dsimp only <;> omega
  · simp only [positive, if_false] at found
    cases found
    have bounds := follows.backward (by omega)
    have start := follows.start_eq
    have stop := follows.stop_eq
    have after := toInt_add_of_fits span.stop 1 (by omega) (by omega)
    have low := toNat_unsigned (span.stop + 1) (by omega)
    have high := toNat_unsigned span.start (by omega)
    constructor <;> dsimp only <;> omega

end Span.Follows

end StoredArray

namespace StoredArray.Slice

/-- Only a step of zero is refused. Any other slice resolves to the bounds and the step of its walk,
and its indices are the positions of that walk, none left out and none outside the array. -/
theorem resolve_is_walk (slice : Slice) (length : Nat) (addressable : length ≤ 0x7fffffffffffffff) :
    let walk := slice.walk length
    (∀ error, slice.resolve length = .error error ↔ slice.step = some 0 ∧ error = .zeroStep) ∧
      Error.zeroStep.kind = .invalidIndex ∧
      (slice.step ≠ some 0 → ∃ span, slice.resolve length = .ok span ∧
        (span.start.toInt, span.stop.toInt, span.step.toInt) =
          (walk.start, walk.stop, walk.step) ∧
        span.indices.map Int.ofNat = walk.onward walk.start ∧
        span.length = (walk.onward walk.start).length ∧
        ∀ position ∈ span.indices, position < length) := by
  intro walk
  refine ⟨slice.resolve_eq_error_iff length, rfl, fun nonzero => ?_⟩
  have resolved := resolve_eq_ok length nonzero
  have follows := resolve_follows resolved
  rw [Nat.min_eq_left addressable] at follows
  have listed : walk.onward walk.start = _ := follows.onward_eq_map_indices
  refine ⟨_, resolved, ?_, listed.symm, ?_, ?_⟩
  · rw [follows.start_eq, follows.stop_eq, follows.step_eq]
  · rw [listed, List.length_map, Span.length_indices]
  · intro position member
    exact follows.lt_extent_of_mem_indices member

theorem resolve_is_walk_extreme :
    let slice : Slice := { start := some (-2), step := some (-9223372036854775808) }
    slice.step ≠ some 0 ∧
      ∃ span, slice.resolve 0x7fffffffffffffff = .ok span ∧
        span.indices.map Int.ofNat = [9223372036854775805] ∧ span.length = 1 := by
  intro slice
  have nonzero : slice.step ≠ some 0 := by decide
  have walked : slice.walk 0x7fffffffffffffff =
      { start := 9223372036854775805, stop := -1, step := -9223372036854775808 } := rfl
  obtain ⟨_, _, resolves⟩ := resolve_is_walk slice 0x7fffffffffffffff (Nat.le_refl _)
  obtain ⟨span, resolved, _, listed, counted, _⟩ := resolves nonzero
  rw [walked, Walk.onward, if_pos (by decide), Walk.onward, if_neg (by decide)] at listed counted
  exact ⟨nonzero, span, resolved, listed, counted⟩

end StoredArray.Slice
