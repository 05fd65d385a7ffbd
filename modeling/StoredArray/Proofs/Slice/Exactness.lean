import Mathlib.Data.Nat.Basic
import Mathlib.Order.Basic
import StoredArray.Proofs.Slice.Selection

namespace StoredArray

namespace Word

def signed (value : Int) : Option Int :=
  if -0x8000000000000000 ≤ value ∧ value < 0x8000000000000000 then some value else none

def unsigned (value : Int) : Option Nat :=
  if 0 ≤ value ∧ value < 0x10000000000000000 then some value.toNat else none

variable {α : Type}

theorem signed_bind {value : Int} (f : Int → Option α) (least : -0x8000000000000000 ≤ value)
    (most : value < 0x8000000000000000) : (signed value >>= f) = f value := by
  rw [signed, if_pos ⟨least, most⟩]
  rfl

theorem unsigned_natCast {value : Nat} (fits : value < 0x10000000000000000) :
    unsigned value = some value := by
  rw [unsigned, if_pos ⟨by omega, by omega⟩, Int.toNat_natCast]

theorem unsigned_bind {value : Nat} (f : Nat → Option α) (fits : value < 0x10000000000000000) :
    (unsigned value >>= f) = f value := by
  rw [unsigned_natCast fits]
  rfl

end Word

open Word

namespace Slice

def exactPlace (length lower upper default : Int) : Option Int64 → Option Int
  | none => some default
  | some bound =>
    if bound.toInt < 0 then do
      let fromEnd ← signed (bound.toInt + length)
      return max fromEnd lower
    else some (min bound.toInt upper)

def exactWalk (slice : Slice) (length : Nat) : Option Walk := do
  let step := (slice.step.getD 1).toInt
  let extent ← signed (min length 0x7fffffffffffffff : Nat)
  if step < 0 then
    let last ← signed (extent - 1)
    let start ← exactPlace extent (-1) last last slice.start
    let stop ← exactPlace extent (-1) last (-1) slice.stop
    return { start, stop, step }
  else
    let start ← exactPlace extent 0 extent 0 slice.start
    let stop ← exactPlace extent 0 extent extent slice.stop
    return { start, stop, step }

theorem exactPlace_eq_settle (length lower upper default : Int) (bound : Option Int64)
    (nonneg : 0 ≤ length) (short : length < 0x8000000000000000) :
    exactPlace length lower upper default bound =
      some (settle length lower upper default bound) := by
  cases bound with
  | none => rfl
  | some bound =>
    have least := bound.le_toInt
    simp only [exactPlace, settle]
    split
    · rw [signed_bind _ (by omega) (by omega)]
      rfl
    · rfl

theorem exactWalk_eq_walk (slice : Slice) (length : Nat) :
    slice.exactWalk length = some (slice.walk (min length 0x7fffffffffffffff)) := by
  generalize clamped : min length 0x7fffffffffffffff = extent
  have short : (extent : Int) < 0x8000000000000000 := by omega
  have placed (lower upper default : Int) (bound : Option Int64) :
      exactPlace extent lower upper default bound =
        some (settle extent lower upper default bound) :=
    exactPlace_eq_settle extent lower upper default bound (Int.natCast_nonneg extent) short
  simp only [exactWalk, walk, toInt_step, clamped]
  rw [signed_bind _ (by omega) short]
  split
  · rw [signed_bind _ (by omega) (by omega), placed, placed]
    rfl
  · rw [placed, placed]
    rfl

end Slice

namespace Walk

def exactCount (low high : Int) (stride : Nat) : Option Nat := do
  let distance ← signed (high - low)
  let gap ← signed (distance - 1)
  unsigned ((← unsigned gap) / stride + 1 : Nat)

def exactSize (walk : Walk) : Option Nat :=
  if 0 < walk.step ∧ walk.start < walk.stop then do
    exactCount walk.start walk.stop (← unsigned walk.step)
  else if walk.step < 0 ∧ walk.stop < walk.start then
    exactCount walk.stop walk.start walk.step.natAbs
  else some 0

def exactIndex (walk : Walk) (i : Int) : Option Nat := do
  let advance ← signed (i * walk.step)
  unsigned (← signed (walk.start + advance))

def exactIndices (walk : Walk) (size : Nat) : Option (List Nat) := do
  let count ← signed size
  (List.range count.toNat).mapM fun i : Nat => walk.exactIndex i

def exactLowest (walk : Walk) (size : Nat) : Option (Option Nat) :=
  if size = 0 then some none
  else if 0 < walk.step then do
    return some (← unsigned walk.start)
  else do
    let count ← signed size
    let last ← signed (count - 1)
    return some (← walk.exactIndex last)

def exactWindow (walk : Walk) (size : Nat) : Option (Option Window) :=
  if size = 0 then some none
  else if 0 < walk.step then do
    let first ← unsigned walk.start
    let last ← unsigned (← signed (walk.stop - 1))
    return some { first, last }
  else do
    let first ← unsigned (← signed (walk.stop + 1))
    let last ← unsigned walk.start
    return some { first, last }

theorem exactCount_eq {low high : Int} {stride : Nat} (ordered : low < high)
    (fits : high - low < 0x8000000000000000) :
    exactCount low high stride = some ((high - low - 1).toNat / stride + 1) := by
  -- As a natural number the gap goes through both casts unchanged.
  obtain ⟨gap, between⟩ : ∃ gap : Nat, high - low - 1 = gap := ⟨(high - low - 1).toNat, by omega⟩
  have quotient := Nat.div_le_self gap stride
  rw [exactCount, signed_bind _ (by omega) fits, between, signed_bind _ (by omega) (by omega),
    unsigned_bind _ (by omega), Int.toNat_natCast]
  exact unsigned_natCast (by omega)

end Walk

theorem mapM_eq_some_map {α β : Type} {items : List α} {f : α → Option β} {g : α → β}
    (each : ∀ item ∈ items, f item = some (g item)) : items.mapM f = some (items.map g) := by
  induction items with
  | nil => rfl
  | cons item rest shorter =>
    have later := shorter fun other member => each other (List.mem_cons_of_mem _ member)
    rw [List.mapM_cons, each item List.mem_cons_self, later]
    rfl

namespace Span.Follows

variable {span : Span} {walk : Walk} {extent : Nat}

theorem length_le (follows : span.Follows walk extent) : span.length ≤ extent := by
  apply Nat.le_of_not_lt
  intro longer
  have first := follows.position_bounds (Nat.zero_lt_of_lt longer)
  have far := follows.position_bounds longer
  have nonzero := follows.step_ne_zero
  by_cases positive : 0 < walk.step
  · have ahead : (extent : Int) * 1 ≤ extent * walk.step :=
      Int.mul_le_mul_of_nonneg_left (by omega) (by omega)
    omega
  · have behind : (extent : Int) * walk.step ≤ extent * -1 :=
      Int.mul_le_mul_of_nonneg_left (by omega) (by omega)
    omega

theorem exactSize_eq (follows : span.Follows walk extent) :
    walk.exactSize = some span.length := by
  have room := follows.extent_lt
  have counts := follows.lt_length_iff
  unfold Walk.Before at counts
  rw [Walk.exactSize]
  split
  · rename_i forward
    obtain ⟨positive, ahead⟩ := forward
    obtain ⟨stride, same⟩ : ∃ stride : Nat, walk.step = stride := ⟨walk.step.toNat, by omega⟩
    have bounds := follows.forward positive
    have word := span.step.toInt_lt
    rw [follows.step_eq] at word
    rw [same, unsigned_bind _ (by omega), Walk.exactCount_eq ahead (by omega)]
    congr 1
    -- The quotient need not be known: the same numbers lie below it as below the size.
    apply eq_of_forall_lt_iff
    intro i
    rw [counts, Slice.lt_succ_quotient _ _ _ (by omega), ← Int.ofNat_le, Int.natCast_mul, ← same]
    omega
  · rename_i notForward
    split
    · rename_i backward
      obtain ⟨negative, behind⟩ := backward
      have bounds := follows.backward negative
      rw [Walk.exactCount_eq behind (by omega)]
      congr 1
      apply eq_of_forall_lt_iff
      intro i
      rw [counts, Slice.lt_succ_quotient _ _ _ (by omega), ← Int.ofNat_le, Int.natCast_mul,
        Int.ofNat_natAbs_of_nonpos (by omega), Int.mul_neg]
      omega
    · rename_i notBackward
      have nothing : ¬ 0 < span.length := by
        rw [counts, Int.natCast_zero, Int.zero_mul]
        omega
      rw [Nat.eq_zero_of_not_pos nothing]

theorem exactIndex_eq (follows : span.Follows walk extent) {i : Nat} (selected : i < span.length) :
    walk.exactIndex i = some (span.index i) := by
  have room := follows.extent_lt
  have first := follows.position_bounds (Nat.zero_lt_of_lt selected)
  have bounds := follows.position_bounds selected
  have place := follows.index_eq selected
  rw [Int.natCast_zero, Int.zero_mul] at first
  rw [Walk.exactIndex, signed_bind _ (by omega) (by omega), signed_bind _ (by omega) (by omega),
    ← place]
  exact unsigned_natCast (by omega)

theorem exactIndices_eq (follows : span.Follows walk extent) :
    walk.exactIndices span.length = some span.indices := by
  have room := follows.extent_lt
  have limit := follows.length_le
  rw [Walk.exactIndices, signed_bind _ (by omega) (by omega), Int.toNat_natCast, indices]
  apply mapM_eq_some_map
  intro i member
  exact follows.exactIndex_eq (List.mem_range.mp member)

theorem exactLowest_eq (follows : span.Follows walk extent) :
    walk.exactLowest span.length = some span.lowest := by
  have room := follows.extent_lt
  have limit := follows.length_le
  rw [follows.lowest_eq, Walk.exactLowest]
  split
  · rfl
  · rename_i nonempty
    split
    · have bounds := follows.position_bounds (Nat.pos_of_ne_zero nonempty)
      have place := follows.index_eq (Nat.pos_of_ne_zero nonempty)
      rw [Int.natCast_zero, Int.zero_mul, Int.add_zero] at bounds place
      rw [← place, unsigned_bind _ (by omega)]
      rfl
    · have final := follows.exactIndex_eq (i := span.length - 1) (by omega)
      rw [Int.natCast_sub (by omega), Int.natCast_one] at final
      rw [signed_bind _ (by omega) (by omega), signed_bind _ (by omega) (by omega), final]
      rfl

theorem exactWindow_eq (follows : span.Follows walk extent) :
    walk.exactWindow span.length = some span.window := by
  have room := follows.extent_lt
  have nonzero := follows.step_ne_zero
  rw [Walk.exactWindow]
  cases found : span.window with
  | none => rw [if_pos ((window_eq_none_iff span).mp found)]
  | some window =>
    have covers := follows.window_covers found
    have ordered := covers.ordered
    have last_lt := covers.last_lt
    rw [if_neg (length_ne_zero_of_window found)]
    split
    · rename_i positive
      obtain ⟨first, last⟩ := covers.forward positive
      rw [← first, ← last, unsigned_bind _ (by omega), signed_bind _ (by omega) (by omega),
        unsigned_bind _ (by omega)]
      rfl
    · obtain ⟨first, last⟩ := covers.backward (by omega)
      rw [← first, ← last, signed_bind _ (by omega) (by omega), unsigned_bind _ (by omega),
        unsigned_bind _ (by omega)]
      rfl

end Span.Follows

namespace Slice

/-- Worked out in unbounded integers, and given up wherever a word could not follow, the bounds, the
size, the indices, the lowest index and the window of a slice are all found, and they are those that
machine words give. Stepping by the stride never stands still. -/
theorem exact_in_words (slice : Slice) (length : Nat) (nonzero : slice.step ≠ some 0) :
    ∃ span, slice.resolve length = .ok span ∧
      slice.exactWalk length = some span.walk ∧
      span.walk.exactSize = some span.length ∧
      span.walk.exactIndices span.length = some span.indices ∧
      span.walk.exactLowest span.length = some span.lowest ∧
      span.walk.exactWindow span.length = some span.window ∧
      span.stride = span.step.toInt.natAbs ∧ 1 ≤ span.stride := by
  have resolved := resolve_eq_ok length nonzero
  have follows := resolve_follows resolved
  generalize slice.span (slice.step.getD 1) (extent length) = span at resolved follows
  refine ⟨span, resolved, ?_⟩
  rw [exactWalk_eq_walk, follows.walk_eq, follows.step_eq]
  exact ⟨rfl, follows.exactSize_eq, follows.exactIndices_eq, follows.exactLowest_eq,
    follows.exactWindow_eq, follows.stride_eq, follows.stride_pos⟩

theorem exact_in_words_longest :
    let slice : Slice := { step := some (-1) }
    let walk : Walk := { start := 9223372036854775806, stop := -1, step := -1 }
    slice.step ≠ some 0 ∧
      slice.exactWalk 0xffffffffffffffff = some walk ∧
      walk.exactSize = some 9223372036854775807 ∧
      walk.exactLowest 9223372036854775807 = some (some 0) ∧
      walk.exactWindow 9223372036854775807 =
        some (some { first := 0, last := 9223372036854775806 }) := by
  intro slice walk
  have nonzero : slice.step ≠ some 0 := by decide
  obtain ⟨span, resolved, walked, size, -, lowest, window, -⟩ :=
    exact_in_words slice 0xffffffffffffffff nonzero
  obtain rfl : span =
      { start := 9223372036854775806, stop := -1, step := -1, size := 9223372036854775807 } :=
    (resolve_eq_span resolved).trans (by decide)
  exact ⟨nonzero, walked, size, lowest.trans (by decide), window.trans (by decide)⟩

end Slice

end StoredArray
