import Mathlib.Data.List.Nodup
import StoredArray.Proofs.View.Stored

namespace StoredArray

namespace LocalArray

def position (array : Bytes) (index : Int) : Option Nat :=
  if 0 ≤ index ∧ index < array.length then some index.toNat
  else if index < 0 ∧ -array.length ≤ index then some (array.length + index).toNat
  else none

def get (array : Bytes) (index : Int64) : Except Error UInt8 :=
  match position array index.toInt with
  | some place => .ok (array.getD place 0)
  | none => .error (.indexOutOfRange index array.length)

def set (array : Bytes) (index : Int64) (value : Bytes) : Except Error Bytes :=
  match position array index.toInt with
  | none => .error (.indexOutOfRange index array.length)
  | some place =>
    match value with
    | [byte] => .ok (List.set array place byte)
    | _ => .error (.invalidValue value.length)

def select (array : Bytes) (slice : Slice) : Except Error (List Nat) :=
  if slice.step = some 0 then .error .zeroStep else .ok (slice.walk array.length).positions

def getSlice (array : Bytes) (slice : Slice) : Except Error Bytes := do
  let positions ← select array slice
  return positions.filterMap (array[·]?)

def setSlice (array : Bytes) (slice : Slice) (values : Bytes) : Except Error Bytes := do
  let positions ← select array slice
  if values.length = positions.length then
    return (positions.zip values).foldl (fun array pair => array.set pair.1 pair.2) array
  else
    throw (.lengthMismatch positions.length values.length)

def reading (array : Bytes) (result : Except Error Value) : Except Error (Option Value) × Bytes :=
  (result.map some, array)

def writing (array : Bytes) (result : Except Error Bytes) : Except Error (Option Value) × Bytes :=
  match result with
  | .ok changed => (.ok none, changed)
  | .error error => (.error error, array)

def perform (array : Bytes) : Operation → Except Error (Option Value) × Bytes
  | .get index => reading array ((get array index).map .byte)
  | .set index value => writing array (set array index value)
  | .getSlice slice => reading array ((getSlice array slice).map .bytes)
  | .setSlice slice values => writing array (setSlice array slice values)
  | .read (.byte index) => reading array ((get array index).map .byte)
  | .read (.slice slice) => reading array ((getSlice array slice).map .bytes)
  | .write (.byte index) values => writing array (set array index values)
  | .write (.slice slice) values => writing array (setSlice array slice values)
  | .toBytes => reading array ((getSlice array .all).map .bytes)
  | .copyFrom values => writing array (setSlice array .all values)

def performAll : List Operation → Bytes → List (Except Error (Option Value) × Bytes)
  | [], _ => []
  | operation :: rest, array =>
    let turn := perform array operation
    turn :: performAll rest turn.2

theorem perform_plain (array : Bytes) (operation : Operation) :
    perform array operation.plain = perform array operation := by
  cases operation with
  | read index => cases index <;> rfl
  | write index values => cases index <;> rfl
  | get | set | getSlice | setSlice | toBytes | copyFrom => rfl

theorem setSlice_of_select {array : Bytes} {slice : Slice} {positions : List Nat} (values : Bytes)
    (selected : select array slice = .ok positions) :
    setSlice array slice values =
      if values.length = positions.length then
        .ok ((positions.zip values).foldl (fun array pair => array.set pair.1 pair.2) array)
      else .error (.lengthMismatch positions.length values.length) := by
  rw [setSlice, selected]
  rfl

theorem foldl_set_perm {pairs others : List (Nat × UInt8)} (perm : pairs.Perm others)
    (nodup : (pairs.map Prod.fst).Nodup) (array : Bytes) :
    pairs.foldl (fun array pair => array.set pair.1 pair.2) array =
      others.foldl (fun array pair => array.set pair.1 pair.2) array := by
  apply perm.foldl_eq'
  intro first here second there array
  by_cases same : first.1 = second.1
  · rw [List.inj_on_of_nodup_map nodup here there same]
  · exact List.set_comm _ _ same

theorem length_foldl_set (pairs : List (Nat × UInt8)) (array : Bytes) :
    (pairs.foldl (fun array pair => array.set pair.1 pair.2) array).length = array.length := by
  induction pairs generalizing array with
  | nil => rfl
  | cons pair rest shorter => rw [List.foldl_cons, shorter, List.length_set]

theorem putAll_eq_foldl_set (pairs : List (Nat × UInt8)) (array rest : Bytes)
    (inside : ∀ pair ∈ pairs, pair.1 < array.length) :
    Bytes.putAll (array ++ rest) pairs =
      pairs.foldl (fun array pair => array.set pair.1 pair.2) array ++ rest := by
  induction pairs generalizing array with
  | nil => rfl
  | cons pair others shorter =>
    have here := inside pair List.mem_cons_self
    have later := shorter (array.set pair.1 pair.2) fun other member => by
      rw [List.length_set]
      exact inside other (List.mem_cons_of_mem _ member)
    rw [List.foldl_cons, ← later, ← Bytes.write_append_left array rest pair.1 pair.2 here]
    rfl

theorem length_set {array changed : Bytes} {index : Int64} {value : Bytes}
    (done : set array index value = .ok changed) : changed.length = array.length := by
  unfold set at done
  split at done
  · cases done
  · split at done
    · rw [← Except.ok.inj done, List.length_set]
    · cases done

theorem length_setSlice {array changed : Bytes} {slice : Slice} {values : Bytes}
    (done : setSlice array slice values = .ok changed) : changed.length = array.length := by
  cases selected : select array slice with
  | error error =>
    rw [setSlice, selected] at done
    cases done
  | ok positions =>
    rw [setSlice_of_select values selected] at done
    split at done
    · rw [← Except.ok.inj done, length_foldl_set]
    · cases done

theorem length_writing {array : Bytes} {result : Except Error Bytes}
    (kept : ∀ changed, result = .ok changed → changed.length = array.length) :
    (writing array result).2.length = array.length := by
  cases result with
  | ok changed => exact kept changed rfl
  | error error => rfl

theorem length_perform (array : Bytes) (operation : Operation) :
    (perform array operation).2.length = array.length := by
  rw [← perform_plain]
  rcases operation.plain_cases with ⟨index, plain⟩ | ⟨index, value, plain⟩ | ⟨slice, plain⟩ |
    ⟨slice, values, plain⟩
  all_goals rw [plain, perform]
  · rfl
  · exact length_writing fun changed done => length_set done
  · rfl
  · exact length_writing fun changed done => length_setSlice done

end LocalArray

namespace View

open LocalArray

theorem locate_eq_position (view : View) (array : Bytes) (same : array.length = view.length)
    (index : Int64) :
    view.locate index =
      match position array index.toInt with
      | some place => .ok place
      | none => .error (.indexOutOfRange index array.length) := by
  simp only [locate, position, Word.neg_iff, same]
  by_cases negative : index.toInt < 0
  · have notFront : ¬ (0 ≤ index.toInt ∧ index.toInt < view.length) := by omega
    simp only [negative, notFront, if_true, if_false, true_and]
    by_cases reached : -(view.length : Int) ≤ index.toInt
    · have inside : 0 ≤ index.toInt + view.length ∧ index.toInt + view.length < view.length := by
        omega
      rw [if_pos reached, if_pos inside, Int.add_comm]
    · have outside : ¬ (0 ≤ index.toInt + view.length ∧
          index.toInt + view.length < view.length) := by omega
      rw [if_neg reached, if_neg outside]
  · simp only [negative, if_false, false_and]
    split <;> rfl

theorem resolve_cases (view : View) (array : Bytes) (same : array.length = view.length)
    (small : view.length < 0x8000000000000000) (slice : Slice) :
    (slice.resolve view.length = .error .zeroStep ∧ select array slice = .error .zeroStep) ∨
      ∃ span, slice.resolve view.length = .ok span ∧
        span.Follows (slice.walk array.length) array.length ∧
        select array slice = .ok span.indices := by
  by_cases zero : slice.step = some 0
  · left
    simp only [Slice.resolve, select, zero, if_true, Option.getD_some, and_self]
  · right
    have addressable : view.length ≤ 0x7fffffffffffffff := by omega
    obtain ⟨span, resolved, follows⟩ := Slice.exists_span addressable zero
    rw [← same] at follows
    refine ⟨span, resolved, follows, ?_⟩
    rw [select, if_neg zero, follows.indices_eq_positions]

variable {view : View} {memory : Memory} {array rest : Bytes}

theorem exec_get_local (holds : memory.get view.key = some (array ++ rest))
    (same : array.length = view.length) (index : Int64) :
    (view.get index).exec Memory.store memory = (LocalArray.get array index, memory) := by
  have located := locate_eq_position view array same index
  rw [LocalArray.get]
  cases found : position array index.toInt with
  | none =>
    rw [found] at located
    rw [View.get, located]
    rfl
  | some place =>
    rw [found] at located
    have bound := locate_lt located
    rw [view.exec_get memory located, Memory.bytes_of_get holds, List.getD_eq_getElem?_getD,
      List.getElem?_append_left (by omega), ← List.getD_eq_getElem?_getD]

theorem exec_set_local (holds : memory.get view.key = some (array ++ rest))
    (same : array.length = view.length) (fits : view.length ≤ Memory.maxValueLength)
    (index : Int64) (value : Bytes) :
    (view.set index value).exec Memory.store memory =
      match LocalArray.set array index value with
      | .ok changed => (.ok (), memory.insert view.key (changed ++ rest))
      | .error error => (.error error, memory) := by
  have located := locate_eq_position view array same index
  rw [LocalArray.set]
  cases found : position array index.toInt with
  | none =>
    rw [found] at located
    rw [View.set, located]
    rfl
  | some place =>
    rw [found] at located
    have bound := locate_lt located
    rcases value with _ | ⟨byte, _ | ⟨second, others⟩⟩
    · rw [View.set, located]
      rfl
    · rw [view.exec_set memory byte located fits, Memory.bytes_of_get holds]
      dsimp only
      rw [Bytes.write_append_left _ _ _ _ (by omega)]
    · rw [View.set, located]
      rfl

theorem exec_getSlice_local (holds : memory.get view.key = some (array ++ rest))
    (same : array.length = view.length) (small : view.length < 0x8000000000000000) (slice : Slice) :
    (view.getSlice slice).exec Memory.store memory = (LocalArray.getSlice array slice, memory) := by
  rcases resolve_cases view array same small slice with
    ⟨refused, zero⟩ | ⟨span, resolved, follows, selected⟩
  · rw [View.getSlice, refused, LocalArray.getSlice, zero]
    rfl
  · have front : span.indices.filterMap ((array ++ rest)[·]?) =
        span.indices.filterMap (array[·]?) := by
      apply List.filterMap_congr
      intro position member
      exact List.getElem?_append_left (follows.lt_extent_of_mem_indices member)
    rw [view.exec_getSlice memory resolved, LocalArray.getSlice, selected,
      Memory.bytes_of_get holds]
    cases found : span.window with
    | none =>
      rw [Span.indices_eq_nil ((Span.window_eq_none_iff span).mp found)]
      rfl
    | some window =>
      have whole : array.length ≤ (array ++ rest).length := by
        rw [List.length_append]
        omega
      dsimp only
      rw [follows.pick_slice found whole, front]
      rfl

theorem exec_setSlice_local (holds : memory.get view.key = some (array ++ rest))
    (same : array.length = view.length) (fits : view.length ≤ Memory.maxValueLength)
    (small : view.length < 0x8000000000000000) (slice : Slice) (values : Bytes) :
    (view.setSlice slice values).exec Memory.store memory =
      match LocalArray.setSlice array slice values with
      | .ok changed => (.ok (), memory.insert view.key (changed ++ rest))
      | .error error => (.error error, memory) := by
  rcases resolve_cases view array same small slice with
    ⟨refused, zero⟩ | ⟨span, resolved, follows, selected⟩
  · rw [View.setSlice, refused, LocalArray.setSlice, zero]
    rfl
  · rw [setSlice_of_select values selected, Span.length_indices]
    by_cases count : values.length = span.length
    · have inside : ∀ pair ∈ span.ascending values, pair.1 < array.length :=
        fun pair member => follows.lt_extent_of_mem_ascending member
      rw [view.exec_setSlice memory resolved count fits, if_pos count, Memory.bytes_of_get holds,
        putAll_eq_foldl_set _ _ _ inside,
        foldl_set_perm (Span.ascending_perm span values) (follows.nodup_ascending values)]
      split
      · rename_i empty
        rw [Span.indices_eq_nil empty]
        exact congrArg (Prod.mk _) (Memory.insert_get holds).symm
      · rfl
    · rw [View.setSlice, resolved, Action.done_ok_bind, if_neg count, if_neg count]
      rfl

/-- One operation: the view returns what the local array returns, and leaves the array stored. -/
theorem exec_perform_local (holds : memory.get view.key = some (array ++ rest))
    (same : array.length = view.length) (fits : view.length ≤ Memory.maxValueLength)
    (operation : Operation) :
    (view.perform operation).exec Memory.store memory =
      ((LocalArray.perform array operation).1,
        memory.insert view.key ((LocalArray.perform array operation).2 ++ rest)) := by
  have small : view.length < 0x8000000000000000 := Nat.lt_of_le_of_lt fits (by decide)
  rw [← View.perform_plain, ← LocalArray.perform_plain]
  rcases operation.plain_cases with ⟨index, plain⟩ | ⟨index, value, plain⟩ | ⟨slice, plain⟩ |
    ⟨slice, values, plain⟩
  all_goals rw [plain, View.perform, LocalArray.perform, Action.exec_bind]
  · rw [exec_get_local holds same, reading, Memory.insert_get holds]
    cases LocalArray.get array index <;> rfl
  · rw [exec_set_local holds same fits]
    cases LocalArray.set array index value with
    | ok changed => rfl
    | error error => exact congrArg (Prod.mk _) (Memory.insert_get holds).symm
  · rw [exec_getSlice_local holds same small, reading, Memory.insert_get holds]
    cases LocalArray.getSlice array slice <;> rfl
  · rw [exec_setSlice_local holds same fits small]
    cases LocalArray.setSlice array slice values with
    | ok changed => rfl
    | error error => exact congrArg (Prod.mk _) (Memory.insert_get holds).symm

theorem performAll_local (holds : memory.get view.key = some (array ++ rest))
    (same : array.length = view.length) (fits : view.length ≤ Memory.maxValueLength)
    (operations : List Operation) :
    view.performAll Memory.store operations memory =
      (LocalArray.performAll operations array).map fun turn =>
        (turn.1, memory.insert view.key (turn.2 ++ rest)) := by
  induction operations generalizing memory array with
  | nil => rfl
  | cons operation others shorter =>
    have step := exec_perform_local holds same fits operation
    have later := shorter (Memory.get_insert_self memory view.key _)
      ((length_perform array operation).trans same)
    simp [View.performAll, LocalArray.performAll, step, later]

theorem take_padTo_append_drop (value : Bytes) (length : Nat) :
    (value.padTo length).take length ++ value.drop length = value.padTo length := by
  have dropped : value.drop length = (value.padTo length).drop length := by
    rw [Bytes.padTo]
    by_cases long : length ≤ value.length
    · rw [Nat.sub_eq_zero_of_le long]
      simp
    · rw [List.drop_of_length_le (by omega), List.drop_of_length_le (by simp; omega)]
  rw [dropped, List.take_append_drop]

/-- A view of a memory is an array of bytes. In every run after it was opened, each operation
returns what it returns on a local array, which starts as the old value padded with zeros or cut to
the length of the view. After each one the memory is the old one with that array at the key,
followed by the old bytes past it. -/
theorem performAll_refines (allocator : Allocator) (memory after : Memory)
    (reachable : memory.Reachable) (key : String) (length : Nat) (view : View)
    (opened : (openAt allocator key length).exec Memory.store memory = (.ok view, after))
    (operations : List Operation) :
    let array := ((memory.bytes key).padTo length).take length
    let stored := fun array : Bytes => memory.insert key (array ++ (memory.bytes key).drop length)
    view = { key, length } ∧ array.length = length ∧ after = stored array ∧
      view.performAll Memory.store operations after =
        (LocalArray.performAll operations array).map fun turn => (turn.1, stored turn.2) := by
  intro array stored
  obtain ⟨rfl, fits, final⟩ := opened_of_exec reachable.bounded opened
  have size : array.length = length := by
    rw [List.length_take, Bytes.length_padTo]
    omega
  have start : after = stored array := by
    rw [final]
    exact congrArg (memory.insert key) (take_padTo_append_drop _ _).symm
  have holds : after.get key = some (array ++ (memory.bytes key).drop length) := by
    simp [start, stored]
  have run := @performAll_local ⟨key, length⟩ after array _ holds size fits operations
  refine ⟨rfl, size, start, run.trans ?_⟩
  apply List.map_congr_left
  intro turn _
  simp [start, stored]

theorem performAll_refines_padded :
    let memory := (Memory.store.serve (.set "k" [1, 2, 3]) .empty).2
    let operations : List Operation :=
      [.setSlice { start := some (-1), step := some (-2) } [7, 8, 9], .get (-6), .toBytes]
    memory.Reachable ∧
      ∃ view after,
        (openAt Allocator.machine "k" 5).exec Memory.store memory = (.ok view, after) ∧
          view.performAll Memory.store operations after =
            (LocalArray.performAll operations [1, 2, 3, 0, 0]).map fun turn =>
              (turn.1, memory.insert "k" (turn.2 ++ [])) := by
  intro memory operations
  have reachable : memory.Reachable := .serve _ .empty
  have opened : (openAt Allocator.machine "k" 5).exec Memory.store memory =
      (.ok { key := "k", length := 5 }, memory.insert "k" [1, 2, 3, 0, 0]) := by
    rw [exec_openAt]
    rfl
  obtain ⟨_, _, _, run⟩ :=
    performAll_refines Allocator.machine memory _ reachable "k" 5 _ opened operations
  exact ⟨reachable, _, _, opened, run⟩

end View

end StoredArray
