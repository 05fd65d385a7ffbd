import StoredArray.Proofs.Memory.Ranges
import StoredArray.Proofs.View.Calls

namespace StoredArray.View

/-- What a view is to see of a memory: the bytes at its key, up to its length. -/
def front (view : View) (memory : Memory) : Bytes :=
  (memory.bytes view.key).take view.length

@[simp]
theorem mapError_through_id {α : Type} (result : Except Error α) :
    result.mapError (Error.through id) = result := by
  cases result with
  | ok a => rfl
  | error error => simp

theorem memory_parallel (view : View) (fits : view.length ≤ Memory.maxValueLength) :
    Memory.store.Parallel id view.Contains
      (fun memory other => view.front memory = view.front other) Memory.store := by
  intro call memory other inside agree
  cases call with
  | get key => cases inside
  | set key data => cases inside
  | getRange key first last =>
    obtain ⟨rfl, ordered, bound⟩ := inside
    have window : (memory.bytes view.key).slice { first, last } =
        (other.bytes view.key).slice { first, last } := by
      rw [← Bytes.take_slice _ _ view.length bound,
        ← Bytes.take_slice (other.bytes view.key) _ view.length bound]
      exact congrArg (Bytes.slice · { first, last }) agree
    refine ⟨?_, agree⟩
    simp only [Memory.store, Memory.getRange_eq_slice _ _ _ _ ordered, window]
  | setRange key offset data =>
    obtain ⟨rfl, nonempty, bound⟩ := inside
    simp only [Memory.store, true_and, front, Memory.bytes_insert_self,
      Memory.setRange_eq_insert _ view.key offset data nonempty (Nat.le_trans bound fits),
      Bytes.take_write _ _ _ _ bound]
    exact congrArg (Bytes.write · offset data) agree

theorem perform_front (view : View) (fits : view.length ≤ Memory.maxValueLength)
    (operation : Operation) {memory other : Memory} (agree : view.front memory = view.front other) :
    ((view.perform operation).exec Memory.store memory).1 =
        ((view.perform operation).exec Memory.store other).1 ∧
      view.front ((view.perform operation).exec Memory.store memory).2 =
        view.front ((view.perform operation).exec Memory.store other).2 := by
  obtain ⟨result, _, final⟩ :=
    (view.perform_orderly operation).run_parallel (view.memory_parallel fits) agree
  rw [mapError_through_id, mapError_through_id] at result
  exact ⟨result, final⟩

/-- Two memories with the same front cannot be told apart through the view: every operation returns
the same on both, and leaves the same front, whatever else the memories hold. -/
theorem front_determines_run (view : View) (fits : view.length ≤ Memory.maxValueLength)
    (memory other : Memory) (agree : view.front memory = view.front other)
    (operations : List Operation) :
    (view.performAll Memory.store operations memory).map
        (fun turn => (turn.1, view.front turn.2)) =
      (view.performAll Memory.store operations other).map
        fun turn => (turn.1, view.front turn.2) := by
  induction operations generalizing memory other with
  | nil => rfl
  | cons operation rest shorter =>
    obtain ⟨result, final⟩ := view.perform_front fits operation agree
    simp only [performAll, List.map_cons]
    rw [shorter _ _ final, result, final]

theorem front_determines_run_shorter :
    let view : View := { key := "k", length := 2 }
    let memory := Memory.empty.insert "k" [1, 2, 3]
    let other := (Memory.empty.insert "k" [1, 2]).insert "x" [7]
    let operations : List Operation := [.set (-1) [5], .getSlice { step := some (-1) }]
    view.front memory = view.front other ∧
      (view.performAll Memory.store operations memory).map
          (fun turn => (turn.1, view.front turn.2)) =
        (view.performAll Memory.store operations other).map
          fun turn => (turn.1, view.front turn.2) := by
  intro view memory other operations
  have agree : view.front memory = view.front other := by
    simp [view, memory, other, front, Memory.bytes]
  exact ⟨agree, front_determines_run view (by decide) memory other agree operations⟩

end StoredArray.View
