import StoredArray.Proofs.Memory.Ranges
import StoredArray.Proofs.View.Calls

namespace StoredArray

namespace Action

theorem exec_getRange (memory : Memory) (key : String) (first last : Nat)
    (ordered : first ≤ last) :
    (request (.getRange key first last)).exec Memory.store memory =
      (.ok ((memory.bytes key).slice { first, last }), memory) := by
  rw [exec_request, ← Memory.getRange_eq_slice memory key first last ordered]
  rfl

theorem exec_setRange (memory : Memory) (key : String) (offset : Nat) (data : Bytes)
    (nonempty : data ≠ []) (fits : offset + data.length ≤ Memory.maxValueLength) :
    (request (.setRange key offset data)).exec Memory.store memory =
      (.ok (), memory.insert key ((memory.bytes key).write offset data)) := by
  have served : Memory.store.serve (.setRange key offset data) memory =
      (.ok (), memory.insert key ((memory.bytes key).write offset data)) :=
    Memory.setRange_eq_insert memory key offset data nonempty fits
  rw [exec_request, served]
  rfl

theorem exec_set (memory : Memory) (key : String) (data : Bytes) :
    (request (.set key data)).exec Memory.store memory =
      if data.length ≤ Memory.maxValueLength then (.ok (), memory.insert key data)
      else (.error (.storeUnavailable Memory.tooLong), memory) := by
  rw [exec_request]
  simp only [Memory.store, Memory.set]
  split <;> rfl

theorem exec_writeAll (memory : Memory) (key : String) (writes : List (Nat × Bytes))
    (some_write : writes ≠ [])
    (fits : ∀ write ∈ writes,
      write.2 ≠ [] ∧ write.1 + write.2.length ≤ Memory.maxValueLength) :
    (writeAll key writes).exec Memory.store memory =
      (.ok (), memory.insert key ((memory.bytes key).putAll (placed writes))) := by
  induction writes generalizing memory with
  | nil => exact absurd rfl some_write
  | cons write rest shorter =>
    obtain ⟨offset, data⟩ := write
    obtain ⟨nonempty, bound⟩ := fits (offset, data) List.mem_cons_self
    have first : (memory.bytes key).write offset data =
        (memory.bytes key).putAll (Bytes.spread offset data) :=
      Bytes.write_eq_putAll _ _ _ nonempty
    rw [writeAll, exec_bind, exec_setRange memory key offset data nonempty bound, first]
    cases rest with
    | nil =>
      have single : placed [(offset, data)] = Bytes.spread offset data := List.append_nil _
      rw [single]
      rfl
    | cons next others =>
      have later := shorter
        (memory.insert key ((memory.bytes key).putAll (Bytes.spread offset data)))
        (List.cons_ne_nil _ _) fun write member => fits write (List.mem_cons_of_mem _ member)
      simpa [placed, Bytes.putAll_append] using later

end Action

namespace View

theorem shortValue_eq (length : Nat) (memory : Memory) (key : String) :
    shortValue length (memory.get key) =
      if memory.get key = none ∨ (memory.bytes key).length < length then some (memory.bytes key)
      else none := by
  cases found : memory.get key with
  | none => simp [shortValue, Memory.bytes, found]
  | some value => simp [shortValue, Memory.bytes, found]

theorem exec_openAt (allocator : Allocator) (memory : Memory) (key : String) (length : Nat) :
    (openAt allocator key length).exec Memory.store memory =
      if memory.get key = none ∨ (memory.bytes key).length < length then
        if allocator.grants length = true then
          if length ≤ Memory.maxValueLength then
            (.ok { key, length }, memory.insert key ((memory.bytes key).padTo length))
          else (.error (.storeUnavailable Memory.tooLong), memory)
        else (.error (.lengthTooLarge length), memory)
      else (.ok { key, length }, memory) := by
  have current : (Action.request (.get key)).exec Memory.store memory =
      (.ok (memory.get key), memory) := rfl
  rw [openAt, Action.exec_bind, current]
  dsimp only
  rw [shortValue_eq]
  by_cases short : memory.get key = none ∨ (memory.bytes key).length < length
  · have padded : ((memory.bytes key).padTo length).length = length := by
      rw [Bytes.length_padTo]
      rcases short with absent | short
      · rw [Memory.bytes, absent]
        exact Nat.zero_max length
      · omega
    simp only [short, if_true, Action.exec_bind, Action.exec_note]
    split
    · rw [Action.exec_bind, Action.exec_set, padded]
      by_cases allowed : length ≤ Memory.maxValueLength <;> simp [allowed]
    · rfl
  · simp only [short, if_false]
    rfl

theorem insert_padTo_of_enough {memory : Memory} {key : String} {length : Nat}
    (enough : ¬ (memory.get key = none ∨ (memory.bytes key).length < length)) :
    memory.insert key ((memory.bytes key).padTo length) = memory := by
  obtain ⟨value, found⟩ : ∃ value, memory.get key = some value :=
    Option.ne_none_iff_exists'.mp fun absent => enough (.inl absent)
  have long : length ≤ (memory.bytes key).length :=
    Nat.le_of_not_lt fun short => enough (.inr short)
  rw [Bytes.padTo_of_le _ long, Memory.bytes_of_get found, Memory.insert_get found]

theorem opened_of_exec {allocator : Allocator} {memory after : Memory} (bounded : memory.Bounded)
    {key : String} {length : Nat} {view : View}
    (opened : (openAt allocator key length).exec Memory.store memory = (.ok view, after)) :
    view = { key, length } ∧ length ≤ Memory.maxValueLength ∧
      after = memory.insert key ((memory.bytes key).padTo length) := by
  have short := bounded key
  rw [exec_openAt] at opened
  split at opened
  · split at opened
    · split at opened
      · rename_i allowed
        cases opened
        exact ⟨rfl, allowed, rfl⟩
      · cases opened
    · cases opened
  · rename_i enough
    have long : length ≤ (memory.bytes key).length :=
      Nat.le_of_not_lt fun less => enough (.inr less)
    cases opened
    exact ⟨rfl, by omega, (insert_padTo_of_enough enough).symm⟩

theorem exec_get (view : View) (memory : Memory) {index : Int64} {position : Nat}
    (located : view.locate index = .ok position) :
    (view.get index).exec Memory.store memory =
      (.ok ((memory.bytes view.key).getD position 0), memory) := by
  simp [get, located, Action.exec_getRange _ _ _ _ (Nat.le_refl position)]

theorem exec_set (view : View) (memory : Memory) {index : Int64} {position : Nat} (byte : UInt8)
    (located : view.locate index = .ok position) (fits : view.length ≤ Memory.maxValueLength) :
    (view.set index [byte]).exec Memory.store memory =
      (.ok (), memory.insert view.key ((memory.bytes view.key).write position [byte])) := by
  have bound := locate_lt located
  have written := Action.exec_setRange memory view.key position [byte] (List.cons_ne_nil _ _)
    (by rw [List.length_singleton]; omega)
  simp [set, located, written]

theorem exec_getSlice (view : View) (memory : Memory) {slice : Slice} {span : Span}
    (resolved : slice.resolve view.length = .ok span) :
    (view.getSlice slice).exec Memory.store memory =
      (.ok (match span.window with
        | none => []
        | some window => span.pick ((memory.bytes view.key).slice window)), memory) := by
  rw [getSlice, resolved, Action.done_ok_bind]
  cases found : span.window with
  | none => rfl
  | some window =>
    have covers := (Slice.resolve_follows resolved).window_covers found
    simp [Action.exec_getRange _ _ _ _ covers.ordered]

theorem exec_setSlice (view : View) (memory : Memory) {slice : Slice} {values : Bytes} {span : Span}
    (resolved : slice.resolve view.length = .ok span) (count : values.length = span.length)
    (fits : view.length ≤ Memory.maxValueLength) :
    (view.setSlice slice values).exec Memory.store memory =
      (.ok (), if span.length = 0 then memory
        else memory.insert view.key ((memory.bytes view.key).putAll (span.ascending values))) := by
  have follows := Slice.resolve_follows resolved
  rw [setSlice, resolved, Action.done_ok_bind, if_pos count]
  cases found : span.lowest with
  | none =>
    rw [if_pos (follows.lowest_eq_none_iff.mp found)]
    rfl
  | some lowest =>
    have written := Action.exec_writeAll memory view.key (span.writes lowest values)
      (follows.writes_ne_nil count found) fun write member => by
        have inside := follows.writes_inside count found member
        exact ⟨follows.writes_nonempty count found member, by omega⟩
    rw [follows.placed_writes count found] at written
    simp [written, follows.length_ne_zero_of_lowest found]

end View

end StoredArray
