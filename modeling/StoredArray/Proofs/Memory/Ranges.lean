import StoredArray.Proofs.Bytes

namespace StoredArray

theorem Word.add?_ofNat? (a b : Nat) : (do add? (← ofNat? a) (← ofNat? b)) = ofNat? (a + b) := by
  unfold ofNat?
  by_cases small : a < 0x10000000000000000
  · by_cases narrow : b < 0x10000000000000000
    · -- A sum that leaves the word comes out below both of its summands.
      have wraps : UInt64.ofNat a + UInt64.ofNat b < UInt64.ofNat a ↔
          ¬ a + b < 0x10000000000000000 := by
        rw [UInt64.lt_iff_toNat_lt, UInt64.toNat_add, UInt64.toNat_ofNat_of_lt' small,
          UInt64.toNat_ofNat_of_lt' narrow]
        omega
      simp only [small, narrow, if_true, Option.bind_eq_bind, Option.bind_some, add?, wraps,
        ite_not, UInt64.ofNat_add]
    · have wide : ¬ a + b < 0x10000000000000000 := by omega
      simp [small, narrow, wide]
  · have wide : ¬ a + b < 0x10000000000000000 := by omega
    simp [small, wide]

namespace Memory

theorem writeEnd_eq (offset count : Nat) :
    writeEnd offset count =
      if offset + count ≤ maxValueLength then some (UInt64.ofNat (offset + count)) else none := by
  rw [writeEnd, Word.add?_ofNat?, Word.ofNat?]
  by_cases small : offset + count < 0x10000000000000000
  · rw [if_pos small, Option.filter_some, UInt64.toNat_ofNat_of_lt' small]
    simp only [decide_eq_true_eq]
  · have past : ¬ offset + count ≤ maxValueLength := fun fits =>
      small (Nat.lt_of_le_of_lt fits (by decide))
    simp [small, past]

def bytes (memory : Memory) (key : String) : Bytes :=
  (memory.get key).getD []

theorem bytes_of_get {memory : Memory} {key : String} {value : Bytes}
    (found : memory.get key = some value) : memory.bytes key = value := by
  rw [bytes, found, Option.getD_some]

theorem get_insert_self (memory : Memory) (key : String) (value : Bytes) :
    (memory.insert key value).get key = some value := by
  simp

@[simp]
theorem bytes_insert_self (memory : Memory) (key : String) (value : Bytes) :
    (memory.insert key value).bytes key = value :=
  bytes_of_get (get_insert_self memory key value)

theorem bytes_insert_of_ne (memory : Memory) {key other : String} (different : key ≠ other)
    (value : Bytes) : (memory.insert key value).bytes other = memory.bytes other := by
  simp [bytes, different]

@[simp]
theorem insert_insert (memory : Memory) (key : String) (value later : Bytes) :
    (memory.insert key value).insert key later = memory.insert key later := by
  ext1 other
  grind

theorem insert_comm (memory : Memory) {key other : String} (different : key ≠ other)
    (value later : Bytes) :
    (memory.insert key value).insert other later =
      (memory.insert other later).insert key value := by
  ext1 name
  grind

theorem insert_get {memory : Memory} {key : String} {value : Bytes}
    (found : memory.get key = some value) : memory.insert key value = memory := by
  ext1 other
  grind

theorem getRange_eq_slice (memory : Memory) (key : String) (first last : Nat)
    (ordered : first ≤ last) :
    memory.getRange key first last = (memory.bytes key).slice { first, last } := by
  rw [getRange, bytes]
  cases memory.get key with
  | none => simp [Bytes.slice]
  | some value =>
    rw [Option.getD_some]
    by_cases inside : first < value.length
    · simp only [Window.clip, ordered, inside, and_self, if_true]
      exact value.slice_clipped { first, last }
    · simp only [Window.clip, inside, and_false, if_false]
      rw [Bytes.slice, List.drop_eq_nil_of_le (by dsimp only; omega), List.take_nil]

theorem getRange_inverted (memory : Memory) (key : String) (first last : Nat)
    (inverted : last < first) : memory.getRange key first last = [] := by
  have misplaced : ¬ first ≤ last := by omega
  rw [getRange]
  cases memory.get key with
  | none => rfl
  | some value => simp only [Window.clip, misplaced, false_and, if_false]

theorem setRange_eq (memory : Memory) (key : String) (offset : Nat) (data : Bytes) :
    memory.setRange key offset data =
      if data = [] then (.ok (), memory)
      else if offset + data.length ≤ maxValueLength then
        (.ok (), memory.insert key ((memory.bytes key).write offset data))
      else (.error tooLong, memory) := by
  rw [setRange, writeEnd_eq]
  by_cases fits : offset + data.length ≤ maxValueLength
  · have small : offset + data.length < 0x10000000000000000 := Nat.lt_of_le_of_lt fits (by decide)
    simp only [fits, if_true, UInt64.toNat_ofNat_of_lt' small]
    rfl
  · simp only [fits, if_false]

theorem setRange_eq_insert (memory : Memory) (key : String) (offset : Nat) (data : Bytes)
    (nonempty : data ≠ []) (fits : offset + data.length ≤ maxValueLength) :
    memory.setRange key offset data =
      (.ok (), memory.insert key ((memory.bytes key).write offset data)) := by
  rw [setRange_eq, if_neg nonempty, if_pos fits]

/-- Offset and data settle what becomes of a range write, and the memory has no say in it: either
the bytes are put into whatever memory the write meets, or every memory gives the same answer and
stays as it is. -/
theorem setRange_cases (key : String) (offset : Nat) (data : Bytes) :
    (data ≠ [] ∧ offset + data.length ≤ maxValueLength ∧
        ∀ memory : Memory, memory.setRange key offset data =
          (.ok (), memory.insert key ((memory.bytes key).write offset data))) ∨
      ∃ answer, ∀ memory : Memory, memory.setRange key offset data = (answer, memory) := by
  by_cases empty : data = []
  · right
    exact ⟨.ok (), fun memory => by rw [setRange_eq, if_pos empty]⟩
  · by_cases fits : offset + data.length ≤ maxValueLength
    · left
      exact ⟨empty, fits, fun memory => setRange_eq_insert memory key offset data empty fits⟩
    · right
      exact ⟨.error tooLong, fun memory => by rw [setRange_eq, if_neg empty, if_neg fits]⟩

theorem setRange_eq_ok_iff (memory : Memory) (key : String) (offset : Nat) (data : Bytes) :
    (memory.setRange key offset data).1 = .ok () ↔
      data = [] ∨ offset + data.length ≤ maxValueLength := by
  rw [setRange_eq]
  split
  · simp_all
  · split <;> simp_all

theorem setRange_of_error {memory : Memory} {key : String} {offset : Nat} {data : Bytes}
    {cause : StoreError} (failed : (memory.setRange key offset data).1 = .error cause) :
    (memory.setRange key offset data).2 = memory := by
  rcases setRange_cases key offset data with ⟨_, _, put⟩ | ⟨answer, idle⟩
  · rw [put] at failed
    cases failed
  · rw [idle]

theorem setRange_past (memory : Memory) (key : String) {offset : Nat} (data : Bytes)
    (past : maxValueLength < offset) : (memory.setRange key offset data).2 = memory := by
  have long : ¬ offset + data.length ≤ maxValueLength := by omega
  rw [setRange_eq, if_neg long]
  split <;> rfl

def Within (memory : Memory) (limit : Nat) : Prop :=
  ∀ key, (memory.bytes key).length ≤ limit

def Bounded (memory : Memory) : Prop :=
  ∀ key, (memory.bytes key).length ≤ maxValueLength

inductive Reachable : Memory → Prop where
  | empty : Reachable .empty
  | serve {memory : Memory} (call : Call) (before : Reachable memory) :
      Reachable (store.serve call memory).2
  | remove {memory : Memory} (key : String) (before : Reachable memory) :
      Reachable (memory.remove key).2

theorem Within.empty (limit : Nat) : Within .empty limit := by
  intro key
  simp [bytes]

theorem Within.insert {memory : Memory} {limit : Nat} (within : memory.Within limit) (key : String)
    (value : Bytes) (short : value.length ≤ limit) : (memory.insert key value).Within limit := by
  intro other
  rw [bytes, get_insert]
  split
  · exact short
  · exact within other

theorem Within.remove {memory : Memory} {limit : Nat} (within : memory.Within limit)
    (key : String) : (memory.remove key).2.Within limit := by
  intro other
  rw [bytes, get_remove]
  split
  · exact Nat.zero_le _
  · exact within other

theorem Within.serve {memory : Memory} {limit : Nat} (room : maxValueLength ≤ limit)
    (within : memory.Within limit) (call : Call) : (store.serve call memory).2.Within limit := by
  cases call with
  | get key => exact within
  | getRange key first last => exact within
  | set key data =>
    simp only [store, set]
    split
    · rename_i short
      exact within.insert key data (Nat.le_trans short room)
    · exact within
  | setRange key offset data =>
    rcases setRange_cases key offset data with ⟨_, fits, put⟩ | ⟨answer, idle⟩
    · have old := within key
      simp only [store, put]
      apply within.insert
      rw [Bytes.length_write]
      omega
    · simp only [store, idle]
      exact within

theorem Bounded.empty : Bounded .empty :=
  Within.empty maxValueLength

theorem Bounded.remove {memory : Memory} (bounded : memory.Bounded) (key : String) :
    (memory.remove key).2.Bounded :=
  Within.remove bounded key

theorem Bounded.serve {memory : Memory} (bounded : memory.Bounded) (call : Call) :
    (store.serve call memory).2.Bounded :=
  Within.serve Nat.le.refl bounded call

theorem Reachable.bounded {memory : Memory} (reachable : memory.Reachable) : memory.Bounded := by
  induction reachable with
  | empty => exact Bounded.empty
  | serve call _ before => exact before.serve call
  | remove key _ before => exact before.remove key

end Memory

end StoredArray
