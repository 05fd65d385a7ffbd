import StoredArray.Proofs.View.Opening

namespace StoredArray.View

/-- Opens views of some lengths on a key one after the other, also after one that fails. What each
opening returned is kept, and the state after the last. -/
def openAll {σ : Type} (allocators : Nat → Allocator) (key : String) (store : Store σ) :
    List Nat → σ → List (Except Error View) × σ
  | [], state => ([], state)
  | length :: rest, state =>
    let turn := (openAt (allocators 0) key length).exec store state
    let later := openAll (fun next => allocators (next + 1)) key store rest turn.2
    (turn.1 :: later.1, later.2)

variable {allocators : Nat → Allocator}

theorem exec_openAt_granted {allocator : Allocator} (memory : Memory) (key : String) {length : Nat}
    (allowed : length ≤ Memory.maxValueLength) (granted : allocator.grants length = true) :
    (openAt allocator key length).exec Memory.store memory =
      (.ok { key, length }, memory.insert key ((memory.bytes key).padTo length)) := by
  rw [exec_openAt, if_pos granted, if_pos allowed]
  split
  · rfl
  · rename_i enough
    rw [insert_padTo_of_enough enough]

theorem run_openAt_enough (allocator : Allocator) {memory : Memory} {key : String} {value : Bytes}
    {length : Nat} (found : memory.get key = some value) (long : length ≤ value.length) :
    (openAt allocator key length).run Memory.store memory =
      { result := .ok { key, length }
        state := memory
        events := [.called ⟨.get key, .ok (some value)⟩] } := by
  have answered : Memory.store.serve (.get key) memory = (.ok (some value), memory) := by
    rw [← found]
    rfl
  have enough : ¬ Lacking length (some value) := fun lacking =>
    Nat.not_lt.mpr long (lacking value rfl)
  rw [openAt, Action.run_request_bind, answered]
  dsimp only
  rw [shortValue_of_not_lacking enough]
  rfl

theorem openAll_padded (memory : Memory) (key : String) (value : Bytes) (reached : Nat)
    {lengths : List Nat} (allowed : ∀ length ∈ lengths, length ≤ Memory.maxValueLength)
    (granted : ∀ i, ∀ length ≤ Memory.maxValueLength, (allocators i).grants length = true) :
    openAll allocators key Memory.store lengths (memory.insert key (value.padTo reached)) =
      (lengths.map fun length => .ok { key, length },
        memory.insert key (value.padTo (lengths.foldl max reached))) := by
  induction lengths generalizing reached allocators with
  | nil => rfl
  | cons length rest shorter =>
    obtain ⟨here, others⟩ := List.forall_mem_cons.mp allowed
    simp [openAll, exec_openAt_granted _ key here (granted 0 length here),
      shorter (max reached length) others fun i => granted (i + 1)]

theorem openAll_eq_padTo (memory : Memory) (key : String) {lengths : List Nat}
    (some_length : lengths ≠ []) (allowed : ∀ length ∈ lengths, length ≤ Memory.maxValueLength)
    (granted : ∀ i, ∀ length ≤ Memory.maxValueLength, (allocators i).grants length = true) :
    openAll allocators key Memory.store lengths memory =
      (lengths.map fun length => .ok { key, length },
        memory.insert key
          ((memory.bytes key).padTo (lengths.foldl max (memory.bytes key).length))) := by
  cases lengths with
  | nil => exact absurd rfl some_length
  | cons length rest =>
    obtain ⟨here, others⟩ := List.forall_mem_cons.mp allowed
    -- The first opening creates an absent key, and from there on the value is a padded one.
    have first : (memory.bytes key).padTo length =
        (memory.bytes key).padTo (max (memory.bytes key).length length) := by
      rw [← Bytes.padTo_padTo, Bytes.padTo_of_le _ (Nat.le_refl _)]
    rw [openAll, exec_openAt_granted _ key here (granted 0 length here), first,
      openAll_padded memory key _ _ others fun i => granted (i + 1)]
    rfl

theorem foldl_max_perm {order lengths : List Nat} (perm : order.Perm lengths) (least : Nat) :
    order.foldl max least = lengths.foldl max least := by
  apply perm.foldl_eq'
  intro first _ second _ reached
  rw [Nat.max_assoc, Nat.max_comm first second, ← Nat.max_assoc]

/-- Views of some lengths can be opened in any order: all are opened, and the value ends up padded
to the longest of them. From then on a view that is no longer is opened by a look at the value. -/
theorem openAll_any_order (memory : Memory) (key : String) {lengths : List Nat}
    (some_length : lengths ≠ []) (allowed : ∀ length ∈ lengths, length ≤ Memory.maxValueLength)
    (granted : ∀ i, ∀ length ≤ Memory.maxValueLength, (allocators i).grants length = true) :
    let old := memory.bytes key
    let longest := lengths.foldl max old.length
    let value := old ++ List.replicate (longest - old.length) 0
    let final := memory.insert key value
    (∀ order : List Nat, order.Perm lengths →
      openAll allocators key Memory.store order memory =
        (order.map fun length => .ok { key, length }, final)) ∧
      ∀ allocator, ∀ again ≤ longest,
        (openAt allocator key again).run Memory.store final =
          { result := .ok { key, length := again }
            state := final
            events := [.called ⟨.get key, .ok (some value)⟩] } := by
  intro old longest value final
  constructor
  · intro order perm
    have some_order : order ≠ [] := by
      rintro rfl
      exact some_length perm.nil_eq.symm
    have opened := openAll_eq_padTo memory key some_order
      (fun length member => allowed length (perm.mem_iff.mp member)) granted
    rw [foldl_max_perm perm] at opened
    exact opened
  · intro allocator again short
    have length : value.length = max old.length longest := Bytes.length_padTo old longest
    exact run_openAt_enough allocator (Memory.get_insert_self memory key value) (by omega)

theorem openAll_any_order_absent :
    let memory := Memory.empty.insert "x" [1]
    let final := memory.insert "k" [0, 0, 0]
    openAll (fun _ => .machine) "k" Memory.store [0, 3, 2, 3] memory =
        ([0, 3, 2, 3].map fun length => .ok { key := "k", length }, final) ∧
      openAll (fun _ => .machine) "k" Memory.store [3, 2, 3, 0] memory =
        ([3, 2, 3, 0].map fun length => .ok { key := "k", length }, final) ∧
      ((openAt .machine "k" 2).run Memory.store final).calls = [.get "k"] := by
  intro memory final
  have absent : memory.bytes "k" = [] := by
    simp [memory, Memory.bytes]
  have granted (length : Nat) (allowed : length ≤ Memory.maxValueLength) :
      Allocator.machine.grants length = true := by
    have limit : Memory.maxValueLength < 0x1000000000000 := by decide
    exact decide_eq_true (Nat.lt_of_le_of_lt allowed limit)
  obtain ⟨orders, again⟩ := openAll_any_order memory "k" (List.cons_ne_nil 0 [3, 2, 3])
    (by decide) fun _ => granted
  rw [absent] at orders again
  refine ⟨orders _ (List.Perm.refl _), orders _ (by decide), ?_⟩
  exact congrArg Outcome.calls (again .machine 2 (by decide))

end StoredArray.View
