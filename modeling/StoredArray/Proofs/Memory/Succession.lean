import StoredArray.Proofs.Memory.Ranges

namespace StoredArray.Memory

theorem setRange_answer (memory other : Memory) (key : String) (offset : Nat) (data : Bytes) :
    (memory.setRange key offset data).1 = (other.setRange key offset data).1 := by
  rcases setRange_cases key offset data with ⟨_, _, put⟩ | ⟨answer, idle⟩
  · rw [put memory, put other]
  · rw [idle memory, idle other]

theorem stored_of_setRange {memory : Memory} {key : String} {offset : Nat} {data : Bytes}
    (accepted : (memory.setRange key offset data).1 = .ok ()) :
    data <+: ((memory.setRange key offset data).2.bytes key).drop offset := by
  by_cases empty : data = []
  · rw [empty]
    exact List.nil_prefix
  · have fits := ((setRange_eq_ok_iff memory key offset data).mp accepted).resolve_left empty
    rw [setRange_eq_insert memory key offset data empty fits]
    simpa using Bytes.isPrefix_drop_write _ offset data

theorem setRange_comm (memory : Memory) {key other : String} {offset place : Nat}
    {data more : Bytes}
    (apart : key ≠ other ∨ ∀ position, offset ≤ position → position < offset + data.length →
      position < place ∨ place + more.length ≤ position) :
    ((memory.setRange key offset data).2.setRange other place more).2 =
      ((memory.setRange other place more).2.setRange key offset data).2 := by
  rcases setRange_cases key offset data with ⟨some_data, _, put⟩ | ⟨answer, idle⟩
  · rcases setRange_cases other place more with ⟨some_more, _, put_more⟩ | ⟨reply, idle_more⟩
    · simp only [put, put_more]
      by_cases same : key = other
      · subst same
        -- Two stretches that overlap have the greater of their first positions in common.
        have separate := apart.resolve_left (not_not_intro rfl) (max offset place)
        have long := List.length_pos_iff.mpr some_data
        have long_more := List.length_pos_iff.mpr some_more
        simp [Bytes.write_comm _ offset place data more (by omega)]
      · rw [bytes_insert_of_ne _ same, bytes_insert_of_ne _ (Ne.symm same), insert_comm _ same]
    · rw [idle_more, idle_more]
  · rw [idle, idle]

theorem setRange_append (memory : Memory) (key : String) (offset : Nat) (data more : Bytes)
    (fits : offset + data.length + more.length ≤ maxValueLength) :
    (memory.setRange key offset data).2.setRange key (offset + data.length) more =
      memory.setRange key offset (data ++ more) := by
  by_cases none_first : data = []
  · subst none_first
    rw [List.nil_append, List.length_nil, Nat.add_zero]
    rfl
  · rw [setRange_eq_insert memory key offset data none_first (by omega)]
    by_cases none_after : more = []
    · subst none_after
      rw [List.append_nil, setRange_eq_insert memory key offset data none_first (by omega)]
      rfl
    · have some_bytes : data ++ more ≠ [] := List.append_ne_nil_of_left_ne_nil none_first more
      have room : offset + (data ++ more).length ≤ maxValueLength := by
        rw [List.length_append]
        omega
      rw [setRange_eq_insert _ key _ more none_after fits,
        setRange_eq_insert memory key offset _ some_bytes room]
      simp [Bytes.write_append]

/-- Two range writes to different keys, or to stretches that have no position in common, answer and
leave the same in either order, also where the limit refuses one of them or both. A stretch without
bytes has no position in common with any other. What is accepted is found in the memory at the end.
Two writes of which one goes on where the other ended come to one write of both. -/
theorem range_writes_commute_and_join (memory : Memory) :
    (∀ (key other : String) (offset place : Nat) (data more : Bytes),
      (key ≠ other ∨ ∀ position, offset ≤ position → position < offset + data.length →
          position < place ∨ place + more.length ≤ position) →
        let first := memory.setRange key offset data
        let second := memory.setRange other place more
        let forth := first.2.setRange other place more
        let back := second.2.setRange key offset data
        back.1 = first.1 ∧ forth.1 = second.1 ∧ forth.2 = back.2 ∧
          (first.1 = .ok () ↔ data = [] ∨ offset + data.length ≤ maxValueLength) ∧
          (second.1 = .ok () ↔ more = [] ∨ place + more.length ≤ maxValueLength) ∧
          (first.1 = .ok () → data <+: (forth.2.bytes key).drop offset) ∧
          (second.1 = .ok () → more <+: (forth.2.bytes other).drop place)) ∧
      ∀ (key : String) (offset : Nat) (data more : Bytes),
        offset + data.length + more.length ≤ maxValueLength →
          let first := memory.setRange key offset data
          let joint := memory.setRange key offset (data ++ more)
          first.2.setRange key (offset + data.length) more = joint ∧
            first.1 = .ok () ∧ joint.1 = .ok () ∧
            data ++ more <+: (joint.2.bytes key).drop offset := by
  constructor
  · intro key other offset place data more apart first second forth back
    have swapped : forth.2 = back.2 := memory.setRange_comm apart
    have answer : back.1 = first.1 := setRange_answer second.2 memory key offset data
    have reply : forth.1 = second.1 := setRange_answer first.2 memory other place more
    refine ⟨answer, reply, swapped, memory.setRange_eq_ok_iff key offset data,
      memory.setRange_eq_ok_iff other place more, ?_, ?_⟩
    · -- In the other order this write is the later one, and its bytes are the last that were put.
      intro accepted
      rw [swapped]
      exact stored_of_setRange (answer.trans accepted)
    · intro accepted
      exact stored_of_setRange (reply.trans accepted)
  · intro key offset data more fits first joint
    have room : offset + (data ++ more).length ≤ maxValueLength := by
      rw [List.length_append]
      omega
    have accepted : first.1 = .ok () :=
      (memory.setRange_eq_ok_iff key offset data).mpr (.inr (by omega))
    have together : joint.1 = .ok () :=
      (memory.setRange_eq_ok_iff key offset (data ++ more)).mpr (.inr room)
    exact ⟨memory.setRange_append key offset data more fits, accepted, together,
      stored_of_setRange together⟩

theorem range_writes_commute_and_join_gap :
    let memory := Memory.empty.insert "k" [9]
    let final := memory.insert "k" [9, 0, 3, 0, 1, 2]
    ((memory.setRange "k" 4 [1, 2]).2.setRange "k" 2 [3]).2 = final ∧
      ((memory.setRange "k" 2 [3]).2.setRange "k" 4 [1, 2]).2 = final ∧
      ((memory.setRange "k" maxValueLength [1]).2.setRange "k" 0 [2]).2 =
        ((memory.setRange "k" 0 [2]).2.setRange "k" maxValueLength [1]).2 ∧
      (memory.setRange "x" 2 [1]).2.setRange "x" 3 [2, 3] = memory.setRange "x" 2 [1, 2, 3] := by
  intro memory final
  obtain ⟨commute, join⟩ := range_writes_commute_and_join memory
  obtain ⟨-, -, swapped, -⟩ := commute "k" "k" 4 2 [1, 2] [3]
    (.inr fun position past _ => .inr (Nat.le_trans (by decide) past))
  obtain ⟨-, -, refused, -⟩ := commute "k" "k" maxValueLength 0 [1] [2]
    (.inr fun position past _ => .inr (Nat.le_trans (by decide) past))
  have forth : ((memory.setRange "k" 4 [1, 2]).2.setRange "k" 2 [3]).2 = final := by
    rw [setRange_eq_insert _ _ 4 _ (by decide) (by decide),
      setRange_eq_insert _ _ 2 _ (by decide) (by decide)]
    simp only [memory, final, bytes_insert_self, insert_insert]
    rfl
  exact ⟨forth, swapped.symm.trans forth, refused, (join "x" 2 [1] [2, 3] (by decide)).1⟩

end StoredArray.Memory
