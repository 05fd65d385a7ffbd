import StoredArray.Proofs.Memory.Backing
import StoredArray.Proofs.View.Stored

namespace StoredArray

namespace View

variable {σ : Type}

def Lacking (length : Nat) (current : Option Bytes) : Prop :=
  ∀ value ∈ current, value.length < length

instance (length : Nat) (current : Option Bytes) : Decidable (Lacking length current) :=
  inferInstanceAs (Decidable (∀ value ∈ current, value.length < length))

theorem shortValue_of_lacking {length : Nat} {current : Option Bytes}
    (lacking : Lacking length current) : shortValue length current = some (current.getD []) := by
  cases current with
  | none => rfl
  | some value => exact if_pos (lacking value rfl)

theorem exists_of_not_lacking {length : Nat} {current : Option Bytes}
    (enough : ¬ Lacking length current) :
    ∃ value, current = some value ∧ length ≤ value.length := by
  simpa [Lacking] using enough

theorem shortValue_of_not_lacking {length : Nat} {current : Option Bytes}
    (enough : ¬ Lacking length current) : shortValue length current = none := by
  obtain ⟨value, rfl, long⟩ := exists_of_not_lacking enough
  exact if_neg (Nat.not_lt.mpr long)

theorem Lacking.length_le {length : Nat} {current : Option Bytes}
    (lacking : Lacking length current) : (current.getD []).length ≤ length := by
  cases current with
  | none => exact Nat.zero_le length
  | some value => exact Nat.le_of_lt (lacking value rfl)

/-- The courses that opening can take. Padding is logged before there is any question of room for
it. -/
inductive Course (allocator : Allocator) (key : String) (length : Nat) (store : Store σ)
    (state : σ) : Outcome σ View → Prop where
  | unanswered (cause : StoreError) (failed : (store.serve (.get key) state).1 = .error cause) :
      Course allocator key length store state
        { result := .error (.storeUnavailable cause)
          state := (store.serve (.get key) state).2
          events := [.called ⟨.get key, .error cause⟩] }
  | enough (current : Option Bytes) (answered : (store.serve (.get key) state).1 = .ok current)
      (enough : ¬ Lacking length current) :
      Course allocator key length store state
        { result := .ok { key, length }
          state := (store.serve (.get key) state).2
          events := [.called ⟨.get key, .ok current⟩] }
  | denied (current : Option Bytes) (answered : (store.serve (.get key) state).1 = .ok current)
      (lacking : Lacking length current) (denied : allocator.grants length = false) :
      Course allocator key length store state
        { result := .error (.lengthTooLarge length)
          state := (store.serve (.get key) state).2
          events := [.called ⟨.get key, .ok current⟩,
            .logged (.padding key (current.getD []).length length)] }
  | unset (current : Option Bytes) (answered : (store.serve (.get key) state).1 = .ok current)
      (lacking : Lacking length current) (granted : allocator.grants length = true)
      (cause : StoreError) (final : σ)
      (refused : store.serve (.set key ((current.getD []).padTo length))
        (store.serve (.get key) state).2 = (.error cause, final)) :
      Course allocator key length store state
        { result := .error (.storeUnavailable cause)
          state := final
          events := [.called ⟨.get key, .ok current⟩,
            .logged (.padding key (current.getD []).length length),
            .called ⟨.set key ((current.getD []).padTo length), .error cause⟩] }
  | padded (current : Option Bytes) (answered : (store.serve (.get key) state).1 = .ok current)
      (lacking : Lacking length current) (granted : allocator.grants length = true) (final : σ)
      (served : store.serve (.set key ((current.getD []).padTo length))
        (store.serve (.get key) state).2 = (.ok (), final)) :
      Course allocator key length store state
        { result := .ok { key, length }
          state := final
          events := [.called ⟨.get key, .ok current⟩,
            .logged (.padding key (current.getD []).length length),
            .called ⟨.set key ((current.getD []).padTo length), .ok ()⟩] }

theorem openAt_course (allocator : Allocator) (key : String) (length : Nat) (store : Store σ)
    (state : σ) :
    Course allocator key length store state ((openAt allocator key length).run store state) := by
  rw [openAt, Action.run_request_bind]
  cases answered : (store.serve (.get key) state).1 with
  | error cause => exact .unanswered cause answered
  | ok current =>
    dsimp only
    by_cases lacking : Lacking length current
    · rw [shortValue_of_lacking lacking]
      cases granted : allocator.grants length with
      | false => exact .denied current answered lacking granted
      | true =>
        dsimp only
        rw [Action.run_note_bind, if_pos rfl, Action.run_request_bind]
        cases served : store.serve (.set key ((current.getD []).padTo length))
            (store.serve (.get key) state).2 with
        | mk reply final =>
          cases reply with
          | error cause => exact .unset current answered lacking granted cause final served
          | ok _ => exact .padded current answered lacking granted final served
    · rw [shortValue_of_not_lacking lacking]
      exact .enough current answered lacking

namespace Course

variable {allocator : Allocator} {key : String} {length : Nat} {store : Store σ} {state : σ}
  {outcome : Outcome σ View}

theorem seen_of_lacking (course : Course allocator key length store state outcome)
    {current : Option Bytes} (answered : (store.serve (.get key) state).1 = .ok current)
    (lacking : Lacking length current) :
    outcome.events.map Event.seen =
      [.inr (.get key), .inl (.padding key (current.getD []).length length)] ++
        if allocator.grants length = true then [.inr (.set key ((current.getD []).padTo length))]
        else [] := by
  cases course with
  | unanswered cause failed => cases failed.symm.trans answered
  | enough found same enough =>
    cases same.symm.trans answered
    exact absurd lacking enough
  | denied found same _ denied =>
    cases same.symm.trans answered
    simp [Event.seen, denied]
  | unset found same _ granted =>
    cases same.symm.trans answered
    simp [Event.seen, granted]
  | padded found same _ granted =>
    cases same.symm.trans answered
    simp [Event.seen, granted]

theorem seen_of_not_lacking (course : Course allocator key length store state outcome)
    (enough : ∀ current, (store.serve (.get key) state).1 = .ok current →
      ¬ Lacking length current) : outcome.events.map Event.seen = [.inr (.get key)] := by
  cases course with
  | unanswered | enough => rfl
  | denied found answered lacking => exact absurd lacking (enough found answered)
  | unset found answered lacking => exact absurd lacking (enough found answered)
  | padded found answered lacking => exact absurd lacking (enough found answered)

theorem ok_iff (course : Course allocator key length store state outcome) :
    outcome.result = .ok { key, length } ↔ outcome.Answered ∧
      ∀ current, (store.serve (.get key) state).1 = .ok current → Lacking length current →
        allocator.grants length = true := by
  cases course with
  | unanswered cause failed => simp [Outcome.Answered, Event.exchange?]
  | enough found answered enough => simp [Outcome.Answered, Event.exchange?, answered, enough]
  | denied found answered lacking denied => simp [answered, lacking, denied]
  | unset => simp [Outcome.Answered, Event.exchange?]
  | padded found answered lacking granted => simp [Outcome.Answered, Event.exchange?, granted]

theorem kept_or_padded (course : Course allocator key length store state outcome)
    {held : σ → Memory} (backed : store.Backed held) :
    (held outcome.state = held state ∧ ∀ view, outcome.result = .ok view →
        view = { key, length } ∧ ¬ Lacking length ((held state).get key)) ∨
      outcome.result = .ok { key, length } ∧ Lacking length ((held state).get key) ∧
        held outcome.state = (held state).insert key (((held state).bytes key).padTo length) := by
  obtain ⟨kept, current_eq⟩ := backed.get key state
  cases course with
  | unanswered cause failed => exact .inl ⟨kept, nofun⟩
  | enough current answered enough =>
    rw [current_eq current answered]
    refine .inl ⟨kept, fun view opened => ?_⟩
    exact ⟨(Except.ok.inj opened).symm, enough⟩
  | denied => exact .inl ⟨kept, nofun⟩
  | unset current answered lacking granted cause final refused =>
    have set := backed.set key ((current.getD []).padTo length) (store.serve (.get key) state).2
    rw [refused, kept] at set
    rcases set with ⟨put, after⟩ | ⟨_, after⟩
    · cases put
    · exact .inl ⟨after, nofun⟩
  | padded current answered lacking granted final served =>
    have set := backed.set key ((current.getD []).padTo length) (store.serve (.get key) state).2
    rw [served, kept] at set
    rw [Memory.bytes, current_eq current answered]
    rcases set with ⟨_, after⟩ | ⟨⟨cause, refused⟩, after⟩
    · exact .inr ⟨rfl, lacking, after⟩
    · cases refused

end Course

/-- Opening asks for the value once and sets it at most once, padded with zeros to the length of the
view, and it does so exactly when bytes are lacking and there is room for them. On a memory the
value ends up padded or, if opening fails, the memory is as it was. -/
theorem openAt_pads_atomically (allocator : Allocator) (key : String) (length : Nat)
    (store : Store σ) (state : σ) :
    let outcome := (openAt allocator key length).run store state
    let reply := (store.serve (.get key) state).1
    let seen := outcome.events.map Event.seen
    (∀ current, reply = .ok current → Lacking length current →
      let old := current.getD []
      old.length ≤ length ∧
        seen = [.inr (.get key), .inl (.padding key old.length length)] ++
          if allocator.grants length = true then
            [.inr (.set key (old ++ List.replicate (length - old.length) 0))]
          else []) ∧
      ((∀ current, reply = .ok current → ¬ Lacking length current) → seen = [.inr (.get key)]) ∧
      (outcome.result = .ok { key, length } ↔ outcome.Answered ∧
        ∀ current, reply = .ok current → Lacking length current →
          allocator.grants length = true) ∧
      ∀ held : σ → Memory, store.Backed held →
        let old := (held state).bytes key
        (∀ view, outcome.result = .ok view → view = { key, length } ∧
          (held outcome.state).get key =
            some (old ++ List.replicate (max old.length length - old.length) 0)) ∧
        (∀ error, outcome.result = .error error → held outcome.state = held state) ∧
        (∀ value, (held state).get key = some value → length ≤ value.length →
          held outcome.state = held state) ∧
        ∀ other, other ≠ key → (held outcome.state).get other = (held state).get other := by
  have course := openAt_course allocator key length store state
  refine ⟨?_, course.seen_of_not_lacking, course.ok_iff, ?_⟩
  · intro current answered lacking
    exact ⟨lacking.length_le, course.seen_of_lacking answered lacking⟩
  · intro held backed old
    have zeros : max old.length length - old.length = length - old.length := by omega
    rw [zeros]
    rcases course.kept_or_padded backed with ⟨kept, opened⟩ | ⟨result, lacking, final⟩
    · refine ⟨?_, fun _ _ => kept, fun _ _ _ => kept, fun other _ => by rw [kept]⟩
      intro view ended
      obtain ⟨rfl, enough⟩ := opened view ended
      obtain ⟨value, found, long⟩ := exists_of_not_lacking enough
      have old_eq : old = value := Memory.bytes_of_get found
      rw [kept, found, old_eq, Nat.sub_eq_zero_of_le long, List.replicate_zero, List.append_nil]
      exact ⟨rfl, rfl⟩
    · rw [final, result]
      refine ⟨?_, nofun, ?_, ?_⟩
      · rintro view ⟨⟩
        exact ⟨rfl, Memory.get_insert_self _ _ _⟩
      · intro value found long
        have short := lacking value found
        omega
      · intro other different
        simp [Ne.symm different]

theorem openAt_pads_atomically_shorter :
    let memory := (Memory.empty.insert "k" [7]).insert "x" [1]
    let down : Fault := { on := some .set, after := 0, error := { text := "down", causes := [] } }
    let opened := (openAt .machine "k" 3).run Memory.store memory
    let failed := (openAt .machine "k" 3).run Memory.store.guarded ([down], memory)
    opened.result = .ok { key := "k", length := 3 } ∧
      opened.events.map Event.seen =
        [.inr (.get "k"), .inl (.padding "k" 1 3), .inr (.set "k" [7, 0, 0])] ∧
      opened.state.get "k" = some [7, 0, 0] ∧ opened.state.get "x" = some [1] ∧
      failed.result = .error (.storeUnavailable down.error) ∧ failed.state.2 = memory := by
  intro memory down opened failed
  have found : memory.get "k" = some [7] := by
    simp [memory]
  have other : memory.get "x" = some [1] := Memory.get_insert_self _ _ _
  have old : memory.bytes "k" = [7] := Memory.bytes_of_get found
  obtain ⟨seen, -, -, backed⟩ := openAt_pads_atomically .machine "k" 3 Memory.store memory
  obtain ⟨value, -, -, others⟩ := backed id Store.memory_backed
  obtain ⟨-, -, -, guarded⟩ :=
    openAt_pads_atomically .machine "k" 3 Memory.store.guarded ([down], memory)
  obtain ⟨-, unchanged, -⟩ := guarded _ Store.memory_backed.guarded
  have got : Memory.store.guarded.serve (.get "k") ([down], memory) =
      (.ok (some [7]), [down], memory) := by
    rw [← found]
    rfl
  have result : opened.result = .ok { key := "k", length := 3 } := by
    have ran := congrArg Prod.fst (exec_openAt .machine memory "k" 3)
    rw [old, if_pos (.inr (by decide)), if_pos (by decide), if_pos (by decide)] at ran
    exact ran
  have refused : failed.result = .error (.storeUnavailable down.error) := by
    simp only [failed, openAt]
    rw [Action.run_request_bind, got]
    rfl
  refine ⟨result, (seen (some [7]) (congrArg Except.ok found) (by decide)).2, ?_, ?_, refused,
    unchanged _ refused⟩
  · have padded := (value _ result).2
    rw [id, id, old] at padded
    exact padded
  · exact (others "x" (by decide)).trans other

end View

end StoredArray
