import StoredArray.Proofs.Remote.Serving

namespace StoredArray

@[simp]
theorem mapError_eq_ok_iff {ε δ α : Type} (f : ε → δ) (result : Except ε α) (a : α) :
    result.mapError f = .ok a ↔ result = .ok a := by
  cases result with
  | ok b =>
    constructor
    · rintro ⟨⟩
      rfl
    · rintro ⟨⟩
      rfl
  | error error =>
    constructor
    · rintro ⟨⟩
    · rintro ⟨⟩

namespace Remote.Server

variable (client : Client) (server : Server)

theorem memory_serve_getRange (silent : server.script = []) (key : String) (first last : Nat) :
    ((store client).serve (.getRange key first last) server).2.memory = server.memory := by
  rw [serve_getRange client server silent]
  split
  · rfl
  · split <;> rfl

theorem serve_getRange_eq_iff (silent : server.script = []) (key : String) (first last : Nat) :
    ((store client).serve (.getRange key first last) server).1 =
        .ok (server.memory.getRange key first last) ↔
      last < first ∨ last < 0x8000000000000000 := by
  rw [serve_getRange client server silent]
  split
  · rename_i inverted
    rw [Memory.getRange_inverted server.memory key first last inverted]
    exact ⟨fun _ => .inl inverted, fun _ => rfl⟩
  · rename_i ordered
    split
    · rename_i inside
      exact ⟨fun _ => .inr inside, fun _ => rfl⟩
    · rename_i past
      constructor
      · rintro ⟨⟩
      · rintro (inverted | inside)
        · exact absurd inverted ordered
        · exact absurd inside past

theorem memory_serve_setRange (silent : server.script = []) (key : String) (offset : Nat)
    (data : Bytes) :
    ((store client).serve (.setRange key offset data) server).2.memory =
      (server.memory.setRange key offset data).2 := by
  by_cases inside : offset < 0x8000000000000000
  · rw [(serve_setRange client server silent key data inside).2]
  · have past := Nat.le_of_not_lt inside
    have far : Memory.maxValueLength < offset := Nat.lt_of_lt_of_le (by decide) past
    rw [serve_setRange_past client server key data past]
    exact (server.memory.setRange_past key data far).symm

theorem serve_setRange_eq_ok_iff (silent : server.script = []) (key : String) (offset : Nat)
    (data : Bytes) :
    ((store client).serve (.setRange key offset data) server).1 = .ok () ↔
      offset < 0x8000000000000000 ∧ (server.memory.setRange key offset data).1 = .ok () := by
  by_cases inside : offset < 0x8000000000000000
  · rw [and_iff_right inside, ← mapError_eq_ok_iff StoreError.blank,
      (serve_setRange client server silent key data inside).1, mapError_eq_ok_iff]
  · rw [serve_setRange_past client server key data (Nat.le_of_not_lt inside)]
    constructor
    · rintro ⟨⟩
    · rintro ⟨near, -⟩
      exact absurd near inside

theorem memory_of_setRange_failed (silent : server.script = []) {key : String} {offset : Nat}
    {data : Bytes} {cause : StoreError}
    (failed : ((store client).serve (.setRange key offset data) server).1 = .error cause) :
    ((store client).serve (.setRange key offset data) server).2.memory = server.memory := by
  rw [memory_serve_setRange client server silent]
  cases refused : (server.memory.setRange key offset data).1 with
  | error error => exact Memory.setRange_of_error refused
  | ok _ =>
    apply Memory.setRange_past
    apply Nat.lt_of_not_le
    intro near
    have inside : offset < 0x8000000000000000 := Nat.lt_of_le_of_lt near (by decide)
    rw [(serve_setRange_eq_ok_iff client server silent key offset data).mpr ⟨inside, refused⟩]
      at failed
    cases failed

/-- Reads agree unless an ordered window ends past the largest signed word, and writes succeed alike
unless no bytes are written past it. One command is sent, or none where the client refuses the call
or answers it by itself, and what is stored afterwards is what the memory would hold. -/
theorem range_calls_agree (silent : server.script = []) (key : String) :
    (∀ first last,
      let served := (store client).serve (.getRange key first last) server
      let direct := Memory.store.serve (.getRange key first last) server.memory
      (last < first → served = (.ok [], server)) ∧
        (first ≤ last → last < 0x8000000000000000 →
          served.1 = direct.1 ∧
            served.2.received = server.received ++ [.getRange key first last]) ∧
        (first ≤ last → 0x8000000000000000 ≤ last →
          (∃ cause, served.1 = .error cause) ∧ served.2 = server) ∧
        (served.1 = direct.1 ↔ last < first ∨ last < 0x8000000000000000) ∧
        served.2.memory = direct.2) ∧
      ∀ offset data,
        let served := (store client).serve (.setRange key offset data) server
        let direct := Memory.store.serve (.setRange key offset data) server.memory
        (offset < 0x8000000000000000 →
          served.2.received = server.received ++ [.setRange key offset data] ∧
            (served.1 = .ok () ↔ direct.1 = .ok ())) ∧
          (0x8000000000000000 ≤ offset →
            (∃ cause, served.1 = .error cause) ∧ served.2 = server) ∧
          ((served.1 = .ok () ↔ direct.1 = .ok ()) ↔
            offset < 0x8000000000000000 ∨ data ≠ []) ∧
          served.2.memory = direct.2 ∧
          ((∃ cause, served.1 = .error cause) → served.2.memory = server.memory) := by
  constructor
  · intro first last served direct
    have served_eq : served = _ := serve_getRange client server silent key first last
    refine ⟨?_, ?_, ?_, serve_getRange_eq_iff client server silent key first last,
      memory_serve_getRange client server silent key first last⟩
    · intro inverted
      rw [served_eq, if_pos inverted]
    · intro ordered inside
      rw [served_eq, if_neg (Nat.not_lt.mpr ordered), if_pos inside]
      exact ⟨rfl, rfl⟩
    · intro ordered past
      rw [served_eq, if_neg (Nat.not_lt.mpr ordered), if_neg (Nat.not_lt.mpr past)]
      exact ⟨⟨_, rfl⟩, rfl⟩
  · intro offset data served direct
    have accepted : served.1 = .ok () ↔ offset < 0x8000000000000000 ∧ direct.1 = .ok () :=
      serve_setRange_eq_ok_iff client server silent key offset data
    refine ⟨?_, ?_, ?_, memory_serve_setRange client server silent key offset data, ?_⟩
    · intro inside
      have sent : served.2 = _ := (serve_setRange client server silent key data inside).2
      rw [accepted, and_iff_right inside, sent]
      exact ⟨rfl, Iff.rfl⟩
    · intro past
      have refused : served = _ := serve_setRange_past client server key data past
      rw [refused]
      exact ⟨⟨_, rfl⟩, rfl⟩
    · -- Past a signed word the memory refuses whatever has bytes, so that only empty writes tell
      -- the two apart.
      have direct_eq : direct.1 = .ok () ↔
          data = [] ∨ offset + data.length ≤ Memory.maxValueLength :=
        server.memory.setRange_eq_ok_iff key offset data
      have limit : Memory.maxValueLength < 0x8000000000000000 := by decide
      rw [accepted, direct_eq]
      grind
    · rintro ⟨cause, failed⟩
      exact memory_of_setRange_failed client server silent failed

theorem range_calls_agree_at_limit :
    let memory := Memory.empty.insert "k" [1, 2, 3]
    let server : Server := { memory, script := [], received := [] }
    let read (last : Nat) := (store .standard).serve (.getRange "k" 1 last) server
    let written := (store .standard).serve (.setRange "k" 0x8000000000000000 []) server
    (read 0x7fffffffffffffff).1 = .ok [2, 3] ∧
      (read 0x7fffffffffffffff).2.received = [.getRange "k" 1 0x7fffffffffffffff] ∧
      (∃ cause, (read 0x8000000000000000).1 = .error cause) ∧
      (read 0x8000000000000000).2 = server ∧ read 0 = (.ok [], server) ∧
      (∃ cause, written.1 = .error cause) ∧ written.2 = server ∧
      (memory.setRange "k" 0x8000000000000000 []).1 = .ok () := by
  intro memory server read written
  have stored : memory.getRange "k" 1 0x7fffffffffffffff = [2, 3] := by
    rw [Memory.getRange_eq_slice memory "k" 1 _ (by decide), Memory.bytes_insert_self]
    rfl
  obtain ⟨reads, writes⟩ := range_calls_agree .standard server rfl "k"
  obtain ⟨-, within, -⟩ := reads 1 0x7fffffffffffffff
  obtain ⟨-, -, past, -⟩ := reads 1 0x8000000000000000
  obtain ⟨backward, -⟩ := reads 1 0
  obtain ⟨answer, sent⟩ := within (by decide) (by decide)
  obtain ⟨failed, unsent⟩ := past (by decide) (by decide)
  obtain ⟨-, beyond, -⟩ := writes 0x8000000000000000 []
  obtain ⟨refused, kept⟩ := beyond (Nat.le_refl _)
  exact ⟨answer.trans (congrArg Except.ok stored), sent, failed, unsent, backward (by decide),
    refused, kept, rfl⟩

end Remote.Server

end StoredArray
