import Mathlib.Data.List.Forall2
import Mathlib.Data.List.Nodup
import StoredArray.Proofs.Memory.Placement
import StoredArray.Proofs.Store.Interleaving
import StoredArray.Proofs.View.Calls

namespace StoredArray

theorem placed_append (writes more : List (Nat × Bytes)) :
    placed (writes ++ more) = placed writes ++ placed more :=
  List.flatMap_append

def Memory.Accepts (write : Nat × Bytes) : Prop :=
  write.2 ≠ [] ∧ write.1 + write.2.length ≤ maxValueLength

variable {α β : Type} {key : String} {value : α}

namespace Action

/-- An action that has these range writes to a key left to make, in this order, and then ends with
the value if none of them fails. -/
inductive Writing (key : String) (value : α) : List (Nat × Bytes) → Action α → Prop where
  | done : Writing key value [] (.done (.ok value))
  | log {writes : List (Nat × Bytes)} {next : Action α} (record : Record)
      (later : Writing key value writes next) : Writing key value writes (.log record next)
  | call {offset : Nat} {data : Bytes} {rest : List (Nat × Bytes)}
      {next : Except StoreError Unit → Action α} (later : Writing key value rest (next (.ok ()))) :
      Writing key value ((offset, data) :: rest) (.call (.setRange key offset data) next)

namespace Writing

variable {writes : List (Nat × Bytes)} {action : Action α}

theorem writeAll (key : String) (writes : List (Nat × Bytes)) :
    (Action.writeAll key writes).Writing key () writes := by
  induction writes with
  | nil => exact .done
  | cons write rest onward => exact .call onward

theorem map (writing : action.Writing key value writes) (f : α → β) :
    (action >>= fun a => pure (f a)).Writing key (f value) writes := by
  induction writing with
  | done => exact .done
  | log record _ onward => exact .log record onward
  | call _ onward => exact .call onward

theorem turn (writing : action.Writing key value writes)
    (accepted : ∀ write ∈ writes, Memory.Accepts write) (memory : Memory) :
    ∃ made left, made ++ left = writes ∧
      (action.turn Memory.store memory).1.Writing key value left ∧
      (action.turn Memory.store memory).2 = memory.place key (placed made) := by
  cases writing with
  | done => exact ⟨[], [], rfl, .done, (memory.place_nil key).symm⟩
  | log record later => exact ⟨[], writes, rfl, later, (memory.place_nil key).symm⟩
  | call later =>
    rename_i offset data rest next
    obtain ⟨nonempty, bound⟩ := accepted (offset, data) List.mem_cons_self
    have served : Memory.store.serve (.setRange key offset data) memory =
        (.ok (), memory.place key (Bytes.spread offset data)) :=
      memory.setRange_eq_place key offset data nonempty bound
    refine ⟨[(offset, data)], rest, rfl, ?_, ?_⟩
    · simp only [Action.turn, served]
      exact later
    · simp [Action.turn, served, placed]

end Writing

end Action

namespace Crew

variable {crew : Crew Memory α} {pending : List (List (Nat × Bytes))}

structure Pending (crew : Crew Memory α) (key : String) (value : α)
    (pending : List (List (Nat × Bytes))) : Prop where
  writing : List.Forall₂ (Action.Writing key value) pending crew.actions
  accepted : ∀ write ∈ pending.flatten, Memory.Accepts write

theorem writing_set {actions : List (Action α)} {action : Action α} {who : Nat}
    (writing : List.Forall₂ (Action.Writing key value) pending actions)
    (accepted : ∀ write ∈ pending.flatten, Memory.Accepts write)
    (found : actions[who]? = some action) (memory : Memory) :
    ∃ made left,
      List.Forall₂ (Action.Writing key value) left
        (actions.set who (action.turn Memory.store memory).1) ∧
      (action.turn Memory.store memory).2 = memory.place key (placed made) ∧
      (made ++ left.flatten).Perm pending.flatten := by
  induction writing generalizing who with
  | nil => cases found
  | cons head tail shorter =>
    rename_i writes first others rest
    simp only [List.flatten_cons, List.mem_append] at accepted
    cases who with
    | zero =>
      cases found
      obtain ⟨made, left, split, onward, state⟩ :=
        head.turn (fun write member => accepted write (.inl member)) memory
      refine ⟨made, left :: others, .cons onward tail, state, ?_⟩
      rw [List.flatten_cons, List.flatten_cons, ← split, List.append_assoc]
    | succ who =>
      obtain ⟨made, left, onward, state, perm⟩ :=
        shorter (fun write member => accepted write (.inr member)) found
      refine ⟨made, writes :: left, .cons head onward, state, ?_⟩
      exact (List.perm_append_comm_assoc made writes left.flatten).trans (perm.append_left writes)

/-- In one turn the writes made and the writes left are together the writes that were left. -/
theorem Pending.turn (left : crew.Pending key value pending) (who : Nat) :
    ∃ made rest, (crew.turn Memory.store who).Pending key value rest ∧
      (crew.turn Memory.store who).state = crew.state.place key (placed made) ∧
      (made ++ rest.flatten).Perm pending.flatten := by
  cases found : crew.actions[who]? with
  | none =>
    rw [turn_of_absent Memory.store found]
    exact ⟨[], pending, left, (crew.state.place_nil key).symm, .refl _⟩
  | some action =>
    obtain ⟨made, rest, onward, state, perm⟩ :=
      writing_set left.writing left.accepted found crew.state
    rw [turn_of_getElem? Memory.store found]
    refine ⟨made, rest, ⟨onward, fun write member => ?_⟩, state, perm⟩
    exact left.accepted write (perm.subset (List.mem_append_right made member))

theorem Pending.run (left : crew.Pending key value pending) (schedule : List Nat) :
    ∃ made rest, (crew.run Memory.store schedule).Pending key value rest ∧
      (crew.run Memory.store schedule).state = crew.state.place key (placed made) ∧
      (made ++ rest.flatten).Perm pending.flatten := by
  induction schedule generalizing crew pending with
  | nil => exact ⟨[], pending, left, (crew.state.place_nil key).symm, .refl _⟩
  | cons who others shorter =>
    obtain ⟨made, rest, onward, state, perm⟩ := left.turn who
    obtain ⟨more, last, final, after, further⟩ := shorter onward
    refine ⟨made ++ more, last, final, ?_, ?_⟩
    · rw [run_cons, after, state, Memory.place_append, placed_append]
    · rw [List.append_assoc]
      exact (further.append_left made).trans perm

theorem writing_done {actions : List (Action α)}
    (writing : List.Forall₂ (Action.Writing key value) pending actions)
    (finished : ∀ action ∈ actions, ∃ result, action = .done result) :
    pending.flatten = [] ∧ ∀ action ∈ actions, action = .done (.ok value) := by
  induction writing with
  | nil => exact ⟨rfl, nofun⟩
  | cons head tail shorter =>
    obtain ⟨result, ended⟩ := finished _ List.mem_cons_self
    obtain ⟨nothing, others⟩ :=
      shorter fun action member => finished action (List.mem_cons_of_mem _ member)
    subst ended
    cases head with
    | done => exact ⟨nothing, List.forall_mem_cons.mpr ⟨rfl, others⟩⟩

theorem Pending.finished (left : crew.Pending key value pending) {schedule : List Nat}
    (finished : (crew.run Memory.store schedule).Finished) :
    (∀ action ∈ (crew.run Memory.store schedule).actions, action = .done (.ok value)) ∧
      ∃ made, made.Perm pending.flatten ∧
        (crew.run Memory.store schedule).state = crew.state.place key (placed made) := by
  obtain ⟨made, rest, onward, state, perm⟩ := left.run schedule
  obtain ⟨nothing, ended⟩ := writing_done onward.writing finished
  rw [nothing, List.append_nil] at perm
  exact ⟨ended, made, perm, state⟩

end Crew

namespace View

def targets (view : View) (operation : Operation) : Option (List (Nat × UInt8)) :=
  match operation.plain with
  | .set index [byte] => (view.locate index).toOption.map fun position => [(position, byte)]
  | .setSlice slice values =>
    (slice.resolve view.length).toOption.bind fun span =>
      if values.length = span.length then some (span.indices.zip values) else none
  | _ => none

theorem toOption_eq_some {ε α : Type} {result : Except ε α} {a : α}
    (found : result.toOption = some a) : result = .ok a := by
  cases result with
  | ok b => rw [Option.some.inj found]
  | error e => cases found

theorem targets_cases {view : View} {operation : Operation} {pairs : List (Nat × UInt8)}
    (valid : view.targets operation = some pairs) :
    (∃ index byte position, operation.plain = .set index [byte] ∧
        view.locate index = .ok position ∧ pairs = [(position, byte)]) ∨
      ∃ slice values span, operation.plain = .setSlice slice values ∧
        slice.resolve view.length = .ok span ∧ values.length = span.length ∧
        pairs = span.indices.zip values := by
  unfold targets at valid
  split at valid
  · rename_i index byte plain
    obtain ⟨position, located, rfl⟩ := Option.map_eq_some_iff.mp valid
    exact .inl ⟨index, byte, position, plain, toOption_eq_some located, rfl⟩
  · rename_i slice values plain
    obtain ⟨span, resolved, chosen⟩ := Option.bind_eq_some_iff.mp valid
    split at chosen
    · rename_i count
      cases chosen
      exact .inr ⟨slice, values, span, plain, toOption_eq_some resolved, count, rfl⟩
    · cases chosen
  · cases valid

theorem nodup_targets {view : View} {operation : Operation} {pairs : List (Nat × UInt8)}
    (valid : view.targets operation = some pairs) : (pairs.map Prod.fst).Nodup := by
  rcases targets_cases valid with ⟨index, byte, position, _, _, rfl⟩ |
    ⟨slice, values, span, _, resolved, count, rfl⟩
  · exact List.nodup_singleton position
  · have follows := Slice.resolve_follows resolved
    rw [Span.map_fst_zip_indices span count]
    exact follows.nodup_indices

theorem set_writing {view : View} {index : Int64} {position : Nat} (byte : UInt8)
    (located : view.locate index = .ok position) :
    (view.set index [byte]).Writing view.key () [(position, [byte])] := by
  rw [set, located, Action.done_ok_bind, if_pos List.length_singleton]
  exact .log _ (.call .done)

theorem setSlice_writing {view : View} {slice : Slice} {values : Bytes} {span : Span}
    (resolved : slice.resolve view.length = .ok span) (count : values.length = span.length) :
    ∃ writes, (view.setSlice slice values).Writing view.key () writes ∧
      placed writes = span.ascending values ∧
      ∀ write ∈ writes, write.2 ≠ [] ∧ write.1 + write.2.length ≤ view.length := by
  have follows := Slice.resolve_follows resolved
  rw [setSlice, resolved, Action.done_ok_bind, if_pos count]
  cases found : span.lowest with
  | none => exact ⟨[], .done, (follows.ascending_of_lowest_none values found).symm, nofun⟩
  | some lowest =>
    refine ⟨_, .log _ (.writeAll view.key _), follows.placed_writes count found, ?_⟩
    intro write member
    have inside := follows.writes_inside count found member
    exact ⟨follows.writes_nonempty count found member, by omega⟩

theorem perform_writing {view : View} {operation : Operation} {pairs : List (Nat × UInt8)}
    (valid : view.targets operation = some pairs) :
    ∃ writes, (view.perform operation).Writing view.key none writes ∧ (placed writes).Perm pairs ∧
      ∀ write ∈ writes, write.2 ≠ [] ∧ write.1 + write.2.length ≤ view.length := by
  rw [← perform_plain]
  rcases targets_cases valid with ⟨index, byte, position, plain, located, rfl⟩ |
    ⟨slice, values, span, plain, resolved, count, rfl⟩
  · have bound := locate_lt located
    rw [plain]
    refine ⟨_, (set_writing byte located).map fun _ => none, .refl _, ?_⟩
    intro write member
    rw [List.mem_singleton.mp member]
    exact ⟨List.cons_ne_nil byte [], bound⟩
  · obtain ⟨writes, writing, pairs, inside⟩ := setSlice_writing resolved count
    rw [plain]
    refine ⟨writes, writing.map fun _ => none, ?_, inside⟩
    rw [pairs]
    exact Span.ascending_perm span values

end View

structure Writer where
  view : View
  operation : Operation
  pairs : List (Nat × UInt8)
  fits : view.length ≤ Memory.maxValueLength
  valid : view.targets operation = some pairs

namespace Writer

def action (writer : Writer) : Action (Option Value) :=
  writer.view.perform writer.operation

def indices (writer : Writer) : List Nat :=
  writer.pairs.map Prod.fst

theorem exists_pending (memory : Memory) (writers : List Writer)
    (shared : ∀ writer ∈ writers, writer.view.key = key) :
    ∃ pending, Crew.Pending { actions := writers.map action, state := memory } key none pending ∧
      (placed pending.flatten).Perm (writers.flatMap pairs) := by
  induction writers with
  | nil => exact ⟨[], ⟨.nil, nofun⟩, .refl _⟩
  | cons writer rest shorter =>
    obtain ⟨same, others⟩ := List.forall_mem_cons.mp shared
    obtain ⟨pending, left, perm⟩ := shorter others
    obtain ⟨writes, writing, targets, inside⟩ := View.perform_writing writer.valid
    rw [same] at writing
    refine ⟨writes :: pending, ⟨.cons writing left.writing, ?_⟩, ?_⟩
    · intro write member
      rcases List.mem_append.mp member with here | later
      · obtain ⟨nonempty, bound⟩ := inside write here
        exact ⟨nonempty, Nat.le_trans bound writer.fits⟩
      · exact left.accepted write later
    · rw [List.flatten_cons, placed_append, List.flatMap_cons]
      exact targets.append perm

theorem nodup_pairs {writers : List Writer}
    (disjoint : writers.Pairwise fun near far => near.indices.Disjoint far.indices) :
    ((writers.flatMap pairs).map Prod.fst).Nodup := by
  rw [List.map_flatMap, List.nodup_flatMap]
  exact ⟨fun writer _ => View.nodup_targets writer.valid, disjoint⟩

theorem exists_index_iff (writers : List Writer) (position : Nat) :
    (∃ pair ∈ writers.flatMap pairs, position ≤ pair.1) ↔
      ∃ writer ∈ writers, ∃ index ∈ writer.indices, position ≤ index := by
  constructor
  · rintro ⟨pair, member, below⟩
    obtain ⟨writer, here, put⟩ := List.mem_flatMap.mp member
    exact ⟨writer, here, pair.1, List.mem_map_of_mem put, below⟩
  · rintro ⟨writer, here, index, selected, below⟩
    obtain ⟨pair, put, rfl⟩ := List.mem_map.mp selected
    exact ⟨pair, List.mem_flatMap.mpr ⟨writer, here, put⟩, below⟩

/-- No write is lost to another one with other targets. Whichever way the calls of the writers come
to lie between each other, all of them succeed and leave the same memory: every byte is where its
writer put it, a position that no writer selects has its old byte, or zero if the value had to grow,
and the value grew no further than the highest index. -/
theorem no_update_lost (memory : Memory) (key : String) (writers : List Writer)
    (shared : ∀ writer ∈ writers, writer.view.key = key)
    (disjoint : writers.Pairwise fun near far => near.indices.Disjoint far.indices) :
    let start : Crew Memory (Option Value) := { actions := writers.map action, state := memory }
    (∀ schedule, ∃ rest, (start.run Memory.store (schedule ++ rest)).Finished) ∧
      ∃ final : Memory,
        (∀ schedule, (start.run Memory.store schedule).Finished →
          (start.run Memory.store schedule).state = final ∧
            ∀ action ∈ (start.run Memory.store schedule).actions, action = .done (.ok none)) ∧
        (∀ writer ∈ writers, ∀ pair ∈ writer.pairs, (final.bytes key)[pair.1]? = some pair.2) ∧
        (∀ position, (∀ writer ∈ writers, position ∉ writer.indices) →
          (final.bytes key).getD position 0 = (memory.bytes key).getD position 0) ∧
        (∀ position, position < (final.bytes key).length ↔
          position < (memory.bytes key).length ∨
            ∃ writer ∈ writers, ∃ index ∈ writer.indices, position ≤ index) ∧
        (final.get key = none ↔
          memory.get key = none ∧ ∀ writer ∈ writers, writer.indices = []) ∧
        ∀ other, other ≠ key → final.get other = memory.get other := by
  intro start
  have nodup := nodup_pairs disjoint
  obtain ⟨pending, left, targets⟩ := exists_pending memory writers shared
  refine ⟨fun schedule => ?_, memory.place key (writers.flatMap pairs), ?_, ?_, ?_, ?_, ?_, ?_⟩
  · obtain ⟨rest, finished⟩ := Crew.exists_finished Memory.store (start.run Memory.store schedule)
    exact ⟨rest, by rw [Crew.run_append]; exact finished⟩
  · intro schedule finished
    obtain ⟨ended, made, perm, state⟩ := left.finished finished
    have all : (placed made).Perm (writers.flatMap pairs) := (perm.flatMap_right _).trans targets
    refine ⟨?_, ended⟩
    rw [state]
    exact (Memory.place_perm all.symm nodup memory key).symm
  · intro writer member pair put
    rw [Memory.bytes_place]
    exact Bytes.getElem?_putAll_of_mem _ nodup (List.mem_flatMap.mpr ⟨writer, member, put⟩)
  · intro position free
    rw [Memory.bytes_place]
    apply Bytes.getD_putAll_of_not_mem
    rw [List.map_flatMap, List.mem_flatMap]
    rintro ⟨writer, member, selected⟩
    exact free writer member selected
  · intro position
    rw [Memory.bytes_place, Bytes.lt_length_putAll_iff, exists_index_iff]
  · rw [Memory.get_place_eq_none_iff, List.flatMap_eq_nil_iff]
    simp [indices]
  · intro other different
    exact memory.get_place_of_ne _ different

theorem no_update_lost_crossing :
    let near : Writer :=
      { view := { key := "k", length := 4 }
        operation := .setSlice { step := some 2 } [1, 2]
        pairs := [(0, 1), (2, 2)]
        fits := by decide
        valid := by decide }
    let far : Writer :=
      { view := { key := "k", length := 6 }
        operation := .setSlice { stop := some 2, step := some (-2) } [7, 8]
        pairs := [(5, 7), (3, 8)]
        fits := by decide
        valid := by decide }
    let memory := Memory.empty.insert "k" [9, 9]
    let start : Crew Memory (Option Value) :=
      { actions := [near.action, far.action], state := memory }
    ∃ rest, (start.run Memory.store ([0, 1, 1, 0] ++ rest)).Finished ∧
      let final := (start.run Memory.store ([0, 1, 1, 0] ++ rest)).state.bytes "k"
      final.getD 1 0 = 9 ∧ final[2]? = some 2 ∧ final[5]? = some 7 := by
  intro near far memory start
  have shared : ∀ writer ∈ [near, far], writer.view.key = "k" := by
    simp [near, far]
  have disjoint : [near, far].Pairwise fun near far => near.indices.Disjoint far.indices := by
    simp [near, far, indices]
  obtain ⟨ends, final, same, put, free, _⟩ := no_update_lost memory "k" [near, far] shared disjoint
  obtain ⟨rest, finished⟩ := ends [0, 1, 1, 0]
  have state : (start.run Memory.store ([0, 1, 1, 0] ++ rest)).state = final :=
    (same _ finished).1
  have old : memory.bytes "k" = [9, 9] := Memory.bytes_insert_self _ _ _
  have kept := free 1 (by simp [near, far, indices])
  have forward := put near (by simp) (2, 2) (by simp [near])
  have backward := put far (by simp) (5, 7) (by simp [far])
  rw [old] at kept
  refine ⟨rest, finished, ?_⟩
  rw [state]
  exact ⟨kept, forward, backward⟩

end Writer

end StoredArray
