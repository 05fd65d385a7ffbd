import Mathlib.Data.List.Nodup
import StoredArray.Proofs.View.Calls

namespace StoredArray

def Call.placements : Call → List (Nat × UInt8)
  | .setRange _ offset data => Bytes.spread offset data
  | _ => []

def Outcome.placements {σ α : Type} (outcome : Outcome σ α) : List (Nat × UInt8) :=
  outcome.calls.flatMap Call.placements

def Operation.isRead : Operation → Bool
  | .get _ => true
  | .getSlice _ => true
  | .read _ => true
  | .toBytes => true
  | .set _ _ => false
  | .setSlice _ _ => false
  | .write _ _ => false
  | .copyFrom _ => false

variable {σ : Type}

namespace Action

theorem calls_writeAll (store : Store σ) (key : String) (writes : List (Nat × Bytes)) (state : σ) :
    ((writeAll key writes).run store state).calls <+:
        writes.map (fun write => Call.setRange key write.1 write.2) ∧
      (((writeAll key writes).run store state).Answered →
        ((writeAll key writes).run store state).calls =
          writes.map fun write => Call.setRange key write.1 write.2) := by
  induction writes generalizing state with
  | nil => exact ⟨List.nil_prefix, fun _ => rfl⟩
  | cons write rest shorter =>
    obtain ⟨offset, data⟩ := write
    rw [writeAll, run_request_bind]
    cases (store.serve (.setRange key offset data) state).1 with
    | ok reply =>
      obtain ⟨started, whole⟩ := shorter (store.serve (.setRange key offset data) state).2
      constructor
      · exact List.prefix_cons_inj _ |>.mpr started
      · intro answered
        have later := whole fun exchange member => answered exchange (List.mem_cons_of_mem _ member)
        exact congrArg (Call.setRange key offset data :: ·) later
    | error cause =>
      constructor
      · exact List.prefix_cons_inj _ |>.mpr List.nil_prefix
      · intro answered
        obtain ⟨reply, impossible⟩ := answered ⟨.setRange key offset data, .error cause⟩
          List.mem_cons_self
        cases impossible

end Action

theorem flatMap_placements (key : String) (writes : List (Nat × Bytes)) :
    (writes.map fun write => Call.setRange key write.1 write.2).flatMap Call.placements =
      placed writes := by
  rw [List.flatMap_map]
  rfl

theorem prefix_flatMap {α β : Type} {first whole : List α} (f : α → List β)
    (started : first <+: whole) : first.flatMap f <+: whole.flatMap f := by
  obtain ⟨rest, rfl⟩ := started
  rw [List.flatMap_append]
  exact List.prefix_append _ _

namespace Span

/-- The indices are all different, so there is one way to sort the values by them. -/
theorem ascending_eq_mergeSort {span : Span} {walk : Walk} {extent : Nat}
    (follows : span.Follows walk extent) (values : Bytes) :
    span.ascending values =
      (span.indices.zip values).mergeSort fun near far => near.1 ≤ far.1 := by
  have transitive (a b c : Nat × UInt8) (near : decide (a.1 ≤ b.1) = true)
      (far : decide (b.1 ≤ c.1) = true) : decide (a.1 ≤ c.1) = true := by
    rw [decide_eq_true_eq] at *
    exact Nat.le_trans near far
  have total (a b : Nat × UInt8) : (decide (a.1 ≤ b.1) || decide (b.1 ≤ a.1)) = true := by
    rw [Bool.or_eq_true, decide_eq_true_eq, decide_eq_true_eq]
    exact Nat.le_total a.1 b.1
  have sorted := List.pairwise_mergeSort transitive total (span.indices.zip values)
  have perm := (ascending_perm span values).trans
    (List.mergeSort_perm (span.indices.zip values) fun near far => near.1 ≤ far.1).symm
  have single := List.inj_on_of_nodup_map (follows.nodup_ascending values)
  refine List.Perm.eq_of_pairwise ?_ ?_ sorted perm
  · intro a b here there near far
    rw [decide_eq_true_eq] at near far
    exact single here (perm.mem_iff.mpr there) (Nat.le_antisymm near far)
  · apply (follows.pairwise_ascending values).imp
    intro a b less
    exact decide_eq_true (Nat.le_of_lt less)

end Span

namespace Action

theorem length_calls_request (store : Store σ) {α : Type} (record : Record) (c : Call)
    (f : c.Reply → α) (state : σ) :
    ((note record >>= fun _ => request c >>= fun reply => pure (f reply)).run
      store state).calls.length = 1 := by
  rw [run_note_bind, run_request_bind]
  cases (store.serve c state).1 <;> rfl

end Action

namespace View

theorem length_calls_get (view : View) (store : Store σ) (index : Int64) (state : σ) :
    ((view.get index).run store state).calls.length ≤ 1 := by
  rw [get]
  cases view.locate index with
  | error error => exact Nat.zero_le 1
  | ok position => exact Nat.le_of_eq (Action.length_calls_request store _ _ _ state)

theorem length_calls_getSlice (view : View) (store : Store σ) (slice : Slice) (state : σ) :
    ((view.getSlice slice).run store state).calls.length ≤ 1 := by
  rw [getSlice]
  cases slice.resolve view.length with
  | error error => exact Nat.zero_le 1
  | ok span =>
    rw [Action.done_ok_bind]
    split
    · exact Nat.zero_le 1
    · exact Nat.le_of_eq (Action.length_calls_request store _ _ _ state)

theorem length_calls_read (view : View) (store : Store σ) (operation : Operation) (state : σ)
    (reads : operation.isRead = true) :
    ((view.perform operation).run store state).calls.length ≤ 1 := by
  rw [← perform_plain]
  have plain : (∃ index, operation.plain = .get index) ∨
      ∃ slice, operation.plain = .getSlice slice := by
    cases operation with
    | read index => cases index <;> simp [Operation.plain]
    | get | getSlice | toBytes => simp [Operation.plain]
    | set | setSlice | write | copyFrom => cases reads
  rcases plain with ⟨index, plain⟩ | ⟨slice, plain⟩
  · rw [plain, perform, Action.run_bind_pure]
    exact view.length_calls_get store index state
  · rw [plain, perform, Action.run_bind_pure]
    exact view.length_calls_getSlice store slice state

theorem run_setSlice (view : View) (store : Store σ) (slice : Slice) (values : Bytes) (state : σ)
    {span : Span} (resolved : slice.resolve view.length = .ok span)
    (count : values.length = span.length) :
    (view.setSlice slice values).run store state =
      match span.lowest with
      | none => { result := .ok (), state, events := [] }
      | some lowest =>
        let rest := (Action.writeAll view.key (span.writes lowest values)).run store state
        { rest with events := .logged (.setSlice view.key slice) :: rest.events } := by
  rw [setSlice, resolved, Action.done_ok_bind, if_pos count]
  cases span.lowest <;> rfl

theorem placements_setSlice (view : View) (store : Store σ) (slice : Slice) (values : Bytes)
    (state : σ) {span : Span} (resolved : slice.resolve view.length = .ok span)
    (count : values.length = span.length) :
    ((view.setSlice slice values).run store state).placements <+: span.ascending values ∧
      (((view.setSlice slice values).run store state).Answered →
        ((view.setSlice slice values).run store state).placements = span.ascending values) := by
  have follows := Slice.resolve_follows resolved
  rw [view.run_setSlice store slice values state resolved count]
  cases found : span.lowest with
  | none =>
    rw [follows.ascending_of_lowest_none values found]
    exact ⟨List.prefix_refl _, fun _ => rfl⟩
  | some lowest =>
    obtain ⟨started, whole⟩ :=
      Action.calls_writeAll store view.key (span.writes lowest values) state
    rw [← follows.placed_writes count found, ← flatMap_placements view.key]
    exact ⟨prefix_flatMap _ started, fun answered => congrArg (List.flatMap _) (whole answered)⟩

/-- Whatever a store answers, the calls of a view stay inside it and reads make at most one. What a
slice write places is what the slice selects, lowest index first, up to the call that fails: no
index twice, none that is not selected, and all of them if no call fails. -/
theorem calls_contained (view : View) (operation : Operation) (store : Store σ) (state : σ) :
    let outcome := (view.perform operation).run store state
    (∀ call ∈ outcome.calls, view.Contains call) ∧
      (operation.isRead = true → outcome.calls.length ≤ 1) ∧
      ∀ slice values span, operation.plain = .setSlice slice values →
        slice.resolve view.length = .ok span → values.length = span.length →
        let sorted := (span.indices.zip values).mergeSort fun near far => near.1 ≤ far.1
        let written := outcome.placements.map Prod.fst
        outcome.placements <+: sorted ∧
          (outcome.Answered → outcome.placements = sorted) ∧
          written.Nodup ∧ written ⊆ span.indices ∧
          (outcome.Answered → written.Perm span.indices) := by
  refine ⟨(view.perform_orderly operation).calls_allowed store state,
    view.length_calls_read store operation state, ?_⟩
  intro slice values span plain resolved count
  have follows := Slice.resolve_follows resolved
  have positions := Span.positions_ascending span count
  have performed : (view.perform operation).run store state =
      { (view.setSlice slice values).run store state with
        result := ((view.setSlice slice values).run store state).result.map fun _ => none } := by
    rw [← perform_plain, plain, perform, Action.run_bind_pure]
  obtain ⟨started, whole⟩ := view.placements_setSlice store slice values state resolved count
  rw [performed, ← Span.ascending_eq_mergeSort follows values]
  refine ⟨started, whole, ?_, ?_, ?_⟩
  · exact (follows.nodup_ascending values).sublist (started.sublist.map Prod.fst)
  · exact fun position member => positions.subset ((started.map Prod.fst).subset member)
  · intro answered
    have placements := congrArg (List.map Prod.fst) (whole answered)
    exact placements ▸ positions

theorem calls_contained_backward :
    let view : View := { key := "k", length := 10 }
    let slice : Slice := { start := some 8, stop := some 0, step := some (-3) }
    let operation : Operation := .write (.slice slice) [1, 2, 3]
    let down : Fault := { on := none, after := 2, error := { text := "down", causes := [] } }
    let outcome := (view.perform operation).run Memory.store.guarded ([down], .empty)
    (∀ call ∈ outcome.calls, view.Contains call) ∧
      outcome.placements <+: [(2, 3), (5, 2), (8, 1)] := by
  have resolved : { start := some 8, stop := some 0, step := some (-3) : Slice }.resolve 10 =
      .ok { start := 8, stop := 0, step := -3, size := 3 } := by
    decide
  have sorted : [(8, 1), (5, 2), (2, (3 : UInt8))].mergeSort (fun near far => near.1 ≤ far.1) =
      [(2, 3), (5, 2), (8, 1)] := by
    simp [List.mergeSort, List.MergeSort.Internal.splitInTwo]
  intro view slice operation down outcome
  obtain ⟨contained, _, writes⟩ :=
    calls_contained view operation Memory.store.guarded ([down], .empty)
  obtain ⟨started, _⟩ := writes slice [1, 2, 3] _ rfl resolved rfl
  exact ⟨contained, sorted ▸ started⟩

end View

end StoredArray
