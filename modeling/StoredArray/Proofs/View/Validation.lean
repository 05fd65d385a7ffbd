import StoredArray.Proofs.View.Calls

namespace StoredArray

namespace Action

variable {α β : Type}

def Bare : Action α → Prop
  | done result => ∀ error, result = .error error → error.kind = .storeUnavailable
  | log _ _ => False
  | call _ next => ∀ reply, (next reply).Bare

namespace Bare

theorem pure (a : α) : (Pure.pure a : Action α).Bare := by
  intro error failed
  cases failed

theorem request (c : Call) : (Action.request c).Bare := by
  intro reply
  cases reply with
  | ok reply => exact Bare.pure reply
  | error cause =>
    rintro _ ⟨⟩
    rfl

theorem bind {action : Action α} {f : α → Action β} (first : action.Bare)
    (second : ∀ a, (f a).Bare) : (action >>= f).Bare := by
  induction action with
  | done result =>
    cases result with
    | ok a => exact second a
    | error error =>
      rintro _ ⟨⟩
      exact first error rfl
  | log record next => exact first.elim
  | call c next shorter => exact fun reply => shorter reply (first reply)

theorem writeAll (key : String) (writes : List (Nat × Bytes)) :
    (Action.writeAll key writes).Bare := by
  induction writes with
  | nil => exact Bare.pure ()
  | cons write rest shorter => exact (Bare.request _).bind fun _ => shorter

theorem run {σ : Type} {action : Action α} (bare : action.Bare) (store : Store σ) (state : σ) :
    (∃ exchanges : List Exchange, (action.run store state).events = exchanges.map .called) ∧
      ∀ error, (action.run store state).result = .error error → error.kind = .storeUnavailable := by
  induction action generalizing state with
  | done result => exact ⟨⟨[], rfl⟩, bare⟩
  | log record next => exact bare.elim
  | call c next shorter =>
    obtain ⟨⟨exchanges, events⟩, failed⟩ :=
      shorter (store.serve c state).1 (bare _) (store.serve c state).2
    refine ⟨⟨⟨c, (store.serve c state).1⟩ :: exchanges, ?_⟩, failed⟩
    rw [Action.run, List.map_cons, ← events]

end Bare

end Action

namespace Operation

def Outside (length : Nat) (index : Int64) : Prop :=
  index.toInt < -length ∨ length ≤ index.toInt

instance (length : Nat) (index : Int64) : Decidable (Outside length index) :=
  inferInstanceAs (Decidable (_ ∨ _))

/-- The error that an operation on an array of some length ends with before it makes a call, if it
does. The index is looked at before the value that is set there, and the step before the number of
values. -/
def objection (length : Nat) (operation : Operation) : Option Error :=
  match operation.plain with
  | .get index => if Outside length index then some (.indexOutOfRange index length) else none
  | .set index value =>
    if Outside length index then some (.indexOutOfRange index length)
    else if value.length ≠ 1 then some (.invalidValue value.length)
    else none
  | .getSlice slice => if slice.step = some 0 then some .zeroStep else none
  | .setSlice slice values =>
    let selected := (slice.walk length).positions.length
    if slice.step = some 0 then some .zeroStep
    else if values.length ≠ selected then some (.lengthMismatch selected values.length)
    else none
  | _ => none

def Idle (length : Nat) (operation : Operation) : Prop :=
  match operation.plain with
  | .getSlice slice => (slice.walk length).positions = []
  | .setSlice slice _ => (slice.walk length).positions = []
  | _ => False

theorem plain_plain (operation : Operation) : operation.plain.plain = operation.plain := by
  cases operation with
  | read index => cases index <;> rfl
  | write index values => cases index <;> rfl
  | get | set | getSlice | setSlice | toBytes | copyFrom => rfl

theorem objection_plain (length : Nat) (operation : Operation) :
    operation.plain.objection length = operation.objection length := by
  rw [objection, plain_plain, objection]

theorem idle_plain (length : Nat) (operation : Operation) :
    operation.plain.Idle length = operation.Idle length := by
  rw [Idle, plain_plain, Idle]

end Operation

namespace View

open Operation

theorem locate_of_outside {view : View} {index : Int64} (outside : Outside view.length index) :
    view.locate index = .error (.indexOutOfRange index view.length) := by
  unfold Outside at outside
  simp only [locate, Word.neg_iff]
  rw [if_neg]
  split <;> omega

theorem exists_of_not_outside {view : View} {index : Int64}
    (inside : ¬ Outside view.length index) : ∃ position, view.locate index = .ok position := by
  unfold Outside at inside
  simp only [locate, Word.neg_iff]
  rw [if_pos]
  · exact ⟨_, rfl⟩
  · split <;> omega

/-- The actions that an operation can be: it ends with an objection, there is nothing to do, or it
is traced and goes on with calls, of which there is at least one. -/
inductive Shape (objection : Option Error) (idle : Prop) : Action (Option Value) → Prop where
  | refused (error : Error) (objected : objection = some error) :
      Shape objection idle (Action.fail error)
  | idle (value : Option Value) (accepted : objection = none) (nothing : idle) :
      Shape objection idle (pure value)
  | active (record : Record) (call : Call)
      (next : Except StoreError call.Reply → Action (Option Value)) (accepted : objection = none)
      (busy : ¬ idle) (traced : record.level = .trace) (bare : (Action.call call next).Bare) :
      Shape objection idle (.log record (.call call next))

def Checked (view : View) (operation : Operation) : Prop :=
  Shape (operation.objection view.length) (operation.Idle view.length) (view.perform operation)

theorem get_checked (view : View) (index : Int64) : view.Checked (.get index) := by
  by_cases outside : Outside view.length index
  · rw [Checked, perform, get, locate_of_outside outside]
    exact .refused _ (if_pos outside)
  · obtain ⟨position, located⟩ := exists_of_not_outside outside
    rw [Checked, perform, get, located]
    refine .active (.getByte view.key position) _ _ (if_neg outside) id rfl ?_
    exact ((Action.Bare.request (.getRange view.key position position)).bind fun bytes =>
      Action.Bare.pure (bytes.headD 0)).bind fun _ => Action.Bare.pure _

theorem set_checked (view : View) (index : Int64) (value : Bytes) :
    view.Checked (.set index value) := by
  by_cases outside : Outside view.length index
  · rw [Checked, perform, set, locate_of_outside outside]
    exact .refused _ (if_pos outside)
  · obtain ⟨position, located⟩ := exists_of_not_outside outside
    rw [Checked, perform, set, located, Action.done_ok_bind]
    by_cases single : value.length = 1
    · rw [if_pos single]
      refine .active (.setByte view.key position) _ _ ?_ id rfl ?_
      · exact (if_neg outside).trans (if_neg (not_not_intro single))
      · exact (Action.Bare.request (.setRange view.key position value)).bind fun _ =>
          Action.Bare.pure none
    · rw [if_neg single]
      exact .refused _ ((if_neg outside).trans (if_pos single))

theorem getSlice_checked (view : View) (addressable : view.length ≤ 0x7fffffffffffffff)
    (slice : Slice) : view.Checked (.getSlice slice) := by
  by_cases zero : slice.step = some 0
  · have still := (Slice.resolve_eq_error_iff slice view.length .zeroStep).mpr ⟨zero, rfl⟩
    rw [Checked, perform, getSlice, still]
    exact .refused _ (if_pos zero)
  · obtain ⟨span, resolved, follows⟩ := Slice.exists_span addressable zero
    have count := follows.length_positions
    rw [Checked, perform, getSlice, resolved, Action.done_ok_bind]
    cases found : span.window with
    | none =>
      have empty := (Span.window_eq_none_iff span).mp found
      exact .idle _ (if_neg zero) (List.length_eq_zero_iff.mp (count.trans empty))
    | some window =>
      refine .active (.getSlice view.key slice window) _ _ (if_neg zero) ?_ rfl ?_
      · intro nothing
        apply Span.length_ne_zero_of_window found
        exact count.symm.trans (congrArg List.length nothing)
      · exact ((Action.Bare.request (.getRange view.key window.first window.last)).bind fun bytes =>
          Action.Bare.pure (span.pick bytes)).bind fun _ => Action.Bare.pure _

theorem setSlice_checked (view : View) (addressable : view.length ≤ 0x7fffffffffffffff)
    (slice : Slice) (values : Bytes) : view.Checked (.setSlice slice values) := by
  by_cases zero : slice.step = some 0
  · have still := (Slice.resolve_eq_error_iff slice view.length .zeroStep).mpr ⟨zero, rfl⟩
    rw [Checked, perform, setSlice, still]
    exact .refused _ (if_pos zero)
  · obtain ⟨span, resolved, follows⟩ := Slice.exists_span addressable zero
    have selected := follows.length_positions
    rw [Checked, perform, setSlice, resolved, Action.done_ok_bind]
    by_cases count : values.length = span.length
    · have accepted : (Operation.setSlice slice values).objection view.length = none :=
        (if_neg zero).trans (if_neg (not_not_intro (count.trans selected.symm)))
      rw [if_pos count]
      cases found : span.lowest with
      | none =>
        have empty := follows.lowest_eq_none_iff.mp found
        exact .idle _ accepted (List.length_eq_zero_iff.mp (selected.trans empty))
      | some lowest =>
        obtain ⟨write, rest, writes⟩ :=
          List.exists_cons_of_ne_nil (follows.writes_ne_nil count found)
        have bare := Action.Bare.writeAll view.key (span.writes lowest values)
        dsimp only
        rw [writes] at bare ⊢
        refine .active (.setSlice view.key slice) _ _ accepted ?_ rfl ?_
        · intro nothing
          apply follows.length_ne_zero_of_lowest found
          exact selected.symm.trans (congrArg List.length nothing)
        · exact bare.bind fun _ => Action.Bare.pure none
    · rw [if_neg count, ← selected]
      refine .refused _ ((if_neg zero).trans (if_pos ?_))
      rw [selected]
      exact count

theorem perform_checked (view : View) (addressable : view.length ≤ 0x7fffffffffffffff)
    (operation : Operation) : view.Checked operation := by
  rw [Checked, ← perform_plain, ← objection_plain, ← idle_plain]
  rcases operation.plain_cases with ⟨index, plain⟩ | ⟨index, value, plain⟩ | ⟨slice, plain⟩ |
    ⟨slice, values, plain⟩
  all_goals rw [plain]
  · exact view.get_checked index
  · exact view.set_checked index value
  · exact view.getSlice_checked addressable slice
  · exact view.setSlice_checked addressable slice values

/-- Apart from a failure of the store, an operation ends with an error exactly when there is an
objection to it, and with that one. Then, and when it selects nothing, it leaves no sign of itself.
Otherwise it is traced in one record, which comes before its calls, and makes at least one call. -/
theorem perform_validates (view : View) (addressable : view.length ≤ 0x7fffffffffffffff)
    (operation : Operation) {σ : Type} (store : Store σ) (state : σ) :
    let outcome := (view.perform operation).run store state
    let objection := operation.objection view.length
    (∀ error, error.kind ≠ .storeUnavailable →
      (outcome.result = .error error ↔ objection = some error)) ∧
      (objection ≠ none ∨ operation.Idle view.length →
        outcome.events = [] ∧ outcome.state = state) ∧
      (objection = none → ¬ operation.Idle view.length →
        ∃ (record : Record) (first : Exchange) (rest : List Exchange), record.level = .trace ∧
          outcome.events = .logged record :: (first :: rest).map .called) := by
  intro outcome objection
  have checked := view.perform_checked addressable operation
  simp only [outcome, objection]
  unfold Checked at checked
  generalize view.perform operation = action at checked ⊢
  cases checked with
  | refused error objected =>
    rw [objected, Action.run_fail]
    refine ⟨fun other _ => ?_, fun _ => ⟨rfl, rfl⟩, nofun⟩
    rw [Except.error.injEq, Option.some.injEq]
  | idle value accepted nothing =>
    rw [accepted, Action.run_pure]
    exact ⟨fun error _ => ⟨nofun, nofun⟩, fun _ => ⟨rfl, rfl⟩, fun _ busy => absurd nothing busy⟩
  | active record call next accepted busy traced bare =>
    -- The first call stands in front whatever its reply; what follows are calls alone.
    have calls := bare (store.serve call state).1
    obtain ⟨⟨rest, events⟩, failed⟩ := calls.run store (store.serve call state).2
    refine ⟨fun error own => ⟨fun ended => ?_, fun objected => ?_⟩, fun quiet => ?_, fun _ _ => ?_⟩
    · exact absurd (failed error ended) own
    · cases accepted.symm.trans objected
    · exact absurd quiet (not_or.mpr ⟨not_not_intro accepted, busy⟩)
    · refine ⟨record, ⟨call, (store.serve call state).1⟩, rest, traced, ?_⟩
      rw [Action.run, Action.run, events, List.map_cons]

theorem perform_validates_twice_wrong :
    let view : View := { key := "k", length := 4 }
    let run (operation : Operation) := (view.perform operation).run Memory.store .empty
    let still : Slice := { step := some 0 }
    (run (.set (-5) [])).result = .error (.indexOutOfRange (-5) 4) ∧
      (run (.set (-5) [])).events = [] ∧
      (run (.write (.slice still) [1])).result = .error .zeroStep ∧
      (run (.write (.slice still) [1])).events = [] ∧
      (run (.copyFrom [1])).result = .error (.lengthMismatch 4 1) ∧
      (run (.copyFrom [1])).state = .empty ∧
      ∃ (record : Record) (first : Exchange) (rest : List Exchange), record.level = .trace ∧
        (run (.set (-4) [7])).events = .logged record :: (first :: rest).map .called := by
  intro view run still
  have addressable : view.length ≤ 0x7fffffffffffffff := by decide
  have whole : (Slice.all.walk 4).positions.length = 4 := by
    let span : Span := { start := 0, stop := 4, step := 1, size := 4 }
    have resolved : Slice.all.resolve 4 = .ok span := rfl
    exact (Slice.resolve_follows resolved).length_positions
  have miscounted : (Operation.copyFrom [1]).objection 4 = some (.lengthMismatch 4 1) := by
    simp only [objection, plain, whole]
    decide
  have objected : (Operation.copyFrom [1]).objection view.length ≠ none := fun accepted =>
    Option.some_ne_none _ (miscounted.symm.trans accepted)
  obtain ⟨outside, before, -⟩ :=
    perform_validates view addressable (.set (-5) []) Memory.store .empty
  obtain ⟨stepless, unseen, -⟩ :=
    perform_validates view addressable (.write (.slice still) [1]) Memory.store .empty
  obtain ⟨mismatch, kept, -⟩ :=
    perform_validates view addressable (.copyFrom [1]) Memory.store .empty
  obtain ⟨-, -, traced⟩ := perform_validates view addressable (.set (-4) [7]) Memory.store .empty
  exact ⟨(outside _ (by decide)).mpr rfl, (before (.inl (Option.some_ne_none _))).1,
    (stepless _ (by decide)).mpr rfl, (unseen (.inl (Option.some_ne_none _))).1,
    (mismatch _ (by decide)).mpr miscounted, (kept (.inl objected)).2, traced rfl id⟩

end View

end StoredArray
