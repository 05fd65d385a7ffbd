import StoredArray.Proofs.Store.Execution
import StoredArray.Proofs.View.Transfer

namespace StoredArray

def Error.Refusal (error : Error) : Prop :=
  error.kind ≠ .storeUnavailable ∧ error.kind ≠ .lengthTooLarge

theorem Slice.resolve_refusal {slice : Slice} {length : Nat} {error : Error}
    (refused : slice.resolve length = .error error) : error.Refusal := by
  simp only [Slice.resolve] at refused
  split at refused
  · cases refused
    simp [Error.Refusal, Error.kind]
  · cases refused

def Operation.plain : Operation → Operation
  | .read (.byte index) => .get index
  | .read (.slice slice) => .getSlice slice
  | .write (.byte index) values => .set index values
  | .write (.slice slice) values => .setSlice slice values
  | .toBytes => .getSlice .all
  | .copyFrom values => .setSlice .all values
  | operation => operation

theorem Operation.plain_cases (operation : Operation) :
    (∃ index, operation.plain = .get index) ∨
      (∃ index value, operation.plain = .set index value) ∨
      (∃ slice, operation.plain = .getSlice slice) ∨
      ∃ slice values, operation.plain = .setSlice slice values := by
  cases operation with
  | read index => cases index <;> simp [plain]
  | write index values => cases index <;> simp [plain]
  | get | set | getSlice | setSlice | toBytes | copyFrom => simp [plain]

namespace View

theorem perform_plain (view : View) (operation : Operation) :
    view.perform operation.plain = view.perform operation := by
  cases operation with
  | read index =>
    cases index <;> simp only [Operation.plain, perform, read, Action.bind_assoc, Action.pure_bind]
  | write index values => cases index <;> rfl
  | get | set | getSlice | setSlice | toBytes | copyFrom => rfl

/-- Performs operations one after the other, also after one that fails. Each leaves what it returned
and the state after it. -/
def performAll {σ : Type} (view : View) (store : Store σ) :
    List Operation → σ → List (Except Error (Option Value) × σ)
  | [], _ => []
  | operation :: rest, state =>
    let turn := (view.perform operation).exec store state
    turn :: view.performAll store rest turn.2

def Contains (view : View) : Call → Prop
  | .get _ => False
  | .set _ _ => False
  | .getRange key first last => key = view.key ∧ first ≤ last ∧ last < view.length
  | .setRange key offset data =>
    key = view.key ∧ data ≠ [] ∧ offset + data.length ≤ view.length

def Whole (key : String) : Call → Prop
  | .get other => other = key
  | .set other _ => other = key
  | .getRange _ _ _ => False
  | .setRange _ _ _ => False

theorem openAt_orderly (allocator : Allocator) (key : String) (length : Nat) :
    (openAt allocator key length).Orderly (Whole key) (·.kind = .lengthTooLarge) := by
  have got : Whole key (.get key) := rfl
  have set (data : Bytes) : Whole key (.set key data) := rfl
  refine (Action.Orderly.request _ got).bind fun current => ?_
  split
  · exact Action.Orderly.pure _
  · refine (Action.Orderly.note _).bind fun _ => ?_
    split
    · exact (Action.Orderly.request _ (set _)).bind fun _ => Action.Orderly.pure _
    · exact Action.Orderly.fail rfl

theorem shortValue_eq_none {length : Nat} {current : Option Bytes}
    (enough : shortValue length current = none) :
    ∃ value, current = some value ∧ length ≤ value.length := by
  cases current with
  | none => cases enough
  | some value =>
    refine ⟨value, rfl, Nat.le_of_not_lt fun less => ?_⟩
    rw [shortValue, if_pos less] at enough
    cases enough

theorem locate_lt {view : View} {index : Int64} {position : Nat}
    (located : view.locate index = .ok position) : position < view.length := by
  simp only [locate] at located
  generalize (if index < 0 then index.toInt + view.length else index.toInt) = place at located
  split at located
  · have same := Except.ok.inj located
    omega
  · cases located

theorem locate_refusal {view : View} {index : Int64} {error : Error}
    (refused : view.locate index = .error error) : error.Refusal := by
  simp only [locate] at refused
  generalize (if index < 0 then index.toInt + view.length else index.toInt) = place at refused
  split at refused
  · cases refused
  · cases refused
    simp [Error.Refusal, Error.kind]

theorem get_orderly (view : View) (index : Int64) :
    (view.get index).Orderly view.Contains Error.Refusal := by
  apply Action.Orderly.done_bind fun _ => locate_refusal
  intro position located
  refine (Action.Orderly.note _).bind fun _ => ?_
  refine (Action.Orderly.request _ ?_).bind fun _ => Action.Orderly.pure _
  exact ⟨rfl, Nat.le_refl position, locate_lt located⟩

theorem set_orderly (view : View) (index : Int64) (value : Bytes) :
    (view.set index value).Orderly view.Contains Error.Refusal := by
  apply Action.Orderly.done_bind fun _ => locate_refusal
  intro position located
  have bound := locate_lt located
  split
  · rename_i single
    refine (Action.Orderly.note _).bind fun _ => Action.Orderly.request _ ?_
    refine ⟨rfl, List.ne_nil_of_length_pos (by omega), by omega⟩
  · exact Action.Orderly.fail (by simp [Error.Refusal, Error.kind])

theorem getSlice_orderly (view : View) (slice : Slice) :
    (view.getSlice slice).Orderly view.Contains Error.Refusal := by
  apply Action.Orderly.done_bind fun _ => Slice.resolve_refusal
  intro span resolved
  have follows := Slice.resolve_follows resolved
  split
  · exact Action.Orderly.pure _
  · rename_i window found
    have covers := follows.window_covers found
    have last := covers.last_lt
    refine (Action.Orderly.note _).bind fun _ => ?_
    refine (Action.Orderly.request _ ?_).bind fun _ => Action.Orderly.pure _
    exact ⟨rfl, covers.ordered, by omega⟩

theorem setSlice_orderly (view : View) (slice : Slice) (values : Bytes) :
    (view.setSlice slice values).Orderly view.Contains Error.Refusal := by
  apply Action.Orderly.done_bind fun _ => Slice.resolve_refusal
  intro span resolved
  have follows := Slice.resolve_follows resolved
  split
  · rename_i count
    split
    · exact Action.Orderly.pure _
    · rename_i lowest found
      refine (Action.Orderly.note _).bind fun _ => Action.Orderly.writeAll _ _ ?_
      intro write member
      have inside := follows.writes_inside count found member
      exact ⟨rfl, follows.writes_nonempty count found member, by omega⟩
  · exact Action.Orderly.fail (by simp [Error.Refusal, Error.kind])

theorem perform_orderly (view : View) (operation : Operation) :
    (view.perform operation).Orderly view.Contains Error.Refusal := by
  rw [← perform_plain]
  rcases operation.plain_cases with ⟨index, plain⟩ | ⟨index, value, plain⟩ | ⟨slice, plain⟩ |
    ⟨slice, values, plain⟩
  all_goals rw [plain]
  · exact (view.get_orderly index).bind fun _ => Action.Orderly.pure _
  · exact (view.set_orderly index value).bind fun _ => Action.Orderly.pure _
  · exact (view.getSlice_orderly slice).bind fun _ => Action.Orderly.pure _
  · exact (view.setSlice_orderly slice values).bind fun _ => Action.Orderly.pure _

end View

end StoredArray
