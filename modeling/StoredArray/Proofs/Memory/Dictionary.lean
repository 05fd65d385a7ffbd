import Mathlib.Data.Finmap
import StoredArray.Proofs.Memory.Ranges
import StoredArray.Proofs.Store.Discipline

namespace StoredArray

namespace Bytes

def between (value : Bytes) (first last : Nat) : Bytes :=
  (value.zipIdx.filter fun place => first ≤ place.2 ∧ place.2 ≤ last).map Prod.fst

/-- Each position up to the end of the old value or of the data, whichever is further: inside the
data its byte, else the old byte where there was one, else zero. -/
def placing (value : Bytes) (offset : Nat) (data : Bytes) : Bytes :=
  (List.range (max value.length (offset + data.length))).map fun position =>
    if offset ≤ position ∧ position < offset + data.length then data.getD (position - offset) 0
    else value.getD position 0

def slice? (value : Bytes) (window : Window) : Option Bytes :=
  if window.first ≤ window.last ∧ window.last < value.length then some (value.slice window)
  else none

/-- The value with `data` at the positions from `offset` up to `stop`, if they lie inside the value
and are as many as the bytes of the data. -/
def copyInto? (value : Bytes) (offset stop : Nat) (data : Bytes) : Option Bytes :=
  if offset ≤ stop ∧ stop ≤ value.length ∧ stop - offset = data.length then
    some (value.take offset ++ data ++ value.drop stop)
  else none

theorem map_filter_zipIdx (value : Bytes) (base first last : Nat) :
    ((value.zipIdx base).filter fun place => first ≤ place.2 ∧ place.2 ≤ last).map Prod.fst =
      (value.drop (first - base)).take (last + 1 - max first base) := by
  -- The rest is numbered from `base + 1`, so both ends of the window move against the numbers.
  induction value generalizing base with
  | nil => simp
  | cons byte rest shorter =>
    rw [List.zipIdx_cons, List.filter_cons]
    by_cases early : base < first
    · have place : first - base = first - (base + 1) + 1 := by omega
      have reach : max first (base + 1) = max first base := by omega
      have outside : ¬ (first ≤ base ∧ base ≤ last) := by omega
      simp only [outside, decide_false, Bool.false_eq_true, if_false]
      rw [shorter, place, List.drop_succ_cons, reach]
    · have here : first - base = 0 := by omega
      have next : first - (base + 1) = 0 := by omega
      by_cases inside : base ≤ last
      · have count : last + 1 - max first base = last + 1 - max first (base + 1) + 1 := by omega
        have within : first ≤ base ∧ base ≤ last := by omega
        simp only [within, and_self, decide_true, if_true]
        rw [List.map_cons, shorter, here, next, count, List.drop_zero, List.drop_zero,
          List.take_succ_cons]
      · have none_left : last + 1 - max first base = 0 := by omega
        have none_next : last + 1 - max first (base + 1) = 0 := by omega
        simp only [inside, and_false, decide_false, Bool.false_eq_true, if_false]
        rw [shorter, none_left, none_next, List.take_zero, List.take_zero]

theorem between_eq_slice (value : Bytes) (first last : Nat) :
    value.between first last = value.slice { first, last } := by
  rw [between, map_filter_zipIdx, Nat.sub_zero, Nat.max_zero]
  rfl

theorem placing_eq_write (value : Bytes) (offset : Nat) (data : Bytes) :
    value.placing offset data = value.write offset data := by
  apply List.ext_getElem?
  intro position
  rw [getElem?_write, placing, List.getElem?_map]
  by_cases inside : offset ≤ position ∧ position < offset + data.length
  · rw [if_pos inside, List.getElem?_range (by omega), Option.map_some, if_pos inside,
      List.getD_eq_getElem?_getD, List.getElem?_eq_getElem (by omega), Option.getD_some]
  · rw [if_neg inside]
    by_cases old : position < value.length
    · rw [if_pos old, List.getElem?_range (by omega), Option.map_some, if_neg inside,
        List.getD_eq_getElem?_getD, List.getElem?_eq_getElem old, Option.getD_some]
    · rw [if_neg old]
      by_cases gap : position < offset
      · rw [if_pos gap, List.getElem?_range (by omega), Option.map_some, if_neg inside,
          List.getD_eq_getElem?_getD, List.getElem?_eq_none (by omega), Option.getD_none]
      · rw [if_neg gap, List.getElem?_eq_none (by rw [List.length_range]; omega), Option.map_none]

end Bytes

abbrev Dictionary := Finmap fun _ : String => Bytes

namespace Dictionary

/-- A value longer than the limit is refused, and then the map stays as it is. -/
def store : Store Dictionary where
  serve
    | .get key, entries => (.ok (entries.lookup key), entries)
    | .set key data, entries =>
      if data.length ≤ Memory.maxValueLength then (.ok (), entries.insert key data)
      else (.error Memory.tooLong, entries)
    | .getRange key first last, entries =>
      (.ok (((entries.lookup key).getD []).between first last), entries)
    | .setRange key offset data, entries =>
      if data = [] then (.ok (), entries)
      else if Memory.maxValueLength < offset + data.length then (.error Memory.tooLong, entries)
      else (.ok (), entries.insert key (((entries.lookup key).getD []).placing offset data))

end Dictionary

namespace Memory

def Represents (memory : Memory) (entries : Dictionary) : Prop :=
  ∀ key, memory.get key = entries.lookup key

variable {memory : Memory} {entries : Dictionary}

theorem Represents.bytes_eq (represents : memory.Represents entries) (key : String) :
    memory.bytes key = (entries.lookup key).getD [] := by
  rw [bytes, represents key]

theorem Represents.empty : Memory.empty.Represents ∅ := by
  intro key
  simp

theorem Represents.insert (represents : memory.Represents entries) (key : String) (value : Bytes) :
    (memory.insert key value).Represents (entries.insert key value) := by
  intro other
  rw [get_insert]
  split
  · rename_i same
    rw [← same, Finmap.lookup_insert]
  · rename_i different
    rw [Finmap.lookup_insert_of_ne _ (Ne.symm different)]
    exact represents other

theorem Represents.remove (represents : memory.Represents entries) (key : String) :
    (memory.remove key).2.Represents (entries.erase key) := by
  intro other
  rw [get_remove]
  split
  · rename_i same
    rw [← same, Finmap.lookup_erase]
  · rename_i different
    rw [Finmap.lookup_erase_ne (Ne.symm different)]
    exact represents other

theorem getRange_eq_between (memory : Memory) (key : String) (first last : Nat) :
    memory.getRange key first last = (memory.bytes key).between first last := by
  rw [Bytes.between_eq_slice]
  by_cases ordered : first ≤ last
  · exact getRange_eq_slice memory key first last ordered
  · have nothing : last + 1 - first = 0 := by omega
    rw [getRange_inverted memory key first last (by omega), Bytes.slice, nothing, List.take_zero]

theorem setRange_eq_placing (memory : Memory) (key : String) (offset : Nat) (data : Bytes)
    (nonempty : data ≠ []) (fits : offset + data.length ≤ maxValueLength) :
    memory.setRange key offset data =
      (.ok (), memory.insert key ((memory.bytes key).placing offset data)) := by
  rw [setRange_eq_insert memory key offset data nonempty fits, Bytes.placing_eq_write]

/-- A memory answers like the finite map that it represents, whatever it is asked. -/
theorem dictionary_parallel :
    Memory.store.Parallel id (fun _ => True) Represents Dictionary.store := by
  intro call memory entries _ represents
  cases call with
  | get key => exact ⟨congrArg Except.ok (represents key), represents⟩
  | set key data =>
    simp only [Memory.store, Dictionary.store, set]
    split
    · exact ⟨rfl, represents.insert key data⟩
    · exact ⟨rfl, represents⟩
  | getRange key first last =>
    simp only [Memory.store, Dictionary.store, getRange_eq_between, represents.bytes_eq]
    exact ⟨trivial, represents⟩
  | setRange key offset data =>
    simp only [Memory.store, Dictionary.store]
    by_cases empty : data = []
    · simp only [setRange_eq, empty, if_true]
      exact ⟨trivial, represents⟩
    · by_cases fits : offset + data.length ≤ maxValueLength
      · have within : ¬ maxValueLength < offset + data.length := by omega
        simp only [setRange_eq_placing memory key offset data empty fits, empty, within, if_false,
          represents.bytes_eq]
        exact ⟨trivial, represents.insert key _⟩
      · have past : maxValueLength < offset + data.length := by omega
        simp only [setRange_eq, empty, fits, past, if_true, if_false]
        exact ⟨trivial, represents⟩

theorem Represents.size_eq (represents : memory.Represents entries) :
    memory.size = entries.keys.card := by
  have keys : memory.values.keys.toFinset = entries.keys := by
    ext key
    rw [List.mem_toFinset, Std.ExtTreeMap.mem_keys, Std.ExtTreeMap.mem_iff_isSome_getElem?,
      Finmap.mem_keys, ← Finmap.lookup_isSome, ← represents key]
    rfl
  rw [size, ← Std.ExtTreeMap.length_keys, ← keys,
    List.toFinset_card_of_nodup Std.ExtTreeMap.nodup_keys]

theorem Represents.isEmpty_eq (represents : memory.Represents entries) :
    memory.isEmpty = decide (entries.keys = ∅) := by
  have count := represents.size_eq
  rw [isEmpty, Std.ExtTreeMap.isEmpty_eq_size_beq_zero, ← size, count, Bool.eq_iff_iff, beq_iff_eq,
    decide_eq_true_eq, Finset.card_eq_zero]

theorem slice?_getRange {key : String} {value : Bytes} (found : memory.get key = some value)
    {first last : Nat} {window : Window}
    (clipped : Window.clip { first, last } value.length = some window) :
    value.slice? window = some (memory.getRange key first last) := by
  have inside : window.first ≤ window.last ∧ window.last < value.length := by
    unfold Window.clip at clipped
    split at clipped
    · cases clipped
      dsimp only at *
      omega
    · cases clipped
  rw [Bytes.slice?, if_pos inside, getRange, found]
  dsimp only
  rw [clipped]

theorem copyInto?_setRange (memory : Memory) (key : String) (offset : Nat) (data : Bytes)
    (nonempty : data ≠ []) (fits : offset + data.length ≤ maxValueLength) :
    ∃ stored,
      ((memory.bytes key).padTo (offset + data.length)).copyInto? offset (offset + data.length)
          data = some stored ∧
        memory.setRange key offset data = (.ok (), memory.insert key stored) := by
  have reach := Bytes.length_padTo (memory.bytes key) (offset + data.length)
  have room : offset ≤ offset + data.length ∧
      offset + data.length ≤ ((memory.bytes key).padTo (offset + data.length)).length ∧
      offset + data.length - offset = data.length := by omega
  refine ⟨(memory.bytes key).write offset data, ?_,
    setRange_eq_insert memory key offset data nonempty fits⟩
  rw [Bytes.copyInto?, if_pos room]
  rfl

end Memory

end StoredArray
