import StoredArray.Memory

namespace StoredArray

theorem getElem?_keepEvery {α : Type} (stride skip : Nat) (positive : 0 < stride) (items : List α)
    (i : Nat) : (keepEvery stride skip items)[i]? = items[skip + i * stride]? := by
  induction items generalizing skip i with
  | nil => simp [keepEvery]
  | cons item rest shorter =>
    cases skip with
    | succ skip =>
      rw [keepEvery, shorter, Nat.succ_add, List.getElem?_cons_succ]
    | zero =>
      cases i with
      | zero => simp [keepEvery]
      | succ i =>
        have place : 0 + (i + 1) * stride = (stride - 1 + i * stride) + 1 := by
          rw [Nat.succ_mul]
          omega
        rw [keepEvery, List.getElem?_cons_succ, shorter, place, List.getElem?_cons_succ]

theorem getElem?_everyNth {α : Type} (stride : Nat) (positive : 0 < stride) (items : List α)
    (i : Nat) : (everyNth stride items)[i]? = items[i * stride]? := by
  rw [everyNth, getElem?_keepEvery stride 0 positive, Nat.zero_add]

theorem filterMap_eq_of_getElem? {α β : Type} {items : List α} {f : α → Option β}
    {results : List β} (pointwise : ∀ i : Nat, results[i]? = items[i]?.bind f) :
    items.filterMap f = results := by
  induction items generalizing results with
  | nil =>
    cases results with
    | nil => rfl
    | cons head others => simpa using pointwise 0
  | cons item rest shorter =>
    cases results with
    | nil =>
      have missing : f item = none := by simpa [eq_comm] using pointwise 0
      rw [List.filterMap_cons_none missing]
      exact shorter fun i => pointwise (i + 1)
    | cons head others =>
      have found : f item = some head := by simpa [eq_comm] using pointwise 0
      rw [List.filterMap_cons_some found, shorter fun i => pointwise (i + 1)]

namespace Bytes

@[grind =]
theorem getElem?_slice (value : Bytes) (window : Window) (i : Nat) :
    (value.slice window)[i]? =
      if window.first + i ≤ window.last then value[window.first + i]? else none := by
  rw [slice, List.getElem?_take, List.getElem?_drop]
  by_cases inside : window.first + i ≤ window.last
  · rw [if_pos inside, if_pos (by omega)]
  · rw [if_neg inside, if_neg (by omega)]

@[simp, grind =]
theorem length_slice (value : Bytes) (window : Window) :
    (value.slice window).length =
      min (window.last + 1 - window.first) (value.length - window.first) := by
  rw [Bytes.slice, List.length_take, List.length_drop]

@[simp]
theorem head?_slice (value : Bytes) (position : Nat) :
    (value.slice { first := position, last := position }).head? = value[position]? := by
  rw [List.head?_eq_getElem?, getElem?_slice]
  simp

theorem slice_clipped (value : Bytes) (window : Window) :
    value.slice { window with last := min window.last (value.length - 1) } =
      value.slice window := by
  apply List.ext_getElem?
  intro i
  simp only [getElem?_slice]
  by_cases stored : window.first + i < value.length
  · by_cases inside : window.first + i ≤ window.last
    · rw [if_pos inside, if_pos (by omega)]
    · rw [if_neg inside, if_neg (by omega)]
  · rw [List.getElem?_eq_none (by omega), ite_self, ite_self]

def write (value : Bytes) (offset : Nat) (data : Bytes) : Bytes :=
  (value.padTo (offset + data.length)).overwrite offset data

@[simp, grind =]
theorem length_write (value : Bytes) (offset : Nat) (data : Bytes) :
    (value.write offset data).length = max value.length (offset + data.length) := by
  have padded := length_padTo value (offset + data.length)
  rw [write, length_overwrite _ _ _ (by omega), padded]

@[grind =]
theorem getElem?_padTo (value : Bytes) (length position : Nat) :
    (value.padTo length)[position]? =
      if position < value.length then value[position]?
      else if position < length then some 0
      else none := by
  rw [padTo, List.getElem?_append]
  split
  · rfl
  · rename_i past
    rw [List.getElem?_replicate]
    by_cases inside : position < length
    · rw [if_pos inside, if_pos (by omega)]
    · rw [if_neg inside, if_neg (by omega)]

theorem padTo_of_le (value : Bytes) {length : Nat} (long : length ≤ value.length) :
    value.padTo length = value := by
  rw [padTo, Nat.sub_eq_zero_of_le long, List.replicate_zero, List.append_nil]

@[simp]
theorem padTo_padTo (value : Bytes) (length further : Nat) :
    (value.padTo length).padTo further = value.padTo (max length further) := by
  apply List.ext_getElem?
  intro position
  simp only [getElem?_padTo, length_padTo]
  grind

@[grind =]
theorem getElem?_write (value : Bytes) (offset : Nat) (data : Bytes) (position : Nat) :
    (value.write offset data)[position]? =
      if offset ≤ position ∧ position < offset + data.length then data[position - offset]?
      else if position < value.length then value[position]?
      else if position < offset then some 0
      else none := by
  have padded := length_padTo value (offset + data.length)
  have front : ((value.padTo (offset + data.length)).take offset).length = offset := by
    rw [List.length_take]
    omega
  rw [write, overwrite, List.append_assoc]
  by_cases early : position < offset
  · rw [List.getElem?_append_left (by omega), List.getElem?_take_of_lt early, getElem?_padTo,
      if_neg (by omega : ¬ (offset ≤ position ∧ position < offset + data.length)), if_pos early,
      if_pos (by omega : position < offset + data.length)]
  · rw [List.getElem?_append_right (by omega), front]
    by_cases inside : position < offset + data.length
    · rw [if_pos ⟨by omega, inside⟩, List.getElem?_append_left (by omega)]
    · have place : offset + data.length + (position - offset - data.length) = position := by omega
      rw [if_neg (fun within => inside within.2), List.getElem?_append_right (by omega),
        List.getElem?_drop, place, getElem?_padTo, if_neg inside, if_neg early]

theorem isPrefix_drop_write (value : Bytes) (offset : Nat) (data : Bytes) :
    data <+: (value.write offset data).drop offset := by
  rw [List.prefix_iff_getElem?]
  intro i inside
  rw [List.getElem?_drop, getElem?_write, if_pos (by omega), Nat.add_sub_cancel_left,
    List.getElem?_eq_getElem inside]

theorem write_append (value : Bytes) (offset : Nat) (data more : Bytes) :
    (value.write offset data).write (offset + data.length) more =
      value.write offset (data ++ more) := by
  apply List.ext_getElem?
  intro position
  simp only [getElem?_write, length_write, List.length_append, List.getElem?_append]
  by_cases first : offset ≤ position ∧ position < offset + data.length
  · grind
  · grind

/-- Writes to separate stretches can be made in either order. The zeros that the further one puts in
front of itself are there to be overwritten, or come to lie past what the nearer one wrote. -/
theorem write_comm (value : Bytes) (offset other : Nat) (data more : Bytes)
    (apart : offset + data.length ≤ other ∨ other + more.length ≤ offset) :
    (value.write offset data).write other more = (value.write other more).write offset data := by
  apply List.ext_getElem?
  intro position
  simp only [getElem?_write, length_write]
  grind

def spread (offset : Nat) : Bytes → List (Nat × UInt8)
  | [] => []
  | byte :: rest => (offset, byte) :: spread (offset + 1) rest

def putAll (value : Bytes) (pairs : List (Nat × UInt8)) : Bytes :=
  pairs.foldl (fun value pair => value.write pair.1 [pair.2]) value

theorem putAll_append (value : Bytes) (pairs more : List (Nat × UInt8)) :
    value.putAll (pairs ++ more) = (value.putAll pairs).putAll more :=
  List.foldl_append

theorem write_eq_putAll (value : Bytes) (offset : Nat) (data : Bytes) (nonempty : data ≠ []) :
    value.write offset data = value.putAll (spread offset data) := by
  induction data generalizing value offset with
  | nil => exact absurd rfl nonempty
  | cons byte rest shorter =>
    cases rest with
    | nil => rfl
    | cons next others =>
      have further := shorter (value.write offset [byte]) (offset + 1) (by simp)
      have joined := write_append value offset [byte] (next :: others)
      rw [List.singleton_append] at joined
      rw [← joined, List.length_singleton, further]
      rfl

theorem take_write (value : Bytes) (offset : Nat) (data : Bytes) (length : Nat)
    (inside : offset + data.length ≤ length) :
    (value.write offset data).take length = write (value.take length) offset data := by
  apply List.ext_getElem?
  intro position
  simp only [List.getElem?_take, getElem?_write, List.length_take]
  grind

theorem take_slice (value : Bytes) (window : Window) (length : Nat)
    (inside : window.last < length) : slice (value.take length) window = value.slice window := by
  apply List.ext_getElem?
  intro position
  simp only [getElem?_slice, List.getElem?_take]
  split
  · rw [if_pos (by omega)]
  · rfl

theorem write_append_left (array rest : Bytes) (position : Nat) (byte : UInt8)
    (inside : position < array.length) :
    write (array ++ rest) position [byte] = array.set position byte ++ rest := by
  apply List.ext_getElem?
  intro i
  simp only [getElem?_write, List.getElem?_append, List.length_append, List.length_set,
    List.length_singleton, List.getElem?_set]
  grind

end Bytes

end StoredArray
