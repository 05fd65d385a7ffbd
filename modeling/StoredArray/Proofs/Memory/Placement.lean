import Mathlib.Data.List.GetD
import Mathlib.Data.List.Nodup
import StoredArray.Proofs.Memory.Ranges

namespace StoredArray

namespace Bytes

theorem putAll_cons (value : Bytes) (pair : Nat × UInt8) (rest : List (Nat × UInt8)) :
    value.putAll (pair :: rest) = (value.write pair.1 [pair.2]).putAll rest := rfl

theorem putAll_perm {pairs others : List (Nat × UInt8)} (perm : pairs.Perm others)
    (nodup : (pairs.map Prod.fst).Nodup) (value : Bytes) :
    value.putAll pairs = value.putAll others := by
  apply perm.foldl_eq'
  intro first here second there value
  by_cases same : first.1 = second.1
  · rw [List.inj_on_of_nodup_map nodup here there same]
  · apply write_comm
    simp only [List.length_singleton]
    omega

theorem lt_length_putAll_iff (value : Bytes) (pairs : List (Nat × UInt8)) (position : Nat) :
    position < (value.putAll pairs).length ↔
      position < value.length ∨ ∃ pair ∈ pairs, position ≤ pair.1 := by
  induction pairs generalizing value with
  | nil => simp [putAll]
  | cons pair rest shorter =>
    have reach : position < (value.write pair.1 [pair.2]).length ↔
        position < value.length ∨ position ≤ pair.1 := by
      rw [length_write, List.length_singleton]
      omega
    simp only [putAll_cons, shorter, reach, List.exists_mem_cons_iff, or_assoc]

theorem getD_write_of_ne (value : Bytes) {place position : Nat} (byte : UInt8)
    (other : position ≠ place) :
    (value.write place [byte]).getD position 0 = value.getD position 0 := by
  simp only [List.getD_eq_getElem?_getD, getElem?_write, List.length_singleton]
  grind

theorem getD_putAll_of_not_mem (value : Bytes) {pairs : List (Nat × UInt8)} {position : Nat}
    (unplaced : position ∉ pairs.map Prod.fst) :
    (value.putAll pairs).getD position 0 = value.getD position 0 := by
  induction pairs generalizing value with
  | nil => rfl
  | cons pair rest shorter =>
    rw [List.map_cons, List.mem_cons, not_or] at unplaced
    rw [putAll_cons, shorter _ unplaced.2, getD_write_of_ne value pair.2 unplaced.1]

theorem getElem?_putAll_of_mem (value : Bytes) {pairs : List (Nat × UInt8)}
    (nodup : (pairs.map Prod.fst).Nodup) {pair : Nat × UInt8} (member : pair ∈ pairs) :
    (value.putAll pairs)[pair.1]? = some pair.2 := by
  induction pairs generalizing value with
  | nil => cases member
  | cons first rest shorter =>
    rw [List.map_cons, List.nodup_cons] at nodup
    rcases List.mem_cons.mp member with rfl | later
    · -- No later byte goes to the same position.
      have kept := getD_putAll_of_not_mem (value.write pair.1 [pair.2]) nodup.1
      have reach := (lt_length_putAll_iff value (pair :: rest) pair.1).mpr
        (.inr ⟨pair, List.mem_cons_self, Nat.le_refl _⟩)
      rw [List.getElem?_eq_getElem reach, ← List.getD_eq_getElem _ 0 reach, putAll_cons, kept,
        List.getD_eq_getElem?_getD, getElem?_write]
      simp
    · exact shorter _ nodup.2 later

theorem getElem?_putAll_of_not_mem (value : Bytes) {pairs : List (Nat × UInt8)} {position : Nat}
    (unplaced : position ∉ pairs.map Prod.fst) (inside : position < (value.putAll pairs).length) :
    (value.putAll pairs)[position]? = some (value.getD position 0) := by
  rw [List.getElem?_eq_getElem inside, ← getD_putAll_of_not_mem value unplaced,
    List.getD_eq_getElem _ 0 inside]

theorem length_putAll (value : Bytes) {pairs : List (Nat × UInt8)} {highest : Nat}
    (found : (pairs.map Prod.fst).max? = some highest) :
    (value.putAll pairs).length = max value.length (highest + 1) := by
  obtain ⟨member, most⟩ := List.max?_eq_some_iff.mp found
  obtain ⟨last, put, rfl⟩ := List.mem_map.mp member
  have reach (position : Nat) : position < (value.putAll pairs).length ↔
      position < value.length ∨ position ≤ last.1 := by
    rw [lt_length_putAll_iff]
    constructor
    · rintro (old | ⟨pair, here, below⟩)
      · exact .inl old
      · exact .inr (Nat.le_trans below (most pair.1 (List.mem_map_of_mem here)))
    · rintro (old | below)
      · exact .inl old
      · exact .inr ⟨last, put, below⟩
  have inner := reach (max value.length (last.1 + 1) - 1)
  have outer := reach (max value.length (last.1 + 1))
  omega

end Bytes

namespace Memory

/-- The memory with bytes put at positions of the value at a key. To put none leaves even an absent
key as it is. -/
def place (memory : Memory) (key : String) (pairs : List (Nat × UInt8)) : Memory :=
  if pairs = [] then memory else memory.insert key ((memory.bytes key).putAll pairs)

@[simp]
theorem place_nil (memory : Memory) (key : String) : memory.place key [] = memory :=
  if_pos rfl

@[simp]
theorem bytes_place (memory : Memory) (key : String) (pairs : List (Nat × UInt8)) :
    (memory.place key pairs).bytes key = (memory.bytes key).putAll pairs := by
  unfold place
  split
  · simp_all [Bytes.putAll]
  · simp

theorem get_place_of_ne (memory : Memory) {key other : String} (pairs : List (Nat × UInt8))
    (different : other ≠ key) : (memory.place key pairs).get other = memory.get other := by
  unfold place
  split
  · rfl
  · simp [Ne.symm different]

theorem get_place_eq_none_iff (memory : Memory) (key : String) (pairs : List (Nat × UInt8)) :
    (memory.place key pairs).get key = none ↔ memory.get key = none ∧ pairs = [] := by
  unfold place
  split <;> simp_all

theorem place_append (memory : Memory) (key : String) (pairs more : List (Nat × UInt8)) :
    (memory.place key pairs).place key more = memory.place key (pairs ++ more) := by
  by_cases first : pairs = []
  · simp [first]
  · by_cases second : more = []
    · simp [second]
    · rw [place, if_neg second, bytes_place]
      simp only [place, first, List.append_eq_nil_iff, false_and, if_false, insert_insert,
        Bytes.putAll_append]

theorem place_perm {pairs others : List (Nat × UInt8)} (perm : pairs.Perm others)
    (nodup : (pairs.map Prod.fst).Nodup) (memory : Memory) (key : String) :
    memory.place key pairs = memory.place key others := by
  have none_iff : pairs = [] ↔ others = [] := by
    rw [← List.length_eq_zero_iff, ← List.length_eq_zero_iff, perm.length_eq]
  simp only [place, none_iff, Bytes.putAll_perm perm nodup]

theorem setRange_eq_place (memory : Memory) (key : String) (offset : Nat) (data : Bytes)
    (nonempty : data ≠ []) (fits : offset + data.length ≤ maxValueLength) :
    memory.setRange key offset data = (.ok (), memory.place key (Bytes.spread offset data)) := by
  have some_pair : Bytes.spread offset data ≠ [] := by
    cases data with
    | nil => exact absurd rfl nonempty
    | cons byte rest => exact List.cons_ne_nil _ _
  rw [setRange_eq_insert memory key offset data nonempty fits, place, if_neg some_pair,
    Bytes.write_eq_putAll _ _ _ nonempty]

/-- What a memory has become once bytes were put at positions of the value at a key, and nothing
else was done: the value ends after the furthest of them, or where it ended before, and holds zeros
where it had to grow between them. -/
structure Receives (memory : Memory) (key : String) (pairs : List (Nat × UInt8))
    (after : Memory) : Prop where
  put : ∀ pair ∈ pairs, (after.bytes key)[pair.1]? = some pair.2
  kept : ∀ position < (memory.bytes key).length, position ∉ pairs.map Prod.fst →
    (after.bytes key)[position]? = (memory.bytes key)[position]?
  filled : ∀ position, (memory.bytes key).length ≤ position →
    position < (after.bytes key).length → position ∉ pairs.map Prod.fst →
      (after.bytes key)[position]? = some 0
  length_eq : ∀ highest, (pairs.map Prod.fst).max? = some highest →
    (after.bytes key).length = max (memory.bytes key).length (highest + 1)
  unchanged : pairs = [] → after = memory
  others : ∀ other, other ≠ key → after.get other = memory.get other

theorem place_receives (memory : Memory) (key : String) {pairs : List (Nat × UInt8)}
    (nodup : (pairs.map Prod.fst).Nodup) : memory.Receives key pairs (memory.place key pairs) := by
  have value := memory.bytes_place key pairs
  constructor
  case put =>
    intro pair member
    rw [value]
    exact Bytes.getElem?_putAll_of_mem _ nodup member
  case kept =>
    intro position old unplaced
    have inside := (Bytes.lt_length_putAll_iff _ pairs position).mpr (.inl old)
    rw [value, Bytes.getElem?_putAll_of_not_mem _ unplaced inside, List.getElem?_eq_getElem old,
      List.getD_eq_getElem _ 0 old]
  case filled =>
    intro position past inside unplaced
    rw [value] at inside ⊢
    rw [Bytes.getElem?_putAll_of_not_mem _ unplaced inside, List.getD_eq_default _ 0 past]
  case length_eq =>
    intro highest found
    rw [value]
    exact Bytes.length_putAll _ found
  case unchanged =>
    rintro rfl
    exact memory.place_nil key
  case others =>
    intro other different
    exact memory.get_place_of_ne pairs different

def setSingly (memory : Memory) (key : String) :
    List (Nat × UInt8) → Except StoreError Unit × Memory
  | [] => (.ok (), memory)
  | pair :: rest =>
    match memory.setRange key pair.1 [pair.2] with
    | (.ok (), after) => after.setSingly key rest
    | (.error cause, after) => (.error cause, after)

theorem setSingly_eq_place (memory : Memory) (key : String) {pairs : List (Nat × UInt8)}
    (fits : ∀ pair ∈ pairs, pair.1 < maxValueLength) :
    memory.setSingly key pairs = (.ok (), memory.place key pairs) := by
  induction pairs generalizing memory with
  | nil => simp [setSingly]
  | cons pair rest shorter =>
    obtain ⟨first, others⟩ := List.forall_mem_cons.mp fits
    have written := memory.setRange_eq_place key pair.1 [pair.2] (List.cons_ne_nil _ _) first
    simp only [setSingly, written]
    rw [shorter _ others, place_append]
    rfl

end Memory

end StoredArray
