import Std.Data.ExtTreeMap
import StoredArray.Slice.Span
import StoredArray.Store.Call

namespace StoredArray

def Window.clip (window : Window) (length : Nat) : Option Window :=
  if window.first ≤ window.last ∧ window.first < length then
    some { first := window.first, last := min window.last (length - 1) }
  else none

def Bytes.slice (value : Bytes) (window : Window) : Bytes :=
  (value.drop window.first).take (window.last + 1 - window.first)

namespace Word

def ofNat? (n : Nat) : Option UInt64 :=
  if n < 0x10000000000000000 then some (UInt64.ofNat n) else none

def add? (a b : UInt64) : Option UInt64 :=
  if a + b < a then none else some (a + b)

end Word

structure Memory where
  values : Std.ExtTreeMap String Bytes

namespace Memory

def maxValueLength : Nat := 512 * 1024 * 1024

def tooLong : StoreError where
  text := "String exceeds maximum allowed size."
  causes := []

def empty : Memory where
  values := ∅

def get (memory : Memory) (key : String) : Option Bytes :=
  memory.values[key]?

def insert (memory : Memory) (key : String) (value : Bytes) : Memory where
  values := memory.values.insert key value

def set (memory : Memory) (key : String) (data : Bytes) : Except StoreError Unit × Memory :=
  if data.length ≤ maxValueLength then (.ok (), memory.insert key data)
  else (.error tooLong, memory)

def getRange (memory : Memory) (key : String) (first last : Nat) : Bytes :=
  match memory.get key with
  | none => []
  | some value =>
    match Window.clip { first, last } value.length with
    | none => []
    | some window => value.slice window

/-- Where a write of some bytes ends, unless that is past the limit or past what a word can tell. -/
def writeEnd (offset count : Nat) : Option UInt64 :=
  let stop := do Word.add? (← Word.ofNat? offset) (← Word.ofNat? count)
  stop.filter fun stop => stop.toNat ≤ maxValueLength

/-- Writes bytes from a position on, after padding the value with zeros up to the end of the write.
Writing no bytes does nothing at all. -/
def setRange (memory : Memory) (key : String) (offset : Nat) (data : Bytes) :
    Except StoreError Unit × Memory :=
  if data = [] then (.ok (), memory)
  else
    match writeEnd offset data.length with
    | none => (.error tooLong, memory)
    | some stop =>
      let value := (memory.get key).getD []
      (.ok (), memory.insert key ((value.padTo stop.toNat).overwrite offset data))

def remove (memory : Memory) (key : String) : Option Bytes × Memory :=
  (memory.get key, { values := memory.values.erase key })

def size (memory : Memory) : Nat :=
  memory.values.size

def isEmpty (memory : Memory) : Bool :=
  memory.values.isEmpty

def store : Store Memory where
  serve
    | .get key, memory => (.ok (memory.get key), memory)
    | .set key data, memory => memory.set key data
    | .getRange key first last, memory => (.ok (memory.getRange key first last), memory)
    | .setRange key offset data, memory => memory.setRange key offset data

@[ext]
theorem ext {memory other : Memory} (same : ∀ key, memory.get key = other.get key) :
    memory = other := by
  obtain ⟨values⟩ := memory
  obtain ⟨others⟩ := other
  exact congrArg mk (Std.ExtTreeMap.ext_getElem? same)

@[simp]
theorem get_empty (key : String) : empty.get key = none := by
  simp [empty, get]

@[simp, grind =]
theorem get_insert (memory : Memory) (key other : String) (value : Bytes) :
    (memory.insert key value).get other = if key = other then some value else memory.get other := by
  simp [insert, get, Std.ExtTreeMap.getElem?_insert]

@[simp, grind =]
theorem get_remove (memory : Memory) (key other : String) :
    (memory.remove key).2.get other = if key = other then none else memory.get other := by
  simp [remove, get, Std.ExtTreeMap.getElem?_erase]

end Memory

end StoredArray
