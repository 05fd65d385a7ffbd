import StoredArray.Store.Action

namespace StoredArray

/-- There is never room for more bytes than a signed word can count. -/
structure Allocator where
  grants : Nat → Bool
  lt_of_grants : ∀ length, grants length = true → length < 0x8000000000000000

namespace Allocator

def below (limit : Nat) (bound : limit ≤ 0x8000000000000000) : Allocator where
  grants length := length < limit
  lt_of_grants length granted := by
    have small : length < limit := by simpa using granted
    omega

def machine : Allocator :=
  below 0x1000000000000 (by decide)

end Allocator

inductive Value where
  | byte (byte : UInt8)
  | bytes (bytes : Bytes)
  deriving DecidableEq

/-- An array of `length` bytes kept at the front of the value at `key`. -/
structure View where
  key : String
  length : Nat
  deriving DecidableEq

namespace Span

def pick (span : Span) (window : Bytes) : Bytes :=
  everyNth span.stride (if 0 < span.step then window else window.reverse)

/-- The range writes that put one byte at each selected index: a single one where the indices are
neighbours, and otherwise one for each byte, lowest index first. -/
def writes (span : Span) (lowest : Nat) (values : Bytes) : List (Nat × Bytes) :=
  if span.step = 1 then [(lowest, values)]
  else if span.step = -1 then [(lowest, values.reverse)]
  else
    let single := List.zipWith (fun index value => (index, [value])) span.indices values
    if span.step < 0 then single.reverse else single

end Span

namespace View

def defaultLength : Nat := 4096

/-- The value that has to grow before it holds `length` bytes, if it does not hold them yet. A key
that is absent has to be created even for no bytes. -/
def shortValue (length : Nat) : Option Bytes → Option Bytes
  | none => some []
  | some value => if value.length < length then some value else none

def openAt (allocator : Allocator) (key : String) (length : Nat) : Action View := do
  let current ← Action.request (.get key)
  match shortValue length current with
  | none => return { key, length }
  | some value =>
    Action.note (.padding key value.length length)
    if allocator.grants length then
      Action.request (.set key (value.padTo length))
      return { key, length }
    else
      Action.fail (.lengthTooLarge length)

def locate (view : View) (index : Int64) : Except Error Nat :=
  let position := if index < 0 then index.toInt + view.length else index.toInt
  if 0 ≤ position ∧ position < view.length then .ok position.toNat
  else .error (.indexOutOfRange index view.length)

def get (view : View) (index : Int64) : Action UInt8 := do
  let position ← Action.done (view.locate index)
  Action.note (.getByte view.key position)
  let bytes ← Action.request (.getRange view.key position position)
  return bytes.headD 0

def getSlice (view : View) (slice : Slice) : Action Bytes := do
  let span ← Action.done (slice.resolve view.length)
  match span.window with
  | none => return []
  | some window =>
    Action.note (.getSlice view.key slice window)
    let bytes ← Action.request (.getRange view.key window.first window.last)
    return span.pick bytes

def set (view : View) (index : Int64) (value : Bytes) : Action Unit := do
  let position ← Action.done (view.locate index)
  if value.length = 1 then
    Action.note (.setByte view.key position)
    Action.request (.setRange view.key position value)
  else
    Action.fail (.invalidValue value.length)

/-- Writes one byte to each index that a slice selects. A failure part way leaves the bytes at lower
indices written. -/
def setSlice (view : View) (slice : Slice) (values : Bytes) : Action Unit := do
  let span ← Action.done (slice.resolve view.length)
  if values.length = span.length then
    match span.lowest with
    | none => return ()
    | some lowest =>
      Action.note (.setSlice view.key slice)
      Action.writeAll view.key (span.writes lowest values)
  else
    Action.fail (.lengthMismatch span.length values.length)

def read (view : View) : Index → Action Value
  | .byte index => return .byte (← view.get index)
  | .slice slice => return .bytes (← view.getSlice slice)

def write (view : View) (index : Index) (values : Bytes) : Action Unit :=
  match index with
  | .byte index => view.set index values
  | .slice slice => view.setSlice slice values

def toBytes (view : View) : Action Bytes :=
  view.getSlice .all

def copyFrom (view : View) (values : Bytes) : Action Unit :=
  view.setSlice .all values

def isEmpty (view : View) : Bool :=
  view.length = 0

def text (view : View) : String :=
  "ByteArrayView(key=" ++ view.key ++ ", length=" ++ Decimal.text view.length ++ ")"

end View

inductive Operation where
  | get (index : Int64)
  | set (index : Int64) (value : Bytes)
  | getSlice (slice : Slice)
  | setSlice (slice : Slice) (values : Bytes)
  | read (index : Index)
  | write (index : Index) (values : Bytes)
  | toBytes
  | copyFrom (values : Bytes)

def View.perform (view : View) : Operation → Action (Option Value)
  | .get index => return some (.byte (← view.get index))
  | .set index value => do view.set index value; return none
  | .getSlice slice => return some (.bytes (← view.getSlice slice))
  | .setSlice slice values => do view.setSlice slice values; return none
  | .read index => return some (← view.read index)
  | .write index values => do view.write index values; return none
  | .toBytes => return some (.bytes (← view.toBytes))
  | .copyFrom values => do view.copyFrom values; return none

end StoredArray
