import StoredArray.Slice.Basic

namespace StoredArray

structure Window where
  first : Nat
  last : Nat
  deriving DecidableEq

structure Span where
  start : Int64
  /-- The first index not reached; minus one for a backward walk down to index zero. -/
  stop : Int64
  step : Int64
  size : UInt64
  deriving DecidableEq

namespace Slice

def extent (length : Nat) : Int64 :=
  Int64.ofNat (min length 0x7fffffffffffffff)

/-- Places a bound: left out it is `default`, negative it counts from the end and stays at or above
`lower`, and otherwise it stays at or below `upper`. -/
def place (extent lower upper default : Int64) : Option Int64 → Int64
  | none => default
  | some bound => if bound < 0 then max (bound + extent) lower else min bound upper

def countSteps (start stop step : Int64) : UInt64 :=
  if 0 < step ∧ start < stop then (stop - start - 1).toUInt64 / step.toUInt64 + 1
  else if step < 0 ∧ stop < start then (start - stop - 1).toUInt64 / step.abs.toUInt64 + 1
  else 0

/-- The span of a slice with this step in an array of this extent. A backward walk may start at the
last index and may end before the first. -/
def span (slice : Slice) (step extent : Int64) : Span :=
  if step < 0 then
    let start := place extent (-1) (extent - 1) (extent - 1) slice.start
    let stop := place extent (-1) (extent - 1) (-1) slice.stop
    { start, stop, step, size := countSteps start stop step }
  else
    let start := place extent 0 extent 0 slice.start
    let stop := place extent 0 extent extent slice.stop
    { start, stop, step, size := countSteps start stop step }

def resolve (slice : Slice) (length : Nat) : Except Error Span :=
  let step := slice.step.getD 1
  if step = 0 then .error .zeroStep else .ok (slice.span step (extent length))

end Slice

namespace Span

def length (span : Span) : Nat :=
  span.size.toNat

def index (span : Span) (i : Nat) : Nat :=
  (span.start + Int64.ofNat i * span.step).toUInt64.toNat

def take (span : Span) (count : Nat) : List Nat :=
  (List.range (min count span.length)).map span.index

def indices (span : Span) : List Nat :=
  (List.range span.length).map span.index

def lowest (span : Span) : Option Nat :=
  if span.size = 0 then none
  else if 0 < span.step then some span.start.toUInt64.toNat
  else some (span.start + (span.size.toInt64 - 1) * span.step).toUInt64.toNat

def window (span : Span) : Option Window :=
  if span.size = 0 then none
  else if 0 < span.step then
    some { first := span.start.toUInt64.toNat, last := (span.stop - 1).toUInt64.toNat }
  else some { first := (span.stop + 1).toUInt64.toNat, last := span.start.toUInt64.toNat }

def stride (span : Span) : Nat :=
  span.step.abs.toUInt64.toNat

theorem take_eq_take_indices (span : Span) (count : Nat) :
    span.take count = span.indices.take count := by
  rw [take, indices, ← List.map_take, List.take_range]

end Span

end StoredArray
