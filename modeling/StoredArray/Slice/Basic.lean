import StoredArray.Error

namespace StoredArray

/-- Bounds before they meet a length. A negative bound counts from the end, a bound that is left out
is the end of the array the walk starts from or goes to, and a step that is left out is one. -/
structure Slice where
  start : Option Int64 := none
  stop : Option Int64 := none
  step : Option Int64 := none
  deriving DecidableEq

namespace Slice

def all : Slice := {}

def between (start stop : Int64) : Slice :=
  { start := some start, stop := some stop }

def onward (start : Int64) : Slice :=
  { start := some start }

def before (stop : Int64) : Slice :=
  { stop := some stop }

def withStep (slice : Slice) (step : Int64) : Slice :=
  { slice with step := some step }

def boundChars : Option Int64 → List Char
  | none => []
  | some bound => Decimal.integer bound.toInt

def chars (slice : Slice) : List Char :=
  boundChars slice.start ++ ':' :: boundChars slice.stop ++
    match slice.step with
    | none => []
    | some step => ':' :: Decimal.integer step.toInt

def text (slice : Slice) : String :=
  String.ofList slice.chars

end Slice

inductive Index where
  | byte (index : Int64)
  | slice (slice : Slice)
  deriving DecidableEq

namespace Index

def readBound (part : List Char) : Option (Option Int64) :=
  match Text.trim part with
  | [] => some none
  | digits => (Decimal.readWord digits).map some

def read (text : List Char) : Option Index :=
  match Text.parts ':' text with
  | [index] =>
    match readBound index with
    | some (some index) => some (.byte index)
    | _ => none
  | [start, stop] =>
    match readBound start, readBound stop with
    | some start, some stop => some (.slice { start, stop })
    | _, _ => none
  | [start, stop, step] =>
    match readBound start, readBound stop, readBound step with
    | some start, some stop, some step => some (.slice { start, stop, step })
    | _, _, _ => none
  | _ => none

/-- Reads an index. Whichever part is at fault, the error carries the whole text. -/
def parse (text : String) : Except Error Index :=
  match read text.toList with
  | some index => .ok index
  | none => .error (.unreadable text)

end Index

end StoredArray
