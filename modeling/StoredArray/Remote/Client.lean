import StoredArray.Store.Call

namespace StoredArray.Remote

inductive Command where
  | get (key : String)
  | set (key : String) (data : Bytes)
  | getRange (key : String) (first last : Nat)
  | setRange (key : String) (offset : Nat) (data : Bytes)
  | delete (key : String)
  deriving DecidableEq

inductive Argument where
  | text (text : String)
  | number (number : Nat)
  | data (data : Bytes)

namespace Command

def name : Command → String
  | get .. => "GET"
  | set .. => "SET"
  | getRange .. => "GETRANGE"
  | setRange .. => "SETRANGE"
  | delete .. => "DEL"

def arguments : Command → List Argument
  | get key => [.text key]
  | set key data => [.text key, .data data]
  | getRange key first last => [.text key, .number first, .number last]
  | setRange key offset data => [.text key, .number offset, .data data]
  | delete key => [.text key]

end Command

inductive Reply where
  | bulk (data : Bytes)
  | absent
  | integer (value : Int64)
  | status (text : String)
  | error (text : String)
  deriving DecidableEq

def knownCodes : List (String × String) :=
  [("ERR", "ResponseError"), ("EXECABORT", "ExecAbortError"), ("LOADING", "BusyLoadingError"),
   ("NOSCRIPT", "NoScriptError"), ("MOVED", "Moved"), ("ASK", "Ask"), ("TRYAGAIN", "TryAgain"),
   ("CLUSTERDOWN", "ClusterDown"), ("CROSSSLOT", "CrossSlot"), ("MASTERDOWN", "MasterDown"),
   ("READONLY", "ReadOnly"), ("NOTBUSY", "NotBusy")]

/-- How an error reply is reported. Its text is a code and, after the first space, a detail. -/
def serverError (text : String) : StoreError :=
  let code := String.ofList (text.toList.takeWhile (· ≠ ' '))
  let detail :=
    match text.toList.dropWhile (· ≠ ' ') with
    | [] => none
    | _ :: rest => some (String.ofList rest)
  let report :=
    match knownCodes.lookup code, detail with
    | some kind, some detail => "An error was signalled by the server - " ++ kind ++ ": " ++ detail
    | some kind, none => "An error was signalled by the server- " ++ kind
    | none, some detail => code ++ ": " ++ detail
    | none, none => code ++ ": Unknown extension error encountered"
  { text := report, causes := [] }

def decodeText (data : Bytes) : Option String :=
  String.fromUTF8? ⟨data.toArray⟩

namespace Reply

def describe : Reply → String
  | bulk data =>
    match decodeText data with
    | some text => "string-data('" ++ Text.quote text ++ "')"
    | none =>
      let numbers := data.map fun byte => Decimal.text byte.toNat
      "binary-data([" ++ String.intercalate ", " numbers ++ "])"
  | absent => "nil"
  | integer value => "int(" ++ Decimal.word value ++ ")"
  | status text => if text = "OK" then "ok" else "status(" ++ Text.quote text ++ ")"
  | error text => "error(" ++ Text.quote text ++ ")"

def mismatch (reply : Reply) (why : String) : StoreError where
  text := "Response was of incompatible type - TypeError: " ++ Text.quote why ++
    " (response was " ++ reply.describe ++ ")"
  causes := []

def asValue : Reply → Except StoreError (Option Bytes)
  | bulk data => .ok (some data)
  | absent => .ok none
  | error text => .error (serverError text)
  | reply => .error (reply.mismatch "Response type not vector compatible.")

def asBytes (reply : Reply) : Except StoreError Bytes :=
  match reply.asValue with
  | .ok value => .ok (value.getD [])
  | .error failure => .error failure

def asDone : Reply → Except StoreError Unit
  | error text => .error (serverError text)
  | _ => .ok ()

def asNumber : Reply → Except StoreError Int64
  | integer value => .ok value
  | error text => .error (serverError text)
  | absent => .error (absent.mismatch "Response type not convertible to numeric.")
  | status text =>
    if text = "OK" then .error ((status text).mismatch "Response type not convertible to numeric.")
    else match Decimal.readWord text.toList with
      | some value => .ok value
      | none => .error ((status text).mismatch "Could not convert from string.")
  | bulk data =>
    match decodeText data with
    | none => .error { text := "Invalid UTF-8- TypeError", causes := [] }
    | some text =>
      match Decimal.readWord text.toList with
      | some value => .ok value
      | none => .error ((bulk data).mismatch "Could not convert from string.")

end Reply

/-- How a client understands replies. A bulk reply is bytes and nothing else is, a nil reply is
nothing, a status is a success, an integer a number, and an error an error. -/
structure Client where
  asValue : Reply → Except StoreError (Option Bytes)
  asBytes : Reply → Except StoreError Bytes
  asDone : Reply → Except StoreError Unit
  asNumber : Reply → Except StoreError Int64
  asValue_bulk : ∀ data, asValue (.bulk data) = .ok (some data)
  asValue_absent : asValue .absent = .ok none
  bulk_of_asValue : ∀ reply data, asValue reply = .ok (some data) → reply = .bulk data
  asBytes_bulk : ∀ data, asBytes (.bulk data) = .ok data
  asDone_status : ∀ text, asDone (.status text) = .ok ()
  asDone_error : ∀ text, ∃ cause, asDone (.error text) = .error cause
  asNumber_integer : ∀ value, asNumber (.integer value) = .ok value
  asNumber_error : ∀ text, ∃ cause, asNumber (.error text) = .error cause

def positionTooLarge : StoreError where
  text := "number too large to fit in target type"
  causes := []

inductive Plan (α : Type) where
  | answer (result : Except StoreError α)
  | send (command : Command) (understand : Reply → Except StoreError α)

namespace Client

/-- The plan for a call. A server counts negative positions from the end, so an inverted window is
answered here, and a position past the largest signed word is refused here. -/
def plan (client : Client) : (call : Call) → Plan call.Reply
  | .get key => .send (.get key) client.asValue
  | .set key data => .send (.set key data) client.asDone
  | .getRange key first last =>
    if last < first then .answer (.ok [])
    else if last < 0x8000000000000000 then .send (.getRange key first last) client.asBytes
    else .answer (.error positionTooLarge)
  | .setRange key offset data =>
    if offset < 0x8000000000000000 then
      .send (.setRange key offset data) fun reply => (client.asNumber reply).map fun _ => ()
    else .answer (.error positionTooLarge)

def standard : Client where
  asValue := Reply.asValue
  asBytes := Reply.asBytes
  asDone := Reply.asDone
  asNumber := Reply.asNumber
  asValue_bulk _ := rfl
  asValue_absent := rfl
  bulk_of_asValue reply data understood := by
    cases reply with
    | bulk other =>
      cases understood
      rfl
    | absent | integer | status | error => cases understood
  asBytes_bulk _ := rfl
  asDone_status _ := rfl
  asDone_error text := ⟨serverError text, rfl⟩
  asNumber_integer _ := rfl
  asNumber_error text := ⟨serverError text, rfl⟩

end Client

end StoredArray.Remote
