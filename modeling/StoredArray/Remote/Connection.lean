import StoredArray.Remote.Address
import StoredArray.Store.Action

namespace StoredArray.Remote

def defaultUrl : String := "redis://127.0.0.1/"

def urlVariable : String := "REDIS_URL"

inductive ConnectError where
  | invalidUrl (url : String) (reason : AddressError)
  | unreachable (url : String) (reasons : List String)
  deriving DecidableEq

namespace ConnectError

def message : ConnectError → String
  | invalidUrl url _ => "Invalid redis url " ++ url ++ "."
  | unreachable url _ => "Could not connect to " ++ url ++ "."

def causes : ConnectError → List String
  | invalidUrl _ reason => [reason.text]
  | unreachable _ reasons => reasons

end ConnectError

/-- A network tells for each endpoint why no server is reached there, if none is. -/
abbrev Network := Endpoint → Except (List String) Unit

inductive SocketError where
  | zeroByte
  | longName
  | noFile
  deriving DecidableEq

def SocketError.text : SocketError → String
  | zeroByte => "Invalid argument (os error 22)"
  | longName => "File name too long (os error 36)"
  | noFile => "No such file or directory (os error 2)"

def maxSocketName : Nat := 108

/-- Why a socket that does not exist is not reached: its name is looked at before its file is looked
for. -/
def SocketError.ofName (name : Bytes) : SocketError :=
  if name.contains 0 then .zeroByte
  else if maxSocketName < name.length then .longName
  else .noFile

def deserted : Network
  | .host => .error []
  | .socket name => .error [(SocketError.ofName name).text]

def connect (network : Network) (url : String) : Except ConnectError Record :=
  match readAddress url with
  | .error reason => .error (.invalidUrl url reason)
  | .ok endpoint =>
    match network endpoint with
    | .error reasons => .error (.unreachable url reasons)
    | .ok _ => .ok (.connected url)

def connectFromEnvironment (network : Network) (url : Option String) :
    Except ConnectError Record :=
  connect network (url.getD defaultUrl)

end StoredArray.Remote
