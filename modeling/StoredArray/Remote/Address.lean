import StoredArray.Remote.Url

namespace StoredArray.Remote

inductive Endpoint where
  | host
  | socket (name : Bytes)
  deriving DecidableEq

inductive AddressError where
  | unparsed
  | missingHost
  | encrypted
  | missingPath
  | badDatabase
  | badUser
  | badPassword
  deriving DecidableEq

def AddressError.text : AddressError → String
  | unparsed => "Redis URL did not parse- InvalidClientConfig"
  | missingHost => "Missing hostname- InvalidClientConfig"
  | encrypted => "can't connect with TLS, the feature is not enabled- InvalidClientConfig"
  | missingPath => "Missing path- InvalidClientConfig"
  | badDatabase => "Invalid database number- InvalidClientConfig"
  | badUser => "Username is not valid UTF-8 string- InvalidClientConfig"
  | badPassword => "Password is not valid UTF-8 string- InvalidClientConfig"

namespace Url

def hostEndpoint (url : Url) : Except AddressError Endpoint :=
  match url.authority with
  | none => .error .missingHost
  | some authority =>
    if authority.host = [] then .error .missingHost
    else if url.scheme = "rediss".toList then .error .encrypted
    else if url.trimmedPath ≠ [] ∧ Decimal.readWord url.trimmedPath = none then .error .badDatabase
    else if !decodesToText authority.user then .error .badUser
    else if !decodesToText (authority.password.getD []) then .error .badPassword
    else .ok .host

/-- The endpoint of a server behind a socket: the path names the socket, which is on this machine,
and the last `db` of the query names the database. -/
def socketEndpoint (url : Url) : Except AddressError Endpoint :=
  let host := (url.authority.map Authority.host).getD []
  let databases := (queryPairs url.query).filter fun pair => pair.1 = "db".toUTF8.toList
  match url.fileName with
  | none => .error .missingPath
  | some name =>
    if host ≠ [] ∧ host ≠ "localhost".toList then .error .missingPath
    else match databases.getLast? with
      | none => .ok (.socket name)
      | some (_, number) =>
        match Decimal.readWord (number.map fun byte => Char.ofNat byte.toNat) with
        | some _ => .ok (.socket name)
        | none => .error .badDatabase

end Url

def readAddress (text : String) : Except AddressError Endpoint :=
  match Url.parse text with
  | none => .error .unparsed
  | some url =>
    if url.scheme = "redis".toList ∨ url.scheme = "rediss".toList then url.hostEndpoint
    else if url.scheme = "unix".toList ∨ url.scheme = "redis+unix".toList then url.socketEndpoint
    else .error .unparsed

end StoredArray.Remote
