import StoredArray.Store.Call
import StoredArray.Text.Decimal

namespace StoredArray.Remote

def cutBefore (stop : Char → Bool) (text : List Char) : List Char × List Char :=
  (text.takeWhile fun c => !stop c, text.dropWhile fun c => !stop c)

/-- Control characters and blanks around a URL do not count, nor do tabs and line ends inside. -/
def strip (text : List Char) : List Char :=
  let around := fun c : Char => c.toNat ≤ 0x20
  let inner := ((text.dropWhile around).reverse.dropWhile around).reverse
  inner.filter fun c => !(c = '\t' ∨ c = '\n' ∨ c = '\r')

def readScheme (text : List Char) : Option (List Char × List Char) :=
  match cutBefore (fun c => !(c.isAlphanum || c = '+' || c = '-' || c = '.')) text with
  | (c :: name, ':' :: rest) =>
    if c.isAlpha then some ((c :: name).map Char.toLower, rest) else none
  | _ => none

def hexDigit (c : Char) : Option Nat :=
  if c.isDigit then some (c.toNat - '0'.toNat)
  else if 'a' ≤ c ∧ c ≤ 'f' then some (c.toNat - 'a'.toNat + 10)
  else if 'A' ≤ c ∧ c ≤ 'F' then some (c.toNat - 'A'.toNat + 10)
  else none

def percentDecode : List Char → Bytes
  | '%' :: high :: low :: rest =>
    match hexDigit high, hexDigit low with
    | some a, some b => UInt8.ofNat (16 * a + b) :: percentDecode rest
    | _, _ => 0x25 :: percentDecode (high :: low :: rest)
  | c :: rest => (String.singleton c).toUTF8.toList ++ percentDecode rest
  | [] => []

def decodesToText (text : List Char) : Bool :=
  (String.fromUTF8? ⟨(percentDecode text).toArray⟩).isSome

def queryPairs (query : List Char) : List (Bytes × Bytes) :=
  let decode := fun text : List Char => percentDecode (text.map fun c => if c = '+' then ' ' else c)
  ((Text.parts '&' query).filter (· ≠ [])).map fun pair =>
    let (name, value) := cutBefore (· = '=') pair
    (decode name, decode (value.drop 1))

def isDotted (text : List Char) : Bool :=
  let fields := Text.parts '.' text
  fields.length = 4 && fields.all fun field =>
    match Decimal.readNatural field with
    | some n => n ≤ 255 && (field.length = 1 || field.head? ≠ some '0')
    | none => false

def isGroup (field : List Char) : Bool :=
  field ≠ [] && field.length ≤ 4 && field.all fun c => (hexDigit c).isSome

def countGroups (mayEndDotted : Bool) : List (List Char) → Option Nat
  | [] => some 0
  | [last] =>
    if isGroup last then some 1
    else if mayEndDotted && isDotted last then some 2
    else none
  | field :: rest => if isGroup field then (countGroups mayEndDotted rest).map (· + 1) else none

def groupsOf (mayEndDotted : Bool) (text : List Char) : Option Nat :=
  if text = [] then some 0 else countGroups mayEndDotted (Text.parts ':' text)

def cutPair : List Char → Option (List Char × List Char)
  | ':' :: ':' :: rest => some ([], rest)
  | c :: rest => (cutPair rest).map fun cut => (c :: cut.1, cut.2)
  | [] => none

/-- Whether a text is an address of eight groups, of which one run of zeros may be left out. -/
def isNumericHost (text : List Char) : Bool :=
  match cutPair text with
  | none => groupsOf true text = some 8
  | some (left, right) =>
    match groupsOf false left, groupsOf true right with
    | some before, some after => before + after ≤ 7
    | _, _ => false

def isHost (host : List Char) : Bool :=
  match host with
  | '[' :: rest =>
    rest.getLast? = some ']' && isNumericHost rest.dropLast
  | _ => host.all fun c => !"\x00\t\n\r #/:<>?@[\\]^|".toList.contains c

def cutHost (bracketed : Bool) : List Char → List Char × List Char
  | [] => ([], [])
  | c :: rest =>
    if c = ':' ∧ ¬bracketed then ([], c :: rest)
    else
      let cut := cutHost (c = '[' || (bracketed && c ≠ ']')) rest
      (c :: cut.1, cut.2)

structure Authority where
  user : List Char
  password : Option (List Char)
  host : List Char

def cutUser (text : List Char) : Option (List Char × List Char) :=
  let (host, user) := cutBefore (· = '@') text.reverse
  match user with
  | [] => none
  | _ :: user => some (user.reverse, host.reverse)

/-- Reads an authority. What follows a service number is handed back, and belongs to the path. A
host may be missing only if there is neither a service number nor a user. -/
def readAuthority (text : List Char) (atEnd : Bool) : Option (Authority × List Char) :=
  let (login, place) := (cutUser text).getD ([], text)
  let (user, password) := cutBefore (· = ':') login
  let password := if password.length < 2 then none else some (password.drop 1)
  let (host, service) := cutHost false place
  let (digits, rest) := cutBefore (fun c => !c.isDigit) (service.drop 1)
  let named : Bool := user ≠ [] || password.isSome
  if (cutUser text).isSome && login = [] && place = [] && !atEnd then none
  else if !isHost host then none
  else if host = [] && (service ≠ [] || named) then none
  else if 65535 < Nat.ofDigitChars 10 digits 0 then none
  else if rest ≠ [] && rest.head? ≠ some '\\' then none
  else some ({ user, password, host }, rest)

def isDrive : List Char → Bool
  | letter :: mark :: rest =>
    letter.isAlpha && (mark = ':' || mark = '|') && (rest = [] || rest.head? = some '\\')
  | _ => false

def stepUp : List (List Char) → List (List Char)
  | [] => []
  | segment :: kept => if isDrive segment then segment :: kept else kept

def resolveDots (kept : List (List Char)) : List (List Char) → List (List Char)
  | [] => kept.reverse
  | segment :: rest =>
    let dots := (String.ofList (segment.map Char.toLower)).replace "%2e" "."
    let kept :=
      if dots = "." then if rest.isEmpty then [] :: kept else kept
      else if dots = ".." then if rest.isEmpty then [] :: stepUp kept else stepUp kept
      else segment :: kept
    resolveDots kept rest

structure Url where
  scheme : List Char
  authority : Option Authority
  path : List Char
  query : List Char

namespace Url

def parse (text : String) : Option Url := do
  let (scheme, rest) ← readScheme (strip text.toList)
  let isEnd := fun c => c = '?' || c = '#'
  let (authority, rest) ←
    match rest with
    | '/' :: '/' :: rest =>
      let (authority, tail) := cutBefore (fun c => c = '/' || isEnd c) rest
      let (authority, extra) ← readAuthority authority tail.isEmpty
      let tail := if extra = [] then tail else '/' :: extra ++ tail
      pure (some authority, tail)
    | rest => pure (none, rest)
  let (path, rest) := cutBefore isEnd rest
  let query :=
    match rest with
    | '?' :: query => (cutBefore (· = '#') query).1
    | _ => []
  return { scheme, authority, path, query }

def segments (url : Url) : Option (List (List Char)) :=
  match url.path with
  | '/' :: path => some (resolveDots [] (Text.parts '/' path))
  | _ => none

def trimmedPath (url : Url) : List Char :=
  let path := (url.segments.map ['/'].intercalate).getD url.path
  ((path.dropWhile (· = '/')).reverse.dropWhile (· = '/')).reverse

/-- The name of the file that an absolute path stands for. After a letter and a colon or bar at the
end comes one more slash, as after a drive. -/
def fileName (url : Url) : Option Bytes :=
  url.segments.map fun segments =>
    let name := segments.flatMap fun segment => 0x2f :: percentDecode segment
    match name.reverse with
    | mark :: letter :: _ =>
      if (Char.ofNat letter.toNat).isAlpha ∧ (mark = 0x3a ∨ mark = 0x7c) then name ++ [0x2f]
      else name
    | _ => name

end Url

end StoredArray.Remote
