import RowStore.Url.Form
import RowStore.Url.Host
import RowStore.Url.Path

/-!
# Addresses of resources

An address has a scheme, and perhaps an authority, a path, a query and a fragment. The authority is a host with
credentials in front of it and the number of an endpoint behind it. Reading an address brings it into its normal
form: blanks around it, tabs and line ends are dropped, the scheme and the host get their one spelling, an
endpoint that goes without saying is dropped, the path is walked, and the octets that may not stand for
themselves are escaped.

Schemes of the web always have a host, and take a backslash for a slash. Files may have one. All other schemes
have an authority only after two slashes, and may have a path that does not start with a slash.
-/

namespace RowStore

set_option autoImplicit false

structure Credentials where
  name : List Char
  password : Option (List Char)
deriving DecidableEq, Repr

structure Authority where
  credentials : Option Credentials
  /-- The host, which files and other schemes may go without. -/
  host : Option Url.Host
  endpoint : Option Nat
deriving DecidableEq, Repr

structure Url where
  scheme : String
  authority : Option Authority
  path : List Char
  query : Option (List Char)
  fragment : Option (List Char)
deriving DecidableEq, Repr

namespace Url

inductive Fault where
  | noScheme
  | host (fault : HostFault)
  | badEndpoint
deriving DecidableEq, Repr

def Fault.message : Fault → String
  | noScheme => "relative URL without a base"
  | host .noHost => "empty host"
  | host .badName => "invalid international domain name"
  | host .badCharacter => "invalid domain character"
  | host .badV4 => "invalid IPv4 address"
  | host .badV6 => "invalid IPv6 address"
  | badEndpoint => "invalid port number"

inductive SchemeKind where
  | web
  | file
  | other
deriving DecidableEq, Repr

/-- The endpoints of schemes of the web that go without saying. -/
def standardEndpoints : List (String × Nat) :=
  [("http", 80), ("https", 443), ("ws", 80), ("wss", 443), ("ftp", 21)]

def SchemeKind.ofName (scheme : String) : SchemeKind :=
  if scheme = "file" then .file
  else if (standardEndpoints.lookup scheme).isSome then .web
  else .other

/-! Parts that may not stand for themselves -/

def isQueryPlain : Nat → Bool :=
  Path.isPlainBut ['"', '#', '<', '>']

def isWebQueryPlain : Nat → Bool :=
  Path.isPlainBut ['"', '#', '<', '>', '\'']

def isFragmentPlain : Nat → Bool :=
  Path.isPlainBut ['"', '<', '>', '\x60']

def isCredentialPlain : Nat → Bool :=
  Path.isPlainBut ("\"#<>?\x60\x7b\x7d/:;=@[\\]^|".toList)

/-! Reading -/

/-- Controls and spaces, which are dropped at both ends. -/
def isEdge (c : Char) : Bool := c.toNat ≤ 0x20

/-- A text without what is dropped anywhere and at its ends. -/
def cleaned (text : List Char) : List Char :=
  let inner := ((text.dropWhile isEdge).reverse.dropWhile isEdge).reverse
  inner.filter fun c => c != '\t' && c != '\n' && c != '\r'

def scheme? (text : List Char) : Option (String × List Char) :=
  match text.span (· != ':') with
  | (first :: more, ':' :: rest) =>
    if first.isAlpha ∧ more.all (fun c => c.isAlphanum || c = '+' || c = '-' || c = '.') then
      some (String.ofList ((first :: more).map Char.toLower), rest)
    else none
  | _ => none

def endsPath (c : Char) : Bool :=
  c = '?' || c = '#'

def endsAuthority (c : Char) : Bool :=
  c = '/' || endsPath c

/-- The credentials in front of the last at sign of an authority, and what follows it. -/
def splitCredentials (authority : List Char) : Option (List Char) × List Char :=
  let place := (Text.splitOn '@' authority).getLast?.getD []
  if place.length = authority.length then (none, authority)
  else (some (authority.take (authority.length - place.length - 1)), place)

/-- Credentials: a name, and a password after the first colon. None of them is empty. -/
def credentials? (text : List Char) : Option Credentials :=
  let (name, rest) := text.span (· != ':')
  let name := escapeUnless isCredentialPlain name
  match escapeUnless isCredentialPlain (rest.drop 1) with
  | [] => if name = [] then none else some ⟨name, none⟩
  | password => some ⟨name, some password⟩

/-- The host at the start of a place, up to a colon outside of brackets, and what follows it. -/
def splitHost (inside : Bool) : List Char → List Char × List Char
  | [] => ([], [])
  | c :: rest =>
    if c = ':' ∧ inside = false then ([], c :: rest)
    else
      let (host, after) := splitHost (if c = '[' then true else if c = ']' then false else inside) rest
      (c :: host, after)

/-- The number of an endpoint after a colon, which may be missing. -/
def endpoint? : List Char → Except Fault (Option Nat)
  | ':' :: digits =>
    if digits = [] then .ok none
    else if digits.all Char.isDigit ∧ Numeral.ofDigits digits < 0x10000 then .ok (some (Numeral.ofDigits digits))
    else .error .badEndpoint
  | _ => .ok none

def readAuthority (scheme : String) (text : List Char) : Except Fault Authority := do
  let (front, place) := splitCredentials text
  let credentials := front >>= credentials?
  let (hostText, rest) := splitHost false place
  let web : Bool := SchemeKind.ofName scheme = .web
  if hostText = [] ∧ (web ∨ rest ≠ [] ∨ front = some [] ∨ credentials.isSome) then .error (.host .noHost)
  let host ← ((if web then Host.ofText hostText else Host.ofPlainText hostText).mapError Fault.host)
  let endpoint ← endpoint? rest
  pure {
    credentials
    host := if host = .name [] then none else some host
    endpoint := endpoint.filter fun endpoint => standardEndpoints.lookup scheme ≠ some endpoint }

/-- The query and the fragment at the end of an address. -/
def tail (plain : Nat → Bool) (text : List Char) : Option (List Char) × Option (List Char) :=
  let (query, fragment) := text.span (· != '#')
  (match query with
    | [] => none
    | _ :: query => some (escapeUnless plain query),
  match fragment with
    | [] => none
    | _ :: fragment => some (escapeUnless isFragmentPlain fragment))

/-- Takes backslashes for slashes in front of the query. -/
def slashed (text : List Char) : List Char :=
  let (front, tail) := text.span fun c => !endsPath c
  front.map (fun c => if c = '\\' then '/' else c) ++ tail

def readWeb (scheme : String) (text : List Char) : Except Fault Url := do
  let (place, rest) := ((slashed text).dropWhile (· = '/')).span fun c => !endsAuthority c
  let authority ← readAuthority scheme place
  let (path, rest) := rest.span fun c => !endsPath c
  let (query, fragment) := tail isWebQueryPlain rest
  pure ⟨scheme, some authority, Path.normal path, query, fragment⟩

/-- The host of a file; the machine itself is no host. -/
def fileHost (text : List Char) : Except Fault (Option Host) := do
  if text = [] then pure none
  else
    let host ← (Host.ofText text).mapError Fault.host
    pure (if host = .name "localhost".toList then none else some host)

/-- The host and the path of a file. A drive takes the place of the host. -/
def filePlace (text : List Char) : Except Fault (Option Host × List Char) := do
  match text with
  | '/' :: '/' :: rest =>
    let (place, path) := rest.span (· != '/')
    if Path.isDrive place then pure (none, Path.ofFileParts (Path.parts rest))
    else
      match ← fileHost place with
      | none => pure (none, Path.ofFileParts (Path.parts path))
      | some host =>
        let parts := Path.parts (Path.afterSlash path)
        pure (if parts.head?.any Path.isDrive then none else some host, Path.ofFileParts parts)
  | _ => pure (none, Path.ofFileParts (Path.parts (Path.afterSlash text)))

def readFile (text : List Char) : Except Fault Url := do
  let (place, rest) := (slashed text).span fun c => !endsPath c
  let (host, path) ← filePlace place
  let (query, fragment) := tail isWebQueryPlain rest
  pure ⟨"file", some ⟨none, host, none⟩, path, query, fragment⟩

def readOther (scheme : String) (text : List Char) : Except Fault Url := do
  let (body, rest) := text.span fun c => !endsPath c
  let (query, fragment) := tail isQueryPlain rest
  match body with
  | '/' :: '/' :: body =>
    let (place, path) := body.span fun c => !endsAuthority c
    let (place, path) := match splitHost false (splitCredentials place).2 with
      | (_, ':' :: digits) =>
        let after := digits.dropWhile (· != '\\')
        (place.take (place.length - after.length), after ++ path)
      | _ => (place, path)
    let authority ← readAuthority scheme place
    pure ⟨scheme, some authority, if path = [] then [] else Path.normal path, query, fragment⟩
  | '/' :: path => pure ⟨scheme, none, Path.normal path, query, fragment⟩
  | path => pure ⟨scheme, none, escapeUnless Host.isPlain path, query, fragment⟩

def read (text : String) : Except Fault Url :=
  match scheme? (cleaned text.toList) with
  | none => .error .noScheme
  | some (scheme, rest) =>
    match SchemeKind.ofName scheme with
    | .web => readWeb scheme rest
    | .file => readFile rest
    | .other => readOther scheme rest

/-! Writing -/

def Credentials.text (credentials : Credentials) : List Char :=
  credentials.name ++ (match credentials.password with
    | some password => ':' :: password
    | none => []) ++ ['@']

def Authority.text (authority : Authority) : List Char :=
  (authority.credentials.map Credentials.text).getD []
    ++ ((authority.host.map Host.text).getD "").toList
    ++ match authority.endpoint with
      | some endpoint => ':' :: (toString endpoint).toList
      | none => []

/-- The path with a step in front of it where it would be taken for an authority. -/
def writtenPath (url : Url) : List Char :=
  match url.authority, url.path with
  | none, '/' :: '/' :: _ => '/' :: '.' :: url.path
  | _, path => path

def marked (mark : Char) : Option (List Char) → List Char
  | some part => mark :: part
  | none => []

def text (url : Url) : String :=
  url.scheme ++ ":" ++ String.ofList (
    (match url.authority with
      | some authority => '/' :: '/' :: Authority.text authority
      | none => [])
    ++ url.writtenPath ++ marked '?' url.query ++ marked '#' url.fragment)

/-- The path and the query, as they are sent. -/
def target (url : Url) : String :=
  String.ofList (url.path ++ marked '?' url.query)

def host? (url : Url) : Option Host :=
  url.authority >>= Authority.host

/-! Changing -/

def addPair (url : Url) (name value : String) : Url :=
  let pair := Form.encode name ++ '=' :: Form.encode value
  { url with query := some (match url.query with
      | none | some [] => pair
      | some query => query ++ '&' :: pair) }

/-- Whether escaped text stands for a text. -/
def isReadable (escaped : List Char) : Bool :=
  (Text.Utf8.decode? (percentDecode (Text.Utf8.encode escaped))).isSome

/-- Whether credentials can be sent apart from the address. -/
def Credentials.isReadable (credentials : Credentials) : Bool :=
  Url.isReadable credentials.name && (!credentials.name.isEmpty || credentials.password.all Url.isReadable)

/-- The address without its credentials, if they can be sent apart from it. -/
def withoutCredentials (url : Url) : Url :=
  match url.authority with
  | some authority =>
    if authority.credentials.any Credentials.isReadable then
      { url with authority := some { authority with credentials := none } }
    else url
  | none => url

end Url

end RowStore
