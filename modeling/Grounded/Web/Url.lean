import Grounded.Text.Blank
import Grounded.Web.Exchange
import Grounded.Web.Host

/-!
# Addresses on the web

An address has a scheme, an authority, a path of segments and perhaps a query; what stands after a `#` is
not sent and not kept. The authority is a host, perhaps with a user in front of it and a port behind. A
reference is resolved against a base address: `a.html` stands beside the last segment of the base, `/a.html`
below its authority, and dots step through the path. Characters that may not stand in an address are
written as the hexadecimal digits of their bytes.
-/

namespace Grounded

open Text

/-- Who is asked at an address. -/
structure Authority where
  host : Host
  /-- The port, unless it is that of the scheme. -/
  port : Option Nat := none
  /-- The name of the user, already encoded; there need not be one. -/
  user : List Char := []
  /-- The password of the user, already encoded. -/
  password : Option (List Char) := none
deriving DecidableEq, Repr

/-- An address that can be asked for pages. -/
structure Url where
  /-- The scheme, which is `http` or `https`. -/
  scheme : List Char
  authority : Authority
  /-- The parts of the path between slashes, each already encoded; the last is empty for a directory. -/
  path : List (List Char)
  query : Option (List Char) := none
deriving DecidableEq, Repr

namespace Url

/-- The schemes of pages. -/
def schemes : List (List Char) := ["http".toList, "https".toList]

/-- A digit of a byte. -/
def hexDigit (n : Nat) : Char := (Nat.digitChar n).toUpper

/-- A character as the digits of its bytes. -/
def encodeChar (c : Char) : List Char :=
  (String.singleton c).toUTF8.toList.flatMap fun b =>
    ['%', hexDigit (b.toNat / 16), hexDigit (b.toNat % 16)]

/-- Characters that may stand in a path or in a query. -/
def isBare (c : Char) : Bool := ' ' < c && c < '\x7f' && !(['"', '#', '<', '>'].contains c)

/-- Characters that may stand in a path. -/
def inPath (c : Char) : Bool := isBare c && !(['?', '^', '\x60', '\x7b', '\x7d'].contains c)

/-- Characters that may stand in the name of a user or in a password. -/
def inUser (c : Char) : Bool := inPath c && !("/:;=@[\\]|".toList.contains c)

/-- Characters that may stand in a query. -/
def inQuery (c : Char) : Bool := isBare c && c != '\''

/-- A text with all characters encoded that may not stand. -/
def encode (allowed : Char → Bool) (s : List Char) : List Char :=
  s.flatMap fun c => if allowed c then [c] else encodeChar c

/-- Whether a character parts the segments of a path. -/
def isSlash (c : Char) : Bool := c == '/' || c == '\\'

/-- The segments between slashes. -/
def segments : List Char → List (List Char)
  | [] => [[]]
  | c :: rest =>
    if isSlash c then [] :: segments rest
    else
      match segments rest with
      | [] => [[c]]
      | first :: more => (c :: first) :: more

/-- Whether a segment stays where it is, as one dot does. -/
def isHere (s : List Char) : Bool := s == ['.'] || s.map Char.toLower == "%2e".toList

/-- Whether a segment steps up, as two dots do. -/
def isUp (s : List Char) : Bool :=
  [['.', '.'], ".%2e".toList, "%2e.".toList, "%2e%2e".toList].contains (s.map Char.toLower)

/-- The path that segments lead to from a directory. -/
def walk (dir : List (List Char)) : List (List Char) → List (List Char)
  | [] => dir ++ [[]]
  | [last] =>
    if isUp last then dir.dropLast ++ [[]]
    else if isHere last then dir ++ [[]]
    else dir ++ [encode inPath last]
  | s :: rest =>
    if isUp s then walk dir.dropLast rest
    else if isHere s then walk dir rest
    else walk (dir ++ [encode inPath s]) rest

/-- A reference without what stands after `#`, in two parts: before and after `?`. -/
def cutQuery (s : List Char) : List Char × Option (List Char) :=
  let s := s.takeWhile (· != '#')
  match cutFirst ['?'] s with
  | some (before, after) => (before, some (encode inQuery after))
  | none => (s, none)

/-- The scheme at the start of a reference, if there is one, and what follows it. -/
def cutScheme? (s : List Char) : Option (List Char × List Char) := do
  let (scheme, rest) ← cutFirst [':'] s
  let first ← scheme.head?
  if first.isAlpha && scheme.all fun c => c.isAlphanum || ['+', '-', '.'].contains c then
    some (scheme.map Char.toLower, rest)
  else none

/-- The port of a scheme. -/
def standardPort (scheme : List Char) : Nat := if scheme == "https".toList then 443 else 80

/-- The user and the password that a text names; a password without characters is none. -/
def userInfo (s : List Char) : List Char × Option (List Char) :=
  let password := (s.dropWhile (· != ':')).drop 1
  (encode inUser (s.takeWhile (· != ':')),
    if password.isEmpty then none else some (encode inUser password))

/-- What stands before the first colon that is not in brackets, and what follows. -/
def cutHost (bracketed : Bool) : List Char → List Char × List Char
  | [] => ([], [])
  | c :: rest =>
    if c == ':' && !bracketed then ([], c :: rest)
    else
      let (host, after) := cutHost (c == '[' || bracketed && c != ']') rest
      (c :: host, after)

/-- The port that a text behind a host names, if it can stand there. -/
def port? (scheme : List Char) : List Char → Option (Option Nat)
  | [] => some none
  | _ :: digits =>
    if digits.isEmpty then some none
    else do
      let port ← (digitsValue? 10 digits).filter (· < 0x10000)
      return if port = standardPort scheme then none else some port

/-- The authority that a text is: what stands behind the last `@` names the host. -/
def authority? (rules : NameRules) (scheme s : List Char) : Option Authority :=
  let place := (afterLast ['@'] s).getD s
  let (user, password) := userInfo (s.take (s.length - place.length - 1))
  let (host, after) := cutHost false place
  if host.isEmpty then none
  else do return ⟨← Host.parse? rules host, ← port? scheme after, user, password⟩

/-- Whether a character ends an authority. -/
def endsAuthority (c : Char) : Bool := isSlash c || c == '?' || c == '#'

/-- The address after a scheme and its colon. -/
def afterScheme? (rules : NameRules) (scheme s : List Char) : Option Url :=
  let s := s.dropWhile isSlash
  let (path, query) := cutQuery (s.dropWhile (!endsAuthority ·))
  if schemes.contains scheme then
    (authority? rules scheme (s.takeWhile (!endsAuthority ·))).map fun authority =>
      ⟨scheme, authority, walk [] ((segments path).drop 1), query⟩
  else none

/-- A text without the control characters and spaces around it, and without its line breaks and tabs. -/
def clean (s : List Char) : List Char :=
  (stripBoth (· ≤ ' ') s).filter fun c => !(['\t', '\n', '\r'].contains c)

/-- The address that a text is. -/
def parse? (rules : NameRules) (s : List Char) : Option Url := do
  let (scheme, rest) ← cutScheme? (clean s)
  afterScheme? rules scheme rest

/-- The address that a reference without a scheme leads to. -/
def relative (rules : NameRules) (base : Url) (reference : List Char) : Option Url :=
  let (path, query) := cutQuery reference
  match path, query with
  | [], none => some base
  | [], some _ => some { base with query }
  | c :: rest, _ =>
    if isSlash c then
      if rest.head?.any isSlash then afterScheme? rules base.scheme reference
      else some { base with path := walk [] (segments rest), query }
    else some { base with path := walk base.path.dropLast (segments path), query }

/-- The address that a reference leads to. The scheme of the base without an authority is as good as none. -/
def join (rules : NameRules) (base : Url) (reference : List Char) : Option Url :=
  let reference := clean reference
  match cutScheme? reference with
  | some (scheme, rest) =>
    if scheme == base.scheme && (rest.takeWhile isSlash).length < 2 then relative rules base rest
    else afterScheme? rules scheme rest
  | none => relative rules base reference

/-- The path and the query: what the server is asked for. -/
def target (u : Url) : List Char :=
  u.path.flatMap ('/' :: ·) ++
    match u.query with
    | some query => '?' :: query
    | none => []

/-- The server as it stands in an address. -/
def server (u : Url) : List Char :=
  u.authority.host.toText ++
    match u.authority.port with
    | some port => ':' :: Nat.toDigits 10 port
    | none => []

/-- The address as text, without the user, who is named to the server apart. -/
def toText (u : Url) : List Char := u.scheme ++ "://".toList ++ u.server ++ u.target

/-- The credential of the user, if there is one and the name of the user is a text. -/
def credential? (u : Url) : Option String := do
  let user ← String.fromUTF8? (decode (bytes u.authority.user)).toByteArray
  let password := u.authority.password.bind fun p => String.fromUTF8? (decode (bytes p)).toByteArray
  if user.isEmpty && password.isNone then none
  else some (HttpRequest.basicCredential user (password.getD ""))

/-- The request for what is at an address. -/
def request (u : Url) (timeoutSecs : Nat) : HttpRequest where
  method := "GET"
  url := String.ofList u.toText
  authorization := u.credential?
  timeoutSecs := timeoutSecs

/-- The number of the service that is asked on the server. -/
def service (u : Url) : Nat := u.authority.port.getD (standardPort u.scheme)

end Url

end Grounded
