import EditBatch.Http.HostName
import EditBatch.Http.NumericHost
import EditBatch.Http.Percent
import EditBatch.Text.Integer

/-! Addresses of web services, in the form in which requests are sent to them.

An address is a scheme, an authority (a user, a host and a port) and a path; its own query and
fragment are left out. The scheme and the host are written in small letters, the usual port of
the scheme is not written, and steps to the same or the parent directory are resolved. An address
without a scheme or without a host names no server; only its path remains.
-/

set_option autoImplicit false

namespace EditBatch.Http

open EditBatch.Text

structure Authority where
  user : String
  /-- An IPv6 address stands here without its brackets. -/
  host : String
  port : Option Int
  deriving DecidableEq, Repr

structure Url where
  scheme : String
  authority : Authority
  path : String
  deriving DecidableEq, Repr

/-- Longer addresses and longer parts are refused. -/
def lengthLimit : Nat := 65536

def isControl (c : Char) : Bool := c.toNat < 0x20 || c.toNat = 0x7F

def usualPorts : List (String × Int) :=
  [("ftp", 21), ("http", 80), ("https", 443), ("ws", 80), ("wss", 443)]

namespace Authority

def none : Authority := ⟨"", "", .none⟩

def isEmpty (authority : Authority) : Bool :=
  authority.user = "" && authority.host = "" && authority.port.isNone

def hostText (authority : Authority) : String :=
  if authority.host.toList.contains ':' then "[" ++ authority.host ++ "]" else authority.host

def text (authority : Authority) : String :=
  (if authority.user = "" then "" else authority.user ++ "@") ++ authority.hostText ++
    match authority.port with
    | some port => ":" ++ toString port
    | .none => ""

def splitUser (text : List Char) : List Char × List Char :=
  if text.contains '@' then
    ((text.reverse.dropWhile (· ≠ '@')).drop 1 |>.reverse,
      (text.reverse.takeWhile (· ≠ '@')).reverse)
  else ([], text)

def splitHost (text : List Char) : List Char × List Char :=
  if text.head? = some '[' && text.contains ']' then
    ((text.reverse.dropWhile (· ≠ ']')).reverse, (text.reverse.takeWhile (· ≠ ']')).reverse)
  else (text.takeWhile (· ≠ ':'), text.dropWhile (· ≠ ':'))

/-- A host as it is sent. What looks like a numeric address has to be one. -/
def readHost? (host : List Char) : Option String :=
  if host.isEmpty then some ""
  else if looksLikeIpv4 host then if isIpv4 host then some (String.ofList host) else .none
  else if host.head? = some '[' && host.getLast? = some ']' then
    let address := (host.drop 1).dropLast
    if isIpv6 address then some (String.ofList address) else .none
  else if host.all (·.toNat < 0x80) then
    some (String.ofList (encodeUnsafe isHostCharacter (host.map Char.toLower)))
  else (HostName.encode? host).map String.ofList

def readPort? (scheme : String) (text : List Char) : Option (Option Int) :=
  let digits := if text.head? = some ':' then text.drop 1 else text
  if digits.isEmpty then some .none
  else
    (readInteger? (String.ofList digits)).map fun port =>
      if usualPorts.lookup scheme = some port then .none else some port

def read? (scheme : String) (text : List Char) : Option Authority := do
  let (user, rest) := splitUser text
  let (host, rest) := splitHost rest
  let host ← readHost? host
  let port ← readPort? scheme rest
  return ⟨String.ofList (encodeUnsafe isUserCharacter user), host, port⟩

end Authority

def resolveSteps (path : List Char) : List Char :=
  let segments := splitAt '/' path
  let keep (kept : List (List Char)) (segment : List Char) : List (List Char) :=
    if segment = ['.'] then kept
    else if segment = ['.', '.'] then
      match kept with
      | [] | [[]] => kept
      | _ :: before => before
    else segment :: kept
  ['/'].intercalate (segments.foldl keep []).reverse

def splitScheme (text : List Char) : List Char × List Char :=
  let isSchemeCharacter (c : Char) : Bool := c.isAlphanum || ['+', '.', '-'].contains c
  let scheme := text.takeWhile isSchemeCharacter
  match text.dropWhile isSchemeCharacter with
  | ':' :: rest => if scheme.head?.all Char.isAlpha then (scheme, rest) else ([], text)
  | _ => ([], text)

def splitAuthority (text : List Char) : List Char × List Char :=
  let isInside (c : Char) : Bool := c ≠ '/' && c ≠ '?' && c ≠ '#'
  match text with
  | '/' :: '/' :: rest => (rest.takeWhile isInside, rest.dropWhile isInside)
  | text => ([], text)

namespace Url

def namesServer (url : Url) : Bool := url.scheme ≠ "" && url.authority.host ≠ ""

def text (url : Url) : String :=
  (if url.scheme = "" then "" else url.scheme ++ ":") ++
    (if url.authority.isEmpty then "" else "//" ++ url.authority.text) ++ url.path

/-- An address that names no server is only a path, which begins with one slash. -/
def settled (url : Url) : Url :=
  if url.namesServer then url
  else
    let path := '/' :: url.path.toList.dropWhile (· = '/')
    ⟨"", .none, String.ofList path⟩

/-- The address that a text is. A part once encoded is read again, as it is when the query of a
request is put behind it. -/
def read? (text : String) : Option Url := do
  guard (text.length ≤ lengthLimit && !text.toList.any isControl)
  let (scheme, rest) := splitScheme text.toList
  let (authority, rest) := splitAuthority rest
  let scheme := String.ofList (scheme.map Char.toLower)
  let first ← Authority.read? scheme authority
  let authority ← Authority.read? scheme first.text.toList
  let path := rest.takeWhile fun c => c ≠ '?' && c ≠ '#'
  let isBare := scheme = "" && authority.isEmpty
  guard (!(isBare && (path.take 2 = ['/', '/'] || path.head? = some ':')))
  let path := encodeUnsafe isPathCharacter (if isBare then path else resolveSteps path)
  guard (path.length ≤ lengthLimit)
  return settled ⟨scheme, authority, String.ofList path⟩

example : (read? "HTTPS://Us:er@W.test:443/a/../b/./c d?q#f").map (·.text) =
    some "https://Us:er@w.test/b/c%20d" := by decide +kernel
example : (read? "http://w.test:x/").isNone = true ∧ (read? "http://1.2.3.999/").isNone = true := by
  decide +kernel
example : (read? "http://[::1]:8080").map (·.text) = some "http://[::1]:8080" := by decide +kernel
example : (read? "w.test/p").map (·.text) = some "/w.test/p" := by decide +kernel

end Url

end EditBatch.Http
