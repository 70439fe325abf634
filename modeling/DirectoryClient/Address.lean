import DirectoryClient.Address.InternetName
import DirectoryClient.Address.Numeric
import DirectoryClient.Error
import DirectoryClient.Text.Percent

/-! Addresses of servers: reading a URL and saying where it leads. -/
namespace DirectoryClient

/-- The parts of a URL that matter for a connection. The host of an IPv6 address keeps its
brackets. -/
structure Address where
  scheme : String
  host : String := ""
  port : Option Nat := none
  deriving DecidableEq, Repr

namespace Address

private def defaultPorts : List (String × Nat) :=
  [("http", 80), ("https", 443), ("ws", 80), ("wss", 443), ("ftp", 21)]

private def isTrimmed (c : Char) : Bool := c.toNat ≤ 0x20

private def isIgnored (c : Char) : Bool := c == '\t' || c == '\n' || c == '\r'

private def clean (text : String) : List Char :=
  let trimmed := (text.toList.dropWhile isTrimmed).reverse.dropWhile isTrimmed
  trimmed.reverse.filter (!isIgnored ·)

private def takeScheme? (cs : List Char) : Option (String × List Char) :=
  let (scheme, rest) := cs.span fun c => c.isAlphanum || c == '+' || c == '-' || c == '.'
  match scheme, rest with
  | first :: _, ':' :: rest =>
    if first.isAlpha then some (String.ofList (scheme.map Char.toLower), rest) else none
  | _, _ => none

private def endsAuthority (c : Char) : Bool := c == '/' || c == '?' || c == '#'

private def isBackslash (c : Char) : Bool := c == '\\'

private def bracketed? (host : String) : Option (Except AddressFault String) :=
  if host.startsWith "[" then
    if host.endsWith "]" && isIpv6 (String.ofList host.toList.tail.dropLast) then some (.ok host)
    else some (.error .invalidIpv6)
  else none

private def internetHost (written : String) : Except AddressFault String :=
  (bracketed? written).getD <|
    match internetName? (Text.decodeLossy (Text.percentDecode (Text.encode written))) with
    | none => .error .invalidInternationalName
    | some name =>
      if name.isEmpty then .error .emptyHost
      else if isMeantAsIpv4 name && !isIpv4 name then .error .invalidIpv4
      else .ok name

private def plainHost (written : String) : Except AddressFault String :=
  (bracketed? written).getD <|
    if written.any isForbidden then .error .invalidDomainCharacter else .ok written

private def dropUser (authority : List Char) : Option (List Char) × List Char :=
  let (host, user) := authority.reverse.span (· != '@')
  match user with
  | [] => (none, authority)
  | _ :: user => (some user.reverse, host.reverse)

/-- A user or a password is there. A colon alone keeps nothing from nothing. -/
private def namesUser (user : List Char) : Bool := !user.isEmpty && user != [':']

/-- Takes the host: up to a colon that stands in no brackets. -/
private def takeHost (inBrackets : Bool) : List Char → List Char × List Char
  | [] => ([], [])
  | c :: cs =>
    if c == ':' && !inBrackets then ([], c :: cs)
    else
      let inBrackets := if c == '[' then true else if c == ']' then false else inBrackets
      let (host, rest) := takeHost inBrackets cs
      (c :: host, rest)

/-- Reads what follows the colon after a host, up to a backslash. No digits are no port. -/
private def portOf (text : List Char) : Except AddressFault (Option Nat) :=
  let digits := text.takeWhile (!isBackslash ·)
  if digits.isEmpty then .ok none
  else if digits.all Char.isDigit then
    let n := digits.foldl (fun n c => n * 10 + (c.toNat - '0'.toNat)) 0
    if n < 65536 then .ok (some n) else .error .invalidPort
  else .error .invalidPort

private def ofAuthority (scheme : String) (cs : List Char) : Except AddressFault Address := do
  let defaultPort := defaultPorts.lookup scheme
  let isInternet := defaultPort.isSome
  let (authority, after) := cs.span fun c => !(endsAuthority c || isInternet && isBackslash c)
  let (user, rest) := dropUser authority
  if user == some [] && rest.isEmpty && !after.isEmpty then throw .emptyHost
  let (written, port) := takeHost false rest
  let host ←
    if !isInternet then plainHost (String.ofList written)
    else if written.isEmpty then throw .emptyHost
    else internetHost (String.ofList written)
  if host.isEmpty && !port.isEmpty then throw .emptyHost
  let port ← portOf port.tail
  if host.isEmpty && user.any namesUser then throw .emptyHost
  return { scheme, host, port := if port == defaultPort then none else port }

/-- The name of a drive, which is part of a path. -/
private def isDrive (cs : List Char) : Bool :=
  match cs with
  | [c, mark] => c.isAlpha && (mark == ':' || mark == '|')
  | _ => false

/-- Reads what follows the scheme of a file. A host may be there after two slashes; there is neither
user nor port. -/
private def ofFile (cs : List Char) : Except AddressFault Address := do
  let scheme := "file"
  match cs with
  | a :: b :: rest =>
    let written := rest.takeWhile fun c => !(endsAuthority c || isBackslash c)
    if (a == '/' || isBackslash a) && (b == '/' || isBackslash b)
        && !written.isEmpty && !isDrive written then
      return { scheme, host := ← internetHost (String.ofList written) }
    else return { scheme }
  | _ => return { scheme }

/-- Reads a URL. Without an authority it has no host. -/
def parse (text : String) : Except AddressFault Address :=
  match takeScheme? (clean text) with
  | none => .error .noScheme
  | some (scheme, rest) =>
    if scheme == "file" then ofFile rest
    else if (defaultPorts.lookup scheme).isSome then
      ofAuthority scheme (rest.dropWhile fun c => c == '/' || isBackslash c)
    else
      match rest with
      | '/' :: '/' :: rest => ofAuthority scheme rest
      | _ => .ok { scheme }

inductive Target where
  | socket (path : String)
  | internet (host : String) (port : Nat)
  deriving DecidableEq, Repr

private def standardPort : Nat := 389

/-- Where an address leads: to a socket path, which is its host without escapes, or to a host and a
port. -/
def target (a : Address) : Outcome Target :=
  if a.scheme == "ldapi" then
    if a.host.isEmpty then .error .emptySocketPath
    else if a.host.contains ':' || a.port.isSome then .error .portInSocketPath
    else .ok (.socket (Text.decodeLossy (Text.percentDecode (Text.encode a.host))))
  else if a.scheme == "ldap" then
    let host := if a.host.isEmpty then "localhost" else a.host
    .ok (.internet host (a.port.getD standardPort))
  else .error (.unknownScheme a.scheme)

def resolve (text : String) : Outcome Target :=
  match parse text with
  | .error fault => .error (.address fault)
  | .ok a => a.target

/-- How many octets the name of a socket has room for, the one that ends it included. -/
private def socketNameRoom : Nat := 108

/-- Why nobody answers at a socket path: it is no such path, or nothing is there. A path that begins
with a null octet is a name outside the file system. -/
private def socketFailure (path : Octets) : IoFailure :=
  match path with
  | 0 :: name =>
    if name.length + 1 > socketNameRoom then
      { kind := "InvalidInput", text := some "abstract socket name must be shorter than SUN_LEN" }
    else { kind := "ConnectionRefused" }
  | path =>
    if path.contains 0 then
      { kind := "InvalidInput", text := some "paths must not contain interior null bytes" }
    else if path.length ≥ socketNameRoom then
      { kind := "InvalidInput", text := some "path must be shorter than SUN_LEN" }
    else { kind := "NotFound" }

/-- Why nobody answers at a target: nothing is at the path, or there is no way to the network. -/
def Target.unreachable : Target → DirectoryError
  | socket path => .io (socketFailure (Text.encode path))
  | internet .. => .io { kind := "NetworkUnreachable" }

end Address

end DirectoryClient
