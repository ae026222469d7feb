import CypherBridge.Gateway.Error
import CypherBridge.Network.Host

/-!
# Addresses of databases

Access to a database tells where it is, who asks, and how much is asked for at once.  A URI names
a scheme, and behind two slashes a host with or without user and port. A text
without scheme or without host is read again with the usual scheme in front. Only the parts
that can be refused are told apart; path, query and fragment may be anything. The schemes of the
web have rules of their own for the slashes and the host.
-/

namespace CypherBridge.Bolt

structure Access where
  uri : String
  user : String
  password : String
  /-- Without a name the server's default database is meant. -/
  database : Option String
  maxConnections : Nat
  fetchSize : Nat
  deriving DecidableEq, Repr

namespace Access

def defaultConnections : Nat := 50

def usualFetchSize : Nat := 200

def new (uri user password : String) : Access :=
  ⟨uri, user, password, none, defaultConnections, usualFetchSize⟩

end Access

open Network

inductive UriFault where
  | noScheme
  | badHost (f : HostFault)
  | badPort
  deriving DecidableEq, Repr

def UriFault.message : UriFault → String
  | .noScheme => "relative URL without a base"
  | .badHost f => f.message
  | .badPort => "invalid port number"

def UriFault.emptyHost : UriFault := .badHost .empty

/-- Controls and blanks round a URI do not count, nor tabs and line ends inside it. -/
def strippedUri (s : String) : List Char :=
  let isEdge (c : Char) : Bool := c.toNat ≤ 0x20
  let cs := s.toList.dropWhile isEdge
  let cs := (cs.reverse.dropWhile isEdge).reverse
  cs.filter fun c => !(c == '\t' || c == '\n' || c == '\r')

def isSchemeChar (c : Char) : Bool := c.isAlphanum || c == '+' || c == '-' || c == '.'

def splitScheme? (cs : List Char) : Option (String × List Char) :=
  match cs with
  | [] => none
  | c :: _ =>
      if c.isAlpha then
        match cs.dropWhile isSchemeChar with
        | ':' :: rest => some (.ofList ((cs.takeWhile isSchemeChar).map Char.toLower), rest)
        | _ => none
      else none

inductive SchemeKind where
  | web
  | file
  | plain
  deriving DecidableEq, Repr

def SchemeKind.ofScheme (scheme : String) : SchemeKind :=
  if scheme ∈ ["http", "https", "ws", "wss", "ftp"] then .web
  else if scheme = "file" then .file
  else .plain

def isSlash (c : Char) : Bool := c == '/' || c == '\\'

def isAuthorityEnd (kind : SchemeKind) (c : Char) : Bool :=
  c == '/' || c == '?' || c == '#' || (kind != .plain && c == '\\')

def splitUser (authority : List Char) : Option (List Char) × List Char :=
  let host := (authority.reverse.takeWhile (· != '@')).reverse
  if authority.contains '@' then (some (authority.take (authority.length - host.length - 1)), host)
  else (none, host)

def splitPort (inBrackets : Bool) : List Char → List Char × Option (List Char)
  | [] => ([], none)
  | c :: cs =>
      if c = ':' ∧ !inBrackets then ([], some cs)
      else
        let (host, port) := splitPort (c == '[' || (inBrackets && c != ']')) cs
        (c :: host, port)

def checkHost (kind : SchemeKind) (host : List Char) : Except UriFault Unit :=
  match (if kind = .plain then checkPlain host else checkWeb host) with
  | .error f => .error (.badHost f)
  | .ok () => .ok ()

def maxPort : Nat := 65535

def checkPort (port : List Char) : Except UriFault Unit :=
  let digits := port.takeWhile (· != '\\')
  if digits.all Char.isDigit ∧ decimalNumber digits ≤ maxPort then .ok ()
  else .error .badPort

/-- Whether the user needs a host behind it. A colon alone names nobody; no user at all does
not go with a path. -/
def needsHost (user : List Char) (followed : Bool) : Bool :=
  match user with
  | [] => followed
  | [':'] => false
  | _ => true

/-- What stands between the two slashes and the path. The result tells whether there is a
host. -/
def checkAuthority (kind : SchemeKind) (authority : List Char) (followed : Bool) :
    Except UriFault Bool :=
  let (user?, place) := splitUser authority
  let (host, port?) := splitPort false place
  match checkHost kind host with
  | .error fault => .error fault
  | .ok () =>
      match port? with
      | none =>
          if host.isEmpty && (user?.map fun user => needsHost user followed) == some true then
            .error .emptyHost
          else .ok !host.isEmpty
      | some port =>
          if host.isEmpty then .error .emptyHost
          else (checkPort port).map fun _ => true

def isDrive (cs : List Char) : Bool :=
  match cs with
  | [letter, mark] => letter.isAlpha && (mark == ':' || mark == '|')
  | _ => false

def localName : List Char := ['l', 'o', 'c', 'a', 'l', 'h', 'o', 's', 't']

def checkFileHost (rest : List Char) : Except UriFault Bool :=
  match rest with
  | a :: b :: rest =>
      let host := rest.takeWhile fun c => !isAuthorityEnd .file c
      if !(isSlash a && isSlash b) || host.isEmpty || isDrive host then .ok false
      else match host with
        | '[' :: cs =>
            match checkBracketed cs with
            | .error f => .error (.badHost f)
            | .ok () => .ok true
        | host =>
            match readName host with
            | .error f => .error (.badHost f)
            | .ok parts => .ok (parts != [localName])
  | _ => .ok false

/-! ## URIs -/

structure Uri where
  scheme : String
  hasHost : Bool
  deriving DecidableEq, Repr

namespace Uri

def checkPlace (kind : SchemeKind) (rest : List Char) : Except UriFault Bool :=
  let authority := rest.takeWhile fun c => !isAuthorityEnd kind c
  checkAuthority kind authority (authority.length < rest.length)

def ofString (s : String) : Except UriFault Uri :=
  match splitScheme? (strippedUri s) with
  | none => .error .noScheme
  | some (scheme, rest) =>
      let hasHost := match SchemeKind.ofScheme scheme, rest with
        | .file, rest => checkFileHost rest
        | .web, rest => checkPlace .web (rest.dropWhile isSlash)
        | .plain, '/' :: '/' :: rest => checkPlace .plain rest
        | .plain, _ => .ok false
      hasHost.map fun hasHost => ⟨scheme, hasHost⟩

def usualScheme : String := "bolt"

def resolve (s : String) : Except UriFault Uri :=
  match ofString s with
  | .ok uri => if uri.hasHost then .ok uri else ofString (usualScheme ++ "://" ++ s)
  | .error .noScheme => ofString (usualScheme ++ "://" ++ s)
  | .error fault => .error fault

def check (s : String) : Except DriverError Unit :=
  match resolve s with
  | .error fault => .error (.invalidUri fault.message)
  | .ok uri =>
      if !uri.hasHost then .error (.invalidUri UriFault.emptyHost.message)
      else if uri.scheme = usualScheme ∨ uri.scheme = "neo4j" then .ok ()
      else .error (.unsupportedScheme uri.scheme)

end Uri

end CypherBridge.Bolt
