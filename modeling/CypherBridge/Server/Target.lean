/-!
# Request targets

What a request asks for: a path with a query, a whole address, a host alone, or a star. The
path is what counts; it ends before the query and the fragment. A target is refused at its first
character that does not belong there.
-/

namespace CypherBridge.Server

inductive TargetFault where
  | badToken
  | badVersion
  | badCharacter
  | badAuthority
  | badFormat
  | schemeTooLong
  deriving DecidableEq, Repr

namespace TargetFault

def requestLine (reason : String) : String :=
  "WebSocket protocol error: httparse error: " ++ reason

def format (reason : String) : String := "HTTP format error: " ++ reason

def message : TargetFault → String
  | .badToken => requestLine "invalid token"
  | .badVersion => requestLine "invalid HTTP version"
  | .badCharacter => format "invalid uri character"
  | .badAuthority => format "invalid authority"
  | .badFormat => format "invalid format"
  | .schemeTooLong => format "scheme too long"

end TargetFault

def isTargetChar (c : Char) : Bool := 0x20 < c.toNat && c.toNat != 0x7F

def isPathChar (c : Char) : Bool := c != '<' && c != '>' && c.toNat != 0x60

def isQueryChar (c : Char) : Bool := c != '<' && c != '>' && c != '"'

def isSchemeChar (c : Char) : Bool := c.isAlphanum || c ∈ ['+', '-', '.', '~']

def isAuthorityChar (c : Char) : Bool :=
  c.isAlphanum || c ∈ ['!', '$', '&', '\'', '(', ')', '*', '+', ',', '-', '.', ';', '=', '_', '~']

def endsPath (c : Char) : Bool := c == '?' || c == '#'

def endsAuthority (c : Char) : Bool := c == '/' || endsPath c

def readPath (cs : List Char) : Except TargetFault String :=
  let path := cs.takeWhile fun c => !endsPath c
  let query := match cs.dropWhile fun c => !endsPath c with
    | '?' :: query => query.takeWhile (· != '#')
    | _ => []
  if path.all isPathChar && query.all isQueryChar then
    .ok (if path.isEmpty then "/" else .ofList path)
  else .error .badCharacter

structure Authority where
  colons : Nat
  opened : Bool
  closed : Bool
  /-- Behind a percent sign that belongs to no user. -/
  escaped : Bool
  unnamed : Bool
  deriving DecidableEq, Repr

namespace Authority

def start : Authority := ⟨0, false, false, false, false⟩

def mostColons : Nat := 8

/-- Neither the colons in brackets nor those of the user count for the port. -/
def step (a : Authority) (c : Char) : Except TargetFault Authority :=
  let next := { a with unnamed := false }
  match c with
  | ':' => if a.colons < mostColons then .ok { next with colons := a.colons + 1 }
      else .error .badAuthority
  | '[' => if a.escaped || a.opened then .error .badAuthority else .ok { next with opened := true }
  | ']' => if !a.opened || a.closed then .error .badAuthority
      else .ok { next with closed := true, colons := 0, escaped := false }
  | '@' => .ok { next with colons := 0, escaped := false, unnamed := true }
  | '%' => .ok { next with escaped := true }
  | c => if isAuthorityChar c then .ok next else .error .badCharacter

def isComplete (a : Authority) : Bool :=
  a.opened == a.closed && a.colons ≤ 1 && !a.unnamed && !a.escaped

def check (cs : List Char) : Except TargetFault Unit := do
  let a ← cs.foldlM step start
  if a.isComplete then .ok () else .error .badAuthority

end Authority

def longestScheme : Nat := 64

/-- What follows a scheme with its colon and slashes, if the target has one. -/
def behindScheme (cs : List Char) : Except TargetFault (Option (List Char)) :=
  match cs.dropWhile isSchemeChar with
  | ':' :: '/' :: '/' :: rest =>
      if longestScheme < (cs.takeWhile isSchemeChar).length then .error .schemeTooLong
      else .ok (some rest)
  | _ => .ok none

def readToken (raw : List Char) : Except TargetFault (List Char) :=
  match raw.takeWhile isTargetChar, raw.dropWhile isTargetChar with
  | [], _ => .error .badToken
  | target, [] => .ok target
  | _, c :: _ => .error (if c = ' ' then .badVersion else .badToken)

def readAddress (cs : List Char) : Except TargetFault String := do
  match ← behindScheme cs with
  | none =>
      Authority.check (cs.takeWhile fun c => !endsAuthority c)
      if cs.any endsAuthority then .error (if cs.length = 1 then .badCharacter else .badFormat)
      else .ok ""
  | some rest =>
      let host := rest.takeWhile fun c => !endsAuthority c
      Authority.check host
      if host.isEmpty then .error .badFormat
      else readPath (rest.dropWhile fun c => !endsAuthority c)

def targetPath (target : String) : Except TargetFault String := do
  match ← readToken target.toList with
  | '/' :: cs => readPath ('/' :: cs)
  | ['*'] => .ok "*"
  | cs => readAddress cs

end CypherBridge.Server
