import LinkSocks.Go.Machine
import LinkSocks.Wire.Parse

/-!
# Authentication of a link

`authenticateWebSocketClient` resolves the token and the role of a client from
the URL query or from the first frame, and establishes the protocol version of
the link.  A connector whose token carries access rules is refused when the
link speaks generation 2, because the relay cannot see the destinations there.
-/

namespace LinkSocks

open Go

/-! ## Access rules -/

/-- An inclusive range of addresses in their 16-byte form. -/
structure IPRange where
  start : Bytes
  stop : Bytes
  deriving DecidableEq

/-- One allow entry; an empty list of addresses or ports matches any. -/
structure ParsedRule where
  addrs : List IPRange
  ports : List (Int × Int)
  deriving DecidableEq

structure AccessControl where
  rules : List ParsedRule
  deriving DecidableEq

/-- `bytes.Compare(a, b) <= 0`. -/
def bytesLE : Bytes → Bytes → Bool
  | [], _ => true
  | _ :: _, [] => false
  | a :: as, b :: bs => a < b || (a == b && bytesLE as bs)

def ipInRange (ip : Bytes) (r : IPRange) : Bool := bytesLE r.start ip && bytesLE ip r.stop

def portInRanges (ranges : List (Int × Int)) (port : Int) : Bool :=
  ranges.any fun r => decide (r.1 ≤ port ∧ port ≤ r.2)

/-- No restriction is configured; `none` is the nil pointer. -/
def AccessControl.empty : Option AccessControl → Bool
  | none => true
  | some ac => ac.rules.isEmpty

/-- `Allow`, for the addresses that the host parses or resolves to; `none`
stands for a host that does not resolve. -/
def AccessControl.allow (ac : Option AccessControl)
    (ips : Option (List Bytes)) (port : Int) : Bool :=
  match ac with
  | none => true
  | some ac =>
    if ac.rules.isEmpty then true
    else
      match ips with
      | none => false
      | some ips =>
        ac.rules.any fun rule =>
          (rule.ports.isEmpty || portInRanges rule.ports port) &&
            ips.any fun ip => rule.addrs.isEmpty || rule.addrs.any (ipInRange ip)

/-! ## Registries -/

structure Registry where
  /-- Reverse tokens and their local proxy port, `-1` for internal tokens. -/
  tokens : GoMap GoString Int
  forwardTokens : GoMap GoString Unit
  /-- Connector tokens and the reverse token they belong to. -/
  connectorTokens : GoMap GoString GoString
  connectorTokenAC : GoMap GoString AccessControl
  sha256TokenMap : GoMap GoString GoString

/-- `s.tokens[token] != 0`: a missing key reads as zero. -/
def Registry.isReverse (R : Registry) (token : GoString) : Bool :=
  (R.tokens.lookup token).getD 0 ≠ 0

def Registry.isForward (R : Registry) (token : GoString) : Bool :=
  (R.forwardTokens.lookup token).isSome

/-- The reverse token of a connector token, empty when there is none. -/
def Registry.reverseTokenOf (R : Registry) (token : GoString) : GoString :=
  (R.connectorTokens.lookup token).getD []

def Registry.isConnector (R : Registry) (token : GoString) : Bool :=
  (R.connectorTokens.lookup token).isSome && R.isReverse (R.reverseTokenOf token)

/-! ## Version parameter -/

/-- The standard library calls of `ParseProtocolVersionParam`. -/
structure VersionLib where
  trimSpace : GoString → GoString
  /-- `strconv.ParseUint(s, base, 8)`. -/
  parseUint : GoString → (base : ℕ) → Except Error UInt8

def parseProtocolVersionParam (V : VersionLib) (text : GoString) : Except Error UInt8 :=
  let s := V.trimSpace text
  if s = [] then .error (.msg "empty protocol version")
  else if s.take 2 = ascii "0x" ∨ s.take 2 = ascii "0X" then
    match V.parseUint (s.drop 2) 16 with
    | .ok u => .ok u
    | .error e => .error (.wrap "invalid protocol version hex" e)
  else
    let decimal :=
      match V.parseUint s 10 with
      | .ok u => .ok u
      | .error e => .error (.wrap "invalid protocol version" e)
    -- two characters are a hexadecimal byte when they can be
    if s.length = 2 then
      match V.parseUint s 16 with
      | .ok u => .ok u
      | .error _ => decimal
    else decimal

/-! ## Authentication -/

/-- What a client presents: query parameters (empty means absent), or the
outcome of reading its first frame. -/
inductive Credentials where
  | url (token version reverse : GoString)
  | frame (data : Bytes)
  | readFailed (e : Error)

structure Roles where
  reverse : Bool
  forward : Bool
  connector : Bool
  deriving DecidableEq

def Roles.any (r : Roles) : Bool := r.reverse || r.forward || r.connector

/-- The outcome of a successful authentication, with the protocol version
established for the link. -/
structure WSClientAuth where
  token : GoString
  reverseToken : GoString
  roles : Roles
  version : UInt8

/-- Roles of a token presented in the URL, narrowed by `reverse`. -/
def urlRoles (R : Registry) (token reverse : GoString) : Roles :=
  let roles : Roles := ⟨R.isReverse token, R.isForward token, R.isConnector token⟩
  if reverse = [] then roles
  else
    let isReverse := reverse = ascii "true" ∨ reverse = ascii "1"
    if isReverse ∧ ¬ roles.reverse then ⟨false, false, false⟩
    else if ¬ isReverse ∧ ¬ roles.forward ∧ ¬ roles.connector then ⟨false, false, false⟩
    else roles

/-- Roles of a token presented in an authentication frame. -/
def frameRoles (R : Registry) (m : AuthMessage) : Roles :=
  ⟨m.reverse && R.isReverse m.token, !m.reverse && R.isForward m.token,
    R.isConnector m.token && !m.reverse⟩

/-- Version of a link that authenticates in the URL: the legacy generation
unless a version parameter parses. -/
def urlVersion (V : VersionLib) (version : GoString) : UInt8 :=
  if version = [] then protocolVersionV1
  else
    match parseProtocolVersionParam V version with
    | .ok v => v
    | .error _ => protocolVersionV1

def connectorRulesText : String :=
  "connector token has server-side access rules that protocol v2 cannot " ++
    "enforce; configure rules on the provider client or connect with " ++
    "protocol v1"

/-- The refusal of a generation-2 connector whose token carries rules. -/
def refuseSealedConnector (R : Registry) (auth : WSClientAuth) : Except String WSClientAuth :=
  if protocolMajor auth.version = protocolMajor protocolVersionV2 ∧ auth.roles.connector ∧
      ¬ AccessControl.empty (R.connectorTokenAC.lookup auth.token) then .error connectorRulesText
  else .ok auth

/-- The lookup of the token, up to the check of the rules. -/
def validateToken (w : IntSize) (L : Lib) (V : VersionLib) (R : Registry) :
    Credentials → Except String WSClientAuth
  | .url token version reverse =>
    if token.length ≠ 64 then .error "invalid token format"
    else
      match R.sha256TokenMap.lookup token with
      | none => .error "invalid token"
      | some original =>
        let roles := urlRoles R original reverse
        if roles.any then .ok ⟨original, R.reverseTokenOf original, roles, urlVersion V version⟩
        else .error "invalid token"
  | .readFailed e => .error ("invalid auth message: " ++ e.text)
  | .frame data =>
    match parseMessageWithVersion w L data with
    | (.ok (.auth m), version) =>
      if (frameRoles R m).any then .ok ⟨m.token, R.reverseTokenOf m.token, frameRoles R m, version⟩
      else .error "invalid token"
    | (.ok _, _) => .error "invalid auth message"
    | (.error (.error e), _) => .error ("invalid auth message: " ++ e.text)
    -- a panic ends the process, so no link is established either
    | (.error .panic, _) => .error ""

/-- Authentication: the established link, or the reason of the refusal. -/
def authenticateWebSocketClient (w : IntSize) (L : Lib) (V : VersionLib) (R : Registry)
    (credentials : Credentials) : Except String WSClientAuth :=
  (validateToken w L V R credentials).bind (refuseSealedConnector R)

end LinkSocks
