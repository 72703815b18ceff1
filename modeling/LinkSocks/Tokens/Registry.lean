import LinkSocks.Go.Hex
import LinkSocks.Go.Maps
import LinkSocks.Relay.Teardown

/-!
# Tokens and their clients

The calls that add tokens, the steps of a handshake that touch the registries,
the end of a connection and the removal of a token.  `Server` has the tables
that channels depend on; `TokenServer` adds the registered clients, the local
proxies and the rules of forward tokens.
-/

namespace LinkSocks

open Go

/-! ## Hashes and ports -/

/-- `sha256.Sum256`. -/
structure Sha256 where
  sum : GoString → Bytes
  length_sum : ∀ text, (sum text).length = 32

/-- The hash in the form in which a client presents it in the URL. -/
def Sha256.hex (H : Sha256) (text : GoString) : GoString := hexEncode (H.sum text)

theorem Sha256.length_hex (H : Sha256) (text : GoString) : (H.hex text).length = 64 := by
  rw [Sha256.hex, hexEncode_length, H.length_sum]

theorem hexEncode_injective : Function.Injective hexEncode := by
  intro b b' h
  have hdecode := congrArg hexDecode h
  rw [hexDecode_hexEncode, hexDecode_hexEncode] at hdecode
  exact Except.ok.inj hdecode

structure PortPool where
  ports : List Int
  usedPorts : List Int

/-- The port is in use from now on. -/
def PortPool.take (p : PortPool) (port : Int) : Int × PortPool :=
  (port, { p with usedPorts := port :: p.usedPorts })

/-- `Get`; the search of the pool starts at a random index. -/
def PortPool.get (p : PortPool) (requestedPort : Int) (startIdx : ℕ) : Int × PortPool :=
  if requestedPort ≠ 0 then
    if requestedPort ∉ p.usedPorts then p.take requestedPort else (0, p)
  else
    match (p.ports.rotate startIdx).find? (· ∉ p.usedPorts) with
    | some port => p.take port
    | none => (0, p)

def PortPool.put (p : PortPool) (port : Int) : PortPool :=
  { p with usedPorts := p.usedPorts.filter (· ≠ port) }

/-! ## The server -/

/-- The registries of the server with its clients, `clientMeta` giving the
role of each. -/
structure TokenServer extends Server where
  forwardTokenAC : GoMap GoString AccessControl
  clients : GoMap UUID Link
  clientRole : GoMap UUID DirectClientRole
  portPool : PortPool
  /-- The ports with a running local proxy. -/
  socksTasks : GoMap Int Unit

/-- Settings of the server and library calls. -/
structure TokenEnv where
  w : IntSize
  lib : Lib
  versions : VersionLib
  sha256 : Sha256
  transportGrace : Int
  /-- Local proxies are started before their clients come. -/
  startsProxies : Bool

structure ReverseTokenOptions where
  token : GoString
  port : Int
  allowManageConnector : Bool

namespace TokenServer

variable (E : TokenEnv) (s : TokenServer)

/-! ### Adding tokens

A call without a token is given a random one, `generated`. -/

def tokenExists (token : GoString) : Bool :=
  (s.registry.forwardTokens.lookup token).isSome || (s.registry.tokens.lookup token).isSome ||
    (s.registry.connectorTokens.lookup token).isSome

def rememberHash (token : GoString) : TokenServer :=
  { s with registry := { s.registry with
      sha256TokenMap := s.registry.sha256TokenMap.insert (E.sha256.hex token) token } }

def anonymousText : String := "'anonymous' is reserved and cannot be used as a token"

def addForwardToken (token generated : GoString) : Except String GoString × TokenServer :=
  if token = ascii "anonymous" then (.error anonymousText, s)
  else if token ≠ [] ∧ s.tokenExists token then (.error "token already exists", s)
  else
    let token := if token = [] then generated else token
    let s := s.rememberHash E token
    (.ok token, { s with registry := { s.registry with
      forwardTokens := s.registry.forwardTokens.insert token () } })

def addReverseToken (opts : ReverseTokenOptions) (generated : GoString)
    (startIdx : ℕ) : Except String (GoString × Int) × TokenServer :=
  if opts.token = ascii "anonymous" then (.error anonymousText, s)
  else if opts.token ≠ [] ∧ s.tokenExists opts.token then (.error "token already exists", s)
  else
    let token := if opts.token = [] then generated else opts.token
    let s := s.rememberHash E token
    if opts.allowManageConnector then
      (.ok (token, -1), { s with
        registry := { s.registry with tokens := s.registry.tokens.insert token (-1) }
        manages := s.manages.insert token () })
    else
      match s.registry.tokens.lookup token with
      | some existingPort => (.ok (token, existingPort), s)
      | none =>
        let (assignedPort, pool) := s.portPool.get opts.port startIdx
        if assignedPort = 0 then
          (.error ("cannot allocate port: " ++ toString opts.port), { s with portPool := pool })
        else
          (.ok (token, assignedPort), { s with
            registry := { s.registry with tokens := s.registry.tokens.insert token assignedPort }
            manages := s.manages.erase token
            portPool := pool
            socksTasks :=
              if E.startsProxies then s.socksTasks.insert assignedPort ()
              else s.socksTasks })

def addConnectorToken (connectorToken reverseToken generated : GoString) :
    Except String GoString × TokenServer :=
  if connectorToken = ascii "anonymous" then
    (.error "'anonymous' is reserved and cannot be used as a connector token", s)
  else
    let connectorToken := if connectorToken = [] then generated else connectorToken
    if (s.registry.tokens.lookup reverseToken).isNone then
      (.error "reverse token does not exist", s)
    else
      match s.registry.connectorTokens.lookup connectorToken with
      | some rt =>
        if rt = reverseToken then (.ok connectorToken, s)
        else (.error "connector token already exists", s)
      | none =>
        if s.tokenExists connectorToken then (.error "connector token already exists", s)
        else
          let s := s.rememberHash E connectorToken
          (.ok connectorToken, { s with registry := { s.registry with
            connectorTokens := s.registry.connectorTokens.insert connectorToken reverseToken } })

/-- `AddForwardTokenWithRules`; the rules may not parse. -/
def addForwardTokenWithRules (token generated : GoString)
    (rules : Except String AccessControl) : Except String GoString × TokenServer :=
  match rules with
  | .error e => (.error e, s)
  | .ok ac =>
    match s.addForwardToken E token generated with
    | (.error e, s) => (.error e, s)
    | (.ok tok, s) => (.ok tok, { s with forwardTokenAC := s.forwardTokenAC.insert tok ac })

def addConnectorTokenWithRules (connectorToken reverseToken generated : GoString)
    (rules : Except String AccessControl) : Except String GoString × TokenServer :=
  match rules with
  | .error e => (.error e, s)
  | .ok ac =>
    match s.addConnectorToken E connectorToken reverseToken generated with
    | (.error e, s) => (.error e, s)
    | (.ok tok, s) =>
      (.ok tok, { s with registry := { s.registry with
        connectorTokenAC := s.registry.connectorTokenAC.insert tok ac } })

/-! ### Clients -/

/-- The last part of `authenticateWebSocketClient`: a reverse client that may
manage connectors gets an internal token of its own. -/
def assignInternalToken (auth : WSClientAuth) (candidate : GoString) : GoString × TokenServer :=
  if auth.roles.reverse ∧ (s.manages.lookup auth.token).isSome then
    (candidate, { s with toServer := s.addInternalToken auth.token candidate })
  else (auth.token, s)

def startReverseSocksServer (token : GoString) : TokenServer :=
  let socksPort := (s.registry.tokens.lookup token).getD 0
  if 0 < socksPort ∧ (s.socksTasks.lookup socksPort).isNone then
    { s with socksTasks := s.socksTasks.insert socksPort () }
  else s

end TokenServer

/-- The internal token that a client would get: the instance it names, or a new
identifier if it authenticates in the URL. -/
def Credentials.internalToken (E : TokenEnv) (fresh : UUID) : Credentials → GoString
  | .frame data =>
    match parseMessageWithVersion E.w E.lib data with
    | (.ok (.auth m), _) => E.lib.uuid.string m.instanceID
    | _ => []
  | _ => E.lib.uuid.string fresh

/-- The role that a client is registered with. -/
def Roles.registered (r : Roles) : DirectClientRole :=
  if r.reverse then .reverse else if r.connector then .connector else .forward

namespace TokenServer

variable (s : TokenServer)

/-- `registerWebSocketClient`, once the response has been written. -/
def registerWebSocketClient (clientID : UUID) (conn : Link) (auth : WSClientAuth)
    (internalToken : GoString) : TokenServer :=
  { s with
    toServer := s.toServer.registerWebSocketClient clientID conn internalToken
    clients := s.clients.insert clientID conn
    clientRole := s.clientRole.insert clientID auth.roles.registered }

/-- The role of a client that ends, found through its token if it was never
registered. -/
def departingRole (clientID : UUID) (token : GoString) : Option DirectClientRole :=
  (s.clientRole.lookup clientID).or
    (if token = [] ∨ (s.tokenClients.lookup token).isNone then none
    else if (s.registry.tokens.lookup token).isSome then some .reverse
    else if (s.registry.connectorTokens.lookup token).isSome then some .connector
    else none)

/-- `cleanupConnection`, with the channels for which it starts a timer. -/
def cleanupConnection (transportGrace : Int) (clientID : UUID) (token : GoString) :
    TokenServer × List UUID :=
  if clientID = UUID.nil then (s, [])
  else
    ({ s with
        toServer := s.toServer.cleanupConnection clientID token
        clients := s.clients.erase clientID
        clientRole := s.clientRole.erase clientID },
      match s.clients.lookup clientID, s.departingRole clientID token with
      | some ws, some role => s.toServer.scheduleChannelGraceCleanup transportGrace role ws
      | _, _ => [])

/-! ### Removing tokens -/

/-- The identifiers of the clients of a token. -/
def clientsOf (token : GoString) : List UUID :=
  ((s.tokenClients.lookup token).getD []).map ClientInfo.id

/-- The registered clients, without those of the tokens. -/
def closeClients (tokens : List GoString) : GoMap UUID Link :=
  eraseAll s.clients (tokens.flatMap s.clientsOf)

/-- The connector tokens of a reverse token. -/
def connectorsOf (token : GoString) : List GoString :=
  s.registry.connectorTokens.keys.filter fun c => s.registry.connectorTokens.lookup c = some token

def internalOf (token : GoString) : List GoString := (s.internalTokens.lookup token).getD []

def removeInternalTokens (token : GoString) : TokenServer :=
  { s with
    toServer := { (s.internalOf token).foldl Server.removeInternalToken s.toServer with
      internalTokens := s.internalTokens.erase token }
    clients := s.closeClients (s.internalOf token) }

def removeConnectorToken (token : GoString) : TokenServer :=
  { s with
    toServer := s.toServer.removeConnectorToken token
    clients := s.closeClients [token] }

/-- The local proxy is stopped and its port given back. -/
def removeReverseToken (token : GoString) (port : Int) : TokenServer :=
  { s with
    toServer := s.toServer.removeReverseToken token
    clients := s.closeClients (s.connectorsOf token ++ [token])
    socksTasks := s.socksTasks.erase port
    portPool := s.portPool.put port }

def removeForwardToken (token : GoString) : TokenServer :=
  { s with
    toServer := s.toServer.removeForwardToken token
    clients := s.closeClients [token]
    forwardTokenAC := s.forwardTokenAC.erase token }

/-- The branches of `RemoveToken`; a token that is of two kinds is removed as
one of them. -/
def removeBranch (token : GoString) : TokenServer :=
  if (s.registry.connectorTokens.lookup token).isSome then s.removeConnectorToken token
  else
    match s.registry.tokens.lookup token with
    | some port => s.removeReverseToken token port
    | none =>
      if (s.registry.forwardTokens.lookup token).isSome then s.removeForwardToken token
      else s

def removeToken (token : GoString) : TokenServer :=
  (s.removeInternalTokens token).removeBranch token

end TokenServer

end LinkSocks
