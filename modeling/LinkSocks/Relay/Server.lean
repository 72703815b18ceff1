import LinkSocks.Go.Maps
import LinkSocks.Relay.Auth

/-!
# The registries of the relay

The relay keeps the links of each token in a list and serves requests from it
in turn.  `getNextWebSocketLocked` restricts the choice to one generation, and
reads generation 0 as no restriction at all.  Channels have a buffer from the
moment they are requested, so that nothing is lost before a provider is bound.
-/

namespace LinkSocks

open Go List

/-- A link object, `*WSConn`.  It exists, and has a version, from before the
client on it is registered. -/
abbrev Link := ℕ

structure ClientInfo where
  id : UUID
  conn : Link
  deriving DecidableEq

/-- A buffered Go channel.  What was sent before it was closed can still be
received. -/
structure Queue where
  items : List BaseMessage
  closed : Bool

def orphanDataQueueSize : ℕ := 1000

/-- The state that `s.mu` and `connCache.mu` protect, with the version of each
link.  A queue is an object of its own: a pump keeps the one it has taken when
the channel is given another. -/
structure Server where
  version : Link → UInt8
  registry : Registry
  /-- Reverse tokens with `AllowManageConnector`. -/
  manages : GoMap GoString Unit
  internalTokens : GoMap GoString (List GoString)
  tokenClients : GoMap GoString (List ClientInfo)
  tokenIndexes : GoMap GoString ℕ
  /-- `InternalToken` of each registered client. -/
  clientMeta : GoMap UUID GoString
  channelIDToClient : GoMap UUID Link
  channelIDToConnector : GoMap UUID Link
  tokenCache : GoMap GoString (List UUID)
  orphanQueues : GoMap UUID ℕ
  queues : List Queue

def Server.majorOf (s : Server) (l : Link) : UInt8 := protocolMajor (s.version l)

def Server.setProtocolVersion (s : Server) (l : Link) (v : UInt8) : Server :=
  { s with version := Function.update s.version l v }

/-- Between which links channels are mapped, and under which tokens they are
filed, is as it was. -/
structure Server.SameMapping (s s' : Server) : Prop where
  client : s'.channelIDToClient = s.channelIDToClient
  connector : s'.channelIDToConnector = s.channelIDToConnector
  tokenCache : s'.tokenCache = s.tokenCache

/-- The channels and the links are as they were. -/
structure Server.SameChannels (s s' : Server) : Prop extends s.SameMapping s' where
  version : s'.version = s.version
  orphanQueues : s'.orphanQueues = s.orphanQueues
  queues : s'.queues = s.queues

/-! ## Choice of a provider -/

/-- The loop of `getNextWebSocketLocked`, from the cursor once around. -/
def Server.nextMatching (s : Server) (clients : List ClientInfo)
    (currentIndex : ℕ) (major : UInt8) : Option Link :=
  (List.range clients.length).findSome? fun offset =>
    (clients[(currentIndex + offset) % clients.length]?).bind fun c =>
      if major = 0 ∨ s.majorOf c.conn = major then some c.conn else none

def Server.setTokenIndex (s : Server) (token : GoString) (index : ℕ) : Server :=
  { s with tokenIndexes := s.tokenIndexes.insert token index }

def Server.getNextWebSocketLocked (s : Server) (token : GoString)
    (major : UInt8) : Except String Link × Server :=
  match (s.tokenClients.lookup token).getD [] with
  | [] => (.error "no available clients for token", s)
  | c :: cs =>
    let currentIndex := (s.tokenIndexes.lookup token).getD 0
    -- the cursor moves on whether or not a link is found
    let s' := s.setTokenIndex token ((currentIndex + 1) % (c :: cs).length)
    match s.nextMatching (c :: cs) currentIndex major with
    | some conn => (.ok conn, s')
    | none =>
      (.error ("no available clients for token with protocol major " ++ toString major.toNat), s')

/-- The link under the cursor of a token. -/
def Server.underCursor (s : Server) (token : GoString) : Option Link :=
  let clients := (s.tokenClients.lookup token).getD []
  (clients[(s.tokenIndexes.lookup token).getD 0 % clients.length]?).map ClientInfo.conn

theorem Server.getNextWebSocketLocked_same (s : Server) (token : GoString) (major : UInt8) :
    s.SameChannels (s.getNextWebSocketLocked token major).2 := by
  fun_cases Server.getNextWebSocketLocked s token major <;> exact ⟨⟨rfl, rfl, rfl⟩, rfl, rfl, rfl⟩

variable {s : Server} {token : GoString} {major : UInt8} {conn : Link}

theorem Server.nextMatching_of_ok (h : (s.getNextWebSocketLocked token major).1 = .ok conn) :
    s.nextMatching ((s.tokenClients.lookup token).getD [])
      ((s.tokenIndexes.lookup token).getD 0) major = some conn := by
  revert h
  fun_cases Server.getNextWebSocketLocked s token major <;> intro h <;> cases h
  case case2 hclients _ _ hfound => exact hclients ▸ hfound

/-- The link is one of the token, of the generation that is asked for. -/
theorem Server.getNextWebSocketLocked_mem
    (h : (s.getNextWebSocketLocked token major).1 = .ok conn) :
    ∃ c ∈ (s.tokenClients.lookup token).getD [], c.conn = conn ∧
      (major = 0 ∨ s.majorOf c.conn = major) := by
  obtain ⟨offset, -, hoffset⟩ := exists_of_findSome?_eq_some (Server.nextMatching_of_ok h)
  obtain ⟨client, hmem, hclient⟩ := Option.bind_eq_some_iff.mp hoffset
  split_ifs at hclient with hmatch
  exact ⟨client, mem_of_getElem? hmem, Option.some.inj hclient, hmatch⟩

/-- A chosen link speaks the generation that was asked for, unless that was
generation 0: then it is the link under the cursor, whatever it speaks. -/
theorem Server.getNextWebSocketLocked_ok
    (h : (s.getNextWebSocketLocked token major).1 = .ok conn) :
    (major ≠ 0 ∧ s.majorOf conn = major) ∨ (major = 0 ∧ s.underCursor token = some conn) := by
  obtain ⟨c, hc, rfl, hmatch⟩ := Server.getNextWebSocketLocked_mem h
  by_cases hmajor : major = 0
  · -- the first position of the loop already matches
    have hfound := Server.nextMatching_of_ok h
    rw [Server.underCursor]
    generalize (s.tokenClients.lookup token).getD [] = clients at *
    obtain ⟨n, hn⟩ := Nat.exists_eq_succ_of_ne_zero (length_pos_of_mem hc).ne'
    have hlt : (s.tokenIndexes.lookup token).getD 0 % clients.length <
        clients.length := Nat.mod_lt _ (length_pos_of_mem hc)
    rw [Server.nextMatching, hn, Nat.succ_eq_add_one, range_succ_eq_map,
      findSome?_cons, ← Nat.succ_eq_add_one, ← hn, Nat.add_zero, getElem?_eq_getElem hlt] at hfound
    rw [getElem?_eq_getElem hlt]
    simpa [hmajor] using hfound
  · exact .inl ⟨hmajor, hmatch.resolve_left hmajor⟩

/-! ## Buffers of channels -/

def Server.newOrphanQueue (s : Server) (channelID : UUID) : Server :=
  { s with
    orphanQueues := s.orphanQueues.insert channelID s.queues.length
    queues := s.queues ++ [⟨[], false⟩] }

def Server.reserveOrphanQueue (s : Server) (channelID : UUID) : Server :=
  match s.orphanQueues.lookup channelID with
  | some _ => s
  | none => s.newOrphanQueue channelID

def Server.pumpQueueAlive (s : Server) (channelID : UUID) : Bool :=
  (s.orphanQueues.lookup channelID).isSome

/-- A send that does not block: the message is dropped when the queue is
full. -/
def Queue.trySend (q : Queue) (msg : BaseMessage) : Queue :=
  if q.items.length < orphanDataQueueSize then { q with items := q.items ++ [msg] }
  else q

def Server.sendQueue (s : Server) (q : ℕ) (msg : BaseMessage) : Server :=
  { s with queues := s.queues.modify q (Queue.trySend · msg) }

def Server.closeQueue (s : Server) (q : ℕ) : Server :=
  { s with queues := s.queues.modify q fun q => { q with closed := true } }

def Server.bufferOrphanPayload (s : Server) (channelID : UUID) (msg : BaseMessage) : Server :=
  let s := s.reserveOrphanQueue channelID
  match s.orphanQueues.lookup channelID with
  | some q => s.sendQueue q msg
  | none => s

/-- `routeConnectorPayload`.  A channel that is bound but has no buffer is
written to directly, which changes nothing here. -/
def Server.routeConnectorPayload (s : Server) (channelID : UUID) (msg : BaseMessage) : Server :=
  match s.orphanQueues.lookup channelID with
  | some q => s.sendQueue q msg
  | none =>
    match s.channelIDToClient.lookup channelID with
    | some _ => s
    | none => s.bufferOrphanPayload channelID msg

def Server.expireOrphanData (s : Server) (channelID : UUID) : Server :=
  match s.orphanQueues.lookup channelID, s.channelIDToClient.lookup channelID with
  | some q, none => { s with orphanQueues := s.orphanQueues.erase channelID }.closeQueue q
  | _, _ => s

def Server.cleanupConnectorChannel (s : Server) (channelID : UUID) : Server :=
  let s' := { s with
    channelIDToClient := s.channelIDToClient.erase channelID
    channelIDToConnector := s.channelIDToConnector.erase channelID
    orphanQueues := s.orphanQueues.erase channelID }
  match s.orphanQueues.lookup channelID with
  | some q => s'.closeQueue q
  | none => s'

/-! ## Clients come and go -/

def Server.registerWebSocketClient (s : Server) (clientID : UUID)
    (conn : Link) (internalToken : GoString) : Server :=
  { s with
    tokenClients := s.tokenClients.insert internalToken
      ((s.tokenClients.lookup internalToken).getD [] ++ [⟨clientID, conn⟩])
    clientMeta := s.clientMeta.insert clientID internalToken }

def Server.cleanupConnection (s : Server) (clientID : UUID) (token : GoString) : Server :=
  let s' := { s with clientMeta := s.clientMeta.erase clientID }
  match s.tokenClients.lookup token with
  | none => s'
  | some clients =>
    if token = [] then s'
    else
      match clients.filter (·.id ≠ clientID) with
      | [] =>
        { s' with
          tokenClients := s.tokenClients.erase token
          tokenIndexes := s.tokenIndexes.erase token }
      | rest => { s' with tokenClients := s.tokenClients.insert token rest }

theorem Server.cleanupConnection_eq (s : Server) (clientID : UUID) (token : GoString) :
    ∃ tokenClients tokenIndexes, s.cleanupConnection clientID token =
      { s with clientMeta := s.clientMeta.erase clientID, tokenClients, tokenIndexes } := by
  fun_cases Server.cleanupConnection s clientID token <;> exact ⟨_, _, rfl⟩

theorem Server.cleanupConnection_same (s : Server) (clientID : UUID)
    (token : GoString) : s.SameChannels (s.cleanupConnection clientID token) := by
  obtain ⟨_, _, h⟩ := s.cleanupConnection_eq clientID token
  exact h ▸ ⟨⟨rfl, rfl, rfl⟩, rfl, rfl, rfl⟩

/-- The internal token given to a reverse client that may manage
connectors. -/
def Server.addInternalToken (s : Server) (token internalToken : GoString) : Server :=
  { s with
    tokenIndexes := s.tokenIndexes.insert internalToken 0
    manages := s.manages.insert internalToken ()
    registry := { s.registry with tokens := s.registry.tokens.insert internalToken (-1) }
    internalTokens := s.internalTokens.insert token
      ((s.internalTokens.lookup token).getD [] ++ [internalToken]) }

/-! ## Removal of a token -/

/-- The buffers are forgotten here, not closed. -/
def Server.forgetChannel (s : Server) (channelID : UUID) : Server :=
  { s with
    channelIDToClient := s.channelIDToClient.erase channelID
    channelIDToConnector := s.channelIDToConnector.erase channelID
    orphanQueues := s.orphanQueues.erase channelID }

def Server.removeInternalToken (s : Server) (internalToken : GoString) : Server :=
  { s with
    tokenClients := s.tokenClients.erase internalToken
    tokenIndexes := s.tokenIndexes.erase internalToken
    manages := s.manages.erase internalToken
    registry := { s.registry with tokens := s.registry.tokens.erase internalToken } }

/-- The channels are looked up under the connector token, although the pump
files them under the reverse token. -/
def Server.removeConnectorToken (s : Server) (token : GoString) : Server :=
  let ids := (s.tokenCache.lookup token).getD []
  let s := ids.foldl Server.forgetChannel s
  { s with
    tokenCache := s.tokenCache.erase token
    tokenClients := s.tokenClients.erase token
    registry := { s.registry with
      connectorTokens := s.registry.connectorTokens.erase token
      connectorTokenAC := s.registry.connectorTokenAC.erase token } }

def Server.removeReverseToken (s : Server) (token : GoString) : Server :=
  let connectors := s.registry.connectorTokens.keys.filter fun c =>
    s.registry.connectorTokens.lookup c = some token
  let s := connectors.foldl Server.removeConnectorToken s
  { s with
    tokenClients := s.tokenClients.erase token
    tokenIndexes := s.tokenIndexes.erase token
    manages := s.manages.erase token
    registry := { s.registry with tokens := s.registry.tokens.erase token } }

def Server.removeForwardToken (s : Server) (token : GoString) : Server :=
  { s with
    tokenClients := s.tokenClients.erase token
    registry := { s.registry with forwardTokens := s.registry.forwardTokens.erase token } }

def Server.removeToken (s : Server) (token : GoString) : Server :=
  let internal := (s.internalTokens.lookup token).getD []
  let s := internal.foldl Server.removeInternalToken s
  let s := { s with internalTokens := s.internalTokens.erase token }
  if (s.registry.connectorTokens.lookup token).isSome then s.removeConnectorToken token
  else if (s.registry.tokens.lookup token).isSome then s.removeReverseToken token
  else if (s.registry.forwardTokens.lookup token).isSome then s.removeForwardToken token
  else s

/-! ## What a removed token leaves -/

def Server.cacheOf (s : Server) (token : GoString) : List UUID :=
  (s.tokenCache.lookup token).getD []

/-- The channels `ids` and the tokens `tokens` of the cache are taken out of the
maps. -/
structure Server.Unmaps (ids : List UUID) (tokens : List GoString) (s s' : Server) : Prop where
  client : Erases ids s.channelIDToClient s'.channelIDToClient
  connector : Erases ids s.channelIDToConnector s'.channelIDToConnector
  orphanQueues : Erases ids s.orphanQueues s'.orphanQueues
  tokenCache : Erases tokens s.tokenCache s'.tokenCache

/-- So it is, and no buffer is closed. -/
structure Server.Forgets (ids : List UUID) (tokens : List GoString) (s s' : Server) : Prop
    extends s.Unmaps ids tokens s' where
  queues : s'.queues = s.queues
  version : s'.version = s.version

/-- The server after some connector tokens have been removed, with the channels
that are filed under them. -/
structure Server.DropsConnectorTokens (tokens : List GoString) (s s' : Server) : Prop
    extends s.Forgets (tokens.flatMap s.cacheOf) tokens s' where
  registry : s'.registry = { s.registry with
    connectorTokens := eraseAll s.registry.connectorTokens tokens
    connectorTokenAC := eraseAll s.registry.connectorTokenAC tokens }
  tokenClients : s'.tokenClients = eraseAll s.tokenClients tokens
  manages : s'.manages = s.manages
  internalTokens : s'.internalTokens = s.internalTokens
  clientMeta : s'.clientMeta = s.clientMeta

namespace Server

variable {s s' s'' : Server} {ids ids' : List UUID} {tokens tokens' : List GoString}

theorem Unmaps.mem_cacheOf (h : s.Unmaps ids tokens s') {token : GoString}
    {id : UUID} : id ∈ s'.cacheOf token ↔ token ∉ tokens ∧ id ∈ s.cacheOf token := by
  rw [cacheOf, cacheOf]
  by_cases htoken : token ∈ tokens
  · simp [h.tokenCache.erased token htoken, htoken]
  · simp [h.tokenCache.kept token htoken, htoken]

theorem cleanupConnectorChannel_unmaps (s : Server) (channelID : UUID) :
    s.Unmaps [channelID] [] (s.cleanupConnectorChannel channelID) := by
  rw [cleanupConnectorChannel]
  split <;> exact ⟨.of_erase _ _, .of_erase _ _, .of_erase _ _, .refl _⟩

theorem SameChannels.forgets (h : s.SameChannels s') : s.Forgets [] [] s' := by
  refine ⟨⟨?_, ?_, ?_, ?_⟩, h.queues, h.version⟩
  all_goals simp only [h.client, h.connector, h.orphanQueues, h.tokenCache]
  all_goals exact .refl _

theorem Forgets.trans (h : s.Forgets ids tokens s') (h' : s'.Forgets ids' tokens' s'') :
    s.Forgets (ids ++ ids') (tokens ++ tokens') s'' :=
  ⟨⟨h.client.trans h'.client, h.connector.trans h'.connector, h.orphanQueues.trans h'.orphanQueues,
    h.tokenCache.trans h'.tokenCache⟩, h'.queues.trans h.queues, h'.version.trans h.version⟩

theorem Forgets.congr (h : s.Forgets ids tokens s') (hids : ∀ x, x ∈ ids ↔ x ∈ ids') :
    s.Forgets ids' tokens s' :=
  ⟨⟨h.client.congr hids, h.connector.congr hids, h.orphanQueues.congr hids, h.tokenCache⟩,
    h.queues, h.version⟩

theorem foldl_forgetChannel (ids : List UUID) (s : Server) :
    ids.foldl forgetChannel s = { s with
      channelIDToClient := eraseAll s.channelIDToClient ids
      channelIDToConnector := eraseAll s.channelIDToConnector ids
      orphanQueues := eraseAll s.orphanQueues ids } := by
  induction ids generalizing s with
  | nil => rfl
  | cons id ids ih =>
    rw [foldl_cons, ih]
    rfl

theorem removeConnectorToken_drops (s : Server) (token : GoString) :
    s.DropsConnectorTokens [token] (s.removeConnectorToken token) := by
  rw [removeConnectorToken, foldl_forgetChannel]
  refine ⟨⟨⟨?_, ?_, ?_, .of_erase token _⟩, rfl, rfl⟩, rfl, rfl, rfl, rfl, rfl⟩
  all_goals rw [flatMap_singleton]
  all_goals exact .of_eraseAll _ _

theorem foldl_removeConnectorToken_drops (tokens : List GoString) (s : Server) :
    s.DropsConnectorTokens tokens (tokens.foldl removeConnectorToken s) := by
  induction tokens generalizing s with
  | nil => exact ⟨SameChannels.forgets ⟨⟨rfl, rfl, rfl⟩, rfl, rfl, rfl⟩, rfl, rfl, rfl, rfl, rfl⟩
  | cons token tokens ih =>
    have hfirst := s.removeConnectorToken_drops token
    have hrest := ih (s.removeConnectorToken token)
    have hforgets := hfirst.toForgets.trans hrest.toForgets
    refine ⟨hforgets.congr fun id => ?_, ?_, ?_, hrest.manages.trans hfirst.manages,
      hrest.internalTokens.trans hfirst.internalTokens, hrest.clientMeta.trans hfirst.clientMeta⟩
    · simp only [mem_append, mem_flatMap, hfirst.mem_cacheOf, mem_singleton, flatMap_cons,
        flatMap_nil, append_nil]
      -- what the first token had is gone already when it comes again
      constructor
      · rintro (hmem | ⟨t, ht, -, hmem⟩)
        · exact .inl hmem
        · exact .inr ⟨t, ht, hmem⟩
      · rintro (hmem | ⟨t, ht, hmem⟩)
        · exact .inl hmem
        · by_cases heq : t = token
          · exact .inl (heq ▸ hmem)
          · exact .inr ⟨t, ht, heq, hmem⟩
    · exact hrest.registry.trans (by rw [hfirst.registry]; rfl)
    · exact hrest.tokenClients.trans (by rw [hfirst.tokenClients]; rfl)

theorem foldl_removeInternalToken (tokens : List GoString) (s : Server) :
    tokens.foldl removeInternalToken s = { s with
      tokenClients := eraseAll s.tokenClients tokens
      tokenIndexes := eraseAll s.tokenIndexes tokens
      manages := eraseAll s.manages tokens
      registry := { s.registry with tokens := eraseAll s.registry.tokens tokens } } := by
  induction tokens generalizing s with
  | nil => rfl
  | cons token tokens ih =>
    rw [foldl_cons, ih]
    rfl

/-- The connector tokens that a removal of the token removes. -/
def removedConnectors (s : Server) (token : GoString) : List GoString :=
  if token ∈ s.registry.connectorTokens then [token]
  else if token ∈ s.registry.tokens ∧ token ∉ (s.internalTokens.lookup token).getD [] then
    s.registry.connectorTokens.keys.filter fun c => s.registry.connectorTokens.lookup c = some token
  else []

/-- The channels that a removal of the token finds. -/
def foundChannels (s : Server) (token : GoString) : List UUID :=
  (s.removedConnectors token).flatMap s.cacheOf

/-- A removed token takes the channels out of the maps that it finds, and leaves
everything else of channels alone. -/
theorem removeToken_forgets (s : Server) (token : GoString) :
    s.Forgets (s.foundChannels token) (s.removedConnectors token) (s.removeToken token) := by
  have htokens : token ∈ eraseAll s.registry.tokens ((s.internalTokens.lookup token).getD []) ↔
      token ∈ s.registry.tokens ∧ token ∉ (s.internalTokens.lookup token).getD [] := by
    rw [mem_eraseAll, and_comm]
  rw [removeToken, foldl_removeInternalToken, foundChannels, removedConnectors]
  simp only [AList.lookup_isSome, htokens]
  split_ifs
  · exact { (removeConnectorToken_drops _ token).toForgets with }
  · exact { (foldl_removeConnectorToken_drops _ _).toForgets with }
  all_goals exact SameChannels.forgets ⟨⟨rfl, rfl, rfl⟩, rfl, rfl, rfl⟩

end Server

/-! ## Versions are left alone -/

section Versions

variable (s : Server)

@[simp] theorem Server.reserveOrphanQueue_version (channelID : UUID) :
    (s.reserveOrphanQueue channelID).version = s.version := by
  rw [Server.reserveOrphanQueue]
  split <;> rfl

@[simp] theorem Server.bufferOrphanPayload_version (channelID : UUID) (msg : BaseMessage) :
    (s.bufferOrphanPayload channelID msg).version = s.version := by
  rw [Server.bufferOrphanPayload]
  split <;> simp [Server.sendQueue]

@[simp] theorem Server.routeConnectorPayload_version (channelID : UUID) (msg : BaseMessage) :
    (s.routeConnectorPayload channelID msg).version = s.version := by
  fun_cases Server.routeConnectorPayload s channelID msg <;> simp [Server.sendQueue]

@[simp] theorem Server.expireOrphanData_version (channelID : UUID) :
    (s.expireOrphanData channelID).version = s.version := by
  rw [Server.expireOrphanData]
  split <;> rfl

@[simp] theorem Server.cleanupConnectorChannel_version (channelID : UUID) :
    (s.cleanupConnectorChannel channelID).version = s.version := by
  rw [Server.cleanupConnectorChannel]
  split <;> rfl

@[simp] theorem Server.removeToken_version (token : GoString) :
    (s.removeToken token).version = s.version := (s.removeToken_forgets token).version

end Versions

/-! ## Channels that stay where they are -/

section Mapping

variable (s : Server)

theorem Server.reserveOrphanQueue_sameMapping (channelID : UUID) :
    s.SameMapping (s.reserveOrphanQueue channelID) := by
  rw [Server.reserveOrphanQueue]
  split <;> exact ⟨rfl, rfl, rfl⟩

theorem Server.bufferOrphanPayload_sameMapping (channelID : UUID)
    (msg : BaseMessage) : s.SameMapping (s.bufferOrphanPayload channelID msg) := by
  have h := s.reserveOrphanQueue_sameMapping channelID
  rw [Server.bufferOrphanPayload]
  split
  · exact ⟨h.client, h.connector, h.tokenCache⟩
  · exact h

theorem Server.routeConnectorPayload_sameMapping (channelID : UUID)
    (msg : BaseMessage) : s.SameMapping (s.routeConnectorPayload channelID msg) := by
  fun_cases Server.routeConnectorPayload s channelID msg
  case case3 => exact s.bufferOrphanPayload_sameMapping channelID msg
  all_goals exact ⟨rfl, rfl, rfl⟩

theorem Server.expireOrphanData_sameMapping (channelID : UUID) :
    s.SameMapping (s.expireOrphanData channelID) := by
  rw [Server.expireOrphanData]
  split <;> exact ⟨rfl, rfl, rfl⟩

end Mapping

end LinkSocks
