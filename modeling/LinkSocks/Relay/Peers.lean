import LinkSocks.Relay.Pairing

/-!
# Channels bound by their peers

A `ChannelBind` message lets a peer of a direct session attach itself to a
channel.  It is handled by two functions in a row: `bindDirectChannel` fills in
the sides of the channel that are missing, and `bindChannelPeer` then sets the
side of the sender whether it is missing or not.  What is kept of a channel that
has both sides depends on the role of the sender only.
-/

namespace LinkSocks

open Go List Option AList

inductive DirectClientRole where
  | forward
  | reverse
  | connector
  deriving DecidableEq

/-- `directClientMeta`, as far as channels are bound by it. -/
structure DirectClientMeta where
  internalToken : GoString
  role : DirectClientRole
  /-- `LastCapabilities.SessionID` -/
  lastCapabilities : Option UUID

structure Directory where
  clients : GoMap UUID Link
  clientMeta : GoMap UUID DirectClientMeta

/-- The loop goes over a Go map, in an order that is not determined. -/
def Directory.findDirectPeer (d : Directory) (order : List UUID)
    (sessionID : UUID) (source : Link) : Option Link :=
  if sessionID = UUID.nil then none
  else
    order.findSome? fun clientID =>
      (d.clientMeta.lookup clientID).bind fun info =>
        if info.lastCapabilities = some sessionID then
          (d.clients.lookup clientID).filter fun peer => peer ≠ source
        else none

/-- `if _, exists := m[id]; !exists { m[id] = link }` -/
def bindMissing (m : GoMap UUID Link) (channelID : UUID) (link : Link) : GoMap UUID Link :=
  if (m.lookup channelID).isSome then m else m.insert channelID link

namespace Server

def bindSides (s : Server) (channelID : UUID) (client connector : Option Link) : Server :=
  { s with
    channelIDToClient := client.elim s.channelIDToClient (bindMissing s.channelIDToClient channelID)
    channelIDToConnector :=
      connector.elim s.channelIDToConnector (bindMissing s.channelIDToConnector channelID) }

def addToTokenCache (s : Server) (token : GoString) (channelID : UUID) : Server :=
  let ids := (s.tokenCache.lookup token).getD []
  if token = [] ∨ channelID ∈ ids then s
  else { s with tokenCache := s.tokenCache.insert token (ids ++ [channelID]) }

def bindDirectChannel (s : Server) (channelID : UUID) (peer : Option Link)
    (source : Link) (role : DirectClientRole) (token : GoString) : Server :=
  let s :=
    match role with
    | .connector => s.bindSides channelID peer (some source)
    | .reverse => s.bindSides channelID (some source) peer
    | .forward => s.bindSides channelID peer (some source)
  s.addToTokenCache token channelID

/-- The connector link of the first other channel that has one. -/
def otherConnector (s : Server) (ids : List UUID) (channelID : UUID) : Option Link :=
  ids.findSome? fun id => if id = channelID then none else s.channelIDToConnector.lookup id

def bindChannelPeer (s : Server) (channelID : UUID) (source : Link)
    (role : DirectClientRole) (token : GoString) : Server :=
  match role with
  | .connector => { s with channelIDToConnector := s.channelIDToConnector.insert channelID source }
  | .reverse => { s with channelIDToClient := s.channelIDToClient.insert channelID source }
  | .forward =>
    if token = [] then s
    else
      match s.otherConnector ((s.tokenCache.lookup token).getD []) channelID with
      | some peer => { s with channelIDToClient := s.channelIDToClient.insert channelID peer }
      | none => s

/-- The link that a control message is passed on to. -/
def forwardChannelControl (s : Server) (channelID : UUID) (source : Link) : Option Link :=
  let connector := s.channelIDToConnector.lookup channelID
  let client := s.channelIDToClient.lookup channelID
  let target :=
    if some source = connector then client
    else if some source = client then connector
    else if connector.isSome then connector
    else client
  target.filter fun link => link ≠ source

/-- The new state, and where the message is passed on to. -/
def channelBind (s : Server) (d : Directory) (order : List UUID) (ws : Link)
    (role : DirectClientRole) (token : GoString) (m : ChannelBindMessage) : Server × Option Link :=
  let peer := d.findDirectPeer order m.peerSessionID ws
  let s := s.bindDirectChannel m.channelID peer ws role token
  let s := s.bindChannelPeer m.channelID ws role token
  (s, s.forwardChannelControl m.channelID ws)

end Server

/-- The dispatcher that reads a message: that of a connector with its reverse
token, or that of every other client. -/
inductive BindDispatcher where
  | messageDispatcher (clientID : UUID)
  | connectorMessageDispatcher (reverseToken : GoString)

def BindDispatcher.role (d : Directory) : BindDispatcher → DirectClientRole
  | .messageDispatcher clientID =>
    (d.clientMeta.lookup clientID).elim .forward DirectClientMeta.role
  | .connectorMessageDispatcher _ => .connector

def BindDispatcher.token (d : Directory) : BindDispatcher → GoString
  | .messageDispatcher clientID =>
    (d.clientMeta.lookup clientID).elim [] DirectClientMeta.internalToken
  | .connectorMessageDispatcher reverseToken => reverseToken

def Server.dispatchChannelBind (s : Server) (d : Directory) (order : List UUID)
    (dispatcher : BindDispatcher) (ws : Link) (m : ChannelBindMessage) : Server × Option Link :=
  s.channelBind d order ws (dispatcher.role d) (dispatcher.token d) m

/-! ## What is kept of a channel with both sides -/

/-- The channel is mapped between these links. -/
structure Server.Mapped (s : Server) (channelID : UUID) (connector client : Link) : Prop where
  connector : s.channelIDToConnector.lookup channelID = some connector
  client : s.channelIDToClient.lookup channelID = some client

/-- Among the channels of the token, the first one other than `channelID` that
has a connector has it on this link. -/
def Server.FirstConnector (s : Server) (token : GoString) (channelID : UUID) (link : Link) : Prop :=
  ∃ before id after, (s.tokenCache.lookup token).getD [] = before ++ id :: after ∧
    id ≠ channelID ∧ s.channelIDToConnector.lookup id = some link ∧
    ∀ j ∈ before, j = channelID ∨ s.channelIDToConnector.lookup j = none

section Keeps

variable {s : Server} {channelID : UUID} {C P : Link} {token : GoString}

theorem bindMissing_of_some {m : GoMap UUID Link} {link : Link}
    (h : m.lookup channelID = some link) (other : Link) : bindMissing m channelID other = m := by
  rw [bindMissing, h]
  rfl

theorem Server.Mapped.bindSides (h : s.Mapped channelID C P) (client connector : Option Link) :
    s.bindSides channelID client connector = s := by
  have hclient : client.elim s.channelIDToClient
      (bindMissing s.channelIDToClient channelID) = s.channelIDToClient := by
    cases client with
    | none => rfl
    | some link => exact bindMissing_of_some h.client link
  have hconnector : connector.elim s.channelIDToConnector
      (bindMissing s.channelIDToConnector channelID) = s.channelIDToConnector := by
    cases connector with
    | none => rfl
    | some link => exact bindMissing_of_some h.connector link
  rw [Server.bindSides, hclient, hconnector]

theorem Server.Mapped.bindDirectChannel (h : s.Mapped channelID C P)
    (peer : Option Link) (source : Link) (role : DirectClientRole) (token : GoString) :
    s.bindDirectChannel channelID peer source role token = s.addToTokenCache token channelID := by
  cases role <;> simp only [Server.bindDirectChannel, h.bindSides]

theorem Server.addToTokenCache_maps (s : Server) (token : GoString) (channelID : UUID) :
    (s.addToTokenCache token channelID).channelIDToClient = s.channelIDToClient ∧
      (s.addToTokenCache token channelID).channelIDToConnector =
        s.channelIDToConnector := by
  simp only [Server.addToTokenCache]
  split <;> exact ⟨rfl, rfl⟩

/-- The channel itself does not count among the channels of the token. -/
theorem Server.otherConnector_addToTokenCache (s : Server)
    (channelID : UUID) (htoken : token ≠ []) : (s.addToTokenCache token channelID).otherConnector
        (((s.addToTokenCache token channelID).tokenCache.lookup token).getD []) channelID =
      s.otherConnector ((s.tokenCache.lookup token).getD []) channelID := by
  simp only [Server.addToTokenCache, htoken, false_or]
  split
  · rfl
  · simp only [Server.otherConnector, lookup_insert, getD_some,
      findSome?_append, findSome?_cons, if_true, findSome?_nil, or_none]

theorem Server.otherConnector_eq_some {link : Link} :
    s.otherConnector ((s.tokenCache.lookup token).getD []) channelID = some link ↔
      s.FirstConnector token channelID link := by
  rw [Server.otherConnector, findSome?_eq_some_iff]
  constructor
  · rintro ⟨before, id, after, hids, hid, hbefore⟩
    split at hid
    · contradiction
    · rename_i hne
      refine ⟨before, id, after, hids, hne, hid, fun j hj => ?_⟩
      have hnone := hbefore j hj
      split at hnone
      · exact .inl ‹_›
      · exact .inr hnone
  · rintro ⟨before, id, after, hids, hne, hid, hbefore⟩
    refine ⟨before, id, after, hids, ?_, fun j hj => ?_⟩
    · rw [if_neg hne]
      exact hid
    · split
      · rfl
      · rename_i hj'
        exact (hbefore j hj).resolve_left hj'

theorem Server.bindChannelPeer_forward (s : Server) (channelID : UUID)
    (source : Link) (htoken : token ≠ []) {link : Option Link}
    (hlink : s.otherConnector ((s.tokenCache.lookup token).getD []) channelID = link) :
    s.bindChannelPeer channelID source .forward token = { s with
        channelIDToClient :=
          link.elim s.channelIDToClient (s.channelIDToClient.insert channelID) } := by
  simp only [Server.bindChannelPeer, htoken, if_false, hlink]
  cases link <;> rfl

theorem Server.Mapped.bind_forward_iff (h : s.Mapped channelID C P)
    (peer : Option Link) (ws : Link) (token : GoString) :
    ((s.bindDirectChannel channelID peer ws .forward token).bindChannelPeer
        channelID ws .forward token).Mapped channelID C P ↔
      token = [] ∨ ∀ link, s.FirstConnector token channelID link → link = P := by
  rw [h.bindDirectChannel]
  obtain ⟨hclients, hconnectors⟩ := s.addToTokenCache_maps token channelID
  by_cases htoken : token = []
  · refine iff_of_true ?_ (.inl htoken)
    simp only [Server.bindChannelPeer, htoken, if_true, Server.addToTokenCache, true_or]
    exact h
  · rw [or_iff_right htoken]
    have hother := s.otherConnector_addToTokenCache channelID htoken
    rw [Server.bindChannelPeer_forward _ channelID ws htoken hother]
    cases hfirst : s.otherConnector ((s.tokenCache.lookup token).getD [])
        channelID with
    | none =>
      refine iff_of_true ⟨?_, ?_⟩ fun link hlink => ?_
      · exact hconnectors ▸ h.connector
      · exact hclients ▸ h.client
      · rw [Server.otherConnector_eq_some.mpr hlink] at hfirst
        contradiction
    | some link =>
      constructor
      · rintro ⟨-, hclient⟩ k hk
        rw [Server.otherConnector_eq_some.mpr hk] at hfirst
        obtain rfl : k = link := some.inj hfirst
        exact some.inj ((lookup_insert _).symm.trans hclient)
      · intro hall
        obtain rfl := hall link (Server.otherConnector_eq_some.mp hfirst)
        exact ⟨hconnectors ▸ h.connector, lookup_insert _⟩

/-- A channel with both sides stays as it is under a message of another link if
and only if the sender has the forward role and does not find another channel
to copy a peer from, or finds the peer that the channel has. -/
theorem channelBind_keeps_channel_iff (d : Directory) (order : List UUID)
    (dispatcher : BindDispatcher) {ws : Link} {m : ChannelBindMessage}
    (h : s.Mapped m.channelID C P) (hC : ws ≠ C) (hP : ws ≠ P) :
    (s.dispatchChannelBind d order dispatcher ws m).1.Mapped m.channelID C P ↔
      dispatcher.role d = .forward ∧ (dispatcher.token d = [] ∨
          ∀ link, s.FirstConnector (dispatcher.token d) m.channelID link → link = P) := by
  rw [Server.dispatchChannelBind]
  cases hrole : dispatcher.role d with
  | forward =>
    rw [and_iff_right rfl]
    exact h.bind_forward_iff _ ws (dispatcher.token d)
  | reverse =>
    refine iff_of_false (fun hkept => hP ?_) (fun hforward => ?_)
    · exact some.inj ((lookup_insert _).symm.trans hkept.client)
    · exact absurd hforward.1 (by decide)
  | connector =>
    refine iff_of_false (fun hkept => hC ?_) (fun hforward => ?_)
    · exact some.inj ((lookup_insert _).symm.trans hkept.connector)
    · exact absurd hforward.1 (by decide)

end Keeps

/-! ## Three senders -/

/-- Channel 9 between the connector link 2 and the provider link 1, and a
channel 8 of the forward token `f` with a connector on link 5. -/
def boundServer : Server :=
  { (idleRelay pairRegistry protocolVersionV2).server with
    channelIDToClient := AList.insert (uuidOf 9) 1 ∅
    channelIDToConnector := AList.insert (uuidOf 9) 2 (AList.insert (uuidOf 8) 5 ∅)
    tokenCache := AList.insert (ascii "f") [uuidOf 8] ∅ }

theorem boundServer_mapped : boundServer.Mapped (uuidOf 9) 2 1 := by
  constructor <;> decide

/-- A provider, a client with the forward token `f`, and one with no token of
its own. -/
def threeClients : Directory where
  clients := AList.insert (uuidOf 3) 3 (AList.insert (uuidOf 4) 4 (AList.insert (uuidOf 6) 6 ∅))
  clientMeta := AList.insert (uuidOf 3) ⟨ascii "r", .reverse, none⟩
    (AList.insert (uuidOf 4) ⟨ascii "f", .forward, none⟩
      (AList.insert (uuidOf 6) ⟨[], .forward, none⟩ ∅))

def bindNine : ChannelBindMessage := ⟨uuidOf 9, tcp, UUID.nil⟩

def sidesAfter (dispatcher : BindDispatcher) (ws : Link) : Option Link × Option Link :=
  let s := (boundServer.dispatchChannelBind threeClients [] dispatcher ws bindNine).1
  (s.channelIDToConnector.lookup (uuidOf 9), s.channelIDToClient.lookup (uuidOf 9))

/-- Another provider takes the provider's side, another connector that of the
connector, and a forward client puts the connector of another channel in the
provider's place. -/
theorem channelBind_takes_over : boundServer.Mapped (uuidOf 9) 2 1 ∧
    sidesAfter (.messageDispatcher (uuidOf 3)) 3 = (some 2, some 3) ∧
    sidesAfter (.connectorMessageDispatcher (ascii "r")) 7 = (some 7, some 1) ∧
    sidesAfter (.messageDispatcher (uuidOf 4)) 4 = (some 2, some 5) := by
  refine ⟨boundServer_mapped, ?_, ?_, ?_⟩ <;> decide +kernel

/-- A forward client without a token leaves the channel as it is. -/
theorem channelBind_of_tokenless_client : (boundServer.dispatchChannelBind threeClients []
      (.messageDispatcher (uuidOf 6)) 6 bindNine).1.Mapped (uuidOf 9) 2 1 :=
  (channelBind_keeps_channel_iff threeClients []
    (.messageDispatcher (uuidOf 6)) (m := bindNine) boundServer_mapped
    (by decide) (by decide)).mpr ⟨by decide +kernel, .inl (by decide +kernel)⟩

end LinkSocks
