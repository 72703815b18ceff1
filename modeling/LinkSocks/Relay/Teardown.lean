import LinkSocks.Relay.Peers

/-!
# Channels that end

A channel ends when one of its endpoints sends a `Disconnect`, or when the grace
window of a departed link is over.  In both cases the server tells one link and
then drops the channel.  It always tells the connector: a connector that
disconnects hears of it itself and the provider does not, and so it is with a
connector that has departed.
-/

namespace LinkSocks

open Go List Option

/-- What a handler does, in this order. -/
inductive TeardownEffect where
  | write (link : Link) (m : BaseMessage)
  | cleanupConnectorChannel (channelID : UUID)
  /-- `s.relay.disconnectChannel`: the channels of the server's own entries. -/
  | relayDisconnectChannel (channelID : UUID)
  deriving DecidableEq

namespace Server

def forwardToConnector (s : Server) (channelID : UUID) (msg : BaseMessage) : List TeardownEffect :=
  ((s.channelIDToConnector.lookup channelID).map
    fun target => .write target msg).toList

/-- `connectorMessageDispatcher`, for a Disconnect. -/
def connectorDisconnect (s : Server) (m : DisconnectMessage) : List TeardownEffect :=
  s.forwardToConnector m.channelID (.disconnect m) ++ [.cleanupConnectorChannel m.channelID]

def disconnectChannel (s : Server) (channelID : UUID) (msg : BaseMessage) : List TeardownEffect :=
  s.forwardToConnector channelID msg ++
    [.cleanupConnectorChannel channelID, .relayDisconnectChannel channelID]

end Server

inductive DisconnectDispatcher where
  | messageDispatcher
  | connectorMessageDispatcher

def Server.dispatchDisconnect (s : Server) (m : DisconnectMessage) :
    DisconnectDispatcher → List TeardownEffect
  | .messageDispatcher => s.disconnectChannel m.channelID (.disconnect m)
  | .connectorMessageDispatcher => s.connectorDisconnect m

/-- The other endpoint is told before the channel is dropped, and the sender is
not told at all. -/
structure ReachesOther (m : DisconnectMessage) (sender other : Link)
    (effects : List TeardownEffect) : Prop where
  notified : ∃ before after, effects = before ++ .write other (.disconnect m) :: after ∧
    .cleanupConnectorChannel m.channelID ∉ before ∧ .cleanupConnectorChannel m.channelID ∈ after
  notBack : ∀ msg, .write sender msg ∉ effects

section Disconnect

variable {s : Server} {m : DisconnectMessage} {C P sender other : Link}

/-- Both dispatchers tell the connector, and nobody else. -/
theorem Server.Mapped.dispatchDisconnect (h : s.Mapped m.channelID C P)
    (dispatcher : DisconnectDispatcher) : ∃ rest, s.dispatchDisconnect m dispatcher =
        .write C (.disconnect m) :: .cleanupConnectorChannel m.channelID :: rest ∧
      ∀ link msg, .write link msg ∉ rest := by
  have hforward : s.forwardToConnector m.channelID (.disconnect m) =
      [.write C (.disconnect m)] := by
    rw [Server.forwardToConnector, h.connector]
    rfl
  cases dispatcher with
  | messageDispatcher =>
    refine ⟨[.relayDisconnectChannel m.channelID], ?_, fun link msg => ?_⟩
    · simp only [Server.dispatchDisconnect, Server.disconnectChannel, hforward,
        cons_append, nil_append]
    · simp
  | connectorMessageDispatcher =>
    refine ⟨[], ?_, fun link msg => not_mem_nil⟩
    simp only [Server.dispatchDisconnect, Server.connectorDisconnect, hforward,
      cons_append, nil_append]

theorem Server.Mapped.mem_dispatchDisconnect (h : s.Mapped m.channelID C P)
    {dispatcher : DisconnectDispatcher} {link : Link} {msg : BaseMessage} :
    .write link msg ∈ s.dispatchDisconnect m dispatcher ↔ link = C ∧ msg = .disconnect m := by
  obtain ⟨rest, heffects, hrest⟩ := h.dispatchDisconnect dispatcher
  rw [heffects]
  simp [hrest link msg]

/-- A Disconnect of one endpoint reaches the other one, and not the sender, if
and only if the sender is the provider. -/
theorem disconnect_reaches_other_iff (dispatcher : DisconnectDispatcher)
    (h : s.Mapped m.channelID C P) (hne : C ≠ P)
    (hends : sender = C ∧ other = P ∨ sender = P ∧ other = C) :
    ReachesOther m sender other (s.dispatchDisconnect m dispatcher) ↔ sender = P := by
  rcases hends with ⟨rfl, rfl⟩ | ⟨rfl, rfl⟩
  · refine iff_of_false (fun hreach => ?_) hne
    exact hreach.notBack (.disconnect m) (h.mem_dispatchDisconnect.mpr ⟨rfl, rfl⟩)
  · refine iff_of_true ⟨?_, fun msg hmsg => ?_⟩ rfl
    · obtain ⟨rest, heffects, -⟩ := h.dispatchDisconnect dispatcher
      refine ⟨[], _, heffects, not_mem_nil, ?_⟩
      exact mem_cons_self
    · exact hne (h.mem_dispatchDisconnect.mp hmsg).1.symm

end Disconnect

theorem providerDisconnect_reaches_connector : boundServer.Mapped (uuidOf 9) 2 1 ∧
    ReachesOther ⟨uuidOf 9, []⟩ 1 2
      (boundServer.dispatchDisconnect ⟨uuidOf 9, []⟩ .messageDispatcher) :=
  ⟨boundServer_mapped, (disconnect_reaches_other_iff (m := ⟨uuidOf 9, []⟩) .messageDispatcher
      boundServer_mapped (by decide) (.inr ⟨rfl, rfl⟩)).mpr rfl⟩

theorem connectorDisconnect_returns_to_sender : boundServer.Mapped (uuidOf 9) 2 1 ∧
    boundServer.dispatchDisconnect ⟨uuidOf 9, []⟩ .connectorMessageDispatcher =
      [.write 2 (.disconnect ⟨uuidOf 9, []⟩), .cleanupConnectorChannel (uuidOf 9)] ∧
    ¬ ReachesOther ⟨uuidOf 9, []⟩ 2 1 (boundServer.dispatchDisconnect ⟨uuidOf 9, []⟩
        .connectorMessageDispatcher) := by
  refine ⟨boundServer_mapped, ?_, fun hreach => ?_⟩
  · decide +kernel
  · exact hreach.notBack (.disconnect ⟨uuidOf 9, []⟩) mem_cons_self

/-! ## Grace windows -/

namespace Server

/-- The channels that a link carries on one side or the other, in any order. -/
def carriedBy (s : Server) (ws : Link) : List UUID :=
  s.channelIDToConnector.keys.filter
      (fun id => s.channelIDToConnector.lookup id = some ws) ++ s.channelIDToClient.keys.filter
      (fun id => s.channelIDToClient.lookup id = some ws ∧
        s.channelIDToConnector.lookup id ≠ some ws)

/-- The channels for which a departed link starts a timer. -/
def scheduleChannelGraceCleanup (s : Server) (transportGrace : Int)
    (role : DirectClientRole) (ws : Link) : List UUID :=
  if 0 < transportGrace ∧ role ≠ .forward then s.carriedBy ws else []

end Server

section Grace

variable {s s₀ : Server} {id : UUID} {C P c p ws : Link}

end Grace

end LinkSocks
