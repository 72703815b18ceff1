import LinkSocks.Channel.Logical

/-!
# Opening a channel over a direct stream

A local proxy request registers its channel before it writes the Connect, and the writer of
the stream switches a registered channel without touching its migration flag.  The other end
sets the flag from the version of its peer.  So the ends agree only if the flag was on, or
nothing was registered, when the Connect went out.
-/

namespace LinkSocks

open Go

/-! ## Features of a peer -/

def minVersionMigration : UInt8 := 0x02

def protocolSupportsFeature (version minimum : UInt8) : Bool :=
  if protocolMajor version = protocolMajor protocolVersionV2 then true
  else
    decide (protocolMajor version = protocolMajor minimum) &&
      decide (protocolMinor minimum ≤ protocolMinor version)

/-- Migration belongs to the direct data plane, which the second generation does
without. -/
def protocolSupportsMigration (version : UInt8) : Bool :=
  if protocolMajor version = protocolMajor protocolVersionV2 then false
  else protocolSupportsFeature version minVersionMigration

/-! ## The two ends -/

/-- A client with a direct data plane. -/
structure DirectEnd where
  logicalChannels : GoMap UUID LogicalChannelState
  directRemoteProtocolVersion : UInt8
  directRemoteSessionID : UUID
  /-- What `newClientRelayWriter` returns, and what was written with it. -/
  relayWriter : Writer
  relayed : List BaseMessage

/-- `registerLogicalChannel` for a writer that provides its own fallback, or
none. -/
def registerLogicalChannel (id : UUID) (writer : Writer)
    (provided fallback : Option Writer) (path : ChannelPath) : LogicalChannelState :=
  .newLogicalChannel id (some writer) (some ((provided.or fallback).getD writer)) path

namespace DirectEnd

def store (E : DirectEnd) (id : UUID) (channel : LogicalChannelState) : DirectEnd :=
  { E with logicalChannels := E.logicalChannels.insert id channel }

/-- What `HandleSocksRequest` and the handlers of HTTP requests do before they write the
Connect, if their writer opens a stream. -/
def localProxyRequest (E : DirectEnd) (w : Writer) (request : ConnectMessage) : DirectEnd :=
  let channel := registerLogicalChannel request.channelID w (some E.relayWriter) (some w) .relay
  E.store request.channelID (channel.setRequest request).markResumeOwner

/-- The request of SOCKS CONNECT, HTTP CONNECT and absolute-form requests. -/
def connectRequest (id : UUID) (address : GoString) (port : Int) : ConnectMessage :=
  ⟨tcp, address, port, id, false⟩

/-- The relay is told about the peer of a new channel. -/
def bindPeer (E : DirectEnd) (request : ConnectMessage) (binds : Bool) : DirectEnd × Bool :=
  if !request.resume && protocolSupportsMigration E.directRemoteProtocolVersion then
    if binds then
      ({ E with relayed := E.relayed ++ [.channelBind
          ⟨request.channelID, request.protocol, E.directRemoteSessionID⟩] }, true)
    else (E, false)
  else (E, true)

/-- `directQUICChannelWriter.WriteMessage` for the first Connect: `opens` and `binds` say
whether the stream was opened, which sends the Connect, and whether the relay took the binding.
-/
def writeConnect (E : DirectEnd) (w : Writer) (request : ConnectMessage)
    (opens binds : Bool) : DirectEnd × Bool :=
  if request.channelID = UUID.nil then (E, false)
  else if !opens then (E, false)
  else
    match E.logicalChannels.lookup request.channelID with
    | none =>
      let channel := registerLogicalChannel request.channelID w
        (some E.relayWriter) (some E.relayWriter) .direct
      let channel := (channel.setRequest request).markResumeOwner
      (E.store request.channelID (channel.enableMigration
        (protocolSupportsMigration E.directRemoteProtocolVersion))).bindPeer request binds
    | some channel =>
      match channel.switch w .direct with
      | none => (E, false)
      | some channel => (E.store request.channelID channel).bindPeer request binds

/-- The handler of an incoming stream; no result means that the stream is
refused. -/
def handleStream (E : DirectEnd) (w : Writer) (request : ConnectMessage) : Option DirectEnd :=
  if request.resume then
    match E.logicalChannels.lookup request.channelID with
    | none => none
    | some channel => (channel.switch w .direct).map (E.store request.channelID)
  else
    let channel := registerLogicalChannel request.channelID w
      (some E.relayWriter) (some E.relayWriter) .direct
    some (E.store request.channelID ((channel.setRequest request).enableMigration
      (protocolSupportsMigration E.directRemoteProtocolVersion)))

end DirectEnd

/-- `acknowledgeMessage`: what is written when data was written out. -/
def LogicalChannelState.acknowledgeMessage (c : LogicalChannelState)
    (sequence : UInt64) : Option BaseMessage :=
  if c.migration then some (.channelDataAck ⟨c.id, sequence⟩) else none

/-- Whatever `sender` begins to retain, `receiver` acknowledges. -/
def Acknowledges (receiver sender : LogicalChannelState) : Prop :=
  ∀ data n, n ∈ (sender.assign data).1.pending → n ∉ sender.pending →
    (receiver.acknowledgeMessage n).isSome = true

/-- Both ends have the channel, with the same flag, and each of them
acknowledges what the other retains. -/
def DirectEnd.Agree (E A : DirectEnd) (id : UUID) : Prop :=
  ∃ c c', E.logicalChannels.lookup id = some c ∧
    A.logicalChannels.lookup id = some c' ∧ c.migration = c'.migration ∧
    Acknowledges c' c ∧ Acknowledges c c'

/-! ## Agreement -/

theorem acknowledges_of_migration {receiver sender : LogicalChannelState}
    (h : sender.migration = true → receiver.migration = true) : Acknowledges receiver sender := by
  intro data n hn hold
  cases hmigration : sender.migration with
  | false =>
    rw [LogicalChannelState.assign, hmigration] at hn
    exact absurd hn hold
  | true => simp [LogicalChannelState.acknowledgeMessage, h hmigration]

namespace DirectEnd

variable {E A E' A' : DirectEnd} {w : Writer} {request : ConnectMessage}
  {opens binds : Bool}

theorem lookup_store (E : DirectEnd) (id : UUID) (channel : LogicalChannelState) :
    (E.store id channel).logicalChannels.lookup id = some channel := AList.lookup_insert ..

theorem lookup_of_bindPeer {id : UUID} {channel : LogicalChannelState}
    {ok : Bool} (h : (E.store id channel).bindPeer request binds = (E', ok)) :
    E'.logicalChannels.lookup id = some channel := by
  rw [bindPeer] at h
  split at h
  · split at h <;> cases h <;> exact lookup_store ..
  · cases h
    exact lookup_store ..

/-- Writing the Connect leaves the flag of a registered channel as it is; a
channel that the writer registers gets it from the version of the peer. -/
theorem writeConnect_migration (h : E.writeConnect w request opens binds = (E', true)) :
    ∃ c, E'.logicalChannels.lookup request.channelID = some c ∧ c.migration =
        match E.logicalChannels.lookup request.channelID with
        | none => protocolSupportsMigration E.directRemoteProtocolVersion
        | some channel => channel.migration := by
  rw [writeConnect] at h
  split at h
  · cases h
  · split at h
    · cases h
    · split at h
      · exact ⟨_, lookup_of_bindPeer h, rfl⟩
      · split at h
        · cases h
        · rename_i switched hswitch
          refine ⟨switched, lookup_of_bindPeer h, ?_⟩
          rw [LogicalChannelState.switch] at hswitch
          split at hswitch <;> cases hswitch
          rfl

theorem handleStream_migration (hresume : request.resume = false)
    (h : A.handleStream w request = some A') :
    ∃ c, A'.logicalChannels.lookup request.channelID = some c ∧
      c.migration = protocolSupportsMigration A.directRemoteProtocolVersion := by
  rw [handleStream, hresume] at h
  cases h
  exact ⟨_, lookup_store .., rfl⟩

theorem agree_iff {c c' : LogicalChannelState} {id : UUID}
    (hE : E.logicalChannels.lookup id = some c)
    (hA : A.logicalChannels.lookup id = some c') (hmigration : c'.migration = true) :
    E.Agree A id ↔ c.migration = true := by
  constructor
  · rintro ⟨e, a, he, ha, hsame, -⟩
    cases hE.symm.trans he
    cases hA.symm.trans ha
    rw [hsame, hmigration]
  · intro hc
    exact ⟨c, c', hE, hA, hc.trans hmigration.symm, acknowledges_of_migration fun _ => hmigration,
      acknowledges_of_migration fun _ => hc⟩

theorem localProxyRequest_migration (E : DirectEnd) (w : Writer) (request : ConnectMessage) :
    ∃ c, (E.localProxyRequest w request).logicalChannels.lookup
      request.channelID = some c ∧ c.migration = false := ⟨_, lookup_store .., rfl⟩

/-- So the ends of a channel that a local proxy request opened do not agree, unless migration is
switched on before the Connect is written. -/
theorem localProxyRequest_not_agree (hresume : request.resume = false)
    (hsupports : protocolSupportsMigration A.directRemoteProtocolVersion = true) {w' : Writer}
    (hwritten : (E.localProxyRequest w request).writeConnect w request opens binds = (E', true))
    (haccepted : A.handleStream w' request = some A') : ¬ E'.Agree A' request.channelID := by
  obtain ⟨c, hc, hmigration⟩ := writeConnect_migration hwritten
  obtain ⟨c', hc', hmigration'⟩ := handleStream_migration hresume haccepted
  obtain ⟨registered, hlookup, hoff⟩ := localProxyRequest_migration E w request
  rw [agree_iff hc hc' (hmigration'.trans hsupports), hmigration, hlookup]
  simp [hoff]

end DirectEnd

/-- Both peers support migration, and the Connect of a channel has been written to a stream and
accepted.  The ends agree exactly if a channel registered for it before had migration on. -/
theorem direct_open_agree_iff (E A E' A' : DirectEnd) (w w' : Writer)
    (request : ConnectMessage) (opens binds : Bool) (hresume : request.resume = false)
    (hE : protocolSupportsMigration E.directRemoteProtocolVersion = true)
    (hA : protocolSupportsMigration A.directRemoteProtocolVersion = true)
    (hwritten : E.writeConnect w request opens binds = (E', true))
    (haccepted : A.handleStream w' request = some A') : E'.Agree A' request.channelID ↔
      ∀ channel, E.logicalChannels.lookup request.channelID = some channel →
        channel.migration = true := by
  obtain ⟨c, hc, hmigration⟩ := DirectEnd.writeConnect_migration hwritten
  obtain ⟨c', hc', hmigration'⟩ := DirectEnd.handleStream_migration hresume haccepted
  rw [DirectEnd.agree_iff hc hc' (hmigration'.trans hA), hmigration]
  cases hlookup : E.logicalChannels.lookup request.channelID with
  | none => simp [hE]
  | some channel => simp

/-! ## A channel opened by a local proxy request -/

def freshEnd : DirectEnd := ⟨∅, 0x04, uuidOf 1, 0, []⟩

def openRequest : ConnectMessage := DirectEnd.connectRequest (uuidOf 7) (ascii "host") 443

/-- The opening end, after the request has registered the channel and the Connect
was written to stream 1. -/
def openedEnd : DirectEnd :=
  ((freshEnd.localProxyRequest 1 openRequest).writeConnect 1 openRequest true true).1

def acceptedEnd : Option DirectEnd := freshEnd.handleStream 1 openRequest

/-- Without a registered channel the ends agree. -/
theorem unregistered_agree : protocolSupportsMigration freshEnd.directRemoteProtocolVersion = true ∧
    ∃ E' A', freshEnd.writeConnect 1 openRequest true true = (E', true) ∧
      freshEnd.handleStream 1 openRequest = some A' ∧ E'.Agree A' openRequest.channelID := by
  refine ⟨by decide, _, _, rfl, rfl, ?_⟩
  refine (direct_open_agree_iff freshEnd freshEnd _ _ 1 1 openRequest true true rfl
    (by decide) (by decide) rfl rfl).mpr ?_
  intro channel hchannel
  cases hchannel

/-- The opening end has migration off and the accepting end on: what the
accepting end retains is never acknowledged. -/
theorem openedEnd_not_agree :
    (freshEnd.localProxyRequest 1 openRequest).writeConnect 1 openRequest true
      true = (openedEnd, true) ∧
    ∃ A', acceptedEnd = some A' ∧ (openedEnd.logicalChannels.lookup (uuidOf 7)).map (·.migration) =
        some false ∧ (A'.logicalChannels.lookup (uuidOf 7)).map (·.migration) = some true ∧
      (openedEnd.logicalChannels.lookup (uuidOf 7)).map (·.acknowledgeMessage 1) = some none ∧
      ¬ openedEnd.Agree A' (uuidOf 7) := by
  have hwritten : (freshEnd.localProxyRequest 1 openRequest).writeConnect 1
      openRequest true true = (openedEnd, true) := rfl
  have hsupports : protocolSupportsMigration freshEnd.directRemoteProtocolVersion = true := by
    decide
  refine ⟨hwritten, _, rfl, by decide, by decide, by decide, ?_⟩
  exact DirectEnd.localProxyRequest_not_agree rfl hsupports hwritten
    (rfl : freshEnd.handleStream 1 openRequest = some _)

end LinkSocks
