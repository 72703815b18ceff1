import LinkSocks.Relay.Server

/-!
# Local proxy requests of a client

A client of generation 2 opens a secure session for each local proxy request and sends the
request and its data through it.  Whether it does so is decided by one look at the pool of
relay links, when the request comes in; the writes happen later, each through the link that
the pool offers then.  The machine below interleaves any number of requests with links that
come and go.
-/

namespace LinkSocks

open Go

/-! ## State -/

/-- A secure session of the hub, as far as its writers see it. -/
structure SecureSession where
  channelID : UUID
  established : Bool
  closed : Bool
  deriving DecidableEq

/-- What `openChannelTransport` hands back: the relay writer itself, or a
session on top of it. -/
inductive Transport where
  | plain
  | sealed (session : ℕ)
  deriving DecidableEq

/-- A channel opened by a local request, always a resume owner and on the relay path: direct
mode is off in generation 2.  Writer and fallback are the same transport.  A channel that was
cleaned up is closed here instead of being deleted. -/
structure LogicalChannel where
  writer : Transport
  request : ConnectMessage
  suspended : Bool
  closed : Bool
  deriving DecidableEq

def LogicalChannel.canResume (ch : LogicalChannel) : Bool :=
  ch.request.channelID ≠ UUID.nil && !ch.closed

/-- What is written to a relay link: a message in the clear, or one sealed by a session, as it
was when the message was encrypted. -/
inductive RelayFrame where
  | plain (msg : BaseMessage)
  | sealed (channelID : UUID) (session : SecureSession) (inner : BaseMessage)

/-- The state that the requests of a client share, with the log of its writes
to relay links. -/
structure Client where
  websockets : List (Option Link)
  currentIndex : ℕ
  sessions : List SecureSession
  hub : GoMap UUID ℕ
  logicalChannels : GoMap UUID LogicalChannel
  wire : List (Link × RelayFrame)

/-! ## The relay writer -/

/-- The loop of `getNextWebSocket`, for the rounds that are left. -/
def nextWebSocket (pool : List (Option Link)) : ℕ → ℕ → Option Link × ℕ
  | 0, currentIndex => (none, currentIndex)
  | rounds + 1, currentIndex =>
    let next := (currentIndex + 1) % pool.length
    match pool[next]? with
    | some (some link) => (some link, next)
    | _ => nextWebSocket pool rounds next

def Client.getNextWebSocket (c : Client) : Option Link × Client :=
  let next := nextWebSocket c.websockets c.websockets.length c.currentIndex
  (next.1, { c with currentIndex := next.2 })

def Client.log (c : Client) (link : Link) (frame : RelayFrame) : Client :=
  { c with wire := c.wire ++ [(link, frame)] }

def Client.setChannel (c : Client) (channelID : UUID) (ch : LogicalChannel) : Client :=
  { c with logicalChannels := c.logicalChannels.insert channelID ch }

def Client.setSuspended (c : Client) (channelID : UUID) (suspended : Bool) : Client :=
  match c.logicalChannels.lookup channelID with
  | none => c
  | some ch => c.setChannel channelID { ch with suspended := suspended }

/-- The channel a frame can make the writer resume. -/
def relayChannelID : RelayFrame → Option UUID
  | .plain (.data m) => some m.channelID
  | .sealed channelID _ _ => some channelID
  | _ => none

/-- A suspended channel has to be bound to the link again first. -/
def Client.needsResume (c : Client) (frame : RelayFrame) : Option UUID :=
  match relayChannelID frame with
  | none => none
  | some id =>
    match c.logicalChannels.lookup id with
    | none => none
    | some ch => if ch.canResume && ch.suspended then some id else none

/-- `clientRelayWriter.WriteMessage` with a secure hub; `openOk` and `ok` say
which link writes succeed.  A write that fails is logged as well. -/
def Client.relayWrite (c : Client) (frame : RelayFrame) (openOk ok : Bool) : Bool × Client :=
  match c.getNextWebSocket with
  | (none, c) => (false, c)
  | (some link, c) =>
    match c.needsResume frame with
    | none => (ok, c.log link frame)
    | some id =>
      let c := c.log link (.plain (.channelOpen ⟨id, true⟩))
      if !openOk then (false, c)
      else if !ok then (false, c.log link frame)
      else (true, (c.log link frame).setSuspended id false)

/-! ## A request -/

inductive EntryPC where
  | probe
  | openSession
  | announce (session : ℕ)
  | handshake (session : ℕ)
  | register (transport : Transport)
  | write (msg : BaseMessage)
  | plain (msg : BaseMessage)
  | ciphertext (sealer : SecureSession) (session : ℕ) (msg : BaseMessage)
  | forward
  | goodbye (error : GoString)
  | done

structure Entry where
  request : ConnectMessage
  pc : EntryPC

inductive EntryLabel where
  | next
  | ready
  /-- An error, a refusal of the relay or a timeout while the channel is
  opened. -/
  | failed
  /-- The channel or its session does not take the message. -/
  | refused (retry : Bool)
  | written (openOk ok retry : Bool)
  | send (m : DataMessage)
  | finish (error : GoString)

def legacyRelayText (peerVersion : UInt8) : String :=
  "relay speaks legacy protocol 0x" ++ upperHexByte peerVersion ++
    ": protocol V2 channels need an upgraded relay, or pass " ++
    "--protocol-version v1 to match it"

/-- The decision of `openChannelTransport` on a client with a secure hub. -/
def sealsChannel (peerVersion : UInt8) : Except String Bool :=
  if protocolMajor peerVersion ≠ protocolMajor protocolVersionV2 then
    if peerVersion ≠ 0 then .error (legacyRelayText peerVersion)
    else .ok false
  else .ok true

/-- `clientRelayWriter.ProtocolVersion`: zero when there is no link.  Links of
a client carry the version it is configured for. -/
def peerVersion (protocolVersion : UInt8) : Option Link → UInt8
  | none => 0
  | some _ => protocolVersion

def Client.newSession (c : Client) (channelID : UUID) : Client :=
  { c with
    sessions := c.sessions ++ [⟨channelID, false, false⟩]
    hub := c.hub.insert channelID c.sessions.length }

def Client.closeSession (c : Client) (n : ℕ) : Client :=
  { c with sessions := c.sessions.modify n fun s => { s with closed := true } }

def Client.hubClose (c : Client) (channelID : UUID) : Client :=
  match c.hub.lookup channelID with
  | none => c
  | some n => { c.closeSession n with hub := c.hub.erase channelID }

def Client.registerLogicalChannel (c : Client) (request : ConnectMessage)
    (transport : Transport) : Client :=
  c.setChannel request.channelID ⟨transport, request, false, false⟩

/-- The writer that a message of the channel goes to, if it takes it. -/
def Client.route (c : Client) (channelID : UUID) (msg : BaseMessage) : Option EntryPC :=
  match c.logicalChannels.lookup channelID with
  | none => none
  | some ch =>
    if ch.closed then none
    else
      match ch.writer with
      | .plain => some (.plain msg)
      | .sealed n =>
        match c.sessions[n]? with
        | none => none
        | some s =>
          if s.closed || !s.established then none
          else some (.ciphertext s n msg)

def Entry.step (protocolVersion : UInt8) (c : Client) (e : Entry) :
    EntryLabel → Option (Client × Entry)
  | .next =>
    match e.pc with
    | .probe =>
      let picked := c.getNextWebSocket
      match sealsChannel (peerVersion protocolVersion picked.1) with
      | .error _ => some (picked.2, { e with pc := .done })
      | .ok true => some (picked.2, { e with pc := .openSession })
      | .ok false => some (picked.2, { e with pc := .register .plain })
    | .openSession =>
      some (c.newSession e.request.channelID, { e with pc := .announce c.sessions.length })
    | .register transport =>
      some (c.registerLogicalChannel e.request transport,
        { e with pc := .write (.connect e.request) })
    | .write msg => (c.route e.request.channelID msg).map fun pc => (c, { e with pc := pc })
    | _ => none
  | .ready =>
    match e.pc with
    | .handshake n =>
      match c.sessions[n]? with
      | some ⟨_, true, _⟩ => some (c, { e with pc := .register (.sealed n) })
      | _ => none
    | _ => none
  | .failed =>
    match e.pc with
    | .openSession => some (c, { e with pc := .done })
    | .announce _ | .handshake _ => some (c.hubClose e.request.channelID, { e with pc := .done })
    | _ => none
  | .refused retry =>
    match e.pc with
    | .write msg =>
      if (c.route e.request.channelID msg).isSome then none
      else if retry then some (c.setSuspended e.request.channelID true, e)
      else some (c, { e with pc := .done })
    | _ => none
  | .written openOk ok retry =>
    match e.pc with
    | .announce n =>
      let wrote := c.relayWrite (.plain (.channelOpen ⟨e.request.channelID, false⟩)) openOk ok
      if wrote.1 then some (wrote.2, { e with pc := .handshake n })
      else if retry then some (wrote.2, e)
      else some (wrote.2.hubClose e.request.channelID, { e with pc := .done })
    | .plain msg =>
      let wrote := c.relayWrite (.plain msg) openOk ok
      if wrote.1 then
        some (wrote.2.setSuspended e.request.channelID false, { e with pc := .forward })
      else if retry then
        some (wrote.2.setSuspended e.request.channelID true, { e with pc := .write msg })
      else some (wrote.2, { e with pc := .done })
    | .ciphertext sealer n msg =>
      -- the same bytes again, or the end of the session
      let wrote := c.relayWrite (.sealed e.request.channelID sealer msg) openOk ok
      if wrote.1 then
        some (wrote.2.setSuspended e.request.channelID false, { e with pc := .forward })
      else if retry then some (wrote.2, e)
      else some (wrote.2.closeSession n, { e with pc := .write msg })
    | .goodbye error =>
      -- a disconnect stays in the clear on either transport
      let wrote := c.relayWrite (.plain (.disconnect ⟨e.request.channelID, error⟩)) openOk ok
      some (wrote.2, { e with pc := .done })
    | _ => none
  | .send m =>
    match e.pc with
    | .forward =>
      if m.channelID = e.request.channelID then some (c, { e with pc := .write (.data m) })
      else none
    | _ => none
  | .finish error =>
    match e.pc with
    | .forward => some (c, { e with pc := .goodbye error })
    | _ => none

/-! ## The client -/

structure EntrySystem where
  client : Client
  entries : List Entry

inductive ClientAction where
  | request (m : ConnectMessage)
  | entry (n : ℕ) (label : EntryLabel)
  | connect (index : ℕ) (link : Link)
  | drop (index : ℕ)
  /-- One iteration of `resumeRelayChannels` on a fresh link. -/
  | resume (link : Link) (channelID : UUID) (ok : Bool)
  | establish (session : ℕ)
  | failSession (session : ℕ)
  | removeSession (session : ℕ)
  /-- A disconnect of the peer or of the relay. -/
  | hubClose (channelID : UUID)
  | doCleanup (channelID : UUID)

/-- `resumeRelayChannels` for one channel: a channel whose session is gone is
resumed with its request in the clear. -/
def Client.resumeRelayChannel (c : Client) (link : Link) (channelID : UUID) (ok : Bool) : Client :=
  match c.logicalChannels.lookup channelID with
  | none => c
  | some ch =>
    if !ch.canResume then c
    else if (c.hub.lookup channelID).isSome then
      let c := c.log link (.plain (.channelOpen ⟨channelID, true⟩))
      if ok then c.setSuspended channelID false else c
    else c.log link (.plain (.connect { ch.request with resume := true }))

def Client.connect (c : Client) (index : ℕ) (link : Link) : Client :=
  { c with websockets :=
      if c.websockets.length ≤ index then c.websockets ++ [some link]
      else c.websockets.set index (some link) }

def Client.removeSession (c : Client) (n : ℕ) : Client :=
  match c.sessions[n]? with
  | none => c
  | some s =>
    if c.hub.lookup s.channelID = some n then { c with hub := c.hub.erase s.channelID }
    else c

def Client.doCleanup (c : Client) (channelID : UUID) : Client :=
  let c := c.hubClose channelID
  match c.logicalChannels.lookup channelID with
  | none => c
  | some ch => c.setChannel channelID { ch with closed := true }

/-- Every action that no request takes. -/
def Client.environment (c : Client) : ClientAction → Client
  | .request _ | .entry _ _ => c
  | .connect index link => c.connect index link
  | .drop index => { c with websockets := c.websockets.set index none }
  | .resume link channelID ok => c.resumeRelayChannel link channelID ok
  | .establish n =>
    { c with sessions := c.sessions.modify n fun s => { s with established := true } }
  | .failSession n => c.closeSession n
  | .removeSession n => c.removeSession n
  | .hubClose channelID => c.hubClose channelID
  | .doCleanup channelID => c.doCleanup channelID

def EntrySystem.step (protocolVersion : UInt8) (s : EntrySystem) : ClientAction → Option EntrySystem
  | .request m =>
    -- a request waits for a link before it is handled at all
    match s.client.getNextWebSocket with
    | (none, _) => none
    | (some _, c) => some ⟨c, s.entries ++ [⟨m, .probe⟩]⟩
  | .entry n label =>
    match s.entries[n]? with
    | none => none
    | some e =>
      (e.step protocolVersion s.client label).map fun moved => ⟨moved.1, s.entries.set n moved.2⟩
  | a => some { s with client := s.client.environment a }

end LinkSocks
