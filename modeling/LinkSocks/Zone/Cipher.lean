import LinkSocks.Go.Maps
import LinkSocks.Go.Tables
import LinkSocks.Zone.Network

/-!
# The packet cipher of a zone member

A member derives two keys for every peer of its roster, one for each direction,
from the shared secret and the texts of the two exchange keys.  Frames, stream
data and datagrams have headers of their own, but one sequence of numbers: the
number ends the header, the nonce is the session of the sender and the number,
and the header is the additional data.  A receiver takes a number only above the
last one that it took from the peer.

Peer states are objects that streams refer to after a roster was replaced, so
they are entries of a table and the roster maps hold indices.
-/

namespace LinkSocks.Zone

open Go

/-- The libraries that the cipher calls.  A key stands for its AEAD. -/
structure ZoneLib extends Netip where
  sum256 : Bytes → Fixed 32
  publicKey : Bytes → Fixed 32
  /-- `private.ECDH(public)`. -/
  ecdh : Bytes → Bytes → Except Error Bytes
  /-- The first bytes of HKDF with SHA-256: secret, salt and info. -/
  hkdf : Bytes → Bytes → Bytes → Bytes
  /-- XChaCha20-Poly1305: key, nonce, text and additional data. -/
  aeadSeal : Bytes → Bytes → Bytes → Bytes → Bytes
  aeadOpen : Bytes → Bytes → Bytes → Bytes → Option Bytes

/-- `chacha20poly1305.Overhead`. -/
def overhead : ℕ := 16

structure PeerCipher where
  peer : Peer
  mac : Fixed 6
  session : Fixed 16
  send : Bytes
  receive : Bytes
  last : UInt64
  deriving DecidableEq

structure PacketCipher where
  zoneID : GoString
  self : Addr
  network : Prefix
  mtu : Int
  key : GoString
  mac : Fixed 6
  privateKey : Bytes
  session : Fixed 16
  next : UInt64
  /-- Every peer state that there was. -/
  states : List PeerCipher
  peers : GoMap Addr ℕ
  macs : GoMap (Fixed 6) ℕ

/-! ## Rosters -/

def macProtocol : GoString := ascii "linksocks-zone-mac-v1"

/-- The first byte of an address of a single, locally administered interface. -/
def localByte (b : UInt8) : UInt8 := (b &&& ~~~1) ||| 2

def deriveMAC (L : ZoneLib) (zoneID : GoString) (identity : Bytes) : Fixed 6 :=
  match (Fixed.copy 6 (L.sum256 (macProtocol ++ zoneID ++ identity)).bytes).bytes with
  | first :: rest => .copy 6 (localByte first :: rest)
  | [] => .copy 6 []

/-- The info of a derived key. -/
def packetInfo (sender receiver : GoString) : Bytes :=
  protocol ++ ascii "\n" ++ sender ++ ascii "\n" ++ receiver

def derivePacketKey (L : ZoneLib) (shared : Bytes) (zoneID sender receiver : GoString) : Bytes :=
  L.hkdf shared zoneID (packetInfo sender receiver)

structure RosterTables where
  states : List PeerCipher
  peers : GoMap Addr ℕ
  macs : GoMap (Fixed 6) ℕ
  identities : List GoString
  keys : List GoString

def errPeerAddress : Error := .msg "invalid peer address in zone roster"

/-- An entry with an address of its own in the network, and with an identity and a
key that no entry before it has. -/
def peerAddress (L : ZoneLib) (c : PacketCipher) (t : RosterTables) (p : Peer) :
    Except Error Addr :=
  match L.parseAddr p.ip with
  | none => .error errPeerAddress
  | some ip =>
    if ip.is4 = false ∨ c.network.contains ip = false ∨ ip = c.self ∨
        ip = c.network.addr ∨ ip = broadcast c.network ∨ ip ∈ t.peers ∨
        p.identity ∈ t.identities ∨ p.key ∈ t.keys then .error errPeerAddress
    else .ok ip

def checkMAC (c : PacketCipher) (t : RosterTables) (mac : Fixed 6) : Except Error Unit :=
  if mac ∈ t.macs ∨ mac = c.mac then .error (.msg "duplicate peer MAC address in zone roster")
  else .ok ()

/-- The state of a peer before the update, if the entry stands for it still. -/
def oldPeer (c : PacketCipher) (ip : Addr) (p : Peer) : Option ℕ :=
  (c.peers.lookup ip).filter fun j =>
    (c.states[j]?).any fun old => decide (old.peer.identity = p.identity) &&
      decide (old.peer.key = p.key) && decide (old.peer.session = p.session)

/-- The state for an entry, with its index. -/
def peerState (L : ZoneLib) (c : PacketCipher) (t : RosterTables) (p : Peer)
    (ip : Addr) (mac : Fixed 6) (key session : Bytes) : Except Error (ℕ × List PeerCipher) :=
  match oldPeer c ip p with
  | some j => .ok (j, t.states)
  | none =>
    match L.ecdh c.privateKey key with
    | .error e => .error (.wrap "invalid peer exchange key" e)
    | .ok shared =>
      .ok (t.states.length, t.states ++ [{
        peer := p
        mac := mac
        session := .copy 16 session
        send := derivePacketKey L shared c.zoneID c.key p.key
        receive := derivePacketKey L shared c.zoneID p.key c.key
        last := 0 }])

/-- One round of the loop of `update`. -/
def addPeer (L : ZoneLib) (c : PacketCipher) (t : RosterTables) (p : Peer) :
    Except Error RosterTables := do
  let ip ← peerAddress L c t p
  let identity ← decodeHex p.identity 32
  let key ← decodeHex p.key 32
  let session ← decodeHex p.session 16
  checkMAC c t (deriveMAC L c.zoneID identity)
  let state ← peerState L c t p ip (deriveMAC L c.zoneID identity) key session
  return {
    states := state.2
    peers := t.peers.insert ip state.1
    macs := t.macs.insert (deriveMAC L c.zoneID identity) state.1
    identities := p.identity :: t.identities
    keys := p.key :: t.keys }

/-- The checks of `update` in front of its loop. -/
def checkRoster (L : ZoneLib) (c : PacketCipher) (roster : Control) : Except Error Unit :=
  match validateNetwork L.toNetip roster.zone c.zoneID roster.self with
  | .error _ => .error (.msg "invalid zone roster")
  | .ok (network, self) =>
    if self ≠ c.self ∨ network ≠ c.network ∨ roster.zone.mtu ≠ c.mtu ∨
        255 < roster.peers.length then
      .error (.msg "invalid zone roster")
    else .ok ()

def update (L : ZoneLib) (c : PacketCipher) (roster : Control) : Except Error PacketCipher := do
  checkRoster L c roster
  let t ← roster.peers.foldlM (addPeer L c) ⟨c.states, ∅, ∅, [], []⟩
  return { c with states := t.states, peers := t.peers, macs := t.macs }

def newPacketCipher (L : ZoneLib) (id : GoString) (initial : Control)
    (privateKey : Bytes) (session : GoString) (identity : Bytes) : Except Error PacketCipher :=
  match validateNetwork L.toNetip initial.zone id initial.self with
  | .error e => .error e
  | .ok (network, self) => do
      let nonce ← decodeHex session 16
      update L {
        zoneID := id
        self := self
        network := network
        mtu := initial.zone.mtu
        key := hexEncode (L.publicKey privateKey).bytes
        mac := deriveMAC L id identity
        privateKey := privateKey
        session := .copy 16 nonce
        next := 0
        states := []
        peers := ∅
        macs := ∅ } initial

/-! ## Sealing -/

/-- One `Seal` of an AEAD, for the state of a peer. -/
structure SealCall where
  peer : ℕ
  sequence : UInt64
  key : Bytes
  nonce : Bytes
  header : Bytes
  payload : Bytes
  deriving DecidableEq

/-- What goes to the wire. -/
def SealCall.message (L : ZoneLib) (call : SealCall) : Bytes :=
  call.header ++ L.aeadSeal call.key call.nonce call.payload call.header

/-- `binary.BigEndian.PutUint64(b[offset:], x)`. -/
def writeUint64 (b : Bytes) (offset : ℕ) (x : UInt64) : Bytes :=
  b.take offset ++ putUint64 x ++ b.drop (offset + 8)

/-- The session of the sender and the number of the header. -/
def packetNonce (session : Fixed 16) (header : Bytes) (seqOffset : ℕ) : Bytes :=
  session.bytes ++ (Fixed.copy 8 (header.drop seqOffset)).bytes

namespace PacketCipher

def sealLocked (c : PacketCipher) (j : ℕ) (peer : PeerCipher) (header : Bytes)
    (seqOffset : ℕ) (payload : Bytes) : Except Error (PacketCipher × SealCall) :=
  if c.next.toNat = 2 ^ 64 - 1 then .error (.msg "zone message sequence exhausted")
  else .ok ({ c with next := c.next + 1 }, {
    peer := j
    sequence := c.next + 1
    key := peer.send
    nonce := packetNonce c.session (writeUint64 header seqOffset (c.next + 1)) seqOffset
    header := writeUint64 header seqOffset (c.next + 1)
    payload := payload })

/-- What a call of a sealing function leaves: the cipher, the `Seal`s it made and,
if it fails, the error instead of their messages. -/
structure SealRun where
  cipher : PacketCipher
  calls : List SealCall
  error : Option Error

def refused (c : PacketCipher) (text : String) : SealRun := ⟨c, [], some (.msg text)⟩

/-- The loop of `sealFrame`.  The number in the header is overwritten in every
round. -/
def sealEach (c : PacketCipher) (header : Bytes) (seqOffset : ℕ) (payload : Bytes) :
    List (ℕ × PeerCipher) → SealRun
  | [] => ⟨c, [], none⟩
  | target :: rest =>
    match c.sealLocked target.1 target.2 header seqOffset payload with
    | .error e => ⟨c, [], some e⟩
    | .ok (c', call) =>
      let run := c'.sealEach header seqOffset payload rest
      { run with calls := call :: run.calls }

def targets (c : PacketCipher) (indices : List ℕ) : List (ℕ × PeerCipher) :=
  indices.filterMap fun j => (c.states[j]?).map ((j, ·))

/-- `seal`; an address that is not valid is not checked. -/
def sealOne (c : PacketCipher) (j : ℕ) (addr : Option Addr) (header : Bytes)
    (seqOffset : ℕ) (payload : Bytes) : SealRun :=
  if addr.any fun a => decide (c.peers.lookup a ≠ some j) then c.refused "zone peer state changed"
  else c.sealEach header seqOffset payload (c.targets [j])

def isGroupMAC (mac : Fixed 6) : Bool := decide (mac.bytes.getD 0 0 &&& 1 = 1)

/-- The header of a frame, with room for the number. -/
def frameHeader (src dst : Fixed 6) : Bytes :=
  [kindFrame, frameVersion] ++ src.bytes ++ dst.bytes ++ List.replicate 8 0

def frameDst (frame : Bytes) : Fixed 6 := .copy 6 (frame.take 6)
def frameSrc (frame : Bytes) : Fixed 6 := .copy 6 ((frame.drop 6).take 6)

/-- `order` is the order in which the loop over the peers finds them. -/
def sealFrame (c : PacketCipher) (frame : Bytes) (order : List ℕ) : SealRun :=
  if frame.length < minFrameSize ∨ maxFrameSize < frame.length then
    c.refused "invalid Ethernet frame length"
  else if frameSrc frame ≠ c.mac then c.refused "Ethernet frame source MAC is not this member"
  else if frameDst frame = c.mac then c.refused "Ethernet frame is addressed to this member"
  else if isGroupMAC (frameDst frame) then
    c.sealEach (frameHeader (frameSrc frame) (frameDst frame)) 14 frame (c.targets order)
  else
    match c.macs.lookup (frameDst frame) with
    | none => c.refused "Ethernet frame has no destination member"
    | some j => c.sealEach (frameHeader (frameSrc frame) (frameDst frame)) 14 frame (c.targets [j])

def streamHeader (id : UInt32) : Bytes := [kindStream, opData] ++ putUint32 id ++ List.replicate 8 0

/-- `peer.addr()`. -/
def addrOf (L : ZoneLib) (c : PacketCipher) (j : ℕ) : Option Addr :=
  (c.states[j]?).bind fun p => L.parseAddr p.peer.ip

def sealStreamData (L : ZoneLib) (c : PacketCipher) (j : ℕ) (id : UInt32)
    (payload : Bytes) : SealRun :=
  if payload.length = 0 ∨ maxStreamData < payload.length then
    c.refused "invalid zone stream payload size"
  else c.sealOne j (c.addrOf L j) (streamHeader id) 6 payload

def datagramHeaderOf (src dst : Addr) (srcPort dstPort : UInt16) : Bytes :=
  [kindDatagram] ++ (Fixed.copy 4 src.asSlice).bytes ++ (Fixed.copy 4 dst.asSlice).bytes ++
    putUint16 srcPort ++ putUint16 dstPort ++ List.replicate 8 0

def sealDatagram (c : PacketCipher) (dst : Addr) (srcPort dstPort : UInt16)
    (payload : Bytes) : SealRun :=
  match c.peers.lookup dst with
  | none => c.refused "datagram has no matching zone peer"
  | some j => c.sealOne j (some dst) (datagramHeaderOf c.self dst srcPort dstPort) 13 payload

/-! ## Opening -/

/-- The cipher after a call, and what the call returns. -/
abbrev Opened (α : Type) := PacketCipher × Except Error α

def setLast (c : PacketCipher) (j : ℕ) (peer : PeerCipher) (seq : UInt64) : PacketCipher :=
  { c with states := c.states.set j { peer with last := seq } }

/-- `open`, for an object of the table. -/
def openOne (L : ZoneLib) (c : PacketCipher) (j : ℕ) (peer : PeerCipher)
    (addr : Option Addr) (header : Bytes) (seqOffset : ℕ) (payload : Bytes)
    (validate : Bytes → Option Error) : Opened Bytes :=
  if addr.bind c.peers.lookup ≠ some j then (c, .error (.msg "zone peer state changed"))
  else if uint64Of (header.drop seqOffset) ≤ peer.last then
    (c, .error (.msg "replayed or out-of-order zone message"))
  else
    match L.aeadOpen peer.receive (packetNonce peer.session header seqOffset) payload
        header with
    | none => (c, .error (.msg "chacha20poly1305: message authentication failed"))
    | some plain =>
      match validate plain with
      | some e => (c, .error e)
      | none => (c.setLast j peer (uint64Of (header.drop seqOffset)), .ok plain)

def checkFrame (src dst : Fixed 6) (frame : Bytes) : Option Error :=
  if frame.length < minFrameSize ∨ maxFrameSize < frame.length ∨
      frame.take 6 ≠ dst.bytes ∨ (frame.drop 6).take 6 ≠ src.bytes then
    some (.msg "zone frame inner MAC mismatch")
  else none

/-- The addresses in the header of a frame message. -/
def headerSrc (raw : Bytes) : Fixed 6 := .copy 6 ((raw.drop 2).take 6)
def headerDst (raw : Bytes) : Fixed 6 := .copy 6 ((raw.drop 8).take 6)

def openFrame (L : ZoneLib) (c : PacketCipher) (raw : Bytes) : Opened (ℕ × Bytes) :=
  if raw.length < frameHeaderSize + minFrameSize + overhead ∨
      frameHeaderSize + maxFrameSize + overhead < raw.length ∨
      raw.getD 0 0 ≠ kindFrame ∨ raw.getD 1 0 ≠ frameVersion then
    (c, .error (.msg "invalid zone frame message"))
  else
    match (c.macs.lookup (headerSrc raw)).bind fun j => (c.states[j]?).map ((j, ·)) with
    | none => (c, .error (.msg "zone frame from an unknown source MAC"))
    | some (j, peer) =>
      if headerDst raw ≠ c.mac ∧ isGroupMAC (headerDst raw) = false then
        (c, .error (.msg "zone frame is not addressed to this member"))
      else
        let opened := openOne L c j peer (L.parseAddr peer.peer.ip)
          (raw.take frameHeaderSize) 14 (raw.drop frameHeaderSize)
          (checkFrame (headerSrc raw) (headerDst raw))
        (opened.1, opened.2.map ((j, ·)))

def checkStreamData (payload : Bytes) : Option Error :=
  if payload.length = 0 ∨ maxStreamData < payload.length then
    some (.msg "invalid zone stream payload size")
  else none

def openStreamData (L : ZoneLib) (c : PacketCipher) (j : ℕ) (raw : Bytes) :
    Opened (UInt32 × Bytes) :=
  if raw.length < streamDataHeader + overhead ∨
      streamDataHeader + maxStreamData + overhead < raw.length ∨
      raw.getD 0 0 ≠ kindStream ∨ raw.getD 1 0 ≠ opData then
    (c, .error (.msg "invalid zone stream data message"))
  else
    match c.states[j]? with
    | none => (c, .error (.msg "zone peer state changed"))
    | some peer =>
      let opened := openOne L c j peer (L.parseAddr peer.peer.ip)
        (raw.take streamDataHeader) 6 (raw.drop streamDataHeader) checkStreamData
      (opened.1, opened.2.map ((uint32Of ((raw.drop 2).take 4), ·)))

structure Datagram where
  peer : ℕ
  src : Addr
  dst : Addr
  srcPort : UInt16
  dstPort : UInt16
  payload : Bytes

/-- The addresses and ports in the header of a datagram message. -/
def datagramSrc (raw : Bytes) : Addr := .v4 (uint32Of ((raw.drop 1).take 4))
def datagramDst (raw : Bytes) : Addr := .v4 (uint32Of ((raw.drop 5).take 4))
def datagramSrcPort (raw : Bytes) : UInt16 := uint16Of ((raw.drop 9).take 2)
def datagramDstPort (raw : Bytes) : UInt16 := uint16Of ((raw.drop 11).take 2)

def openDatagram (L : ZoneLib) (c : PacketCipher) (raw : Bytes) : Opened Datagram :=
  if raw.length < datagramHeader + overhead ∨ raw.getD 0 0 ≠ kindDatagram then
    (c, .error (.msg "invalid zone datagram message"))
  else
    match (c.peers.lookup (datagramSrc raw)).bind fun j => (c.states[j]?).map ((j, ·)) with
    | none => (c, .error (.msg "zone datagram from an unknown address"))
    | some (j, peer) =>
      if datagramDst raw ≠ c.self then (c, .error (.msg "zone datagram from an unknown address"))
      else
        let opened := openOne L c j peer (some (datagramSrc raw))
          (raw.take datagramHeader) 13 (raw.drop datagramHeader) fun _ => none
        (opened.1, opened.2.map fun payload =>
          ⟨j, datagramSrc raw, datagramDst raw, datagramSrcPort raw, datagramDstPort raw, payload⟩)

end PacketCipher

end LinkSocks.Zone
