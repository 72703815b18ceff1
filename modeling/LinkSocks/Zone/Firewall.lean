import LinkSocks.Zone.Connection
import LinkSocks.Zone.Rules

/-!
# The firewall at both ends

A member evaluates the rules before it opens a stream, forwards a datagram of a SOCKS
client or returns the answer of a local service, with a flow made from its own address
and from what it was asked for.  The member at the other end evaluates its own copy of
the rules, with a flow made from the header of the message.

The header has the four bytes of each address, and the addresses of a roster are ones
of IPv4, so the two flows are the same.  Rosters may come between the check and the
`Seal`: they do not change the address of the member, and a `Seal` is for a member of
the roster of that moment.
-/

namespace LinkSocks.Zone

open Go PacketCipher

/-- The flow of a stream; its source port is not known. -/
def streamFlow (src dst : Addr) (port : UInt16) : Flow :=
  ⟨some src, some dst, .tcp, 0, port, false, true⟩

def datagramFlow (src dst : Addr) (srcPort dstPort : UInt16) : Flow :=
  ⟨some src, some dst, .udp, srcPort, dstPort, true, true⟩

namespace Firewall

/-! ## Streams -/

def opOpen : UInt8 := 1
def opReset : UInt8 := 6

def openMessage (id : UInt32) (src dst : Addr) (port : UInt16) : Bytes :=
  [kindStream, opOpen] ++ putUint32 id ++ (Fixed.copy 4 src.asSlice).bytes ++
    (Fixed.copy 4 dst.asSlice).bytes ++ putUint16 port

/-- Opcode, identifier and remaining fields of a stream message. -/
def streamOp (raw : Bytes) : Except Error (UInt8 × UInt32 × Bytes) :=
  if raw.length < 6 ∨ raw.getD 0 0 ≠ kindStream then .error (.msg "invalid zone stream message")
  else if raw.getD 1 0 < opOpen ∨ opReset < raw.getD 1 0 then
    .error (.msg "invalid zone stream opcode")
  else .ok (raw.getD 1 0, uint32Of ((raw.drop 2).take 4), raw.drop 6)

def errUnreachable : Error := .msg "zone member is not reachable"
def errNotAllowed : Error := .msg "zone firewall denied the connection"

/-- The checks of `openStream`; then it sends `openMessage`. -/
def openStream (rs : Ruleset) (c : PacketCipher) (dst : Addr) (port : UInt16) : Except Error Unit :=
  if c.peers.lookup dst = none then .error errUnreachable
  else if rs.allow (streamFlow c.self dst port) then .ok ()
  else .error errNotAllowed

/-- Source, destination and port in the fields of OPEN. -/
def openSrc (fields : Bytes) : Addr := .v4 (uint32Of (fields.take 4))
def openDst (fields : Bytes) : Addr := .v4 (uint32Of ((fields.drop 4).take 4))
def openPort (fields : Bytes) : UInt16 := uint16Of ((fields.drop 8).take 2)

/-- The flow that `handleOpen` evaluates. -/
def openFlow (fields : Bytes) : Flow :=
  streamFlow (openSrc fields) (openDst fields) (openPort fields)

/-- What `handleOpen` does with OPEN, up to the dial. -/
inductive OpenDecision where
  | ignored
  | reset
  | refused
  | dial (port : UInt16)
  deriving DecidableEq

/-- `hasStream` says which identifiers are in the stream table. -/
def handleOpen (rs : Ruleset) (c : PacketCipher) (hasStream : UInt32 → Bool) (id : UInt32)
    (fields : Bytes) : OpenDecision :=
  if fields.length ≠ 10 then .ignored
  else if openDst fields ≠ c.self ∨ c.peers.lookup (openSrc fields) = none then .ignored
  else if hasStream id then .reset
  else if rs.allow (openFlow fields) then .dial (openPort fields)
  else .refused

/-! ## Datagrams -/

structure UDPAddr where
  ip : Addr
  port : ℕ
  deriving DecidableEq

/-- The member and port that the socket of a local service stands for. -/
structure UDPService where
  peer : Addr
  peerPort : UInt16
  deriving DecidableEq

/-- The arguments of a call of `sealDatagram`. -/
structure Outgoing where
  dst : Addr
  srcPort : UInt16
  dstPort : UInt16
  payload : Bytes
  deriving DecidableEq

def Outgoing.flow (self : Addr) (out : Outgoing) : Flow :=
  datagramFlow self out.dst out.srcPort out.dstPort

/-- A call of `sealDatagram` that has found state `j` for its destination. -/
def Outgoing.pending (out : Outgoing) (j : ℕ) : PendingDatagram :=
  ⟨j, out.dst, out.srcPort, out.dstPort, out.payload⟩

/-- `forwardDatagram`, up to the call of `sealDatagram`. -/
def forwardDatagram (rs : Ruleset) (c : PacketCipher) (client : UDPAddr) (dst : Addr)
    (port : UInt16) (payload : Bytes) : Option Outgoing :=
  if c.peers.lookup dst = none then none
  else if rs.allow (datagramFlow c.self dst (UInt16.ofNat client.port) port) then
    some ⟨dst, UInt16.ofNat client.port, port, payload⟩
  else none

/-- One round of `readServiceDatagrams`, up to the call of `sealDatagram`; the service
answers from address `sender`. -/
def serviceDatagram (rs : Ruleset) (c : PacketCipher) (service : UDPService)
    (sender : UDPAddr) (payload : Bytes) : Option Outgoing :=
  if rs.allow (datagramFlow c.self service.peer (UInt16.ofNat sender.port)
      service.peerPort) then
    some ⟨service.peer, UInt16.ofNat sender.port, service.peerPort, payload⟩
  else none

/-- The two places that call `sealDatagram`. -/
def Sends (rs : Ruleset) (c : PacketCipher) (out : Outgoing) : Prop :=
  (∃ client dst port payload, forwardDatagram rs c client dst port payload = some out) ∨
    ∃ service sender payload, serviceDatagram rs c service sender payload = some out

/-- The flow that `deliverDatagram` evaluates. -/
def deliveryFlow (d : PacketCipher.Datagram) : Flow := datagramFlow d.src d.dst d.srcPort d.dstPort

end Firewall

/-- A `udpClientKey`, which is also the key of a service. -/
structure UDPKey where
  peer : Addr
  port : UInt16
  deriving DecidableEq

/-- The address of a client and the association it belongs to. -/
structure UDPClient where
  client : Firewall.UDPAddr
  sink : ℕ
  lastSeen : ℕ
  deriving DecidableEq

/-- `udpClients` and `udpServices`; of a service only the time of its last use matters
here. -/
structure UDPTables where
  clients : GoMap UDPKey UDPClient
  services : GoMap UDPKey ℕ

/-- Where `deliverDatagram` puts a datagram. -/
inductive Outcome where
  | denied
  | client (sink : ℕ) (client : Firewall.UDPAddr)
  | service (port : UInt16)
  | noSocket
  deriving DecidableEq

def datagramKey (d : PacketCipher.Datagram) : UDPKey := ⟨d.src, d.srcPort⟩

/-- `listens` says whether a socket for a new service can be had. -/
def UDPTables.deliverDatagram (T : UDPTables) (rs : Ruleset) (now : ℕ) (d : PacketCipher.Datagram)
    (listens : Bool) : UDPTables × Outcome :=
  if rs.allow (Firewall.deliveryFlow d) = false then (T, .denied)
  else
    match T.clients.lookup (datagramKey d) with
    | some entry =>
      ({ T with clients := T.clients.insert (datagramKey d) { entry with lastSeen := now } },
        .client entry.sink entry.client)
    | none =>
      if T.services.lookup (datagramKey d) = none ∧ listens = false then (T, .noSocket)
      else ({ T with services := T.services.insert (datagramKey d) now }, .service d.dstPort)

namespace Firewall

/-! ## Agreement -/

section Agreement

variable {L : ZoneLib} {c c' c'' : PacketCipher} {rs : Ruleset} {s t : Connection}
  {src dst : Addr} {port : UInt16} {out : Outgoing} {call : SealCall}
  {d : PacketCipher.Datagram}

theorem openStream_ok (h : openStream rs c dst port = .ok ()) :
    dst ∈ c.peers ∧ rs.allow (streamFlow c.self dst port) = true := by
  rw [openStream] at h
  split at h
  · cases h
  · rename_i hpeer
    split at h
    · rename_i hallow
      exact ⟨AList.lookup_isSome.mp (Option.ne_none_iff_isSome.mp hpeer), hallow⟩
    · cases h

/-- The fields that the receiver of OPEN reads are those that the sender wrote. -/
theorem streamOp_openMessage (hsrc : src.is4 = true) (hdst : dst.is4 = true) (id : UInt32)
    (port : UInt16) :
    ∃ fields, streamOp (openMessage id src dst port) = .ok (opOpen, id, fields) ∧
      fields.length = 10 ∧ openSrc fields = src ∧ openDst fields = dst ∧
      openPort fields = port := by
  obtain ⟨s, rfl⟩ := Addr.eq_v4 hsrc
  obtain ⟨d, rfl⟩ := Addr.eq_v4 hdst
  have hid : uint32Of (putUint32 id) = id := uint32_putUint32 id
  have hs : uint32Of (putUint32 s) = s := uint32_putUint32 s
  have hd : uint32Of (putUint32 d) = d := uint32_putUint32 d
  have hport : uint16Of (putUint16 port) = port := uint16Of_putUint16 port []
  refine ⟨putUint32 s ++ putUint32 d ++ putUint16 port, ?_, rfl, ?_, ?_, hport⟩
  · change Except.ok (opOpen, uint32Of (putUint32 id), _) = _
    rw [hid]
    rfl
  · exact congrArg Addr.v4 hs
  · exact congrArg Addr.v4 hd

/-- The member that OPEN is for decides by its rules on the flow of the sender. -/
theorem handleOpen_of_fields {fields : Bytes} (hlength : fields.length = 10)
    (hsrc : openSrc fields = src) (hport : openPort fields = port) (hself : openDst fields = c.self)
    (hmem : src ∈ c.peers) {hasStream : UInt32 → Bool} {id : UInt32} (hfree : hasStream id = false)
    (rules : Ruleset) : handleOpen rules c hasStream id fields =
      if rules.allow (streamFlow src c.self port) then .dial port else .refused := by
  subst hsrc hport
  have hpeer : c.peers.lookup (openSrc fields) ≠ none :=
    Option.ne_none_iff_isSome.mpr (AList.lookup_isSome.mpr hmem)
  simp [handleOpen, openFlow, hlength, hself, hpeer, hfree]

theorem deliverDatagram_denied (T : UDPTables) (now : ℕ) (listens : Bool) (rules : Ruleset) :
    (T.deliverDatagram rules now d listens).2 = .denied ↔ rules.allow (deliveryFlow d) = false := by
  by_cases hdenied : rules.allow (deliveryFlow d) = false
  · rw [UDPTables.deliverDatagram, if_pos hdenied]
    exact iff_of_true rfl hdenied
  · rw [UDPTables.deliverDatagram, if_neg hdenied]
    refine iff_of_false ?_ hdenied
    split
    · nofun
    · split_ifs <;> nofun

theorem allow_of_sends (h : Sends rs c out) : rs.allow (out.flow c.self) = true := by
  obtain ⟨client, dst, port, payload, h⟩ | ⟨service, sender, payload, h⟩ := h
  · rw [forwardDatagram] at h
    split_ifs at h with hpeer hallow
    cases h
    exact hallow
  · obtain ⟨hallow, rfl⟩ := of_ite_some h
    exact hallow

theorem deliveryFlow_of_sealed (hc : c.Sound L) {j : ℕ}
    (hcall : call ∈ (Connection.sealPending c (out.pending j)).calls)
    (hopen : c'.openDatagram L (call.message L) = (c'', .ok d)) :
    deliveryFlow d = out.flow c.self := by
  have hmem : out.dst ∈ c.peers := by
    by_contra hnone
    have hlookup := AList.lookup_eq_none.mpr hnone
    simp [Connection.sealPending, Outgoing.pending, sealOne, hlookup, refused] at hcall
  -- The payload is not in the header, so the one that was opened does as well.
  let m : ZoneMessage := .datagram c.self out.dst out.srcPort out.dstPort d.payload
  have hsize : m.front.length = 13 := by simp [m, ZoneMessage.front]
  have hheader : call.header = m.front ++ putUint64 call.sequence :=
    (header_of_sealOne (m := m) rfl hsize hcall).1
  have htake : (call.message L).take datagramHeader = call.header := by
    refine List.take_left' ?_
    rw [hheader, List.length_append, hsize]
    rfl
  obtain ⟨q, haccepts⟩ := accepts_of_openDatagram hopen
  have hm : ZoneMessage.datagram d.src d.dst d.srcPort d.dstPort d.payload = m := by
    calc ZoneMessage.datagram d.src d.dst d.srcPort d.dstPort d.payload
        = .ofHeader ((call.message L).take datagramHeader) d.payload := haccepts.message
      _ = .ofHeader (m.front ++ putUint64 call.sequence) m.payload := by rw [htake, hheader]; rfl
      _ = m := ZoneMessage.ofHeader_front (m := m) ⟨hc.self, hc.tables.is4 _ hmem⟩ _
  injection hm with hsrc hdst hsrcPort hdstPort
  rw [deliveryFlow, hsrc, hdst, hsrcPort, hdstPort]
  rfl

theorem self_run {actions : List ConnAction}
    (h : run (Connection.step L) s actions = some t) : t.cipher.self = s.cipher.self :=
  run_preserves (I := fun t : Connection => t.cipher.self = s.cipher.self)
    (fun _ _ _ hu hstep => (Connection.self_step hstep).trans hu) rfl h

theorem sound_run {actions : List ConnAction} (hs : s.cipher.Sound L)
    (h : run (Connection.step L) s actions = some t) : t.cipher.Sound L :=
  run_preserves (I := fun t : Connection => t.cipher.Sound L)
    (fun _ _ _ => Connection.sound_step) hs h

end Agreement

/-- The rules that are compiled from a list decide as the list says.  And if two members
have compiled one list, then what one of them sends is under the flow that it has
evaluated: whatever happens on its connection between the check in state `s` and the
sending in state `t`, the other one, whatever its rules are, decides on that flow, which
the common rules allow. -/
theorem flows_agree (M : RuleLib) (settings : Settings) (rs rs' : Ruleset)
    (hrs : compileSettings M settings = .ok rs) (hrs' : compileSettings M settings = .ok rs') :
    (∀ f, settings.Decides M.toNetip f (rs.allow f)) ∧
    ∀ (L : ZoneLib) (A : Member L) (before later : List ConnAction) (s t : Connection),
      run (Connection.step L) (.start A.cipher) before = some s →
      run (Connection.step L) s later = some t →
      (∀ (dst : Addr) (port : UInt16) (id : UInt32), openStream rs s.cipher dst port = .ok () →
        ∃ fields, streamOp (openMessage id t.cipher.self dst port) = .ok (opOpen, id, fields) ∧
          openFlow fields = streamFlow s.cipher.self dst port ∧ rs'.allow (openFlow fields) = true ∧
          ∀ (c : PacketCipher) (hasStream : UInt32 → Bool),
            handleOpen rs' c hasStream id fields ≠ .refused ∧
            (c.self = dst → s.cipher.self ∈ c.peers → hasStream id = false →
              (∀ rules, handleOpen rules c hasStream id fields =
                if rules.allow (streamFlow s.cipher.self dst port) then .dial port else .refused) ∧
              handleOpen rs' c hasStream id fields = .dial port)) ∧
      ∀ (out : Outgoing) (j : ℕ), Sends rs s.cipher out →
        ∀ call ∈ (Connection.sealPending t.cipher (out.pending j)).calls,
          ∀ (c c' : PacketCipher) (d : PacketCipher.Datagram),
            c.openDatagram L (call.message L) = (c', .ok d) →
            deliveryFlow d = out.flow s.cipher.self ∧ rs'.allow (deliveryFlow d) = true ∧
            ∀ (T : UDPTables) (now : ℕ) (listens : Bool),
              (∀ rules, (T.deliverDatagram rules now d listens).2 = .denied ↔
                rules.allow (out.flow s.cipher.self) = false) ∧
              (T.deliverDatagram rs' now d listens).2 ≠ .denied := by
  obtain rfl : rs = rs' := Except.ok.inj (hrs.symm.trans hrs')
  refine ⟨allow_decides hrs, ?_⟩
  intro L A before later s t hs ht
  have hsound : s.cipher.Sound L := sound_run A.sound hs
  have hself : t.cipher.self = s.cipher.self := self_run ht
  constructor
  · intro dst port id hopen
    obtain ⟨hmem, hallow⟩ := openStream_ok hopen
    obtain ⟨fields, hfields, hlength, hsrc, hdst, hport⟩ :=
      streamOp_openMessage hsound.self (hsound.tables.is4 dst hmem) id port
    have hflow : openFlow fields = streamFlow s.cipher.self dst port := by
      rw [openFlow, hsrc, hdst, hport]
    have hallowed : rs.allow (openFlow fields) = true := by
      rw [hflow]
      exact hallow
    rw [hself]
    refine ⟨fields, hfields, hflow, hallowed, fun c hasStream => ⟨?_, ?_⟩⟩
    · rw [handleOpen]
      split_ifs <;> simp
    · rintro rfl hlisted hfree
      have hdecides := handleOpen_of_fields hlength hsrc hport hdst hlisted hfree
      refine ⟨hdecides, ?_⟩
      rw [hdecides, if_pos hallow]
  · intro out j hsends call hcall c c' d hopen
    have hflow : deliveryFlow d = out.flow s.cipher.self := by
      rw [← hself]
      exact deliveryFlow_of_sealed (sound_run hsound ht) hcall hopen
    have hallow := allow_of_sends hsends
    rw [hflow]
    refine ⟨rfl, hallow, fun T now listens => ?_⟩
    have hdenied := fun rules => hflow ▸ deliverDatagram_denied (d := d) T now listens rules
    refine ⟨hdenied, fun hd => ?_⟩
    rw [(hdenied rs).mp hd] at hallow
    contradiction

/-! ## Runs -/

def plainRuleLib : RuleLib := { plainLib.toNetip with quote := fun _ => "" }

/-- Queries to `10.0.0.2` and connections to the low ports are allowed. -/
def plainSettings : Settings where
  defaultAction := textDeny
  rules := [⟨[], ⟨false, 0, 0⟩, ascii "udp", [10, 0, 0, 2], ⟨true, 53, 53⟩, textAllow⟩,
    ⟨textAny, ⟨false, 0, 0⟩, ascii "tcp", [10, 0, 0, 9, 24], ⟨true, 1, 1023⟩, textAllow⟩]

def plainRuleset : Ruleset where
  rules := [⟨none, some ⟨.v4 0x0A000002, 32⟩, ⟨false, 0, 0⟩, ⟨true, 53, 53⟩, .udp, true⟩,
    ⟨none, some ⟨.v4 0x0A000000, 24⟩, ⟨false, 0, 0⟩, ⟨true, 1, 1023⟩, .tcp, true⟩]
  defaultAllow := false

/-- A query of a client from port 5353. -/
def queryOut : Outgoing := ⟨.v4 0x0A000002, 5353, 53, [7]⟩

/-- The answer of a service on port 8053 to a client of the member on port 53. -/
def replyOut : Outgoing := ⟨.v4 0x0A000002, 8053, 53, [8]⟩

theorem ok_of_toOption {ε α : Type} {x : Except ε α} {a : α} (h : x.toOption = some a) :
    x = .ok a := by
  cases x with
  | error e => cases h
  | ok b => rw [Option.some.inj h]

/-- A roster comes between the checks and the sending. -/
theorem plainSettings_agree : compileSettings plainRuleLib plainSettings = .ok plainRuleset ∧
    plainSettings.Decides plainRuleLib.toNetip
      (datagramFlow (.v4 0x0A000001) (.v4 0x0A000002) 5353 54) false ∧
    ∃ A ∈ plainMember 1 1 1 2 2 2, ∃ B ∈ plainMember 2 2 2 1 1 1, ∃ s t : Connection,
      run (Connection.step plainLib) (.start A.cipher) [] = some s ∧
      run (Connection.step plainLib) s
        [.update (plainRoster 1 [plainPeer 3 3 3 3, plainPeer 2 2 2 2])] = some t ∧
      openStream plainRuleset s.cipher (.v4 0x0A000002) 443 = .ok () ∧
      forwardDatagram plainRuleset s.cipher ⟨.v4 0x7F000001, 5353⟩ (.v4 0x0A000002) 53 [7] =
        some queryOut ∧
      serviceDatagram plainRuleset s.cipher ⟨.v4 0x0A000002, 53⟩ ⟨.v4 0x7F000001, 8053⟩ [8] =
        some replyOut ∧
      (∃ fields, streamOp (openMessage 9 t.cipher.self (.v4 0x0A000002) 443) =
          .ok (opOpen, 9, fields) ∧
        handleOpen plainRuleset B.cipher (fun _ => false) 9 fields = .dial 443) ∧
      ∀ out ∈ [queryOut, replyOut],
        ∃ call ∈ (Connection.sealPending t.cipher (out.pending 0)).calls, ∃ c' d,
          B.cipher.openDatagram plainLib (call.message plainLib) = (c', .ok d) ∧
          deliveryFlow d = out.flow s.cipher.self ∧
          ∀ T now listens,
            (UDPTables.deliverDatagram T plainRuleset now d listens).2 ≠ .denied := by
  have hrs : compileSettings plainRuleLib plainSettings = .ok plainRuleset := rfl
  obtain ⟨A, hA, B, hB, s, hs, t, ht, hopen, hforward, hservice, hself, hlisted, hsealed⟩ :
      ∃ A ∈ plainMember 1 1 1 2 2 2, ∃ B ∈ plainMember 2 2 2 1 1 1,
        ∃ s ∈ run (Connection.step plainLib) (.start A.cipher) [],
        ∃ t ∈ run (Connection.step plainLib) s
          [.update (plainRoster 1 [plainPeer 3 3 3 3, plainPeer 2 2 2 2])],
          openStream plainRuleset s.cipher (.v4 0x0A000002) 443 = .ok () ∧
          forwardDatagram plainRuleset s.cipher ⟨.v4 0x7F000001, 5353⟩ (.v4 0x0A000002) 53
            [7] = some queryOut ∧
          serviceDatagram plainRuleset s.cipher ⟨.v4 0x0A000002, 53⟩ ⟨.v4 0x7F000001, 8053⟩
            [8] = some replyOut ∧
          B.cipher.self = .v4 0x0A000002 ∧ s.cipher.self ∈ B.cipher.peers ∧
          ∀ out ∈ [queryOut, replyOut],
            ∃ call ∈ (Connection.sealPending t.cipher (out.pending 0)).calls,
              ∃ d ∈ (B.cipher.openDatagram plainLib (call.message plainLib)).2.toOption, True := by
    decide +kernel
  obtain ⟨hdecides, hagree⟩ := flows_agree plainRuleLib plainSettings _ _ hrs hrs
  obtain ⟨hstreams, hdatagrams⟩ := hagree plainLib A _ _ s t hs ht
  obtain ⟨fields, hfields, -, -, hopened⟩ := hstreams (.v4 0x0A000002) 443 9 hopen
  refine ⟨hrs, hdecides _, A, hA, B, hB, s, t, hs, ht, hopen, hforward, hservice,
    ⟨fields, hfields, ((hopened B.cipher _).2 hself hlisted rfl).2⟩, fun out hout => ?_⟩
  have hsends : Sends plainRuleset s.cipher out := by
    rcases List.mem_pair.mp hout with rfl | rfl
    · exact .inl ⟨_, _, _, _, hforward⟩
    · exact .inr ⟨_, _, _, hservice⟩
  obtain ⟨call, hcall, d, hd, -⟩ := hsealed out hout
  have hreceived : B.cipher.openDatagram plainLib (call.message plainLib) =
      ((B.cipher.openDatagram plainLib (call.message plainLib)).1, .ok d) :=
    Prod.ext rfl (ok_of_toOption hd)
  obtain ⟨hdelivery, -, hdelivers⟩ := hdatagrams out 0 hsends call hcall B.cipher _ d hreceived
  exact ⟨call, hcall, _, d, hreceived, hdelivery, fun T now listens => (hdelivers T now listens).2⟩

end Firewall

end LinkSocks.Zone
