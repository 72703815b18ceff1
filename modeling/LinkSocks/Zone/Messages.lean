import LinkSocks.Zone.Roster

/-!
# Messages of a zone

The three kinds of message that a member seals, and what its header says about
each.  The first byte tells the kinds apart, and the fields can be read off the
header, so a header stands for one kind, one set of fields and one number.
-/

namespace LinkSocks.Zone

open Go PacketCipher List Option

/-- A message, as it is passed to a sealing function or comes from an opening
one. -/
inductive ZoneMessage where
  | frame (src dst : Fixed 6) (frame : Bytes)
  | streamData (id : UInt32) (payload : Bytes)
  | datagram (src dst : Addr) (srcPort dstPort : UInt16) (payload : Bytes)
  deriving DecidableEq

namespace ZoneMessage

def front : ZoneMessage → Bytes
  | .frame src dst _ => [kindFrame, frameVersion] ++ src.bytes ++ dst.bytes
  | .streamData id _ => [kindStream, opData] ++ putUint32 id
  | .datagram src dst srcPort dstPort _ =>
    [kindDatagram] ++ (Fixed.copy 4 src.asSlice).bytes ++
      (Fixed.copy 4 dst.asSlice).bytes ++ putUint16 srcPort ++ putUint16 dstPort

def payload : ZoneMessage → Bytes
  | .frame _ _ payload | .streamData _ payload | .datagram _ _ _ _ payload => payload

/-- What a receiver reads off a header. -/
def ofHeader (header payload : Bytes) : ZoneMessage :=
  if header.getD 0 0 = kindFrame then .frame (headerSrc header) (headerDst header) payload
  else if header.getD 0 0 = kindStream then .streamData (uint32Of ((header.drop 2).take 4)) payload
  else
    .datagram (datagramSrc header) (datagramDst header) (datagramSrcPort header)
      (datagramDstPort header) payload

/-- The addresses of a datagram are ones of IPv4. -/
def Is4 : ZoneMessage → Prop
  | .datagram src dst _ _ _ => src.is4 = true ∧ dst.is4 = true
  | _ => True

end ZoneMessage

theorem Addr.eq_v4 {ip : Addr} (h : ip.is4 = true) : ∃ bits, ip = .v4 bits := by
  cases ip with
  | v4 bits => exact ⟨bits, rfl⟩
  | v6 bytes zone => cases h

/-- The number at the end of a header. -/
def headerSequence (header : Bytes) : UInt64 := uint64Of (header.drop (header.length - 8))

section Headers

variable {front : Bytes} {n : ℕ} {x : UInt64}

theorem writeUint64_zeros (h : front.length = n) :
    writeUint64 (front ++ List.replicate 8 0) n x = front ++ putUint64 x := by
  rw [writeUint64, take_left' h, drop_eq_nil_of_le (by simp [h]), append_nil]

@[simp] theorem headerSequence_append (front : Bytes) (x : UInt64) :
    headerSequence (front ++ putUint64 x) = x := by
  have hlength : (front ++ putUint64 x).length - 8 = front.length := by simp
  rw [headerSequence, hlength, drop_left]
  exact uint64Of_putUint64 x []

theorem packetNonce_append (session : Fixed 16) (h : front.length = n) :
    packetNonce session (front ++ putUint64 x) n = session.bytes ++ putUint64 x := by
  rw [packetNonce, drop_left' h, Fixed.bytes_copy (putUint64_length x)]

end Headers

theorem ZoneMessage.ofHeader_front {m : ZoneMessage} (h : m.Is4) (x : UInt64) :
    ofHeader (m.front ++ putUint64 x) m.payload = m := by
  cases m with
  | frame src dst frame =>
    have hsrc : headerSrc ((ZoneMessage.frame src dst frame).front ++ putUint64 x) = src := by
      simp [headerSrc, front, take_left']
    have hdst : headerDst ((ZoneMessage.frame src dst frame).front ++ putUint64 x) = dst := by
      simp [headerDst, front, take_left']
    rw [ofHeader, hsrc, hdst]
    rfl
  | streamData id payload =>
    exact congrArg (ZoneMessage.streamData · payload) (uint32_putUint32 id)
  | datagram src dst srcPort dstPort payload =>
    obtain ⟨s, rfl⟩ := Addr.eq_v4 h.1
    obtain ⟨d, rfl⟩ := Addr.eq_v4 h.2
    have hsrc : uint32Of (putUint32 s) = s := uint32_putUint32 s
    have hdst : uint32Of (putUint32 d) = d := uint32_putUint32 d
    have hsrcPort : uint16Of (putUint16 srcPort) = srcPort := uint16Of_putUint16 srcPort []
    have hdstPort : uint16Of (putUint16 dstPort) = dstPort := uint16Of_putUint16 dstPort []
    change ZoneMessage.datagram (.v4 (uint32Of (putUint32 s))) (.v4 (uint32Of (putUint32 d)))
      (uint16Of (putUint16 srcPort)) (uint16Of (putUint16 dstPort)) payload = _
    rw [hsrc, hdst, hsrcPort, hdstPort]

/-! ## Sealing -/

/-- A call of a sealing function. -/
inductive SealOp where
  | frame (frame : Bytes) (order : List ℕ)
  | streamData (j : ℕ) (id : UInt32) (payload : Bytes)
  | datagram (dst : Addr) (srcPort dstPort : UInt16) (payload : Bytes)

def SealOp.message (c : PacketCipher) : SealOp → ZoneMessage
  | .frame bytes _ => .frame (frameSrc bytes) (frameDst bytes) bytes
  | .streamData _ id payload => .streamData id payload
  | .datagram dst srcPort dstPort payload => .datagram c.self dst srcPort dstPort payload

/-- The loop over the peers finds each of them once. -/
def SealOp.Possible (c : PacketCipher) : SealOp → Prop
  | .frame _ order => order.Perm (c.peers.entries.map Sigma.snd)
  | _ => True

instance (c : PacketCipher) : ∀ op : SealOp, Decidable (op.Possible c)
  | .frame _ order => inferInstanceAs (Decidable (order.Perm _))
  | .streamData .. | .datagram .. => inferInstanceAs (Decidable True)

def PacketCipher.sealMessage (L : ZoneLib) (c : PacketCipher) : SealOp → SealRun
  | .frame frame order => c.sealFrame frame order
  | .streamData j id payload => c.sealStreamData L j id payload
  | .datagram dst srcPort dstPort payload => c.sealDatagram dst srcPort dstPort payload

/-- A `Seal` of message `m` with cipher `c`: header and payload are those of the
message, the nonce is that of the session, and the key is that of a peer. -/
structure SealCall.Carries (c : PacketCipher) (m : ZoneMessage) (call : SealCall) : Prop where
  sequence : headerSequence call.header = call.sequence
  message : ZoneMessage.ofHeader call.header call.payload = m
  nonce : call.nonce = c.session.bytes ++ putUint64 call.sequence
  peer : ∃ ip, c.peers.lookup ip = some call.peer
  key : ∃ q : PeerCipher, c.states[call.peer]? = some q ∧ call.key = q.send

/-- What a sealing function does to the counter: it moves on with every `Seal`, so
the numbers increase. -/
structure PacketCipher.SealRun.Counts (c : PacketCipher) (r : SealRun) : Prop where
  cipher : r.cipher = { c with next := r.cipher.next }
  le : c.next ≤ r.cipher.next
  above : ∀ call ∈ r.calls, c.next < call.sequence ∧ call.sequence ≤ r.cipher.next
  sorted : r.calls.Pairwise fun call call' => call.sequence < call'.sequence

section Sealing

variable {L : ZoneLib} {c c' : PacketCipher} {header payload : Bytes} {offset j : ℕ}
  {q : PeerCipher} {call : SealCall}

theorem counts_refused (c : PacketCipher) (text : String) : (c.refused text).Counts c :=
  ⟨rfl, UInt64.le_refl _, nofun, .nil⟩

theorem sealLocked_ok (h : c.sealLocked j q header offset payload = .ok (c', call)) :
    c' = { c with next := c.next + 1 } ∧ c.next < c.next + 1 ∧ call = ⟨j, c.next + 1, q.send,
        packetNonce c.session (writeUint64 header offset (c.next + 1)) offset,
        writeUint64 header offset (c.next + 1), payload⟩ := by
  rw [sealLocked] at h
  split at h <;> cases h
  refine ⟨rfl, ?_, rfl⟩
  have hlt := c.next.toNat_lt
  rw [UInt64.lt_iff_toNat_lt, UInt64.toNat_add, UInt64.toNat_one]
  omega

/-- The loop: each call is for one of the targets, under the session of the
cipher. -/
theorem counts_sealEach (c : PacketCipher) (targets : List (ℕ × PeerCipher)) :
    (c.sealEach header offset payload targets).Counts c ∧
    ∀ call ∈ (c.sealEach header offset payload targets).calls, ∃ target ∈ targets,
      call = ⟨target.1, call.sequence, target.2.send,
        packetNonce c.session (writeUint64 header offset call.sequence) offset,
        writeUint64 header offset call.sequence, payload⟩ := by
  induction targets generalizing c with
  | nil => exact ⟨⟨rfl, UInt64.le_refl _, nofun, .nil⟩, nofun⟩
  | cons target rest ih =>
    rw [sealEach]
    split
    · exact ⟨⟨rfl, UInt64.le_refl _, nofun, .nil⟩, nofun⟩
    · rename_i c' call hok
      obtain ⟨rfl, hlt, rfl⟩ := sealLocked_ok hok
      obtain ⟨⟨hcipher, hle, habove, hsorted⟩, hcalls⟩ := ih { c with next := c.next + 1 }
      refine ⟨⟨?_, ?_, ?_, ?_⟩, ?_⟩
      · exact hcipher
      · exact UInt64.le_trans (UInt64.le_of_lt hlt) hle
      · intro call hcall
        obtain rfl | hcall := mem_cons.mp hcall
        · exact ⟨hlt, hle⟩
        · obtain ⟨hnext, hlast⟩ := habove call hcall
          exact ⟨UInt64.lt_trans hlt hnext, hlast⟩
      · exact pairwise_cons.mpr ⟨fun call hcall => (habove call hcall).1, hsorted⟩
      · intro call hcall
        obtain rfl | hcall := mem_cons.mp hcall
        · exact ⟨target, mem_cons_self, rfl⟩
        · exact exists_mem_cons_of_exists (hcalls call hcall)

theorem mem_targets {indices : List ℕ} {target : ℕ × PeerCipher} (h : target ∈ c.targets indices) :
    target.1 ∈ indices ∧ c.states[target.1]? = some target.2 := by
  obtain ⟨k, hk, hmap⟩ := mem_filterMap.mp h
  obtain ⟨r, hr, rfl⟩ := map_eq_some_iff.mp hmap
  exact ⟨hk, hr⟩

/-- The calls of the loop carry the message whose header was passed, if its
targets are peers. -/
theorem carries_of_sealEach {m : ZoneMessage} {indices : List ℕ} (hm : m.Is4)
    (hheader : header = m.front ++ List.replicate 8 0) (hoffset : m.front.length = offset)
    (hpeers : ∀ k ∈ indices, ∃ ip, c.peers.lookup ip = some k)
    (hcall : call ∈ (c.sealEach header offset m.payload (c.targets indices)).calls) :
    call.Carries c m := by
  obtain ⟨target, htarget, heq⟩ := (counts_sealEach c (c.targets indices)).2 call hcall
  obtain ⟨hindex, hstate⟩ := mem_targets htarget
  rw [hheader, writeUint64_zeros hoffset] at heq
  rw [heq]
  refine ⟨headerSequence_append _ _, ZoneMessage.ofHeader_front hm _, ?_, ?_, ?_⟩
  · exact packetNonce_append c.session hoffset
  · exact hpeers _ hindex
  · exact ⟨target.2, hstate, rfl⟩

theorem counts_sealOne (c : PacketCipher) (j : ℕ) (addr : Option Addr) :
    (c.sealOne j addr header offset payload).Counts c := by
  rw [sealOne]
  split
  · exact counts_refused c _
  · exact (counts_sealEach c _).1

theorem counts_sealMessage (L : ZoneLib) (c : PacketCipher) (op : SealOp) :
    (c.sealMessage L op).Counts c := by
  cases op with
  | frame frame order =>
    simp only [sealMessage, sealFrame]
    split_ifs
    · exact counts_refused c _
    · exact counts_refused c _
    · exact counts_refused c _
    · exact (counts_sealEach c _).1
    · split
      · exact counts_refused c _
      · exact (counts_sealEach c _).1
  | streamData j id payload =>
    simp only [sealMessage, sealStreamData]
    split
    · exact counts_refused c _
    · exact counts_sealOne c j _
  | datagram dst srcPort dstPort payload =>
    simp only [sealMessage, sealDatagram]
    split
    · exact counts_refused c _
    · exact counts_sealOne c _ _

theorem carries_of_sealOne {m : ZoneMessage} {ip : Addr} (hm : m.Is4)
    (hheader : header = m.front ++ List.replicate 8 0) (hoffset : m.front.length = offset)
    (hcall : call ∈ (c.sealOne j (some ip) header offset m.payload).calls) : call.Carries c m := by
  rw [sealOne] at hcall
  split at hcall
  · cases hcall
  · rename_i hcheck
    have hlookup : c.peers.lookup ip = some j := by simpa using hcheck
    refine carries_of_sealEach hm hheader hoffset ?_ hcall
    intro k hk
    rw [mem_singleton.mp hk]
    exact ⟨ip, hlookup⟩

/-- Every `Seal` of a sealing function carries the message that was passed to
it. -/
theorem carries_of_sealMessage {op : SealOp} (hc : c.Sound L) (hop : op.Possible c)
    (hcall : call ∈ (c.sealMessage L op).calls) : call.Carries c (op.message c) := by
  cases op with
  | frame frame order =>
    simp only [sealMessage, sealFrame] at hcall
    split_ifs at hcall
    · cases hcall
    · cases hcall
    · cases hcall
    · refine carries_of_sealEach (m := .frame _ _ frame) trivial rfl (by simp [ZoneMessage.front])
        ?_ hcall
      intro k hk
      obtain ⟨⟨ip, k'⟩, hmem, rfl⟩ := mem_map.mp (hop.mem_iff.mp hk)
      exact ⟨ip, AList.mem_lookup_iff.mpr hmem⟩
    · split at hcall
      · cases hcall
      · rename_i k hk
        refine carries_of_sealEach (m := .frame _ _ frame) trivial rfl
          (by simp [ZoneMessage.front]) ?_ hcall
        intro k' hk'
        rw [mem_singleton.mp hk']
        exact hc.tables.mac _ k hk
  | streamData j id payload =>
    simp only [sealMessage, sealStreamData] at hcall
    split at hcall
    · cases hcall
    · cases hstate : c.states[j]? with
      | none =>
        simp [addrOf, sealOne, targets, hstate, sealEach] at hcall
      | some q =>
        obtain ⟨ip, hip⟩ := hc.parses q (mem_of_getElem? hstate)
        rw [addrOf, hstate, bind_some, hip] at hcall
        exact carries_of_sealOne (m := .streamData id payload) trivial rfl rfl hcall
  | datagram dst srcPort dstPort payload =>
    simp only [sealMessage, sealDatagram] at hcall
    split at hcall
    · cases hcall
    · rename_i k hk
      have hmem : dst ∈ c.peers := AList.lookup_isSome.mp (by rw [hk]; rfl)
      exact carries_of_sealOne (m := .datagram c.self dst srcPort dstPort payload)
        ⟨hc.self, hc.tables.is4 dst hmem⟩ rfl (by simp [ZoneMessage.front]) hcall

end Sealing

/-! ## Opening -/

/-- A call of an opening function; streams know their peer. -/
inductive OpenOp where
  | frame (raw : Bytes)
  | streamData (j : ℕ) (raw : Bytes)
  | datagram (raw : Bytes)

def OpenOp.raw : OpenOp → Bytes
  | .frame raw | .streamData _ raw | .datagram raw => raw

def OpenOp.headerSize : OpenOp → ℕ
  | .frame _ => frameHeaderSize
  | .streamData _ _ => streamDataHeader
  | .datagram _ => datagramHeader

def OpenOp.kind : OpenOp → UInt8
  | .frame _ => kindFrame
  | .streamData _ _ => kindStream
  | .datagram _ => kindDatagram

def OpenOp.header (op : OpenOp) : Bytes := op.raw.take op.headerSize

/-- A message that was accepted, with the state of the peer and the number. -/
structure Received where
  peer : ℕ
  sequence : UInt64
  message : ZoneMessage

def PacketCipher.receive (L : ZoneLib) (c : PacketCipher) : OpenOp → Opened Received
  | .frame raw =>
    ((c.openFrame L raw).1, (c.openFrame L raw).2.map fun r =>
      ⟨r.1, headerSequence (raw.take frameHeaderSize), .frame (headerSrc raw) (headerDst raw) r.2⟩)
  | .streamData j raw =>
    ((c.openStreamData L j raw).1, (c.openStreamData L j raw).2.map fun r =>
      ⟨j, headerSequence (raw.take streamDataHeader), .streamData r.1 r.2⟩)
  | .datagram raw =>
    ((c.openDatagram L raw).1, (c.openDatagram L raw).2.map fun d =>
      ⟨d.peer, headerSequence (raw.take datagramHeader),
        .datagram d.src d.dst d.srcPort d.dstPort d.payload⟩)

/-- What opens under the key of a peer, for a header of the given size. -/
def PeerCipher.opens (L : ZoneLib) (q : PeerCipher) (size : ℕ) (raw : Bytes) : Option Bytes :=
  L.aeadOpen q.receive (packetNonce q.session (raw.take size) (size - 8)) (raw.drop size)
    (raw.take size)

/-- A message is accepted: it opens under the key of a current peer, its number is
above the last one, and it is what its header says. -/
structure PacketCipher.Accepts (L : ZoneLib) (c : PacketCipher) (op : OpenOp)
    (c' : PacketCipher) (r : Received) (q : PeerCipher) (plain : Bytes) : Prop where
  state : c.states[r.peer]? = some q
  opens : q.opens L op.headerSize op.raw = some plain
  last : q.last < r.sequence
  sequence : r.sequence = headerSequence op.header
  message : r.message = .ofHeader op.header plain
  cipher : c' = c.setLast r.peer q r.sequence

section Opening

variable {L : ZoneLib} {c c' : PacketCipher} {raw header payload plain : Bytes}
  {offset j n : ℕ} {q : PeerCipher} {addr : Option Addr} {e : Error}
  {validate : Bytes → Option Error}

/-- A message that is opened is new, and its tag is valid. -/
theorem openOne_ok (h : openOne L c j q addr header offset payload validate = (c', .ok plain)) :
    (∃ ip, c.peers.lookup ip = some j) ∧ q.last < uint64Of (header.drop offset) ∧
      L.aeadOpen q.receive (packetNonce q.session header offset) payload header = some plain ∧
      c' = c.setLast j q (uint64Of (header.drop offset)) := by
  revert h
  fun_cases openOne L c j q addr header offset payload validate <;> intro h <;> cases h
  case case5 hcurrent hlast hopen _ =>
    obtain ⟨ip, -, hip⟩ := bind_eq_some_iff.mp (not_not.mp hcurrent)
    exact ⟨⟨ip, hip⟩, UInt64.not_le.mp hlast, hopen, rfl⟩

theorem openOne_error (h : (openOne L c j q addr header offset payload validate).2 = .error e) :
    (openOne L c j q addr header offset payload validate).1 = c := by
  revert h
  rw [openOne]
  split
  · exact fun _ => rfl
  · split
    · exact fun _ => rfl
    · split
      · exact fun _ => rfl
      · split
        · exact fun _ => rfl
        · nofun

theorem headerSequence_take (h : n ≤ raw.length) :
    headerSequence (raw.take n) = uint64Of ((raw.take n).drop (n - 8)) := by
  rw [headerSequence, length_take, Nat.min_eq_left h]

theorem take_drop_take {k m : ℕ} (h : k + m ≤ n) (raw : Bytes) :
    ((raw.take n).drop k).take m = (raw.drop k).take m := by
  rw [drop_take, take_take, Nat.min_eq_left (by omega)]

theorem getD_take (h : 0 < n) (raw : Bytes) : (raw.take n).getD 0 0 = raw.getD 0 0 := by
  simp [getD_eq_getElem?_getD, h]

theorem accepts_of_openOne (op : OpenOp) {m : ZoneMessage}
    (hstate : c.states[j]? = some q) (hsize : op.headerSize ≤ op.raw.length)
    (hmessage : m = .ofHeader op.header plain)
    (h : openOne L c j q addr op.header (op.headerSize - 8)
      (op.raw.drop op.headerSize) validate = (c', .ok plain)) :
    Accepts L c op c' ⟨j, headerSequence op.header, m⟩ q plain := by
  obtain ⟨-, hlast, hopen, hcipher⟩ := openOne_ok h
  rw [OpenOp.header, ← headerSequence_take hsize] at hlast hcipher
  exact ⟨hstate, hopen, hlast, rfl, hmessage, hcipher⟩

variable {α β : Type} {f : α → β} {b : β} {frame : Bytes} {id : UInt32} {d : PacketCipher.Datagram}
  {op : OpenOp} {r : Received}

theorem map_eq_ok_iff {ε : Type} {x : Except ε α} : x.map f = .ok b ↔ ∃ a, x = .ok a ∧ f a = b := by
  cases x <;> simp [Except.map]

theorem state_of_lookup {i : Option ℕ}
    (h : (i.bind fun k => (c.states[k]?).map ((k, ·))) = some (j, q)) : c.states[j]? = some q := by
  obtain ⟨k, -, hk⟩ := bind_eq_some_iff.mp h
  obtain ⟨q', hq', heq⟩ := map_eq_some_iff.mp hk
  cases heq
  exact hq'

theorem ok_of_map {opened : Opened α}
    (h : (opened.1, opened.2.map f) = (c', .ok b)) : ∃ a, opened = (c', .ok a) ∧ f a = b := by
  obtain ⟨hcipher, hresult⟩ := Prod.mk.inj h
  obtain ⟨a, ha, hf⟩ := map_eq_ok_iff.mp hresult
  exact ⟨a, Prod.ext hcipher ha, hf⟩

theorem fst_of_map_error (opened : Opened α) (hopened : ∀ e', opened.2 = .error e' → opened.1 = c)
    (h : opened.2.map f = .error e) : opened.1 = c := by
  cases hresult : opened.2 with
  | error e' => exact hopened e' hresult
  | ok a =>
    rw [hresult] at h
    cases h

/-- A call that opens a message of its own kind, with a state that it found. -/
def OpensAs (L : ZoneLib) (c : PacketCipher) (op : OpenOp) (c' : PacketCipher) (j : ℕ)
    (plain : Bytes) : Prop :=
  op.raw.getD 0 0 = op.kind ∧ op.headerSize ≤ op.raw.length ∧
    ∃ q addr validate, c.states[j]? = some q ∧
      openOne L c j q addr op.header (op.headerSize - 8) (op.raw.drop op.headerSize) validate =
        (c', .ok plain)

theorem openFrame_ok (h : c.openFrame L raw = (c', .ok (j, frame))) :
    OpensAs L c (.frame raw) c' j frame := by
  revert h
  fun_cases PacketCipher.openFrame L c raw <;> intro h
  case case4 hchecks k q hlookup _ _ =>
    simp only [not_or, not_not, not_lt] at hchecks
    obtain ⟨hshort, -, hkind, -⟩ := hchecks
    obtain ⟨plain, hopen, heq⟩ := ok_of_map h
    cases heq
    refine ⟨hkind, ?_, q, _, _, state_of_lookup hlookup, hopen⟩
    change frameHeaderSize ≤ raw.length
    omega
  all_goals cases h

theorem openStreamData_ok (h : c.openStreamData L j raw = (c', .ok (id, payload))) :
    id = uint32Of ((raw.drop 2).take 4) ∧ OpensAs L c (.streamData j raw) c' j payload := by
  rw [PacketCipher.openStreamData] at h
  split at h
  · cases h
  · rename_i hchecks
    simp only [not_or, not_not, not_lt] at hchecks
    obtain ⟨hshort, -, hkind, -⟩ := hchecks
    split at h
    · cases h
    · rename_i q hstate
      obtain ⟨plain, hopen, heq⟩ := ok_of_map h
      cases heq
      refine ⟨rfl, hkind, ?_, q, _, _, hstate, hopen⟩
      change streamDataHeader ≤ raw.length
      omega

theorem openDatagram_ok (h : c.openDatagram L raw = (c', .ok d)) :
    d = ⟨d.peer, datagramSrc raw, datagramDst raw, datagramSrcPort raw, datagramDstPort raw,
      d.payload⟩ ∧ datagramDst raw = c.self ∧ OpensAs L c (.datagram raw) c' d.peer d.payload := by
  revert h
  fun_cases PacketCipher.openDatagram L c raw <;> intro h
  case case4 hchecks k q hlookup hdst _ =>
    simp only [not_or, not_not, not_lt] at hchecks
    obtain ⟨plain, hopen, heq⟩ := ok_of_map h
    cases heq
    refine ⟨rfl, not_not.mp hdst, hchecks.2, ?_, q, _, _, state_of_lookup hlookup, hopen⟩
    change datagramHeader ≤ raw.length
    omega
  all_goals cases h

theorem accepts_of_openFrame (h : c.openFrame L raw = (c', .ok (j, frame))) :
    ∃ q, Accepts L c (.frame raw) c' ⟨j, headerSequence (raw.take frameHeaderSize),
      .frame (headerSrc raw) (headerDst raw) frame⟩ q frame := by
  obtain ⟨hkind, hsize, q, addr, validate, hstate, hopen⟩ := openFrame_ok h
  refine ⟨q, accepts_of_openOne (.frame raw) hstate hsize ?_ hopen⟩
  change raw.getD 0 0 = kindFrame at hkind
  change _ = ZoneMessage.ofHeader (raw.take frameHeaderSize) frame
  rw [ZoneMessage.ofHeader, getD_take (by decide), if_pos hkind, headerSrc, headerSrc,
    headerDst, headerDst, take_drop_take (by decide), take_drop_take (by decide)]

theorem accepts_of_openStreamData (h : c.openStreamData L j raw = (c', .ok (id, payload))) :
    ∃ q, Accepts L c (.streamData j raw) c'
      ⟨j, headerSequence (raw.take streamDataHeader), .streamData id payload⟩ q payload := by
  obtain ⟨rfl, hkind, hsize, q, addr, validate, hstate, hopen⟩ := openStreamData_ok h
  refine ⟨q, accepts_of_openOne (.streamData j raw) hstate hsize ?_ hopen⟩
  change raw.getD 0 0 = kindStream at hkind
  change _ = ZoneMessage.ofHeader (raw.take streamDataHeader) payload
  rw [ZoneMessage.ofHeader, getD_take (by decide), if_neg (by rw [hkind]; decide),
    if_pos hkind, take_drop_take (by decide)]

theorem accepts_of_openDatagram (h : c.openDatagram L raw = (c', .ok d)) :
    ∃ q, Accepts L c (.datagram raw) c' ⟨d.peer, headerSequence (raw.take datagramHeader),
      .datagram d.src d.dst d.srcPort d.dstPort d.payload⟩ q d.payload := by
  obtain ⟨hd, -, hkind, hsize, q, addr, validate, hstate, hopen⟩ := openDatagram_ok h
  refine ⟨q, accepts_of_openOne (.datagram raw) hstate hsize ?_ hopen⟩
  change raw.getD 0 0 = kindDatagram at hkind
  change _ = ZoneMessage.ofHeader (raw.take datagramHeader) d.payload
  rw [hd, ZoneMessage.ofHeader, getD_take (by decide), if_neg (by rw [hkind]; decide),
    if_neg (by rw [hkind]; decide), datagramSrc, datagramSrc, datagramDst, datagramDst,
    datagramSrcPort, datagramSrcPort, datagramDstPort, datagramDstPort]
  simp only [take_drop_take (show 1 + 4 ≤ datagramHeader by decide),
    take_drop_take (show 5 + 4 ≤ datagramHeader by decide),
    take_drop_take (show 9 + 2 ≤ datagramHeader by decide),
    take_drop_take (show 11 + 2 ≤ datagramHeader by decide)]

/-- What has been checked of a message that is received. -/
theorem accepts_of_receive
    (h : c.receive L op = (c', .ok r)) : ∃ q plain, Accepts L c op c' r q plain := by
  cases op with
  | frame raw =>
    obtain ⟨⟨j, frame⟩, hframe, rfl⟩ := ok_of_map h
    obtain ⟨q, hq⟩ := accepts_of_openFrame hframe
    exact ⟨q, frame, hq⟩
  | streamData j raw =>
    obtain ⟨⟨id, payload⟩, hdata, rfl⟩ := ok_of_map h
    obtain ⟨q, hq⟩ := accepts_of_openStreamData hdata
    exact ⟨q, payload, hq⟩
  | datagram raw =>
    obtain ⟨d, hd, rfl⟩ := ok_of_map h
    obtain ⟨q, hq⟩ := accepts_of_openDatagram hd
    exact ⟨q, d.payload, hq⟩

/-- What is accepted has the kind of the call and comes from a current peer. -/
theorem current_of_receive (h : c.receive L op = (c', .ok r)) :
    op.raw.getD 0 0 = op.kind ∧ op.headerSize ≤ op.raw.length ∧
      ∃ ip, c.peers.lookup ip = some r.peer := by
  have hopens : ∃ plain, OpensAs L c op c' r.peer plain := by
    cases op with
    | frame raw =>
      obtain ⟨⟨j, frame⟩, hframe, rfl⟩ := ok_of_map h
      exact ⟨frame, openFrame_ok hframe⟩
    | streamData j raw =>
      obtain ⟨⟨id, payload⟩, hdata, rfl⟩ := ok_of_map h
      exact ⟨payload, (openStreamData_ok hdata).2⟩
    | datagram raw =>
      obtain ⟨d, hd, rfl⟩ := ok_of_map h
      exact ⟨d.payload, (openDatagram_ok hd).2.2⟩
  obtain ⟨plain, hkind, hsize, q, addr, validate, -, hopen⟩ := hopens
  exact ⟨hkind, hsize, (openOne_ok hopen).1⟩

/-! ### Rejected messages -/

theorem openFrame_error (h : (c.openFrame L raw).2 = .error e) : (c.openFrame L raw).1 = c := by
  revert h
  rw [PacketCipher.openFrame]
  split
  · exact fun _ => rfl
  · split
    · exact fun _ => rfl
    · split
      · exact fun _ => rfl
      · exact fst_of_map_error _ fun _ => openOne_error

theorem openStreamData_error (h : (c.openStreamData L j raw).2 = .error e) :
    (c.openStreamData L j raw).1 = c := by
  revert h
  rw [PacketCipher.openStreamData]
  split
  · exact fun _ => rfl
  · split
    · exact fun _ => rfl
    · exact fst_of_map_error _ fun _ => openOne_error

theorem openDatagram_error (h : (c.openDatagram L raw).2 = .error e) :
    (c.openDatagram L raw).1 = c := by
  revert h
  rw [PacketCipher.openDatagram]
  split
  · exact fun _ => rfl
  · split
    · exact fun _ => rfl
    · split
      · exact fun _ => rfl
      · exact fst_of_map_error _ fun _ => openOne_error

/-- A message that is rejected changes nothing. -/
theorem receive_error (h : (c.receive L op).2 = .error e) : (c.receive L op).1 = c := by
  cases op with
  | frame raw => exact fst_of_map_error (c.openFrame L raw) (fun _ => openFrame_error) h
  | streamData j raw =>
    exact fst_of_map_error (c.openStreamData L j raw) (fun _ => openStreamData_error) h
  | datagram raw => exact fst_of_map_error (c.openDatagram L raw) (fun _ => openDatagram_error) h

end Opening

end LinkSocks.Zone
