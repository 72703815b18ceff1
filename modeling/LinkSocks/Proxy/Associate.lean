import LinkSocks.Go.Fixed
import LinkSocks.Go.Machine
import LinkSocks.Go.Tables
import LinkSocks.Wire.Message
import Mathlib.Data.List.Sort

/-!
# Datagrams of a SOCKS association

`HandleSocksUDPForward` reads every datagram into one buffer, parses the header in place
and writes a message whose payload is a part of the buffer.  The length of the datagram
is compared with 3 and is the end of the payload; nothing else is compared with it, and
the fragment number is not read.

A channel that can migrate keeps what it has written until it is acknowledged.  What it
keeps is the part of the buffer, not a copy, so the next datagram changes it.
-/

namespace LinkSocks

open Go List

/-- `String` of a `net.IP`, and what the association has from its relay. -/
structure AssociateEnv where
  ipString : Bytes → GoString
  channelID : UUID
  compressionThreshold : ℕ

def dataCompressionNone : UInt8 := 0x00

def AssociateEnv.determineCompression (E : AssociateEnv) (dataSize : ℕ) : UInt8 :=
  if E.compressionThreshold ≤ dataSize then dataCompressionGzip else dataCompressionNone

/-! ## The header -/

/-- Address, port and first byte of the payload. -/
structure UDPHeader where
  targetAddr : GoString
  targetPort : UInt16
  payload : ℕ
  deriving DecidableEq

/-- An address of `len` bytes from `start` on, the port after it, and the payload up to
`n`. -/
def readFields (buffer : Bytes) (n start len : ℕ) (text : Bytes → GoString) : Result UDPHeader := do
  let addrBytes ← slice buffer start (start + len)
  let portBytes ← slice buffer (start + len) (start + len + 2)
  let _ ← slice buffer (start + len + 2) n
  return ⟨text addrBytes, uint16Of portBytes, start + len + 2⟩

/-- The `switch` over the address type; an unknown one is `none`. -/
def parseUDPHeader (E : AssociateEnv) (buffer : Bytes) (n : ℕ) : Result (Option UDPHeader) := do
  let atyp ← index buffer 3
  if atyp = 0x01 then some <$> readFields buffer n 4 4 E.ipString
  else if atyp = 0x03 then
    let addrLen ← index buffer 4
    some <$> readFields buffer n 5 addrLen.toNat id
  else if atyp = 0x04 then some <$> readFields buffer n 4 16 E.ipString
  else return none

/-! ## The loop -/

/-- A message that was passed to `WriteMessage`: the payload is a part of the buffer. -/
structure UDPView where
  header : UDPHeader
  stop : ℕ
  sequence : UInt64
  /-- History: the number of the datagram. -/
  datagram : ℕ
  deriving DecidableEq

/-- The message as it is written while the buffer has the given bytes. -/
def UDPView.message (E : AssociateEnv) (buffer : Bytes) (v : UDPView) : DataMessage where
  protocol := udp
  channelID := E.channelID
  data := (buffer.take v.stop).drop v.header.payload
  compression := E.determineCompression (v.stop - v.header.payload)
  address := []
  port := 0
  targetAddr := v.header.targetAddr
  targetPort := v.header.targetPort.toNat
  sequence := v.sequence

inductive AssociateLoop where
  | reading
  | returned
  | panicked
  deriving DecidableEq

structure Association where
  buffer : Bytes
  loop : AssociateLoop
  /-- Number and retained messages of the channel. -/
  migration : Bool
  sequence : UInt64
  pending : GoMap UInt64 UDPView
  /-- History: the datagrams that came in, and what was written for each of them. -/
  datagrams : List Bytes
  written : List (ℕ × DataMessage)

inductive AssociateAction where
  /-- A datagram comes in; access control, the write and the channel decide the rest:
  a failed write may or may not end the loop. -/
  | receive (d : Bytes) (allowed written continues : Bool)
  | enableMigration (enabled : Bool)
  | acknowledge (sequence : UInt64)
  /-- `replayPending`, which stops at a write that fails. -/
  | replayPending (n : ℕ)

namespace Association

/-- `ReadFromUDP`: what does not fit is lost, and what is not overwritten stays. -/
def fill (buffer d : Bytes) : Bytes := d.take buffer.length ++ buffer.drop d.length

def writeMessage (E : AssociateEnv) (s : Association) (v : UDPView)
    (written continues : Bool) : Association :=
  let sequence := if s.migration then s.sequence + 1 else s.sequence
  let v := { v with sequence := if s.migration then sequence else 0 }
  { s with
    sequence := sequence
    pending := if s.migration then s.pending.insert sequence v else s.pending
    written := if written then s.written ++ [(v.datagram, v.message E s.buffer)] else s.written
    loop := if continues then .reading else .returned }

def handle (E : AssociateEnv) (s : Association) (n : ℕ) (allowed written continues : Bool) :
    Association :=
  if 3 < n then
    match parseUDPHeader E s.buffer n with
    | .error _ => { s with loop := .panicked }
    | .ok none => s
    | .ok (some header) =>
      if allowed then s.writeMessage E ⟨header, n, 0, s.datagrams.length - 1⟩ written continues
      else s
  else s

/-- The retained messages in the order of their numbers. -/
def pendingMessages (s : Association) : List UDPView :=
  (s.pending.entries.map Sigma.snd).insertionSort (·.sequence ≤ ·.sequence)

def step (E : AssociateEnv) (s : Association) : AssociateAction → Option Association
  | .receive d allowed written continues =>
    if s.loop = .reading then
      some (handle E
        { s with buffer := fill s.buffer d, datagrams := s.datagrams ++ [d] }
        (min d.length s.buffer.length) allowed written continues)
    else none
  | .enableMigration enabled => some { s with migration := enabled }
  | .acknowledge sequence => some { s with pending := s.pending.erase sequence }
  | .replayPending n =>
    if s.loop = .panicked then none
    else
      some { s with
        written := s.written ++
          (s.pendingMessages.take n).map fun v => (v.datagram, v.message E s.buffer) }

def start (size : ℕ) : Association := ⟨List.replicate size 0, .reading, false, 0, ∅, [], []⟩

/-! ## What a datagram says -/

/-- The address type, with the length of a name, and the address. -/
inductive AddressField (E : AssociateEnv) : Bytes → Bytes → GoString → Prop
  | ipv4 (a : Bytes) : a.length = 4 → AddressField E [1] a (E.ipString a)
  | domain (name : Bytes) : name.length < 256 →
      AddressField E [3, UInt8.ofNat name.length] name name
  | ipv6 (a : Bytes) : a.length = 16 → AddressField E [4] a (E.ipString a)

/-- The datagram has a whole header with fragment number zero, and the message has the
fields of the datagram. -/
def Carries (E : AssociateEnv) (d : Bytes) (m : DataMessage) : Prop :=
  ∃ reserved kind address port : Bytes, d = reserved ++ [0] ++ kind ++ address ++ port ++ m.data ∧
    reserved.length = 2 ∧ port.length = 2 ∧ AddressField E kind address m.targetAddr ∧
    m.targetPort = (uint16Of port).toNat

/-- The length of the header, for the known address types. -/
def udpHeaderSize (d : Bytes) : Option ℕ :=
  if d.getD 3 0 = 0x01 then some 10
  else if d.getD 3 0 = 0x03 then some (7 + (d.getD 4 0).toNat)
  else if d.getD 3 0 = 0x04 then some 22
  else none

/-- A datagram is too short to be looked at, or has an unknown address type, or has a
whole header; and if it is to be sent it has fragment number zero and fits into the
buffer. -/
def WholeDatagram (size : ℕ) (d : Bytes) (allowed : Bool) : Prop :=
  3 < d.length → ∀ header ∈ udpHeaderSize d, header ≤ d.length ∧
    (allowed = true → d.getD 2 0 = 0 ∧ d.length ≤ size)

/-! ## Parsing -/

section Parsing

variable {E : AssociateEnv} {front address port payload stale d : Bytes} {n start len : ℕ}

theorem exists_fields (len : ℕ) {rest : Bytes} (h : len + 2 ≤ rest.length) :
    ∃ address port payload, rest = address ++ (port ++ payload) ∧ address.length = len ∧
      port.length = 2 := by
  refine ⟨rest.take len, (rest.drop len).take 2, (rest.drop len).drop 2, ?_, ?_, ?_⟩
  · rw [take_append_drop, take_append_drop]
  · rw [length_take]
    omega
  · rw [length_take, length_drop]
    omega

theorem readFields_append (text : Bytes → GoString) (hstart : front.length = start)
    (hlen : address.length = len) (hport : port.length = 2)
    (hn : n = start + len + 2 + payload.length) :
    readFields (front ++ (address ++ (port ++ payload)) ++ stale) n start len text =
      .ok ⟨text address, uint16Of port, start + len + 2⟩ := by
  have haddress : slice (front ++ (address ++ (port ++ payload)) ++ stale) start (start + len) =
      .ok address := by
    rw [append_assoc, append_assoc]
    exact slice_middle front address _ hstart.symm (by omega)
  have hportBytes : slice (front ++ (address ++ (port ++ payload)) ++ stale) (start + len)
      (start + len + 2) = .ok port := by
    rw [← append_assoc front, append_assoc (front ++ address), append_assoc port]
    exact slice_middle (front ++ address) port _ (by simp; omega) (by simp; omega)
  have hpayload : slice (front ++ (address ++ (port ++ payload)) ++ stale) (start + len + 2) n =
      .ok payload := by
    rw [← append_assoc address, ← append_assoc front, append_assoc _ payload]
    exact slice_middle (front ++ (address ++ port)) payload stale (by simp; omega) (by simp; omega)
  rw [readFields, haddress, hportBytes, hpayload]
  rfl

/-- A datagram with a whole header: its fields are what the parser finds, with anything
after it in the buffer. -/
structure Parses (E : AssociateEnv) (d : Bytes) (fragment : UInt8) (header : UDPHeader) : Prop where
  fields : ∃ reserved kind address port payload : Bytes,
    d = reserved ++ [fragment] ++ kind ++ address ++ port ++ payload ∧
    reserved.length = 2 ∧ port.length = 2 ∧ AddressField E kind address header.targetAddr ∧
    header.targetPort = uint16Of port ∧ d.length = header.payload + payload.length
  parse : ∀ stale, parseUDPHeader E (d ++ stale) d.length = .ok (some header)

theorem parses_of_fields {r₀ r₁ fragment : UInt8} (kind : Bytes) {addr : GoString}
    (text : Bytes → GoString) (hport : port.length = 2) (haddr : AddressField E kind address addr)
    (htext : addr = text address) (hlen : address.length = len) (hparse : ∀ stale, parseUDPHeader E
        ([r₀, r₁, fragment] ++ kind ++ (address ++ (port ++ payload)) ++ stale) n =
      some <$> readFields ([r₀, r₁, fragment] ++ kind ++ (address ++ (port ++ payload)) ++ stale)
        n (3 + kind.length) len text)
    (hn : n = ([r₀, r₁, fragment] ++ kind ++ (address ++ (port ++ payload))).length) :
    Parses E ([r₀, r₁, fragment] ++ kind ++ (address ++ (port ++ payload))) fragment
      ⟨addr, uint16Of port, 3 + kind.length + len + 2⟩ where
  fields := by
    refine ⟨[r₀, r₁], kind, address, port, payload, by simp, rfl, hport, haddr, rfl, ?_⟩
    simp only [length_append, length_cons, length_nil]
    omega
  parse := by
    intro stale
    have hstart : ([r₀, r₁, fragment] ++ kind).length = 3 + kind.length := length_append
    rw [← hn, hparse stale, readFields_append text hstart hlen hport, htext]
    · rfl
    · rw [hn]
      simp only [length_append, length_cons, length_nil]
      omega

theorem parses_of_headerSize {size : ℕ} (hsize : udpHeaderSize d = some size)
    (h3 : 3 < d.length) (hle : size ≤ d.length) : ∃ header, Parses E d (d.getD 2 0) header := by
  rcases d with _ | ⟨r₀, _ | ⟨r₁, _ | ⟨fragment, _ | ⟨kind, rest⟩⟩⟩⟩
  iterate 4 · simp at h3
  rw [udpHeaderSize] at hsize
  split_ifs at hsize with hipv4 hdomain hipv6
  · obtain rfl : kind = 1 := hipv4
    cases hsize
    have hrest : 4 + 2 ≤ rest.length := by
      simp only [length_cons] at hle
      omega
    obtain ⟨address, port, payload, rfl, hlen, hport⟩ := exists_fields 4 hrest
    exact ⟨_, parses_of_fields [1] E.ipString hport (.ipv4 address hlen) rfl hlen
      (fun _ => rfl) rfl⟩
  · obtain rfl : kind = 3 := hdomain
    cases hsize
    rcases rest with _ | ⟨addrLen, rest⟩
    · simp at hle
    · change 7 + addrLen.toNat ≤ _ at hle
      have hrest : addrLen.toNat + 2 ≤ rest.length := by
        simp only [length_cons] at hle
        omega
      obtain ⟨name, port, payload, rfl, hlen, hport⟩ := exists_fields addrLen.toNat hrest
      have hname : name.length < 256 := by
        rw [hlen]
        exact addrLen.toNat_lt
      have hkind : addrLen = UInt8.ofNat name.length := by rw [hlen, UInt8.ofNat_toNat]
      refine ⟨_, parses_of_fields [3, addrLen] id hport ?_ rfl hlen (fun _ => rfl) rfl⟩
      rw [hkind]
      exact .domain name hname
  · obtain rfl : kind = 4 := hipv6
    cases hsize
    have hrest : 16 + 2 ≤ rest.length := by
      simp only [length_cons] at hle
      omega
    obtain ⟨address, port, payload, rfl, hlen, hport⟩ := exists_fields 16 hrest
    exact ⟨_, parses_of_fields [4] E.ipString hport (.ipv6 address hlen) rfl hlen
      (fun _ => rfl) rfl⟩

theorem parse_unknown (hsize : udpHeaderSize d = none) (h3 : 3 < d.length) (stale : Bytes) :
    parseUDPHeader E (d ++ stale) n = .ok none := by
  rcases d with _ | ⟨r₀, _ | ⟨r₁, _ | ⟨fragment, _ | ⟨kind, rest⟩⟩⟩⟩
  iterate 4 · simp at h3
  rw [udpHeaderSize] at hsize
  split_ifs at hsize with hipv4 hdomain hipv6
  change ¬ kind = 1 at hipv4
  change ¬ kind = 3 at hdomain
  change ¬ kind = 4 at hipv6
  change (if kind = 1 then _ else if kind = 3 then _ else if kind = 4 then _ else _) = _
  rw [if_neg hipv4, if_neg hdomain, if_neg hipv6]
  rfl

/-- The message carries the datagram, whatever follows it in the buffer. -/
theorem Parses.carries {header : UDPHeader} (h : Parses E d 0 header) (stale : Bytes)
    (sequence : UInt64) (k : ℕ) :
    Carries E d (UDPView.message E (d ++ stale) ⟨header, d.length, sequence, k⟩) := by
  obtain ⟨reserved, kind, address, port, payload, hd, hreserved, hport, haddr, htarget, hlen⟩ :=
    h.fields
  have hdata : ((d ++ stale).take d.length).drop header.payload = payload := by
    rw [take_left, hd, drop_left']
    have hlength := congrArg length hd
    rw [length_append] at hlength
    omega
  refine ⟨reserved, kind, address, port, ?_, hreserved, hport, haddr, ?_⟩
  · change d = _ ++ ((d ++ stale).take d.length).drop header.payload
    rw [hdata]
    exact hd
  · change (header.targetPort.toNat : ℤ) = _
    rw [htarget]

theorem getD_take_of_lt {k i : ℕ} (h : i < k) (d : Bytes) : (d.take k).getD i 0 = d.getD i 0 := by
  rw [getD_eq_getElem?_getD, getD_eq_getElem?_getD, getElem?_take_of_lt h]

theorem udpHeaderSize_take {k : ℕ} (h : 5 ≤ k) (d : Bytes) :
    udpHeaderSize (d.take k) = udpHeaderSize d := by
  rw [udpHeaderSize, udpHeaderSize, getD_take_of_lt (by omega), getD_take_of_lt (by omega)]

theorem udpHeaderSize_le {size : ℕ} (h : udpHeaderSize d = some size) : size ≤ 512 := by
  rw [udpHeaderSize] at h
  split_ifs at h
  · cases h
    decide
  · cases h
    have hlt := (d.getD 4 0).toNat_lt
    omega
  · cases h
    decide

end Parsing

/-! ## Runs -/

/-- Datagrams are whole, and messages are replayed only while the datagram they come from
is the last one that was read. -/
def Intact (size : ℕ) (s : Association) : AssociateAction → Prop
  | .receive d allowed _ _ => WholeDatagram size d allowed
  | .replayPending n => ∀ v ∈ s.pendingMessages.take n, v.datagram + 1 = s.datagrams.length
  | _ => True

instance (size : ℕ) (s : Association) (action : AssociateAction) :
    Decidable (s.Intact size action) := by
  unfold Association.Intact WholeDatagram
  split <;> infer_instance

/-- The datagram with number `k` has the fields of the message. -/
def Comes (E : AssociateEnv) (s : Association) (k : ℕ) (m : DataMessage) : Prop :=
  ∃ d, s.datagrams[k]? = some d ∧ Carries E d m

/-- What was written has the fields of its datagram, and so has what is kept of the last
datagram. -/
structure Kept (E : AssociateEnv) (size : ℕ) (s : Association) : Prop where
  length : s.buffer.length = size
  loop : s.loop ≠ .panicked
  written : ∀ w ∈ s.written, s.Comes E w.1 w.2
  pending : ∀ k v, s.pending.lookup k = some v → v.datagram < s.datagrams.length ∧
    (v.datagram + 1 = s.datagrams.length → s.Comes E v.datagram (v.message E s.buffer))

section Invariant

variable {E : AssociateEnv} {size : ℕ} {s s' : Association} {v : UDPView} {d : Bytes}

theorem kept_start (E : AssociateEnv) (size : ℕ) : (start size).Kept E size where
  length := length_replicate
  loop := nofun
  written := nofun
  pending := by
    intro k v h
    cases h

theorem length_fill (buffer d : Bytes) : (fill buffer d).length = buffer.length := by
  rw [fill, length_append, length_take, length_drop]
  omega

/-- The next datagram: nothing that was kept is of the last one any more. -/
theorem Kept.fill (h : s.Kept E size) (d : Bytes) :
    Kept E size { s with buffer := fill s.buffer d, datagrams := s.datagrams ++ [d] } where
  length := (length_fill s.buffer d).trans h.length
  loop := h.loop
  written := by
    intro w hw
    obtain ⟨d', hd', hcarries⟩ := h.written w hw
    exact ⟨d', getElem?_append_of_some hd' [d], hcarries⟩
  pending := by
    intro k v hv
    have hlt := (h.pending k v hv).1
    rw [length_append, length_singleton]
    exact ⟨by omega, fun heq => by omega⟩

theorem Kept.writeMessage (h : s.Kept E size) (hlast : v.datagram + 1 = s.datagrams.length)
    (hcomes : ∀ sequence, s.Comes E v.datagram
      (UDPView.message E s.buffer { v with sequence := sequence })) (written continues : Bool) :
    (s.writeMessage E v written continues).Kept E size where
  length := h.length
  loop := by
    cases continues with
    | true => nofun
    | false => nofun
  written := by
    intro w hw
    cases written with
    | false => exact h.written w hw
    | true =>
      obtain hw | hw := mem_append.mp hw
      · exact h.written w hw
      · rw [mem_singleton.mp hw]
        exact hcomes _
  pending := by
    intro k v' hv'
    cases hmigration : s.migration with
    | false =>
      rw [Association.writeMessage, hmigration] at hv'
      exact h.pending k v' hv'
    | true =>
      rw [Association.writeMessage, hmigration] at hv'
      obtain ⟨rfl, rfl⟩ | ⟨-, hv'⟩ := lookup_insert_cases hv'
      · exact ⟨Nat.lt_of_succ_le (Nat.le_of_eq hlast), fun _ => hcomes _⟩
      · exact h.pending k v' hv'

/-- The round for a datagram that has just been read: the loop does nothing, or it writes
the fields of the datagram. -/
theorem Kept.handle (hsize : 512 ≤ size) {buffer : Bytes} (hbuffer : buffer.length = size)
    (h : s.Kept E size) (hfill : s.buffer = Association.fill buffer d)
    (hlast : s.datagrams.getLast? = some d) {allowed : Bool}
    (hwhole : WholeDatagram size d allowed) (written continues : Bool) :
    (s.handle E (min d.length size) allowed written continues).Kept E size := by
  have hread : s.buffer = d.take size ++ buffer.drop d.length := by
    rw [hfill, Association.fill, hbuffer]
  have hlength : (d.take size).length = min d.length size := by
    rw [length_take, Nat.min_comm]
  rw [Association.handle]
  split
  · rename_i h3
    rw [hread]
    have h3' : 3 < (d.take size).length := hlength ▸ h3
    have hsize' : udpHeaderSize (d.take size) = udpHeaderSize d := udpHeaderSize_take (by omega) d
    cases hheader : udpHeaderSize d with
    | none =>
      rw [parse_unknown (hsize'.trans hheader) h3']
      exact h
    | some k =>
      obtain ⟨hle, hsend⟩ := hwhole (by omega) k hheader
      have hk := udpHeaderSize_le hheader
      obtain ⟨header, hparses⟩ := parses_of_headerSize (E := E) (hsize'.trans hheader) h3'
        (by omega)
      rw [← hlength, hparses.parse]
      cases allowed with
      | false => exact h
      | true =>
        obtain ⟨hfragment, hfits⟩ := hsend rfl
        have htake : d.take size = d := take_of_length_le hfits
        rw [htake] at hparses hread ⊢
        rw [hfragment] at hparses
        have hnonempty : s.datagrams.length - 1 + 1 = s.datagrams.length := by
          have hne : s.datagrams ≠ [] := by
            intro hnil
            rw [hnil] at hlast
            cases hlast
          have := length_pos_iff.mpr hne
          omega
        refine h.writeMessage hnonempty (fun sequence => ⟨d, ?_, ?_⟩) written continues
        · rw [getLast?_eq_getElem?] at hlast
          exact hlast
        · rw [hread]
          exact hparses.carries _ sequence _
  · exact h

theorem mem_pendingMessages (hv : v ∈ s.pendingMessages) : ∃ k, s.pending.lookup k = some v := by
  obtain ⟨⟨k, v⟩, hmem, rfl⟩ := mem_map.mp ((mem_insertionSort _).mp hv)
  exact ⟨k, AList.mem_lookup_iff.mpr hmem⟩

/-- Every action that leaves the datagrams intact. -/
theorem Kept.step (hsize : 512 ≤ size) {action : AssociateAction} (h : s.Kept E size)
    (hintact : s.Intact size action) (hs : s.step E action = some s') : s'.Kept E size := by
  cases action with
  | receive d allowed written continues =>
    obtain ⟨-, rfl⟩ := of_ite_some hs
    rw [h.length]
    exact (h.fill d).handle hsize h.length rfl getLast?_concat hintact written continues
  | enableMigration enabled =>
    cases hs
    exact ⟨h.length, h.loop, h.written, h.pending⟩
  | acknowledge sequence =>
    cases hs
    exact ⟨h.length, h.loop, h.written, fun k v hv => h.pending k v (lookup_of_erase k v hv)⟩
  | replayPending n =>
    rw [Association.step] at hs
    split at hs <;> cases hs
    refine ⟨h.length, h.loop, ?_, h.pending⟩
    intro w hw
    obtain hw | hw := mem_append.mp hw
    · exact h.written w hw
    · obtain ⟨v, hv, rfl⟩ := mem_map.mp hw
      obtain ⟨k, hk⟩ := mem_pendingMessages (mem_of_mem_take hv)
      exact (h.pending k v hk).2 (hintact v hv)

end Invariant

/-- With a buffer of at least 512 bytes and whole datagrams, no run ends with an index or a
slice out of bounds, and everything that is written has exactly the fields of the datagram
that it was written for. -/
theorem own_bytes (E : AssociateEnv) (size : ℕ) (hsize : 512 ≤ size)
    (actions : List AssociateAction) (t : Association)
    (hintact : Guarded (step E) (Intact size) (start size) actions)
    (hrun : run (step E) (start size) actions = some t) : t.loop ≠ .panicked ∧
      ∀ w ∈ t.written, ∃ d, t.datagrams[w.1]? = some d ∧ Carries E d w.2 := by
  have h : t.Kept E size :=
    run_invariant (fun _ _ _ h => h.step hsize) (kept_start E size) hintact hrun
  exact ⟨h.loop, h.written⟩

/-! ### Datagrams -/

def bareEnv : AssociateEnv := ⟨id, uuidOf 7, 1024⟩

def datagramTo (fragment : UInt8) (payload : Bytes) : Bytes :=
  [0, 0, fragment, 1, 127, 0, 0, 1, 0, 53] ++ payload

/-- A message that stays pending while the next datagrams are too short, of an unknown
type, or blocked. -/
def intactActions : List AssociateAction :=
  [.receive [0, 0] true true true, .receive [0, 0, 0, 9] true true true,
    .receive (datagramTo 1 [5]) false true true, .enableMigration true,
    .receive ([0, 0, 0, 3, 1, 97, 0, 80] ++ [8, 9]) true false true, .replayPending 1,
    .acknowledge 1, .receive (datagramTo 0 [6]) true true true]

theorem intactActions_own : Guarded (step bareEnv) (Intact 512) (start 512) intactActions ∧
    ∃ t, run (step bareEnv) (start 512) intactActions = some t ∧
      t.written.map (fun w => (w.1, w.2.targetAddr, w.2.targetPort, w.2.data)) =
        [(3, [97], 80, [8, 9]), (4, [127, 0, 0, 1], 53, [6])] ∧ t.loop ≠ .panicked ∧
      ∀ w ∈ t.written, ∃ d, t.datagrams[w.1]? = some d ∧ Carries bareEnv d w.2 := by
  refine ⟨?guard, exists_run_and ?_ fun t hrun =>
    own_bytes bareEnv 512 (le_refl _) intactActions t ?guard hrun⟩
  all_goals decide +kernel

/-- A message that does not have the fields of the datagram it was written for. -/
def WritesForeign (E : AssociateEnv) (t : Association) : Prop :=
  ∃ w ∈ t.written, ∃ d, t.datagrams[w.1]? = some d ∧ ¬ Carries E d w.2

/-- The datagram is a fragment, or does not end with the payload. -/
theorem exists_writesForeign {E : AssociateEnv} {size : ℕ} {actions : List AssociateAction}
    (h : ∃ t ∈ run (step E) (start size) actions, ∃ w ∈ t.written, ∃ d ∈ t.datagrams[w.1]?,
      d.getD 2 0 ≠ 0 ∨ ¬ w.2.data <:+ d) :
    ∃ t ∈ run (step E) (start size) actions, t.WritesForeign E := by
  obtain ⟨t, ht, w, hw, d, hd, hwrong⟩ := h
  refine ⟨t, ht, w, hw, d, hd, ?_⟩
  rintro ⟨reserved, kind, address, port, heq, hreserved, -, -, -⟩
  obtain hfragment | hpayload := hwrong
  · apply hfragment
    rw [heq]
    rcases reserved with _ | ⟨r₀, _ | ⟨r₁, _ | ⟨r₂, rest⟩⟩⟩
    · cases hreserved
    · cases hreserved
    · rfl
    · cases hreserved
  · apply hpayload
    rw [heq]
    exact suffix_append _ _

/-- A header that is cut short ends the program; a fragment is written; a datagram that is
longer than the buffer is written without its end; and a message that is replayed has
the payload of a later datagram. -/
theorem foreign_bytes : (∃ t ∈ run (step bareEnv) (start 512)
        [.receive [0, 0, 0, 1, 127, 0, 0, 1] true true true], t.loop = .panicked) ∧
    (∃ t ∈ run (step bareEnv) (start 512) [.receive (datagramTo 1 [5]) true true true],
      t.WritesForeign bareEnv) ∧ (∃ t ∈ run (step bareEnv) (start 512)
        [.receive (datagramTo 0 (List.replicate 502 5 ++ [6])) true true true],
      t.WritesForeign bareEnv) ∧ ∃ t ∈ run (step bareEnv) (start 512)
        [.enableMigration true, .receive (datagramTo 0 [5]) true true true,
          .receive (datagramTo 0 [6]) true true true, .replayPending 2],
      t.WritesForeign bareEnv := by
  refine ⟨by decide +kernel, ?_, ?_, ?_⟩
  · exact exists_writesForeign (by decide +kernel)
  · exact exists_writesForeign (by decide +kernel)
  · exact exists_writesForeign (by decide +kernel)

end Association

end LinkSocks
