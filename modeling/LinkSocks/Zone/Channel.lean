import LinkSocks.Go.Machine
import LinkSocks.Zone.Messages
import Mathlib.Data.List.Sort

/-!
# What a member accepts from another

Two members `A` and `B` of a zone have each other in their rosters and seal and
open messages, for each other and for anybody else.  The network delivers to `B`
whatever it likes, as often as it likes, except something new that opens under the
key that `B` has for `A`: the AEAD is ideal, so what opens under it was sealed
under it, by `A` or by `B`.

The keys of the two directions differ if the exchange keys differ, and the nonces
if the sessions differ; every connection draws both at random.  With one or the
other `B` accepts from `A` only what `A` has sealed for it, in the order of its
numbers.
-/

namespace LinkSocks.Zone

open Go PacketCipher

/-! ## Members -/

/-- A member that has joined: what it joined with, and its cipher. -/
structure Member (L : ZoneLib) where
  id : GoString
  roster : Control
  privateKey : Bytes
  session : GoString
  identity : Bytes
  cipher : PacketCipher
  built : newPacketCipher L id roster privateKey session identity = .ok cipher

/-- The roster of `A` has identity, key, session and address of `B`. -/
def Member.Lists {L : ZoneLib} (A B : Member L) : Prop :=
  ∃ p ∈ A.roster.peers, p.identity = hexEncode B.identity ∧ p.key = B.cipher.key ∧
    p.session = B.session ∧ L.parseAddr p.ip = some B.cipher.self

/-- Keys that are derived with different infos differ. -/
def ZoneLib.SeparatesKeys (L : ZoneLib) : Prop :=
  ∀ shared salt info shared' salt' info',
    L.hkdf shared salt info = L.hkdf shared' salt' info' → info = info'

/-- A member with the history of its `Seal`s and the messages passed to them. -/
structure ZoneMember where
  cipher : PacketCipher
  sealed : List (SealCall × ZoneMessage)

def ZoneMember.sealMessage (L : ZoneLib) (m : ZoneMember) (op : SealOp) : ZoneMember where
  cipher := (m.cipher.sealMessage L op).cipher
  sealed := m.sealed ++ (m.cipher.sealMessage L op).calls.map ((·, op.message m.cipher))

/-! ## The network -/

structure ZoneNet where
  a : ZoneMember
  b : ZoneMember
  /-- The state that `A` has for `B`, and the one that `B` has for `A`. -/
  toB : Option ℕ
  fromA : Option ℕ
  /-- History: what `B` accepted from `A`, with its number. -/
  accepted : List (UInt64 × ZoneMessage)

inductive ZoneSide where
  | a
  | b

inductive ZoneAction where
  | sealMessage (side : ZoneSide) (op : SealOp)
  | receive (side : ZoneSide) (op : OpenOp)

def headerSizes : List ℕ := [frameHeaderSize, streamDataHeader, datagramHeader]

namespace ZoneNet

/-- What `A` sealed for `B`, with its number, in the order of sealing. -/
def sealedForB (s : ZoneNet) : List (UInt64 × ZoneMessage) :=
  (s.a.sealed.filter fun e => decide (some e.1.peer = s.toB)).map fun e => (e.1.sequence, e.2)

/-- Whatever opens under the key that `B` has for `A` was sealed under it. -/
def Unforged (L : ZoneLib) (s : ZoneNet) (raw : Bytes) : Prop :=
  ∀ q ∈ s.fromA.bind (s.b.cipher.states[·]?), ∀ size ∈ headerSizes, ∀ plain ∈ q.opens L size raw,
      ∃ e ∈ s.a.sealed ++ s.b.sealed, e.1.key = q.receive ∧
        e.1.nonce = packetNonce q.session (raw.take size) (size - 8) ∧
        e.1.header = raw.take size ∧ e.1.payload = plain

instance (L : ZoneLib) (s : ZoneNet) (raw : Bytes) : Decidable (s.Unforged L raw) := by
  unfold ZoneNet.Unforged
  infer_instance

def receiveB (L : ZoneLib) (s : ZoneNet) (op : OpenOp) : ZoneNet :=
  { s with
    b := { s.b with cipher := (s.b.cipher.receive L op).1 }
    accepted :=
      match (s.b.cipher.receive L op).2 with
      | .ok r =>
        if some r.peer = s.fromA then s.accepted ++ [(r.sequence, r.message)]
        else s.accepted
      | .error _ => s.accepted }

def step (L : ZoneLib) (s : ZoneNet) : ZoneAction → Option ZoneNet
  | .sealMessage .a op =>
    if op.Possible s.a.cipher then some { s with a := s.a.sealMessage L op } else none
  | .sealMessage .b op =>
    if op.Possible s.b.cipher then some { s with b := s.b.sealMessage L op } else none
  | .receive .a op => some { s with a := { s.a with cipher := (s.a.cipher.receive L op).1 } }
  | .receive .b op => if s.Unforged L op.raw then some (s.receiveB L op) else none

def start {L : ZoneLib} (A B : Member L) : ZoneNet where
  a := ⟨A.cipher, []⟩
  b := ⟨B.cipher, []⟩
  toB := A.cipher.peers.lookup B.cipher.self
  fromA := B.cipher.peers.lookup A.cipher.self
  accepted := []

end ZoneNet

/-! ## What does not change -/

/-- A peer state without its counter. -/
def PeerCipher.fixed (q : PeerCipher) : PeerCipher := { q with last := 0 }

/-- Only counters have changed. -/
structure PacketCipher.Follows (c₀ c : PacketCipher) : Prop where
  cipher : c = { c₀ with next := c.next, states := c.states }
  states : c.states.map PeerCipher.fixed = c₀.states.map PeerCipher.fixed

section Follows

variable {L : ZoneLib} {c₀ c c' : PacketCipher} {j : ℕ} {q q₀ : PeerCipher}

theorem PacketCipher.Follows.refl (c : PacketCipher) : c.Follows c := ⟨rfl, rfl⟩

theorem PacketCipher.Follows.trans (h : c₀.Follows c) (h' : c.Follows c') : c₀.Follows c' := by
  refine ⟨?_, h'.states.trans h.states⟩
  have hcipher := h'.cipher
  rw [h.cipher] at hcipher
  exact hcipher

theorem PacketCipher.Follows.state (h : c₀.Follows c) (hq : c.states[j]? = some q) :
    ∃ q₀, c₀.states[j]? = some q₀ ∧ q.fixed = q₀.fixed := by
  have hmap := congrArg (·[j]?) h.states
  simp only [List.getElem?_map, hq, Option.map_some] at hmap
  obtain ⟨q₀, hq₀, heq⟩ := Option.map_eq_some_iff.mp hmap.symm
  exact ⟨q₀, hq₀, heq.symm⟩

theorem PacketCipher.Follows.state_of (h : c₀.Follows c) (hq : c₀.states[j]? = some q₀) :
    ∃ q, c.states[j]? = some q ∧ q.fixed = q₀.fixed := by
  have hmap := congrArg (·[j]?) h.states
  simp only [List.getElem?_map, hq, Option.map_some] at hmap
  exact Option.map_eq_some_iff.mp hmap

theorem PeerCipher.eq_of_fixed (h : q.fixed = q₀.fixed) :
    q.peer = q₀.peer ∧ q.session = q₀.session ∧ q.send = q₀.send ∧ q.receive = q₀.receive := by
  have hpeer := congrArg PeerCipher.peer h
  have hsession := congrArg PeerCipher.session h
  have hsend := congrArg PeerCipher.send h
  have hreceive := congrArg PeerCipher.receive h
  exact ⟨hpeer, hsession, hsend, hreceive⟩

theorem PacketCipher.follows_of_counts {r : SealRun} (h : r.Counts c) : c.Follows r.cipher := by
  refine ⟨?_, ?_⟩
  · rw [h.cipher]
  · rw [h.cipher]

theorem PacketCipher.follows_setLast (hq : c.states[j]? = some q) (seq : UInt64) :
    c.Follows (c.setLast j q seq) := by
  refine ⟨rfl, ?_⟩
  obtain ⟨hlt, rfl⟩ := List.getElem?_eq_some_iff.mp hq
  rw [setLast, List.map_set]
  refine List.ext_getElem (by simp) fun k hk _ => ?_
  rw [List.getElem_set]
  split
  · subst_vars
    simp [PeerCipher.fixed]
  · rfl

/-- A message that is received moves the counter of one peer, or nothing. -/
theorem PacketCipher.receive_cases (L : ZoneLib) (c : PacketCipher) (op : OpenOp) :
    (c.receive L op).1 = c ∨ ∃ (j : ℕ) (q : PeerCipher) (seq : UInt64),
      c.states[j]? = some q ∧ (c.receive L op).1 = c.setLast j q seq := by
  cases hresult : (c.receive L op).2 with
  | error e => exact .inl (receive_error hresult)
  | ok r =>
    have hreceive : c.receive L op = ((c.receive L op).1, .ok r) := Prod.ext rfl hresult
    obtain ⟨q, plain, haccepts⟩ := accepts_of_receive hreceive
    exact .inr ⟨r.peer, q, r.sequence, haccepts.state, haccepts.cipher⟩

theorem PacketCipher.Sound.of_follows (hc : c₀.Sound L) (h : c₀.Follows c) : c.Sound L := by
  have hpeers : c.peers = c₀.peers := by rw [h.cipher]
  have hmacs : c.macs = c₀.macs := by rw [h.cipher]
  have hkey : c.key = c₀.key := by rw [h.cipher]
  have hzone : c.zoneID = c₀.zoneID := by rw [h.cipher]
  have hself : c.self = c₀.self := by rw [h.cipher]
  refine ⟨hself ▸ hc.self, hkey ▸ hc.keyLength, ?_, ?_, hpeers ▸ hc.tables.is4, ?_,
    hmacs ▸ hpeers ▸ hc.tables.mac⟩
  · intro q hq
    obtain ⟨j, hj⟩ := List.mem_iff_getElem?.mp hq
    obtain ⟨q₀, hq₀, hfixed⟩ := h.state hj
    rw [(PeerCipher.eq_of_fixed hfixed).1]
    exact hc.parses q₀ (List.mem_of_getElem? hq₀)
  · intro ip j hlookup
    rw [hpeers] at hlookup
    obtain ⟨q₀, hq₀, hderived⟩ := hc.tables.state ip j hlookup
    obtain ⟨q, hq, hfixed⟩ := h.state_of hq₀
    obtain ⟨hpeer, hsession, hsend, hreceive⟩ := PeerCipher.eq_of_fixed hfixed
    refine ⟨q, hq, ?_, ?_, ?_, ?_⟩
    · rw [hpeer]; exact hderived.keyLength
    · rw [hpeer, hsend, hzone, hkey]; exact hderived.send
    · rw [hpeer, hreceive, hzone, hkey]; exact hderived.receive
    · rw [hpeer, hsession]; exact hderived.session
  · intro ip ip' j j' q q' hlookup hlookup' hq hq' hsame
    rw [hpeers] at hlookup hlookup'
    obtain ⟨q₀, hq₀, hfixed⟩ := h.state hq
    obtain ⟨q₀', hq₀', hfixed'⟩ := h.state hq'
    rw [(PeerCipher.eq_of_fixed hfixed).1, (PeerCipher.eq_of_fixed hfixed').1] at hsame
    exact hc.tables.key ip ip' j j' q₀ q₀' hlookup hlookup' hq₀ hq₀' hsame

theorem SealCall.Carries.of_follows {m : ZoneMessage} {call : SealCall}
    (h : c₀.Follows c) (hcall : call.Carries c m) : call.Carries c₀ m := by
  have hpeers : c.peers = c₀.peers := by rw [h.cipher]
  have hsession : c.session = c₀.session := by rw [h.cipher]
  obtain ⟨q, hq, hkey⟩ := hcall.key
  obtain ⟨q₀, hq₀, hfixed⟩ := h.state hq
  refine ⟨hcall.sequence, hcall.message, hsession ▸ hcall.nonce, hpeers ▸ hcall.peer, q₀, hq₀, ?_⟩
  rw [hkey, (PeerCipher.eq_of_fixed hfixed).2.2.1]

end Follows

/-! ## Keys -/

section Keys

variable {L : ZoneLib} {A B : Member L}

theorem Member.sound (A : Member L) : A.cipher.Sound L := (newPacketCipher_ok A.built).1

theorem packetInfo_injective {sender receiver sender' receiver' : GoString}
    (hs : sender.length = sender'.length)
    (h : packetInfo sender receiver = packetInfo sender' receiver') :
    sender = sender' ∧ receiver = receiver' := by
  simp only [packetInfo, List.append_assoc, List.append_cancel_left_eq] at h
  obtain ⟨hsender, htail⟩ := List.append_inj h hs
  exact ⟨hsender, List.append_cancel_left htail⟩

theorem Member.Lists.entry (h : A.Lists B) :
    ∃ j q, A.cipher.peers.lookup B.cipher.self = some j ∧ A.cipher.states[j]? = some q ∧
      q.peer.key = B.cipher.key ∧ q.session = B.cipher.session := by
  obtain ⟨p, hp, -, hkey, hsession, hip⟩ := h
  obtain ⟨hsound, hentry, -⟩ := newPacketCipher_ok A.built
  obtain ⟨ip, j, q, hip', hlookup, hq, hqkey, hqsession⟩ := hentry p hp
  cases hip.symm.trans hip'
  refine ⟨j, q, hlookup, hq, hqkey.trans hkey, ?_⟩
  obtain ⟨q', hq', hderived⟩ := hsound.tables.state _ j hlookup
  cases hq.symm.trans hq'
  have hdecoded := hderived.session
  rw [hqsession, hsession, (newPacketCipher_ok B.built).2.2] at hdecoded
  exact Fixed.ext (Except.ok.inj hdecoded).symm

/-- A key under which `A` seals for a peer is the one that `B` has for messages of a peer
only if these two peers have the exchange keys of `B` and of `A`. -/
theorem keys_of_key (hL : L.SeparatesKeys) {j k : ℕ} {q r : PeerCipher} {ip ip' : Addr}
    (hj : B.cipher.peers.lookup ip = some j) (hq : B.cipher.states[j]? = some q)
    (hk : A.cipher.peers.lookup ip' = some k) (hr : A.cipher.states[k]? = some r)
    (hsame : r.send = q.receive) : A.cipher.key = q.peer.key ∧ r.peer.key = B.cipher.key := by
  obtain ⟨r', hr', hrderived⟩ := A.sound.tables.state ip' k hk
  cases hr.symm.trans hr'
  obtain ⟨q', hq', hqderived⟩ := B.sound.tables.state ip j hj
  cases hq.symm.trans hq'
  obtain ⟨shared, hsend⟩ := hrderived.send
  obtain ⟨shared', hreceive⟩ := hqderived.receive
  rw [hsend, hreceive] at hsame
  have hlength := A.sound.keyLength.trans hqderived.keyLength.symm
  exact packetInfo_injective hlength (hL _ _ _ _ _ _ hsame)

end Keys

/-! ## The invariant -/

/-- What a member has sealed, since it joined with cipher `c₀`. -/
structure ZoneMember.Kept (c₀ : PacketCipher) (m : ZoneMember) : Prop where
  follows : c₀.Follows m.cipher
  carries : ∀ e ∈ m.sealed, e.1.Carries c₀ e.2
  le : ∀ e ∈ m.sealed, e.1.sequence ≤ m.cipher.next
  sorted : m.sealed.Pairwise fun e e' => e.1.sequence < e'.1.sequence

section Members

variable {L : ZoneLib} {c₀ : PacketCipher} {m : ZoneMember}

theorem ZoneMember.Kept.sealMessage (hc : c₀.Sound L) (h : m.Kept c₀) {op : SealOp}
    (hop : op.Possible m.cipher) : (m.sealMessage L op).Kept c₀ := by
  obtain ⟨hcipher, hle, habove, hsorted⟩ := counts_sealMessage L m.cipher op
  refine ⟨h.follows.trans (follows_of_counts (counts_sealMessage L m.cipher op)), ?_, ?_, ?_⟩
  · intro e he
    obtain he | he := List.mem_append.mp he
    · exact h.carries e he
    · obtain ⟨call, hcall, rfl⟩ := List.mem_map.mp he
      exact .of_follows h.follows (carries_of_sealMessage (hc.of_follows h.follows) hop hcall)
  · intro e he
    obtain he | he := List.mem_append.mp he
    · exact UInt64.le_trans (h.le e he) hle
    · obtain ⟨call, hcall, rfl⟩ := List.mem_map.mp he
      exact (habove call hcall).2
  · refine List.pairwise_append.mpr ⟨h.sorted, List.pairwise_map.mpr hsorted, ?_⟩
    intro e he e' he'
    obtain ⟨call, hcall, rfl⟩ := List.mem_map.mp he'
    exact UInt64.lt_of_le_of_lt (h.le e he) (habove call hcall).1

theorem ZoneMember.Kept.receive (h : m.Kept c₀) (op : OpenOp) :
    ZoneMember.Kept c₀ { m with cipher := (m.cipher.receive L op).1 } := by
  obtain hsame | ⟨j, q, seq, hq, hset⟩ := receive_cases L m.cipher op
  · rw [hsame]
    exact h
  · rw [hset]
    exact ⟨h.follows.trans (follows_setLast hq seq), h.carries, h.le, h.sorted⟩

end Members

namespace ZoneNet

structure Kept {L : ZoneLib} (A B : Member L) (s : ZoneNet) : Prop where
  a : s.a.Kept A.cipher
  b : s.b.Kept B.cipher
  toB : s.toB = A.cipher.peers.lookup B.cipher.self
  fromA : s.fromA = B.cipher.peers.lookup A.cipher.self
  mem : ∀ r ∈ s.accepted, r ∈ s.sealedForB
  sorted : s.accepted.Pairwise fun r r' => r.1 < r'.1
  last : ∀ (j : ℕ) (q : PeerCipher), s.fromA = some j → s.b.cipher.states[j]? = some q →
    ∀ r ∈ s.accepted, r.1 ≤ q.last

section Steps

variable {L : ZoneLib} {A B : Member L} {s s' : ZoneNet}

theorem kept_start (A B : Member L) : (start A B).Kept A B where
  a := ⟨.refl _, nofun, nofun, .nil⟩
  b := ⟨.refl _, nofun, nofun, .nil⟩
  toB := rfl
  fromA := rfl
  mem := nofun
  sorted := .nil
  last := by simp [start]

theorem mem_sealedForB {e : SealCall × ZoneMessage} (he : e ∈ s.a.sealed)
    (hpeer : some e.1.peer = s.toB) : (e.1.sequence, e.2) ∈ s.sealedForB := by
  refine List.mem_map.mpr ⟨e, List.mem_filter.mpr ⟨he, ?_⟩, rfl⟩
  simpa using hpeer

theorem sealedForB_seal {op : SealOp} {r : UInt64 × ZoneMessage}
    (h : r ∈ s.sealedForB) : r ∈ { s with a := s.a.sealMessage L op }.sealedForB := by
  obtain ⟨e, he, rfl⟩ := List.mem_map.mp h
  obtain ⟨he, hpeer⟩ := List.mem_filter.mp he
  exact mem_sealedForB (List.mem_append_left _ he) (of_decide_eq_true hpeer)

section

variable (hL : L.SeparatesKeys) (hAB : A.Lists B) (hBA : B.Lists A)
  (hfresh : A.cipher.key ≠ B.cipher.key ∨ A.cipher.session ≠ B.cipher.session) (h : s.Kept A B)
include hL hAB hBA hfresh h

/-- What `B` accepts from `A` has been sealed by `A` for `B`. -/
theorem Kept.mem_of_accepts {op : OpenOp} {c' : PacketCipher} {r : Received} {q : PeerCipher}
    {plain : Bytes} (hunforged : s.Unforged L op.raw)
    (haccepts : s.b.cipher.Accepts L op c' r q plain) (hpeer : some r.peer = s.fromA) :
    (r.sequence, r.message) ∈ s.sealedForB := by
  obtain ⟨i, p, hi, hp, hpkey, -⟩ := hAB.entry
  obtain ⟨j, q₀, hj, hq₀, hqkey, hqsession⟩ := hBA.entry
  cases (hpeer.trans h.fromA).trans hj
  obtain ⟨q', hq', hfixed⟩ := h.b.follows.state haccepts.state
  cases hq₀.symm.trans hq'
  obtain ⟨-, hsession, -, hreceive⟩ := PeerCipher.eq_of_fixed hfixed
  have hsize : op.headerSize ∈ headerSizes := by
    cases op <;> simp [OpenOp.headerSize, headerSizes]
  have hstate : q ∈ s.fromA.bind (s.b.cipher.states[·]?) := by
    rw [← hpeer]
    exact haccepts.state
  obtain ⟨e, he, hkey, hnonce, hheader, hpayload⟩ :=
    hunforged q hstate op.headerSize hsize plain haccepts.opens
  obtain he | he := List.mem_append.mp he
  · obtain ⟨k, hk⟩ := (h.a.carries e he).peer
    obtain ⟨t, ht, hsend⟩ := (h.a.carries e he).key
    obtain ⟨-, htkey⟩ := keys_of_key hL hj hq₀ hk ht (hsend.symm.trans (hkey.trans hreceive))
    have hto : e.1.peer = i :=
      A.sound.tables.key _ _ _ _ _ _ hk hi ht hp (htkey.trans hpkey.symm)
    have hmem : (e.1.sequence, e.2) ∈ s.sealedForB := mem_sealedForB he (by rw [hto, h.toB, hi])
    rw [← (h.a.carries e he).sequence, ← (h.a.carries e he).message, hheader, hpayload] at hmem
    rw [haccepts.sequence, haccepts.message]
    exact hmem
  · -- A message of `B` itself has another key or another nonce.
    obtain ⟨k, hk⟩ := (h.b.carries e he).peer
    obtain ⟨t, ht, hsend⟩ := (h.b.carries e he).key
    obtain ⟨hown, -⟩ := keys_of_key hL hj hq₀ hk ht (hsend.symm.trans (hkey.trans hreceive))
    have hsamekey : A.cipher.key = B.cipher.key := hqkey.symm.trans hown.symm
    rw [(h.b.carries e he).nonce] at hnonce
    have hsamesession : B.cipher.session.bytes = q.session.bytes :=
      (List.append_inj hnonce (by simp)).1
    rw [hsession, hqsession] at hsamesession
    obtain hfresh | hfresh := hfresh
    · exact absurd hsamekey hfresh
    · exact absurd (Fixed.ext hsamesession).symm hfresh

theorem Kept.receiveB {op : OpenOp} (hunforged : s.Unforged L op.raw) :
    (s.receiveB L op).Kept A B := by
  have hb := h.b.receive (L := L) op
  cases hresult : (s.b.cipher.receive L op).2 with
  | error e =>
    have hcipher := receive_error hresult
    have hsame : s.receiveB L op = s := by
      rw [ZoneNet.receiveB, hresult, hcipher]
    rw [hsame]
    exact h
  | ok r =>
    have hreceive : s.b.cipher.receive L op =
        ((s.b.cipher.receive L op).1, .ok r) := Prod.ext rfl hresult
    obtain ⟨q, plain, haccepts⟩ := accepts_of_receive hreceive
    have hcipher : (s.b.cipher.receive L op).1 =
        s.b.cipher.setLast r.peer q r.sequence := haccepts.cipher
    by_cases hpeer : some r.peer = s.fromA
    · have hold : ∀ r' ∈ s.accepted, r'.1 < r.sequence := by
        intro r' hr'
        exact UInt64.lt_of_le_of_lt (h.last r.peer q hpeer.symm haccepts.state r' hr') haccepts.last
      have hmem := h.mem_of_accepts hL hAB hBA hfresh hunforged haccepts hpeer
      simp only [ZoneNet.receiveB, hresult, if_pos hpeer]
      refine ⟨h.a, hb, h.toB, h.fromA, ?_, ?_, ?_⟩
      · intro r' hr'
        obtain hr' | hr' := List.mem_append.mp hr'
        · exact h.mem r' hr'
        · rw [List.mem_singleton.mp hr']
          exact hmem
      · refine List.pairwise_append.mpr ⟨h.sorted, List.pairwise_singleton _ _, ?_⟩
        intro r' hr' r'' hr''
        rw [List.mem_singleton.mp hr'']
        exact hold r' hr'
      · intro j q' hj hq' r' hr'
        cases hpeer.trans hj
        simp only [hcipher, setLast, getElem?_set_of_some haccepts.state] at hq'
        cases hq'
        obtain hr' | hr' := List.mem_append.mp hr'
        · exact UInt64.le_of_lt (hold r' hr')
        · rw [List.mem_singleton.mp hr']
          exact UInt64.le_refl _
    · simp only [ZoneNet.receiveB, hresult, if_neg hpeer]
      refine ⟨h.a, hb, h.toB, h.fromA, h.mem, h.sorted, ?_⟩
      intro j q' hj hq' r' hr'
      simp only [hcipher, setLast] at hq'
      obtain ⟨rfl, -⟩ | ⟨-, hq'⟩ := getElem?_set_cases hq'
      · exact absurd hj.symm hpeer
      · exact h.last j q' hj hq' r' hr'

theorem Kept.step {action : ZoneAction} (hs : s.step L action = some s') : s'.Kept A B := by
  revert hs
  fun_cases ZoneNet.step L s action <;> intro hs <;> cases hs
  case case1 hop =>
    exact { h with
      a := h.a.sealMessage A.sound hop
      mem := fun r hr => sealedForB_seal (h.mem r hr) }
  case case3 op hop =>
    refine { h with b := h.b.sealMessage B.sound hop, last := fun j q hj hq => ?_ }
    change (s.b.cipher.sealMessage L op).cipher.states[j]? = some q at hq
    rw [(counts_sealMessage L s.b.cipher op).cipher] at hq
    exact h.last j q hj hq
  case case5 op => exact { h with a := h.a.receive op }
  case case6 hunforged => exact h.receiveB hL hAB hBA hfresh hunforged

end

theorem Kept.sealed_sorted (h : s.Kept A B) : s.sealedForB.Pairwise fun r r' => r.1 < r'.1 :=
  List.pairwise_map.mpr (h.a.sorted.filter _)

end Steps

/-- In every run, what `B` accepts from `A` is a subsequence of what `A` sealed for
`B`, with increasing numbers, and a message that `B` rejects changes nothing. -/
theorem accepted_sublist {L : ZoneLib} (hL : L.SeparatesKeys) (A B : Member L)
    (hAB : A.Lists B) (hBA : B.Lists A)
    (hfresh : A.cipher.key ≠ B.cipher.key ∨ A.cipher.session ≠ B.cipher.session)
    (actions : List ZoneAction) (t : ZoneNet) (hrun : run (step L) (start A B) actions = some t) :
    t.accepted.Sublist t.sealedForB ∧ (t.accepted.map Prod.fst).Pairwise (· < ·) ∧
      ∀ (op : OpenOp) (e : Error), (t.b.cipher.receive L op).2 = .error e →
        (t.b.cipher.receive L op).1 = t.b.cipher := by
  have h : t.Kept A B := run_preserves
    (fun _ _ _ h => h.step hL hAB hBA hfresh) (kept_start A B) hrun
  have hnodup : t.accepted.Nodup := by
    refine h.sorted.imp ?_
    rintro r r' hlt rfl
    exact UInt64.lt_irrefl _ hlt
  have hsubperm := List.subperm_of_subset hnodup h.mem
  exact ⟨List.sublist_of_subperm_of_pairwise hsubperm h.sorted h.sealed_sorted,
    List.pairwise_map.mpr h.sorted, fun _ _ => receive_error⟩

end ZoneNet

/-! ## Runs -/

instance {L : ZoneLib} (A B : Member L) : Decidable (A.Lists B) := by
  unfold Member.Lists
  infer_instance

/-- A polynomial in the bytes. -/
def checksum (b : Bytes) : UInt8 := b.foldl (fun h c => 31 * h + c) 0

def checksumTag (key nonce text ad : Bytes) : Fixed 16 :=
  .copy 16 [checksum key, checksum nonce, checksum text, checksum ad]

/-- A library whose addresses are four bytes, whose public keys are the private ones
and whose AEAD appends a checksum. -/
def plainLib : ZoneLib where
  parseAddr text := if text.length = 4 then some (.v4 (uint32Of text)) else none
  parsePrefix text :=
    if text.length = 5 then some ⟨.v4 (uint32Of text), (text.getD 4 0).toNat⟩ else none
  sum256 b := .copy 32 b.reverse
  publicKey b := .copy 32 b
  ecdh a b := .ok (List.zipWith (· ^^^ ·) (Fixed.copy 32 a).bytes b)
  hkdf _ _ info := info
  aeadSeal key nonce text ad := text ++ (checksumTag key nonce text ad).bytes
  aeadOpen key nonce text ad :=
    if text.drop (text.length - 16) =
        (checksumTag key nonce (text.take (text.length - 16)) ad).bytes then
      some (text.take (text.length - 16))
    else none

theorem plainLib_separatesKeys : plainLib.SeparatesKeys := fun _ _ _ _ _ _ h => h

theorem plainLib_commutes (a b : Bytes) : plainLib.ecdh a (plainLib.publicKey b).bytes =
      plainLib.ecdh b (plainLib.publicKey a).bytes :=
  congrArg Except.ok (List.zipWith_comm_of_comm UInt8.xor_comm)

/-- The member with address `10.0.0.n` and identity `n`, in a roster with one
other. -/
def plainMember (n key session other otherKey otherSession : UInt8) : Option (Member plainLib) :=
  let roster : Control := {
    zone := ⟨ascii "zone", [10, 0, 0, 0, 24], 1500⟩
    self := [10, 0, 0, n]
    peers := [{
      identity := hexEncode (List.replicate 32 other)
      key := hexEncode (List.replicate 32 otherKey)
      session := hexEncode (List.replicate 16 otherSession)
      name := []
      ip := [10, 0, 0, other] }] }
  let sessionText := hexEncode (List.replicate 16 session)
  match h : newPacketCipher plainLib (ascii "zone") roster (List.replicate 32 key)
      sessionText (List.replicate 32 n) with
  | .ok c => some ⟨_, roster, _, sessionText, _, c, h⟩
  | .error _ => none

/-- What a new member sends with some calls. -/
def sentBy (A : Member plainLib) (ops : List SealOp) : List Bytes :=
  (ops.foldl (·.sealMessage plainLib) ⟨A.cipher, []⟩ : ZoneMember).sealed.map (·.1.message plainLib)

def streamOp : SealOp := .streamData 0 5 [1, 2]
def datagramOp : SealOp := .datagram (.v4 0x0A000002) 53 54 [3]
def frameOp (A B : Member plainLib) : SealOp :=
  .frame (B.cipher.mac.bytes ++ A.cipher.mac.bytes ++ [8, 0, 9]) [0]

/-- Stream data, a datagram and a frame, delivered out of order, twice, and with a
byte changed. -/
def zoneActions (A B : Member plainLib) : List ZoneAction :=
  let sent := sentBy A [streamOp, datagramOp, frameOp A B]
  [.sealMessage .a streamOp, .sealMessage .a datagramOp, .sealMessage .a (frameOp A B),
    .receive .b (.datagram (sent.getD 1 [])), .receive .b (.datagram (sent.getD 1 [])),
    .receive .b (.streamData 0 (sent.getD 0 [])),
    .receive .b (.frame ((sent.getD 2 []).set 30 7)), .receive .b (.frame (sent.getD 2 []))]

theorem zoneActions_accepted : ∃ A ∈ plainMember 1 1 1 2 2 2, ∃ B ∈ plainMember 2 2 2 1 1 1,
      A.Lists B ∧ B.Lists A ∧ A.cipher.key ≠ B.cipher.key ∧
      ∃ t, run (ZoneNet.step plainLib) (.start A B) (zoneActions A B) = some t ∧
        t.accepted.length = 2 ∧ t.accepted.Sublist t.sealedForB ∧
        (t.accepted.map Prod.fst).Pairwise (· < ·) := by
  obtain ⟨A, hA, B, hB, hAB, hBA, hkey, t, hrun, hlength⟩ :
      ∃ A ∈ plainMember 1 1 1 2 2 2, ∃ B ∈ plainMember 2 2 2 1 1 1,
        A.Lists B ∧ B.Lists A ∧ A.cipher.key ≠ B.cipher.key ∧
        ∃ t ∈ run (ZoneNet.step plainLib) (.start A B) (zoneActions A B),
          t.accepted.length = 2 := by
    decide +kernel
  obtain ⟨hsublist, hsorted, -⟩ := ZoneNet.accepted_sublist plainLib_separatesKeys A B
    hAB hBA (.inl hkey) _ t hrun
  exact ⟨A, hA, B, hB, hAB, hBA, hkey, t, hrun, hlength, hsublist, hsorted⟩

/-- `B` seals stream data for `A`, and the network returns it. -/
def reflectActions (B : Member plainLib) : List ZoneAction :=
  [.sealMessage .b streamOp, .receive .b (.streamData 0 ((sentBy B [streamOp]).getD 0 []))]

/-- With one exchange key and one session for both, `B` accepts its own message as
one of `A`, which has sealed nothing. -/
theorem reflected_accepted : plainLib.SeparatesKeys ∧
    (∀ a b, plainLib.ecdh a (plainLib.publicKey b).bytes =
      plainLib.ecdh b (plainLib.publicKey a).bytes) ∧ (∀ key nonce text ad,
      plainLib.aeadOpen key nonce (plainLib.aeadSeal key nonce text ad) ad = some text) ∧
    ∃ A ∈ plainMember 1 3 3 2 3 3, ∃ B ∈ plainMember 2 3 3 1 3 3, A.Lists B ∧ B.Lists A ∧
      ∃ t ∈ run (ZoneNet.step plainLib) (.start A B) (reflectActions B),
        t.accepted = [(1, .streamData 5 [1, 2])] ∧ t.sealedForB = [] := by
  refine ⟨plainLib_separatesKeys, plainLib_commutes, by simp [plainLib], ?_⟩
  decide +kernel

end LinkSocks.Zone
