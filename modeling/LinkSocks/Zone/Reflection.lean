import LinkSocks.Zone.Connection

/-!
# Messages that come back

Stream data does not name its sender.  What keeps a member from accepting its own is
the key, which is derived from the two exchange keys in the order of sender and
receiver, and the nonce, which starts with the session of the sender.  A roster may
have an entry with the exchange key and the session of the member itself, under another
identity and another address: for that entry the keys of the two directions are the
same, and so are the nonces.

Without such an entry nothing that a member has sealed opens for it.  The AEAD is
ideal: what was sealed opens only under its own key and nonce and with its own
additional data.
-/

namespace LinkSocks.Zone

open Go PacketCipher List

/-- What was sealed opens only under its key and nonce, with its additional data. -/
def ZoneLib.Ideal (L : ZoneLib) : Prop :=
  ∀ key nonce text ad key' nonce' ad' plain,
    L.aeadOpen key' nonce' (L.aeadSeal key nonce text ad) ad' = some plain →
    key' = key ∧ nonce' = nonce ∧ ad' = ad

/-- The entry has the exchange key and the session of the member itself. -/
def Mirrors (c : PacketCipher) (p : Peer) : Prop :=
  p.key = c.key ∧ decodeHex p.session 16 = .ok c.session.bytes

instance (c : PacketCipher) (p : Peer) : Decidable (Mirrors c p) :=
  inferInstanceAs (Decidable (_ ∧ _))

/-! ## Headers -/

def ZoneMessage.kind : ZoneMessage → UInt8
  | .frame .. => kindFrame
  | .streamData .. => kindStream
  | .datagram .. => kindDatagram

theorem ZoneMessage.getD_front (m : ZoneMessage) (rest : Bytes) :
    (m.front ++ rest).getD 0 0 = m.kind := by
  cases m <;> rfl

theorem headerSize_of_kind {m : ZoneMessage} {op : OpenOp} (h : op.kind = m.kind) :
    op.headerSize = m.front.length + 8 := by
  cases op <;> cases m <;>
    simp_all [OpenOp.kind, ZoneMessage.kind, OpenOp.headerSize, ZoneMessage.front, kindFrame,
      kindStream, kindDatagram, frameHeaderSize, streamDataHeader, datagramHeader]

namespace Connection

def ForeignRoster (s : Connection) : ConnAction → Prop
  | .update roster => ∀ p ∈ roster.peers, ¬ Mirrors s.cipher p
  | _ => True

instance (s : Connection) (action : ConnAction) : Decidable (s.ForeignRoster action) := by
  unfold Connection.ForeignRoster
  split <;> infer_instance

section Steps

variable {L : ZoneLib} {c₀ c c' : PacketCipher} {s s' : Connection} {action : ConnAction}
  {call : SealCall}

/-- A `Seal` of the member with cipher `c₀`: its session is in the nonce, and its
exchange key comes first in the derivation of the key. -/
structure SealedBy (L : ZoneLib) (c₀ : PacketCipher) (call : SealCall) : Prop where
  header : ∃ m : ZoneMessage, call.header = m.front ++ putUint64 call.sequence
  nonce : call.nonce = c₀.session.bytes ++ putUint64 call.sequence
  key : ∃ shared zoneID receiver, call.key = derivePacketKey L shared zoneID c₀.key receiver

/-- No current state has the exchange key and the session of the member itself. -/
def NoMirror (c : PacketCipher) : Prop :=
  ∀ (ip : Addr) (j : ℕ) (q : PeerCipher), c.peers.lookup ip = some j →
    c.states[j]? = some q → ¬ (q.peer.key = c.key ∧ q.session = c.session)

structure Apart (L : ZoneLib) (c₀ : PacketCipher) (s : Connection) : Prop where
  sound : s.cipher.Sound L
  key : s.cipher.key = c₀.key
  session : s.cipher.session = c₀.session
  sealed : ∀ call ∈ s.sealed, SealedBy L c₀ call
  noMirror : NoMirror s.cipher

theorem noMirror_of_update {roster : Control} (hc : c.Sound L)
    (hroster : ∀ p ∈ roster.peers, ¬ Mirrors c p) (h : Zone.update L c roster = .ok c') :
    NoMirror c' := by
  obtain ⟨hsound, -, hframe⟩ := update_ok hc h
  obtain ⟨rows, hrows⟩ := rows_of_update h
  intro ip j q hip hq hmirror
  obtain ⟨p, hp, row, hfiled, rfl, rfl⟩ := hrows.row_of_lookup hip
  obtain ⟨q', hq', -, hkey, hsession⟩ := hfiled.state
  cases hq.symm.trans hq'
  obtain ⟨q'', hq'', hderived⟩ := hsound.tables.state row.addr row.index hip
  cases hq.symm.trans hq''
  have hown : c'.key = c.key ∧ c'.session = c.session := by
    rw [hframe]
    exact ⟨rfl, rfl⟩
  refine hroster p hp ⟨hkey ▸ hmirror.1.trans hown.1, ?_⟩
  rw [← hsession, hderived.session, hmirror.2, hown.2]

theorem noMirror_start (A : Member L) (hfirst : ∀ p ∈ A.roster.peers, ¬ Mirrors A.cipher p) :
    NoMirror A.cipher := by
  obtain ⟨c, hc, -, hupdate⟩ := newPacketCipher_update A.built
  have hframe := update_frame hupdate
  refine noMirror_of_update hc (fun p hp hmirror => hfirst p hp ?_) hupdate
  rw [hframe]
  exact hmirror

theorem NoMirror.of_follows (h : NoMirror c) (hfollows : c.Follows c') : NoMirror c' := by
  have hpeers : c'.peers = c.peers := by rw [hfollows.cipher]
  have hkey : c'.key = c.key := by rw [hfollows.cipher]
  have hsession : c'.session = c.session := by rw [hfollows.cipher]
  intro ip j q hip hq
  obtain ⟨q₀, hq₀, hfixed⟩ := hfollows.state hq
  obtain ⟨hpeer, hqsession, -⟩ := PeerCipher.eq_of_fixed hfixed
  rw [hpeer, hqsession, hkey, hsession]
  exact h ip j q₀ (hpeers ▸ hip) hq₀

theorem sealedBy_of_sealing (hc : s.cipher.Sound L) {r : SealRun}
    (hr : s.sealing L action = some r) (hcall : call ∈ r.calls) : SealedBy L s.cipher call := by
  obtain ⟨hheader, hnonce⟩ := (sealing_spec hr).2 call hcall
  obtain ⟨m, hcarries⟩ := carries_of_sealing hc hr hcall
  obtain ⟨ip, hip⟩ := hcarries.peer
  obtain ⟨q, hq, hkey⟩ := hcarries.key
  obtain ⟨q', hq', hderived⟩ := hc.tables.state ip _ hip
  cases hq.symm.trans hq'
  obtain ⟨shared, hsend⟩ := hderived.send
  exact ⟨hheader, hnonce, shared, s.cipher.zoneID, q.peer.key, hkey.trans hsend⟩

theorem Apart.step (h : s.Apart L c₀) (hguard : s.ForeignRoster action)
    (hs : s.step L action = some s') : s'.Apart L c₀ := by
  have hsound := sound_step h.sound hs
  obtain ⟨roster, c', rfl, hupdate, rfl⟩ | ⟨pending, rfl⟩ | ⟨op, -, rfl⟩ |
    ⟨pending, r, hr, rfl⟩ := step_cases hs
  · have hframe := update_frame hupdate
    refine ⟨hsound, ?_, ?_, h.sealed, noMirror_of_update h.sound hguard hupdate⟩
    · rw [hframe]
      exact h.key
    · rw [hframe]
      exact h.session
  · exact ⟨h.sound, h.key, h.session, h.sealed, h.noMirror⟩
  · have hfollows : s.cipher.Follows (s.cipher.receive L op).1 := by
      obtain hsame | ⟨j, q, seq, hq, hset⟩ := receive_cases L s.cipher op
      · rw [hsame]
        exact .refl _
      · rw [hset]
        exact follows_setLast hq seq
    refine ⟨hsound, ?_, ?_, h.sealed, h.noMirror.of_follows hfollows⟩
    · change (s.cipher.receive L op).1.key = _
      rw [hfollows.cipher]
      exact h.key
    · change (s.cipher.receive L op).1.session = _
      rw [hfollows.cipher]
      exact h.session
  · have hfollows := follows_of_counts (sealing_spec hr).1
    refine ⟨hsound, ?_, ?_, ?_, h.noMirror.of_follows hfollows⟩
    · change r.cipher.key = _
      rw [hfollows.cipher]
      exact h.key
    · change r.cipher.session = _
      rw [hfollows.cipher]
      exact h.session
    · intro call hcall
      obtain hcall | hcall := mem_append.mp hcall
      · exact h.sealed call hcall
      · obtain ⟨hheader, hnonce, hkey⟩ := sealedBy_of_sealing h.sound hr hcall
        rw [h.session] at hnonce
        rw [h.key] at hkey
        exact ⟨hheader, hnonce, hkey⟩

/-- What the member has sealed opens for none of its peers. -/
theorem Apart.refuses (hL : L.SeparatesKeys) (hideal : L.Ideal) (h : s.Apart L c₀)
    (hcall : call ∈ s.sealed) {op : OpenOp} (hraw : op.raw = call.message L) (r : Received) :
    (s.cipher.receive L op).2 ≠ .ok r := by
  intro hresult
  have hreceive : s.cipher.receive L op = ((s.cipher.receive L op).1, .ok r) := Prod.ext rfl hresult
  obtain ⟨q, plain, haccepts⟩ := accepts_of_receive hreceive
  obtain ⟨hkind, -, ip, hip⟩ := current_of_receive hreceive
  obtain ⟨⟨m, hheader⟩, hnonce, shared, zoneID, receiver, hkey⟩ := h.sealed call hcall
  -- the kind decides where the header ends
  have hmessage : op.raw = call.header ++ L.aeadSeal call.key call.nonce call.payload
      call.header := hraw
  have hsize : op.headerSize = call.header.length := by
    rw [hmessage, hheader, append_assoc, m.getD_front] at hkind
    rw [headerSize_of_kind hkind.symm, hheader]
    simp
  have hopens := haccepts.opens
  rw [PeerCipher.opens, hmessage, hsize, take_left, drop_left] at hopens
  obtain ⟨hsamekey, hsamenonce, -⟩ := hideal _ _ _ _ _ _ _ _ hopens
  -- equal keys make the exchange keys equal, equal nonces the sessions
  obtain ⟨q', hq', hderived⟩ := h.sound.tables.state ip r.peer hip
  cases haccepts.state.symm.trans hq'
  obtain ⟨shared', hreceivekey⟩ := hderived.receive
  rw [hreceivekey, hkey] at hsamekey
  have hlength : q.peer.key.length = c₀.key.length := by
    rw [hderived.keyLength, ← h.key, h.sound.keyLength]
  have hown := (packetInfo_injective hlength (hL _ _ _ _ _ _ hsamekey)).1
  have hoffset : m.front.length = call.header.length - 8 := by
    rw [hheader]
    simp
  rw [hheader, packetNonce_append q.session (hheader ▸ hoffset), hnonce] at hsamenonce
  have hsession : q.session = c₀.session := Fixed.ext (append_cancel_right hsamenonce)
  exact h.noMirror ip r.peer q hip haccepts.state
    ⟨hown.trans h.key.symm, hsession.trans h.session.symm⟩

end Steps

/-- In every run in which no roster has an entry with the member's own exchange key and
session, the opening functions refuse every message that the member has sealed. -/
theorem no_reflection {L : ZoneLib} (hL : L.SeparatesKeys) (hideal : L.Ideal) (A : Member L)
    (hfirst : ∀ p ∈ A.roster.peers, ¬ Mirrors A.cipher p) (actions : List ConnAction)
    (hguard : Guarded (step L) ForeignRoster (start A.cipher) actions) (t : Connection)
    (hrun : run (step L) (start A.cipher) actions = some t) :
    ∀ call ∈ t.sealed, ∀ op : OpenOp, op.raw = call.message L →
      ∃ e, (t.cipher.receive L op).2 = .error e := by
  have hstart : (start A.cipher).Apart L A.cipher :=
    ⟨A.sound, rfl, rfl, nofun, noMirror_start A hfirst⟩
  have h : t.Apart L A.cipher := run_invariant (fun _ _ _ h => h.step) hstart hguard hrun
  intro call hcall op hraw
  cases hresult : (t.cipher.receive L op).2 with
  | error e => exact ⟨e, rfl⟩
  | ok r => exact absurd hresult (h.refuses hL hideal hcall hraw r)

end Connection

/-! ## Runs -/

/-- Bytes with an end of their own: a one before each, a zero behind the last. -/
def stuffed (b : Bytes) : Bytes := b.flatMap (fun x => [1, x]) ++ [0]

theorem stuffed_injective {a b x y : Bytes} (h : stuffed a ++ x = stuffed b ++ y) :
    a = b ∧ x = y := by
  induction a generalizing b with
  | nil =>
    cases b with
    | nil => exact ⟨rfl, by simpa [stuffed] using h⟩
    | cons c b => simp [stuffed] at h
  | cons d a ih =>
    cases b with
    | nil => simp [stuffed] at h
    | cons c b =>
      simp only [stuffed, flatMap_cons, cons_append, nil_append, cons.injEq, true_and] at h
      obtain ⟨rfl, hrest⟩ := h
      obtain ⟨rfl, rfl⟩ := ih hrest
      exact ⟨rfl, rfl⟩

/-- The libraries of `plainLib`, with an AEAD that writes key, nonce and additional data
in front of the text. -/
def idealLib : ZoneLib where
  toNetip := plainLib.toNetip
  sum256 := plainLib.sum256
  publicKey := plainLib.publicKey
  ecdh := plainLib.ecdh
  hkdf := plainLib.hkdf
  aeadSeal key nonce text ad := stuffed key ++ (stuffed nonce ++ (stuffed ad ++ text))
  aeadOpen key nonce text ad :=
    if (stuffed key ++ (stuffed nonce ++ stuffed ad)).isPrefixOf text then
      some (text.drop (stuffed key ++ (stuffed nonce ++ stuffed ad)).length)
    else none

theorem idealLib_ideal : idealLib.Ideal := by
  intro key nonce text ad key' nonce' ad' plain h
  simp only [idealLib] at h
  split at h
  · rename_i hfront
    obtain ⟨rest, hrest⟩ := isPrefixOf_iff_prefix.mp hfront
    rw [append_assoc, append_assoc] at hrest
    obtain ⟨hkey, hrest⟩ := stuffed_injective hrest
    obtain ⟨hnonce, hrest⟩ := stuffed_injective hrest
    exact ⟨hkey, hnonce, (stuffed_injective hrest).1⟩
  · cases h

/-- The member with address `10.0.0.n`, with the entries of its first roster. -/
def idealMember (n key session : UInt8) (peers : List Peer) : Option (Member idealLib) :=
  let sessionText := hexEncode (List.replicate 16 session)
  match h : newPacketCipher idealLib (ascii "zone") (plainRoster n peers)
      (List.replicate 32 key) sessionText (List.replicate 32 n) with
  | .ok c => some ⟨_, plainRoster n peers, _, sessionText, _, c, h⟩
  | .error _ => none

/-- The member takes its own stream data for a message of the entry that has its key and
session. -/
theorem mirrored_accepted : idealLib.SeparatesKeys ∧ idealLib.Ideal ∧ (∀ key nonce text ad,
      idealLib.aeadOpen key nonce (idealLib.aeadSeal key nonce text ad) ad = some text) ∧
    ∃ A ∈ idealMember 2 3 3 [plainPeer 1 1 3 3],
      ∃ t ∈ run (Connection.step idealLib) (.start A.cipher) [.sealStreamData 0 5 [1, 2]],
        ∃ call ∈ t.sealed,
          (t.cipher.receive idealLib (.streamData 0 (call.message idealLib))).2.isOk = true := by
  refine ⟨fun _ _ _ _ _ _ h => h, idealLib_ideal, by simp [idealLib], ?_⟩
  decide +kernel

/-- An entry with the member's own key and another session, then one with another key
and the member's own session. -/
def foreignActions : List ConnAction :=
  [.sealStreamData 0 5 [1, 2], .findPeer (.v4 0x0A000001) 53 54 [3], .sealDatagram 0,
    .update (plainRoster 2 [plainPeer 1 1 4 3]), .sealStreamData 1 5 [4]]

theorem foreignActions_refused : ∃ A ∈ idealMember 2 3 3 [plainPeer 1 1 3 4], ∃ t,
      run (Connection.step idealLib) (.start A.cipher) foreignActions = some t ∧
      t.sealed.length = 3 ∧ ∀ call ∈ t.sealed, ∀ op : OpenOp, op.raw = call.message idealLib →
        ∃ e, (t.cipher.receive idealLib op).2 = .error e := by
  obtain ⟨A, hA, hfirst, hguard, t, hrun, hlength⟩ : ∃ A ∈ idealMember 2 3 3 [plainPeer 1 1 3 4],
        (∀ p ∈ A.roster.peers, ¬ Mirrors A.cipher p) ∧
        Guarded (Connection.step idealLib) Connection.ForeignRoster (.start A.cipher)
          foreignActions ∧ ∃ t ∈ run (Connection.step idealLib) (.start A.cipher) foreignActions,
          t.sealed.length = 3 := by
    decide +kernel
  exact ⟨A, hA, t, hrun, hlength, Connection.no_reflection (fun _ _ _ _ _ _ h => h)
    idealLib_ideal A hfirst _ hguard t hrun⟩

end LinkSocks.Zone
