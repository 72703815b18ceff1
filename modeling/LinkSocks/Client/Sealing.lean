import LinkSocks.Client.Entry
import LinkSocks.Go.Tables

/-!
# No channel in the clear

A request or data of a locally opened channel should leave the client only inside a sealed
frame.  Two places let it leave in the clear: a request that finds the pool of links empty
gets the bare relay writer and uses it once a link is back, and a reconnect resumes a
channel whose session is gone with its request.  Where neither happens, nothing leaves in
the clear.
-/

namespace LinkSocks

open Go Client RelayFrame List Option

/-- The channel of a request or of data. -/
def payloadChannel : BaseMessage → Option UUID
  | .connect m => some m.channelID
  | .data m => some m.channelID
  | _ => none

/-- Requests and data are sealed, by an established session of their own
channel. -/
def RelayFrame.Confidential : RelayFrame → Prop
  | .plain msg => payloadChannel msg = none
  | .sealed channelID session inner =>
    session.established = true ∧ session.channelID = channelID ∧
      payloadChannel inner = some channelID

variable {msg : BaseMessage} {c : Client} {channelID : UUID} {frame : RelayFrame} {s : EntrySystem}
  {a : ClientAction}

theorem RelayFrame.confidential_plain
    (h : payloadChannel msg = none) : (RelayFrame.plain msg).Confidential := h

def Client.Owns (c : Client) (n : ℕ) (channelID : UUID) : Prop :=
  ∃ s, c.sessions[n]? = some s ∧ s.channelID = channelID

structure Client.Sealed (c : Client) : Prop where
  channels : ∀ id ch, c.logicalChannels.lookup id = some ch →
    ∃ n, ch.writer = .sealed n ∧ c.Owns n id
  wire : ∀ w ∈ c.wire, w.2.Confidential

/-- What a request carries from its probe to its writes. -/
def Entry.Sealed (c : Client) (e : Entry) : Prop :=
  match e.pc with
  | .announce n | .handshake n | .register (.sealed n) => c.Owns n e.request.channelID
  | .register .plain | .plain _ => False
  | .write msg => payloadChannel msg = some e.request.channelID
  | .ciphertext sealer _ msg =>
    sealer.established = true ∧ sealer.channelID = e.request.channelID ∧
      payloadChannel msg = some e.request.channelID
  | _ => True

structure EntrySystem.Sealed (s : EntrySystem) : Prop where
  client : s.client.Sealed
  entries : ∀ e ∈ s.entries, e.Sealed s.client

/-- The condition on one action: a probe finds a link, and a reconnect finds
the session of every channel it resumes. -/
def keepsSealing (s : EntrySystem) : ClientAction → Bool
  | .entry n .next =>
    match s.entries[n]? with
    | some ⟨_, .probe⟩ => s.client.getNextWebSocket.1.isSome
    | _ => true
  | .resume _ channelID _ =>
    match s.client.logicalChannels.lookup channelID with
    | some ch => !ch.canResume || (s.client.hub.lookup channelID).isSome
    | none => true
  | _ => true

/-! ## Changes that keep sessions and writers -/

/-- Sessions keep their channel, channels keep their writer, and everything
that was written in addition is confidential. -/
structure Client.Follows (c c' : Client) : Prop where
  owns : ∀ n id, c.Owns n id → c'.Owns n id
  writers : ∀ id ch', c'.logicalChannels.lookup id = some ch' →
    ∃ ch, c.logicalChannels.lookup id = some ch ∧ ch.writer = ch'.writer
  wire : ∀ w ∈ c'.wire, w ∈ c.wire ∨ w.2.Confidential

variable {c c' : Client}

theorem Client.Follows.sealed (h : c.Follows c') (hc : c.Sealed) : c'.Sealed where
  channels := by
    intro id ch' hch'
    obtain ⟨ch, hch, hwriter⟩ := h.writers id ch' hch'
    obtain ⟨n, hn, howns⟩ := hc.channels id ch hch
    exact ⟨n, hwriter ▸ hn, h.owns n id howns⟩
  wire := by
    intro w hw
    rcases h.wire w hw with hold | hnew
    · exact hc.wire w hold
    · exact hnew

theorem Client.Follows.refl (c : Client) : c.Follows c where
  owns := fun _ _ h => h
  writers := fun _ ch h => ⟨ch, h, rfl⟩
  wire := fun _ h => .inl h

theorem Client.Follows.trans {c' c'' : Client}
    (h : c.Follows c') (h' : c'.Follows c'') : c.Follows c'' where
  owns := fun n id howns => h'.owns n id (h.owns n id howns)
  writers := by
    intro id ch'' hch''
    obtain ⟨ch', hch', hwriter'⟩ := h'.writers id ch'' hch''
    obtain ⟨ch, hch, hwriter⟩ := h.writers id ch' hch'
    exact ⟨ch, hch, hwriter.trans hwriter'⟩
  wire := by
    intro w hw
    rcases h'.wire w hw with hold | hnew
    · exact h.wire w hold
    · exact .inr hnew

theorem Entry.Sealed.mono {e : Entry}
    (howns : ∀ n id, c.Owns n id → c'.Owns n id) (he : e.Sealed c) : e.Sealed c' := by
  rw [Entry.Sealed] at he ⊢
  split at he
  all_goals first
    | exact howns _ _ he
    | exact he

theorem Client.Follows.of_eq (hsessions : c'.sessions = c.sessions)
    (hchannels : c'.logicalChannels = c.logicalChannels)
    (hwire : c'.wire = c.wire) : c.Follows c' where
  owns := by
    rintro n id ⟨s, hs, hid⟩
    exact ⟨s, hsessions ▸ hs, hid⟩
  writers := by
    intro id ch' hch'
    exact ⟨ch', hchannels ▸ hch', rfl⟩
  wire := by
    intro w hw
    exact .inl (hwire ▸ hw)

theorem Client.follows_modify (c : Client) (n : ℕ) {f : SecureSession → SecureSession}
    (hf : ∀ s, (f s).channelID = s.channelID) :
    c.Follows { c with sessions := c.sessions.modify n f } where
  owns := by
    rintro m id ⟨s, hs, hid⟩
    refine ⟨if n = m then f s else s, ?_, ?_⟩
    · rw [getElem?_modify, hs]
      rfl
    · split
      · rw [hf, hid]
      · exact hid
  writers := fun _ ch h => ⟨ch, h, rfl⟩
  wire := fun _ h => .inl h

theorem Client.follows_closeSession (c : Client) (n : ℕ) : c.Follows (c.closeSession n) :=
  c.follows_modify n fun _ => rfl

theorem Client.follows_hubClose (c : Client) (channelID : UUID) :
    c.Follows (c.hubClose channelID) := by
  rw [Client.hubClose]
  split
  · exact .refl c
  · rename_i n _
    exact (c.follows_closeSession n).trans (.of_eq rfl rfl rfl)

theorem Client.follows_removeSession (c : Client) (n : ℕ) : c.Follows (c.removeSession n) := by
  rw [Client.removeSession]
  split
  · exact .refl c
  · split
    · exact .of_eq rfl rfl rfl
    · exact .refl c

theorem Client.follows_setChannel {ch ch' : LogicalChannel}
    (hch : c.logicalChannels.lookup channelID = some ch) (hwriter : ch'.writer = ch.writer) :
    c.Follows (c.setChannel channelID ch') where
  owns := fun _ _ h => h
  writers := by
    intro id x hx
    obtain ⟨rfl, rfl⟩ | ⟨-, hold⟩ := lookup_insert_cases hx
    · exact ⟨ch, hch, hwriter.symm⟩
    · exact ⟨x, hold, rfl⟩
  wire := fun _ h => .inl h

theorem Client.follows_setSuspended (c : Client) (channelID : UUID)
    (suspended : Bool) : c.Follows (c.setSuspended channelID suspended) := by
  rw [Client.setSuspended]
  split
  · exact .refl c
  · rename_i ch hch
    exact follows_setChannel hch rfl

theorem Client.follows_doCleanup (c : Client) (channelID : UUID) :
    c.Follows (c.doCleanup channelID) := by
  have hclose := c.follows_hubClose channelID
  rw [Client.doCleanup]
  split
  · exact hclose
  · rename_i ch hch
    exact hclose.trans (follows_setChannel hch rfl)

theorem Client.follows_log (c : Client) (link : Link)
    (hframe : frame.Confidential) : c.Follows (c.log link frame) where
  owns := fun _ _ h => h
  writers := fun _ ch h => ⟨ch, h, rfl⟩
  wire := by
    intro w hw
    rcases mem_append.mp hw with hold | hnew
    · exact .inl hold
    · rw [mem_singleton] at hnew
      subst hnew
      exact .inr hframe

/-- The relay writer adds the frame, and an opening of its channel. -/
theorem Client.follows_relayWrite (c : Client) (hframe : frame.Confidential) (openOk ok : Bool) :
    c.Follows (c.relayWrite frame openOk ok).2 := by
  have hpicked : c.Follows c.getNextWebSocket.2 := .of_eq rfl rfl rfl
  rw [Client.relayWrite]
  split
  · rename_i c' hnone
    rw [hnone] at hpicked
    exact hpicked
  · rename_i link c' hsome
    rw [hsome] at hpicked
    split
    · exact hpicked.trans (c'.follows_log link hframe)
    · rename_i id _
      have hopen : c.Follows (c'.log link (.plain (.channelOpen ⟨id, true⟩))) :=
        hpicked.trans (c'.follows_log link (confidential_plain rfl))
      have hboth := hopen.trans (follows_log _ link hframe)
      split
      · exact hopen
      · split
        · exact hboth
        · exact hboth.trans (follows_setSuspended _ id false)

theorem Client.follows_newSession (c : Client) (channelID : UUID) :
    c.Follows (c.newSession channelID) where
  owns := by
    rintro n id ⟨s, hs, hid⟩
    exact ⟨s, getElem?_append_of_some hs _, hid⟩
  writers := fun _ ch h => ⟨ch, h, rfl⟩
  wire := fun _ h => .inl h

/-! ## Steps of a request -/

structure StepSealed (c c' : Client) (e' : Entry) : Prop where
  client : c'.Sealed
  owns : ∀ n id, c.Owns n id → c'.Owns n id
  entry : e'.Sealed c'

theorem StepSealed.of_follows {e' : Entry} (hc : c.Sealed) (h : c.Follows c') (he' : e'.Sealed c') :
    StepSealed c c' e' := ⟨h.sealed hc, h.owns, he'⟩

theorem sealsChannel_peerVersion {protocolVersion : UInt8}
    (hV2 : protocolMajor protocolVersion = protocolMajor protocolVersionV2)
    {picked : Option Link} (hpicked : picked.isSome = true) :
    sealsChannel (peerVersion protocolVersion picked) = .ok true := by
  obtain ⟨link, rfl⟩ := isSome_iff_exists.mp hpicked
  rw [sealsChannel, peerVersion, if_neg (not_not.mpr hV2)]

theorem Client.Sealed.route (hc : c.Sealed) {pc : EntryPC} (h : c.route channelID msg = some pc) :
    ∃ s n, pc = .ciphertext s n msg ∧ s.established = true ∧ s.channelID = channelID := by
  rw [Client.route] at h
  split at h
  · cases h
  · rename_i ch hch
    obtain ⟨n, hn, s, hs, hid⟩ := hc.channels channelID ch hch
    split at h
    · cases h
    · simp only [hn, hs] at h
      split at h <;> cases h
      rename_i hopen
      refine ⟨s, n, rfl, ?_, hid⟩
      simp only [Bool.or_eq_true, Bool.not_eq_true', not_or, Bool.not_eq_false] at hopen
      exact hopen.2

theorem Client.Sealed.registerLogicalChannel (hc : c.Sealed)
    {request : ConnectMessage} {n : ℕ} (howns : c.Owns n request.channelID) :
    (c.registerLogicalChannel request (.sealed n)).Sealed where
  channels := by
    intro id ch hch
    obtain ⟨rfl, rfl⟩ | ⟨-, hold⟩ := lookup_insert_cases hch
    · exact ⟨n, rfl, howns⟩
    · exact hc.channels id ch hold
  wire := hc.wire

section Steps

variable {V : UInt8} {c c' : Client} {e e' : Entry}

/-- A step of a request leaves nothing of its channel in the clear. -/
theorem Entry.step_sealed (hV2 : protocolMajor V = protocolMajor protocolVersionV2)
    {label : EntryLabel} (hc : c.Sealed) (he : e.Sealed c)
    (hprobe : label = .next → e.pc = .probe → c.getNextWebSocket.1.isSome = true)
    (h : e.step V c label = some (c', e')) : StepSealed c c' e' := by
  have hmono := @Entry.Sealed.mono c
  rw [Entry.Sealed] at he
  revert hprobe h
  fun_cases Entry.step V c e label <;> intro hprobe h
  case case2 =>
    cases h
    exact .of_follows hc (.of_eq rfl rfl rfl) trivial
  case case1 hpc _ _ hseals | case3 hpc _ hseals =>
    cases hseals.symm.trans (sealsChannel_peerVersion hV2 (hprobe rfl hpc))
  case case4 =>
    cases h
    refine .of_follows hc (c.follows_newSession _) ?_
    exact ⟨_, getElem?_concat_length, rfl⟩
  case case5 transport hpc =>
    cases h
    rw [hpc] at he
    cases transport with
    | plain => exact he.elim
    | «sealed» n => exact ⟨hc.registerLogicalChannel he, fun _ _ h => h, rfl⟩
  case case6 msg hpc =>
    obtain ⟨pc, hroute, heq⟩ := map_eq_some_iff.mp h
    cases heq
    obtain ⟨s, n, rfl, hestablished, hid⟩ := hc.route hroute
    rw [hpc] at he
    exact .of_follows hc (.refl c) ⟨hestablished, hid, he⟩
  case case8 hpc _ _ _ =>
    cases h
    rw [hpc] at he
    exact .of_follows hc (.refl c) he
  case case12 | case13 =>
    cases h
    exact .of_follows hc (c.follows_hubClose _) trivial
  case case16 =>
    cases h
    have hsuspend := c.follows_setSuspended e.request.channelID true
    exact .of_follows hc hsuspend (hmono hsuspend.owns he)
  -- a write that goes out is confidential
  case case19 openOk ok _ n hpc _ _ | case20 openOk ok n hpc _ _
      | case21 openOk ok _ n hpc _ _ _ =>
    have hwrite : c.Follows (c.relayWrite
        (.plain (.channelOpen ⟨e.request.channelID, false⟩)) openOk ok).2 :=
      c.follows_relayWrite (confidential_plain rfl) openOk ok
    cases h
    first
    | exact .of_follows hc hwrite (hmono hwrite.owns he)
    | exact .of_follows hc hwrite (hwrite.owns _ _ (by rwa [hpc] at he))
    | exact .of_follows hc (hwrite.trans (follows_hubClose _ _)) trivial
  case case22 hpc _ _ | case23 hpc _ _ | case24 hpc _ _ _ =>
    rw [hpc] at he
    exact he.elim
  case case25 openOk ok _ sealer n msg hpc _ _
      | case26 openOk ok sealer n msg hpc _ _
      | case27 openOk ok _ sealer n msg hpc _ _ _ =>
    have hframe : (RelayFrame.sealed e.request.channelID sealer msg).Confidential := by
      rwa [hpc] at he
    have hwrite := c.follows_relayWrite hframe openOk ok
    cases h
    first
    | exact .of_follows hc hwrite (hmono hwrite.owns he)
    | exact .of_follows hc (hwrite.trans (follows_setSuspended _ _ false)) trivial
    | exact .of_follows hc (hwrite.trans (follows_closeSession _ n)) hframe.2.2
  case case28 openOk ok _ _ _ _ =>
    cases h
    exact .of_follows hc
      (c.follows_relayWrite (confidential_plain rfl) openOk ok) trivial
  case case30 hid =>
    cases h
    exact .of_follows hc (.refl c) (congrArg some hid)
  all_goals cases h
  all_goals exact .of_follows hc (.refl c) trivial

end Steps

/-! ## Runs of the client -/

/-- What the requests do not do themselves keeps the client sealed, if a
reconnect finds the session of every channel it resumes. -/
theorem Client.follows_environment
    (hguard : keepsSealing s a = true) :
    s.client.Follows (s.client.environment a) := by
  cases a with
  | request m => exact .refl _
  | entry n label => exact .refl _
  | connect index link => exact .of_eq rfl rfl rfl
  | drop index => exact .of_eq rfl rfl rfl
  | establish n => exact s.client.follows_modify n fun _ => rfl
  | failSession n => exact s.client.follows_closeSession n
  | removeSession n => exact s.client.follows_removeSession n
  | hubClose channelID => exact s.client.follows_hubClose channelID
  | doCleanup channelID => exact s.client.follows_doCleanup channelID
  | resume link channelID ok =>
    rw [Client.environment, Client.resumeRelayChannel]
    split
    · exact .refl _
    · rename_i ch hch
      split
      · exact .refl _
      · rename_i hresume
        -- the channel resumes, so its session is there
        have hhub : (s.client.hub.lookup channelID).isSome = true := by
          simp only [keepsSealing, hch, Bool.or_eq_true] at hguard
          exact hguard.resolve_left hresume
        have hopen : s.client.Follows
            (s.client.log link (.plain (.channelOpen ⟨channelID, true⟩))) :=
          s.client.follows_log link (confidential_plain rfl)
        rw [if_pos hhub]
        split
        · exact hopen.trans (follows_setSuspended _ channelID false)
        · exact hopen

/-- Every action that keeps the channels sealed. -/
theorem EntrySystem.step_sealed
    {V : UInt8} (hV2 : protocolMajor V = protocolMajor protocolVersionV2)
    {s' : EntrySystem} (h : s.Sealed)
    (hguard : keepsSealing s a = true) (hstep : s.step V a = some s') : s'.Sealed := by
  have henvironment : { s with client := s.client.environment a }.Sealed := by
    have hfollows := follows_environment hguard
    exact ⟨hfollows.sealed h.client, fun e he => (h.entries e he).mono hfollows.owns⟩
  cases a with
  | request m =>
    have hpicked : s.client.Follows s.client.getNextWebSocket.2 := .of_eq rfl rfl rfl
    rw [EntrySystem.step] at hstep
    split at hstep <;> cases hstep
    rename_i link c hsome
    rw [hsome] at hpicked
    refine ⟨hpicked.sealed h.client, ?_⟩
    intro e he
    rcases mem_append.mp he with hold | hnew
    · exact (h.entries e hold).mono hpicked.owns
    · rw [mem_singleton] at hnew
      subst hnew
      trivial
  | entry n label =>
    rw [EntrySystem.step] at hstep
    split at hstep
    · cases hstep
    · rename_i e he
      obtain ⟨⟨c', e'⟩, hmoved, rfl⟩ := map_eq_some_iff.mp hstep
      have hsealed := Entry.step_sealed hV2 h.client (h.entries e (mem_of_getElem? he)) (by
          rintro rfl hpc
          obtain ⟨request, pc⟩ := e
          subst hpc
          simpa only [keepsSealing, he] using hguard)
        hmoved
      refine ⟨hsealed.client, ?_⟩
      intro x hx
      rcases mem_or_eq_of_mem_set hx with hold | rfl
      · exact (h.entries x hold).mono hsealed.owns
      · exact hsealed.entry
  | _ =>
    cases hstep
    exact henvironment

/-- Along every run of a client of generation 2, from an empty set of channels, whose probes
find a link and whose reconnects find the sessions of the channels they resume, requests and
data of local channels are written to relay links only inside frames sealed by an established
session of their channel. -/
theorem run_confidential {V : UInt8} (hV2 : protocolMajor V = protocolMajor protocolVersionV2)
    {c : Client} (hchannels : c.logicalChannels = ∅) (hwire : c.wire = [])
    {actions : List ClientAction} {s' : EntrySystem}
    (hguard : Guarded (EntrySystem.step V) (keepsSealing · ·) ⟨c, []⟩ actions)
    (hrun : run (EntrySystem.step V) ⟨c, []⟩ actions = some s') :
    ∀ w ∈ s'.client.wire, w.2.Confidential := by
  have hinit : EntrySystem.Sealed ⟨c, []⟩ := by
    refine ⟨⟨?_, ?_⟩, ?_⟩
    · intro id ch hch
      rw [hchannels] at hch
      cases hch
    · intro w hw
      rw [hwire] at hw
      cases hw
    · intro e he
      cases he
  have hafter : s'.Sealed := run_invariant
      (fun _ _ _ => EntrySystem.step_sealed hV2)
      hinit hguard hrun
  exact hafter.client.wire

/-! ## One request -/

def idleClient : Client where
  websockets := []
  currentIndex := 0
  sessions := []
  hub := ∅
  logicalChannels := ∅
  wire := []

def entryRequest : ConnectMessage := ⟨tcp, ascii "h", 80, uuidOf 9, false⟩

/-- The request opens its session and sends itself and one piece of data. -/
def sealedRun : List ClientAction :=
  [.connect 0 1, .request entryRequest,
    .entry 0 .next, .entry 0 .next, .entry 0 (.written true true false),
    .establish 0, .entry 0 .ready, .entry 0 .next,
    .entry 0 .next, .entry 0 (.written true true false),
    .entry 0 (.send ⟨tcp, entryRequest.channelID, [1], 0, [], 0, [], 0, 0⟩),
    .entry 0 .next, .entry 0 (.written true true false)]

/-- The only link drops between the arrival of the request and its probe, and
a new one is there when the request is written. -/
def droppedRun : List ClientAction :=
  [.connect 0 1, .request entryRequest, .drop 0, .entry 0 .next, .entry 0 .next, .entry 0 .next,
    .connect 0 2, .entry 0 (.written true true false)]

/-- The session of a channel fails while its link is down, and the link comes
back before the channel is cleaned up. -/
def resumedRun : List ClientAction :=
  sealedRun ++
    [.drop 0, .failSession 0, .removeSession 0, .connect 0 2, .resume 2 entryRequest.channelID true]

/-- Link and channel of what is written, and whether it is sealed. -/
def wireEntry (w : Link × RelayFrame) : Link × Option UUID × Bool :=
  match w.2 with
  | .plain msg => (w.1, payloadChannel msg, false)
  | .sealed _ _ inner => (w.1, payloadChannel inner, true)

def wireOf (actions : List ClientAction) : Option (List (Link × Option UUID × Bool)) :=
  (run (EntrySystem.step protocolVersionV2) ⟨idleClient, []⟩ actions).map
    fun s => s.client.wire.map wireEntry

/-- The session is established before the request is written, so the run meets
the condition and seals both writes. -/
theorem sealedRun_confidential : idleClient.logicalChannels = ∅ ∧ idleClient.wire = [] ∧
    Guarded (EntrySystem.step protocolVersionV2) (keepsSealing · ·) ⟨idleClient, []⟩ sealedRun ∧
    ∃ s', run (EntrySystem.step protocolVersionV2) ⟨idleClient, []⟩ sealedRun = some s' ∧
      s'.client.wire.map wireEntry = [(1, none, false), (1, some entryRequest.channelID, true),
          (1, some entryRequest.channelID, true)] ∧ ∀ w ∈ s'.client.wire, w.2.Confidential := by
  refine ⟨rfl, rfl, ?guard, exists_run_and ?_ fun _ => run_confidential rfl rfl rfl ?guard⟩
  all_goals decide +kernel

def WritesInTheClear (actions : List ClientAction) : Prop :=
  ∃ s', run (EntrySystem.step protocolVersionV2) ⟨idleClient, []⟩ actions = some s' ∧
    ∃ w ∈ s'.client.wire, ¬ w.2.Confidential

theorem writesInTheClear_of_wireOf {actions : List ClientAction}
    {entries : List (Link × Option UUID × Bool)} (link : Link) (id : UUID)
    (hwire : wireOf actions = some entries)
    (hmem : (link, some id, false) ∈ entries) : WritesInTheClear actions := by
  obtain ⟨s', hrun, rfl⟩ := map_eq_some_iff.mp hwire
  obtain ⟨⟨l, frame⟩, hw, hentry⟩ := mem_map.mp hmem
  refine ⟨s', hrun, _, hw, ?_⟩
  cases frame with
  | plain msg =>
    intro hconfidential
    have hpayload : payloadChannel msg = some id := (Prod.mk.inj (Prod.mk.inj hentry).2).1
    have hclear : payloadChannel msg = none := hconfidential
    exact nomatch hpayload.symm.trans hclear
  | «sealed» channelID session inner =>
    exact nomatch (Prod.mk.inj (Prod.mk.inj hentry).2).2

/-- A request that finds the pool empty goes out in the clear on the next link, and so does,
when the client reconnects, the request of a channel that lost its session. -/
theorem requests_in_the_clear : WritesInTheClear droppedRun ∧ WritesInTheClear resumedRun := by
  have hdropped : wireOf droppedRun = some [(2, some entryRequest.channelID, false)] := by
    decide +kernel
  have hresumed : wireOf resumedRun =
      some [(1, none, false), (1, some entryRequest.channelID, true),
        (1, some entryRequest.channelID, true), (2, some entryRequest.channelID, false)] := by
    decide +kernel
  exact ⟨writesInTheClear_of_wireOf 2 entryRequest.channelID hdropped (by simp),
    writesInTheClear_of_wireOf 2 entryRequest.channelID hresumed (by simp)⟩

end LinkSocks
