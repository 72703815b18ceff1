import LinkSocks.Relay.Server

/-!
# Forward channels of a lost link

The channels that the server dials itself, for forward clients.  A channel of
the first protocol generation writes to a link, one of the second to a session,
which writes to a link in turn.  When the dispatcher of a link ends, the relay
starts a timer for the channels that write to this very link; the callback
disconnects a channel if it still does so.  A session is never the link, so
channels of the second generation have no timers.
-/

namespace LinkSocks

open Go List Option AList

/-- What a logical channel of the server writes to.  Sessions are numbered in
the order in which they are created. -/
inductive ChannelWriter where
  | link (ws : Link)
  | session (n : ℕ)
  deriving DecidableEq

/-- A logical channel, as far as its writers go. -/
structure ForwardChannel where
  writer : ChannelWriter
  fallback : ChannelWriter
  deriving DecidableEq

/-- How the grace window of a link ended for a channel. -/
structure ExpiryOutcome where
  ws : Link
  channelID : UUID
  /-- The channel was still carried over the link. -/
  carried : Bool
  /-- The callback has disconnected it. -/
  disconnected : Bool
  deriving DecidableEq

structure ForwardRelay where
  logicalChannels : GoMap UUID ForwardChannel
  /-- The sessions of the hub. -/
  sessions : GoMap UUID ℕ
  /-- The link of each session. -/
  sessionLinks : List Link
  cleanupQueue : List UUID
  /-- The channels with a network connection, that is, with a function that
  cancels it in `tcpChannels` or `udpChannels`. -/
  connections : List UUID
  /-- The timers that have not fired. -/
  timers : List (Link × UUID)
  /-- History: the link over which a channel was opened or last resumed. -/
  carriers : GoMap UUID Link
  /-- History: the links whose dispatcher has ended. -/
  ended : List Link
  /-- History: the grace windows that are over. -/
  expired : List (Link × UUID)
  /-- History: what came of them. -/
  outcomes : List ExpiryOutcome

namespace ForwardRelay

def empty : ForwardRelay where
  logicalChannels := ∅
  sessions := ∅
  sessionLinks := []
  cleanupQueue := []
  connections := []
  timers := []
  carriers := ∅
  ended := []
  expired := []
  outcomes := []

def linkOf (s : ForwardRelay) : ChannelWriter → Option Link
  | .link ws => some ws
  | .session n => s.sessionLinks[n]?

/-- A channel is opened or resumed with its present writer. -/
def bind (s : ForwardRelay) (channelID : UUID) (channel : ForwardChannel) : ForwardRelay :=
  { s with
    logicalChannels := s.logicalChannels.insert channelID channel
    carriers := ((s.linkOf channel.writer).map (s.carriers.insert channelID)).getD s.carriers }

/-- `HandleNetworkConnection`, up to the dial. -/
def handleNetworkConnection (s : ForwardRelay) (w : ChannelWriter)
    (channelID : UUID) (resume : Bool) : ForwardRelay :=
  match s.logicalChannels.lookup channelID with
  | some channel => if resume then s.bind channelID { channel with writer := w } else s
  | none => if resume then s else s.bind channelID ⟨w, w⟩

/-- `acceptChannel` of the server's hub. -/
def acceptChannel (s : ForwardRelay) (ws : Link) (channelID : UUID)
    (resume : Bool) : ForwardRelay :=
  match s.sessions.lookup channelID with
  | some n =>
    { s with
      sessionLinks := s.sessionLinks.set n ws
      carriers := s.carriers.insert channelID ws }
  | none =>
    if resume then s
    else { s with
      sessions := s.sessions.insert channelID s.sessionLinks.length
      sessionLinks := s.sessionLinks ++ [ws] }

/-- `switchToFallback`: some write of the channel has failed. -/
def switchToFallback (s : ForwardRelay) (channelID : UUID)
    (channel : ForwardChannel) : ForwardRelay :=
  { s with logicalChannels :=
      s.logicalChannels.insert channelID { channel with writer := channel.fallback } }

def disconnectChannel (s : ForwardRelay) (channelID : UUID) : ForwardRelay :=
  { s with cleanupQueue := s.cleanupQueue ++ [channelID] }

def doCleanup (s : ForwardRelay) (channelID : UUID) : ForwardRelay :=
  { s with
    connections := s.connections.filter (· ≠ channelID)
    sessions := s.sessions.erase channelID
    logicalChannels := s.logicalChannels.erase channelID }

/-- The timers that are started for a link. -/
def scheduleChannelExpiry (s : ForwardRelay) (ws : Link) (grace : Int) : List (Link × UUID) :=
  if 0 < grace then
    (s.logicalChannels.keys.filter fun id =>
      (s.logicalChannels.lookup id).map (·.writer) = some (.link ws)).map (ws, ·)
  else []

/-- The callback of a timer.  It tries to write a Disconnect first, and
`written` says whether that succeeds. -/
def expiryCallback (s : ForwardRelay) (ws : Link) (channelID : UUID)
    (written : Bool) : ForwardRelay :=
  match s.logicalChannels.lookup channelID with
  | none => s
  | some channel =>
    if channel.writer = .link ws then
      (if written then s else s.switchToFallback channelID channel).disconnectChannel channelID
    else s

/-- The channel exists and was opened or last resumed over the link. -/
def carriedOver (s : ForwardRelay) (ws : Link) (channelID : UUID) : Bool :=
  (s.logicalChannels.lookup channelID).isSome && s.carriers.lookup channelID == some ws

end ForwardRelay

inductive ForwardAction where
  /-- A Connect message of a forward client. -/
  | connect (ws : Link) (channelID : UUID) (resume : Bool)
  /-- A ChannelOpen message of a forward client. -/
  | channelOpen (ws : Link) (channelID : UUID) (resume : Bool)
  /-- A Connect message that a session has decrypted. -/
  | sealedConnect (channelID : UUID) (resume : Bool)
  /-- A session fails or is closed by its peer. -/
  | sessionEnds (channelID : UUID)
  | dialed (channelID : UUID)
  | writeFailed (channelID : UUID)
  /-- A disconnect for any other reason. -/
  | disconnect (channelID : UUID)
  /-- A cleanup worker takes the first channel of the queue. -/
  | cleanup
  /-- The dispatcher of a link ends. -/
  | linkEnds (ws : Link)
  /-- The grace window of a link is over, for one channel. -/
  | expire (ws : Link) (channelID : UUID) (written : Bool)
  deriving DecidableEq

namespace ForwardRelay

/-- The window of a link is over for a channel: the timer fires, if there is
one. -/
def expire (s : ForwardRelay) (ws : Link) (channelID : UUID) (written : Bool) : ForwardRelay :=
  let s' := if (ws, channelID) ∈ s.timers then s.expiryCallback ws channelID written else s
  { s' with
    timers := s.timers.erase (ws, channelID)
    expired := (ws, channelID) :: s.expired
    outcomes := s.outcomes ++ [{
      ws := ws
      channelID := channelID
      carried := s.carriedOver ws channelID
      disconnected := s'.cleanupQueue = s.cleanupQueue ++ [channelID] }] }

def step (transportGrace : Int) (s : ForwardRelay) : ForwardAction → Option ForwardRelay
  | .connect ws id resume => some (s.handleNetworkConnection (.link ws) id resume)
  | .channelOpen ws id resume => some (s.acceptChannel ws id resume)
  | .sealedConnect id resume =>
    (s.sessions.lookup id).map fun n => s.handleNetworkConnection (.session n) id resume
  | .sessionEnds id => some { s with sessions := s.sessions.erase id }
  | .dialed id =>
    if (s.logicalChannels.lookup id).isSome then some { s with connections := id :: s.connections }
    else none
  | .writeFailed id => (s.logicalChannels.lookup id).map (s.switchToFallback id)
  | .disconnect id => some (s.disconnectChannel id)
  | .cleanup =>
    match s.cleanupQueue with
    | [] => none
    | id :: rest => some ({ s with cleanupQueue := rest }.doCleanup id)
  | .linkEnds ws =>
    if ws ∈ s.ended then none
    else some { s with
      ended := ws :: s.ended
      timers := s.timers ++ s.scheduleChannelExpiry ws transportGrace }
  | .expire ws id written =>
    if 0 < transportGrace ∧ ws ∈ s.ended ∧ (ws, id) ∉ s.expired then some (s.expire ws id written)
    else none

/-! ## Cleaning up -/

theorem run_cleanup (transportGrace : Int) (queue : List UUID) (s : ForwardRelay)
    (hqueue : s.cleanupQueue = queue) :
    ∃ t, run (step transportGrace) s (List.replicate queue.length .cleanup) = some t ∧
      t.connections = s.connections.filter (· ∉ queue) := by
  induction queue generalizing s with
  | nil => exact ⟨s, rfl, by simp⟩
  | cons id rest ih =>
    obtain ⟨t, hrun, hconnections⟩ := ih ({ s with cleanupQueue := rest }.doCleanup id) rfl
    refine ⟨t, ?_, ?_⟩
    · rw [length_cons, replicate_succ, run, step, hqueue]
      exact hrun
    · rw [hconnections, doCleanup]
      simp [Bool.and_comm]

/-! ## One channel -/

/-- The channel is of the first generation, none of its writes falls back from
one link to another, and no handler binds it to a link whose dispatcher has
ended. -/
def StaysOnLink (channelID : UUID) (s : ForwardRelay) : ForwardAction → Prop
  | .connect ws id _ => id = channelID → ws ∉ s.ended
  | .channelOpen _ id _ => id ≠ channelID
  | .sealedConnect id _ => id ≠ channelID
  | .writeFailed id | .expire _ id false =>
    id = channelID → ∀ channel ∈ s.logicalChannels.lookup id, channel.fallback = channel.writer
  | _ => True

instance (channelID : UUID) (s : ForwardRelay) (a : ForwardAction) :
    Decidable (StaysOnLink channelID s a) := by
  unfold StaysOnLink
  split <;> infer_instance

/-- The channel writes to the link that carries it, and a timer waits for it
while the window of an ended link is open. -/
structure Tracked (transportGrace : Int) (channelID : UUID) (s : ForwardRelay) : Prop where
  writer : ∀ channel, s.logicalChannels.lookup channelID = some channel →
    ∃ ws, channel.writer = .link ws ∧ s.carriers.lookup channelID = some ws
  timer : 0 < transportGrace → ∀ ws ∈ s.ended, (ws, channelID) ∉ s.expired →
    s.carriedOver ws channelID → (ws, channelID) ∈ s.timers
  outcomes : ∀ o ∈ s.outcomes, o.channelID = channelID → (o.disconnected ↔ o.carried)

/-- Nothing has happened to the channel. -/
structure SameFor (channelID : UUID) (s s' : ForwardRelay) : Prop where
  channel : s'.logicalChannels.lookup channelID = s.logicalChannels.lookup channelID
  carrier : s'.carriers.lookup channelID = s.carriers.lookup channelID
  timers : s'.timers = s.timers
  ended : s'.ended = s.ended
  expired : s'.expired = s.expired
  outcomes : s'.outcomes = s.outcomes

section Channel

variable {transportGrace : Int} {channelID id : UUID} {s s' : ForwardRelay}
  {ws : Link} {channel : ForwardChannel} {w : ChannelWriter}

theorem carriedOver_iff : s.carriedOver ws channelID ↔
      (∃ channel, s.logicalChannels.lookup channelID = some channel) ∧
        s.carriers.lookup channelID = some ws := by
  rw [carriedOver, Bool.and_eq_true, isSome_iff_exists, beq_iff_eq]

theorem SameFor.refl (channelID : UUID) (s : ForwardRelay) : SameFor channelID s s :=
  ⟨rfl, rfl, rfl, rfl, rfl, rfl⟩

theorem SameFor.carriedOver (h : SameFor channelID s s') (ws : Link) :
    s'.carriedOver ws channelID = s.carriedOver ws channelID := by
  rw [ForwardRelay.carriedOver, ForwardRelay.carriedOver, h.channel, h.carrier]

theorem SameFor.tracked (hsame : SameFor channelID s s') (h : Tracked transportGrace channelID s) :
    Tracked transportGrace channelID s' := by
  constructor
  · rw [hsame.channel, hsame.carrier]
    exact h.writer
  · rw [hsame.ended, hsame.expired, hsame.timers]
    intro hgrace ws hended hopen hcarried
    rw [hsame.carriedOver] at hcarried
    exact h.timer hgrace ws hended hopen hcarried
  · rw [hsame.outcomes]
    exact h.outcomes

theorem bind_sameFor (hne : id ≠ channelID) (channel : ForwardChannel) :
    SameFor channelID s (s.bind id channel) := by
  refine ⟨lookup_insert_ne hne.symm, ?_, rfl, rfl, rfl, rfl⟩
  rw [bind]
  cases s.linkOf channel.writer with
  | none => rfl
  | some ws => exact lookup_insert_ne hne.symm

theorem handleNetworkConnection_cases (s : ForwardRelay) (w : ChannelWriter)
    (id : UUID) (resume : Bool) :
    s.handleNetworkConnection w id resume = s ∨ ∃ channel, channel.writer = w ∧
        s.handleNetworkConnection w id resume = s.bind id channel := by
  rw [handleNetworkConnection]
  cases s.logicalChannels.lookup id with
  | none =>
    cases resume with
    | true => exact .inl rfl
    | false => exact .inr ⟨_, rfl, rfl⟩
  | some channel =>
    cases resume with
    | true => exact .inr ⟨_, rfl, rfl⟩
    | false => exact .inl rfl

theorem handleNetworkConnection_sameFor (hne : id ≠ channelID) (w : ChannelWriter) (resume : Bool) :
    SameFor channelID s (s.handleNetworkConnection w id resume) := by
  obtain hsame | ⟨channel, -, hbind⟩ := s.handleNetworkConnection_cases w id resume
  · rw [hsame]
    exact .refl channelID s
  · rw [hbind]
    exact bind_sameFor hne channel

theorem acceptChannel_sameFor (hne : id ≠ channelID) (ws : Link)
    (resume : Bool) : SameFor channelID s (s.acceptChannel ws id resume) := by
  rw [acceptChannel]
  cases s.sessions.lookup id with
  | some n =>
    exact ⟨rfl, lookup_insert_ne hne.symm, rfl, rfl, rfl, rfl⟩
  | none => cases resume <;> exact ⟨rfl, rfl, rfl, rfl, rfl, rfl⟩

theorem switchToFallback_sameFor (hchannel : s.logicalChannels.lookup id = some channel)
    (hkeeps : id = channelID → channel.fallback = channel.writer) :
    SameFor channelID s (s.switchToFallback id channel) := by
  refine ⟨?_, rfl, rfl, rfl, rfl, rfl⟩
  by_cases hid : id = channelID
  · subst hid
    obtain ⟨writer, fallback⟩ := channel
    obtain rfl : fallback = writer := hkeeps rfl
    rw [switchToFallback, lookup_insert, hchannel]
  · exact lookup_insert_ne (Ne.symm hid)

theorem Tracked.bind (h : Tracked transportGrace channelID s)
    (hwriter : channel.writer = .link ws) (hlive : ws ∉ s.ended) :
    Tracked transportGrace channelID (s.bind channelID channel) := by
  have hcarrier : (s.bind channelID channel).carriers.lookup channelID = some ws := by
    rw [ForwardRelay.bind, hwriter]
    exact lookup_insert _
  constructor
  · intro channel' hchannel'
    rw [ForwardRelay.bind, lookup_insert] at hchannel'
    cases hchannel'
    exact ⟨ws, hwriter, hcarrier⟩
  · intro _ ws' hended _ hcarried
    cases hcarrier.symm.trans (carriedOver_iff.mp hcarried).2
    contradiction
  · exact h.outcomes

theorem Tracked.doCleanup (h : Tracked transportGrace channelID s) (id : UUID) :
    Tracked transportGrace channelID (s.doCleanup id) := by
  by_cases hid : id = channelID
  · subst hid
    have hgone : (s.doCleanup id).logicalChannels.lookup id = none := lookup_erase _ _
    constructor
    · intro channel hchannel
      rw [hgone] at hchannel
      contradiction
    · intro _ ws _ _ hcarried
      obtain ⟨⟨channel, hchannel⟩, -⟩ := carriedOver_iff.mp hcarried
      rw [hgone] at hchannel
      contradiction
    · exact h.outcomes
  · have hsame : SameFor channelID s (s.doCleanup id) :=
      ⟨lookup_erase_ne (Ne.symm hid), rfl, rfl, rfl, rfl, rfl⟩
    exact hsame.tracked h

theorem mem_scheduleChannelExpiry (hgrace : 0 < transportGrace)
    (hchannel : s.logicalChannels.lookup channelID = some channel)
    (hwriter : channel.writer = .link ws) :
    (ws, channelID) ∈ s.scheduleChannelExpiry ws transportGrace := by
  rw [scheduleChannelExpiry, if_pos hgrace]
  apply List.mem_map_of_mem
  rw [mem_filter, hchannel]
  exact ⟨mem_keys_of_lookup hchannel, by simp [hwriter]⟩

/-- When a link ends, timers start for its channels. -/
theorem Tracked.linkEnds (h : Tracked transportGrace channelID s)
    (hstep : s.step transportGrace (.linkEnds ws) = some s') :
    Tracked transportGrace channelID s' := by
  rw [step] at hstep
  split_ifs at hstep with hended
  cases hstep
  refine ⟨h.writer, fun hgrace ws' hws' hopen hcarried => ?_, h.outcomes⟩
  apply mem_append.mpr
  obtain rfl | hws' := mem_cons.mp hws'
  · -- the channel writes to the link that carries it, so it is found
    right
    obtain ⟨⟨channel, hchannel⟩, hcarrier⟩ := carriedOver_iff.mp hcarried
    obtain ⟨ws'', hwriter, hcarrier'⟩ := h.writer channel hchannel
    cases hcarrier.symm.trans hcarrier'
    exact mem_scheduleChannelExpiry hgrace hchannel hwriter
  · exact .inl (h.timer hgrace ws' hws' hopen hcarried)

/-! ## The end of a window -/

theorem expiryCallback_sameFor {written : Bool} (hkeeps : written = false → id = channelID →
      ∀ channel, s.logicalChannels.lookup id = some channel → channel.fallback = channel.writer) :
    SameFor channelID s (s.expiryCallback ws id written) := by
  rw [expiryCallback]
  cases hchannel : s.logicalChannels.lookup id with
  | none => exact .refl channelID s
  | some channel =>
    dsimp only
    split_ifs with hwriter hwritten
    · exact ⟨rfl, rfl, rfl, rfl, rfl, rfl⟩
    · have hsame := switchToFallback_sameFor hchannel fun hid =>
        hkeeps (Bool.eq_false_iff.mpr hwritten) hid channel hchannel
      exact ⟨hsame.channel, hsame.carrier, hsame.timers, hsame.ended, hsame.expired, hsame.outcomes⟩
    · exact .refl channelID s

/-- The callback disconnects the channel if it still writes to the link. -/
theorem expiryCallback_cleanupQueue (s : ForwardRelay) (ws : Link) (id : UUID) (written : Bool) :
    (s.expiryCallback ws id written).cleanupQueue = s.cleanupQueue ++ [id] ↔
      ∃ channel, s.logicalChannels.lookup id = some channel ∧ channel.writer = .link ws := by
  rw [expiryCallback]
  cases s.logicalChannels.lookup id with
  | none => simp
  | some channel =>
    dsimp only
    split_ifs with hwriter hwritten
    · simp [disconnectChannel, hwriter]
    · simp [disconnectChannel, switchToFallback, hwriter]
    · simp [hwriter]

section

variable (h : Tracked transportGrace channelID s) (hgrace : 0 < transportGrace)
  (hended : ws ∈ s.ended)
include h hgrace hended

/-- For a tracked channel that is to say, if the link still carries it. -/
theorem Tracked.disconnected_iff (hopen : (ws, channelID) ∉ s.expired) (written : Bool) :
    (if (ws, channelID) ∈ s.timers then s.expiryCallback ws channelID written
      else s).cleanupQueue = s.cleanupQueue ++ [channelID] ↔ s.carriedOver ws channelID := by
  split_ifs with htimer
  · rw [expiryCallback_cleanupQueue, carriedOver_iff]
    constructor
    · rintro ⟨channel, hchannel, hwriter⟩
      obtain ⟨ws', hwriter', hcarrier⟩ := h.writer channel hchannel
      obtain rfl := ChannelWriter.link.inj (hwriter.symm.trans hwriter')
      exact ⟨⟨channel, hchannel⟩, hcarrier⟩
    · rintro ⟨⟨channel, hchannel⟩, hcarrier⟩
      obtain ⟨ws', hwriter, hcarrier'⟩ := h.writer channel hchannel
      cases hcarrier.symm.trans hcarrier'
      exact ⟨channel, hchannel, hwriter⟩
  · refine iff_of_false (by simp) fun hcarried => ?_
    exact htimer (h.timer hgrace ws hended hopen hcarried)

theorem Tracked.expire {written : Bool} (hopen : (ws, id) ∉ s.expired)
    (hkeeps : written = false → id = channelID →
      ∀ channel, s.logicalChannels.lookup id = some channel → channel.fallback = channel.writer) :
    Tracked transportGrace channelID (s.expire ws id written) := by
  have hsame : SameFor channelID s (if (ws, id) ∈ s.timers then
      s.expiryCallback ws id written else s) := by
    split_ifs
    · exact expiryCallback_sameFor hkeeps
    · exact .refl channelID s
  constructor
  · intro channel hchannel
    obtain ⟨ws', hwriter, hcarrier⟩ := h.writer channel (hsame.channel ▸ hchannel)
    exact ⟨ws', hwriter, hsame.carrier.trans hcarrier⟩
  · intro _ ws' hended' hopen' hcarried
    obtain ⟨hne, hopen'⟩ := not_or.mp (mt mem_cons.mpr hopen')
    apply (mem_erase_of_ne hne).mpr
    refine h.timer hgrace ws' (hsame.ended ▸ hended') hopen' ?_
    rw [← hsame.carriedOver]
    exact hcarried
  · intro o ho hid
    obtain ho | ho := mem_append.mp ho
    · exact h.outcomes o ho hid
    · obtain rfl := mem_singleton.mp ho
      obtain rfl : id = channelID := hid
      simpa using h.disconnected_iff hgrace hended hopen written

end

/-! ## Runs -/

/-- Every action that leaves the channel on its link. -/
theorem Tracked.step {a : ForwardAction}
    (h : Tracked transportGrace channelID s) (hguard : StaysOnLink channelID s a)
    (hstep : s.step transportGrace a = some s') : Tracked transportGrace channelID s' := by
  cases a with
  | connect ws id resume =>
    cases hstep
    by_cases hid : id = channelID
    · obtain hsame | ⟨channel, hwriter, hbind⟩ :=
        s.handleNetworkConnection_cases (.link ws) id resume
      · rw [hsame]
        exact h
      · rw [hbind, hid]
        exact h.bind hwriter (hguard hid)
    · exact (handleNetworkConnection_sameFor hid _ resume).tracked h
  | channelOpen ws id resume =>
    cases hstep
    exact (acceptChannel_sameFor hguard ws resume).tracked h
  | sealedConnect id resume =>
    obtain ⟨n, -, rfl⟩ := map_eq_some_iff.mp hstep
    exact (handleNetworkConnection_sameFor hguard _ resume).tracked h
  | sessionEnds id | disconnect id =>
    cases hstep
    exact ⟨h.writer, h.timer, h.outcomes⟩
  | dialed id =>
    obtain ⟨-, rfl⟩ := of_ite_some hstep
    exact ⟨h.writer, h.timer, h.outcomes⟩
  | writeFailed id =>
    obtain ⟨channel, hchannel, rfl⟩ := map_eq_some_iff.mp hstep
    refine (switchToFallback_sameFor hchannel fun hid => ?_).tracked h
    exact hguard hid channel hchannel
  | cleanup =>
    rw [ForwardRelay.step] at hstep
    cases hqueue : s.cleanupQueue with
    | nil =>
      rw [hqueue] at hstep
      contradiction
    | cons id rest =>
      rw [hqueue] at hstep
      cases hstep
      have hrest : Tracked transportGrace channelID
          { s with cleanupQueue := rest } := ⟨h.writer, h.timer, h.outcomes⟩
      exact hrest.doCleanup id
  | linkEnds ws => exact h.linkEnds hstep
  | expire ws id written =>
    rw [ForwardRelay.step] at hstep
    split_ifs at hstep with henabled
    obtain ⟨hgrace, hended, hopen⟩ := henabled
    cases hstep
    refine h.expire hgrace hended hopen fun hwritten hid => ?_
    subst hwritten
    exact hguard hid

end Channel

end ForwardRelay

/-- For every channel that stays on links: the end of a grace window disconnects
it if and only if the lost link still carries it.  A channel that is queued for
cleanup loses its network connection. -/
theorem forward_channel_expires {transportGrace : Int} (channelID : UUID)
    {actions : List ForwardAction} {s : ForwardRelay}
    (hrun : run (ForwardRelay.step transportGrace) .empty actions = some s)
    (hguard : Guarded (ForwardRelay.step transportGrace)
      (ForwardRelay.StaysOnLink channelID) .empty actions) :
    (∀ o ∈ s.outcomes, o.channelID = channelID → (o.disconnected ↔ o.carried)) ∧
    ∃ t, run (ForwardRelay.step transportGrace) s
        (List.replicate s.cleanupQueue.length .cleanup) = some t ∧
      ∀ id ∈ s.cleanupQueue, id ∉ t.connections := by
  have hempty : ForwardRelay.Tracked transportGrace channelID .empty := by
    constructor
    · intro channel hchannel
      contradiction
    · intro _ ws hws
      contradiction
    · intro o ho
      contradiction
  have htracked := run_invariant
    (fun s a s' => ForwardRelay.Tracked.step)
    hempty hguard hrun
  obtain ⟨t, hclean, hconnections⟩ := ForwardRelay.run_cleanup transportGrace _ s rfl
  refine ⟨htracked.outcomes, t, hclean, fun id hid hconnection => ?_⟩
  rw [hconnections] at hconnection
  simp [hid] at hconnection

def lostLinkRun : List ForwardAction :=
  [.connect 1 (uuidOf 9) false, .dialed (uuidOf 9), .linkEnds 1, .expire 1 (uuidOf 9) false]

theorem lostLinkRun_expires :
    Guarded (ForwardRelay.step 1) (ForwardRelay.StaysOnLink (uuidOf 9)) .empty lostLinkRun ∧
    ∃ s, run (ForwardRelay.step 1) .empty lostLinkRun = some s ∧
      s.outcomes = [⟨1, uuidOf 9, true, true⟩] ∧
      s.cleanupQueue = [uuidOf 9] ∧ s.connections = [uuidOf 9] ∧
      (∀ o ∈ s.outcomes, o.channelID = uuidOf 9 → (o.disconnected ↔ o.carried)) ∧
      ∃ t, run (ForwardRelay.step 1) s (List.replicate s.cleanupQueue.length .cleanup) = some t ∧
        ∀ id ∈ s.cleanupQueue, id ∉ t.connections := by
  refine ⟨?guard, ?_⟩
  · decide +kernel
  have hsome : (run (ForwardRelay.step 1) .empty lostLinkRun).map
      (fun s => (s.outcomes, s.cleanupQueue, s.connections)) =
        some ([⟨1, uuidOf 9, true, true⟩], [uuidOf 9], [uuidOf 9]) := by
    decide +kernel
  obtain ⟨s, hrun, hs⟩ := map_eq_some_iff.mp hsome
  simp only [Prod.mk.injEq] at hs
  obtain ⟨houtcomes, hqueue, hconnections⟩ := hs
  exact ⟨s, hrun, houtcomes, hqueue, hconnections,
    forward_channel_expires (uuidOf 9) hrun ?guard⟩

/-- The same with a channel of the second generation: the window ends, the link
still carries the channel, and nothing is done about it. -/
def lostSessionRun : List ForwardAction :=
  [.channelOpen 1 (uuidOf 9) false, .sealedConnect (uuidOf 9) false,
    .dialed (uuidOf 9), .linkEnds 1, .expire 1 (uuidOf 9) false]

/-- A channel of the first generation that is resumed over link 2.  A write that
fails there puts it back on the lost link, whose timer then disconnects it. -/
def fallenBackRun : List ForwardAction :=
  [.connect 1 (uuidOf 9) false, .dialed (uuidOf 9), .linkEnds 1,
    .connect 2 (uuidOf 9) true, .writeFailed (uuidOf 9), .expire 1 (uuidOf 9) false]

theorem lostSessionRun_never_expires : (run (ForwardRelay.step 1) .empty lostSessionRun).map
        (fun s => (s.timers, s.outcomes, s.cleanupQueue, s.connections)) =
      some ([], [⟨1, uuidOf 9, true, false⟩], [], [uuidOf 9]) ∧
    (run (ForwardRelay.step 1) .empty fallenBackRun).map (fun s => (s.outcomes, s.cleanupQueue)) =
      some ([⟨1, uuidOf 9, false, true⟩], [uuidOf 9]) := by
  constructor <;> decide +kernel

end LinkSocks
