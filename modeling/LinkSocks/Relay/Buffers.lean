import LinkSocks.Relay.Pump
import LinkSocks.Go.Refs

/-!
# Buffers of channels

Every channel has a buffer of its own, which no operation on another channel
touches.  What the operations of the relay do to the buffer of one channel is
said here once; the pumps only see these facts.
-/

namespace LinkSocks

open Go List AList

/-- No two channels share a buffer. -/
abbrev Server.OwnBuffers (s : Server) : Prop := Unshared s.orphanQueues s.queues

/-- The buffer is that of the channel, or of no channel any more. -/
abbrev Server.BufferOf (s : Server) (q : ℕ) (channelID : UUID) : Prop :=
  BelongsTo s.orphanQueues s.queues q channelID

def Server.buffer (s : Server) (channelID : UUID) : Option Queue :=
  deref s.orphanQueues s.queues channelID

/-- The payloads that wait in the channel's buffer. -/
def Server.items (s : Server) (channelID : UUID) : List BaseMessage :=
  ((s.buffer channelID).map Queue.items).getD []

/-- Whether `routeConnectorPayload` puts a payload into the channel's buffer. -/
def Server.accepts (s : Server) (channelID : UUID) : Bool :=
  match s.buffer channelID with
  | some queue => decide (queue.items.length < orphanDataQueueSize)
  | none => (s.channelIDToClient.lookup channelID).isNone

/-- What every operation keeps. -/
structure Server.Keeps (s s' : Server) : Prop where
  own : s.OwnBuffers → s'.OwnBuffers
  bufferOf : ∀ q channelID, s.BufferOf q channelID → s'.BufferOf q channelID

/-- An operation that does not touch what waits for channel `id`.  It may give
the channel an empty buffer, or a provider. -/
structure Server.Spares (id : UUID) (s s' : Server) : Prop where
  ref : ∀ q, s.orphanQueues.lookup id = some q → s'.orphanQueues.lookup id = some q
  items : s'.items id = s.items id
  client : (s.channelIDToClient.lookup id).isSome = true →
    (s'.channelIDToClient.lookup id).isSome = true

namespace Server

variable {s s' s'' : Server} {id : UUID} {channelID : UUID} {q : ℕ}

theorem Keeps.of_eq (hrefs : s'.orphanQueues = s.orphanQueues)
    (hqueues : s'.queues = s.queues) : s.Keeps s' where
  own := fun h => by rw [OwnBuffers, hrefs, hqueues]; exact h
  bufferOf := fun _ _ h => by rw [BufferOf, hrefs, hqueues]; exact h

theorem SameChannels.keeps (h : s.SameChannels s') : s.Keeps s' := .of_eq h.orphanQueues h.queues

theorem Keeps.of_mono (hrefs : ∀ k i, s'.orphanQueues.lookup k = some i →
      s.orphanQueues.lookup k = some i)
    (hlength : s'.queues.length = s.queues.length) : s.Keeps s' where
  own := fun h => h.mono hrefs hlength
  bufferOf := fun _ _ h => h.mono hrefs hlength

theorem Keeps.trans (h : s.Keeps s') (h' : s'.Keeps s'') : s.Keeps s'' where
  own := fun hown => h'.own (h.own hown)
  bufferOf := fun q channelID hq => h'.bufferOf q channelID (h.bufferOf q channelID hq)

theorem Spares.of_buffer (href : s'.orphanQueues.lookup id = s.orphanQueues.lookup id)
    (hbuffer : s'.buffer id = s.buffer id) (hclient : s'.channelIDToClient.lookup id =
      s.channelIDToClient.lookup id) : Spares id s s' where
  ref := fun _ h => href.trans h
  items := by simp only [Server.items, hbuffer]
  client := fun h => hclient ▸ h

theorem Spares.of_eq (hrefs : s'.orphanQueues = s.orphanQueues) (hqueues : s'.queues = s.queues)
    (hclient : s'.channelIDToClient = s.channelIDToClient) : Spares id s s' :=
  .of_buffer (by rw [hrefs]) (by simp only [buffer, hrefs, hqueues]) (by rw [hclient])

theorem SameChannels.spares (h : s.SameChannels s') : Spares id s s' :=
  .of_eq h.orphanQueues h.queues h.client

theorem Spares.trans (h : Spares id s s') (h' : Spares id s' s'') : Spares id s s'' where
  ref := fun q hq => h'.ref q (h.ref q hq)
  items := h'.items.trans h.items
  client := fun hclient => h'.client (h.client hclient)

/-! ## A new buffer -/

theorem newOrphanQueue_keeps (s : Server) (channelID : UUID) :
    s.Keeps (s.newOrphanQueue channelID) where
  own := fun h => h.alloc channelID _
  bufferOf := fun _ _ h => h.alloc channelID _

theorem buffer_newOrphanQueue (s : Server) (channelID : UUID) :
    (s.newOrphanQueue channelID).buffer channelID = some ⟨[], false⟩ := deref_alloc_self _ _

theorem reserveOrphanQueue_keeps (s : Server) (channelID : UUID) :
    s.Keeps (s.reserveOrphanQueue channelID) := by
  rw [reserveOrphanQueue]
  split
  · exact .of_eq rfl rfl
  · exact newOrphanQueue_keeps s channelID

theorem buffer_of_lookup_none (h : s.orphanQueues.lookup id = none) : s.buffer id = none := by
  rw [buffer, deref, h]
  rfl

theorem items_of_lookup_none (h : s.orphanQueues.lookup id = none) : s.items id = [] := by
  rw [items, buffer_of_lookup_none h]
  rfl

theorem newOrphanQueue_spares (h : s.OwnBuffers) (hnone : s.orphanQueues.lookup channelID = none) :
    Spares id s (s.newOrphanQueue channelID) := by
  by_cases hne : id = channelID
  · subst hne
    have hitems : (s.newOrphanQueue id).items id = [] := by
      rw [items, buffer_newOrphanQueue]
      rfl
    exact ⟨fun q hq => (nomatch hnone.symm.trans hq),
      hitems.trans (items_of_lookup_none hnone).symm, fun hclient => hclient⟩
  · exact .of_buffer (lookup_insert_ne hne) (deref_alloc_of_ne h hne _) rfl

/-- A buffer that is reserved is there already, or is empty. -/
theorem reserveOrphanQueue_spares (h : s.OwnBuffers) (channelID : UUID) :
    Spares id s (s.reserveOrphanQueue channelID) := by
  rw [reserveOrphanQueue]
  split
  · exact .of_eq rfl rfl rfl
  · exact newOrphanQueue_spares h ‹_›

/-! ## Payloads -/

theorem sendQueue_keeps (s : Server) (q : ℕ) (msg : BaseMessage) : s.Keeps (s.sendQueue q msg) :=
  .of_mono (fun _ _ h => h) (length_modify ..)

theorem sendQueue_spares (hq : s.BufferOf q channelID) (hne : id ≠ channelID) (msg : BaseMessage) :
    Spares id s (s.sendQueue q msg) :=
  .of_buffer rfl (hq.deref_of_ne hne fun _ hm => getElem?_modify_ne _ _ hm.symm) rfl

theorem buffer_sendQueue (h : s.orphanQueues.lookup id = some q) (msg : BaseMessage) :
    (s.sendQueue q msg).buffer id = (s.buffer id).map (·.trySend msg) := by
  have hlookup : (s.sendQueue q msg).orphanQueues.lookup id = some q := h
  rw [buffer, buffer, deref_of_lookup hlookup, deref_of_lookup h]
  exact getElem?_modify_eq ..

theorem items_sendQueue (hown : s.OwnBuffers)
    (h : s.orphanQueues.lookup id = some q) (msg : BaseMessage) : (s.sendQueue q msg).items id =
      s.items id ++ if s.accepts id then [msg] else [] := by
  obtain ⟨queue, hqueue⟩ : ∃ queue, s.buffer id = some queue := by
    rw [buffer, deref_of_lookup h]
    exact ⟨_, getElem?_eq_getElem (hown.lt id q h)⟩
  rw [items, buffer_sendQueue h, items, accepts, hqueue]
  by_cases hroom : queue.items.length < orphanDataQueueSize
  · simp [Queue.trySend, hroom]
  · simp [Queue.trySend, hroom]

/-- The two ways in which a payload of a channel without a provider is kept. -/
theorem bufferOrphanPayload_eq (s : Server) (channelID : UUID) (msg : BaseMessage) :
    ∃ q, (s.reserveOrphanQueue channelID).orphanQueues.lookup channelID = some q ∧
      s.bufferOrphanPayload channelID msg = (s.reserveOrphanQueue channelID).sendQueue q msg := by
  obtain ⟨q, hq⟩ : ∃ q,
      (s.reserveOrphanQueue channelID).orphanQueues.lookup channelID = some q := by
    rw [reserveOrphanQueue]
    split
    · exact ⟨_, ‹_›⟩
    · exact ⟨_, lookup_insert ..⟩
  refine ⟨q, hq, ?_⟩
  simp only [bufferOrphanPayload, hq]

theorem routeConnectorPayload_keeps (s : Server) (channelID : UUID)
    (msg : BaseMessage) : s.Keeps (s.routeConnectorPayload channelID msg) := by
  rw [routeConnectorPayload]
  split
  · exact sendQueue_keeps ..
  · split
    · exact .of_eq rfl rfl
    · obtain ⟨q, -, heq⟩ := s.bufferOrphanPayload_eq channelID msg
      rw [heq]
      exact (s.reserveOrphanQueue_keeps channelID).trans (sendQueue_keeps ..)

theorem routeConnectorPayload_spares (h : s.OwnBuffers) (hne : id ≠ channelID) (msg : BaseMessage) :
    Spares id s (s.routeConnectorPayload channelID msg) := by
  rw [routeConnectorPayload]
  split
  · rename_i q hq
    exact sendQueue_spares (h.belongsTo hq) hne msg
  · split
    · exact .of_eq rfl rfl rfl
    · obtain ⟨q, hq, heq⟩ := s.bufferOrphanPayload_eq channelID msg
      rw [heq]
      have hreserved := (s.reserveOrphanQueue_keeps channelID).own h
      exact (reserveOrphanQueue_spares h channelID).trans
        (sendQueue_spares (hreserved.belongsTo hq) hne msg)

theorem items_routeConnectorPayload (h : s.OwnBuffers) (msg : BaseMessage) :
    (s.routeConnectorPayload id msg).items id =
      s.items id ++ if s.accepts id then [msg] else [] := by
  rw [routeConnectorPayload]
  split
  · rename_i q hq
    exact items_sendQueue h hq msg
  · rename_i hnone
    split
    · rename_i client hclient
      have haccepts : s.accepts id = false := by
        simp [accepts, buffer_of_lookup_none hnone, hclient]
      simp [haccepts]
    · rename_i hclient
      obtain ⟨q, hq, heq⟩ := s.bufferOrphanPayload_eq id msg
      have hreserved := (s.reserveOrphanQueue_keeps id).own h
      have hempty : (s.reserveOrphanQueue id).buffer id = some ⟨[], false⟩ := by
        simp only [reserveOrphanQueue, hnone, buffer_newOrphanQueue]
      have haccepts : s.accepts id = true := by
        simp [accepts, buffer_of_lookup_none hnone, hclient]
      have haccepts' : (s.reserveOrphanQueue id).accepts id = true := by
        simp [accepts, hempty, orphanDataQueueSize]
      rw [heq, items_sendQueue hreserved hq,
        (reserveOrphanQueue_spares h id).items, haccepts, haccepts']

/-- The pump takes the first payload. -/
def takeQueue (s : Server) (q : ℕ) (items : List BaseMessage) (closed : Bool) : Server :=
  { s with queues := s.queues.set q ⟨items, closed⟩ }

theorem takeQueue_keeps (s : Server) (q : ℕ) (items : List BaseMessage)
    (closed : Bool) : s.Keeps (s.takeQueue q items closed) := .of_mono (fun _ _ h => h) length_set

theorem items_takeQueue {msg : BaseMessage} {items : List BaseMessage}
    {closed : Bool} (h : s.orphanQueues.lookup id = some q)
    (hqueue : s.queues[q]? = some ⟨msg :: items, closed⟩) :
    s.items id = msg :: (s.takeQueue q items closed).items id := by
  obtain ⟨hlt, -⟩ := List.getElem?_eq_some_iff.mp hqueue
  have hlookup : (s.takeQueue q items closed).orphanQueues.lookup id = some q := h
  rw [Server.items, Server.items, buffer, buffer, deref_of_lookup h,
    deref_of_lookup hlookup, hqueue]
  simp [takeQueue, hlt]

/-! ## Buffers that go away -/

theorem buffer_drop (hq : s.BufferOf q channelID) (hne : id ≠ channelID) :
    deref (s.orphanQueues.erase channelID) (s.closeQueue q).queues id = s.buffer id := by
  rw [deref_erase_of_ne hne]
  exact hq.deref_of_ne hne fun _ hm => getElem?_modify_ne _ _ hm.symm

theorem expireOrphanData_keeps (s : Server) (channelID : UUID) :
    s.Keeps (s.expireOrphanData channelID) := by
  rw [expireOrphanData]
  split
  · exact .of_mono lookup_of_erase (length_modify ..)
  · exact .of_eq rfl rfl

theorem expireOrphanData_spares (h : s.OwnBuffers)
    (hne : id ≠ channelID) : Spares id s (s.expireOrphanData channelID) := by
  rw [expireOrphanData]
  split
  · rename_i q hq _
    exact .of_buffer (lookup_erase_ne hne) (buffer_drop (h.belongsTo hq) hne) rfl
  · exact .of_eq rfl rfl rfl

theorem cleanupConnectorChannel_keeps (s : Server) (channelID : UUID) :
    s.Keeps (s.cleanupConnectorChannel channelID) := by
  rw [cleanupConnectorChannel]
  split
  · exact .of_mono lookup_of_erase (length_modify ..)
  · exact .of_mono lookup_of_erase rfl

theorem cleanupConnectorChannel_spares (h : s.OwnBuffers) (hne : id ≠ channelID) :
    Spares id s (s.cleanupConnectorChannel channelID) := by
  have hclient : (s.channelIDToClient.erase channelID).lookup id =
      s.channelIDToClient.lookup id := lookup_erase_ne hne
  rw [cleanupConnectorChannel]
  split
  · rename_i q hq
    exact .of_buffer (lookup_erase_ne hne) (buffer_drop (h.belongsTo hq) hne) hclient
  · exact .of_buffer (lookup_erase_ne hne) (deref_erase_of_ne hne) hclient

section Forgets

variable {ids : List UUID} {tokens : List GoString}

theorem Forgets.keeps (h : s.Forgets ids tokens s') : s.Keeps s' :=
  .of_mono (fun _ _ => h.orphanQueues.lookup) (congrArg length h.queues)

theorem Forgets.spares (h : s.Forgets ids tokens s')
    (href : s'.orphanQueues.lookup id = s.orphanQueues.lookup id)
    (hclient : s'.channelIDToClient.lookup id = s.channelIDToClient.lookup id) : Spares id s s' :=
  .of_buffer href (by rw [buffer, buffer, deref, deref, href, h.queues]) hclient

end Forgets

/-! ## Operations that have nothing to do with buffers -/

theorem bindChannel_spares (s : Server) (channelID : UUID) (client connector : Option Link) :
    Spares id s (s.bindChannel channelID client connector) := by
  refine ⟨fun _ h => h, rfl, fun hsome => ?_⟩
  cases client with
  | none => exact hsome
  | some link =>
    by_cases hid : id = channelID
    · subst hid
      simp [bindChannel]
    · simpa [bindChannel, lookup_insert_ne hid] using hsome

end Server

/-! ## The mapping of a pump -/

namespace Pump

variable {s : Server} {id : UUID}

theorem lookup_publish (s : Server) (p : Pump) (provider : Link) :
    (p.publish s provider).1.orphanQueues.lookup p.request.channelID =
      some (p.publish s provider).2 := by
  simp only [publish]
  split
  · exact ‹_›
  · exact lookup_insert ..

theorem client_publish (s : Server) (p : Pump) (provider : Link) :
    (p.publish s provider).1.channelIDToClient.lookup p.request.channelID = some provider := by
  simp only [publish]
  split <;> exact lookup_insert ..

theorem publish_keeps (s : Server) (p : Pump) (provider : Link) :
    s.Keeps (p.publish s provider).1 := by
  simp only [publish]
  split
  · exact .of_eq rfl rfl
  · refine .trans ?_ (Server.newOrphanQueue_keeps _ _)
    exact .of_eq rfl rfl

theorem publish_spares (h : s.OwnBuffers) (p : Pump) (provider : Link) :
    Server.Spares id s (p.publish s provider).1 := by
  have hclient : (s.channelIDToClient.lookup id).isSome = true →
      ((s.channelIDToClient.insert p.request.channelID provider).lookup
        id).isSome = true := by
    intro hsome
    by_cases hid : id = p.request.channelID
    · rw [hid, lookup_insert]
      rfl
    · rwa [lookup_insert_ne hid]
  simp only [publish]
  split
  · exact ⟨fun _ h => h, rfl, hclient⟩
  · refine .trans ?_ (Server.newOrphanQueue_spares ?_ ‹_›)
    · exact ⟨fun _ h => h, rfl, hclient⟩
    · exact h

end Pump

end LinkSocks
