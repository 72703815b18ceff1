import LinkSocks.Relay.Isolation
import LinkSocks.Relay.Peers

/-!
# What a revocation leaves of channels

The pump files a channel in the token cache under the reverse token of its
connector, and nothing takes it out of there when the channel is dropped.
`RemoveToken` looks for channels under the connector tokens that it removes, and
it takes their clients out of the registry, so that no grace window is opened for
the channels that it does not find.  A pump learns that its channel is gone only
where it looks at the channel's buffer; past that point it still publishes.
-/

namespace LinkSocks

open Go List

/-- Channels are bound by their peers as well as by pumps. -/
inductive CacheAction where
  | path (a : ReturnAction)
  | channelBind (d : Directory) (order : List UUID) (dispatcher : BindDispatcher)
      (ws : Link) (m : ChannelBindMessage)

def ReturnPath.cacheStep (E : RelayEnv) (f : ReturnPath) : CacheAction → Option ReturnPath
  | .path a => f.step E a
  | .channelBind d order dispatcher ws m =>
    some { f with relay.server := (f.relay.server.dispatchChannelBind d order dispatcher ws m).1 }

/-! ## The token cache -/

namespace Server

/-- The channel is mapped on one side at least. -/
def IsMapped (s : Server) (id : UUID) : Prop :=
  id ∈ s.channelIDToConnector ∨ id ∈ s.channelIDToClient

/-- Every channel that is filed under a token is mapped. -/
def CacheMapped (s : Server) : Prop := ∀ token, ∀ id ∈ s.cacheOf token, s.IsMapped id

/-- The channel is in none of the maps, and filed under no token. -/
structure Gone (s : Server) (id : UUID) : Prop where
  unmapped : ¬ s.IsMapped id
  unbuffered : id ∉ s.orphanQueues
  unfiled : ∀ token, id ∉ s.cacheOf token

/-- A step that adds at most the channels `added` to the maps, unmaps the
channels `dropped` and takes the tokens `removed` out of the cache. -/
structure CacheStep (added dropped : List UUID) (removed : List GoString)
    (s s' : Server) : Prop where
  kept : ∀ id, id ∉ dropped → s.IsMapped id → s'.IsMapped id
  unmapped : ∀ id ∈ dropped, ¬ s'.IsMapped id
  mapped : ∀ id, s'.IsMapped id → id ∈ added ∨ s.IsMapped id
  buffered : ∀ id ∈ s'.orphanQueues, id ∈ added ∨ id ∈ s.orphanQueues
  filed : ∀ token, token ∉ removed → s.cacheOf token ⊆ s'.cacheOf token
  cached : ∀ token, ∀ id ∈ s'.cacheOf token,
    (token ∉ removed ∧ id ∈ s.cacheOf token) ∨ (id ∈ added ∧ s'.IsMapped id)

variable {s s' s'' : Server} {added dropped ids : List UUID} {removed tokens : List GoString}
  {token : GoString} {m : GoMap UUID Link} {link : Link} {channelID id : UUID}

theorem mem_keys_of_cacheOf (h : id ∈ s.cacheOf token) : token ∈ s.tokenCache.keys := by
  rw [cacheOf] at h
  cases hlookup : s.tokenCache.lookup token with
  | none =>
    rw [hlookup] at h
    cases h
  | some ids => exact mem_keys_of_lookup hlookup

theorem CacheMapped.step (h : s.CacheMapped) (hstep : s.CacheStep added dropped removed s')
    (hguard : ∀ id ∈ dropped, ∀ token, token ∉ removed → id ∉ s.cacheOf token) :
    s'.CacheMapped := by
  intro token id hid
  rcases hstep.cached token id hid with ⟨htoken, hold⟩ | ⟨-, hmapped⟩
  · refine hstep.kept id (fun hdropped => ?_) (h token id hold)
    exact hguard id hdropped token htoken hold
  · exact hmapped

theorem Gone.step (h : s.Gone id) (hstep : s.CacheStep added dropped removed s')
    (hid : id ∉ added) : s'.Gone id where
  unmapped := fun hmapped => h.unmapped ((hstep.mapped id hmapped).resolve_left hid)
  unbuffered := fun hmem => h.unbuffered ((hstep.buffered id hmem).resolve_left hid)
  unfiled := by
    intro token hfiled
    rcases hstep.cached token id hfiled with ⟨-, hold⟩ | ⟨hadded, -⟩
    · exact h.unfiled token hold
    · exact hid hadded

theorem Unmaps.isMapped_iff (h : s.Unmaps ids tokens s') :
    s'.IsMapped id ↔ id ∉ ids ∧ s.IsMapped id := by
  rw [IsMapped, h.connector.mem_iff, h.client.mem_iff, ← and_or_left, IsMapped]

theorem Unmaps.cacheStep (h : s.Unmaps ids tokens s') : s.CacheStep [] ids tokens s' where
  kept := fun _ hid hmapped => h.isMapped_iff.mpr ⟨hid, hmapped⟩
  unmapped := fun _ hid hmapped => (h.isMapped_iff.mp hmapped).1 hid
  mapped := fun _ hmapped => .inr (h.isMapped_iff.mp hmapped).2
  buffered := fun _ hid => .inr (h.orphanQueues.mem_iff.mp hid).2
  filed := fun _ htoken _ hid => h.mem_cacheOf.mpr ⟨htoken, hid⟩
  cached := fun _ _ hid => .inl (h.mem_cacheOf.mp hid)

/-- Nothing is unmapped, and a channel may be filed that is mapped. -/
theorem CacheStep.of_grow (hkept : ∀ id, s.IsMapped id → s'.IsMapped id)
    (hmapped : ∀ id, s'.IsMapped id → id ∈ added ∨ s.IsMapped id)
    (hbuffered : ∀ id ∈ s'.orphanQueues, id ∈ added ∨ id ∈ s.orphanQueues)
    (hcache : s'.tokenCache = s.tokenCache ∨ ∃ token, ∃ id ∈ added, s'.IsMapped id ∧
      s'.tokenCache = s.tokenCache.insert token (s.cacheOf token ++ [id])) :
    s.CacheStep added [] [] s' := by
  have hmem : ∀ t x, (x ∈ s.cacheOf t → x ∈ s'.cacheOf t) ∧
      (x ∈ s'.cacheOf t → x ∈ s.cacheOf t ∨ x ∈ added ∧ s'.IsMapped x) := by
    intro t x
    rcases hcache with hsame | ⟨token, id, hadded, hbound, hinsert⟩
    · rw [cacheOf, cacheOf, hsame]
      exact ⟨fun h => h, .inl⟩
    · have hcacheOf :
          s'.cacheOf t = if t = token then s.cacheOf token ++ [id] else s.cacheOf t := by
        rw [cacheOf, hinsert]
        split_ifs with ht
        · rw [ht, AList.lookup_insert]
          rfl
        · rw [AList.lookup_insert_ne ht]
          rfl
      rw [hcacheOf]
      split_ifs with ht
      · subst ht
        rw [mem_append, mem_singleton]
        exact ⟨.inl, .imp_right fun hx => hx ▸ ⟨hadded, hbound⟩⟩
      · exact ⟨fun h => h, .inl⟩
  exact ⟨fun id _ => hkept id, by simp, hmapped, hbuffered, fun t _ x => (hmem t x).1,
    fun t x hx => ((hmem t x).2 hx).imp_left fun hold => ⟨not_mem_nil, hold⟩⟩

theorem SameMapping.cacheStep (h : s.SameMapping s')
    (hbuffered : ∀ id ∈ s'.orphanQueues, id ∈ added ∨ id ∈ s.orphanQueues) :
    s.CacheStep added [] [] s' := by
  have hmapped : ∀ id, s'.IsMapped id ↔ s.IsMapped id := by
    intro id
    rw [IsMapped, h.connector, h.client, IsMapped]
  exact .of_grow (fun id => (hmapped id).mpr) (fun id hid => .inr ((hmapped id).mp hid)) hbuffered
    (.inl h.tokenCache)

theorem SameMapping.cacheStep_of_eq (h : s.SameMapping s')
    (horphans : s'.orphanQueues = s.orphanQueues) : s.CacheStep added [] [] s' :=
  h.cacheStep fun _ hid => .inr (horphans ▸ hid)

theorem CacheStep.trans (h : s.CacheStep added [] [] s') (h' : s'.CacheStep added [] [] s'') :
    s.CacheStep added [] [] s'' where
  kept := fun id hid hmapped => h'.kept id hid (h.kept id hid hmapped)
  unmapped := nofun
  mapped := fun id hid => (h'.mapped id hid).elim .inl (h.mapped id)
  buffered := fun id hid => (h'.buffered id hid).elim .inl (h.buffered id)
  filed := fun token htoken => List.Subset.trans (h.filed token htoken) (h'.filed token htoken)
  cached := by
    intro token id hid
    rcases h'.cached token id hid with ⟨-, hbefore⟩ | hnew
    · exact (h.cached token id hbefore).imp_right (.imp_right (h'.kept id not_mem_nil))
    · exact .inr hnew

/-! ### Buffers -/

theorem expireOrphanData_cacheStep (s : Server) (channelID : UUID) :
    s.CacheStep [] [] [] (s.expireOrphanData channelID) := by
  refine (s.expireOrphanData_sameMapping channelID).cacheStep ?_
  fun_cases expireOrphanData s channelID
  · exact fun _ hid => .inr (AList.mem_erase.mp hid).2
  · exact fun _ => .inr

theorem newOrphanQueue_cacheStep (s : Server) (channelID : UUID) :
    s.CacheStep [channelID] [] [] (s.newOrphanQueue channelID) :=
  SameMapping.cacheStep ⟨rfl, rfl, rfl⟩ fun _ hid =>
    ((AList.mem_insert _).mp hid).imp_left mem_singleton.mpr

theorem reserveOrphanQueue_cacheStep (s : Server) (channelID : UUID) :
    s.CacheStep [channelID] [] [] (s.reserveOrphanQueue channelID) := by
  rw [reserveOrphanQueue]
  split
  · exact SameMapping.cacheStep_of_eq ⟨rfl, rfl, rfl⟩ rfl
  · exact s.newOrphanQueue_cacheStep channelID

theorem routeConnectorPayload_cacheStep (s : Server) (channelID : UUID) (msg : BaseMessage) :
    s.CacheStep [channelID] [] [] (s.routeConnectorPayload channelID msg) := by
  refine (s.routeConnectorPayload_sameMapping channelID msg).cacheStep ?_
  fun_cases routeConnectorPayload s channelID msg
  case case3 =>
    obtain ⟨q, -, heq⟩ := s.bufferOrphanPayload_eq channelID msg
    rw [heq]
    exact (s.reserveOrphanQueue_cacheStep channelID).buffered
  all_goals exact fun _ => .inr

/-! ### Bindings -/

/-- The second map has the first one's channels, and at most one more. -/
def Gains (channelID : UUID) (m m' : GoMap UUID Link) : Prop :=
  ∀ id, (id ∈ m → id ∈ m') ∧ (id ∈ m' → id = channelID ∨ id ∈ m)

theorem Gains.refl : Gains channelID m m := fun _ => ⟨fun h => h, .inr⟩

theorem Gains.insert : Gains channelID m (m.insert channelID link) :=
  fun _ => ⟨fun h => (AList.mem_insert _).mpr (.inr h), (AList.mem_insert _).mp⟩

theorem Gains.ite {p : Prop} [Decidable p] :
    Gains channelID m (if p then m.insert channelID link else m) := by
  split_ifs
  · exact .insert
  · exact .refl

theorem Gains.bindMissing (link : Option Link) :
    Gains channelID m (link.elim m (bindMissing m channelID)) := by
  cases link with
  | none => exact .refl
  | some link =>
    change Gains channelID m (if (m.lookup channelID).isSome then m else m.insert channelID link)
    split_ifs
    · exact .refl
    · exact .insert

theorem CacheStep.of_bind
    (hconnector : Gains channelID s.channelIDToConnector s'.channelIDToConnector)
    (hclient : Gains channelID s.channelIDToClient s'.channelIDToClient)
    (hcache : s'.tokenCache = s.tokenCache ∨ ∃ token, s'.IsMapped channelID ∧
      s'.tokenCache = s.tokenCache.insert token (s.cacheOf token ++ [channelID]))
    (horphans : s'.orphanQueues = s.orphanQueues) : s.CacheStep [channelID] [] [] s' := by
  refine .of_grow (fun id => .imp (hconnector id).1 (hclient id).1) (fun id => ?_)
    (fun id hid => .inr (horphans ▸ hid))
    (hcache.imp_right fun ⟨token, h⟩ => ⟨token, channelID, mem_singleton_self _, h⟩)
  rw [mem_singleton]
  rintro (hid | hid)
  · exact ((hconnector id).2 hid).imp_right .inl
  · exact ((hclient id).2 hid).imp_right .inr

theorem bindSides_cacheStep (s : Server) (channelID : UUID) (client connector : Option Link) :
    s.CacheStep [channelID] [] [] (s.bindSides channelID client connector) :=
  .of_bind (.bindMissing connector) (.bindMissing client) (.inl rfl) rfl

theorem addToTokenCache_cacheStep (h : s.IsMapped channelID) :
    s.CacheStep [channelID] [] [] (s.addToTokenCache token channelID) := by
  rw [addToTokenCache]
  split_ifs
  · exact SameMapping.cacheStep_of_eq ⟨rfl, rfl, rfl⟩ rfl
  · exact .of_bind .refl .refl (.inr ⟨token, h, rfl⟩) rfl

theorem bindDirectChannel_cacheStep (s : Server) (channelID : UUID)
    (peer : Option Link) (source : Link) (role : DirectClientRole) (token : GoString) :
    s.CacheStep [channelID] [] [] (s.bindDirectChannel channelID peer source role token) := by
  have hbound : ∀ m : GoMap UUID Link, channelID ∈ LinkSocks.bindMissing m channelID source := by
    intro m
    rw [LinkSocks.bindMissing]
    split_ifs with hmem
    · exact AList.lookup_isSome.mp hmem
    · exact (AList.mem_insert _).mpr (.inl rfl)
  -- the sender is on one of the sides in each of the roles
  cases role with
  | connector | forward =>
    exact (s.bindSides_cacheStep channelID peer (some source)).trans
      (addToTokenCache_cacheStep (.inl (hbound _)))
  | reverse =>
    exact (s.bindSides_cacheStep channelID (some source) peer).trans
      (addToTokenCache_cacheStep (.inr (hbound _)))

theorem bindChannelPeer_cacheStep (s : Server) (channelID : UUID) (source : Link)
    (role : DirectClientRole) (token : GoString) :
    s.CacheStep [channelID] [] [] (s.bindChannelPeer channelID source role token) := by
  fun_cases bindChannelPeer s channelID source role token
  case case1 => exact .of_bind .insert .refl (.inl rfl) rfl
  case case2 | case4 => exact .of_bind .refl .insert (.inl rfl) rfl
  all_goals exact SameMapping.cacheStep_of_eq ⟨rfl, rfl, rfl⟩ rfl

end Server

/-! ### Pumps -/

namespace Pump

/-- The channels that the pump may map when it goes on. -/
def adds (p : Pump) : List UUID :=
  match p.pc with
  | .start => if p.request.resume then [p.request.channelID] else []
  | .publish => [p.request.channelID]
  | _ => []

/-- The channels that the pump unmaps when it goes on. -/
def drops (p : Pump) : List UUID :=
  match p.pc with
  | .cleanup => [p.request.channelID]
  | _ => []

variable {E : RelayEnv} {s : Server} {p : Pump} {label : PumpLabel} {m : PumpMove}

theorem publish_cacheStep (s : Server) (p : Pump) (provider : Link) :
    s.CacheStep [p.request.channelID] [] [] (p.publish s provider).1 := by
  have hfiled : ∀ owned : Bool, s.CacheStep [p.request.channelID] [] [] { s with
      channelIDToConnector :=
        if owned then s.channelIDToConnector.insert p.request.channelID p.ws
        else s.channelIDToConnector
      channelIDToClient := s.channelIDToClient.insert p.request.channelID provider
      tokenCache :=
        if p.request.channelID ∈ s.cacheOf p.reverseToken then s.tokenCache
        else s.tokenCache.insert p.reverseToken
          (s.cacheOf p.reverseToken ++ [p.request.channelID]) } := by
    intro owned
    refine .of_bind .ite .insert ?_ rfl
    by_cases hknown : p.request.channelID ∈ s.cacheOf p.reverseToken
    · exact .inl (if_pos hknown)
    · exact .inr ⟨_, .inr ((AList.mem_insert _).mpr (.inl rfl)), if_neg hknown⟩
  rw [publish]
  split
  · exact hfiled _
  · exact (hfiled _).trans (Server.newOrphanQueue_cacheStep _ _)

theorem step_cacheStep (h : p.step E s label = some m) :
    s.CacheStep p.adds p.drops [] m.server := by
  cases step_moves h with
  | publish provider hpc =>
    rw [adds, drops, hpc]
    exact p.publish_cacheStep s provider
  | cleanup hpc =>
    rw [adds, drops, hpc]
    exact (s.cleanupConnectorChannel_unmaps _).cacheStep
  | idle _ hsame hquiet =>
    have hdrops : p.drops = [] := by cases hpc : p.pc <;> simp_all [drops, PumpPC.quiet]
    rw [hdrops]
    exact hsame.toSameMapping.cacheStep_of_eq hsame.orphanQueues
  | again _ hpc | take _ _ _ hpc | bound _ hpc | sent _ _ hpc | sendFailed _ _ hpc =>
    rw [drops, hpc]
    exact Server.SameMapping.cacheStep_of_eq ⟨rfl, rfl, rfl⟩ rfl

end Pump

namespace Relay

/-- The channels that connectors request or send payloads on. -/
def arrivals (E : RelayEnv) (r : Relay) (a : RelayAction) : List UUID :=
  ((r.arriving E a).map ChannelRequest.channelID).toList ++ ((r.routed E a).map Prod.fst).toList

/-- The channels that the action may add to the maps. -/
def added (E : RelayEnv) (r : Relay) : RelayAction → List UUID
  | .pump n _ => (r.pumps[n]?).elim [] Pump.adds
  | a => r.arrivals E a

/-- The channels that the action unmaps. -/
def dropped (r : Relay) : RelayAction → List UUID
  | .cleanupConnectorChannel channelID => [channelID]
  | .removeToken token => r.server.foundChannels token
  | .pump n _ => (r.pumps[n]?).elim [] Pump.drops
  | _ => []

/-- The tokens that the action takes out of the cache. -/
def uncached (r : Relay) : RelayAction → List GoString
  | .removeToken token => r.server.removedConnectors token
  | _ => []

variable {E : RelayEnv} {r r' : Relay} {a : RelayAction}

theorem startPump_cacheStep {n : ℕ} {p : Pump} (hpc : p.pc = .start) :
    r.server.CacheStep p.adds [] [] (r.startPump n p).server := by
  rw [Pump.adds, hpc, startPump]
  dsimp only
  cases r.pumpActive.lookup p.request.channelID with
  | none => exact Server.SameMapping.cacheStep_of_eq ⟨rfl, rfl, rfl⟩ rfl
  | some owner =>
    cases p.request.resume with
    | false => exact Server.SameMapping.cacheStep_of_eq ⟨rfl, rfl, rfl⟩ rfl
    | true => exact .of_bind .insert .refl (.inl rfl) rfl

theorem receive_cacheStep {clientID : UUID} {data : Bytes} {handled : Bool}
    (h : r.receive E clientID data handled = some r') :
    r.server.CacheStep (r.arrivals E (.receive clientID data handled)) [] [] r'.server := by
  refine (receive_sameMapping h).cacheStep ?_
  revert h
  fun_cases Relay.receive E r clientID data handled <;> intro h
  case case1 session msg version hsession hparse hregistered after hhandled =>
    cases h
    simp only [arrivals, arriving, routed, hsession, hparse, hregistered, Bool.true_and, hhandled,
      if_true]
    cases msg with
    | connect m | channelOpen m => exact (after.server.reserveOrphanQueue_cacheStep _).buffered
    | data m | «sealed» m => exact (after.server.routeConnectorPayload_cacheStep _ _).buffered
    | _ => exact fun _ => .inr
  case case2 =>
    obtain rfl := Option.some.inj h
    exact fun _ => .inr
  all_goals contradiction

theorem step_cacheStep (h : r.step E a = some r')
    (hbind : ∀ id client connector, a ≠ .bindChannel id client connector) :
    r.server.CacheStep (r.added E a) (r.dropped a) (r.uncached a) r'.server := by
  cases a with
  | authenticate | register | disconnect | updateTokens =>
    obtain ⟨server, sessions, rfl, hsame⟩ := step_registers h rfl
    exact hsame.toSameMapping.cacheStep_of_eq hsame.orphanQueues
  | receive clientID data handled => exact receive_cacheStep h
  | pump n label =>
    obtain ⟨p, hp, hcase⟩ := stepPump_spec h
    rw [added, dropped, hp]
    change r.server.CacheStep p.adds p.drops [] r'.server
    obtain ⟨hpc, -, rfl⟩ | ⟨hpc, -, rfl⟩ | ⟨m, hm, rfl⟩ := hcase
    · have hdrops : p.drops = [] := by rw [Pump.drops, hpc]
      rw [hdrops]
      exact startPump_cacheStep hpc
    · rw [Pump.drops, hpc]
      exact Server.SameMapping.cacheStep_of_eq ⟨rfl, rfl, rfl⟩ rfl
    · exact Pump.step_cacheStep hm
  | removeToken token =>
    cases h
    exact (r.server.removeToken_forgets token).toUnmaps.cacheStep
  | bindChannel id client connector => exact absurd rfl (hbind id client connector)
  | expireOrphanData channelID =>
    cases h
    exact r.server.expireOrphanData_cacheStep channelID
  | cleanupConnectorChannel channelID =>
    cases h
    exact (r.server.cleanupConnectorChannel_unmaps channelID).cacheStep

end Relay

/-! ### Runs -/

namespace ReturnPath

variable {E : RelayEnv} {f f' : ReturnPath} {a : CacheAction}

def added (E : RelayEnv) (f : ReturnPath) : CacheAction → List UUID
  | .path (.relay a) => f.relay.added E a
  | .path _ => []
  | .channelBind _ _ _ _ m => [m.channelID]

def dropped (f : ReturnPath) : CacheAction → List UUID
  | .path (.relay a) => f.relay.dropped a
  | _ => []

def uncached (f : ReturnPath) : CacheAction → List GoString
  | .path (.relay a) => f.relay.uncached a
  | _ => []

/-- The channels that are unmapped are not filed under any token that stays in the
cache. -/
def Unfiles (f : ReturnPath) (a : CacheAction) : Prop :=
  ∀ id ∈ f.dropped a, ∀ token ∈ f.relay.server.tokenCache.keys,
    id ∈ f.relay.server.cacheOf token → token ∈ f.uncached a

instance (f : ReturnPath) (a : CacheAction) : Decidable (f.Unfiles a) := by
  unfold Unfiles
  infer_instance

/-- Outside of the relay, a goroutine can give another link to a channel that is
mapped. -/
theorem step_outside {a : ReturnAction} (hrelay : ∀ b, a ≠ .relay b) (h : f.step E a = some f') :
    f.relay.server.CacheStep [] [] [] f'.relay.server ∧ f'.relay.pumps = f.relay.pumps := by
  by_cases hrebind : ∃ k, a = .rebind k
  · obtain ⟨k, rfl⟩ := hrebind
    obtain ⟨rebind, -, hloop⟩ := Option.bind_eq_some_iff.mp h
    obtain ⟨rebind', rfl⟩ | ⟨id, rest, cur, rebind', -, -, -, hcur, -, rfl⟩ :=
      stepRebind_cases hloop
    · exact ⟨Server.SameMapping.cacheStep_of_eq ⟨rfl, rfl, rfl⟩ rfl, rfl⟩
    · have hbound : id ∈ f.relay.server.channelIDToConnector :=
        AList.lookup_isSome.mp (by rw [← connector, hcur]; rfl)
      refine ⟨.of_grow (fun x => .imp_left fun hx => (AList.mem_insert _).mpr (.inr hx))
        (fun x hx => .inr (hx.imp_left fun hmem => ?_)) (fun _ => .inr) (.inl rfl), rfl⟩
      obtain rfl | hold := (AList.mem_insert _).mp hmem
      · exact hbound
      · exact hold
  · rw [step_same_relay hrelay (fun k heq => hrebind ⟨k, heq⟩) h]
    exact ⟨Server.SameMapping.cacheStep_of_eq ⟨rfl, rfl, rfl⟩ rfl, rfl⟩

/-- What an action files in the cache and takes out of it. -/
theorem cacheStep_spec (h : f.cacheStep E a = some f') :
    f.relay.server.CacheStep (f.added E a) (f.dropped a) (f.uncached a) f'.relay.server := by
  cases a with
  | channelBind d order dispatcher ws m =>
    cases h
    exact (f.relay.server.bindDirectChannel_cacheStep m.channelID _ ws _ _).trans
      (Server.bindChannelPeer_cacheStep _ m.channelID ws _ _)
  | path a =>
    change f.step E a = some f' at h
    cases a with
    | relay a =>
      obtain ⟨hfree, r', hr', rfl⟩ := step_relay h
      exact Relay.step_cacheStep hr' (by rintro _ _ _ rfl; cases hfree)
    | _ => exact (step_outside (by simp) h).1

/-- Filed channels stay mapped along a run if and only if every action unmaps only
channels that are filed nowhere else. -/
theorem always_cacheMapped_iff (E : RelayEnv) {actions : List CacheAction} {t : ReturnPath}
    (hf : f.relay.server.CacheMapped) (hrun : run (cacheStep E) f actions = some t) :
    Always (cacheStep E) (fun u => u.relay.server.CacheMapped) f actions ↔
      Guarded (cacheStep E) Unfiles f actions := by
  refine always_iff_guarded (I := fun u => u.relay.server.CacheMapped) (fun _ h => h) ?_ ?_ hf hrun
  · intro u a u' hu hguard hstep
    refine hu.step (cacheStep_spec hstep) fun id hid token htoken hfiled => ?_
    exact htoken (hguard id hid token (Server.mem_keys_of_cacheOf hfiled) hfiled)
  · intro u a u' _ hguard hstep
    simp only [Unfiles, not_forall] at hguard
    obtain ⟨id, hid, token, -, hfiled, htoken⟩ := hguard
    have hcache := cacheStep_spec hstep
    exact fun h => hcache.unmapped id hid (h token id (hcache.filed token htoken hfiled))

end ReturnPath

/-! ## Revocation -/

/-- The pump has returned, or looks for the buffer of its channel before it can
publish: it is told to stop when there is none. -/
def Pump.heeds (p : Pump) : Bool :=
  match p.pc with
  | .access | .loop | .failed | .leave | .cleanup | .done => true
  | .start => !p.request.resume
  | _ => false

/-- A pump that is told to stop goes on to stop. -/
theorem Pump.heeds_step {E : RelayEnv} {s : Server} {p : Pump} {label : PumpLabel} {m : PumpMove}
    (h : p.heeds = true) (hs : s.Gone p.request.channelID) (hstep : p.step E s label = some m) :
    m.pump.heeds = true := by
  have halive : s.pumpQueueAlive p.request.channelID = false := by
    rw [Server.pumpQueueAlive, AList.lookup_eq_none.mpr hs.unbuffered]
    rfl
  revert hstep
  fun_cases Pump.step E s p label <;> intro hstep
  case case13 => simp_all [Pump.heeds]
  all_goals cases hstep
  all_goals simp_all [Pump.heeds]

/-- All pumps of the channel stop. -/
def Relay.Stopped (r : Relay) (id : UUID) : Prop :=
  ∀ p ∈ r.pumps, p.request.channelID = id → p.heeds = true

/-- The channel stays stopped until it is asked for again. -/
theorem Relay.Stopped.step {E : RelayEnv} {r r' : Relay} {a : RelayAction} {id : UUID}
    (hstopped : r.Stopped id) (hgone : r.server.Gone id) (h : r.step E a = some r')
    (hspares : id ∉ r.arrivals E a) : r'.Stopped id := by
  intro q hq hid
  obtain ⟨m, hm⟩ := mem_iff_getElem?.mp hq
  cases step_origin h hm with
  | kept hp => exact hstopped q (mem_of_getElem? hp) hid
  | arrived session clientID request _ harrives =>
    refine absurd (mem_append_left _ ?_) hspares
    rw [harrives, ← hid]
    exact mem_singleton_self _
  | entered | joined | left => rfl
  | absorbed _ _ o _ _ _ _ ho => exact hstopped o (mem_of_getElem? ho) hid
  | moved p label move _ hp hmove =>
    rw [(Pump.step_spec hmove).request] at hid
    subst hid
    exact Pump.heeds_step (hstopped p (mem_of_getElem? hp) rfl) hgone hmove

namespace ReturnPath

variable {E : RelayEnv} {f f' : ReturnPath} {id : UUID}

/-- The channel is gone, return queue included, and its pumps stop. -/
structure TornDown (f : ReturnPath) (id : UUID) : Prop where
  gone : f.relay.server.Gone id
  returned : id ∉ f.returnQueues
  stopped : f.relay.Stopped id

/-- Nobody requests the channel or binds it, and no payload of it is buffered. -/
def Spares (E : RelayEnv) (id : UUID) (f : ReturnPath) : CacheAction → Prop
  | .path (.relay a) => id ∉ f.relay.arrivals E a
  | .path (.dispatch clientID _) => ∀ msg, f.dispatching.lookup clientID ≠ some (.buffer id msg)
  | .channelBind _ _ _ _ m => id ≠ m.channelID
  | _ => True

/-- A channel without a return queue gets one from a dispatcher only. -/
theorem returned_step {a : ReturnAction} (h : id ∉ f.returnQueues)
    (hspares : f.Spares E id (.path a)) (hstep : f.step E a = some f') : id ∉ f'.returnQueues := by
  have herase : ∀ channelID, id ∉ f.returnQueues.erase channelID :=
    fun channelID hid => h (AList.mem_erase.mp hid).2
  have hinsert : ∀ channelID queue queue', f.returnQueues.lookup channelID = some queue →
      id ∉ f.returnQueues.insert channelID queue' := by
    intro channelID queue queue' hqueue hid
    obtain rfl | hold := (AList.mem_insert _).mp hid
    · exact h (AList.lookup_isSome.mp (by rw [hqueue]; rfl))
    · exact h hold
  cases a with
  | relay a =>
    obtain ⟨-, r', -, rfl⟩ := step_relay hstep
    rw [follow]
    cases f.cleaned a with
    | none => exact h
    | some channelID => exact herase channelID
  | dispatch clientID ok =>
    obtain ⟨d, hd, rfl⟩ := Option.map_eq_some_iff.mp hstep
    cases d with
    | write channelID msg target => exact h
    | buffer channelID msg =>
      intro hid
      obtain rfl | hold := (AList.mem_insert _).mp hid
      · exact hspares msg hd
      · exact h hold
  | replay d ok =>
    obtain ⟨replay, -, rfl⟩ := Option.map_eq_some_iff.mp hstep
    fun_cases stepReplay f d ok replay
    case case2 queue hqueue => exact hinsert _ queue _ hqueue
    case case5 =>
      dsimp only
      split
      · exact h
      · exact hinsert _ _ _ ‹_›
    all_goals exact h
  | expireConnectorReturn channelID =>
    cases hstep
    dsimp only
    split_ifs
    · exact h
    · exact herase channelID
  | payload clientID msg =>
    obtain ⟨payload, -, -, rfl⟩ := step_payload hstep
    exact h
  | startRebind clientID =>
    obtain ⟨rebind, rfl⟩ := step_startRebind hstep
    exact h
  | rebind k =>
    obtain ⟨rebind, -, hloop⟩ := Option.bind_eq_some_iff.mp hstep
    obtain ⟨rebind', rfl⟩ | ⟨_, _, _, _, -, -, -, -, -, rfl⟩ := stepRebind_cases hloop <;> exact h
  | _ =>
    cases hstep
    exact h

theorem TornDown.not_added {a : CacheAction} (h : f.TornDown id) (hspares : f.Spares E id a) :
    id ∉ f.added E a := by
  revert hspares
  fun_cases added E f a <;> intro hspares
  case case1 a =>
    revert hspares
    fun_cases Relay.added E f.relay a <;> intro hspares
    case case1 n label =>
      cases hp : f.relay.pumps[n]? with
      | none => exact not_mem_nil
      | some p =>
        change id ∉ p.adds
        have hheeds := h.stopped p (mem_of_getElem? hp)
        rw [eq_comm] at hheeds
        fun_cases Pump.adds p <;> simp_all [Pump.heeds]
    case case2 => exact hspares
  case case2 => exact not_mem_nil
  case case3 => exact fun hid => hspares (mem_singleton.mp hid)

/-- What is torn down stays torn down as long as nothing comes for it. -/
theorem TornDown.step {a : CacheAction} (h : f.TornDown id) (hspares : f.Spares E id a)
    (hstep : f.cacheStep E a = some f') : f'.TornDown id := by
  have hgone := h.gone.step (cacheStep_spec hstep) (h.not_added hspares)
  cases a with
  | channelBind d order dispatcher ws m =>
    cases hstep
    exact ⟨hgone, h.returned, h.stopped⟩
  | path a =>
    change f.step E a = some f' at hstep
    refine ⟨hgone, returned_step h.returned hspares hstep, ?_⟩
    cases a with
    | relay a =>
      obtain ⟨-, r', hr', rfl⟩ := step_relay hstep
      exact h.stopped.step h.gone hr' hspares
    | _ =>
      rw [Relay.Stopped, (step_outside (by simp) hstep).2]
      exact h.stopped

/-! ### What a revocation finds -/

/-- The action removes a token, or cleans the channel up: the last step of a pump,
a disconnect, or the end of a grace window. -/
def Ends (f : ReturnPath) (id : UUID) (a : RelayAction) : Prop :=
  (∃ token, a = .removeToken token) ∨ f.cleaned a = some id

/-- The condition on a channel.  It is filed only under tokens that the action
takes out of the cache; the action unmaps it, unless it is in none of the maps; it
has no return queue, unless the action cleans it up; and its pumps will look for
its buffer before they publish. -/
structure Finds (f : ReturnPath) (a : RelayAction) (id : UUID) : Prop where
  filed : ∀ token, id ∈ f.relay.server.cacheOf token → token ∈ f.relay.uncached a
  reached : id ∈ f.relay.dropped a ∨ id ∉ f.relay.server.channelIDToConnector ∧
    id ∉ f.relay.server.channelIDToClient ∧ id ∉ f.relay.server.orphanQueues
  returned : id ∈ f.returnQueues → f.cleaned a = some id
  told : f.relay.Stopped id

variable {a : RelayAction} {r' : Relay}

/-- The actions that end channels unmap some, and the pump that cleans up is
done. -/
theorem Ends.step (h : f.Ends id a) (hstep : f.relay.step E a = some r') :
    f.relay.server.Unmaps (f.relay.dropped a) (f.relay.uncached a) r'.server ∧
    (r'.Stopped id ↔ f.relay.Stopped id) := by
  rcases h with ⟨token, rfl⟩ | hcleaned
  · cases hstep
    exact ⟨(f.relay.server.removeToken_forgets token).toUnmaps, Iff.rfl⟩
  cases a with
  | cleanupConnectorChannel channelID =>
    cases hstep
    exact ⟨f.relay.server.cleanupConnectorChannel_unmaps channelID, Iff.rfl⟩
  | pump n label =>
    obtain ⟨p, hp, hpc⟩ := Option.bind_eq_some_iff.mp hcleaned
    split_ifs at hpc with hcleans
    obtain ⟨q, hq, hcase⟩ := Relay.stepPump_spec hstep
    cases hp.symm.trans hq
    obtain ⟨hstart, -⟩ | ⟨hleave, -⟩ | ⟨m, hm, rfl⟩ := hcase
    · cases hcleans.symm.trans hstart
    · cases hcleans.symm.trans hleave
    obtain ⟨hworking, -⟩ | ⟨-, -, hdone, hserver⟩ := (Pump.step_course hm).pc
    · rw [hcleans] at hworking
      cases hworking
    have hdrops : f.relay.dropped (.pump n label) = [p.request.channelID] := by
      simp only [Relay.dropped, hp, Option.elim_some, Pump.drops, hcleans]
    rw [hdrops]
    refine ⟨?_, ?_, ?_⟩
    · change f.relay.server.Unmaps _ [] m.server
      rw [hserver]
      exact f.relay.server.cleanupConnectorChannel_unmaps _
    · intro hall q hq hid
      obtain ⟨i, hi⟩ := mem_iff_getElem?.mp hq
      by_cases hin : n = i
      · subst hin
        cases hp.symm.trans hi
        rw [Pump.heeds, hcleans]
      · exact hall q (mem_of_getElem? ((getElem?_set_ne hin).trans hi)) hid
    · intro hall q hq hid
      obtain hold | rfl := mem_or_eq_of_mem_set hq
      · exact hall q hold hid
      · rw [Pump.heeds, hdone]
  | _ => cases hcleaned

/-- After an action that ends channels, a channel is torn down if and only if the
action finds it. -/
theorem tornDown_iff_finds (h : f.Ends id a) (hstep : f.step E (.relay a) = some f') :
    f'.TornDown id ↔ f.Finds a id := by
  obtain ⟨-, r', hr', rfl⟩ := step_relay hstep
  obtain ⟨hunmaps, hstopped⟩ := h.step hr'
  have hreached : (¬ r'.server.IsMapped id ∧ id ∉ r'.server.orphanQueues) ↔
      id ∈ f.relay.dropped a ∨ id ∉ f.relay.server.channelIDToConnector ∧
        id ∉ f.relay.server.channelIDToClient ∧ id ∉ f.relay.server.orphanQueues := by
    rw [hunmaps.isMapped_iff, hunmaps.orphanQueues.mem_iff, Server.IsMapped]
    tauto
  have hfiled : (∀ token, id ∉ r'.server.cacheOf token) ↔
      ∀ token, id ∈ f.relay.server.cacheOf token → token ∈ f.relay.uncached a := by
    refine forall_congr' fun token => ?_
    rw [hunmaps.mem_cacheOf, not_and, not_imp_not]
  have hreturned : id ∉ (f.follow a r').returnQueues ↔
      (id ∈ f.returnQueues → f.cleaned a = some id) := by
    rw [follow]
    rcases h with ⟨token, rfl⟩ | hcleaned
    · simp [cleaned]
    · simp [hcleaned]
  constructor
  · rintro ⟨⟨hunmapped, hunbuffered, hunfiled⟩, hreturn, hstop⟩
    exact ⟨hfiled.mp hunfiled, hreached.mp ⟨hunmapped, hunbuffered⟩, hreturned.mp hreturn,
      hstopped.mp hstop⟩
  · rintro ⟨hfile, hreach, hreturn, htold⟩
    obtain ⟨hunmapped, hunbuffered⟩ := hreached.mpr hreach
    exact ⟨⟨hunmapped, hunbuffered, hfiled.mpr hfile⟩, hreturned.mpr hreturn, hstopped.mpr htold⟩

/-- In every run, the channels that are filed are mapped as long as no action
unmaps a channel that stays filed.  From a revocation on, or from the cleanup that
follows it, a channel is torn down for as long as nothing comes for it, if and only
if the action finds it. -/
theorem revocation_tears_down_iff (E : RelayEnv) {actions : List CacheAction}
    {t : ReturnPath} (hf : f.relay.server.tokenCache = ∅)
    (hrun : run (cacheStep E) f actions = some t) :
    (Always (cacheStep E) (fun u => u.relay.server.CacheMapped) f actions ↔
      Guarded (cacheStep E) Unfiles f actions) ∧
    ∀ id a t', t.Ends id a → t.step E (.relay a) = some t' →
      ((∀ later u, Guarded (cacheStep E) (Spares E id) t' later →
        run (cacheStep E) t' later = some u → u.TornDown id) ↔ t.Finds a id) := by
  have hempty : f.relay.server.CacheMapped := by
    intro token id hid
    rw [Server.cacheOf, hf] at hid
    cases hid
  refine ⟨always_cacheMapped_iff E hempty hrun, fun id a t' hends hstep => ?_⟩
  rw [← tornDown_iff_finds hends hstep]
  constructor
  · exact fun h => h [] t' trivial rfl
  · intro h later u hguard hlater
    exact run_invariant (I := (·.TornDown id)) (fun _ _ _ h => h.step) h hguard hlater

/-! ### A channel that is revoked -/

instance (f : ReturnPath) (a : RelayAction) (id : UUID) : Decidable (f.Finds a id) :=
  decidable_of_iff
    ((∀ t ∈ f.relay.server.tokenCache.keys, id ∈ f.relay.server.cacheOf t →
        t ∈ f.relay.uncached a) ∧
      (id ∈ f.relay.dropped a ∨ id ∉ f.relay.server.channelIDToConnector ∧
        id ∉ f.relay.server.channelIDToClient ∧ id ∉ f.relay.server.orphanQueues) ∧
      (id ∈ f.returnQueues → f.cleaned a = some id) ∧
      ∀ p ∈ f.relay.pumps, p.request.channelID = id → p.heeds = true)
    ⟨fun h => ⟨fun t ht => h.1 t (Server.mem_keys_of_cacheOf ht) ht, h.2.1, h.2.2.1, h.2.2.2⟩,
      fun h => ⟨fun t _ => h.filed t, h.reached, h.returned, h.told⟩⟩

end ReturnPath

/-- A connector requests a channel, and its pump looks for a provider.  The
connector token is removed; the connection ends, the pump finds no provider, and
leaves. -/
def waitingRun : List RelayAction :=
  [.authenticate 0 (uuidOf 2)
      (.frame (authFrame protocolVersionV1 (ascii "c") false)) (ascii "c"),
    .register (uuidOf 2), .receive (uuidOf 2) connectFrame true, .pump 0 .next,
    .pump 0 (.resolved none), .pump 0 .next, .pump 0 .next, .removeToken (ascii "c"),
    .disconnect (uuidOf 2), .pump 0 .next, .pump 0 .next, .pump 0 .next]

def pairPath : ReturnPath := returnPathOf (idleRelay pairRegistry protocolVersionV1) 0

def cacheActions (actions : List RelayAction) : List CacheAction :=
  actions.map fun a => .path (.relay a)

/-- The pump cleans up, and the channel, which still has its buffer, is gone for
good. -/
theorem waitingRun_torn_down :
    ∃ t t', run (ReturnPath.cacheStep relayEnv) pairPath (cacheActions waitingRun) = some t ∧
      Always (ReturnPath.cacheStep relayEnv) (fun u => u.relay.server.CacheMapped) pairPath
        (cacheActions waitingRun) ∧
      uuidOf 9 ∈ t.relay.server.orphanQueues ∧
      t.step relayEnv (.relay (.pump 0 .next)) = some t' ∧
      ∀ later u, Guarded (ReturnPath.cacheStep relayEnv) (ReturnPath.Spares relayEnv (uuidOf 9))
          t' later →
        run (ReturnPath.cacheStep relayEnv) t' later = some u → u.TornDown (uuidOf 9) := by
  obtain ⟨t, ht, hqueue, hcleans, hstep, hfound⟩ :
      ∃ t ∈ run (ReturnPath.cacheStep relayEnv) pairPath (cacheActions waitingRun),
        uuidOf 9 ∈ t.relay.server.orphanQueues ∧ t.cleaned (.pump 0 .next) = some (uuidOf 9) ∧
        (t.step relayEnv (.relay (.pump 0 .next))).isSome = true ∧
        t.Finds (.pump 0 .next) (uuidOf 9) := by
    decide +kernel
  have hguard : Guarded (ReturnPath.cacheStep relayEnv) ReturnPath.Unfiles pairPath
      (cacheActions waitingRun) := by
    decide +kernel
  obtain ⟨t', ht'⟩ := Option.isSome_iff_exists.mp hstep
  obtain ⟨hcache, hrevoke⟩ := ReturnPath.revocation_tears_down_iff relayEnv rfl ht
  exact ⟨t, t', ht, hcache.mpr hguard, hqueue, ht', (hrevoke _ _ t' (.inr hcleans) ht').mpr hfound⟩

/-- A channel is bound on a relay with a grace window, and is filed under the
reverse token.  When the connector token has been removed and the connection has
ended, the channel is still in both maps and filed, and its pump drains its open
buffer.  When it is dropped in the end, it is still filed. -/
theorem pairRun_leaves_channel :
    ∃ t ∈ run (ReturnPath.cacheStep graceEnv) pairPath
        (cacheActions (pairRun protocolVersionV1 connectFrame ++
          [.removeToken (ascii "c"), .disconnect (uuidOf 2)])),
      uuidOf 9 ∈ t.relay.server.channelIDToConnector ∧
      uuidOf 9 ∈ t.relay.server.channelIDToClient ∧ uuidOf 9 ∈ t.relay.server.cacheOf (ascii "r") ∧
      (∀ p ∈ t.relay.pumps, p.pc.attached = true ∧ p.request.channelID = uuidOf 9 ∧
        t.relay.server.orphanQueues.lookup (uuidOf 9) = some p.queue ∧
        (t.relay.server.queues[p.queue]?).any Queue.closed = false) ∧
      ∃ u ∈ t.cacheStep graceEnv (.path (.relay (.cleanupConnectorChannel (uuidOf 9)))),
        uuidOf 9 ∈ u.relay.server.cacheOf (ascii "r") ∧
        uuidOf 9 ∉ u.relay.server.channelIDToConnector ∧
        uuidOf 9 ∉ u.relay.server.channelIDToClient := by
  decide +kernel

end LinkSocks
