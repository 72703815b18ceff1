import LinkSocks.Tokens.Handshake

/-!
# Integrity of the token tables

Calls of the operator, handshakes and the ends of connections happen one after
another.  The three kinds of tokens stay apart, connector tokens belong to
reverse tokens and internal tokens to tokens that may manage connectors, as long
as two things are avoided: an internal token that is the name of a forward or
connector token, and the removal of a token whose internal tokens still have
connector tokens or internal tokens of their own.
-/

namespace LinkSocks

open Go TokenServer List Option AList

namespace TokenServer

/-- The tables of tokens fit together. -/
structure Integrity (s : TokenServer) : Prop where
  forward_reverse : ∀ t ∈ s.registry.forwardTokens, t ∉ s.registry.tokens
  forward_connector : ∀ t ∈ s.registry.forwardTokens, t ∉ s.registry.connectorTokens
  reverse_connector : ∀ t ∈ s.registry.tokens, t ∉ s.registry.connectorTokens
  target : ∀ c r, s.registry.connectorTokens.lookup c = some r → r ∈ s.registry.tokens
  owner : ∀ t i, i ∈ s.internalOf t → t ∈ s.registry.tokens ∧ t ∈ s.manages

/-- A registered client belongs to the token. -/
def Attached (s : TokenServer) (id : UUID) (token : GoString) : Prop :=
  id ∈ s.clients ∧ (s.clientMeta.lookup id = some token ∨ id ∈ s.clientsOf token)

instance (s : TokenServer) (id : UUID) (token : GoString) : Decidable (s.Attached id token) :=
  inferInstanceAs (Decidable (_ ∧ (_ ∨ _)))

/-- Registered clients are listed under their token, which exists. -/
structure Lodged (s : TokenServer) : Prop where
  listed : ∀ id token, id ∈ s.clients → s.clientMeta.lookup id = some token → id ∈ s.clientsOf token
  housed : ∀ id token, id ∈ s.clients → id ∈ s.clientsOf token → s.tokenExists token = true

def empty (version : Link → UInt8) (pool : PortPool) : TokenServer where
  version := version
  registry := ⟨∅, ∅, ∅, ∅, ∅⟩
  manages := ∅
  internalTokens := ∅
  tokenClients := ∅
  tokenIndexes := ∅
  clientMeta := ∅
  channelIDToClient := ∅
  channelIDToConnector := ∅
  tokenCache := ∅
  orphanQueues := ∅
  queues := []
  forwardTokenAC := ∅
  clients := ∅
  clientRole := ∅
  portPool := pool
  socksTasks := ∅

/-- The tokens that no client should belong to after a removal. -/
def revokedWith (s : TokenServer) (token : GoString) : List GoString :=
  (token :: s.internalOf token) ++ (token :: s.internalOf token).flatMap s.connectorsOf

def revokedBy (s : TokenServer) : TokenCall → List GoString
  | .removeToken token => s.revokedWith token
  | _ => []

/-- A handshake without anything in between.  If the response cannot be written,
the connection ends at once. -/
def accept (E : TokenEnv) (s : TokenServer) (clientID : UUID) (conn : Link)
    (auth : WSClientAuth) (candidate : GoString) (written : Bool) : TokenServer :=
  let (internalToken, s) := s.assignInternalToken auth candidate
  let s := if auth.roles.reverse then s.startReverseSocksServer auth.token else s
  if written then s.registerWebSocketClient clientID conn auth internalToken
  else (s.cleanupConnection E.transportGrace clientID internalToken).1

end TokenServer

/-! ## The machine -/

structure TokenHub where
  server : TokenServer
  /-- The running handlers and the internal tokens of their clients. -/
  handlers : GoMap UUID GoString
  /-- History: the tokens that no client should belong to, if the last action was
  a removal. -/
  revoked : List GoString

inductive TokenAction where
  | call (c : TokenCall)
  /-- A client connects; `fresh` is for an internal token, and `written` is
  whether the response can be written. -/
  | connect (clientID : UUID) (conn : Link) (credentials : Credentials)
      (fresh : UUID) (written : Bool)
  | disconnect (clientID : UUID)

namespace TokenHub

variable (E : TokenEnv)

def knows (s : TokenHub) (id : UUID) : Prop :=
  id ∈ s.handlers ∨ ∃ token ∈ s.server.tokenClients.keys, id ∈ s.server.clientsOf token

instance (s : TokenHub) (id : UUID) : Decidable (s.knows id) := inferInstanceAs (Decidable (_ ∨ _))

def authenticate (s : TokenHub) (credentials : Credentials) : Except String WSClientAuth :=
  authenticateWebSocketClient E.w E.lib E.versions s.server.registry credentials

def accept (s : TokenHub) (clientID : UUID) (conn : Link) (auth : WSClientAuth)
    (candidate : GoString) (written : Bool) : TokenHub where
  server := s.server.accept E clientID conn auth candidate written
  handlers :=
    if written then s.handlers.insert clientID (s.server.assignInternalToken auth candidate).1
    else s.handlers
  revoked := []

/-- Random tokens and identifiers are new ones. -/
def step (s : TokenHub) : TokenAction → Option TokenHub
  | .call c =>
    if ∀ generated ∈ c.random, s.server.tokenExists generated = false then
      some { s with
        server := s.server.call E c
        revoked := s.server.revokedBy c }
    else none
  | .connect clientID conn credentials fresh written =>
    if clientID = UUID.nil ∨ s.knows clientID then none
    else
      match s.authenticate E credentials with
      | .error _ => some { s with revoked := [] }
      | .ok auth => some (s.accept E clientID conn auth (credentials.internalToken E fresh) written)
  | .disconnect clientID =>
    match s.handlers.lookup clientID with
    | none => none
    | some token => some {
        server := (s.server.cleanupConnection E.transportGrace clientID token).1
        handlers := s.handlers.erase clientID
        revoked := [] }

def start (version : Link → UInt8) (pool : PortPool) : TokenHub := ⟨.empty version pool, ∅, []⟩

/-- What the tables and the clients should satisfy after every action. -/
structure Sound (s : TokenHub) : Prop where
  integrity : s.server.Integrity
  detached : ∀ token ∈ s.revoked, ∀ id, ¬ s.server.Attached id token

/-- The condition on one action.  An internal token is not a forward or connector
token, and a removal takes away no internal token that others depend on. -/
def Separate (s : TokenHub) : TokenAction → Prop
  | .call (.removeToken token) =>
    ∀ i ∈ s.server.internalOf token, s.server.connectorsOf i = [] ∧
      (i ≠ token → s.server.internalOf i = [])
  | .connect _ _ credentials fresh _ =>
    ∀ auth ∈ (s.authenticate E credentials).toOption, s.server.Assigns auth →
      credentials.internalToken E fresh ∉ s.server.registry.forwardTokens ∧
        credentials.internalToken E fresh ∉ s.server.registry.connectorTokens
  | _ => True

instance (s : TokenHub) : DecidablePred (s.Separate E) := by
  unfold Separate
  intro action
  dsimp only
  split <;> infer_instance

end TokenHub

/-! ## The end of a connection -/

theorem Server.cleanupConnection_lookup (s : Server) (clientID : UUID) (token t : GoString) :
    ((s.cleanupConnection clientID token).tokenClients.lookup t).getD [] =
      if t = token ∧ token ≠ [] then ((s.tokenClients.lookup t).getD []).filter (·.id ≠ clientID)
      else (s.tokenClients.lookup t).getD [] := by
  by_cases ht : t = token
  · subst ht
    fun_cases Server.cleanupConnection s clientID t
    case case1 s' hnone => simp [s', hnone]
    case case2 s' clients _ hempty => simp [s', hempty]
    all_goals simp_all
  · rw [if_neg fun h => ht h.1]
    fun_cases Server.cleanupConnection s clientID token
    case case3 => rw [lookup_erase_ne ht]
    case case4 => rw [lookup_insert_ne ht]
    all_goals rfl

/-! ## Calls that add a token -/

namespace TokenServer

variable {E : TokenEnv} {s s' : TokenServer} {token : GoString}

theorem not_mem_of_tokenExists (h : s.tokenExists token = false) :
    token ∉ s.registry.forwardTokens ∧ token ∉ s.registry.tokens ∧
      token ∉ s.registry.connectorTokens := by
  rw [Bool.eq_false_iff, ne_eq, tokenExists_iff, not_or, not_or] at h
  exact h

theorem SameClients.internalOf (h : s.SameClients s') (token : GoString) :
    s'.internalOf token = s.internalOf token := by
  rw [TokenServer.internalOf, h.internalTokens, TokenServer.internalOf]

theorem Integrity.adds (h : s.Integrity) (hclients : s.SameClients s')
    (hadds : s.Adds E token s') : s'.Integrity := by
  obtain ⟨hfr, hfc, hrc, htarget, howner⟩ := h
  cases hadds with
  | nothing hf ht hc hm hh =>
    constructor
    all_goals simp only [hf, ht, hc, hm, hclients.internalOf]
    all_goals assumption
  | forward hnew hf ht hc hm hh =>
    obtain ⟨-, hnewt, hnewc⟩ := not_mem_of_tokenExists hnew
    constructor
    · rw [hf, ht]
      exact disjoint_insert_left hnewt hfr
    · rw [hf, hc]
      exact disjoint_insert_left hnewc hfc
    all_goals simp only [ht, hc, hm, hclients.internalOf]
    all_goals assumption
  | reverse port hnew hport hf ht hc hm hh =>
    obtain ⟨hnewf, hnewt, hnewc⟩ := not_mem_of_tokenExists hnew
    constructor
    · rw [hf, ht]
      exact disjoint_insert_right hnewf hfr
    · rw [hf, hc]
      exact hfc
    · rw [ht, hc]
      exact disjoint_insert_left hnewc hrc
    · simp only [ht, hc, mem_insert]
      exact fun c r hr => .inr (htarget c r hr)
    · simp only [ht, hclients.internalOf, mem_insert]
      intro t i hi
      obtain ⟨hmem, hmanages⟩ := howner t i hi
      refine ⟨.inr hmem, ?_⟩
      -- the options of a token that is there already are left alone
      have hne : t ≠ token := fun heq => hnewt (heq ▸ hmem)
      rcases hm with hm | hm
      · rw [hm, mem_insert]
        exact .inr hmanages
      · rw [hm, mem_erase]
        exact ⟨hne, hmanages⟩
  | connector r hnew hr hf ht hc hm hh =>
    obtain ⟨hnewf, hnewt, -⟩ := not_mem_of_tokenExists hnew
    constructor
    · rw [hf, ht]
      exact hfr
    · rw [hf, hc]
      exact disjoint_insert_right hnewf hfc
    · rw [ht, hc]
      exact disjoint_insert_right hnewt hrc
    · simp only [ht, hc]
      intro c r' hlookup
      rcases lookup_insert_cases hlookup with ⟨-, rfl⟩ | ⟨-, hold⟩
      exacts [hr, htarget c r' hold]
    · simp only [ht, hm, hclients.internalOf]
      exact howner

theorem Adds.tokenExists (h : s.Adds E token s') {t : GoString}
    (ht : s.tokenExists t = true) : s'.tokenExists t = true := by
  rw [tokenExists_iff] at ht ⊢
  cases h with
  | nothing hf ht' hc hm hh => rwa [hf, ht', hc]
  | forward hnew hf ht' hc hm hh =>
    rw [hf, ht', hc, mem_insert]
    exact ht.imp_left .inr
  | reverse port hnew hport hf ht' hc hm hh =>
    rw [hf, ht', hc, mem_insert]
    exact ht.imp_right (Or.imp_left .inr)
  | connector r hnew hr hf ht' hc hm hh =>
    rw [hf, ht', hc, mem_insert]
    exact ht.imp_right (Or.imp_right .inr)

theorem Lodged.of_same (h : s.Lodged) (hclients : s'.clients = s.clients)
    (htokenClients : s'.tokenClients = s.tokenClients) (hmeta : s'.clientMeta = s.clientMeta)
    (hexists : ∀ t, s.tokenExists t = true → s'.tokenExists t = true) : s'.Lodged where
  listed := by
    intro id t
    rw [hclients, hmeta, clientsOf, htokenClients]
    exact h.listed id t
  housed := by
    intro id t
    rw [hclients, clientsOf, htokenClients]
    exact fun hid hmem => hexists t (h.housed id t hid hmem)

theorem Lodged.attached (h : s.Lodged) {id : UUID} (hattached : s.Attached id token) :
    id ∈ s.clientsOf token ∧ s.tokenExists token = true := by
  obtain ⟨hid, hmeta | hmem⟩ := hattached
  · have hmem := h.listed id token hid hmeta
    exact ⟨hmem, h.housed id token hid hmem⟩
  · exact ⟨hmem, h.housed id token hid hmem⟩

/-! ## Removal -/

theorem Lodged.removeToken (h : s.Lodged) (token : GoString) : (s.removeToken token).Lodged := by
  have hdrops := s.removeToken_drops token
  constructor
  · intro id t hid hmeta
    obtain ⟨hold, hgone⟩ := (hdrops.clients id).mp hid
    rw [hdrops.clientMeta] at hmeta
    have hmem := h.listed id t hold hmeta
    rwa [hdrops.clientsOf fun ht => hgone t ht hmem]
  · intro id t hid hmem
    by_cases ht : t ∈ s.goneTokens token
    · rw [hdrops.clientsOf_gone ht] at hmem
      cases hmem
    · rw [hdrops.clientsOf ht] at hmem
      rw [hdrops.tokenExists ht]
      exact h.housed id t ((hdrops.clients id).mp hid).1 hmem

/-- A client that was listed under a dropped token is not registered any more. -/
theorem Lodged.not_attached (h : s.Lodged) {gone : GoString} {id : UUID}
    (hgone : gone ∈ s.goneTokens token) : ¬ (s.removeToken token).Attached id gone := by
  have hdrops := s.removeToken_drops token
  intro hattached
  have hmem := ((h.removeToken token).attached hattached).1
  rw [hdrops.clientsOf_gone hgone] at hmem
  cases hmem

/-- A removal, if the internal tokens have no tokens of their own. -/
theorem Integrity.removeToken (h : s.Integrity)
    (hguard : ∀ i ∈ s.internalOf token, s.connectorsOf i = [] ∧ (i ≠ token → s.internalOf i = [])) :
    (s.removeToken token).Integrity := by
  have hdrops := s.removeToken_drops token
  constructor
  · exact fun t ht htokens => h.forward_reverse t (hdrops.forwardTokens.mem ht)
      (hdrops.tokens.mem htokens)
  · exact fun t ht hconn => h.forward_connector t (hdrops.forwardTokens.mem ht)
      (hdrops.connectorTokens.mem hconn)
  · exact fun t ht hconn => h.reverse_connector t (hdrops.tokens.mem ht)
      (hdrops.connectorTokens.mem hconn)
  · intro c r hr
    have hold := hdrops.connectorTokens.lookup hr
    have hinternal : r ∉ s.internalOf token := by
      intro hmem
      have hc := mem_connectorsOf.mpr hold
      rw [(hguard r hmem).1] at hc
      cases hc
    rw [← lookup_isSome, removeToken_target hr hinternal, lookup_isSome]
    exact h.target c r hold
  · intro t i hi
    have hne : t ≠ token := by
      rintro rfl
      rw [removeToken_internalOf_self] at hi
      cases hi
    rw [s.removeToken_internalOf_of_ne hne] at hi
    obtain ⟨htokens, hmanages⟩ := h.owner t i hi
    have hkept : t ∉ s.goneTokens token := by
      intro hgone
      rcases mem_goneTokens_cases hgone with hinternal | rfl | hconnector
      · rw [(hguard t hinternal).2 hne] at hi
        cases hi
      · exact hne rfl
      · exact h.reverse_connector t htokens
          (lookup_isSome.mp (by rw [mem_connectorsOf.mp hconnector]; rfl))
    rw [← lookup_isSome, ← lookup_isSome, hdrops.tokens.same hkept,
      (hdrops.manages t).resolve_right fun hgone => hkept hgone.1, lookup_isSome, lookup_isSome]
    exact ⟨htokens, hmanages⟩

/-- An internal token that others depend on leaves them without it. -/
theorem Integrity.not_removeToken (h : s.Integrity)
    (hguard : ¬ ∀ i ∈ s.internalOf token, s.connectorsOf i = [] ∧
      (i ≠ token → s.internalOf i = [])) : ¬ (s.removeToken token).Integrity := by
  intro hafter
  push Not at hguard
  obtain ⟨i, hi, hdepends⟩ := hguard
  have hgone := removeToken_internal hi
  by_cases hconnectors : s.connectorsOf i = []
  · obtain ⟨hne, hnested⟩ := hdepends hconnectors
    obtain ⟨j, hj⟩ := exists_mem_of_ne_nil _ hnested
    rw [← s.removeToken_internalOf_of_ne hne] at hj
    exact hgone (hafter.owner i j hj).1
  · obtain ⟨c, hc⟩ := exists_mem_of_ne_nil _ hconnectors
    have htoken := h.reverse_connector token (h.owner token i hi).1
    exact hgone (hafter.target c i
      (removeToken_connector_of_internal hi htoken (mem_connectorsOf.mp hc)))

/-- After a removal no client belongs to the token, to its internal tokens or to
their connector tokens. -/
theorem Integrity.detached (h : s.Integrity) (hlodged : s.Lodged)
    (hguard : ∀ i ∈ s.internalOf token, s.connectorsOf i = [] ∧ (i ≠ token → s.internalOf i = []))
    {t : GoString} (ht : t ∈ s.revokedWith token) (id : UUID) :
    ¬ (s.removeToken token).Attached id t := by
  have hself : ¬ (s.removeToken token).Attached id token := by
    intro hattached
    have hafter := ((hlodged.removeToken token).attached hattached).2
    have hexists := (s.removeToken_drops token).tokenExists_before hafter
    exact hlodged.not_attached (mem_goneTokens hexists) hattached
  rw [revokedWith, mem_append, mem_cons, mem_flatMap] at ht
  rcases ht with (rfl | hinternal) | ⟨r, hr, hc⟩
  · exact hself
  · exact hlodged.not_attached (s.internalOf_subset_goneTokens token hinternal)
  · rcases mem_cons.mp hr with rfl | hinternal
    · have htarget := h.target t r (mem_connectorsOf.mp hc)
      have hinternal : r ∉ s.internalOf r := by
        intro hmem
        rw [(hguard r hmem).1] at hc
        cases hc
      exact hlodged.not_attached (connectorsOf_subset_goneTokens htarget
        (h.reverse_connector r htarget) hinternal hc)
    · rw [(hguard r hinternal).1] at hc
      cases hc

/-! ## Handshakes -/

theorem accept_cases (clientID : UUID) (conn : Link) (auth : WSClientAuth)
    (candidate : GoString) (written : Bool) :
    ∃ tasks, s.accept E clientID conn auth candidate written =
      let s₁ : TokenServer := { (s.assignInternalToken auth candidate).2 with socksTasks := tasks }
      let internalToken := (s.assignInternalToken auth candidate).1
      if written then s₁.registerWebSocketClient clientID conn auth internalToken
      else (s₁.cleanupConnection E.transportGrace clientID internalToken).1 := by
  rw [accept]
  cases hreverse : auth.roles.reverse with
  | true =>
    obtain ⟨tasks, htasks⟩ :=
      (s.assignInternalToken auth candidate).2.startReverseSocksServer_eq auth.token
    exact ⟨tasks, by simp only [if_true, htasks]⟩
  | false => exact ⟨(s.assignInternalToken auth candidate).2.socksTasks, rfl⟩

theorem Integrity.of_same (h : s.Integrity) (hregistry : s'.registry = s.registry)
    (hmanages : s'.manages = s.manages)
    (hinternal : s'.internalTokens = s.internalTokens) : s'.Integrity := by
  obtain ⟨hfr, hfc, hrc, htarget, howner⟩ := h
  constructor
  all_goals simp only [internalOf, hregistry, hmanages, hinternal]
  all_goals assumption

section Accept

variable {auth : WSClientAuth} {candidate : GoString}

theorem mem_internalOf_addInternalToken {t i : GoString}
    (h : i ∈ { s with toServer := s.addInternalToken token candidate }.internalOf t) :
    t = token ∨ i ∈ s.internalOf t := by
  by_cases ht : t = token
  · exact .inl ht
  · right
    rwa [internalOf, Server.addInternalToken, lookup_insert_ne ht] at h

/-- An internal token that is of no other kind is assigned. -/
theorem Integrity.assignInternalToken (h : s.Integrity) (hadmits : s.registry.Admits auth)
    (hguard : s.Assigns auth → candidate ∉ s.registry.forwardTokens ∧
      candidate ∉ s.registry.connectorTokens) :
    (s.assignInternalToken auth candidate).2.Integrity := by
  by_cases hassigns : s.Assigns auth
  · obtain ⟨hforward, hconnector⟩ := hguard hassigns
    have hreverse := Registry.mem_tokens_of_isReverse (hadmits.reverse hassigns.1)
    rw [assignInternalToken_of_assigns hassigns]
    constructor
    · exact disjoint_insert_right hforward h.forward_reverse
    · exact h.forward_connector
    · exact disjoint_insert_left hconnector h.reverse_connector
    · exact fun c r hr => (mem_insert _).mpr (.inr (h.target c r hr))
    · intro t i hi
      have howner : t ∈ s.registry.tokens ∧ t ∈ s.manages := by
        rcases mem_internalOf_addInternalToken hi with rfl | hold
        exacts [⟨hreverse, hassigns.2⟩, h.owner t i hold]
      exact ⟨(mem_insert _).mpr (.inr howner.1), (mem_insert _).mpr (.inr howner.2)⟩
  · rw [assignInternalToken_of_not hassigns]
    exact h

/-- One that is of another kind breaks the tables. -/
theorem not_integrity_assignInternalToken (hassigns : s.Assigns auth)
    (hguard : ¬ (candidate ∉ s.registry.forwardTokens ∧ candidate ∉ s.registry.connectorTokens)) :
    ¬ (s.assignInternalToken auth candidate).2.Integrity := by
  rw [assignInternalToken_of_assigns hassigns]
  intro h
  have hreverse : candidate ∈ s.registry.tokens.insert candidate (-1) :=
    (mem_insert _).mpr (.inl rfl)
  exact hguard ⟨fun hforward => h.forward_reverse candidate hforward hreverse,
    h.reverse_connector candidate hreverse⟩

theorem Lodged.assignInternalToken (h : s.Lodged) :
    (s.assignInternalToken auth candidate).2.Lodged := by
  by_cases hassigns : s.Assigns auth
  · rw [assignInternalToken_of_assigns hassigns]
    refine h.of_same rfl rfl rfl fun t ht => ?_
    rw [tokenExists_iff] at ht ⊢
    exact ht.imp_right (Or.imp_left fun hmem => (mem_insert _).mpr (.inr hmem))
  · rw [assignInternalToken_of_not hassigns]
    exact h

theorem tokenExists_assignInternalToken (h : s.tokenExists auth.token = true) :
    (s.assignInternalToken auth candidate).2.tokenExists
      (s.assignInternalToken auth candidate).1 = true := by
  by_cases hassigns : s.Assigns auth
  · rw [assignInternalToken_of_assigns hassigns, tokenExists_iff]
    exact .inr (.inl ((mem_insert _).mpr (.inl rfl)))
  · rw [assignInternalToken_of_not hassigns]
    exact h

theorem assignInternalToken_clientsOf (t : GoString) :
    (s.assignInternalToken auth candidate).2.clientsOf t = s.clientsOf t := by
  by_cases hassigns : s.Assigns auth
  · rw [assignInternalToken_of_assigns hassigns]
    rfl
  · rw [assignInternalToken_of_not hassigns]

end Accept

section Clients

variable {id clientID : UUID} {conn : Link} {auth : WSClientAuth}
  {internalToken t : GoString}

theorem mem_clientsOf_register :
    id ∈ (s.registerWebSocketClient clientID conn auth internalToken).clientsOf t ↔
      id ∈ s.clientsOf t ∨ id = clientID ∧ t = internalToken := by
  by_cases ht : t = internalToken
  · subst ht
    simp [registerWebSocketClient, Server.registerWebSocketClient, clientsOf]
  · simp [registerWebSocketClient, Server.registerWebSocketClient, clientsOf, ht,
      lookup_insert_ne ht]

theorem Lodged.register (h : s.Lodged) (hnew : ∀ t, clientID ∉ s.clientsOf t)
    (hexists : s.tokenExists internalToken = true) :
    (s.registerWebSocketClient clientID conn auth internalToken).Lodged := by
  constructor
  · intro id t hid hmeta
    rw [mem_clientsOf_register]
    rcases lookup_insert_cases hmeta with ⟨rfl, rfl⟩ | ⟨hne, hold⟩
    · exact .inr ⟨rfl, rfl⟩
    · have hclient := ((mem_insert _).mp hid).resolve_left hne
      exact .inl (h.listed id t hclient hold)
  · intro id t hid hmem
    rw [mem_clientsOf_register] at hmem
    rcases hmem with hold | ⟨-, rfl⟩
    · have hne : id ≠ clientID := fun heq => hnew t (heq ▸ hold)
      exact h.housed id t (((mem_insert _).mp hid).resolve_left hne) hold
    · exact hexists

theorem cleanupConnection_tables (grace : Int) (s : TokenServer) (clientID : UUID) (t : GoString) :
    (s.cleanupConnection grace clientID t).1.registry = s.registry ∧
      (s.cleanupConnection grace clientID t).1.manages = s.manages ∧
      (s.cleanupConnection grace clientID t).1.internalTokens = s.internalTokens := by
  rw [cleanupConnection]
  split
  · exact ⟨rfl, rfl, rfl⟩
  · obtain ⟨_, _, hcleanup⟩ := s.toServer.cleanupConnection_eq clientID t
    simp only [hcleanup, and_self]

theorem cleanupConnection_tokenExists (grace : Int) (s : TokenServer) (clientID : UUID)
    (t x : GoString) :
    (s.cleanupConnection grace clientID t).1.tokenExists x = s.tokenExists x := by
  rw [tokenExists, (cleanupConnection_tables grace s clientID t).1, tokenExists]

theorem cleanupConnection_internalOf (grace : Int) (s : TokenServer) (clientID : UUID)
    (t x : GoString) : (s.cleanupConnection grace clientID t).1.internalOf x = s.internalOf x := by
  rw [internalOf, (cleanupConnection_tables grace s clientID t).2.2, internalOf]

theorem mem_clientsOf_cleanup {grace : Int} (hne : id ≠ clientID) :
    id ∈ (s.cleanupConnection grace clientID internalToken).1.clientsOf t ↔ id ∈ s.clientsOf t := by
  rw [cleanupConnection]
  split
  · rfl
  · simp only [clientsOf, Server.cleanupConnection_lookup]
    split
    · simp only [List.mem_map, List.mem_filter, decide_eq_true_eq]
      constructor
      · rintro ⟨c, ⟨hc, -⟩, rfl⟩
        exact ⟨c, hc, rfl⟩
      · rintro ⟨c, hc, rfl⟩
        exact ⟨c, ⟨hc, hne⟩, rfl⟩
    · rfl

theorem Lodged.cleanup (h : s.Lodged) (grace : Int) (clientID : UUID) (internalToken : GoString) :
    (s.cleanupConnection grace clientID internalToken).1.Lodged := by
  by_cases hnil : clientID = UUID.nil
  · rw [cleanupConnection, if_pos hnil]
    exact h
  have hclients : ∀ id, id ∈ (s.cleanupConnection grace clientID internalToken).1.clients →
      id ≠ clientID ∧ id ∈ s.clients := by
    intro id hid
    rw [cleanupConnection, if_neg hnil] at hid
    exact mem_erase.mp hid
  constructor
  · intro id t hid hmeta
    obtain ⟨hne, hold⟩ := hclients id hid
    rw [mem_clientsOf_cleanup hne]
    rw [cleanupConnection, if_neg hnil] at hmeta
    obtain ⟨_, _, hcleanup⟩ := s.toServer.cleanupConnection_eq clientID internalToken
    refine h.listed id t hold ?_
    rwa [hcleanup, lookup_erase_ne hne] at hmeta
  · intro id t hid hmem
    obtain ⟨hne, hold⟩ := hclients id hid
    rw [mem_clientsOf_cleanup hne] at hmem
    rw [cleanupConnection_tokenExists]
    exact h.housed id t hold hmem

end Clients

/-! ## The handshake as a whole -/

variable {clientID : UUID} {conn : Link} {auth : WSClientAuth} {candidate : GoString}
  {written : Bool}

/-- Of the tables of tokens, only those that `assignInternalToken` changes are
changed. -/
theorem accept_tables (s : TokenServer) (clientID : UUID) (conn : Link)
    (auth : WSClientAuth) (candidate : GoString) (written : Bool) :
    (s.accept E clientID conn auth candidate written).registry =
        (s.assignInternalToken auth candidate).2.registry ∧
      (s.accept E clientID conn auth candidate written).manages =
        (s.assignInternalToken auth candidate).2.manages ∧
      (s.accept E clientID conn auth candidate written).internalTokens =
        (s.assignInternalToken auth candidate).2.internalTokens := by
  obtain ⟨tasks, haccept⟩ := accept_cases (E := E) (s := s) clientID conn auth candidate written
  rw [haccept]
  cases written with
  | true => exact ⟨rfl, rfl, rfl⟩
  | false => exact cleanupConnection_tables _ _ _ _

theorem Lodged.accept (h : s.Lodged) (hadmits : s.registry.Admits auth)
    (hnew : ∀ t, clientID ∉ s.clientsOf t) :
    (s.accept E clientID conn auth candidate written).Lodged := by
  obtain ⟨tasks, haccept⟩ := accept_cases (E := E) (s := s) clientID conn auth candidate written
  have hassign : Lodged { (s.assignInternalToken auth candidate).2 with socksTasks := tasks } :=
    h.assignInternalToken.of_same rfl rfl rfl fun _ ht => ht
  rw [haccept]
  cases written with
  | true =>
    refine hassign.register (fun t => ?_)
      (tokenExists_assignInternalToken (tokenExists_of_admits hadmits))
    change clientID ∉ (s.assignInternalToken auth candidate).2.clientsOf t
    rw [assignInternalToken_clientsOf]
    exact hnew t
  | false => exact hassign.cleanup _ _ _

end TokenServer

/-! ## Runs -/

namespace TokenHub

variable {E : TokenEnv} {s s' : TokenHub}

structure Kept (s : TokenHub) : Prop extends s.Sound where
  lodged : s.server.Lodged

theorem not_mem_clientsOf {id : UUID} (h : ¬ s.knows id) (t : GoString) :
    id ∉ s.server.clientsOf t := fun hmem => h (.inr ⟨t, mem_keys_of_clientsOf hmem, hmem⟩)

theorem Kept.call (h : s.Kept) {c : TokenCall} (hguard : s.Separate E (.call c))
    (hstep : s.step E (.call c) = some s') : s'.Kept := by
  obtain ⟨hrandom, rfl⟩ := of_ite_some hstep
  rcases call_cases (E := E) hrandom with
    ⟨token, hadded, hclients, hadds⟩ | ⟨token, rfl⟩
  · refine ⟨⟨h.integrity.adds hclients hadds, ?_⟩, h.lodged.of_same hclients.clients
      hclients.tokenClients hclients.clientMeta fun _ => hadds.tokenExists⟩
    cases c with
    | removeToken t => cases hadded
    | _ => exact fun _ ht => nomatch ht
  · exact ⟨⟨h.integrity.removeToken hguard,
      fun t ht id => h.integrity.detached h.lodged hguard ht id⟩, h.lodged.removeToken token⟩

variable {clientID fresh : UUID} {conn : Link} {credentials : Credentials} {written : Bool}
  {a : TokenAction}

/-- A client is refused, or accepted as its credentials say. -/
theorem step_connect
    (hstep : s.step E (.connect clientID conn credentials fresh written) = some s') :
    ¬ s.knows clientID ∧
      (s' = { s with revoked := [] } ∧ (s.authenticate E credentials).toOption = none ∨
        ∃ auth, s.authenticate E credentials = .ok auth ∧
          s' = s.accept E clientID conn auth (credentials.internalToken E fresh) written) := by
  rw [step] at hstep
  split at hstep
  · cases hstep
  · rename_i hnew
    refine ⟨fun hknows => hnew (.inr hknows), ?_⟩
    cases hauth : s.authenticate E credentials with
    | error e =>
      rw [hauth] at hstep
      exact .inl ⟨(some.inj hstep).symm, rfl⟩
    | ok auth =>
      rw [hauth] at hstep
      exact .inr ⟨auth, rfl, (some.inj hstep).symm⟩

theorem Kept.connect (h : s.Kept)
    (hguard : s.Separate E (.connect clientID conn credentials fresh written))
    (hstep : s.step E (.connect clientID conn credentials fresh written) = some s') : s'.Kept := by
  obtain ⟨hnew, ⟨rfl, -⟩ | ⟨auth, hauth, rfl⟩⟩ := step_connect hstep
  · exact ⟨⟨h.integrity, fun _ ht => nomatch ht⟩, h.lodged⟩
  · have hadmits := authenticateWebSocketClient_admits hauth
    have hassign := h.integrity.assignInternalToken hadmits (hguard auth (by rw [hauth]; rfl))
    obtain ⟨hregistry, hmanages, hinternal⟩ := accept_tables (E := E)
      s.server clientID conn auth (credentials.internalToken E fresh) written
    exact ⟨⟨hassign.of_same hregistry hmanages hinternal, fun _ ht => nomatch ht⟩,
      h.lodged.accept hadmits (not_mem_clientsOf hnew)⟩

theorem Kept.disconnect (h : s.Kept)
    (hstep : s.step E (.disconnect clientID) = some s') : s'.Kept := by
  rw [step] at hstep
  split at hstep <;> cases hstep
  rename_i token htoken
  obtain ⟨hregistry, hmanages, hinternal⟩ :=
    cleanupConnection_tables E.transportGrace s.server clientID token
  exact ⟨⟨h.integrity.of_same hregistry hmanages hinternal, fun _ ht => nomatch ht⟩,
    h.lodged.cleanup _ _ _⟩

/-- Every action that keeps the kinds of tokens apart. -/
theorem Kept.step (h : s.Kept) (hguard : s.Separate E a)
    (hstep : s.step E a = some s') : s'.Kept := by
  cases a with
  | call c => exact h.call hguard hstep
  | connect clientID conn credentials fresh written => exact h.connect hguard hstep
  | disconnect clientID => exact h.disconnect hstep

/-- Every other action breaks the tables. -/
theorem Kept.not_sound (h : s.Kept) (hguard : ¬ s.Separate E a)
    (hstep : s.step E a = some s') : ¬ s'.Sound := by
  intro hsound
  have hintegrity := hsound.integrity
  match a with
  | .call (.removeToken token) =>
    cases hstep
    exact h.integrity.not_removeToken hguard hintegrity
  | .connect clientID conn credentials fresh written =>
    obtain ⟨-, ⟨-, hnone⟩ | ⟨auth, hauth, rfl⟩⟩ := step_connect hstep
    · refine hguard fun auth hmem => ?_
      rw [hnone] at hmem
      cases hmem
    · refine hguard fun auth' hmem hassigns => ?_
      rw [hauth] at hmem
      cases hmem
      obtain ⟨hregistry, hmanages, hinternal⟩ := accept_tables (E := E)
        s.server clientID conn auth (credentials.internalToken E fresh) written
      by_contra hkind
      exact not_integrity_assignInternalToken hassigns hkind
        (hintegrity.of_same hregistry.symm hmanages.symm hinternal.symm)
  | .call (.addForwardToken ..) | .call (.addReverseToken ..)
  | .call (.addConnectorToken ..) | .disconnect _ => exact hguard trivial

theorem start_kept (version : Link → UInt8) (pool : PortPool) : (start version pool).Kept where
  integrity := by
    constructor
    · exact fun _ h => (notMem_empty _ h).elim
    · exact fun _ h => (notMem_empty _ h).elim
    · exact fun _ h => (notMem_empty _ h).elim
    · exact fun _ _ h => nomatch h
    · exact fun _ _ h => nomatch h
  detached := fun _ h => nomatch h
  lodged := ⟨fun _ _ h => (notMem_empty _ h).elim, fun _ _ h => (notMem_empty _ h).elim⟩

/-- From an empty server, the tables fit together and removed tokens have no
clients after every action, if and only if no internal token has the name of a
forward or connector token and no removal takes away an internal token that
others depend on. -/
theorem integrity_iff {version : Link → UInt8} {pool : PortPool}
    {actions : List TokenAction} {t : TokenHub}
    (hrun : run (step E) (start version pool) actions = some t) :
    Always (step E) Sound (start version pool) actions ↔
      Guarded (step E) (Separate E) (start version pool) actions :=
  always_iff_guarded (fun _ h => h.toSound) (fun _ _ _ h => h.step)
    (fun _ _ _ h => h.not_sound) (start_kept version pool) hrun

end TokenHub

/-! ## Names that clash and tokens that are left behind -/

/-- A hash that tells short texts apart. -/
def paddedSha256 : Sha256 where
  sum text := (text ++ List.replicate 32 0).take 32
  length_sum text := by simp

def tokenEnv : TokenEnv where
  w := .bits64
  lib := plainLib
  versions := noVersions
  sha256 := paddedSha256
  transportGrace := 0
  startsProxies := false

def emptyHub : TokenHub := .start (fun _ => protocolVersionV1) ⟨[], []⟩

/-- A token that may manage connectors. -/
def autonomyToken : GoString := ascii "auto"

def connectorToken : GoString := ascii "connector"

/-- The internal token of a client whose instance is made of `b`. -/
def internalTokenOf (b : UInt8) : GoString := plainLib.uuid.string (uuidOf b)

/-- The first frame of a client, with its instance. -/
def helloFrame (token : GoString) (reverse : Bool) (b : UInt8) : Bytes :=
  [protocolVersionV1, binaryTypeAuth, UInt8.ofNat token.length] ++ token ++
    [boolToByte reverse] ++ (uuidOf b).bytes

/-- A client that may manage connectors gets a connector token, and a client
connects with that. -/
def managedRun : List TokenAction :=
  [.call (.addReverseToken ⟨autonomyToken, 0, true⟩ [] 0),
    .connect (uuidOf 1) 1 (.frame (helloFrame autonomyToken true 7)) UUID.nil true,
    .call (.addConnectorToken connectorToken (internalTokenOf 7) [] none),
    .connect (uuidOf 2) 2 (.frame (helloFrame connectorToken false 8)) UUID.nil true]

/-- The connector token is removed before the token that it depends on. -/
def orderlyRun : List TokenAction :=
  managedRun ++ [.call (.removeToken connectorToken), .disconnect (uuidOf 2),
    .call (.removeToken autonomyToken)]

theorem orderlyRun_sound :
    Guarded (TokenHub.step tokenEnv) (TokenHub.Separate tokenEnv) emptyHub orderlyRun ∧
    Always (TokenHub.step tokenEnv) TokenHub.Sound emptyHub orderlyRun := by
  refine ⟨?guard, of_run_isSome ?_ fun _ hrun => (TokenHub.integrity_iff hrun).mpr ?guard⟩
  all_goals decide +kernel

/-- If the token is removed first, the connector token belongs to nothing and
its client stays.  And a client that names a forward token as its instance makes
it a reverse token as well. -/
theorem managedRun_unsound : (∃ s ∈ run (TokenHub.step tokenEnv) emptyHub
        (managedRun ++ [.call (.removeToken autonomyToken)]),
      s.server.registry.connectorTokens.lookup connectorToken = some (internalTokenOf 7) ∧
      internalTokenOf 7 ∉ s.server.registry.tokens ∧
      connectorToken ∈ s.revoked ∧ s.server.Attached (uuidOf 2) connectorToken) ∧
    (∃ s ∈ run (TokenHub.step tokenEnv) emptyHub
        [.call (.addForwardToken (internalTokenOf 7) [] none),
          .call (.addReverseToken ⟨autonomyToken, 0, true⟩ [] 0),
          .connect (uuidOf 1) 1 (.frame (helloFrame autonomyToken true 7)) UUID.nil true],
      internalTokenOf 7 ∈ s.server.registry.forwardTokens ∧
      internalTokenOf 7 ∈ s.server.registry.tokens) := by
  decide +kernel

end LinkSocks
