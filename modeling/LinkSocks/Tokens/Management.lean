import LinkSocks.Tokens.Integrity

/-!
# Connector tokens managed by clients

A reverse client whose token allows it may add and remove connector tokens of its
own internal token.  An addition is confined to these, but a removal goes to
`RemoveToken` with whatever string the client names.
-/

namespace LinkSocks

open Go TokenServer List AList

namespace TokenServer

variable (E : TokenEnv) (s : TokenServer)

/-! ## The handler -/

/-- `AllowManageConnector` of a token, if it has options: reverse tokens have
them. -/
def managePermission (token : GoString) : Option Bool :=
  if token ∈ s.manages then some true
  else if token ∈ s.registry.tokens then some false
  else none

/-- The loops of `handleConnectorMessage`, over the tokens in any order.  They end
at the first token that is not empty. -/
def scanClients (clientID : UUID) : List GoString → GoString × Bool → GoString × Bool
  | [], found => found
  | t :: rest, (token, hasPermission) =>
    if clientID ∈ s.clientsOf t then
      let hasPermission := (s.managePermission t).getD hasPermission
      if t ≠ [] then (t, hasPermission)
      else scanClients clientID rest (t, hasPermission)
    else scanClients clientID rest (token, hasPermission)

/-- `handleConnectorMessage`, with the response.  `RemoveToken` reports success
in every case. -/
def handleConnectorMessage (order : List GoString) (clientID : UUID)
    (m : ConnectorMessage) (generated : GoString) : ConnectorResponseMessage × TokenServer :=
  let (token, hasPermission) := s.scanClients clientID order ([], false)
  if !hasPermission then
    (⟨false, ascii "Unauthorized connector management attempt", m.channelID, []⟩, s)
  else if m.operation = opAdd then
    match s.addConnectorToken E m.connectorToken token generated with
    | (.error e, s) => (⟨false, ascii e, m.channelID, []⟩, s)
    | (.ok newToken, s) => (⟨true, [], m.channelID, newToken⟩, s)
  else if m.operation = opRemove then (⟨true, [], m.channelID, []⟩, s.removeToken m.connectorToken)
  else (⟨false, ascii "Unknown connector operation: " ++ m.operation, m.channelID, []⟩, s)

/-! ## Confinement -/

/-- The client is registered with the internal token `own`, and with no other,
and may manage connectors. -/
structure Manager (clientID : UUID) (own : GoString) : Prop where
  listed : clientID ∈ s.clientsOf own
  only : ∀ t, clientID ∈ s.clientsOf t → t = own
  permitted : own ∈ s.manages

/-- Of all tokens and their rules, only connector tokens of `own` are changed, and
only clients of these are disconnected. -/
structure Confined (own : GoString) (s s' : TokenServer) : Prop where
  forwardTokens : ∀ t, s'.registry.forwardTokens.lookup t = s.registry.forwardTokens.lookup t
  forwardRules : ∀ t, s'.forwardTokenAC.lookup t = s.forwardTokenAC.lookup t
  tokens : ∀ t, s'.registry.tokens.lookup t = s.registry.tokens.lookup t
  manages : ∀ t, s'.manages.lookup t = s.manages.lookup t
  internalTokens : ∀ t, s'.internalTokens.lookup t = s.internalTokens.lookup t
  connectorTokens : ∀ c r, r ≠ own →
    (s'.registry.connectorTokens.lookup c = some r ↔ s.registry.connectorTokens.lookup c = some r)
  connectorRules : ∀ c, s.registry.connectorTokens.lookup c ≠ some own →
    s'.registry.connectorTokenAC.lookup c = s.registry.connectorTokenAC.lookup c
  clients : ∀ id ∈ s.clients, id ∉ s'.clients →
    ∃ c, s.registry.connectorTokens.lookup c = some own ∧ id ∈ s.clientsOf c

/-- A removal of the token touches nothing but connector tokens of `own`. -/
def OwnConnector (own token : GoString) : Prop :=
  s.internalTokens.lookup token = none ∧
    (s.registry.connectorTokens.lookup token = some own ∨ s.tokenExists token = false)

instance (clientID : UUID) (own : GoString) : Decidable (s.Manager clientID own) :=
  decidable_of_iff
    (clientID ∈ s.clientsOf own ∧ (∀ t ∈ s.tokenClients.keys, clientID ∈ s.clientsOf t → t = own) ∧
      own ∈ s.manages)
    ⟨fun h => ⟨h.1, fun t ht => h.2.1 t (mem_keys_of_clientsOf ht) ht, h.2.2⟩,
      fun h => ⟨h.listed, fun t _ => h.only t, h.permitted⟩⟩

instance (own token : GoString) : Decidable (s.OwnConnector own token) :=
  inferInstanceAs (Decidable (_ ∧ (_ ∨ _)))

variable {E s} {s' : TokenServer} {clientID : UUID} {own token : GoString}

/-- The loops find the token of the client, in whatever order they go. -/
theorem Manager.scanClients (h : s.Manager clientID own) {order : List GoString}
    {found : GoString × Bool} (hfound : own ∈ order ∨ found = (own, true)) :
    s.scanClients clientID order found = (own, true) := by
  induction order generalizing found with
  | nil => exact hfound.resolve_left not_mem_nil
  | cons t rest ih =>
    rw [TokenServer.scanClients]
    by_cases ht : t = own
    · subst ht
      rw [if_pos h.listed, managePermission, if_pos h.permitted]
      split
      · rfl
      · exact ih (.inr rfl)
    · rw [if_neg fun hmem => ht (h.only t hmem)]
      exact ih (hfound.imp_left fun hmem => (mem_cons.mp hmem).resolve_left (Ne.symm ht))

theorem Manager.scanClients_perm (h : s.Manager clientID own) {order : List GoString}
    (horder : order.Perm s.tokenClients.keys) :
    s.scanClients clientID order ([], false) = (own, true) :=
  h.scanClients (.inl (horder.mem_iff.mpr (mem_keys_of_clientsOf h.listed)))

theorem Confined.refl (own : GoString) (s : TokenServer) : Confined own s s where
  forwardTokens _ := rfl
  forwardRules _ := rfl
  tokens _ := rfl
  manages _ := rfl
  internalTokens _ := rfl
  connectorTokens _ _ _ := .rfl
  connectorRules _ _ := rfl
  clients _ hid hnot := absurd hid hnot

theorem confined_addConnectorToken (generated : GoString) :
    Confined own s (s.addConnectorToken E token own generated).2 := by
  rw [addConnectorToken]
  split
  · exact .refl own s
  · generalize (if token = [] then generated else token) = chosen
    dsimp only
    split
    · exact .refl own s
    · split
      · split <;> exact .refl own s
      · rename_i hnone
        split
        · exact .refl own s
        · refine ⟨fun _ => rfl, fun _ => rfl, fun _ => rfl, fun _ => rfl, fun _ => rfl,
            fun c r hr => ?_, fun _ _ => rfl, fun _ hid hnot => absurd hid hnot⟩
          change (s.registry.connectorTokens.insert chosen own).lookup c = some r ↔ _
          by_cases hc : c = chosen
          · subst hc
            rw [hnone]
            simp [Ne.symm hr]
          · rw [lookup_insert_ne hc]

/-! ### Removals -/

theorem removeInternalTokens_of_none (h : s.internalTokens.lookup token = none) :
    s.removeInternalTokens token = { s with internalTokens := s.internalTokens.erase token } := by
  simp [removeInternalTokens, internalOf, h, closeClients, eraseAll]

theorem OwnConnector.confined (h : s.OwnConnector own token) :
    Confined own s (s.removeToken token) := by
  obtain ⟨hinternal, hkind⟩ := h
  have hsame := lookup_erase_of_none hinternal
  rw [removeToken, removeInternalTokens_of_none hinternal, removeBranch]
  rcases hkind with hconnector | hnone
  · have hdrops := Server.removeConnectorToken_drops
      { s.toServer with internalTokens := s.internalTokens.erase token } token
    rw [if_pos (by rw [hconnector]; rfl)]
    have hkept : ∀ c, s.registry.connectorTokens.lookup c ≠ some own → c ∉ [token] := by
      intro c hc hmem
      rw [mem_singleton.mp hmem] at hc
      exact hc hconnector
    constructor
    · simp only [removeConnectorToken, hdrops.registry, implies_true]
    · exact fun _ => rfl
    · simp only [removeConnectorToken, hdrops.registry, implies_true]
    · simp only [removeConnectorToken, hdrops.manages, implies_true]
    · simpa only [removeConnectorToken, hdrops.internalTokens] using hsame
    · intro c r hr
      simp only [removeConnectorToken, hdrops.registry]
      by_cases hc : c = token
      · rw [hc, lookup_eraseAll_of_mem (mem_singleton_self token), hconnector]
        simp [Ne.symm hr]
      · rw [lookup_eraseAll_of_not_mem (by simpa using hc)]
    · intro c hc
      simp only [removeConnectorToken, hdrops.registry, lookup_eraseAll_of_not_mem (hkept c hc)]
    · intro id hid hnot
      refine ⟨token, hconnector, ?_⟩
      by_contra hmem
      refine hnot (mem_closeClients.mpr ⟨hid, fun t ht => ?_⟩)
      rwa [mem_singleton.mp ht]
  · obtain ⟨hforward, htokens, hconnectors⟩ := not_mem_of_tokenExists hnone
    rw [if_neg (lookup_isSome.not.mpr hconnectors)]
    simp only [lookup_eq_none.mpr htokens, lookup_eq_none.mpr hforward]
    exact { Confined.refl own s with internalTokens := hsame }

theorem Confined.ownConnector (h : Confined own s (s.removeToken token)) :
    s.OwnConnector own token := by
  have hinternal : s.internalTokens.lookup token = none := by
    rw [← h.internalTokens, removeToken_internalTokens, lookup_erase]
  refine ⟨hinternal, ?_⟩
  rw [removeToken, removeInternalTokens_of_none hinternal, removeBranch] at h
  cases hconnector : s.registry.connectorTokens.lookup token with
  | some r =>
    left
    by_contra hr
    have hdrops := Server.removeConnectorToken_drops
      { s.toServer with internalTokens := s.internalTokens.erase token } token
    rw [if_pos (by rw [hconnector]; rfl)] at h
    have hafter := (h.connectorTokens token r fun heq => hr (by rw [heq])).mpr hconnector
    simp only [removeConnectorToken, hdrops.registry,
      lookup_eraseAll_of_mem (mem_singleton_self token)] at hafter
    cases hafter
  | none =>
    right
    rw [if_neg (by rw [hconnector]; exact Bool.false_ne_true)] at h
    rw [tokenExists, hconnector]
    cases hport : s.registry.tokens.lookup token with
    | some port =>
      simp only [hport] at h
      have hafter := h.tokens token
      rw [removeReverseToken_tokens, lookup_erase, hport] at hafter
      cases hafter
    | none =>
      simp only [hport] at h
      split at h
      · have hafter := h.forwardTokens token
        change (s.registry.forwardTokens.erase token).lookup token = _ at hafter
        rw [lookup_erase] at hafter
        rw [← hafter]
        rfl
      · rename_i hforward
        rw [Bool.eq_false_iff.mpr hforward]
        rfl

/-- Of the messages of a client that may manage connectors, exactly those are
confined to its own connector tokens that are not a removal of anything else. -/
theorem management_confined_iff (hmanager : s.Manager clientID own)
    {order : List GoString} (horder : order.Perm s.tokenClients.keys)
    (m : ConnectorMessage) (generated : GoString) :
    Confined own s (s.handleConnectorMessage E order clientID m generated).2 ↔
      (m.operation = opRemove → s.OwnConnector own m.connectorToken) := by
  rw [handleConnectorMessage, hmanager.scanClients_perm horder]
  simp only [Bool.not_true, Bool.false_eq_true, if_false]
  by_cases hadd : m.operation = opAdd
  · have hconfined : Confined own s (s.addConnectorToken E m.connectorToken own generated).2 :=
      confined_addConnectorToken generated
    rw [if_pos hadd]
    refine iff_of_true ?_ fun hremove => absurd (hadd.symm.trans hremove) (by decide)
    cases hcall : s.addConnectorToken E m.connectorToken own generated with
    | mk result s' =>
      rw [hcall] at hconfined
      cases result with
      | error e => exact hconfined
      | ok newToken => exact hconfined
  · rw [if_neg hadd]
    by_cases hremove : m.operation = opRemove
    · rw [if_pos hremove]
      exact ⟨fun h _ => h.ownConnector, fun h => (h hremove).confined⟩
    · rw [if_neg hremove]
      exact iff_of_true (.refl own s) fun h => absurd h hremove

/-! ### The token of a client -/

/-- No client is listed under two tokens. -/
def Single (s : TokenServer) : Prop := ∀ id t t', id ∈ s.clientsOf t → id ∈ s.clientsOf t' → t = t'

theorem Single.of_subset (h : s.Single)
    (hsubset : ∀ t, s'.clientsOf t ⊆ s.clientsOf t) : s'.Single :=
  fun id t t' ht ht' => h id t t' (hsubset t ht) (hsubset t' ht')

theorem removeToken_clientsOf_subset (token t : GoString) :
    (s.removeToken token).clientsOf t ⊆ s.clientsOf t := by
  have hdrops := s.removeToken_drops token
  by_cases ht : t ∈ s.goneTokens token
  · rw [hdrops.clientsOf_gone ht]
    exact nil_subset _
  · rw [hdrops.clientsOf ht]
    exact List.Subset.refl _

theorem cleanupConnection_clientsOf_subset (grace : Int) (internalToken t : GoString) :
    (s.cleanupConnection grace clientID internalToken).1.clientsOf t ⊆ s.clientsOf t := by
  rw [cleanupConnection]
  split
  · exact List.Subset.refl _
  · simp only [clientsOf, Server.cleanupConnection_lookup]
    split
    · exact map_subset _ filter_sublist.subset
    · exact List.Subset.refl _

theorem Single.register (h : s.Single) (hnew : ∀ t, clientID ∉ s.clientsOf t)
    {conn : Link} {auth : WSClientAuth} {internalToken : GoString} :
    (s.registerWebSocketClient clientID conn auth internalToken).Single := by
  intro id t t' ht ht'
  rw [mem_clientsOf_register] at ht ht'
  rcases ht with hold | ⟨rfl, rfl⟩ <;> rcases ht' with hold' | ⟨hid, rfl⟩
  · exact h id t t' hold hold'
  · exact absurd (hid ▸ hold) (hnew t)
  · exact absurd hold' (hnew t')
  · rfl

theorem Single.accept (h : s.Single) (hnew : ∀ t, clientID ∉ s.clientsOf t)
    {conn : Link} {auth : WSClientAuth} {candidate : GoString} {written : Bool} :
    (s.accept E clientID conn auth candidate written).Single := by
  obtain ⟨tasks, haccept⟩ := accept_cases (E := E) (s := s) clientID conn auth candidate written
  have hclients : ∀ t,
      clientsOf { (s.assignInternalToken auth candidate).2 with socksTasks := tasks } t =
        s.clientsOf t := assignInternalToken_clientsOf
  have hassign : Single { (s.assignInternalToken auth candidate).2 with socksTasks := tasks } :=
    h.of_subset fun t id hid => hclients t ▸ hid
  rw [haccept]
  cases written with
  | true => exact hassign.register fun t => (hclients t).symm ▸ hnew t
  | false => exact hassign.of_subset (cleanupConnection_clientsOf_subset _ _)

end TokenServer

namespace TokenHub

variable {E : TokenEnv} {s s' : TokenHub}

theorem single_step {a : TokenAction} (h : s.server.Single) (hstep : s.step E a = some s') :
    s'.server.Single := by
  cases a with
  | call c =>
    obtain ⟨hrandom, rfl⟩ := of_ite_some hstep
    rcases call_cases (E := E) hrandom with
      ⟨-, -, hclients, -⟩ | ⟨token, rfl⟩
    · refine h.of_subset fun t => ?_
      rw [TokenServer.clientsOf, hclients.tokenClients]
      exact List.Subset.refl _
    · exact h.of_subset (removeToken_clientsOf_subset token)
  | connect clientID conn credentials fresh written =>
    obtain ⟨hnew, ⟨rfl, -⟩ | ⟨auth, -, rfl⟩⟩ := step_connect hstep
    · exact h
    · exact h.accept (not_mem_clientsOf hnew)
  | disconnect clientID =>
    rw [step] at hstep
    split at hstep <;> cases hstep
    exact h.of_subset (cleanupConnection_clientsOf_subset _ _)

/-- In every state that is reached, a client that is listed under a token with the
permission is a manager: it is listed under no other, and the loops find this token in
whatever order they go. -/
theorem manager_of_listed {version : Link → UInt8} {pool : PortPool}
    {actions : List TokenAction} {clientID : UUID} {own : GoString}
    (hrun : run (step E) (start version pool) actions = some s)
    (hlisted : clientID ∈ s.server.clientsOf own) (hmanages : own ∈ s.server.manages) :
    s.server.Manager clientID own ∧ ∀ order : List GoString,
      order.Perm s.server.tokenClients.keys →
        s.server.scanClients clientID order ([], false) = (own, true) := by
  have hsingle : s.server.Single := run_preserves (I := fun s => s.server.Single)
      (fun _ _ _ => single_step) (fun _ _ _ h => nomatch h) hrun
  have hmanager : s.server.Manager clientID own :=
    ⟨hlisted, fun t ht => hsingle clientID t own ht hlisted, hmanages⟩
  exact ⟨hmanager, fun order horder => hmanager.scanClients_perm horder⟩

end TokenHub

/-! ## A removal of someone else's tokens -/

/-- A forward token, and two clients that may manage connectors.  The second has
a connector token, with a client. -/
def managersRun : List TokenAction :=
  [.call (.addForwardToken (ascii "f") [] none),
    .call (.addReverseToken ⟨autonomyToken, 0, true⟩ [] 0),
    .connect (uuidOf 1) 1 (.frame (helloFrame autonomyToken true 1)) UUID.nil true,
    .connect (uuidOf 2) 2 (.frame (helloFrame autonomyToken true 2)) UUID.nil true,
    .call (.addConnectorToken connectorToken (internalTokenOf 2) [] none),
    .connect (uuidOf 3) 3 (.frame (helloFrame connectorToken false 3)) UUID.nil true]

theorem managersRun_manager : ∃ s ∈ run (TokenHub.step tokenEnv) emptyHub managersRun,
    (uuidOf 1 ∈ s.server.clientsOf (internalTokenOf 1) ∧ internalTokenOf 1 ∈ s.server.manages) ∧
      s.server.Manager (uuidOf 1) (internalTokenOf 1) ∧
      s.server.scanClients (uuidOf 1) s.server.tokenClients.keys.reverse ([], false) =
        (internalTokenOf 1, true) :=
  exists_run_and_of (by decide +kernel) fun _ hrun h =>
    (TokenHub.manager_of_listed hrun h.1 h.2).imp_right (· _ (List.reverse_perm _))

/-- The server after a message of a client. -/
def TokenHub.managed (s : TokenHub) (clientID : UUID) (token : GoString) : TokenServer :=
  (s.server.handleConnectorMessage tokenEnv s.server.tokenClients.keys clientID
    ⟨UUID.nil, token, opRemove⟩ []).2

/-- The second client removes its own connector token. -/
theorem managersRun_confined : ∃ s ∈ run (TokenHub.step tokenEnv) emptyHub managersRun,
      s.server.Manager (uuidOf 2) (internalTokenOf 2) ∧
      s.server.OwnConnector (internalTokenOf 2) connectorToken ∧
      TokenServer.Confined (internalTokenOf 2) s.server (s.managed (uuidOf 2) connectorToken) := by
  obtain ⟨s, hrun, hmanager, hown⟩ : ∃ s ∈ run (TokenHub.step tokenEnv) emptyHub managersRun,
        s.server.Manager (uuidOf 2) (internalTokenOf 2) ∧
        s.server.OwnConnector (internalTokenOf 2) connectorToken := by
    decide +kernel
  exact ⟨s, hrun, hmanager, hown, (management_confined_iff hmanager
    (List.Perm.refl _) ⟨UUID.nil, connectorToken, opRemove⟩ []).mpr fun _ => hown⟩

/-- The first client removes a forward token, and the connector token of the
second together with its client. -/
theorem managersRun_unconfined : ∃ s ∈ run (TokenHub.step tokenEnv) emptyHub managersRun,
      s.server.Manager (uuidOf 1) (internalTokenOf 1) ∧
      ascii "f" ∈ s.server.registry.forwardTokens ∧
      ascii "f" ∉ (s.managed (uuidOf 1) (ascii "f")).registry.forwardTokens ∧
      s.server.registry.connectorTokens.lookup connectorToken = some (internalTokenOf 2) ∧
      connectorToken ∉ (s.managed (uuidOf 1) connectorToken).registry.connectorTokens ∧
      uuidOf 3 ∈ s.server.clients ∧ uuidOf 3 ∉ (s.managed (uuidOf 1) connectorToken).clients := by
  decide +kernel

end LinkSocks
