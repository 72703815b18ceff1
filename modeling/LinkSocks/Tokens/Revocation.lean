import LinkSocks.Tokens.Integrity

/-!
# Handshakes and removals at the same time

A handshake looks its token up and registers its client under locks of their
own, with a write to the client in between.  A removal that falls between the
two finds no client to disconnect, and the client is registered all the same.
Without such removals, a removed token has no clients until it is added again.
-/

namespace LinkSocks

open Go TokenServer List AList

/-! ## The machine -/

/-- How far a handler has come.  Before the assignment it has the internal token
that the client would get, afterwards the one it has. -/
inductive Handshake where
  | validated (auth : WSClientAuth) (candidate : GoString)
  | checked (auth : WSClientAuth) (candidate : GoString)
  | assigned (auth : WSClientAuth) (internalToken : GoString)
  | started (auth : WSClientAuth) (internalToken : GoString)
  | registered (auth : WSClientAuth) (internalToken : GoString)

/-- The token that a handshake relies on until the client is registered. -/
def Handshake.reliesOn : Handshake → List GoString
  | .validated auth _ | .checked auth _ => [auth.token]
  | .assigned _ internalToken | .started _ internalToken => [internalToken]
  | .registered .. => []

structure Admission where
  server : TokenServer
  handshakes : GoMap UUID Handshake
  /-- History: the tokens that have been removed and not added again. -/
  revoked : List GoString

inductive AdmissionAction where
  | call (c : TokenCall)
  /-- The lookup of the token, with an identifier for the client and one for its
  internal token. -/
  | validate (clientID : UUID) (credentials : Credentials) (fresh : UUID)
  | checkRules (clientID : UUID)
  | assignInternalToken (clientID : UUID)
  | startReverseSocksServer (clientID : UUID)
  | register (clientID : UUID) (conn : Link) (written : Bool)
  | disconnect (clientID : UUID)

namespace Admission

variable (E : TokenEnv)

/-- The removed tokens after a call. -/
def revokedAfter (s : Admission) (c : TokenCall) : List GoString :=
  match c with
  | .removeToken token => token :: s.revoked
  | _ => s.revoked.filter fun token =>
    c.added = some token → (s.server.call E c).tokenExists token = false

def cleanup (s : Admission) (clientID : UUID) (internalToken : GoString) : Admission :=
  { s with
    server := (s.server.cleanupConnection E.transportGrace clientID internalToken).1
    handshakes := s.handshakes.erase clientID }

/-- The next part of the handshake of a client. -/
def advance (s : Admission) (clientID : UUID) (server : TokenServer)
    (handshake : Handshake) : Admission :=
  { s with server, handshakes := s.handshakes.insert clientID handshake }

/-- Random tokens and identifiers are new ones. -/
def step (s : Admission) : AdmissionAction → Option Admission
  | .call c =>
    if ∀ generated ∈ c.random, s.server.tokenExists generated = false then
      some { s with server := s.server.call E c, revoked := s.revokedAfter E c }
    else none
  | .validate clientID credentials fresh =>
    if clientID = UUID.nil ∨ clientID ∈ s.handshakes ∨ clientID ∈ s.server.clients then none
    else
      match validateToken E.w E.lib E.versions s.server.registry credentials with
      | .error _ => some s
      | .ok auth =>
        some (s.advance clientID s.server (.validated auth (credentials.internalToken E fresh)))
  | .checkRules clientID =>
    match s.handshakes.lookup clientID with
    | some (.validated auth candidate) =>
      match refuseSealedConnector s.server.registry auth with
      | .error _ => some { s with handshakes := s.handshakes.erase clientID }
      | .ok auth => some (s.advance clientID s.server (.checked auth candidate))
    | _ => none
  | .assignInternalToken clientID =>
    match s.handshakes.lookup clientID with
    | some (.checked auth candidate) =>
      let assigned := s.server.assignInternalToken auth candidate
      some (s.advance clientID assigned.2 (.assigned auth assigned.1))
    | _ => none
  | .startReverseSocksServer clientID =>
    match s.handshakes.lookup clientID with
    | some (.assigned auth internalToken) =>
      let server :=
        if auth.roles.reverse then s.server.startReverseSocksServer auth.token
        else s.server
      some (s.advance clientID server (.started auth internalToken))
    | _ => none
  | .register clientID conn written =>
    match s.handshakes.lookup clientID with
    | some (.started auth internalToken) =>
      if written then
        some (s.advance clientID
          (s.server.registerWebSocketClient clientID conn auth internalToken)
          (.registered auth internalToken))
      else some (s.cleanup E clientID internalToken)
    | _ => none
  | .disconnect clientID =>
    match s.handshakes.lookup clientID with
    | some (.registered _ internalToken) => some (s.cleanup E clientID internalToken)
    | _ => none

def start (version : Link → UInt8) (pool : PortPool) : Admission := ⟨.empty version pool, ∅, []⟩

/-- No registered client has authenticated with a removed token. -/
def Final (s : Admission) : Prop :=
  ∀ id auth internalToken, s.handshakes.lookup id = some (.registered auth internalToken) →
    id ∈ s.server.clients → auth.token ∉ s.revoked

/-- The internal token that the assignment is about to create. -/
def newInternalToken (s : Admission) (clientID : UUID) : Option GoString :=
  match s.handshakes.lookup clientID with
  | some (.checked auth candidate) => if s.server.Assigns auth then some candidate else none
  | _ => none

/-- The condition on one action.  A removed token is of one kind and takes no
token along that a handshake relies on, and no client gets a removed token as its
internal token. -/
def Undisturbed (s : Admission) : AdmissionAction → Prop
  | .call (.removeToken token) =>
    s.server.registry.OneKind token ∧
      ∀ id ∈ s.handshakes.keys, ∀ handshake ∈ s.handshakes.lookup id,
        ∀ t ∈ handshake.reliesOn, t ∉ s.server.goneTokens token
  | .assignInternalToken clientID => ∀ t ∈ s.newInternalToken clientID, t ∉ s.revoked
  | _ => True

instance (s : Admission) : DecidablePred s.Undisturbed := by
  unfold Undisturbed
  intro action
  dsimp only
  split <;> infer_instance

end Admission

/-! ## What a handshake relies on -/

namespace TokenServer

/-- The internal token is the one of a client that authenticated with the token. -/
def Filed (s : TokenServer) (token internalToken : GoString) : Prop :=
  internalToken = token ∨ internalToken ∈ s.internalOf token

/-- What a change leaves to the handshake of a client. -/
structure Keeps (id : UUID) (s s' : TokenServer) : Prop where
  internalOf : ∀ token, s.internalOf token ⊆ s'.internalOf token
  tokenExists : ∀ token, s.tokenExists token = true → s'.tokenExists token = true
  clients : id ∈ s'.clients → id ∈ s.clients
  clientsOf : ∀ token, id ∈ s.clientsOf token → id ∈ s'.clientsOf token

variable {E : TokenEnv} {s s' : TokenServer} {id clientID : UUID} {token : GoString}

theorem Keeps.filed (h : s.Keeps id s') {internalToken : GoString}
    (hfiled : s.Filed token internalToken) : s'.Filed token internalToken :=
  hfiled.imp_right fun hmem => h.internalOf token hmem

theorem Keeps.refl (id : UUID) (s : TokenServer) : s.Keeps id s :=
  ⟨fun _ => List.Subset.refl _, fun _ h => h, fun h => h, fun _ h => h⟩

theorem Keeps.of_adds (hclients : s.SameClients s') (hadds : s.Adds E token s') :
    s.Keeps id s' where
  internalOf t := by
    rw [hclients.internalOf]
    exact List.Subset.refl _
  tokenExists _ := hadds.tokenExists
  clients := by
    rw [hclients.clients]
    exact fun h => h
  clientsOf t := by
    rw [TokenServer.clientsOf, TokenServer.clientsOf, hclients.tokenClients]
    exact fun h => h

section Assign

variable {auth : WSClientAuth} {candidate : GoString}

theorem assignInternalToken_internalOf_of_ne (h : token ≠ auth.token) :
    (s.assignInternalToken auth candidate).2.internalOf token = s.internalOf token := by
  by_cases hassigns : s.Assigns auth
  · rw [assignInternalToken_of_assigns hassigns, internalOf, Server.addInternalToken,
      lookup_insert_ne h, internalOf]
  · rw [assignInternalToken_of_not hassigns]

theorem assignInternalToken_tokenExists_of_ne (h : token ≠ candidate) :
    (s.assignInternalToken auth candidate).2.tokenExists token = s.tokenExists token := by
  by_cases hassigns : s.Assigns auth
  · rw [assignInternalToken_of_assigns hassigns, tokenExists, Server.addInternalToken,
      lookup_insert_ne h, tokenExists]
  · rw [assignInternalToken_of_not hassigns]

theorem filed_assignInternalToken : (s.assignInternalToken auth candidate).2.Filed auth.token
      (s.assignInternalToken auth candidate).1 := by
  by_cases hassigns : s.Assigns auth
  · rw [assignInternalToken_of_assigns hassigns]
    right
    simp [internalOf, Server.addInternalToken]
  · rw [assignInternalToken_of_not hassigns]
    exact .inl rfl

theorem Keeps.assignInternalToken : s.Keeps id (s.assignInternalToken auth candidate).2 := by
  by_cases hassigns : s.Assigns auth
  · rw [assignInternalToken_of_assigns hassigns]
    refine ⟨fun t => ?_, fun t ht => ?_, fun h => h, fun _ h => h⟩
    · by_cases ht : t = auth.token
      · subst ht
        simp [TokenServer.internalOf, Server.addInternalToken]
      · simp [TokenServer.internalOf, Server.addInternalToken, lookup_insert_ne ht]
    · rw [tokenExists_iff] at ht ⊢
      exact ht.imp_right (Or.imp_left fun hmem => (mem_insert _).mpr (.inr hmem))
  · rw [assignInternalToken_of_not hassigns]
    exact .refl id s

end Assign

theorem Keeps.socksTasks {tasks : GoMap Int Unit} : s.Keeps id { s with socksTasks := tasks } :=
  ⟨fun _ => List.Subset.refl _, fun _ h => h, fun h => h, fun _ h => h⟩

theorem Keeps.register (hne : id ≠ clientID) {conn : Link} {auth : WSClientAuth} :
    s.Keeps id (s.registerWebSocketClient clientID conn auth token) where
  internalOf _ := List.Subset.refl _
  tokenExists _ h := h
  clients h := ((mem_insert _).mp h).resolve_left hne
  clientsOf _ h := mem_clientsOf_register.mpr (.inl h)

theorem Keeps.cleanup (hne : id ≠ clientID) {grace : Int} :
    s.Keeps id (s.cleanupConnection grace clientID token).1 := by
  constructor
  · intro t
    rw [cleanupConnection_internalOf]
    exact List.Subset.refl _
  · intro t
    rw [cleanupConnection_tokenExists]
    exact fun h => h
  · rw [cleanupConnection]
    split
    · exact fun h => h
    · exact fun h => (mem_erase.mp h).2
  · exact fun t => (mem_clientsOf_cleanup hne).mpr

end TokenServer

/-- What is true of the server while the handler is there. -/
def Handshake.Backed (s : TokenServer) (id : UUID) : Handshake → Prop
  | .validated auth _ | .checked auth _ => s.tokenExists auth.token = true
  | .assigned auth internalToken | .started auth internalToken =>
    s.Filed auth.token internalToken ∧ s.tokenExists internalToken = true
  | .registered auth internalToken => id ∈ s.clients →
      s.Filed auth.token internalToken ∧ s.tokenExists internalToken = true ∧
        id ∈ s.clientsOf internalToken

theorem Handshake.Backed.keeps {s s' : TokenServer} {id : UUID} {handshake : Handshake}
    (h : handshake.Backed s id) (hkeeps : s.Keeps id s') : handshake.Backed s' id := by
  cases handshake with
  | validated auth candidate => exact hkeeps.tokenExists _ h
  | checked auth candidate => exact hkeeps.tokenExists _ h
  | assigned auth internalToken | started auth internalToken =>
    exact h.imp hkeeps.filed (hkeeps.tokenExists _)
  | registered auth internalToken =>
    intro hid
    obtain ⟨hfiled, hexists, hmem⟩ := h (hkeeps.clients hid)
    exact ⟨hkeeps.filed hfiled, hkeeps.tokenExists _ hexists, hkeeps.clientsOf _ hmem⟩

/-- A removal disconnects the clients of the tokens that it drops, so those that
stay do not depend on them. -/
theorem Handshake.Backed.removeToken {s : TokenServer} {id : UUID}
    {handshake : Handshake} {token : GoString} (h : handshake.Backed s id)
    (hguard : ∀ t ∈ handshake.reliesOn, t ∉ s.goneTokens token) :
    handshake.Backed (s.removeToken token) id := by
  have hdrops := s.removeToken_drops token
  have hfiled : ∀ {t internalToken}, internalToken ∉ s.goneTokens token →
      s.Filed t internalToken → (s.removeToken token).Filed t internalToken := by
    intro t internalToken hkept hfiled
    refine hfiled.imp_right fun hmem => ?_
    have hne : t ≠ token := by
      rintro rfl
      exact hkept (s.internalOf_subset_goneTokens t hmem)
    rwa [s.removeToken_internalOf_of_ne hne]
  have hpending : ∀ {auth : WSClientAuth} {internalToken}, internalToken ∉ s.goneTokens token →
      s.Filed auth.token internalToken ∧ s.tokenExists internalToken = true →
      (s.removeToken token).Filed auth.token internalToken ∧
        (s.removeToken token).tokenExists internalToken = true := by
    intro auth internalToken hkept hbacked
    rw [hdrops.tokenExists hkept]
    exact hbacked.imp_left (hfiled hkept)
  cases handshake with
  | validated auth candidate | checked auth candidate =>
    exact (hdrops.tokenExists (hguard _ (mem_singleton_self _))).trans h
  | assigned auth internalToken | started auth internalToken =>
    exact hpending (hguard _ (mem_singleton_self _)) h
  | registered auth internalToken =>
    intro hid
    obtain ⟨hold, hstay⟩ := (hdrops.clients id).mp hid
    obtain ⟨hfile, hexists, hmem⟩ := h hold
    have hkept : internalToken ∉ s.goneTokens token := fun hgone => hstay _ hgone hmem
    rw [hdrops.tokenExists hkept, hdrops.clientsOf hkept]
    exact ⟨hfiled hkept hfile, hexists, hmem⟩

/-! ## Runs -/

namespace Admission

variable {E : TokenEnv} {s s' : Admission} {clientID : UUID}

structure Kept (s : Admission) : Prop where
  backed : ∀ id handshake, s.handshakes.lookup id = some handshake → handshake.Backed s.server id
  revoked : ∀ token ∈ s.revoked, s.server.tokenExists token = false ∧ s.server.internalOf token = []

section

variable (h : s.Kept)
include h

theorem Kept.final : s.Final := by
  intro id auth internalToken hregistered hid hrevoked
  obtain ⟨hgone, hempty⟩ := h.revoked auth.token hrevoked
  obtain ⟨hfiled, hexists, -⟩ := h.backed id _ hregistered hid
  rcases hfiled with heq | hmem
  · rw [heq, hgone] at hexists
    cases hexists
  · rw [hempty] at hmem
    cases hmem

theorem Kept.advance {server : TokenServer}
    {handshake : Handshake} (hkeeps : ∀ id ≠ clientID, s.server.Keeps id server)
    (hbacked : handshake.Backed server clientID) (hrevoked : ∀ token ∈ s.revoked,
      server.tokenExists token = false ∧ server.internalOf token = []) :
    (s.advance clientID server handshake).Kept where
  backed := by
    intro id handshake' hlookup
    rcases lookup_insert_cases hlookup with ⟨rfl, rfl⟩ | ⟨hne, hold⟩
    · exact hbacked
    · exact (h.backed id handshake' hold).keeps (hkeeps id hne)
  revoked := hrevoked

theorem Kept.cleanup (clientID : UUID) (internalToken : GoString) :
    (s.cleanup E clientID internalToken).Kept where
  backed := by
    intro id handshake hlookup
    obtain ⟨hne, hold⟩ := lookup_erase_cases hlookup
    exact (h.backed id handshake hold).keeps (.cleanup hne)
  revoked := by
    intro token htoken
    rw [Admission.cleanup, cleanupConnection_tokenExists, cleanupConnection_internalOf]
    exact h.revoked token htoken

theorem Kept.call {c : TokenCall} (hguard : s.Undisturbed (.call c))
    (hstep : s.step E (.call c) = some s') : s'.Kept := by
  obtain ⟨hrandom, rfl⟩ := of_ite_some hstep
  rcases call_cases (E := E) hrandom with
    ⟨token, hadded, hclients, hadds⟩ | ⟨token, rfl⟩
  · refine ⟨fun id handshake hlookup =>
      (h.backed id handshake hlookup).keeps (.of_adds hclients hadds), ?_⟩
    intro t ht
    have hmem : t ∈ s.revoked ∧ (c.added = some t → (s.server.call E c).tokenExists t = false) := by
      cases c with
      | removeToken token => cases hadded
      | _ => exact (mem_filter.mp ht).imp_right of_decide_eq_true
    obtain ⟨hgone, hempty⟩ := h.revoked t hmem.1
    refine ⟨Bool.eq_false_iff.mpr fun hexists => ?_, (hclients.internalOf t).trans hempty⟩
    -- the call added no other token
    rcases hadds.tokenExists_cases hexists with rfl | hold
    · rw [hmem.2 hadded] at hexists
      cases hexists
    · rw [hgone] at hold
      cases hold
  · have hdrops := s.server.removeToken_drops token
    refine ⟨fun id handshake hlookup => ?_, fun t ht => ?_⟩
    · exact (h.backed id handshake hlookup).removeToken
        (hguard.2 id (mem_keys_of_lookup hlookup) handshake hlookup)
    · by_cases heq : t = token
      · subst heq
        exact ⟨removeToken_self hguard.1, s.server.removeToken_internalOf_self t⟩
      · obtain ⟨hgone, hempty⟩ := h.revoked t ((mem_cons.mp ht).resolve_left heq)
        refine ⟨Bool.eq_false_iff.mpr fun hexists => ?_,
          (s.server.removeToken_internalOf_of_ne heq).trans hempty⟩
        rw [hdrops.tokenExists_before hexists] at hgone
        cases hgone

theorem Kept.validate {clientID fresh : UUID} {credentials : Credentials}
    (hstep : s.step E (.validate clientID credentials fresh) = some s') : s'.Kept := by
  rw [step] at hstep
  split at hstep
  · cases hstep
  · split at hstep
    · cases hstep
      exact h
    · rename_i auth hvalid
      cases hstep
      exact h.advance (fun _ _ => .refl _ _)
        (tokenExists_of_admits (validateToken_admits hvalid)) h.revoked

theorem Kept.checkRules (hstep : s.step E (.checkRules clientID) = some s') : s'.Kept := by
  rw [step] at hstep
  split at hstep
  · rename_i auth candidate hlookup
    split at hstep
    · cases hstep
      exact ⟨fun id handshake hid => h.backed id handshake (lookup_of_erase id handshake hid),
        h.revoked⟩
    · rename_i auth' hrules
      cases hstep
      rw [refuseSealedConnector_ok hrules]
      have hexists : s.server.tokenExists auth.token = true := h.backed clientID _ hlookup
      exact h.advance (fun _ _ => .refl _ _) hexists h.revoked
  · cases hstep

theorem Kept.assignInternalToken (hguard : s.Undisturbed (.assignInternalToken clientID))
    (hstep : s.step E (.assignInternalToken clientID) = some s') : s'.Kept := by
  rw [step] at hstep
  split at hstep <;> cases hstep
  rename_i auth candidate hlookup
  have hexists : s.server.tokenExists auth.token = true := h.backed clientID _ hlookup
  refine h.advance (fun _ _ => .assignInternalToken) ⟨filed_assignInternalToken,
      tokenExists_assignInternalToken hexists⟩ fun t ht => ?_
  obtain ⟨hgone, hempty⟩ := h.revoked t ht
  by_cases hassigns : s.server.Assigns auth
  · have hcandidate : t ≠ candidate := by
      rintro rfl
      refine hguard t ?_ ht
      simp [newInternalToken, hlookup, hassigns]
    have htoken : t ≠ auth.token := by
      rintro rfl
      rw [hgone] at hexists
      cases hexists
    exact ⟨(assignInternalToken_tokenExists_of_ne hcandidate).trans hgone,
      (assignInternalToken_internalOf_of_ne htoken).trans hempty⟩
  · rw [assignInternalToken_of_not hassigns]
    exact ⟨hgone, hempty⟩

theorem Kept.startReverseSocksServer
    (hstep : s.step E (.startReverseSocksServer clientID) = some s') : s'.Kept := by
  rw [step] at hstep
  split at hstep <;> cases hstep
  rename_i auth internalToken hlookup
  have hbacked : s.server.Filed auth.token internalToken ∧
      s.server.tokenExists internalToken = true := h.backed clientID _ hlookup
  obtain ⟨tasks, htasks⟩ := s.server.startReverseSocksServer_eq auth.token
  rw [htasks]
  split
  · exact h.advance (fun _ _ => .socksTasks) hbacked h.revoked
  · exact h.advance (fun _ _ => .refl _ _) hbacked h.revoked

theorem Kept.register {conn : Link} {written : Bool}
    (hstep : s.step E (.register clientID conn written) = some s') : s'.Kept := by
  rw [step] at hstep
  split at hstep
  · rename_i auth internalToken hlookup
    obtain ⟨hfiled, hexists⟩ : s.server.Filed auth.token internalToken ∧
        s.server.tokenExists internalToken = true := h.backed clientID _ hlookup
    split at hstep
    · cases hstep
      refine h.advance (fun _ hne => .register hne) (fun _ => ?_) h.revoked
      exact ⟨hfiled, hexists, mem_clientsOf_register.mpr (.inr ⟨rfl, rfl⟩)⟩
    · cases hstep
      exact h.cleanup clientID internalToken
  · cases hstep

theorem Kept.disconnect (hstep : s.step E (.disconnect clientID) = some s') : s'.Kept := by
  rw [step] at hstep
  split at hstep <;> cases hstep
  exact h.cleanup clientID _

/-- Every action that disturbs no handshake. -/
theorem Kept.step {a : AdmissionAction} (hguard : s.Undisturbed a)
    (hstep : s.step E a = some s') : s'.Kept := by
  cases a with
  | call c => exact h.call hguard hstep
  | validate clientID credentials fresh => exact h.validate hstep
  | checkRules clientID => exact h.checkRules hstep
  | assignInternalToken clientID => exact h.assignInternalToken hguard hstep
  | startReverseSocksServer clientID => exact h.startReverseSocksServer hstep
  | register clientID conn written => exact h.register hstep
  | disconnect clientID => exact h.disconnect hstep

end

/-- Whatever handshakes, calls and disconnects are interleaved, no registered
client has authenticated with a removed token, if no removal takes away a token
that a handshake relies on, removed tokens are of one kind, and none of them
becomes the internal token of a client. -/
theorem revocation_is_final {version : Link → UInt8} {pool : PortPool}
    {actions : List AdmissionAction} {t : Admission}
    (hguard : Guarded (Admission.step E) Undisturbed (start version pool) actions)
    (hrun : run (Admission.step E) (start version pool) actions = some t) : t.Final := by
  have hstart : (start version pool).Kept := ⟨fun _ _ h => (nomatch h), fun _ h => (nomatch h)⟩
  exact (run_invariant (fun _ _ _ h => h.step) hstart hguard hrun).final

end Admission

/-! ## A removal between lookup and registration -/

/-- The handshake of a client with the forward token, up to the registration. -/
def forwardHandshake : List AdmissionAction :=
  [.call (.addForwardToken (ascii "f") [] none),
    .validate (uuidOf 1) (.frame (helloFrame (ascii "f") false 7)) UUID.nil,
    .checkRules (uuidOf 1), .assignInternalToken (uuidOf 1), .startReverseSocksServer (uuidOf 1)]

def emptyAdmission : Admission := .start (fun _ => protocolVersionV1) ⟨[], []⟩

/-- A client that is registered before the removal is disconnected by it. -/
theorem forwardHandshake_final : ∃ s ∈ run (Admission.step tokenEnv) emptyAdmission
        (forwardHandshake ++ [.register (uuidOf 1) 1 true, .call (.removeToken (ascii "f"))]),
      ascii "f" ∈ s.revoked ∧ s.Final :=
  exists_run_and (by decide +kernel) fun _ => Admission.revocation_is_final (by decide +kernel)

/-- The token with which a client is registered. -/
def Admission.registeredWith (s : Admission) (id : UUID) : Option GoString :=
  match s.handshakes.lookup id with
  | some (.registered auth _) => if id ∈ s.server.clients then some auth.token else none
  | _ => none

/-- A client that is registered after the removal stays. -/
theorem forwardHandshake_not_final : ∃ s ∈ run (Admission.step tokenEnv) emptyAdmission
        (forwardHandshake ++ [.call (.removeToken (ascii "f")), .register (uuidOf 1) 1 true]),
      s.revoked = [ascii "f"] ∧ s.server.tokenExists (ascii "f") = false ∧
        s.registeredWith (uuidOf 1) = some (ascii "f") := by
  decide +kernel

end LinkSocks
