import LinkSocks.Tokens.Registry

/-!
# What the removal of a token leaves

`RemoveToken` drops the internal tokens of a token first and then goes through
one of three branches.  Each part drops some tokens with all that belongs to
them and leaves every other token alone, and so does the whole.
-/

namespace LinkSocks

open Go Server List AList

/-- The token is of one kind at most. -/
@[mk_iff]
structure Registry.OneKind (R : Registry) (token : GoString) : Prop where
  forward_reverse : token ∈ R.forwardTokens → token ∉ R.tokens
  forward_connector : token ∈ R.forwardTokens → token ∉ R.connectorTokens
  reverse_connector : token ∈ R.tokens → token ∉ R.connectorTokens

instance (R : Registry) (token : GoString) : Decidable (R.OneKind token) :=
  decidable_of_iff' _ (R.oneKind_iff token)

namespace TokenServer

/-- The tokens `gone` are dropped with their clients. -/
structure Drops (gone : List GoString) (s s' : TokenServer) : Prop where
  clients : ∀ id, id ∈ s'.clients ↔ id ∈ s.clients ∧ ∀ token ∈ gone, id ∉ s.clientsOf token
  tokenClients : ∀ token, token ∉ gone → s'.tokenClients.lookup token = s.tokenClients.lookup token
  closed : ∀ token ∈ gone, s'.tokenClients.lookup token = none
  clientMeta : s'.clientMeta = s.clientMeta
  forwardTokens : Restricts gone s.registry.forwardTokens s'.registry.forwardTokens
  connectorTokens : Restricts gone s.registry.connectorTokens s'.registry.connectorTokens
  tokens : Restricts gone s.registry.tokens s'.registry.tokens
  /-- A reverse token keeps its options as long as it is there. -/
  manages : ∀ token, s'.manages.lookup token = s.manages.lookup token ∨
    token ∈ gone ∧ s'.manages.lookup token = none ∧ s'.registry.tokens.lookup token = none

variable {s s' s'' : TokenServer} {gone gone' : List GoString}
  {token : GoString}

theorem mem_keys_of_clientsOf {id : UUID}
    (h : id ∈ s.clientsOf token) : token ∈ s.tokenClients.keys := by
  by_contra hkey
  have hnone : s.tokenClients.lookup token = none :=
    lookup_eq_none.mpr fun hmem => hkey (mem_keys.mp hmem)
  rw [clientsOf, hnone] at h
  cases h

theorem mem_closeClients {tokens : List GoString} {id : UUID} : id ∈ s.closeClients tokens ↔
      id ∈ s.clients ∧ ∀ token ∈ tokens, id ∉ s.clientsOf token := by
  rw [closeClients, mem_eraseAll, and_comm]
  simp

theorem Drops.clientsOf (h : s.Drops gone s')
    (htoken : token ∉ gone) : s'.clientsOf token = s.clientsOf token := by
  rw [TokenServer.clientsOf, h.tokenClients token htoken, TokenServer.clientsOf]

theorem Drops.clientsOf_gone (h : s.Drops gone s')
    (htoken : token ∈ gone) : s'.clientsOf token = [] := by
  rw [TokenServer.clientsOf, h.closed token htoken]
  rfl

theorem Drops.refl (s : TokenServer) : s.Drops [] s where
  clients := by simp
  tokenClients := fun _ _ => rfl
  closed := by simp
  clientMeta := rfl
  forwardTokens := Restricts.refl _ _
  connectorTokens := Restricts.refl _ _
  tokens := Restricts.refl _ _
  manages := fun _ => .inl rfl

theorem Drops.trans (h : s.Drops gone s') (h' : s'.Drops gone' s'') :
    s.Drops (gone ++ gone') s'' where
  clients := by
    intro id
    rw [h'.clients, h.clients, and_assoc]
    refine and_congr_right fun _ => ?_
    constructor
    · rintro ⟨hgone, hgone'⟩ token htoken
      by_cases hfirst : token ∈ gone
      · exact hgone token hfirst
      · have hnot := hgone' token ((mem_append.mp htoken).resolve_left hfirst)
        rwa [h.clientsOf hfirst] at hnot
    · intro hall
      refine ⟨fun token htoken => hall token (mem_append_left _ htoken), ?_⟩
      intro token htoken
      by_cases hfirst : token ∈ gone
      · rw [h.clientsOf_gone hfirst]
        exact not_mem_nil
      · rw [h.clientsOf hfirst]
        exact hall token (mem_append_right _ htoken)
  tokenClients := by
    intro token htoken
    rw [mem_append, not_or] at htoken
    rw [h'.tokenClients token htoken.2, h.tokenClients token htoken.1]
  closed := by
    intro token htoken
    by_cases hsecond : token ∈ gone'
    · exact h'.closed token hsecond
    · rw [h'.tokenClients token hsecond]
      exact h.closed token ((mem_append.mp htoken).resolve_right hsecond)
  clientMeta := h'.clientMeta.trans h.clientMeta
  forwardTokens := h.forwardTokens.trans h'.forwardTokens
  connectorTokens := h.connectorTokens.trans h'.connectorTokens
  tokens := h.tokens.trans h'.tokens
  manages := by
    intro token
    rcases h'.manages token with hsame' | ⟨hgone, hnone, htokens⟩
    · rcases h.manages token with hsame | ⟨hgone, hnone, htokens⟩
      · exact .inl (hsame'.trans hsame)
      · exact .inr ⟨mem_append_left _ hgone, hsame'.trans hnone, h'.tokens.lookup_none htokens⟩
    · exact .inr ⟨mem_append_right _ hgone, hnone, htokens⟩

/-! ### The tables after each part -/

@[simp] theorem removeInternalTokens_registry (s : TokenServer) (token : GoString) :
    (s.removeInternalTokens token).registry =
      { s.registry with tokens := eraseAll s.registry.tokens (s.internalOf token) } := by
  simp only [removeInternalTokens, foldl_removeInternalToken]

@[simp] theorem removeConnectorToken_registry (s : TokenServer) (token : GoString) :
    (s.removeConnectorToken token).registry = { s.registry with
      connectorTokens := eraseAll s.registry.connectorTokens [token]
      connectorTokenAC := eraseAll s.registry.connectorTokenAC [token] } :=
  (s.toServer.removeConnectorToken_drops token).registry

@[simp] theorem removeReverseToken_registry (s : TokenServer) (token : GoString) (port : Int) :
    (s.removeReverseToken token port).registry = { s.registry with
      connectorTokens := eraseAll s.registry.connectorTokens (s.connectorsOf token)
      connectorTokenAC := eraseAll s.registry.connectorTokenAC (s.connectorsOf token)
      tokens := s.registry.tokens.erase token } := by
  have h := foldl_removeConnectorToken_drops (s.connectorsOf token) s.toServer
  simp only [connectorsOf] at h
  simp only [removeReverseToken, Server.removeReverseToken, h.registry, connectorsOf]

theorem Drops.of_erases (hclients : s'.clients = s.closeClients gone)
    (htokenClients : Erases gone s.tokenClients s'.tokenClients)
    (hmeta : s'.clientMeta = s.clientMeta)
    (hforward : Restricts gone s.registry.forwardTokens s'.registry.forwardTokens)
    (hconnector : Restricts gone s.registry.connectorTokens s'.registry.connectorTokens)
    (htokens : Restricts gone s.registry.tokens s'.registry.tokens)
    (hmanages : ∀ token, s'.manages.lookup token = s.manages.lookup token ∨
      token ∈ gone ∧ s'.manages.lookup token = none ∧
        s'.registry.tokens.lookup token = none) : s.Drops gone s' :=
  ⟨fun _ => hclients ▸ mem_closeClients, htokenClients.kept, htokenClients.erased, hmeta, hforward,
    hconnector, htokens, hmanages⟩

section

variable (s) (token)

theorem removeInternalTokens_drops :
    s.Drops (s.internalOf token) (s.removeInternalTokens token) := by
  have hfold := foldl_removeInternalToken (s.internalOf token) s.toServer
  refine .of_erases rfl ?_ ?_ ?_ ?_ ?_ ?_ <;> simp only [removeInternalTokens, hfold]
  · exact .of_eraseAll _ _
  · exact .refl _ _
  · exact .refl _ _
  · exact .of_eraseAll (List.Subset.refl _) _
  · intro token'
    by_cases hgone : token' ∈ s.internalOf token
    · exact .inr ⟨hgone, lookup_eraseAll_of_mem hgone, lookup_eraseAll_of_mem hgone⟩
    · exact .inl (lookup_eraseAll_of_not_mem hgone)

theorem removeConnectorToken_drops : s.Drops [token] (s.removeConnectorToken token) := by
  have h := s.toServer.removeConnectorToken_drops token
  refine .of_erases rfl ?_ h.clientMeta ?_ ?_ ?_ fun _ => .inl (by rw [← h.manages]; rfl)
  · rw [removeConnectorToken, h.tokenClients]
    exact .of_eraseAll _ _
  all_goals rw [removeConnectorToken_registry]
  · exact .refl _ _
  · exact .of_eraseAll (List.Subset.refl _) _
  · exact .refl _ _

theorem removeReverseToken_drops (port : Int) :
    s.Drops (s.connectorsOf token ++ [token]) (s.removeReverseToken token port) := by
  have h := foldl_removeConnectorToken_drops (s.connectorsOf token) s.toServer
  have hmem : token ∈ s.connectorsOf token ++ [token] := by simp
  refine .of_erases rfl ?_ h.clientMeta ?_ ?_ ?_ fun token' => ?_
  · have hfirst := Erases.of_eraseAll (s.connectorsOf token) s.tokenClients
    rw [← h.tokenClients] at hfirst
    exact hfirst.trans (.of_erase token _)
  all_goals rw [removeReverseToken_registry]
  · exact .refl _ _
  · exact .of_eraseAll (subset_append_left _ _) _
  · exact .of_erase hmem _
  · by_cases hsame : token' = token
    · subst hsame
      exact .inr ⟨hmem, lookup_erase _ _, lookup_erase _ _⟩
    · exact .inl ((AList.lookup_erase_ne hsame).trans (congrArg (AList.lookup token') h.manages))

theorem removeForwardToken_drops : s.Drops [token] (s.removeForwardToken token) :=
  .of_erases rfl (.of_erase token _) rfl (.of_erase (mem_singleton_self _) _) (.refl _ _)
    (.refl _ _) fun _ => .inl rfl

end

/-- The tokens that a branch of `RemoveToken` drops. -/
def branchTokens (s : TokenServer) (token : GoString) : List GoString :=
  if token ∈ s.registry.connectorTokens then [token]
  else if token ∈ s.registry.tokens then s.connectorsOf token ++ [token]
  else if token ∈ s.registry.forwardTokens then [token]
  else []

/-- A removal drops its tokens with their clients, and nothing else. -/
theorem removeBranch_drops (s : TokenServer) (token : GoString) :
    s.Drops (s.branchTokens token) (s.removeBranch token) := by
  rw [removeBranch, branchTokens]
  simp only [lookup_isSome]
  split
  · exact s.removeConnectorToken_drops token
  · cases hport : s.registry.tokens.lookup token with
    | some port =>
      have hmem : token ∈ s.registry.tokens := lookup_isSome.mp (by rw [hport]; rfl)
      rw [if_pos hmem]
      exact s.removeReverseToken_drops token port
    | none =>
      rw [if_neg (lookup_eq_none.mp hport)]
      split
      · exact s.removeForwardToken_drops token
      · exact .refl s

/-- All tokens that a removal drops. -/
def goneTokens (s : TokenServer) (token : GoString) : List GoString :=
  s.internalOf token ++ (s.removeInternalTokens token).branchTokens token

section

variable (s) (token)

/-- A removal drops the token, its internal tokens and the connector tokens of
the token, and leaves everything else alone. -/
theorem removeToken_drops :
    s.Drops (s.goneTokens token) (s.removeToken token) := (s.removeInternalTokens_drops token).trans
    ((s.removeInternalTokens token).removeBranch_drops token)

theorem removeBranch_toServer :
    (s.removeBranch token).toServer = if (s.registry.connectorTokens.lookup token).isSome then
        s.toServer.removeConnectorToken token else if (s.registry.tokens.lookup token).isSome then
        s.toServer.removeReverseToken token
      else if (s.registry.forwardTokens.lookup token).isSome then
        s.toServer.removeForwardToken token else s.toServer := by
  rw [removeBranch]
  split
  · rfl
  · cases s.registry.tokens.lookup token with
    | some port => rfl
    | none =>
      dsimp only
      split <;> rfl

/-- `Server` has the same removal, without the clients. -/
theorem removeToken_toServer : (s.removeToken token).toServer = s.toServer.removeToken token := by
  have hfirst : (s.removeInternalTokens token).toServer =
      { (s.internalOf token).foldl Server.removeInternalToken s.toServer with
        internalTokens := ((s.internalOf token).foldl Server.removeInternalToken
          s.toServer).internalTokens.erase token } := by
    simp only [removeInternalTokens, foldl_removeInternalToken]
  rw [removeToken, removeBranch_toServer, hfirst]
  rfl

theorem removeBranch_internalTokens : (s.removeBranch token).internalTokens = s.internalTokens := by
  rw [removeBranch]
  split
  · exact (s.toServer.removeConnectorToken_drops token).internalTokens
  · split
    · exact (foldl_removeConnectorToken_drops (s.connectorsOf token)
        s.toServer).internalTokens
    · split <;> rfl

theorem removeToken_internalTokens :
    (s.removeToken token).internalTokens = s.internalTokens.erase token :=
  removeBranch_internalTokens ..

theorem removeToken_internalOf_self : (s.removeToken token).internalOf token = [] := by
  rw [internalOf, removeToken_internalTokens, lookup_erase]
  rfl

end

theorem removeToken_internalOf_of_ne (s : TokenServer) {token token' : GoString}
    (h : token' ≠ token) : (s.removeToken token).internalOf token' = s.internalOf token' := by
  rw [internalOf, removeToken_internalTokens, lookup_erase_ne h, internalOf]

theorem removeToken_sha256TokenMap (s : TokenServer) (token : GoString) :
    (s.removeToken token).registry.sha256TokenMap = s.registry.sha256TokenMap := by
  rw [removeToken, removeBranch]
  split
  · simp
  · split
    · simp
    · split <;> simp [removeForwardToken, Server.removeForwardToken]

/-! ### Which tokens are dropped -/

theorem mem_connectorsOf {token c : GoString} :
    c ∈ s.connectorsOf token ↔ s.registry.connectorTokens.lookup c = some token := by
  rw [connectorsOf, mem_filter, decide_eq_true_eq, and_iff_right_iff_imp]
  exact mem_keys_of_lookup

theorem tokenExists_iff : s.tokenExists token = true ↔ token ∈ s.registry.forwardTokens ∨
      token ∈ s.registry.tokens ∨ token ∈ s.registry.connectorTokens := by
  rw [tokenExists, Bool.or_eq_true, Bool.or_eq_true, lookup_isSome,
    lookup_isSome, lookup_isSome, or_assoc]

theorem Drops.tokenExists (h : s.Drops gone s')
    (htoken : token ∉ gone) : s'.tokenExists token = s.tokenExists token := by
  rw [TokenServer.tokenExists, TokenServer.tokenExists, h.forwardTokens.same htoken,
    h.tokens.same htoken, h.connectorTokens.same htoken]

theorem Drops.tokenExists_before (h : s.Drops gone s')
    (hexists : s'.tokenExists token = true) : s.tokenExists token = true := by
  rw [tokenExists_iff] at hexists ⊢
  exact hexists.imp h.forwardTokens.mem (.imp h.tokens.mem h.connectorTokens.mem)

theorem mem_branchTokens (h : s.tokenExists token = true) : token ∈ s.branchTokens token := by
  rw [branchTokens]
  rw [tokenExists_iff] at h
  split_ifs <;> simp_all

theorem internalOf_subset_goneTokens (s : TokenServer) (token : GoString) :
    s.internalOf token ⊆ s.goneTokens token := subset_append_left _ _

theorem mem_goneTokens (h : s.tokenExists token = true) : token ∈ s.goneTokens token := by
  by_cases hinternal : token ∈ s.internalOf token
  · exact s.internalOf_subset_goneTokens token hinternal
  · refine mem_append_right _ (mem_branchTokens ?_)
    rwa [(s.removeInternalTokens_drops token).tokenExists hinternal]

theorem mem_goneTokens_cases {token t : GoString} (h : t ∈ s.goneTokens token) :
    t ∈ s.internalOf token ∨ t = token ∨ t ∈ s.connectorsOf token := by
  rcases mem_append.mp h with hinternal | hbranch
  · exact .inl hinternal
  · right
    rw [branchTokens] at hbranch
    split_ifs at hbranch
    · exact .inl (mem_singleton.mp hbranch)
    · rcases mem_append.mp hbranch with hconnector | hself
      · rw [mem_connectorsOf, removeInternalTokens_registry] at hconnector
        exact .inr (mem_connectorsOf.mpr hconnector)
      · exact .inl (mem_singleton.mp hself)
    · exact .inl (mem_singleton.mp hbranch)
    · cases hbranch

/-- The connector tokens of a reverse token go with it, unless it is one of its
own internal tokens. -/
theorem connectorsOf_subset_goneTokens (hreverse : token ∈ s.registry.tokens)
    (hconnector : token ∉ s.registry.connectorTokens) (hinternal : token ∉ s.internalOf token) :
    s.connectorsOf token ⊆ s.goneTokens token := by
  intro c hc
  refine mem_append_right _ ?_
  rw [branchTokens, removeInternalTokens_registry, if_neg hconnector,
    if_pos (mem_eraseAll.mpr ⟨hinternal, hreverse⟩)]
  refine mem_append_left _ (mem_connectorsOf.mpr ?_)
  rw [removeInternalTokens_registry]
  exact mem_connectorsOf.mp hc

theorem removeReverseToken_tokens (s : TokenServer) (token : GoString) (port : Int) :
    (s.removeReverseToken token port).registry.tokens = s.registry.tokens.erase token := by
  rw [removeReverseToken_registry]

theorem removeReverseToken_target {token c r : GoString} {port : Int}
    (h : (s.removeReverseToken token port).registry.connectorTokens.lookup c =
      some r) : r ≠ token := by
  rintro rfl
  have hmem := mem_connectorsOf.mpr ((s.removeReverseToken_drops r port).connectorTokens.lookup h)
  rw [removeReverseToken_registry, lookup_eraseAll_of_mem hmem] at h
  cases h

theorem removeToken_target {token c r : GoString}
    (h : (s.removeToken token).registry.connectorTokens.lookup c = some r)
    (hinternal : r ∉ s.internalOf token) :
    (s.removeToken token).registry.tokens.lookup r = s.registry.tokens.lookup r := by
  rw [← (s.removeInternalTokens_drops token).tokens.same hinternal]
  rw [removeToken, removeBranch] at h ⊢
  generalize s.removeInternalTokens token = s₁ at h ⊢
  by_cases hconnector : (s₁.registry.connectorTokens.lookup token).isSome = true
  · rw [if_pos hconnector]
    rw [removeConnectorToken_registry]
  · rw [if_neg hconnector] at h ⊢
    cases hport : s₁.registry.tokens.lookup token with
    | some port =>
      rw [hport] at h
      rw [removeReverseToken_tokens]
      exact lookup_erase_ne (removeReverseToken_target h)
    | none =>
      dsimp only
      split <;> rfl

theorem removeInternalTokens_tokens {token i : GoString} (h : i ∈ s.internalOf token) :
    (s.removeInternalTokens token).registry.tokens.lookup i = none := by
  rw [removeInternalTokens_registry, lookup_eraseAll_of_mem h]

theorem removeToken_internal {token i : GoString} (h : i ∈ s.internalOf token) :
    i ∉ (s.removeToken token).registry.tokens := by
  have hdrops := (s.removeInternalTokens token).removeBranch_drops token
  exact lookup_eq_none.mp (hdrops.tokens.lookup_none (removeInternalTokens_tokens h))

theorem removeToken_connector_of_internal {token c i : GoString}
    (hi : i ∈ s.internalOf token) (htoken : token ∉ s.registry.connectorTokens)
    (hc : s.registry.connectorTokens.lookup c = some i) :
    (s.removeToken token).registry.connectorTokens.lookup c = some i := by
  have hnone := removeInternalTokens_tokens hi
  have hconnectors : (s.removeInternalTokens token).registry.connectorTokens =
      s.registry.connectorTokens := by simp
  rw [removeToken, removeBranch]
  rw [← hconnectors] at htoken hc
  generalize s.removeInternalTokens token = s₁ at htoken hc hnone ⊢
  rw [if_neg (lookup_isSome.not.mpr htoken)]
  cases hport : s₁.registry.tokens.lookup token with
  | some port =>
    have hother : c ∉ s₁.connectorsOf token := by
      rw [mem_connectorsOf, hc, Option.some.injEq]
      rintro rfl
      rw [hport] at hnone
      cases hnone
    rw [removeReverseToken_registry, lookup_eraseAll_of_not_mem hother, hc]
  | none =>
    dsimp only
    split <;> exact hc

/-- A token of one kind is gone after its removal. -/
theorem removeBranch_self (h : s.registry.OneKind token) :
    (s.removeBranch token).tokenExists token = false := by
  have hdrops := s.removeBranch_drops token
  rw [Bool.eq_false_iff, ne_eq, tokenExists_iff]
  intro hexists
  by_cases hc : token ∈ s.registry.connectorTokens
  · rcases hexists with hf | ht | hc'
    · exact h.forward_connector (hdrops.forwardTokens.mem hf) hc
    · exact h.reverse_connector (hdrops.tokens.mem ht) hc
    · rw [removeBranch, if_pos (lookup_isSome.mpr hc)] at hc'
      exact (mem_eraseAll.mp hc').1 (mem_singleton_self token)
  · rw [removeBranch, if_neg (lookup_isSome.not.mpr hc)] at hexists hdrops
    cases hport : s.registry.tokens.lookup token with
    | some port =>
      have ht : token ∈ s.registry.tokens := lookup_isSome.mp (by rw [hport]; rfl)
      rw [hport] at hexists hdrops
      rcases hexists with hf | ht' | hc'
      · exact h.forward_reverse (hdrops.forwardTokens.mem hf) ht
      · exact (mem_erase.mp ht').1 rfl
      · exact hc (hdrops.connectorTokens.mem hc')
    | none =>
      have ht := lookup_eq_none.mp hport
      rw [hport] at hexists hdrops
      rcases hexists with hf | ht' | hc'
      · dsimp only at hf
        split at hf
        · exact (mem_erase.mp hf).1 rfl
        · rename_i hnone
          exact hnone (lookup_isSome.mpr hf)
      · exact ht (hdrops.tokens.mem ht')
      · exact hc (hdrops.connectorTokens.mem hc')

theorem removeToken_self (h : s.registry.OneKind token) :
    (s.removeToken token).tokenExists token = false := by
  have htokens : ∀ {x}, x ∈ (s.removeInternalTokens token).registry.tokens →
      x ∈ s.registry.tokens := (s.removeInternalTokens_drops token).tokens.mem
  apply removeBranch_self
  rw [removeInternalTokens_registry] at htokens ⊢
  exact ⟨fun hf ht => h.forward_reverse hf (htokens ht), h.forward_connector,
    fun ht => h.reverse_connector (htokens ht)⟩

end TokenServer

end LinkSocks
