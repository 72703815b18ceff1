import LinkSocks.Tokens.Removal

/-!
# The calls of an operator

Tokens are added and removed by calls to the server, one after another.  A call
that adds a token changes one of the three tables of tokens, if any, and stores
the hash of the token.
-/

namespace LinkSocks

open Go

/-- A call, with the random token that is used when none is given, and with
rules that may not parse. -/
inductive TokenCall where
  | addForwardToken (token generated : GoString)
      (rules : Option (Except String AccessControl))
  | addReverseToken (opts : ReverseTokenOptions) (generated : GoString)
      (startIdx : ℕ)
  | addConnectorToken (connectorToken reverseToken generated : GoString)
      (rules : Option (Except String AccessControl))
  | removeToken (token : GoString)

namespace TokenCall

def added : TokenCall → Option GoString
  | .addForwardToken token generated _ => some (if token = [] then generated else token)
  | .addReverseToken opts generated _ => some (if opts.token = [] then generated else opts.token)
  | .addConnectorToken token _ generated _ => some (if token = [] then generated else token)
  | .removeToken _ => none

/-- The random token that a call uses without asking whether it exists. -/
def random : TokenCall → Option GoString
  | .addForwardToken token generated _ => if token = [] then some generated else none
  | .addReverseToken opts generated _ => if opts.token = [] then some generated else none
  | .addConnectorToken .. | .removeToken _ => none

end TokenCall

namespace TokenServer

variable (E : TokenEnv)

def call (s : TokenServer) : TokenCall → TokenServer
  | .addForwardToken token generated none => (s.addForwardToken E token generated).2
  | .addForwardToken token generated (some rules) =>
    (s.addForwardTokenWithRules E token generated rules).2
  | .addReverseToken opts generated startIdx => (s.addReverseToken E opts generated startIdx).2
  | .addConnectorToken token reverseToken generated none =>
    (s.addConnectorToken E token reverseToken generated).2
  | .addConnectorToken token reverseToken generated (some rules) =>
    (s.addConnectorTokenWithRules E token reverseToken generated rules).2
  | .removeToken token => s.removeToken token

structure SameClients (s s' : TokenServer) : Prop where
  internalTokens : s'.internalTokens = s.internalTokens
  tokenClients : s'.tokenClients = s.tokenClients
  clients : s'.clients = s.clients
  clientMeta : s'.clientMeta = s.clientMeta

def StoresHash (token : GoString) (s s' : TokenServer) : Prop :=
  s'.registry.sha256TokenMap = s.registry.sha256TokenMap.insert (E.sha256.hex token) token

/-- What a call that adds `token` does to the tables of tokens. -/
inductive Adds (token : GoString) (s s' : TokenServer) : Prop where
  | nothing
      (hforward : s'.registry.forwardTokens = s.registry.forwardTokens)
      (htokens : s'.registry.tokens = s.registry.tokens)
      (hconnector : s'.registry.connectorTokens = s.registry.connectorTokens)
      (hmanages : s'.manages = s.manages)
      (hhash : s'.registry.sha256TokenMap = s.registry.sha256TokenMap ∨ s.StoresHash E token s')
  | forward (hnew : s.tokenExists token = false)
      (hforward : s'.registry.forwardTokens = s.registry.forwardTokens.insert token ())
      (htokens : s'.registry.tokens = s.registry.tokens)
      (hconnector : s'.registry.connectorTokens = s.registry.connectorTokens)
      (hmanages : s'.manages = s.manages)
      (hhash : s.StoresHash E token s')
  | reverse (port : Int) (hnew : s.tokenExists token = false) (hport : port ≠ 0)
      (hforward : s'.registry.forwardTokens = s.registry.forwardTokens)
      (htokens : s'.registry.tokens = s.registry.tokens.insert token port)
      (hconnector : s'.registry.connectorTokens = s.registry.connectorTokens)
      (hmanages : s'.manages = s.manages.insert token () ∨ s'.manages = s.manages.erase token)
      (hhash : s.StoresHash E token s')
  | connector (reverseToken : GoString) (hnew : s.tokenExists token = false)
      (htarget : reverseToken ∈ s.registry.tokens)
      (hforward : s'.registry.forwardTokens = s.registry.forwardTokens)
      (htokens : s'.registry.tokens = s.registry.tokens)
      (hconnector : s'.registry.connectorTokens =
        s.registry.connectorTokens.insert token reverseToken)
      (hmanages : s'.manages = s.manages)
      (hhash : s.StoresHash E token s')

variable {E} {s : TokenServer}

theorem Adds.refl (token : GoString) (s : TokenServer) : s.SameClients s ∧ s.Adds E token s :=
  ⟨⟨rfl, rfl, rfl, rfl⟩, .nothing rfl rfl rfl rfl (.inl rfl)⟩

theorem tokenExists_chosen {token generated : GoString}
    (hexists : ¬ (token ≠ [] ∧ s.tokenExists token = true))
    (hrandom : token = [] → s.tokenExists generated = false) :
    s.tokenExists (if token = [] then generated else token) = false := by
  split
  · exact hrandom ‹_›
  · rename_i htoken
    exact Bool.eq_false_iff.mpr fun h => hexists ⟨htoken, h⟩

theorem addForwardToken_adds (token generated : GoString)
    (hrandom : token = [] → s.tokenExists generated = false) :
    s.SameClients (s.addForwardToken E token generated).2 ∧
      s.Adds E (if token = [] then generated else token)
        (s.addForwardToken E token generated).2 := by
  fun_cases addForwardToken E s token generated
  case case3 hexists _ _ =>
    exact ⟨⟨rfl, rfl, rfl, rfl⟩, .forward (tokenExists_chosen hexists hrandom) rfl rfl rfl rfl rfl⟩
  all_goals exact Adds.refl _ s

theorem addReverseToken_adds (opts : ReverseTokenOptions) (generated : GoString)
    (startIdx : ℕ) (hrandom : opts.token = [] → s.tokenExists generated = false) :
    s.SameClients (s.addReverseToken E opts generated startIdx).2 ∧
      s.Adds E (if opts.token = [] then generated else opts.token)
        (s.addReverseToken E opts generated startIdx).2 := by
  fun_cases addReverseToken E s opts generated startIdx
  case case1 | case2 => exact Adds.refl _ s
  all_goals
    refine ⟨⟨rfl, rfl, rfl, rfl⟩, ?_⟩
    have hnew := tokenExists_chosen ‹¬ (opts.token ≠ [] ∧ _)› hrandom
  case case3 => exact .reverse (-1) hnew (by decide) rfl rfl rfl (.inl rfl) rfl
  case case6 hport => exact .reverse _ hnew hport rfl rfl rfl (.inr rfl) rfl
  all_goals exact .nothing rfl rfl rfl rfl (.inr rfl)

theorem addConnectorToken_adds (token reverseToken generated : GoString) :
    s.SameClients (s.addConnectorToken E token reverseToken generated).2 ∧
      s.Adds E (if token = [] then generated else token)
        (s.addConnectorToken E token reverseToken generated).2 := by
  fun_cases addConnectorToken E s token reverseToken generated
  case case6 htarget _ hnew _ =>
    have hmem : reverseToken ∈ s.registry.tokens := by
      rw [← AList.lookup_isSome, Option.isSome_iff_ne_none]
      simpa using htarget
    exact ⟨⟨rfl, rfl, rfl, rfl⟩, .connector reverseToken
      (Bool.eq_false_iff.mpr hnew) hmem rfl rfl rfl rfl rfl⟩
  all_goals exact Adds.refl _ s

/-- The server with other rules for its tokens. -/
def withRules (s : TokenServer) (forwardAC connectorAC : GoMap GoString AccessControl) :
    TokenServer :=
  { s with
    forwardTokenAC := forwardAC
    registry := { s.registry with connectorTokenAC := connectorAC } }

theorem Adds.withRules {token : GoString} {s' : TokenServer}
    (h : s.SameClients s' ∧ s.Adds E token s') (f c : GoMap GoString AccessControl) :
    s.SameClients (s'.withRules f c) ∧ s.Adds E token (s'.withRules f c) := by
  obtain ⟨⟨hi, ht, hc, hm⟩, hadds⟩ := h
  refine ⟨⟨hi, ht, hc, hm⟩, ?_⟩
  cases hadds with
  | nothing hf ht hc hm hh => exact .nothing hf ht hc hm hh
  | forward hnew hf ht hc hm hh => exact .forward hnew hf ht hc hm hh
  | reverse port hnew hport hf ht hc hm hh => exact .reverse port hnew hport hf ht hc hm hh
  | connector r hnew htarget hf ht hc hm hh => exact .connector r hnew htarget hf ht hc hm hh

theorem addForwardTokenWithRules_cases (token generated : GoString)
    (rules : Except String AccessControl) :
    (s.addForwardTokenWithRules E token generated rules).2 = s ∨
      ∃ f c, (s.addForwardTokenWithRules E token generated rules).2 =
        (s.addForwardToken E token generated).2.withRules f c := by
  fun_cases addForwardTokenWithRules E s token generated rules
  case case1 => exact .inl rfl
  case case2 hadd | case3 hadd => exact .inr ⟨_, _, by rw [hadd]; rfl⟩

theorem addConnectorTokenWithRules_cases (token reverseToken generated : GoString)
    (rules : Except String AccessControl) :
    (s.addConnectorTokenWithRules E token reverseToken generated rules).2 = s ∨
      ∃ f c, (s.addConnectorTokenWithRules E token reverseToken generated rules).2 =
        (s.addConnectorToken E token reverseToken generated).2.withRules f c := by
  fun_cases addConnectorTokenWithRules E s token reverseToken generated rules
  case case1 => exact .inl rfl
  case case2 hadd | case3 hadd => exact .inr ⟨_, _, by rw [hadd]; rfl⟩

theorem call_adds {c : TokenCall} {token : GoString} (hadded : c.added = some token)
    (hrandom : ∀ g ∈ c.random, s.tokenExists g = false) :
    s.SameClients (s.call E c) ∧ s.Adds E token (s.call E c) := by
  cases c with
  | addForwardToken t generated rules =>
    cases hadded
    have h := addForwardToken_adds (E := E) t generated fun ht =>
      hrandom generated (by simp [TokenCall.random, ht])
    cases rules with
    | none => exact h
    | some rules =>
      rw [call]
      obtain hsame | ⟨f, c, hrules⟩ := addForwardTokenWithRules_cases (E := E) t generated rules
      · exact hsame.symm ▸ Adds.refl _ s
      · exact hrules ▸ Adds.withRules h f c
  | addReverseToken opts generated startIdx =>
    cases hadded
    exact addReverseToken_adds opts generated startIdx fun htoken =>
      hrandom generated (by simp [TokenCall.random, htoken])
  | addConnectorToken t reverseToken generated rules =>
    cases hadded
    have h := addConnectorToken_adds (E := E) (s := s) t reverseToken generated
    cases rules with
    | none => exact h
    | some rules =>
      rw [call]
      obtain hsame | ⟨f, c, hrules⟩ :=
        addConnectorTokenWithRules_cases (E := E) t reverseToken generated rules
      · exact hsame.symm ▸ Adds.refl _ s
      · exact hrules ▸ Adds.withRules h f c
  | removeToken t => contradiction

variable {s' : TokenServer} {token : GoString}

theorem Adds.tokenExists_cases (h : s.Adds E token s') {x : GoString}
    (hx : s'.tokenExists x = true) : x = token ∨ s.tokenExists x = true := by
  rw [tokenExists_iff] at hx ⊢
  cases h with
  | nothing hf ht hc hm hh =>
    rw [hf, ht, hc] at hx
    exact .inr hx
  | forward hnew hf ht hc hm hh | reverse port hnew hport hf ht hc hm hh
  | connector r hnew htarget hf ht hc hm hh =>
    rw [hf, ht, hc, AList.mem_insert] at hx
    tauto

theorem call_cases {c : TokenCall} (hrandom : ∀ g ∈ c.random, s.tokenExists g = false) :
    (∃ token, c.added = some token ∧ s.SameClients (s.call E c) ∧ s.Adds E token (s.call E c)) ∨
      ∃ token, c = .removeToken token := by
  cases c with
  | removeToken token => exact .inr ⟨token, rfl⟩
  | addForwardToken | addReverseToken | addConnectorToken =>
    exact .inl ⟨_, rfl, call_adds rfl hrandom⟩

end TokenServer

end LinkSocks
