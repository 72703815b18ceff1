import LinkSocks.Go.Leases
import LinkSocks.Tokens.Integrity
import Mathlib.Data.List.Rotate

/-!
# Ports of reverse tokens

A reverse token has a port of the pool, or the port that was asked for.  A token
that may manage connectors has the marker `-1` instead, which is not a port.  The
pool remembers what is in use by itself, and a removal gives the port back.
-/

namespace LinkSocks

open Go List

/-! ## The pool -/

namespace PortPool

variable {p : PortPool}

theorem get_cases (p : PortPool) (requestedPort : Int) (startIdx : ℕ) :
    p.get requestedPort startIdx = (0, p) ∧
        (requestedPort = 0 → ∀ port ∈ p.ports, port ∈ p.usedPorts) ∨
      ∃ port, p.get requestedPort startIdx = p.take port ∧ port ∉ p.usedPorts ∧
        (requestedPort = 0 → port ∈ p.ports) ∧ (requestedPort ≠ 0 → port = requestedPort) := by
  rw [get]
  by_cases hrequested : requestedPort ≠ 0
  · rw [if_pos hrequested]
    split
    · rename_i hfree
      exact .inr ⟨requestedPort, rfl, hfree, fun h => absurd h hrequested, fun _ => rfl⟩
    · exact .inl ⟨rfl, fun h => absurd h hrequested⟩
  · rw [if_neg hrequested]
    split
    · rename_i port hfind
      have hfree : port ∉ p.usedPorts := by
        simpa using find?_some hfind
      have hmem := mem_rotate.mp (mem_of_find?_eq_some hfind)
      exact .inr ⟨port, rfl, hfree, fun _ => hmem, fun h => absurd h hrequested⟩
    · rename_i hnone
      refine .inl ⟨rfl, fun _ port hport => ?_⟩
      have hused := find?_eq_none.mp hnone port (mem_rotate.mpr hport)
      simpa using hused

theorem get_eq_zero (hpositive : ∀ port ∈ p.ports, 0 < port) {startIdx : ℕ}
    (h : (p.get 0 startIdx).1 = 0) : ∀ port ∈ p.ports, port ∈ p.usedPorts := by
  rcases p.get_cases 0 startIdx with ⟨-, hfull⟩ | ⟨port, hget, -, hmem, -⟩
  · exact hfull rfl
  · rw [hget] at h
    have hport := hpositive port (hmem rfl)
    change port = 0 at h
    omega

theorem mem_put {port x : Int} : x ∈ (p.put port).usedPorts ↔ x ≠ port ∧ x ∈ p.usedPorts := by
  simp [put, and_comm]

end PortPool

/-! ## Tokens and their ports -/

namespace TokenServer

variable {E : TokenEnv} {s s' : TokenServer} {ports : List Int} {startIdx : ℕ}

/-- No client has connected, so there are no internal tokens, and the ports that
are in use are those of the tokens. -/
structure Ported (ports : List Int) (s : TokenServer) : Prop where
  leased : Leased (0 < ·) s.registry.tokens s.portPool.usedPorts
  ports : s.portPool.ports = ports
  internal : ∀ t, s.internalOf t = []

theorem Ported.of_same (h : s.Ported ports) (hclients : s.SameClients s')
    (htokens : s'.registry.tokens = s.registry.tokens)
    (hpool : s'.portPool = s.portPool) : s'.Ported ports where
  leased := by
    rw [htokens, hpool]
    exact h.leased
  ports := by
    rw [hpool]
    exact h.ports
  internal := fun t => (hclients.internalOf t).trans (h.internal t)

/-- A call that adds another kind of token has nothing to do with ports. -/
theorem addForwardToken_portPool (token generated : GoString) :
    (s.addForwardToken E token generated).2.registry.tokens = s.registry.tokens ∧
      (s.addForwardToken E token generated).2.portPool = s.portPool := by
  fun_cases addForwardToken E s token generated <;> exact ⟨rfl, rfl⟩

theorem addConnectorToken_portPool (token reverseToken generated : GoString) :
    (s.addConnectorToken E token reverseToken generated).2.registry.tokens = s.registry.tokens ∧
      (s.addConnectorToken E token reverseToken generated).2.portPool = s.portPool := by
  fun_cases addConnectorToken E s token reverseToken generated <;> exact ⟨rfl, rfl⟩

theorem Ported.addReverseToken (h : s.Ported ports) (hpositive : ∀ port ∈ ports, 0 < port)
    {opts : ReverseTokenOptions} {generated : GoString}
    (hrandom : opts.token = [] → s.tokenExists generated = false) :
    (s.addReverseToken E opts generated startIdx).2.Ported ports := by
  fun_cases TokenServer.addReverseToken E s opts generated startIdx
  case case1 | case2 => exact h
  case case4 => exact ⟨h.leased, h.ports, h.internal⟩
  case case3 hexists token _ _ =>
    have hnew := not_mem_of_tokenExists (tokenExists_chosen hexists hrandom)
    -- the marker is no port, so nothing is taken for it
    refine ⟨h.leased.insert (AList.lookup_eq_none.mpr hnew.2.1)
      (fun hmarker => absurd hmarker (by decide)) ?_, h.ports, h.internal⟩
    intro port hport
    refine ⟨.inr, fun hmem => hmem.resolve_left ?_⟩
    rintro rfl
    exact absurd hport (by decide)
  case case5 pool hget =>
    obtain ⟨hnone, -⟩ | ⟨port, htake, -, hmem, hrequested⟩ :=
      s.portPool.get_cases opts.port startIdx
    · cases hnone.symm.trans hget
      exact ⟨h.leased, h.ports, h.internal⟩
    · cases htake.symm.trans hget
      by_cases hzero : opts.port = 0
      · exact absurd (hpositive 0 (h.ports ▸ hmem hzero)) (by decide)
      · exact absurd (hrequested hzero).symm hzero
  case case6 hnone port pool hget hport =>
    obtain ⟨hfull, -⟩ | ⟨port', htake, hfree, -⟩ := s.portPool.get_cases opts.port startIdx
    · cases hfull.symm.trans hget
      exact absurd rfl hport
    · cases htake.symm.trans hget
      exact ⟨h.leased.insert hnone (fun _ => hfree) fun x _ => mem_cons, h.ports, h.internal⟩

theorem Ported.removeBranch (token : GoString)
    (h : Leased (0 < ·) s.registry.tokens s.portPool.usedPorts) :
    Leased (0 < ·) (s.removeBranch token).registry.tokens
        (s.removeBranch token).portPool.usedPorts ∧
      (s.removeBranch token).portPool.ports = s.portPool.ports := by
  fun_cases TokenServer.removeBranch s token
  case case1 =>
    rw [removeConnectorToken_registry]
    exact ⟨h, rfl⟩
  case case2 port hport =>
    rw [removeReverseToken_registry]
    exact ⟨h.erase hport fun x _ => PortPool.mem_put, rfl⟩
  all_goals exact ⟨h, rfl⟩

theorem Ported.removeToken (h : s.Ported ports) (token : GoString) :
    (s.removeToken token).Ported ports := by
  have hregistry : (s.removeInternalTokens token).registry = s.registry := by
    rw [removeInternalTokens_registry, h.internal token]
    rfl
  obtain ⟨hleased, hports⟩ := Ported.removeBranch (s := s.removeInternalTokens token) token
    (hregistry ▸ h.leased)
  refine ⟨hleased, hports.trans h.ports, fun t => ?_⟩
  by_cases ht : t = token
  · rw [ht]
    exact s.removeToken_internalOf_self token
  · exact (s.removeToken_internalOf_of_ne ht).trans (h.internal t)

section

variable (h : s.Ported ports) (hpositive : ∀ port ∈ ports, 0 < port)
include h hpositive

theorem Ported.call {c : TokenCall} (hrandom : ∀ g ∈ c.random, s.tokenExists g = false) :
    (s.call E c).Ported ports := by
  cases c with
  | addReverseToken opts generated startIdx =>
    exact h.addReverseToken hpositive fun htoken =>
      hrandom generated (by simp [TokenCall.random, htoken])
  | removeToken token => exact h.removeToken token
  | addForwardToken token generated rules =>
    obtain ⟨hclients, -⟩ := call_adds (E := E) rfl hrandom
    obtain ⟨htokens, hpool⟩ := addForwardToken_portPool (E := E) (s := s) token generated
    cases rules with
    | none => exact h.of_same hclients htokens hpool
    | some rules =>
      rw [TokenServer.call] at hclients ⊢
      obtain hsame | ⟨f, c, hrules⟩ := addForwardTokenWithRules_cases (E := E) token generated rules
      · exact hsame.symm ▸ h
      · rw [hrules] at hclients ⊢
        exact h.of_same hclients htokens hpool
  | addConnectorToken token reverseToken generated rules =>
    obtain ⟨hclients, -⟩ := call_adds (E := E) rfl hrandom
    obtain ⟨htokens, hpool⟩ :=
      addConnectorToken_portPool (E := E) (s := s) token reverseToken generated
    cases rules with
    | none => exact h.of_same hclients htokens hpool
    | some rules =>
      rw [TokenServer.call] at hclients ⊢
      obtain hsame | ⟨f, c, hrules⟩ :=
        addConnectorTokenWithRules_cases (E := E) token reverseToken generated rules
      · exact hsame.symm ▸ h
      · rw [hrules] at hclients ⊢
        exact h.of_same hclients htokens hpool

theorem Ported.held_of_get_eq_zero (hzero : (s.portPool.get 0 startIdx).1 = 0) :
    ∀ port ∈ ports, ∃ t, s.registry.tokens.lookup t = some port := by
  intro port hmem
  have hused := PortPool.get_eq_zero (h.ports ▸ hpositive) hzero port (h.ports ▸ hmem)
  exact (h.leased.mem_taken port (hpositive port hmem)).mp hused

/-- Without a port in the request, what fails is the choice of the token, or all
ports of the pool are held. -/
theorem Ported.error_of_addReverseToken {opts : ReverseTokenOptions}
    (hport : opts.port = 0) {generated : GoString} {e : String}
    (herror : (s.addReverseToken E opts generated startIdx).1 = .error e) :
    opts.token = ascii "anonymous" ∨ opts.token ≠ [] ∧ s.tokenExists opts.token = true ∨
      ∀ port ∈ ports, ∃ t, s.registry.tokens.lookup t = some port := by
  revert herror
  fun_cases TokenServer.addReverseToken E s opts generated startIdx <;> intro herror
  case case1 hanonymous => exact .inl hanonymous
  case case2 hexists => exact .inr (.inl hexists)
  case case5 pool hget =>
    rw [hport] at hget
    exact .inr (.inr (h.held_of_get_eq_zero hpositive (congrArg Prod.fst hget)))
  all_goals cases herror

end

end TokenServer

/-! ## Runs -/

namespace TokenHub

variable {E : TokenEnv} {s : TokenHub}

/-- From a server with a pool of positive ports, whatever tokens are added and
removed: no two tokens have the same port, the ports in use are those of the
tokens, and the pool refuses a request without a port only if every port of the
pool is held.  So what else makes such a call fail is its token. -/
theorem ports_exclusive {version : Link → UInt8} {ports : List Int}
    (hpositive : ∀ port ∈ ports, 0 < port) {calls : List TokenCall}
    (hrun : run (step E) (start version ⟨ports, []⟩) (calls.map .call) = some s) :
    (∀ t t' port, 0 < port → s.server.registry.tokens.lookup t = some port →
      s.server.registry.tokens.lookup t' = some port → t = t') ∧
    (∀ port, 0 < port → (port ∈ s.server.portPool.usedPorts ↔
      ∃ t, s.server.registry.tokens.lookup t = some port)) ∧
    (∀ startIdx, (s.server.portPool.get 0 startIdx).1 = 0 →
      ∀ port ∈ ports, ∃ t, s.server.registry.tokens.lookup t = some port) ∧
    ∀ opts generated startIdx e, opts.port = 0 →
      (s.server.addReverseToken E opts generated startIdx).1 = .error e →
      opts.token = ascii "anonymous" ∨ opts.token ≠ [] ∧ s.server.tokenExists opts.token = true ∨
        ∀ port ∈ ports, ∃ t, s.server.registry.tokens.lookup t = some port := by
  have hstart : (start version ⟨ports, []⟩).server.Ported ports := ⟨.empty, rfl, fun _ => rfl⟩
  have hguard : Guarded (step E) (fun _ a => ∃ c, a = .call c)
      (start version ⟨ports, []⟩) (calls.map .call) := by
    refine guarded_of_forall_mem (fun a ha _ => ?_) _
    obtain ⟨c, -, rfl⟩ := mem_map.mp ha
    exact ⟨c, rfl⟩
  have hported : s.server.Ported ports := by
    refine run_invariant (I := fun s => s.server.Ported ports) ?_ hstart hguard hrun
    rintro s _ s' h ⟨c, rfl⟩ hstep
    obtain ⟨hrandom, rfl⟩ := of_ite_some hstep
    exact h.call hpositive hrandom
  exact ⟨hported.leased.exclusive, hported.leased.mem_taken,
    fun _ hzero => hported.held_of_get_eq_zero hpositive hzero,
    fun _ _ _ _ hport herror => hported.error_of_addReverseToken hpositive hport herror⟩

end TokenHub

/-! ## A pool of two ports -/

/-- Three tokens: one with a port of the pool, one that manages connectors, one
with a port of its own.  The first is removed, and its port goes to another. -/
def portCalls : List TokenCall :=
  [.addReverseToken ⟨ascii "a", 0, false⟩ [] 1, .addReverseToken ⟨ascii "b", 0, true⟩ [] 0,
    .addReverseToken ⟨ascii "c", 9000, false⟩ [] 0, .removeToken (ascii "a"),
    .removeToken (ascii "b"), .addReverseToken ⟨ascii "d", 0, false⟩ [] 1]

theorem portCalls_exclusive : ∃ s ∈ run (TokenHub.step tokenEnv)
        (.start (fun _ => protocolVersionV1) ⟨[1080, 1081], []⟩) (portCalls.map .call),
      s.server.registry.tokens.lookup (ascii "d") = some 1081 ∧
      (1081 ∈ s.server.portPool.usedPorts ↔ ∃ t, s.server.registry.tokens.lookup t = some 1081) ∧
      ∀ t, s.server.registry.tokens.lookup t = some 1081 → t = ascii "d" := by
  refine exists_run_and_of (by decide +kernel) fun s hrun hlookup => ?_
  obtain ⟨hdistinct, hused, -, -⟩ := TokenHub.ports_exclusive (by decide) hrun
  exact ⟨hused 1081 (by decide), fun t ht => hdistinct t _ 1081 (by decide) ht hlookup⟩

end LinkSocks
