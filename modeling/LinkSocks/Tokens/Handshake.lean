import LinkSocks.Tokens.Calls

/-!
# The handshake of a client

`authenticateWebSocketClient` looks a token up, then checks the rules of a
connector, then assigns an internal token, each under a lock of its own.  What a
client is accepted for is in the tables at the moment of the lookup.
-/

namespace LinkSocks

open Go AList

section Validation

variable {w : IntSize} {L : Lib} {V : VersionLib} {R : Registry}
  {credentials : Credentials} {auth : WSClientAuth}

/-- The roles of a client are roles of its token. -/
structure Registry.Admits (R : Registry) (auth : WSClientAuth) : Prop where
  any : auth.roles.any = true
  reverse : auth.roles.reverse = true → R.isReverse auth.token = true
  forward : auth.roles.forward = true → R.isForward auth.token = true
  connector : auth.roles.connector = true → R.isConnector auth.token = true

theorem urlRoles_cases (R : Registry) (token reverse : GoString) :
    urlRoles R token reverse = ⟨false, false, false⟩ ∨ urlRoles R token reverse =
        ⟨R.isReverse token, R.isForward token, R.isConnector token⟩ := by
  rw [urlRoles]
  dsimp only
  split_ifs <;> simp

theorem frameRoles_admits {m : AuthMessage} (version : UInt8) (h : (frameRoles R m).any = true) :
    R.Admits ⟨m.token, R.reverseTokenOf m.token, frameRoles R m, version⟩ := by
  refine ⟨h, ?_, ?_, ?_⟩ <;> simp +contextual [frameRoles]

theorem validateToken_admits (h : validateToken w L V R credentials = .ok auth) :
    R.Admits auth := by
  revert h
  fun_cases validateToken w L V R credentials <;> intro h <;> cases h
  case case3 reverse _ original _ roles hany =>
    refine ⟨hany, ?_, ?_, ?_⟩
    all_goals
      rcases urlRoles_cases R original reverse with hroles | hroles
      · simp [roles, hroles]
      · simp [roles, hroles]
  case case6 hany => exact frameRoles_admits _ hany

theorem refuseSealedConnector_ok {auth' : WSClientAuth}
    (h : refuseSealedConnector R auth = .ok auth') : auth' = auth := by
  rw [refuseSealedConnector] at h
  split at h
  · cases h
  · exact (Except.ok.inj h).symm

theorem authenticateWebSocketClient_admits
    (h : authenticateWebSocketClient w L V R credentials = .ok auth) : R.Admits auth := by
  rw [authenticateWebSocketClient] at h
  cases hvalid : validateToken w L V R credentials with
  | error e =>
    rw [hvalid] at h
    cases h
  | ok auth' =>
    rw [hvalid] at h
    rw [refuseSealedConnector_ok h]
    exact validateToken_admits hvalid

theorem Registry.mem_tokens_of_isReverse {token : GoString}
    (h : R.isReverse token = true) : token ∈ R.tokens := by
  by_contra hnot
  rw [Registry.isReverse, lookup_eq_none.mpr hnot] at h
  simp at h

end Validation

namespace TokenServer

variable {s : TokenServer} {auth : WSClientAuth} {candidate : GoString}

theorem tokenExists_of_admits (h : s.registry.Admits auth) : s.tokenExists auth.token = true := by
  have hany := h.any
  rw [Roles.any, Bool.or_eq_true, Bool.or_eq_true] at hany
  rw [tokenExists_iff]
  rcases hany with (hreverse | hforward) | hconnector
  · exact .inr (.inl (Registry.mem_tokens_of_isReverse (h.reverse hreverse)))
  · exact .inl (lookup_isSome.mp (h.forward hforward))
  · have hisConnector := h.connector hconnector
    rw [Registry.isConnector, Bool.and_eq_true] at hisConnector
    exact .inr (.inr (lookup_isSome.mp hisConnector.1))

/-- The client is given an internal token of its own. -/
def Assigns (s : TokenServer) (auth : WSClientAuth) : Prop :=
  auth.roles.reverse = true ∧ auth.token ∈ s.manages

instance (s : TokenServer) (auth : WSClientAuth) : Decidable (s.Assigns auth) :=
  inferInstanceAs (Decidable (_ ∧ _))

theorem assignInternalToken_of_assigns (h : s.Assigns auth) : s.assignInternalToken auth candidate =
      (candidate, { s with toServer := s.addInternalToken auth.token candidate }) :=
  if_pos ⟨h.1, lookup_isSome.mpr h.2⟩

theorem assignInternalToken_of_not (h : ¬ s.Assigns auth) :
    s.assignInternalToken auth candidate = (auth.token, s) :=
  if_neg fun hassigns => h ⟨hassigns.1, lookup_isSome.mp hassigns.2⟩

theorem startReverseSocksServer_eq (s : TokenServer) (token : GoString) :
    ∃ tasks, s.startReverseSocksServer token = { s with socksTasks := tasks } := by
  rw [startReverseSocksServer]
  split
  · exact ⟨_, rfl⟩
  · exact ⟨s.socksTasks, rfl⟩

end TokenServer

end LinkSocks
