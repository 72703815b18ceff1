import LinkSocks.Dial.Gateway

/-!
# Rules of tokens and rules of the server

The rules of a forward token are checked when its client asks: by the dispatcher for a
request in the clear, and by the session for a sealed one, which keeps the rules that the
token had when the session was opened.  The handler that dials then checks the rules of the
server as well.  So the rules of a token are an addition to those of the server.
-/

namespace LinkSocks

open Go Endpoint Option

/-! ## Sessions keep their rules -/

namespace Gateway

variable {E : GatewayEnv} {s s' t : Gateway} {ref : SessionRef}
  {x : RecvSession}

theorem newSession_continues (clientID : UUID) (n : ℕ) (channelID : UUID)
    (hx : s.hub.session ref = some x) :
    ∃ x', (s.newSession E clientID n channelID).hub.session ref = some x' ∧ x.Continues x' := by
  change ∃ x', ((s.hub.modify channelID _) ref.channel).sessions[ref.index]? = some x' ∧ _
  by_cases hchannel : ref.channel = channelID
  · rw [Endpoint.session, hchannel] at hx
    rw [hchannel, modify_self]
    exact ChannelState.newSession_continues false _ hx
  · rw [modify_of_ne _ _ hchannel]
    exact ⟨x, hx, rfl, rfl⟩

theorem messageDispatcher_continues {clientID : UUID} {n : ℕ} {m : BaseMessage}
    (hstep : s.messageDispatcher E clientID n m = some s') (hx : s.hub.session ref = some x) :
    ∃ x', s'.hub.session ref = some x' ∧ x.Continues x' := by
  have hsame : ∃ x', s.hub.session ref = some x' ∧ x.Continues x' := ⟨x, hx, rfl, rfl⟩
  cases m with
  | connect m =>
    rw [messageDispatcher] at hstep
    split_ifs at hstep
    · cases hstep
      have hadvances : s.hub.Advances (s.hub.modify m.channelID fun ch =>
          { ch with queue := some (ch.queue.getD []) }) := .of_quiet (.of_eq rfl rfl)
      exact hadvances.continues ref x hx
    · cases hstep
      exact hsame
    · cases hstep
      exact hsame
  | channelOpen m =>
    rw [messageDispatcher] at hstep
    split_ifs at hstep
    · cases hstep
      rw [acceptChannel]
      split
      · exact hsame
      · split_ifs
        · exact hsame
        · exact newSession_continues clientID n m.channelID hx
    · cases hstep
      exact hsame
  | sealed m =>
    simp only [messageDispatcher] at hstep
    split at hstep
    · cases hstep
      exact hsame
    · obtain ⟨hub, hhub, rfl⟩ := map_eq_some_iff.mp hstep
      exact (advances_hubDeliver hhub).continues ref x hx
  | _ =>
    cases hstep
    exact hsame

theorem step_continues {a : GatewayAction} (hstep : s.step E a = some s')
    (hx : s.hub.session ref = some x) : ∃ x', s'.hub.session ref = some x' ∧ x.Continues x' := by
  cases a with
  | token a =>
    rw [step] at hstep
    split_ifs at hstep
    obtain ⟨tokens, -, rfl⟩ := map_eq_some_iff.mp hstep
    exact ⟨x, hx, rfl, rfl⟩
  | message clientID m n =>
    rw [step] at hstep
    split_ifs at hstep
    obtain ⟨auth, -, hdispatch⟩ := bind_eq_some_iff.mp hstep
    split_ifs at hdispatch
    · cases hdispatch
      exact ⟨x, hx, rfl, rfl⟩
    · exact messageDispatcher_continues hdispatch hx
  | hub a =>
    obtain ⟨hframe, hub, hhub, rfl⟩ := step_hub hstep
    exact (advances_step E.isServer hframe hhub).continues ref x hx

theorem run_continues {actions : List GatewayAction}
    (hrun : run (step E) s actions = some t) (hx : s.hub.session ref = some x) :
    ∃ x', t.hub.session ref = some x' ∧ x.Continues x' := by
  refine run_preserves (I := fun u => ∃ x', u.hub.session ref = some x' ∧ x.Continues x') ?_
    ⟨x, hx, rfl, rfl⟩ hrun
  rintro u a u' ⟨y, hy, hcontinues⟩ hstep
  obtain ⟨z, hz, hlater⟩ := step_continues hstep hy
  exact ⟨z, hz, hlater.initiator.trans hcontinues.initiator,
    hlater.accessCheck.trans hcontinues.accessCheck⟩

/-- The client opens a session in the state `s`; `t` is any later state. -/
def Opens (E : GatewayEnv) (s : Gateway) (clientID : UUID) (n : ℕ) (ref : SessionRef)
    (t : Gateway) : Prop :=
  ∃ (m : ChannelOpenMessage) (s' : Gateway) (actions : List GatewayAction),
    m.resume = false ∧ (s.hub m.channelID).registered = none ∧
    ref = ⟨m.channelID, (s.hub m.channelID).sessions.length⟩ ∧
    s.messageDispatcher E clientID n (.channelOpen m) = some s' ∧ run (step E) s' actions = some t

theorem Opens.session {clientID : UUID} {n : ℕ}
    (h : s.Opens E clientID n ref t) (hclient : clientID ∈ s.tokens.server.clients) :
    ∃ x, t.hub.session ref = some x ∧ x.initiator = false ∧
      x.accessCheck = s.tokens.server.accessCheck E.dial clientID n := by
  obtain ⟨m, s', actions, hresume, hnone, rfl, hopen, hrun⟩ := h
  rw [messageDispatcher, if_pos hclient] at hopen
  cases hopen
  have hnew : s.acceptChannel E clientID n m = s.newSession E clientID n m.channelID := by
    rw [acceptChannel, hnone]
    simp [hresume]
  rw [hnew] at hrun
  have hsession : (s.newSession E clientID n m.channelID).hub.session
      ⟨m.channelID, (s.hub m.channelID).sessions.length⟩ =
      some ⟨false, s.tokens.server.accessCheck E.dial clientID n, [], 0, false, 0,
        false, false⟩ := by
    change ((s.hub.modify m.channelID _) m.channelID).sessions[_]? = _
    rw [modify_self]
    exact List.getElem?_concat_length
  obtain ⟨x, hx, hcontinues⟩ := run_continues hrun hsession
  exact ⟨x, hx, hcontinues.initiator, hcontinues.accessCheck⟩

end Gateway

/-! ## What is dialed -/

def NetworkOutcome.dialsTCP : NetworkOutcome → Bool
  | .tcp (.dialed _) => true
  | _ => false

/-- A request in the clear of the client is dialed. -/
def Gateway.DialsPlain (E : GatewayEnv) (N : Dialer) (D : DialRules) (s : Gateway)
    (clientID : UUID) (n k : ℕ) (m : ConnectMessage) : Prop :=
  ∃ s', s.messageDispatcher E clientID n (.connect m) = some s' ∧
    s'.requests = s.requests ++ [(clientID, m)] ∧
    (handleNetworkConnection E.dial N D k m).dialsTCP = true

/-- A request that the session has decrypted is dialed. -/
def Gateway.DialsSealed (E : GatewayEnv) (N : Dialer) (D : DialRules) (t : Gateway)
    (ref : SessionRef) (k : ℕ) (m : ConnectMessage) : Prop :=
  ∃ x hub, t.hub.session ref = some x ∧ t.hub.dispatch E.hub ref x (.connect m) = some hub ∧
    (hub m.channelID).dials = (t.hub m.channelID).dials ++ [⟨ref, m⟩] ∧
    (handleNetworkConnection E.dial N D k m).dialsTCP = true

/-- The decision that is documented: the rules of the token if it has any, and
those of the server otherwise. -/
def Decided (tokenAC : Option AccessControl) (D : DialRules) (ip : Bytes) (port : Int) : Prop :=
  AccessControl.allow (if AccessControl.empty tokenAC then D.effective else tokenAC)
    (some [ip]) port = true

instance (tokenAC : Option AccessControl) (D : DialRules) (ip : Bytes) (port : Int) :
    Decidable (Decided tokenAC D ip port) := inferInstanceAs (Decidable (_ = true))

/-- What the decision allows is a port, and allowed by the server. -/
def ServerAgrees (tokenAC : Option AccessControl) (D : DialRules) (ip : Bytes)
    (port : Int) : Prop :=
  Decided tokenAC D ip port →
    (0 < port ∧ port ≤ 65535) ∧ AccessControl.allow D.effective (some [ip]) port = true

section Literals

variable {E : DialEnv} {host : GoString} {ip : Bytes}

theorem DialEnv.checkDialAccess_literal (hip : E.parseIP host = some ip) (D : DialRules)
    (n : ℕ) (port : Int) : (E.checkDialAccess D n host port).1 = none ↔
      AccessControl.allow D.effective (some [ip]) port = true := by
  rw [← E.allow_literal hip D.effective n port, checkDialAccess, checkRule]
  split
  · rename_i hallow
    simp [hallow]
  · rename_i hallow
    simp [hallow]

theorem handleTCPConnection_literal {m : ConnectMessage}
    (hip : E.parseIP m.address = some ip) (N : Dialer) (D : DialRules) (n : ℕ) :
    (∃ conn, handleTCPConnection E N D n m = .dialed conn) ↔ (0 < m.port ∧ m.port ≤ 65535) ∧
        AccessControl.allow D.effective (some [ip]) m.port = true := by
  rw [← E.checkDialAccess_literal hip D n m.port, handleTCPConnection]
  split
  · refine iff_of_false (by simp) ?_
    omega
  · have hvalid : 0 < m.port ∧ m.port ≤ 65535 := by omega
    split
    · rename_i hcheck
      simp [hcheck]
    · rename_i hcheck
      simp [hcheck, hvalid]

end Literals

/-- The rules of a token are checked first, and those of the server afterwards. -/
theorem decided_iff_of_checked {P : Prop} {tokenAC : Option AccessControl} {D : DialRules}
    {ip : Bytes} {port : Int} (hP : P ↔ AccessControl.allow tokenAC (some [ip]) port = true ∧
      (0 < port ∧ port ≤ 65535) ∧ AccessControl.allow D.effective (some [ip]) port = true) :
    (P ↔ Decided tokenAC D ip port) ↔ ServerAgrees tokenAC D ip port := by
  rw [ServerAgrees, Decided]
  split
  · rename_i hempty
    have hallow := AccessControl.allow_of_empty hempty (some [ip]) port
    tauto
  · tauto

namespace Gateway

variable {E : GatewayEnv} {N : Dialer} {D : DialRules} {s t : Gateway}
  {clientID : UUID} {n k : ℕ} {m : ConnectMessage} {ip : Bytes}

theorem refusal_iff (hip : E.dial.parseIP m.address = some ip) {x : RecvSession}
    (hcheck : x.accessCheck = s.tokens.server.accessCheck E.dial clientID n) :
    x.refusal m = none ↔ AccessControl.allow (s.tokens.server.forwardRules clientID) (some [ip])
        m.port = true := by
  rw [RecvSession.refusal, hcheck, TokenServer.accessCheck]
  cases hempty : AccessControl.empty (s.tokens.server.forwardRules clientID) with
  | true => exact iff_of_true rfl (AccessControl.allow_of_empty hempty _ _)
  | false =>
    simp only [Bool.false_eq_true, if_false, E.dial.allow_literal hip]
    cases AccessControl.allow (s.tokens.server.forwardRules clientID) (some [ip]) m.port <;> simp

section

variable (hip : E.dial.parseIP m.address = some ip) (htcp : m.protocol = LinkSocks.tcp)
  (hresume : m.resume = false)
include hip htcp hresume

theorem dialsTCP_iff :
    (handleNetworkConnection E.dial N D k m).dialsTCP = true ↔ (0 < m.port ∧ m.port ≤ 65535) ∧
        AccessControl.allow D.effective (some [ip]) m.port = true := by
  rw [← handleTCPConnection_literal hip N D k, handleNetworkConnection, hresume,
    if_pos htcp]
  cases handleTCPConnection E.dial N D k m <;> simp [NetworkOutcome.dialsTCP]

theorem dialsPlain_iff (hclient : clientID ∈ s.tokens.server.clients) :
    s.DialsPlain E N D clientID n k m ↔
      AccessControl.allow (s.tokens.server.forwardRules clientID) (some [ip]) m.port = true ∧
        (0 < m.port ∧ m.port ≤ 65535) ∧
        AccessControl.allow D.effective (some [ip]) m.port = true := by
  rw [DialsPlain, dialsTCP_iff hip htcp hresume, messageDispatcher, if_pos hclient,
    E.dial.allow_literal hip]
  cases AccessControl.allow (s.tokens.server.forwardRules clientID) (some [ip]) m.port with
  | true => simp
  | false => simp

theorem dialsSealed_iff {ref : SessionRef} (hopens : s.Opens E clientID n ref t)
    (hclient : clientID ∈ s.tokens.server.clients) : t.DialsSealed E N D ref k m ↔
      AccessControl.allow (s.tokens.server.forwardRules clientID) (some [ip]) m.port = true ∧
        (0 < m.port ∧ m.port ≤ 65535) ∧
        AccessControl.allow D.effective (some [ip]) m.port = true := by
  obtain ⟨x, hx, hside, hcheck⟩ := hopens.session hclient
  have hdispatch : (∃ hub, t.hub.dispatch E.hub ref x (.connect m) = some hub ∧
      (hub m.channelID).dials = (t.hub m.channelID).dials ++ [⟨ref, m⟩]) ↔ x.refusal m = none := by
    simp only [Endpoint.dispatch, hside, E.isServer, Bool.false_eq_true, if_false]
    cases x.refusal m with
    | none => simp [ChannelState.relayConnect]
    | some text => simp
  rw [← dialsTCP_iff hip htcp hresume, ← refusal_iff hip hcheck, ← hdispatch]
  constructor
  · rintro ⟨y, hub, hy, hhub, hdials, htcp⟩
    obtain rfl : x = y := some.inj (hx.symm.trans hy)
    exact ⟨⟨hub, hhub, hdials⟩, htcp⟩
  · rintro ⟨⟨hub, hhub, hdials⟩, htcp⟩
    exact ⟨x, hub, hx, hhub, hdials, htcp⟩

end

/-- For a request of a client of the token to a literal address, in the clear or under seal, the
documented decision is taken if and only if whatever it allows is a port that the server allows.
-/
theorem token_rules_override_iff (N : Dialer) (D : DialRules) {token : GoString}
    (hclient : clientID ∈ s.tokens.server.clients)
    (htoken : s.tokens.server.clientMeta.lookup clientID = some token)
    (hip : E.dial.parseIP m.address = some ip) (htcp : m.protocol = LinkSocks.tcp)
    (hresume : m.resume = false) (n k : ℕ) : ((s.DialsPlain E N D clientID n k m ↔
        Decided (s.tokens.server.forwardTokenAC.lookup token) D ip m.port) ↔
      ServerAgrees (s.tokens.server.forwardTokenAC.lookup token) D ip m.port) ∧
    ∀ ref t, s.Opens E clientID n ref t → ((t.DialsSealed E N D ref k m ↔
          Decided (s.tokens.server.forwardTokenAC.lookup token) D ip m.port) ↔
        ServerAgrees (s.tokens.server.forwardTokenAC.lookup token) D ip m.port) := by
  have hrules : s.tokens.server.forwardTokenAC.lookup token =
      s.tokens.server.forwardRules clientID := by
    rw [TokenServer.forwardRules, htoken]
    rfl
  rw [hrules]
  exact ⟨decided_iff_of_checked (dialsPlain_iff hip htcp hresume hclient),
    fun ref t hopens => decided_iff_of_checked (dialsSealed_iff hip htcp hresume hopens hclient)⟩

end Gateway

/-! ## A token with rules -/

/-- The rules of the token allow one address, and its client connects. -/
def ruledRun : List GatewayAction :=
  [.token (.call (.addForwardToken (ascii "f") [] (some (.ok loopbackRules)))),
    .token (.connect (uuidOf 1) 1 (.frame (helloFrame (ascii "f") false 7)) UUID.nil true)]

def elsewhereRules : DialRules where
  dialAC := none
  option := some { rules := [⟨[⟨ipLast 2, ipLast 2⟩], []⟩] }

/-- Without rules of the server, those of the token decide. -/
theorem ruledClient_dialed : ∃ s ∈ run (Gateway.step gatewayEnv) gateway ruledRun,
      Decided (s.tokens.server.forwardTokenAC.lookup (ascii "f")) ⟨none, none⟩ (ipLast 1) 80 ∧
      s.DialsPlain gatewayEnv (.only (ipLast 1)) ⟨none, none⟩ (uuidOf 1) 0 0 nameRequest ∧
      ∀ ref t, s.Opens gatewayEnv (uuidOf 1) 0 ref t →
        t.DialsSealed gatewayEnv (.only (ipLast 1)) ⟨none, none⟩ ref 0 nameRequest := by
  have hrun : ∃ s ∈ run (Gateway.step gatewayEnv) gateway ruledRun,
      uuidOf 1 ∈ s.tokens.server.clients ∧
      s.tokens.server.clientMeta.lookup (uuidOf 1) = some (ascii "f") ∧
      Decided (s.tokens.server.forwardTokenAC.lookup (ascii "f")) ⟨none, none⟩
        (ipLast 1) 80 := by
    decide +kernel
  obtain ⟨s, hs, hclient, htoken, hdecided⟩ := hrun
  have hagrees : ServerAgrees (s.tokens.server.forwardTokenAC.lookup (ascii "f"))
      ⟨none, none⟩ (ipLast 1) 80 := fun _ => by decide
  obtain ⟨hplain, hsealed⟩ := Gateway.token_rules_override_iff (E := gatewayEnv)
    (m := nameRequest) (.only (ipLast 1)) ⟨none, none⟩ hclient htoken rfl rfl rfl 0 0
  exact ⟨s, hs, hdecided, (hplain.mpr hagrees).mpr hdecided,
    fun ref t hopens => ((hsealed ref t hopens).mpr hagrees).mpr hdecided⟩

/-- The rules of the token allow the request, and the server refuses it: the
handler is started for both forms of the request, and blocks it. -/
theorem ruledClient_blocked : (∃ s ∈ run (Gateway.step gatewayEnv) gateway ruledRun,
      Decided (s.tokens.server.forwardTokenAC.lookup (ascii "f")) elsewhereRules (ipLast 1) 80) ∧
    (∃ s ∈ run (Gateway.step gatewayEnv) gateway
        (ruledRun ++ askPlain (uuidOf 1) ++ askSealed (uuidOf 1)),
      s.requests = [(uuidOf 1, nameRequest)] ∧
      (s.hub (uuidOf 9)).dials.map Dial.request = [nameRequest]) ∧
    handleNetworkConnection literalEnv (.only (ipLast 1)) elsewhereRules 0 nameRequest =
      .tcp (.blocked ⟨false, ascii "destination h:80 blocked by access control", uuidOf 9⟩) := by
  decide +kernel

end LinkSocks
