import LinkSocks.Direct.Probe

/-!
# Authentication of QUIC connections

No certificate is verified, so the handshake has to find out who is at the other end of a
QUIC connection: the client writes a hello with a nonce, the server an acknowledgement of
the nonce, both with a tag under the session key.  The tags do not cover the connection.  An
attacker without the key can be an end of a connection with either peer, and can have a peer
connected with itself.  Between two peers a connection delivers what is written; on his own
connections the attacker reads what the peer writes, and writes what he likes, except a tag
that verifies and that he has not read.
-/

namespace LinkSocks

open Go List Option

/-! ## The two functions -/

/-- The message of one type with its tag. -/
def newDirectQUICHandshake (H : HMAC) (sessionKey : Bytes) (sessionID : UUID) (type : UInt8)
    (nonce : Fixed 8) : DirectQUICHandshake :=
  let f : DirectFields := ⟨directQUICHandshakeVersion, type, sessionID, nonce⟩
  ⟨f, computeDirectQUICHandshakeMAC H sessionKey f⟩

def directQUICClientAuth (H : HMAC) (sessionID : UUID) (sessionKey : Bytes) (nonce : Fixed 8)
    (buf : Bytes) : Except Error Unit :=
  match parseDirectQUICHandshake buf with
  | none => .error (.msg "direct quic: invalid handshake ack")
  | some ack =>
    if ack.type ≠ directQUICHandshakeTypeAck then
      .error (.msg "direct quic: unexpected handshake type")
    else if ack.sessionID ≠ sessionID then .error (.msg "direct quic: session_id mismatch")
    else if ack.nonce ≠ nonce then .error (.msg "direct quic: nonce mismatch")
    else if !verifyDirectQUICHandshakeMAC H sessionKey ack.toDirectFields ack.mac then
      .error (.msg "direct quic: invalid ack mac")
    else .ok ()

/-- What `directQUICServerAuth` does with the bytes that it reads: the message it
writes. -/
def directQUICServerAuth (H : HMAC) (sessionID : UUID) (sessionKey : Bytes) (buf : Bytes) :
    Except Error DirectQUICHandshake :=
  match parseDirectQUICHandshake buf with
  | none => .error (.msg "direct quic: invalid handshake")
  | some h =>
    if h.type ≠ directQUICHandshakeTypeHello then
      .error (.msg "direct quic: unexpected handshake type")
    else if h.sessionID ≠ sessionID then .error (.msg "direct quic: session_id mismatch")
    else if !verifyDirectQUICHandshakeMAC H sessionKey h.toDirectFields h.mac then
      .error (.msg "direct quic: invalid hello mac")
    else .ok (newDirectQUICHandshake H sessionKey sessionID directQUICHandshakeTypeAck h.nonce)

/-- The bytes are a message with a valid tag. -/
def Tagged (H : HMAC) (sessionKey : Bytes) (buf : Bytes) : Prop :=
  ∃ h ∈ parseDirectQUICHandshake buf,
    verifyDirectQUICHandshakeMAC H sessionKey h.toDirectFields h.mac = true

theorem tagged_of_clientAuth {H : HMAC} {sessionID : UUID} {sessionKey buf : Bytes}
    {nonce : Fixed 8} (h : directQUICClientAuth H sessionID sessionKey nonce buf = .ok ()) :
    Tagged H sessionKey buf := by
  rw [directQUICClientAuth] at h
  split at h
  · cases h
  · rename_i ack hparse
    split_ifs at h with htype hsession hnonce hverify
    exact ⟨ack, hparse, by simpa using hverify⟩

theorem tagged_of_serverAuth {H : HMAC} {sessionID : UUID} {sessionKey buf : Bytes}
    {ack : DirectQUICHandshake} (h : directQUICServerAuth H sessionID sessionKey buf = .ok ack) :
    Tagged H sessionKey buf := by
  rw [directQUICServerAuth] at h
  split at h
  · cases h
  · rename_i hello hparse
    split_ifs at h with htype hsession hverify
    exact ⟨hello, hparse, by simpa using hverify⟩

/-! ## Connections -/

inductive QUICParty where
  | peer (side : DirectSide)
  | attacker
  deriving DecidableEq

inductive ClientAuthPC where
  | dialed
  | sent (nonce : Fixed 8)
  | authenticated
  | failed
  deriving DecidableEq

inductive ServerAuthPC where
  | accepted
  | authenticated
  | failed
  deriving DecidableEq

/-- A QUIC connection, with what was written on the stream of the handshake. -/
structure AuthConn where
  client : QUICParty
  server : QUICParty
  toServer : Bytes
  toClient : Bytes
  clientPC : ClientAuthPC
  serverPC : ServerAuthPC

structure AuthNet where
  conns : List AuthConn
  /-- Nonces that have been drawn. -/
  nonces : List (Fixed 8)
  /-- Messages of the peers that the attacker has read. -/
  known : List DirectQUICHandshake

inductive AuthAction where
  | connect (client server : QUICParty)
  | hello (k : ℕ) (nonce : Fixed 8)
  | serve (k : ℕ)
  | finish (k : ℕ)
  /-- A read or write of a peer fails, or its context ends. -/
  | failClient (k : ℕ)
  | failServer (k : ℕ)
  /-- The attacker writes to the other end. -/
  | writeServer (k : ℕ) (data : Bytes)
  | writeClient (k : ℕ) (data : Bytes)

namespace AuthNet

variable (E : ProbeEnv)

def put (s : AuthNet) (k : ℕ) (x : AuthConn) : AuthNet := { s with conns := s.conns.set k x }

/-- A peer has written the message on a connection with the other party. -/
def reveal (s : AuthNet) (other : QUICParty) (h : DirectQUICHandshake) : AuthNet :=
  if other = .attacker then { s with known := s.known ++ [h] } else s

/-- A valid tag in the attacker's bytes is one that he has read. -/
def Unforged (s : AuthNet) (data : Bytes) : Prop :=
  ∀ h ∈ parseDirectQUICHandshake (data.take directQUICHandshakeLen),
    verifyDirectQUICHandshakeMAC E.hmac E.sessionKey h.toDirectFields h.mac = true → h ∈ s.known

instance (s : AuthNet) (data : Bytes) : Decidable (s.Unforged E data) :=
  inferInstanceAs (Decidable (∀ h ∈ _, _ → _))

def step (s : AuthNet) : AuthAction → Option AuthNet
  | .connect client server =>
    some { s with conns := s.conns ++ [⟨client, server, [], [], .dialed, .accepted⟩] }
  | .hello k nonce => do
      let x ← s.conns[k]?
      match x.client, x.clientPC with
      | .peer _, .dialed =>
        if nonce ∈ s.nonces then none
        else
          let h := newDirectQUICHandshake E.hmac E.sessionKey E.session
            directQUICHandshakeTypeHello nonce
          some ({ s with nonces := nonce :: s.nonces }.reveal x.server h |>.put k
            { x with
              toServer := x.toServer ++ packDirectQUICHandshake h
              clientPC := .sent nonce })
      | _, _ => none
  | .serve k => do
      let x ← s.conns[k]?
      match x.server, x.serverPC with
      | .peer _, .accepted =>
        if x.toServer.length < directQUICHandshakeLen then none
        else
          match directQUICServerAuth E.hmac E.session E.sessionKey
              (x.toServer.take directQUICHandshakeLen) with
          | .ok ack =>
            some (s.reveal x.client ack |>.put k
              { x with
                toClient := x.toClient ++ packDirectQUICHandshake ack
                serverPC := .authenticated })
          | .error _ => some (s.put k { x with serverPC := .failed })
      | _, _ => none
  | .finish k => do
      let x ← s.conns[k]?
      match x.client, x.clientPC with
      | .peer _, .sent nonce =>
        if x.toClient.length < directQUICHandshakeLen then none
        else
          match directQUICClientAuth E.hmac E.session E.sessionKey nonce
              (x.toClient.take directQUICHandshakeLen) with
          | .ok _ => some (s.put k { x with clientPC := .authenticated })
          | .error _ => some (s.put k { x with clientPC := .failed })
      | _, _ => none
  | .failClient k => do
      let x ← s.conns[k]?
      if x.clientPC = .authenticated then none
      else some (s.put k { x with clientPC := .failed })
  | .failServer k => do
      let x ← s.conns[k]?
      if x.serverPC = .authenticated then none
      else some (s.put k { x with serverPC := .failed })
  | .writeServer k data => do
      let x ← s.conns[k]?
      if x.client = .attacker ∧ s.Unforged E (x.toServer ++ data) then
        some (s.put k { x with toServer := x.toServer ++ data })
      else none
  | .writeClient k data => do
      let x ← s.conns[k]?
      if x.server = .attacker ∧ s.Unforged E (x.toClient ++ data) then
        some (s.put k { x with toClient := x.toClient ++ data })
      else none

def empty : AuthNet := ⟨[], [], []⟩

end AuthNet

namespace AuthConn

/-- Whoever is authenticated is connected with its peer. -/
structure Bound (x : AuthConn) : Prop where
  client : x.clientPC = .authenticated → ∃ side, x.client = .peer side ∧ x.server = .peer side.other
  server : x.serverPC = .authenticated → ∃ side, x.server = .peer side ∧ x.client = .peer side.other

end AuthConn

namespace AuthNet

/-- The condition on one action: no peer is connected with itself, and the
attacker writes no message of a peer. -/
def Unrelayed (s : AuthNet) : AuthAction → Prop
  | .connect client server => client = server → client = .attacker
  | .writeServer k data =>
    ∀ x ∈ s.conns[k]?, ∀ h ∈ s.known, ¬ packDirectQUICHandshake h <+: x.toServer ++ data
  | .writeClient k data =>
    ∀ x ∈ s.conns[k]?, ∀ h ∈ s.known, ¬ packDirectQUICHandshake h <+: x.toClient ++ data
  | _ => True

instance (s : AuthNet) : DecidablePred s.Unrelayed := by
  intro action
  unfold AuthNet.Unrelayed
  split <;> infer_instance

end AuthNet

/-! ## What holds along a run -/

/-- What is true of a connection along a run without relayed messages. -/
structure AuthConn.Kept (E : ProbeEnv) (x : AuthConn) : Prop where
  apart : x.client = x.server → x.client = .attacker
  toServer : x.client = .attacker →
    ¬ Tagged E.hmac E.sessionKey (x.toServer.take directQUICHandshakeLen)
  toClient : x.server = .attacker →
    ¬ Tagged E.hmac E.sessionKey (x.toClient.take directQUICHandshakeLen)
  client : x.clientPC = .authenticated → x.client ≠ .attacker ∧ x.server ≠ .attacker
  server : x.serverPC = .authenticated → x.client ≠ .attacker ∧ x.server ≠ .attacker

theorem AuthConn.Kept.peers {E : ProbeEnv} {x : AuthConn} (h : x.Kept E)
    (hclient : x.client ≠ .attacker) (hserver : x.server ≠ .attacker) :
    ∃ side, x.client = .peer side ∧ x.server = .peer side.other := by
  match hc : x.client, hs : x.server with
  | .attacker, _ => exact absurd hc hclient
  | .peer _, .attacker => exact absurd hs hserver
  | .peer side, .peer side' =>
    refine ⟨side, rfl, congrArg _ ?_⟩
    have hne : side ≠ side' := by
      rintro rfl
      exact hclient (h.apart (hc.trans hs.symm))
    cases side <;> cases side' <;> first | rfl | exact absurd rfl hne

theorem AuthConn.Kept.bound {E : ProbeEnv} {x : AuthConn} (h : x.Kept E) : x.Bound where
  client := fun hpc => h.peers (h.client hpc).1 (h.client hpc).2
  server := fun hpc => by
    obtain ⟨side, hclient, hserver⟩ := h.peers (h.server hpc).1 (h.server hpc).2
    refine ⟨side.other, hserver, ?_⟩
    cases side <;> exact hclient

namespace AuthNet

variable {E : ProbeEnv} {s s' : AuthNet} {k : ℕ} {x : AuthConn}

def Kept (E : ProbeEnv) (s : AuthNet) : Prop := ∀ x ∈ s.conns, x.Kept E

theorem Kept.put (h : s.Kept E) (hconns : s'.conns = s.conns) (hx : x.Kept E) :
    (s'.put k x).Kept E := by
  intro y hy
  rw [AuthNet.put, hconns] at hy
  rcases mem_or_eq_of_mem_set hy with hold | rfl
  exacts [h y hold, hx]

@[simp] theorem conns_reveal (s : AuthNet) (other : QUICParty) (m : DirectQUICHandshake) :
    (s.reveal other m).conns = s.conns := by
  rw [reveal]
  split <;> rfl

/-- What the attacker can write, and has not read, has no valid tag. -/
theorem not_tagged_of_unrelayed {data : Bytes} (hunforged : s.Unforged E data)
    (hunrelayed : ∀ m ∈ s.known, ¬ packDirectQUICHandshake m <+: data) :
    ¬ Tagged E.hmac E.sessionKey (data.take directQUICHandshakeLen) := by
  rintro ⟨m, hparse, hverify⟩
  refine hunrelayed m (hunforged m hparse hverify) ?_
  rw [pack_eq_of_parse hparse]
  exact (List.take_prefix _ _).trans (List.take_prefix _ _)

theorem Kept.serve (h : s.Kept E) (hstep : s.step E (.serve k) = some s') : s'.Kept E := by
  obtain ⟨x, hx, hstep⟩ := bind_eq_some_iff.mp hstep
  have hkept := h x (mem_of_getElem? hx)
  split at hstep
  · rename_i side hserver hpc
    split at hstep
    · cases hstep
    · split at hstep
      · rename_i ack hauth
        cases hstep
        have hpeer : x.server ≠ .attacker := by simp [hserver]
        -- the tag that verified is not from a connection of the attacker
        have hclient : x.client ≠ .attacker :=
          fun hattacker => hkept.toServer hattacker (tagged_of_serverAuth hauth)
        exact h.put (s.conns_reveal _ _) { hkept with
          toClient := fun hattacker => absurd hattacker hpeer
          server := fun _ => ⟨hclient, hpeer⟩ }
      · cases hstep
        exact h.put rfl { hkept with server := nofun }
  · cases hstep

theorem Kept.finish (h : s.Kept E) (hstep : s.step E (.finish k) = some s') : s'.Kept E := by
  obtain ⟨x, hx, hstep⟩ := bind_eq_some_iff.mp hstep
  have hkept := h x (mem_of_getElem? hx)
  split at hstep
  · rename_i side nonce hclient hpc
    split at hstep
    · cases hstep
    · split at hstep
      · rename_i hauth
        cases hstep
        have hserver : x.server ≠ .attacker :=
          fun hattacker => hkept.toClient hattacker (tagged_of_clientAuth hauth)
        exact h.put rfl { hkept with client := fun _ => ⟨by simp [hclient], hserver⟩ }
      · cases hstep
        exact h.put rfl { hkept with client := nofun }
  · cases hstep

theorem Kept.step (h : s.Kept E) {a : AuthAction} (hguard : s.Unrelayed a)
    (hstep : s.step E a = some s') : s'.Kept E := by
  cases a with
  | connect client server =>
    cases hstep
    intro y hy
    rcases mem_append.mp hy with hold | hnew
    · exact h y hold
    · obtain rfl := mem_singleton.mp hnew
      refine ⟨hguard, fun _ => ?_, fun _ => ?_, nofun, nofun⟩
      all_goals
        rintro ⟨m, hparse, -⟩
        cases hparse
  | hello k nonce =>
    obtain ⟨x, hx, hstep⟩ := bind_eq_some_iff.mp hstep
    have hkept := h x (mem_of_getElem? hx)
    split at hstep
    · rename_i side hclient hpc
      split at hstep <;> cases hstep
      refine h.put (by simp) { hkept with
        toServer := fun hattacker => ?_, client := nofun }
      cases hclient.symm.trans hattacker
    · cases hstep
  | serve k => exact h.serve hstep
  | finish k => exact h.finish hstep
  | failClient k =>
    obtain ⟨x, hx, hstep⟩ := bind_eq_some_iff.mp hstep
    have hkept := h x (mem_of_getElem? hx)
    split at hstep <;> cases hstep
    exact h.put rfl { hkept with client := nofun }
  | failServer k =>
    obtain ⟨x, hx, hstep⟩ := bind_eq_some_iff.mp hstep
    have hkept := h x (mem_of_getElem? hx)
    split at hstep <;> cases hstep
    exact h.put rfl { hkept with server := nofun }
  | writeServer k data =>
    obtain ⟨x, hx, hwrite, rfl⟩ := of_bind_ite_some hstep
    have hkept := h x (mem_of_getElem? hx)
    exact h.put rfl { hkept with
      toServer := fun _ => not_tagged_of_unrelayed hwrite.2 (hguard x hx) }
  | writeClient k data =>
    obtain ⟨x, hx, hwrite, rfl⟩ := of_bind_ite_some hstep
    have hkept := h x (mem_of_getElem? hx)
    exact h.put rfl { hkept with
      toClient := fun _ => not_tagged_of_unrelayed hwrite.2 (hguard x hx) }

/-- If the attacker relays nothing, whoever is authenticated is connected with its
peer. -/
theorem authenticated_bound {actions : List AuthAction}
    (hguarded : Guarded (step E) Unrelayed empty actions)
    (hrun : run (step E) empty actions = some s) : ∀ x ∈ s.conns, x.Bound := by
  have hkept : s.Kept E := run_invariant (fun _ _ _ h => h.step)
      (I := Kept E) (fun _ hx => absurd hx not_mem_nil) hguarded hrun
  exact fun x hx => (hkept x hx).bound

end AuthNet

/-! ## Runs -/

/-- The datagrams of the handshake with one nonce. -/
def handshakeBytes (type b : UInt8) : Bytes :=
  packDirectQUICHandshake (newDirectQUICHandshake probeEnv.hmac probeEnv.sessionKey
    probeEnv.session type (nonceOf b))

def handshakeRun : List AuthAction :=
  [.connect (.peer .near) (.peer .far), .connect .attacker (.peer .far),
    .writeServer 1 (List.replicate 46 0), .serve 1, .hello 0 (nonceOf 1), .serve 0, .finish 0]

theorem handshakeRun_bound : ∃ s ∈ run (AuthNet.step probeEnv) .empty handshakeRun,
      s.conns.map (fun x => (x.clientPC, x.serverPC)) =
        [(.authenticated, .authenticated), (.dialed, .failed)] ∧ ∀ x ∈ s.conns, x.Bound :=
  exists_run_and (by decide +kernel) fun _ => AuthNet.authenticated_bound (by decide +kernel)

/-- The attacker stands between the peers: on his connections with either of them
the handshake succeeds.  And he makes a peer authenticate itself. -/
theorem relayedHandshake_unbound : (∃ s ∈ run (AuthNet.step probeEnv) .empty
        [.connect (.peer .near) .attacker, .connect .attacker (.peer .far), .hello 0 (nonceOf 1),
          .writeServer 1 (handshakeBytes directQUICHandshakeTypeHello 1), .serve 1,
          .writeClient 0 (handshakeBytes directQUICHandshakeTypeAck 1), .finish 0],
      s.conns.map (fun x => (x.client, x.clientPC, x.server, x.serverPC)) =
        [(.peer .near, .authenticated, .attacker, .accepted),
          (.attacker, .dialed, .peer .far, .authenticated)]) ∧
    (∃ s ∈ run (AuthNet.step probeEnv) .empty
        [.connect (.peer .near) .attacker, .connect .attacker (.peer .near), .hello 0 (nonceOf 1),
          .writeServer 1 (handshakeBytes directQUICHandshakeTypeHello 1), .serve 1,
          .writeClient 0 (handshakeBytes directQUICHandshakeTypeAck 1), .finish 0],
      s.conns.map (fun x => (x.client, x.clientPC, x.server, x.serverPC)) =
        [(.peer .near, .authenticated, .attacker, .accepted),
          (.attacker, .dialed, .peer .near, .authenticated)]) := by
  decide +kernel

end LinkSocks
