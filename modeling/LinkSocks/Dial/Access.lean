import LinkSocks.Relay.Auth

/-!
# Dialing under access rules

The side that performs a connection checks the destination against its dial rules right
before it dials.  A name is resolved for the check, which passes if any of the addresses
matches a rule, and once more by the dial, which may connect to any address of the second
answer.
-/

namespace LinkSocks

open Go

/-! ## Rules -/

def ParsedRule.Matches (rule : ParsedRule) (ip : Bytes) (port : Int) : Prop :=
  (rule.ports = [] ∨ portInRanges rule.ports port = true) ∧
    (rule.addrs = [] ∨ ∃ r ∈ rule.addrs, ipInRange ip r = true)

instance (rule : ParsedRule) (ip : Bytes) (port : Int) : Decidable (rule.Matches ip port) :=
  inferInstanceAs (Decidable (_ ∧ _))

/-- Some rule allows the address together with the port. -/
def AccessControl.Matches (ac : AccessControl) (ip : Bytes) (port : Int) : Prop :=
  ∃ rule ∈ ac.rules, rule.Matches ip port

instance (ac : AccessControl) (ip : Bytes) (port : Int) : Decidable (ac.Matches ip port) :=
  inferInstanceAs (Decidable (∃ rule ∈ ac.rules, rule.Matches ip port))

theorem AccessControl.allow_of_empty {ac : Option AccessControl}
    (h : AccessControl.empty ac = true) (ips : Option (List Bytes)) (port : Int) :
    AccessControl.allow ac ips port = true := by
  cases ac with
  | none => rfl
  | some ac => exact if_pos h

/-- The dial rules of a relay: those of its options, and those that were set at
runtime and replace them. -/
structure DialRules where
  dialAC : Option AccessControl
  option : Option AccessControl

def DialRules.effective (D : DialRules) : Option AccessControl := D.dialAC.or D.option

/-! ## Checking and dialing -/

/-- Settings of a relay that dials, and the library calls it makes. -/
structure DialEnv where
  /-- `net.ParseIP`, in the 16-byte form. -/
  parseIP : GoString → Option Bytes
  /-- The answer to each query of the resolver, `none` for an error. -/
  resolve : ℕ → GoString → Option (List Bytes)
  /-- The upstream proxy, if there is one: the destinations it connects to. -/
  upstreamProxy : Option (GoString → Int → Bool)

/-- The network: which of the addresses a dial connects to. -/
structure Dialer where
  connect : List Bytes → Int → Option Bytes
  connect_mem : ∀ {ips port ip}, connect ips port = some ip → ip ∈ ips

inductive Connection where
  | direct (ip : Bytes) (port : Int)
  | upstream (host : GoString) (port : Int)
  deriving DecidableEq

namespace DialEnv

variable (E : DialEnv)

/-- The addresses of a host, and the number of the next query. -/
def lookup (n : ℕ) (host : GoString) : Option (List Bytes) × ℕ :=
  match E.parseIP host with
  | some ip => (some [ip], n)
  | none => (E.resolve n host, n + 1)

/-- `Allow`, which asks the resolver only if there are rules. -/
def allow (ac : Option AccessControl) (n : ℕ) (host : GoString) (port : Int) : Bool × ℕ :=
  if AccessControl.empty ac then (true, n)
  else
    let (ips, n) := E.lookup n host
    (AccessControl.allow ac ips port, n)

/-- `checkRule`: the text of the error, if the destination is blocked. -/
def checkRule (ac : Option AccessControl) (n : ℕ) (host : GoString)
    (port : Int) : Option GoString × ℕ :=
  match E.allow ac n host port with
  | (true, n) => (none, n)
  | (false, n) =>
    (some (ascii "destination " ++ host ++ ascii (":" ++ toString port) ++
      ascii " blocked by access control"), n)

def checkDialAccess (D : DialRules) (n : ℕ) (host : GoString) (port : Int) : Option GoString × ℕ :=
  E.checkRule D.effective n host port

/-- The dial itself, which resolves the name again. -/
def dial (N : Dialer) (n : ℕ) (host : GoString) (port : Int) : Option Connection :=
  match E.upstreamProxy with
  | some connects => if connects host port then some (.upstream host port) else none
  | none => ((E.lookup n host).1.bind (N.connect · port)).map (.direct · port)

end DialEnv

theorem DialEnv.allow_literal {E : DialEnv} {host : GoString} {ip : Bytes}
    (hip : E.parseIP host = some ip) (ac : Option AccessControl) (n : ℕ) (port : Int) :
    (E.allow ac n host port).1 = AccessControl.allow ac (some [ip]) port := by
  rw [allow]
  split
  · rename_i hempty
    exact (AccessControl.allow_of_empty hempty _ _).symm
  · rw [lookup, hip]

inductive TCPOutcome where
  | invalidPort (port : Int)
  | blocked (response : ConnectResponseMessage)
  | dialed (conn : Option Connection)
  deriving DecidableEq

/-- `HandleTCPConnection`, up to the outcome of the dial. -/
def handleTCPConnection (E : DialEnv) (N : Dialer) (D : DialRules) (n : ℕ)
    (request : ConnectMessage) : TCPOutcome :=
  if request.port ≤ 0 ∨ 65535 < request.port then .invalidPort request.port
  else
    match E.checkDialAccess D n request.address request.port with
    | (some text, _) => .blocked ⟨false, text, request.channelID⟩
    | (none, n) => .dialed (E.dial N n request.address request.port)

/-! ## The address that is dialed -/

/-- Every address that the dial may choose from matches a rule. -/
def SecondAnswerMatches (E : DialEnv) (ac : AccessControl) (n : ℕ)
    (request : ConnectMessage) : Prop :=
  ∀ ips, E.resolve (n + 1) request.address = some ips → ∀ ip ∈ ips, ac.Matches ip request.port

def Dialer.only (ip : Bytes) : Dialer where
  connect ips _ := if ip ∈ ips then some ip else none
  connect_mem h := by
    split at h <;> cases h
    rename_i hmem
    exact hmem

section Resolution

variable {E : DialEnv} {D : DialRules} {ac : AccessControl} {n : ℕ}
  {request : ConnectMessage}

section

variable (hrules : D.effective = some ac) (hne : ac.rules ≠ [])
  (hname : E.parseIP request.address = none)
include hrules hne hname

/-- For a name, the check is decided by one answer of the resolver. -/
theorem DialEnv.checkDialAccess_name : ∃ text, E.checkDialAccess D n request.address request.port =
      (if AccessControl.allow (some ac) (E.resolve n request.address)
          request.port then none else some text, n + 1) := by
  have hempty : AccessControl.empty (some ac) = false := by
    simpa [AccessControl.empty] using hne
  simp only [checkDialAccess, checkRule, allow, hrules, hempty, lookup, hname]
  cases AccessControl.allow (some ac) (E.resolve n request.address) request.port
  · exact ⟨_, rfl⟩
  · exact ⟨[], rfl⟩

/-- A name is connected to an address of the second answer, if the first one
has passed the check. -/
theorem handleTCPConnection_name {N : Dialer}
    (hproxy : E.upstreamProxy = none) {ip : Bytes} {port : Int} :
    handleTCPConnection E N D n request = .dialed (some (.direct ip port)) ↔
      (0 < request.port ∧ request.port ≤ 65535) ∧
      AccessControl.allow (some ac) (E.resolve n request.address) request.port = true ∧
      port = request.port ∧ ∃ ips, E.resolve (n + 1) request.address = some ips ∧
        N.connect ips request.port = some ip := by
  obtain ⟨text, hcheck⟩ := DialEnv.checkDialAccess_name (n := n) hrules hne hname
  rw [handleTCPConnection, hcheck]
  by_cases hport : request.port ≤ 0 ∨ 65535 < request.port
  · rw [if_pos hport]
    refine iff_of_false (by simp) ?_
    omega
  · rw [if_neg hport]
    have hvalid : 0 < request.port ∧ request.port ≤ 65535 := by omega
    cases hallow : AccessControl.allow (some ac) (E.resolve n request.address)
      request.port with
    | false => simp
    | true =>
      simp only [if_true, DialEnv.dial, hproxy, DialEnv.lookup, hname,
        TCPOutcome.dialed.injEq, Option.map_eq_some_iff,
        Option.bind_eq_some_iff, Connection.direct.injEq, true_and]
      constructor
      · rintro ⟨ip', ⟨ips, hips, hconnect⟩, rfl, rfl⟩
        exact ⟨hvalid, rfl, ips, hips, hconnect⟩
      · rintro ⟨-, rfl, ips, hips, hconnect⟩
        exact ⟨ip, ⟨ips, hips, hconnect⟩, rfl, rfl⟩

end

/-- Whatever the network does, a name is connected only to addresses that match a rule, if and
only if every address of the second answer does, should the first pass the check. -/
theorem connects_to_matching_iff (hrules : D.effective = some ac)
    (hne : ac.rules ≠ []) (hname : E.parseIP request.address = none)
    (hproxy : E.upstreamProxy = none) :
    (∀ N ip port, handleTCPConnection E N D n request = .dialed (some (.direct ip port)) →
          port = request.port ∧ ac.Matches ip port) ↔ (0 < request.port ∧ request.port ≤ 65535 →
        AccessControl.allow (some ac) (E.resolve n request.address) request.port = true →
        SecondAnswerMatches E ac n request) := by
  constructor
  · intro hmatches hport hallow ips hips ip hip
    -- the network may reach this address and no other
    refine (hmatches (.only ip) ip request.port ?_).2
    refine (handleTCPConnection_name hrules hne hname hproxy).mpr
      ⟨hport, hallow, rfl, ips, hips, ?_⟩
    exact if_pos hip
  · intro hsecond N ip port hdialed
    obtain ⟨hport, hallow, rfl, ips, hips, hconnect⟩ :=
      (handleTCPConnection_name hrules hne hname hproxy).mp hdialed
    exact ⟨rfl, hsecond hport hallow ips hips ip (N.connect_mem hconnect)⟩

end Resolution

/-! ## A name that changes its address -/

def ipLast (b : UInt8) : Bytes := List.replicate 15 0 ++ [b]

/-- One address is allowed, with any port. -/
def loopbackRules : AccessControl where
  rules := [⟨[⟨ipLast 1, ipLast 1⟩], []⟩]

/-- Every query of the resolver gets its own answer from the list. -/
def answersEnv (answers : List (List Bytes)) : DialEnv where
  parseIP := fun _ => none
  resolve := fun n _ => answers[n]?
  upstreamProxy := none

def nameRequest : ConnectMessage := ⟨tcp, ascii "h", 80, uuidOf 9, false⟩

/-- The resolver gives the same allowed address twice: it is connected to. -/
theorem steadyName_connects_to_matching :
    handleTCPConnection (answersEnv [[ipLast 1], [ipLast 1]]) (.only (ipLast 1))
        ⟨none, some loopbackRules⟩ 0 nameRequest = .dialed (some (.direct (ipLast 1) 80)) ∧
    ∀ N ip port, handleTCPConnection (answersEnv [[ipLast 1], [ipLast 1]]) N
          ⟨none, some loopbackRules⟩ 0 nameRequest = .dialed (some (.direct ip port)) →
      port = 80 ∧ loopbackRules.Matches ip port := by
  have hrules : DialRules.effective ⟨none, some loopbackRules⟩ = some loopbackRules := rfl
  refine ⟨by decide, (connects_to_matching_iff hrules (by decide) rfl rfl).mpr fun _ _ => ?_⟩
  intro ips hips ip hip
  cases hips
  rw [List.mem_singleton] at hip
  subst hip
  decide

/-- An allowed address for the check and another one for the dial: the address that is connected
to matches no rule.  One answer with both addresses does as well. -/
theorem changedName_connects_elsewhere :
    (handleTCPConnection (answersEnv [[ipLast 1], [ipLast 2]]) (.only (ipLast 2))
        ⟨none, some loopbackRules⟩ 0 nameRequest = .dialed (some (.direct (ipLast 2) 80)) ∧
    handleTCPConnection (answersEnv (List.replicate 2 [ipLast 1, ipLast 2])) (.only (ipLast 2))
        ⟨none, some loopbackRules⟩ 0 nameRequest = .dialed (some (.direct (ipLast 2) 80))) ∧
    ¬ loopbackRules.Matches (ipLast 2) 80 := by
  decide

end LinkSocks
