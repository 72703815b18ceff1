import LinkSocks.Dial.Access

/-!
# Updating the access rules

`handleConfigAccess` installs the entry rules of a request before it looks at its dial
rules.  If these are refused, the response is an error, and the new entry rules are in
force.
-/

namespace LinkSocks

open Go

structure PortSpec where
  start : Int
  stop : Int

structure AccessRule where
  addrs : List GoString
  ports : List PortSpec

def checkPorts (p : PortSpec) : Except Error (Int × Int) :=
  if p.start < 1 ∨ 65535 < p.stop ∨ p.stop < p.start then
    .error (.msg ("invalid port range [" ++ toString p.start ++ ", " ++ toString p.stop ++ "]"))
  else .ok (p.start, p.stop)

/-- The rules of a relay for its entry and for dialing: those of its options, and those
that were set at runtime. -/
structure RelayRules where
  entryAC : Option AccessControl
  dialAC : Option AccessControl
  entryOption : Option AccessControl
  dialOption : Option AccessControl

/-- The body of a request; a side that is absent is to keep its rules. -/
structure AccessConfigRequest where
  entry : Option (List AccessRule)
  dial : Option (List AccessRule)

/-- The status of a response and the `TokenResponse` in it. -/
structure APIResponse where
  status : ℕ
  success : Bool
  error : String

section Config

-- what addresses are accepted does not matter here
variable (parseAddrSpec : GoString → Except Error IPRange)

def parseRule (rule : AccessRule) : Except Error ParsedRule := do
  let addrs ← rule.addrs.mapM parseAddrSpec
  let ports ← rule.ports.mapM checkPorts
  pure ⟨addrs, ports⟩

def newAccessControl (rules : List AccessRule) : Except Error AccessControl := do
  let rules ← rules.mapM (parseRule parseAddrSpec)
  pure ⟨rules⟩

namespace RelayRules

def entryAccessControl (r : RelayRules) : Option AccessControl := r.entryAC.or r.entryOption

def dialAccessControl (r : RelayRules) : Option AccessControl := r.dialAC.or r.dialOption

def setEntryAccessControl (r : RelayRules) (ac : AccessControl) : RelayRules :=
  { r with entryAC := some ac }

def setDialAccessControl (r : RelayRules) (ac : AccessControl) : RelayRules :=
  { r with dialAC := some ac }

attribute [simp] entryAccessControl dialAccessControl setEntryAccessControl setDialAccessControl

/-- One side of a request: nothing happens if it is absent. -/
def update (r : RelayRules) (set : RelayRules → AccessControl → RelayRules) :
    Option (List AccessRule) → Except Error RelayRules
  | none => .ok r
  | some rules => (newAccessControl parseAddrSpec rules).map (set r)

end RelayRules

/-- `handleConfigAccess` for a PUT request: whether it has a key, and its body unless
that is malformed. -/
def handleConfigAccess (authenticated : Bool) (body : Option AccessConfigRequest)
    (r : RelayRules) : APIResponse × RelayRules :=
  if !authenticated then (⟨401, false, "invalid API key"⟩, r)
  else
    match body with
    | none => (⟨400, false, "invalid request body"⟩, r)
    | some req =>
      match r.update parseAddrSpec .setEntryAccessControl req.entry with
      | .error e => (⟨400, false, e.text⟩, r)
      | .ok r =>
        match r.update parseAddrSpec .setDialAccessControl req.dial with
        | .error e => (⟨400, false, e.text⟩, r)
        | .ok r => (⟨200, true, ""⟩, r)

/-- The rules of one side after a success: those of the request, if it has any. -/
def InForce (rules : Option (List AccessRule)) (before after : Option AccessControl) : Prop :=
  match rules with
  | none => after = before
  | some rules => ∃ ac, newAccessControl parseAddrSpec rules = .ok ac ∧ after = some ac

/-- An error changes no rules, and a success installs all that are in the request. -/
@[mk_iff] structure AllOrNothing (body : Option AccessConfigRequest) (r : RelayRules)
    (result : APIResponse × RelayRules) : Prop where
  failed : result.1.status ≠ 200 → result.2.entryAccessControl = r.entryAccessControl ∧
    result.2.dialAccessControl = r.dialAccessControl
  succeeded : result.1.status = 200 → ∀ req, body = some req →
    InForce parseAddrSpec req.entry r.entryAccessControl result.2.entryAccessControl ∧
      InForce parseAddrSpec req.dial r.dialAccessControl result.2.dialAccessControl

/-- New entry rules that are accepted come with dial rules that are refused. -/
def Torn (r : RelayRules) (req : AccessConfigRequest) : Prop :=
  ∃ entry dial ac e, req.entry = some entry ∧ req.dial = some dial ∧
    newAccessControl parseAddrSpec entry = .ok ac ∧ newAccessControl parseAddrSpec dial = .error e ∧
    r.entryAccessControl ≠ some ac

/-- An update is all or nothing if and only if no dial rules are refused after new entry
rules. -/
theorem handleConfigAccess_allOrNothing_iff (authenticated : Bool)
    (body : Option AccessConfigRequest) (r : RelayRules) :
    AllOrNothing parseAddrSpec body r (handleConfigAccess parseAddrSpec authenticated body r) ↔
      ∀ req, authenticated = true → body = some req → ¬ Torn parseAddrSpec r req := by
  obtain - | ⟨entry, dial⟩ := body
  · cases authenticated <;> simp [allOrNothing_iff, handleConfigAccess]
  cases authenticated with
  | false => simp [allOrNothing_iff, handleConfigAccess]
  | true =>
    simp only [allOrNothing_iff, handleConfigAccess, Torn, InForce, RelayRules.update]
    cases entry with
    | none =>
      cases dial with
      | none => simp
      | some dial => cases hdial : newAccessControl parseAddrSpec dial <;> simp [Except.map, hdial]
    | some entry =>
      cases hentry : newAccessControl parseAddrSpec entry with
      | error e => simp [Except.map, hentry]
      | ok ac =>
        cases dial with
        | none => simp [Except.map, hentry]
        | some dial =>
          cases hdial : newAccessControl parseAddrSpec dial <;>
            simp [Except.map, hentry, hdial, eq_comm, or_iff_not_imp_left]

end Config

/-! ## Rules that are refused -/

def openRules : RelayRules := ⟨none, none, none, none⟩

def portRule : AccessRule := ⟨[], [⟨80, 80⟩]⟩

/-- A rule whose address is empty, and what the parser says to it. -/
def emptyRule : AccessRule := ⟨[[]], []⟩

def refuseAddr (_ : GoString) : Except Error IPRange := .error (.msg "empty address spec")

/-- The result of a request with the rule for a port and the rule without an address. -/
def configure (entry dial : AccessRule) : APIResponse × RelayRules :=
  handleConfigAccess refuseAddr true (some ⟨some [entry], some [dial]⟩) openRules

/-- If the entry rules are refused, the dial rules are not looked at. -/
theorem emptyRule_allOrNothing :
    AllOrNothing refuseAddr (some ⟨some [emptyRule], some [portRule]⟩) openRules
      (configure emptyRule portRule) := by
  refine (handleConfigAccess_allOrNothing_iff refuseAddr true _ openRules).mpr ?_
  rintro req - hreq ⟨entry, dial, ac, e, hentry, -, hac, -⟩
  cases hreq
  cases hentry
  cases hac

/-- If the dial rules are refused, the response is an error, and the new entry rules are
in force. -/
theorem portRule_torn : (configure portRule emptyRule).1 = ⟨400, false, "empty address spec"⟩ ∧
    openRules.entryAccessControl = none ∧ (configure portRule emptyRule).2.entryAccessControl =
      some ⟨[⟨[], [(80, 80)]⟩]⟩ := ⟨rfl, rfl, rfl⟩

end LinkSocks
