import LinkSocks.Go.Tables
import LinkSocks.Zone.Network

/-!
# The firewall of a zone

The coordinator sends a list of rules with each roster.  `compileSettings` checks the
texts of the rules and turns them into prefixes and port ranges, and `allow` takes the
action of the first rule that matches a flow.

What a list of rules means is said by its texts: an empty network or `any` stands for
every flow, whether its address is known or not, and any other network for the IPv4
addresses in it; a port range stands for flows of TCP or UDP with a known port in it.
-/

namespace LinkSocks.Zone

open Go Option

/-! ## Settings -/

inductive Proto where
  | any
  | tcp
  | udp
  | icmp
  | arp
  deriving DecidableEq

/-- A `portField`; the zero value matches every port. -/
structure PortField where
  set : Bool
  from_ : UInt16
  to_ : UInt16
  deriving DecidableEq

structure RuleConfig where
  src : GoString
  srcPort : PortField
  proto : GoString
  dst : GoString
  dstPort : PortField
  action : GoString

/-- The fields of the settings that the firewall reads. -/
structure Settings where
  defaultAction : GoString
  rules : List RuleConfig

/-- A compiled rule; a prefix that is not valid is `none`. -/
structure Rule where
  src : Option Prefix
  dst : Option Prefix
  srcPort : PortField
  dstPort : PortField
  proto : Proto
  allow : Bool

structure Ruleset where
  rules : List Rule
  defaultAllow : Bool

/-- Traffic that is classified; an address that is not valid is `none`. -/
structure Flow where
  src : Option Addr
  dst : Option Addr
  proto : Proto
  srcPort : UInt16
  dstPort : UInt16
  srcPortKnown : Bool
  dstPortKnown : Bool
  deriving DecidableEq

/-- The libraries that the compiler calls; `quote` is the `%q` form of a string. -/
structure RuleLib extends Netip where
  quote : GoString → String

def maxZoneRules : ℕ := 64

/-! ## Compiling -/

def textAny : GoString := ascii "any"
def textAllow : GoString := ascii "allow"
def textDeny : GoString := ascii "deny"

/-- The protocol of a rule, which is `any` if there is none. -/
def parseProto (text : GoString) : Option Proto :=
  if text = [] ∨ text = textAny then some .any
  else if text = ascii "tcp" then some .tcp
  else if text = ascii "udp" then some .udp
  else if text = ascii "icmp" then some .icmp
  else if text = ascii "arp" then some .arp
  else none

/-- `prefix.Masked()`, for prefixes of IPv4. -/
def Prefix.masked (p : Prefix) : Prefix :=
  match p.addr with
  | .v4 base => { p with addr := .v4 (UInt32.ofNat (p.network base * 2 ^ (32 - p.bits))) }
  | .v6 _ _ => p

def errNetwork : Error := .msg "expected any, an IPv4 CIDR or an IPv4 address"

def parseRuleNetwork (N : Netip) (text : GoString) : Except Error (Option Prefix) :=
  if text = [] ∨ text = textAny then .ok none
  else
    match (N.parsePrefix text).filter (·.addr.is4) with
    | some p => .ok (some p.masked)
    | none =>
      match (N.parseAddr text).filter (·.is4) with
      | some addr => .ok (some ⟨addr, 32⟩)
      | none => .error errNetwork

def parseAction (L : RuleLib) (text : GoString) : Except Error Bool :=
  if text = textAllow then .ok true
  else if text = textDeny then .ok false
  else .error (.msg ("invalid rule action " ++ L.quote text))

/-- The protocols that have no ports. -/
def checkPorts (config : RuleConfig) : Proto → Except Error Unit
  | .icmp =>
    if config.srcPort.set || config.dstPort.set then
      .error (.msg "ports do not apply to icmp rules")
    else .ok ()
  | .arp =>
    if config.srcPort.set || config.dstPort.set then .error (.msg "ports do not apply to arp rules")
    else .ok ()
  | _ => .ok ()

/-- A network of a rule; the error of the parser is replaced. -/
def ruleNetwork (L : RuleLib) (what : String) (text : GoString) : Except Error (Option Prefix) :=
  match parseRuleNetwork L.toNetip text with
  | .error _ => .error (.msg ("invalid " ++ what ++ " network " ++ L.quote text))
  | .ok p => .ok p

def compileRule (L : RuleLib) (config : RuleConfig) : Except Error Rule :=
  match parseProto config.proto with
  | none => .error (.msg ("invalid protocol " ++ L.quote config.proto))
  | some proto => do
      let src ← ruleNetwork L "source" config.src
      let dst ← ruleNetwork L "destination" config.dst
      checkPorts config proto
      let allow ← parseAction L config.action
      return ⟨src, dst, config.srcPort, config.dstPort, proto, allow⟩

/-- The loop of `compileSettings`, from rule `i` on. -/
def compileRules (L : RuleLib) : ℕ → List RuleConfig → Except Error (List Rule)
  | _, [] => .ok []
  | i, config :: rest =>
    match compileRule L config with
    | .error e => .error (.wrap ("zone rule " ++ toString (i + 1)) e)
    | .ok compiled => do
        let rules ← compileRules L (i + 1) rest
        return compiled :: rules

def compileSettings (L : RuleLib) (s : Settings) : Except Error Ruleset :=
  if s.defaultAction ≠ [] ∧ s.defaultAction ≠ textAllow ∧ s.defaultAction ≠ textDeny then
    .error (.msg ("invalid zone default action " ++ L.quote s.defaultAction))
  else if maxZoneRules < s.rules.length then
    .error (.msg ("zone holds more than " ++ toString maxZoneRules ++ " firewall rules"))
  else do
    let rules ← compileRules L 0 s.rules
    return ⟨rules, decide (s.defaultAction ≠ textDeny)⟩

/-! ## Evaluating -/

def PortField.contains (p : PortField) (port : UInt16) : Bool :=
  !p.set || decide (p.from_ ≤ port) && decide (port ≤ p.to_)

/-- TCP and UDP have ports. -/
def Proto.hasPorts : Proto → Bool
  | .tcp | .udp => true
  | .any | .icmp | .arp => false

/-- The check of one port of a rule. -/
def portMatches (p : PortField) (f : Flow) (known : Bool) (port : UInt16) : Bool :=
  !p.set || f.proto.hasPorts && known && p.contains port

/-- The check of one network of a rule. -/
def networkMatches (p : Option Prefix) (addr : Option Addr) : Bool :=
  p.all fun network => addr.any network.contains

/-- `rule.matches`. -/
def Rule.covers (r : Rule) (f : Flow) : Bool :=
  (decide (r.proto = .any) || decide (r.proto = f.proto)) &&
    portMatches r.srcPort f f.srcPortKnown f.srcPort &&
    portMatches r.dstPort f f.dstPortKnown f.dstPort &&
    networkMatches r.src f.src && networkMatches r.dst f.dst

/-- The loop of `allow`. -/
def firstAction (f : Flow) (otherwise : Bool) : List Rule → Bool
  | [] => otherwise
  | candidate :: rest =>
    if candidate.covers f then candidate.allow else firstAction f otherwise rest

def Ruleset.allow (rs : Ruleset) (f : Flow) : Bool := firstAction f rs.defaultAllow rs.rules

/-! ## What a list of rules means -/

/-- The address is in the network that the text stands for. -/
def InNetwork (N : Netip) (text : GoString) (addr : Option Addr) : Prop :=
  text = [] ∨ text = textAny ∨ ∃ ip, addr = some ip ∧
      ((∃ p, N.parsePrefix text = some p ∧ p.addr.is4 = true ∧ p.contains ip = true) ∨
        (∀ p, N.parsePrefix text = some p → p.addr.is4 = false) ∧
          N.parseAddr text = some ip ∧ ip.is4 = true)

/-- A port is in the range: only flows of TCP and UDP have ports. -/
def InRange (p : PortField) (f : Flow) (known : Bool) (port : UInt16) : Prop :=
  p.set = true → (f.proto = .tcp ∨ f.proto = .udp) ∧ known = true ∧ p.from_ ≤ port ∧ port ≤ p.to_

/-- The flow matches the rule as it is written. -/
structure RuleConfig.Matches (N : Netip) (config : RuleConfig) (f : Flow) : Prop where
  proto : ∃ proto, parseProto config.proto = some proto ∧ (proto = .any ∨ proto = f.proto)
  src : InNetwork N config.src f.src
  dst : InNetwork N config.dst f.dst
  srcPort : InRange config.srcPort f f.srcPortKnown f.srcPort
  dstPort : InRange config.dstPort f f.dstPortKnown f.dstPort

/-- The action for a flow: that of the first rule that matches, or the default. -/
def Settings.Decides (N : Netip) (s : Settings) (f : Flow) (allow : Bool) : Prop :=
  (∃ earlier config later, s.rules = earlier ++ config :: later ∧
    (∀ c ∈ earlier, ¬ c.Matches N f) ∧ config.Matches N f ∧
    (allow = true ∧ config.action = textAllow ∨ allow = false ∧ config.action = textDeny)) ∨
  (∀ c ∈ s.rules, ¬ c.Matches N f) ∧ (allow = true ↔ s.defaultAction ≠ textDeny)

section Meaning

variable {L : RuleLib} {N : Netip} {f : Flow} {config : RuleConfig} {r : Rule}
  {p : Option Prefix} {addr : Option Addr} {text : GoString}

/-! ### Networks -/

/-- Clearing the host bits changes nothing for `Contains`. -/
theorem contains_masked (p : Prefix) (ip : Addr) : p.masked.contains ip = p.contains ip := by
  obtain ⟨base, bits⟩ := p
  cases base with
  | v6 bytes zone => rfl
  | v4 base =>
    cases ip with
    | v6 bytes zone => rfl
    | v4 ip =>
      have hle : base.toNat / 2 ^ (32 - bits) * 2 ^ (32 - bits) < 2 ^ 32 :=
        lt_of_le_of_lt (Nat.div_mul_le_self _ _) base.toNat_lt
      have hbase : (UInt32.ofNat (base.toNat / 2 ^ (32 - bits) * 2 ^ (32 - bits))).toNat /
          2 ^ (32 - bits) = base.toNat / 2 ^ (32 - bits) := by
        rw [UInt32.toNat_ofNat_of_lt' hle, Nat.mul_div_cancel _ (Nat.two_pow_pos _)]
      refine decide_eq_decide.mpr ?_
      change _ = (UInt32.ofNat (base.toNat / 2 ^ (32 - bits) * 2 ^ (32 - bits))).toNat /
        2 ^ (32 - bits) ↔ _
      rw [hbase]
      exact Iff.rfl

theorem contains_single {ip a : Addr} (ha : a.is4 = true) :
    (⟨a, 32⟩ : Prefix).contains ip = true ↔ ip = a := by
  cases a with
  | v6 bytes zone => cases ha
  | v4 a =>
    cases ip with
    | v6 bytes zone => simp [Prefix.contains]
    | v4 ip =>
      simp only [Prefix.contains, Prefix.network, Nat.sub_self, Nat.pow_zero, Nat.div_one,
        decide_eq_true_eq, Addr.v4.injEq, UInt32.toNat_inj]

section

variable (hempty : text ≠ []) (hany : text ≠ textAny)
include hempty hany

theorem inNetwork_iff : InNetwork N text addr ↔ ∃ ip, addr = some ip ∧
      ((∃ p, N.parsePrefix text = some p ∧ p.addr.is4 = true ∧ p.contains ip = true) ∨
        (∀ p, N.parsePrefix text = some p → p.addr.is4 = false) ∧
          N.parseAddr text = some ip ∧ ip.is4 = true) := by
  rw [InNetwork]
  simp only [hempty, hany, false_or]

theorem networkMatches_masked {q : Prefix}
    (hq : N.parsePrefix text = some q) (his4 : q.addr.is4 = true) :
    networkMatches (some q.masked) addr = true ↔ InNetwork N text addr := by
  rw [inNetwork_iff hempty hany, networkMatches, all_some]
  cases addr with
  | none => simp
  | some ip =>
    rw [any_some, contains_masked]
    constructor
    · intro hcontains
      exact ⟨ip, rfl, .inl ⟨q, hq, his4, hcontains⟩⟩
    · rintro ⟨ip', ⟨⟩, ⟨q', hq', -, hcontains⟩ | ⟨hnone, -⟩⟩
      · cases hq.symm.trans hq'
        exact hcontains
      · cases his4.symm.trans (hnone q hq)

theorem networkMatches_single {a : Addr}
    (hnone : ∀ p, N.parsePrefix text = some p → p.addr.is4 = false)
    (ha : N.parseAddr text = some a) (his4 : a.is4 = true) :
    networkMatches (some ⟨a, 32⟩) addr = true ↔ InNetwork N text addr := by
  rw [inNetwork_iff hempty hany, networkMatches, all_some]
  cases addr with
  | none => simp
  | some ip =>
    rw [any_some, contains_single his4]
    constructor
    · rintro rfl
      exact ⟨ip, rfl, .inr ⟨hnone, ha, his4⟩⟩
    · rintro ⟨ip', ⟨⟩, ⟨q, hq, hq4, -⟩ | ⟨-, ha', -⟩⟩
      · cases hq4.symm.trans (hnone q hq)
      · exact some.inj (ha'.symm.trans ha)

end

theorem networkMatches_iff (h : parseRuleNetwork N text = .ok p) :
    networkMatches p addr = true ↔ InNetwork N text addr := by
  revert h
  fun_cases parseRuleNetwork N text <;> intro h <;> cases h
  case case1 htext => exact iff_of_true rfl (htext.elim .inl fun hany => .inr (.inl hany))
  case case2 htext q hq =>
    obtain ⟨hempty, hany⟩ := not_or.mp htext
    obtain ⟨hq, his4⟩ := filter_eq_some_iff.mp hq
    exact networkMatches_masked hempty hany hq his4
  case case3 htext hnone a ha =>
    obtain ⟨hempty, hany⟩ := not_or.mp htext
    obtain ⟨ha, his4⟩ := filter_eq_some_iff.mp ha
    refine networkMatches_single hempty hany (fun q hq => ?_) ha his4
    rw [hq] at hnone
    simpa using hnone

/-! ### Ports and rules -/

theorem portMatches_iff {q : PortField} {known : Bool} {port : UInt16} :
    portMatches q f known port = true ↔ InRange q f known port := by
  have hports : f.proto.hasPorts = true ↔ f.proto = .tcp ∨ f.proto = .udp := by
    cases f.proto <;> simp [Proto.hasPorts]
  rw [portMatches, InRange, PortField.contains]
  cases q.set with
  | false => simp
  | true => simp [hports, and_assoc]

theorem ruleNetwork_ok {what : String} (h : ruleNetwork L what text = .ok p) :
    parseRuleNetwork L.toNetip text = .ok p := by
  rw [ruleNetwork] at h
  split at h <;> cases h
  assumption

theorem parseAction_ok {allow : Bool} (h : parseAction L text = .ok allow) :
    allow = true ∧ text = textAllow ∨ allow = false ∧ text = textDeny := by
  rw [parseAction] at h
  split at h
  · rename_i htext
    cases h
    exact .inl ⟨rfl, htext⟩
  · split at h <;> cases h
    rename_i htext
    exact .inr ⟨rfl, htext⟩

/-- A compiled rule matches the flows that the rule matches as it is written, and has
its action. -/
theorem compileRule_ok (h : compileRule L config = .ok r) :
    (∀ f, r.covers f = true ↔ config.Matches L.toNetip f) ∧
      (r.allow = true ∧ config.action = textAllow ∨
        r.allow = false ∧ config.action = textDeny) := by
  rw [compileRule] at h
  split at h
  · cases h
  · rename_i proto hproto
    obtain ⟨src, hsrc, h⟩ := ok_of_bind h
    obtain ⟨dst, hdst, h⟩ := ok_of_bind h
    obtain ⟨⟨⟩, -, h⟩ := ok_of_bind h
    obtain ⟨allow, haction, h⟩ := ok_of_bind h
    cases h
    refine ⟨fun f => ?_, parseAction_ok haction⟩
    simp only [Rule.covers, Bool.and_eq_true, Bool.or_eq_true, decide_eq_true_eq,
      portMatches_iff, networkMatches_iff (ruleNetwork_ok hsrc),
      networkMatches_iff (ruleNetwork_ok hdst)]
    constructor
    · rintro ⟨⟨⟨⟨hp, hsrcPort⟩, hdstPort⟩, hs⟩, hd⟩
      exact ⟨⟨proto, hproto, hp⟩, hs, hd, hsrcPort, hdstPort⟩
    · rintro ⟨⟨proto', hproto', hp⟩, hs, hd, hsrcPort, hdstPort⟩
      cases hproto.symm.trans hproto'
      exact ⟨⟨⟨⟨hp, hsrcPort⟩, hdstPort⟩, hs⟩, hd⟩

theorem compileRules_ok {i : ℕ} {configs : List RuleConfig} {rules : List Rule}
    (h : compileRules L i configs = .ok rules) :
    List.Forall₂ (fun config r => compileRule L config = .ok r) configs rules := by
  induction configs generalizing i rules with
  | nil =>
    cases h
    exact .nil
  | cons config configs ih =>
    rw [compileRules] at h
    split at h
    · cases h
    · rename_i r hr
      obtain ⟨rest, hrest, h⟩ := ok_of_bind h
      cases h
      exact .cons hr (ih hrest)

/-! ### The first match -/

theorem firstAction_decides {configs : List RuleConfig} {rules : List Rule}
    (h : List.Forall₂ (fun config r => compileRule L config = .ok r) configs rules)
    (otherwise : Bool) : (∃ earlier config later, configs = earlier ++ config :: later ∧
      (∀ c ∈ earlier, ¬ c.Matches L.toNetip f) ∧ config.Matches L.toNetip f ∧
      (firstAction f otherwise rules = true ∧ config.action = textAllow ∨
        firstAction f otherwise rules = false ∧ config.action = textDeny)) ∨
    (∀ c ∈ configs, ¬ c.Matches L.toNetip f) ∧ firstAction f otherwise rules = otherwise := by
  induction h with
  | nil => exact .inr ⟨nofun, rfl⟩
  | @cons config r configs rules hr _ ih =>
    obtain ⟨hcovers, haction⟩ := compileRule_ok hr
    rw [firstAction]
    split
    · rename_i hmatch
      exact .inl ⟨[], config, configs, rfl, nofun, (hcovers f).mp hmatch, haction⟩
    · rename_i hmatch
      have hnot : ¬ config.Matches L.toNetip f := fun hm => hmatch ((hcovers f).mpr hm)
      obtain ⟨earlier, c, later, rfl, hearlier, hc⟩ | ⟨hnone, hdefault⟩ := ih
      · exact .inl ⟨config :: earlier, c, later, rfl, List.forall_mem_cons.mpr ⟨hnot, hearlier⟩, hc⟩
      · exact .inr ⟨List.forall_mem_cons.mpr ⟨hnot, hnone⟩, hdefault⟩

/-- A rule list that is accepted decides every flow by its first rule that matches. -/
theorem allow_decides {s : Settings} {rs : Ruleset} (h : compileSettings L s = .ok rs)
    (f : Flow) : s.Decides L.toNetip f (rs.allow f) := by
  rw [compileSettings] at h
  split at h
  · cases h
  · split at h
    · cases h
    · obtain ⟨rules, hrules, h⟩ := ok_of_bind h
      cases h
      obtain hfirst | ⟨hnone, hdefault⟩ := firstAction_decides (f := f) (compileRules_ok hrules)
          (decide (s.defaultAction ≠ textDeny))
      · exact .inl hfirst
      · refine .inr ⟨hnone, ?_⟩
        rw [Ruleset.allow, hdefault, decide_eq_true_eq]

end Meaning

end LinkSocks.Zone
