import LinkSocks.Go.Maps
import LinkSocks.Go.Tables
import LinkSocks.Zone.Firewall

/-!
# Datagrams of SOCKS clients and of local services

`forwardDatagram` sends the datagram of a client to a member and then enters the client
into a table, under the address and the port of the member; `deliverDatagram` gives a
datagram from that address and port to the client in the table, and any other one to the
local service on its destination port.

The table does not have the port of the client.  So there is one client for each address
and port: the next one that sends there takes the answers of the one before, and takes
datagrams that are not for a client at all.
-/

namespace LinkSocks.Zone

open Go Firewall List AList

/-- `datagramIdleTTL`, in nanoseconds. -/
def datagramIdleTTL : ℕ := 60 * 10 ^ 9

/-! ## The tables -/

namespace UDPTables

def enter (T : UDPTables) (now : ℕ) (key : UDPKey) (client : Firewall.UDPAddr) (sink : ℕ) :
    UDPTables := { T with clients := T.clients.insert key ⟨client, sink, now⟩ }

def releaseUDPClient (T : UDPTables) (sink : ℕ) : UDPTables :=
  { T with clients := deleteIf (fun entry => decide (entry.sink = sink)) T.clients }

def reapDatagrams (T : UDPTables) (now : ℕ) : UDPTables where
  clients := deleteIf (fun entry => decide (datagramIdleTTL < now - entry.lastSeen)) T.clients
  services := deleteIf (fun lastSeen => decide (datagramIdleTTL < now - lastSeen)) T.services

end UDPTables

/-! ## A connection with its clients -/

/-- How far a call of `forwardDatagram` has come: its message is out, it was entered into
the table and last used at some time, or its association was released since. -/
inductive ForwardState where
  | sending
  | entered (lastUsed : ℕ)
  | released
  deriving DecidableEq

structure Forward where
  sink : ℕ
  client : Firewall.UDPAddr
  key : UDPKey
  state : ForwardState
  deriving DecidableEq

/-- Entered, and not idle for too long when idle entries were last removed. -/
def Forward.live (lastReap : ℕ) (x : Forward) : Bool :=
  match x.state with
  | .entered lastUsed => decide (lastReap ≤ lastUsed + datagramIdleTTL)
  | _ => false

/-- Live, or about to be. -/
def Forward.busy (lastReap : ℕ) (x : Forward) : Bool :=
  decide (x.state = .sending) || x.live lastReap

/-- A datagram came in for the client: that is a use of its entry. -/
def Forward.refresh (lastReap now : ℕ) (key : UDPKey) (x : Forward) : Forward :=
  if x.key = key ∧ x.live lastReap = true then { x with state := .entered now } else x

/-- The association is released, and its entries with it. -/
def Forward.release (sink : ℕ) (x : Forward) : Forward :=
  if x.sink = sink ∧ x.state ≠ .sending then { x with state := .released } else x

/-- A datagram that came in, the client whose datagram it answers, if any, and where it
went. -/
structure Delivery where
  datagram : PacketCipher.Datagram
  answers : Option (ℕ × Firewall.UDPAddr)
  outcome : Outcome

/-- Answers go to the client, and other datagrams to the service on their port. -/
def Delivery.Right (v : Delivery) : Prop :=
  match v.answers with
  | some (sink, client) => v.outcome = .client sink client
  | none => v.outcome = .service v.datagram.dstPort

instance (v : Delivery) : Decidable v.Right := by
  unfold Delivery.Right
  split <;> infer_instance

structure DatagramNet where
  cipher : PacketCipher
  rules : Ruleset
  now : ℕ
  tables : UDPTables
  /-- History: what clients have sent, the time of the last `reapDatagrams`, and what
  has come in. -/
  forwards : List Forward
  lastReap : ℕ
  deliveries : List Delivery

inductive DatagramAction where
  | tick (n : ℕ)
  /-- A roster with its settings; nothing below depends on how they change. -/
  | members (cipher : PacketCipher) (rules : Ruleset)
  /-- `forwardDatagram` up to the table; `written` says whether `send` succeeds. -/
  | forward (sink : ℕ) (client : Firewall.UDPAddr) (dst : Addr) (port : UInt16) (payload : Bytes)
      (written : Bool)
  /-- The rest of the call that has sent datagram `i`. -/
  | enter (i : ℕ)
  /-- `d` answers the datagram with the given number, or none. -/
  | deliver (d : PacketCipher.Datagram) (answers : Option ℕ) (listens : Bool)
  | release (sink : ℕ)
  | reap

namespace DatagramNet

/-- What is sent to a member comes back from its address and port, for the port of the
client. -/
def answered (s : DatagramNet) (d : PacketCipher.Datagram) :
    Option ℕ → Option (Option (ℕ × Firewall.UDPAddr))
  | none => some none
  | some i =>
    match s.forwards[i]? with
    | none => none
    | some x =>
      if x.key = datagramKey d ∧ UInt16.ofNat x.client.port = d.dstPort then
        some (some (x.sink, x.client))
      else none

def refresh (s : DatagramNet) (key : UDPKey) : Outcome → List Forward
  | .client _ _ => s.forwards.map (Forward.refresh s.lastReap s.now key)
  | _ => s.forwards

def deliver (s : DatagramNet) (d : PacketCipher.Datagram)
    (answers : Option (ℕ × Firewall.UDPAddr)) (listens : Bool) : DatagramNet :=
  let r := s.tables.deliverDatagram s.rules s.now d listens
  { s with
    tables := r.1
    forwards := s.refresh (datagramKey d) r.2
    deliveries := s.deliveries ++ [⟨d, answers, r.2⟩] }

def enter (s : DatagramNet) (i : ℕ) (x : Forward) : DatagramNet :=
  { s with
    tables := s.tables.enter s.now x.key x.client x.sink
    forwards := s.forwards.set i { x with state := .entered s.now } }

def step (s : DatagramNet) : DatagramAction → Option DatagramNet
  | .tick n => some { s with now := s.now + n }
  | .members cipher rules => some { s with cipher := cipher, rules := rules }
  | .forward sink client dst port payload written =>
    match forwardDatagram s.rules s.cipher client dst port payload with
    | some _ =>
      if written then
        some { s with forwards := s.forwards ++ [⟨sink, client, ⟨dst, port⟩, .sending⟩] }
      else some s
    | none => some s
  | .enter i =>
    match s.forwards[i]? with
    | none => none
    | some x => if x.state = .sending then some (s.enter i x) else none
  | .deliver d answers listens => (s.answered d answers).map (s.deliver d · listens)
  | .release sink =>
    some { s with
      tables := s.tables.releaseUDPClient sink
      forwards := s.forwards.map (Forward.release sink) }
  | .reap => some { s with tables := s.tables.reapDatagrams s.now, lastReap := s.now }

def start (cipher : PacketCipher) (rules : Ruleset) : DatagramNet :=
  ⟨cipher, rules, 0, ⟨∅, ∅⟩, [], 0, []⟩

/-- An answer comes while a datagram of its client is live, and any other datagram comes
from where no client has a live one, and gets a socket. -/
def Awaited (s : DatagramNet) (d : PacketCipher.Datagram) (listens : Bool) :
    Option (ℕ × Firewall.UDPAddr) → Prop
  | some who =>
    ∃ x ∈ s.forwards, x.key = datagramKey d ∧ (x.sink, x.client) = who ∧ x.live s.lastReap = true
  | none =>
    (∀ x ∈ s.forwards, x.key = datagramKey d → x.live s.lastReap = false) ∧
    (s.tables.services.lookup (datagramKey d) = none → listens = true)

instance Awaited.decidable (s : DatagramNet) (d : PacketCipher.Datagram) (listens : Bool) :
    ∀ who, Decidable (s.Awaited d listens who)
  | some who => inferInstanceAs (Decidable (∃ x ∈ s.forwards, _ ∧ _ = who ∧ _))
  | none => inferInstanceAs (Decidable ((∀ x ∈ s.forwards, _) ∧ _))

/-- A client does not send where another one is busy, and the rules allow what comes
in. -/
def Apart (s : DatagramNet) : DatagramAction → Prop
  | .forward sink client dst port _ _ =>
    ∀ x ∈ s.forwards, x.key = ⟨dst, port⟩ → x.busy s.lastReap = true →
      x.sink = sink ∧ x.client = client
  | .deliver d answers listens =>
    s.rules.allow (deliveryFlow d) = true ∧ ∀ who ∈ s.answered d answers, s.Awaited d listens who
  | _ => True

instance (s : DatagramNet) (action : DatagramAction) : Decidable (s.Apart action) := by
  unfold DatagramNet.Apart
  split <;> infer_instance

/-! ## The invariant -/

/-- The entry of the table for the client that has sent `x`, used no later. -/
structure Owns (lastReap : ℕ) (x : Forward) (key : UDPKey) (entry : UDPClient) : Prop where
  key : x.key = key
  sink : x.sink = entry.sink
  client : x.client = entry.client
  used : ∃ r, x.state = .entered r ∧ entry.lastSeen ≤ r ∧ lastReap ≤ r + datagramIdleTTL

/-- The live datagrams to an address and port are those of one client, and the table has
that client. -/
structure Kept (s : DatagramNet) : Prop where
  same : ∀ x ∈ s.forwards, ∀ y ∈ s.forwards, x.key = y.key → x.busy s.lastReap = true →
    y.busy s.lastReap = true → x.sink = y.sink ∧ x.client = y.client
  owner : ∀ key entry, s.tables.clients.lookup key = some entry →
    ∃ x ∈ s.forwards, Owns s.lastReap x key entry
  entry : ∀ x ∈ s.forwards, ∀ r, x.state = .entered r → s.lastReap ≤ r + datagramIdleTTL →
    ∃ entry, s.tables.clients.lookup x.key = some entry ∧ r ≤ entry.lastSeen
  used : ∀ x ∈ s.forwards, ∀ r, x.state = .entered r → r ≤ s.now
  reaped : s.lastReap ≤ s.now
  right : ∀ v ∈ s.deliveries, v.Right

section Invariant

variable {s s' : DatagramNet} {x y : Forward} {n : ℕ} {key : UDPKey} {entry : UDPClient}
  {d : PacketCipher.Datagram} {listens : Bool}

theorem live_iff : x.live n = true ↔ ∃ r, x.state = .entered r ∧ n ≤ r + datagramIdleTTL := by
  rw [Forward.live]
  cases hstate : x.state with
  | entered r => simp
  | sending | released => simp

theorem busy_of_live (h : x.live n = true) : x.busy n = true := by
  rw [Forward.busy, h, Bool.or_true]

theorem busy_of_sending (h : x.state = .sending) : x.busy n = true := by
  rw [Forward.busy, decide_eq_true h, Bool.true_or]

theorem busy_iff : x.busy n = true ↔ x.state = .sending ∨ x.live n = true := by
  rw [Forward.busy, Bool.or_eq_true, decide_eq_true_iff]

theorem Owns.live (h : Owns n x key entry) : x.live n = true := by
  obtain ⟨r, hr, -, hreap⟩ := h.used
  exact live_iff.mpr ⟨r, hr, hreap⟩

/-- The table has the client of a live datagram. -/
theorem Kept.lookup_of_live (h : s.Kept) (hx : x ∈ s.forwards) (hlive : x.live s.lastReap = true) :
    ∃ entry, s.tables.clients.lookup x.key = some entry ∧ entry.sink = x.sink ∧
      entry.client = x.client := by
  obtain ⟨r, hr, hreap⟩ := live_iff.mp hlive
  obtain ⟨entry, hentry, -⟩ := h.entry x hx r hr hreap
  obtain ⟨y, hy, howns⟩ := h.owner _ _ hentry
  obtain ⟨hsink, hclient⟩ :=
    h.same y hy x hx howns.key (busy_of_live howns.live) (busy_of_live hlive)
  exact ⟨entry, hentry, howns.sink.symm.trans hsink, howns.client.symm.trans hclient⟩

/-- Each datagram is one that there was before, and not busy if that one was not. -/
theorem Kept.same_of_forall (h : s.Kept)
    (hold : ∀ y ∈ s'.forwards, ∃ x ∈ s.forwards, x.key = y.key ∧ x.sink = y.sink ∧
      x.client = y.client ∧ (y.busy s'.lastReap = true → x.busy s.lastReap = true)) :
    ∀ x ∈ s'.forwards, ∀ y ∈ s'.forwards, x.key = y.key → x.busy s'.lastReap = true →
      y.busy s'.lastReap = true → x.sink = y.sink ∧ x.client = y.client := by
  intro x hx y hy hkey hxbusy hybusy
  obtain ⟨x₀, hx₀, hxkey, hxsink, hxclient, hxold⟩ := hold x hx
  obtain ⟨y₀, hy₀, hykey, hysink, hyclient, hyold⟩ := hold y hy
  obtain ⟨hsink, hclient⟩ := h.same x₀ hx₀ y₀ hy₀ (hxkey.trans (hkey.trans hykey.symm))
    (hxold hxbusy) (hyold hybusy)
  exact ⟨hxsink.symm.trans (hsink.trans hysink), hxclient.symm.trans (hclient.trans hyclient)⟩

theorem kept_start (cipher : PacketCipher) (rules : Ruleset) : (start cipher rules).Kept where
  same := nofun
  owner := by
    intro key entry h
    cases h
  entry := nofun
  used := nofun
  reaped := le_refl 0
  right := nofun

/-! ### Sending -/

theorem Kept.forward (h : s.Kept) {sink : ℕ} {client : Firewall.UDPAddr}
    (hfree : ∀ x ∈ s.forwards, x.key = key → x.busy s.lastReap = true →
      x.sink = sink ∧ x.client = client) :
    Kept { s with forwards := s.forwards ++ [⟨sink, client, key, .sending⟩] } where
  same := by
    intro x hx y hy hkey hxbusy hybusy
    obtain hx | hx := mem_append.mp hx
    · obtain hy | hy := mem_append.mp hy
      · exact h.same x hx y hy hkey hxbusy hybusy
      · obtain rfl := mem_singleton.mp hy
        exact hfree x hx hkey hxbusy
    · obtain rfl := mem_singleton.mp hx
      obtain hy | hy := mem_append.mp hy
      · obtain ⟨hsink, hclient⟩ := hfree y hy hkey.symm hybusy
        exact ⟨hsink.symm, hclient.symm⟩
      · obtain rfl := mem_singleton.mp hy
        exact ⟨rfl, rfl⟩
  owner := by
    intro key entry hentry
    obtain ⟨x, hx, howns⟩ := h.owner key entry hentry
    exact ⟨x, mem_append_left _ hx, howns⟩
  entry := by
    intro x hx r hr
    obtain hx | hx := mem_append.mp hx
    · exact h.entry x hx r hr
    · obtain rfl := mem_singleton.mp hx
      cases hr
  used := by
    intro x hx r hr
    obtain hx | hx := mem_append.mp hx
    · exact h.used x hx r hr
    · obtain rfl := mem_singleton.mp hx
      cases hr
  reaped := h.reaped
  right := h.right

theorem Kept.enter (h : s.Kept) {i : ℕ} (hx : s.forwards[i]? = some x)
    (hsending : x.state = .sending) : (s.enter i x).Kept where
  same := by
    refine h.same_of_forall ?_
    intro y hy
    obtain hy | rfl := mem_or_eq_of_mem_set hy
    · exact ⟨y, hy, rfl, rfl, rfl, id⟩
    · exact ⟨x, mem_of_getElem? hx, rfl, rfl, rfl, fun _ => busy_of_sending hsending⟩
  owner := by
    intro key entry hentry
    obtain ⟨rfl, rfl⟩ | ⟨-, hentry⟩ := lookup_insert_cases hentry
    · refine ⟨_, mem_set_of_some hx _, rfl, rfl, rfl, s.now, rfl, le_refl _, ?_⟩
      exact le_trans h.reaped (Nat.le_add_right _ _)
    · obtain ⟨y, hy, howns⟩ := h.owner key entry hentry
      have hne : y ≠ x := by
        rintro rfl
        obtain ⟨r, hr, -⟩ := howns.used
        rw [hsending] at hr
        cases hr
      exact ⟨y, mem_set_of_ne hx hne hy _, howns⟩
  entry := by
    intro y hy r hr hreap
    change ∃ entry, (s.tables.clients.insert x.key _).lookup y.key = some entry ∧ _
    obtain hy | rfl := mem_or_eq_of_mem_set hy
    · by_cases hkey : y.key = x.key
      · rw [hkey, lookup_insert]
        exact ⟨_, rfl, h.used y hy r hr⟩
      · rw [lookup_insert_ne hkey]
        exact h.entry y hy r hr hreap
    · cases hr
      exact ⟨_, lookup_insert _, le_refl _⟩
  used := by
    intro y hy r hr
    obtain hy | rfl := mem_or_eq_of_mem_set hy
    · exact h.used y hy r hr
    · cases hr
      exact le_refl _
  reaped := h.reaped
  right := h.right

/-! ### Delivering -/

theorem refresh_cases (n now : ℕ) (key : UDPKey) (x : Forward) : (x.key = key ∧ x.live n = true ∧
      x.refresh n now key = { x with state := .entered now }) ∨ x.refresh n now key = x := by
  rw [Forward.refresh]
  split
  · rename_i hlive
    exact .inl ⟨hlive.1, hlive.2, rfl⟩
  · exact .inr rfl

theorem deliver_client {answers : Option (ℕ × Firewall.UDPAddr)}
    (hallow : s.rules.allow (deliveryFlow d) = true)
    (hentry : s.tables.clients.lookup (datagramKey d) = some entry) :
    s.deliver d answers listens = { s with
      tables := { s.tables with
        clients := s.tables.clients.insert (datagramKey d) { entry with lastSeen := s.now } }
      forwards := s.forwards.map (Forward.refresh s.lastReap s.now (datagramKey d))
      deliveries := s.deliveries ++ [⟨d, answers, .client entry.sink entry.client⟩] } := by
  simp only [deliver, UDPTables.deliverDatagram, hallow, hentry]
  rfl

theorem deliver_service {answers : Option (ℕ × Firewall.UDPAddr)}
    (hallow : s.rules.allow (deliveryFlow d) = true)
    (hnone : s.tables.clients.lookup (datagramKey d) = none)
    (hlistens : s.tables.services.lookup (datagramKey d) = none → listens = true) :
    s.deliver d answers listens = { s with
      tables := { s.tables with
        services := s.tables.services.insert (datagramKey d) s.now }
      deliveries := s.deliveries ++ [⟨d, answers, .service d.dstPort⟩] } := by
  have hsocket : ¬ (s.tables.services.lookup (datagramKey d) = none ∧ listens = false) := by
    rintro ⟨hservice, hfalse⟩
    rw [hlistens hservice] at hfalse
    cases hfalse
  simp only [deliver, UDPTables.deliverDatagram, hallow, hnone, hsocket]
  rfl

theorem right_concat {v : Delivery} (h : ∀ v ∈ s.deliveries, v.Right) (hv : v.Right) :
    ∀ w ∈ s.deliveries ++ [v], w.Right := by
  intro w hw
  obtain hw | hw := mem_append.mp hw
  · exact h w hw
  · rw [mem_singleton.mp hw]
    exact hv

/-- An answer goes to the client that has asked. -/
theorem Kept.deliver_client (h : s.Kept) (hallow : s.rules.allow (deliveryFlow d) = true)
    (hentry : s.tables.clients.lookup (datagramKey d) = some entry) :
    (s.deliver d (some (entry.sink, entry.client)) listens).Kept := by
  rw [DatagramNet.deliver_client hallow hentry]
  constructor
  case same =>
    refine h.same_of_forall ?_
    intro y hy
    obtain ⟨x, hx, rfl⟩ := mem_map.mp hy
    obtain ⟨-, hlive, heq⟩ | heq := refresh_cases s.lastReap s.now (datagramKey d) x
    · rw [heq]
      exact ⟨x, hx, rfl, rfl, rfl, fun _ => busy_of_live hlive⟩
    · rw [heq]
      exact ⟨x, hx, rfl, rfl, rfl, id⟩
  case owner =>
    intro key entry' hentry'
    obtain ⟨rfl, rfl⟩ | ⟨hkey, hentry'⟩ := lookup_insert_cases hentry'
    · obtain ⟨x, hx, howns⟩ := h.owner _ _ hentry
      refine ⟨_, mem_map_of_mem hx, ?_⟩
      rw [Forward.refresh, if_pos ⟨howns.key, howns.live⟩]
      refine ⟨howns.key, howns.sink, howns.client, s.now, rfl, le_refl _, ?_⟩
      exact le_trans h.reaped (Nat.le_add_right _ _)
    · obtain ⟨x, hx, howns⟩ := h.owner _ _ hentry'
      refine ⟨_, mem_map_of_mem hx, ?_⟩
      rw [Forward.refresh, if_neg fun hsame => hkey (howns.key.symm.trans hsame.1)]
      exact howns
  case entry =>
    intro y hy r hr hreap
    obtain ⟨x, hx, rfl⟩ := mem_map.mp hy
    obtain ⟨hkey, -, heq⟩ | heq := refresh_cases s.lastReap s.now (datagramKey d) x
    · rw [heq] at hr ⊢
      cases hr
      rw [hkey]
      exact ⟨_, lookup_insert _, le_refl _⟩
    · rw [heq] at hr ⊢
      by_cases hkey : x.key = datagramKey d
      · rw [hkey]
        exact ⟨_, lookup_insert _, h.used x hx r hr⟩
      · rw [lookup_insert_ne hkey]
        exact h.entry x hx r hr hreap
  case used =>
    intro y hy r hr
    obtain ⟨x, hx, rfl⟩ := mem_map.mp hy
    obtain ⟨-, -, heq⟩ | heq := refresh_cases s.lastReap s.now (datagramKey d) x
    · rw [heq] at hr
      cases hr
      exact le_refl _
    · rw [heq] at hr
      exact h.used x hx r hr
  case reaped => exact h.reaped
  case right => exact right_concat h.right rfl

theorem Kept.deliver_service (h : s.Kept) (hallow : s.rules.allow (deliveryFlow d) = true)
    (hfree : ∀ x ∈ s.forwards, x.key = datagramKey d → x.live s.lastReap = false)
    (hlistens : s.tables.services.lookup (datagramKey d) = none → listens = true) :
    (s.deliver d none listens).Kept := by
  have hnone : s.tables.clients.lookup (datagramKey d) = none := by
    refine Option.eq_none_iff_forall_ne_some.mpr fun entry hentry => ?_
    obtain ⟨x, hx, howns⟩ := h.owner _ _ hentry
    cases howns.live.symm.trans (hfree x hx howns.key)
  rw [DatagramNet.deliver_service hallow hnone hlistens]
  exact ⟨h.same, h.owner, h.entry, h.used, h.reaped, right_concat h.right rfl⟩

/-! ### Releasing and reaping -/

theorem release_cases (sink : ℕ) (x : Forward) :
    (x.sink = sink ∧ x.release sink = { x with state := .released }) ∨
      (x.sink = sink → x.state = .sending) ∧ x.release sink = x := by
  rw [Forward.release]
  split
  · rename_i hsink
    exact .inl ⟨hsink.1, rfl⟩
  · rename_i hsink
    exact .inr ⟨fun heq => not_not.mp fun hne => hsink ⟨heq, hne⟩, rfl⟩

theorem Kept.release (h : s.Kept) (sink : ℕ) : Kept { s with
      tables := s.tables.releaseUDPClient sink
      forwards := s.forwards.map (Forward.release sink) } where
  same := by
    refine h.same_of_forall ?_
    intro y hy
    obtain ⟨x, hx, rfl⟩ := mem_map.mp hy
    obtain ⟨-, heq⟩ | ⟨-, heq⟩ := release_cases sink x
    · rw [heq]
      exact ⟨x, hx, rfl, rfl, rfl, nofun⟩
    · rw [heq]
      exact ⟨x, hx, rfl, rfl, rfl, id⟩
  owner := by
    intro key entry hentry
    obtain ⟨hentry, hother⟩ := lookup_deleteIf_eq_some.mp hentry
    obtain ⟨x, hx, howns⟩ := h.owner _ _ hentry
    refine ⟨_, mem_map_of_mem hx, ?_⟩
    rw [Forward.release, if_neg fun hsink =>
      of_decide_eq_false hother (howns.sink.symm.trans hsink.1)]
    exact howns
  entry := by
    intro y hy r hr hreap
    obtain ⟨x, hx, rfl⟩ := mem_map.mp hy
    obtain ⟨-, heq⟩ | ⟨hsending, heq⟩ := release_cases sink x
    · rw [heq] at hr
      cases hr
    · rw [heq] at hr ⊢
      obtain ⟨entry, hentry, hlast⟩ := h.entry x hx r hr hreap
      obtain ⟨entry', hentry', hsink, -⟩ := h.lookup_of_live hx (live_iff.mpr ⟨r, hr, hreap⟩)
      cases hentry.symm.trans hentry'
      refine ⟨entry, lookup_deleteIf_eq_some.mpr ⟨hentry, decide_eq_false fun heq => ?_⟩, hlast⟩
      rw [hsending (hsink.symm.trans heq)] at hr
      cases hr
  used := by
    intro y hy r hr
    obtain ⟨x, hx, rfl⟩ := mem_map.mp hy
    obtain ⟨-, heq⟩ | ⟨-, heq⟩ := release_cases sink x
    · rw [heq] at hr
      cases hr
    · rw [heq] at hr
      exact h.used x hx r hr
  reaped := h.reaped
  right := h.right

/-- The entries that stay are those of the datagrams that are still live. -/
theorem Kept.reap (h : s.Kept) :
    Kept { s with tables := s.tables.reapDatagrams s.now, lastReap := s.now } where
  same := by
    refine h.same_of_forall ?_
    intro x hx
    refine ⟨x, hx, rfl, rfl, rfl, fun hbusy => ?_⟩
    obtain hsending | hlive := busy_iff.mp hbusy
    · exact busy_of_sending hsending
    · obtain ⟨r, hr, hreap⟩ := live_iff.mp hlive
      exact busy_of_live (live_iff.mpr ⟨r, hr, le_trans h.reaped hreap⟩)
  owner := by
    intro key entry hentry
    obtain ⟨hentry, hrecent⟩ := lookup_deleteIf_eq_some.mp hentry
    obtain ⟨x, hx, howns⟩ := h.owner _ _ hentry
    obtain ⟨r, hr, hlast, -⟩ := howns.used
    refine ⟨x, hx, howns.key, howns.sink, howns.client, r, hr, hlast, ?_⟩
    have hidle := of_decide_eq_false hrecent
    change s.now ≤ r + datagramIdleTTL
    omega
  entry := by
    intro x hx r hr hreap
    obtain ⟨entry, hentry, hlast⟩ := h.entry x hx r hr (le_trans h.reaped hreap)
    refine ⟨entry, lookup_deleteIf_eq_some.mpr ⟨hentry, decide_eq_false ?_⟩, hlast⟩
    change s.now ≤ r + datagramIdleTTL at hreap
    omega
  used := h.used
  reaped := le_refl _
  right := h.right

theorem Kept.tick (h : s.Kept) (n : ℕ) : Kept { s with now := s.now + n } where
  same := h.same
  owner := h.owner
  entry := h.entry
  used x hx r hr := le_trans (h.used x hx r hr) (Nat.le_add_right _ _)
  reaped := le_trans h.reaped (Nat.le_add_right _ _)
  right := h.right

/-! ### Runs -/

/-- Every action that keeps the clients apart. -/
theorem Kept.step {action : DatagramAction} (h : s.Kept) (hapart : s.Apart action)
    (hs : s.step action = some s') : s'.Kept := by
  revert hapart hs
  fun_cases DatagramNet.step s action <;> intro hapart hs
  case case9 d answers listens =>
    obtain ⟨who, hwho, rfl⟩ := Option.map_eq_some_iff.mp hs
    obtain ⟨hallow, hcase⟩ := hapart
    have hawaited := hcase who hwho
    cases who with
    | none => exact h.deliver_service hallow hawaited.1 hawaited.2
    | some who =>
      obtain ⟨x, hx, hkey, rfl, hlive⟩ := hawaited
      obtain ⟨entry, hentry, hsink, hclient⟩ := h.lookup_of_live hx hlive
      rw [hkey] at hentry
      rw [← hsink, ← hclient]
      exact h.deliver_client hallow hentry
  all_goals cases hs
  case case1 n => exact h.tick n
  case case2 => exact { h with }
  case case3 => exact h.forward hapart
  case case4 | case5 => exact h
  case case7 i x hx hsending => exact h.enter hx hsending
  case case10 sink => exact h.release sink
  case case11 => exact h.reap

end Invariant

/-- If clients keep apart, then in every run each answer goes to the client whose
datagram it answers, and each other datagram to the service on its port. -/
theorem answers_find_clients (cipher : PacketCipher) (rules : Ruleset)
    (actions : List DatagramAction) (t : DatagramNet)
    (hapart : Guarded step Apart (start cipher rules) actions)
    (hrun : run step (start cipher rules) actions = some t) : ∀ v ∈ t.deliveries, v.Right := by
  have h : t.Kept := run_invariant (fun _ _ _ h => h.step) (kept_start cipher rules) hapart hrun
  exact h.right

/-! ## Runs -/

def localClient (n : ℕ) : Firewall.UDPAddr := ⟨.v4 0x7F000001, 1000 + n⟩

/-- Association `n` forwards a datagram of client `n` to `10.0.0.2`. -/
def sendTo (port : UInt16) (n : ℕ) : DatagramAction :=
  .forward n (localClient n) (.v4 0x0A000002) port [7] true

/-- A datagram from `10.0.0.2` to `10.0.0.1`. -/
def incoming (srcPort dstPort : UInt16) : PacketCipher.Datagram :=
  ⟨0, .v4 0x0A000002, .v4 0x0A000001, srcPort, dstPort, [9]⟩

/-- Two clients ask different ports, one of them goes away, and another asks the same
port after that. -/
def apartActions : List DatagramAction :=
  [sendTo 53 1, .enter 0, sendTo 54 2, .enter 1, .deliver (incoming 53 1001) (some 0) true,
    .deliver (incoming 55 8080) none true, .tick (61 * 10 ^ 9), sendTo 53 1, .enter 2, .reap,
    .deliver (incoming 53 1001) (some 2) true, .deliver (incoming 54 8080) none true,
    .release 1, sendTo 53 3, .enter 3, .deliver (incoming 53 1003) (some 3) false]

theorem apartActions_right : ∃ A ∈ plainMember 1 1 1 2 2 2,
      Guarded step Apart (start A.cipher ⟨[], true⟩) apartActions ∧
      ∃ t, run step (start A.cipher ⟨[], true⟩) apartActions = some t ∧
        t.deliveries.map Delivery.outcome =
          [.client 1 (localClient 1), .service 8080, .client 1 (localClient 1), .service 8080,
            .client 3 (localClient 3)] ∧ ∀ v ∈ t.deliveries, v.Right := by
  obtain ⟨A, hA, hapart, t, hrun, houtcomes⟩ : ∃ A ∈ plainMember 1 1 1 2 2 2,
        Guarded step Apart (start A.cipher ⟨[], true⟩) apartActions ∧
        ∃ t ∈ run step (start A.cipher ⟨[], true⟩) apartActions, t.deliveries.map Delivery.outcome =
            [.client 1 (localClient 1), .service 8080, .client 1 (localClient 1),
              .service 8080, .client 3 (localClient 3)] := by
    decide +kernel
  exact ⟨A, hA, hapart, t, hrun, houtcomes,
    answers_find_clients A.cipher ⟨[], true⟩ apartActions t hapart hrun⟩

/-- A datagram that comes in during the run goes where it should not go. -/
def Astray (A : Member plainLib) (actions : List DatagramAction)
    (answers : Option (ℕ × Firewall.UDPAddr)) (outcome : Outcome) : Prop :=
  ∃ t ∈ run step (start A.cipher ⟨[], true⟩) actions,
    ∃ v ∈ t.deliveries, v.answers = answers ∧ v.outcome = outcome ∧ ¬ v.Right

instance Astray.decidable (A : Member plainLib) (actions : List DatagramAction)
    (answers : Option (ℕ × Firewall.UDPAddr)) (outcome : Outcome) :
    Decidable (Astray A actions answers outcome) :=
  inferInstanceAs (Decidable (∃ t ∈ run step _ actions, ∃ v ∈ t.deliveries, _))

/-- The answer to one client goes to another one that asks the same port, an answer that
comes before the table is written goes to a service, and a datagram for a service goes to
a client. -/
theorem answers_astray : ∃ A ∈ plainMember 1 1 1 2 2 2, Astray A
        [sendTo 53 1, .enter 0, sendTo 53 2, .enter 1, .deliver (incoming 53 1001) (some 0) true]
        (some (1, localClient 1)) (.client 2 (localClient 2)) ∧
      Astray A [sendTo 53 1, .deliver (incoming 53 1001) (some 0) true]
        (some (1, localClient 1)) (.service 1001) ∧
      Astray A [sendTo 53 1, .enter 0, .deliver (incoming 53 8080) none true]
        none (.client 1 (localClient 1)) := by
  decide +kernel

end DatagramNet

end LinkSocks.Zone
