import LinkSocks.Zone.Stream

/-!
# Identifiers of zone streams

`allocate` moves a cursor over the 32-bit identifiers until it meets one that is not zero
and not in use; the cursor wraps around.  `insert` takes the identifier of the other member.
Both hold the lock of the table throughout.
-/

namespace LinkSocks.Zone

open Go AList

def streamQueueLimit : ℕ := 512 * 1024

structure TableStream (Conn Peer : Type*) where
  conn : Conn
  id : UInt32
  peer : Peer
  queue : FrameQueue
  /-- The channel for the answer to OPEN, if there is one. -/
  ready : Option (List UInt16)
  finished : Bool
  attached : Bool
  localClosed : Bool
  remoteClosed : Bool
  done : Bool

structure StreamTable (Conn Peer : Type*) where
  streams : GoMap UInt32 (TableStream Conn Peer)
  next : UInt32

namespace StreamTable

variable {Conn Peer : Type*} (t : StreamTable Conn Peer) (c : Conn) (peer : Peer)

def newStream (id : UInt32) (outbound : Bool) : TableStream Conn Peer × StreamTable Conn Peer :=
  let s : TableStream Conn Peer :=
    { conn := c, id := id, peer := peer, queue := .empty streamQueueLimit
      ready := if outbound then some [] else none
      finished := false, attached := false, localClosed := false, remoteClosed := false
      done := false }
  (s, { t with streams := t.streams.insert s.id s })

/-- The loop of `allocate`, if it ends within `fuel` rounds. -/
def probe (t : StreamTable Conn Peer) : ℕ → Option (StreamTable Conn Peer)
  | 0 => none
  | fuel + 1 =>
    let t' := { t with next := t.next + 1 }
    if t'.next = 0 ∨ (t'.streams.lookup t'.next).isSome then t'.probe fuel else some t'

def allocate (outbound : Bool) (fuel : ℕ) :
    Option (TableStream Conn Peer × StreamTable Conn Peer) :=
  (t.probe fuel).map fun t' => t'.newStream c peer t'.next outbound

def insert (id : UInt32) : Option (TableStream Conn Peer × StreamTable Conn Peer) :=
  if id = 0 ∨ (t.streams.lookup id).isSome then none else some (t.newStream c peer id false)

/-! ## Free identifiers -/

def Free (id : UInt32) : Prop := id ≠ 0 ∧ t.streams.lookup id = none

/-- The stream is new under its identifier, and nothing else changes. -/
structure Enters (s : TableStream Conn Peer) (t' : StreamTable Conn Peer) : Prop where
  free : t.Free s.id
  stored : t'.streams.lookup s.id = some s
  others : ∀ id ≠ s.id, t'.streams.lookup id = t.streams.lookup id

variable {t}

theorem free_iff {id : UInt32} : t.Free id ↔ ¬ (id = 0 ∨ (t.streams.lookup id).isSome) := by
  rw [Free, not_or, Option.not_isSome_iff_eq_none]

theorem enters_newStream {id : UInt32} (h : t.Free id) (next : UInt32) (outbound : Bool) :
    t.Enters (newStream { t with next := next } c peer id outbound).1
      (newStream { t with next := next } c peer id outbound).2 where
  free := h
  stored := lookup_insert _
  others _ hne := lookup_insert_ne hne

theorem probe_of_free (h : t.Free (t.next + 1)) {fuel : ℕ} (hfuel : 0 < fuel) :
    t.probe fuel = some { t with next := t.next + 1 } := by
  obtain ⟨k, rfl⟩ := Nat.exists_eq_add_one.mpr hfuel
  exact if_neg (free_iff.mp h)

/-- One round brings the cursor closer to an identifier that it has not met. -/
theorem distance_succ {next free : UInt32} (h : next + 1 ≠ free) :
    (free - (next + 1)).toNat = (free - (next + 1 + 1)).toNat + 1 := by
  have hne : (next + 1).toNat ≠ free.toNat := fun heq => h (UInt32.toNat_inj.mp heq)
  have hfree := free.toNat_lt
  simp only [UInt32.toNat_sub, UInt32.toNat_add, UInt32.toNat_one] at hne ⊢
  omega

/-- The loop ends before the cursor has passed a free identifier. -/
theorem probe_finds {free : UInt32} (h : t.Free free) :
    ∃ id, t.Free id ∧ ∀ fuel, (free - (t.next + 1)).toNat < fuel →
      t.probe fuel = some { t with next := id } := by
  induction hd : (free - (t.next + 1)).toNat generalizing t with
  | zero =>
    have hmet : t.next + 1 = free := by
      by_contra hne
      rw [distance_succ hne] at hd
      cases hd
    subst hmet
    exact ⟨_, h, fun fuel => probe_of_free h⟩
  | succ d ih =>
    by_cases hnext : t.Free (t.next + 1)
    · exact ⟨_, hnext, fun fuel hfuel => probe_of_free hnext (Nat.zero_lt_of_lt hfuel)⟩
    · have hne : t.next + 1 ≠ free := fun heq => hnext (heq ▸ h)
      rw [distance_succ hne] at hd
      obtain ⟨id, hid, hprobe⟩ := ih (t := { t with next := t.next + 1 }) h (Nat.succ.inj hd)
      refine ⟨id, hid, fun fuel hfuel => ?_⟩
      obtain ⟨k, rfl⟩ := Nat.exists_eq_add_one.mpr (Nat.zero_lt_of_lt hfuel)
      rw [free_iff, not_not] at hnext
      exact (if_pos hnext).trans (hprobe k (Nat.lt_of_succ_lt_succ hfuel))

/-- As long as an identifier is free, `allocate` returns a stream that is new under its
identifier, within as many rounds as there are identifiers.  `insert` does so for the free
identifiers and for no other. -/
theorem identifiers_fresh (t : StreamTable Conn Peer) (c : Conn) (peer : Peer) :
    ((∃ id, t.Free id) → ∀ outbound, ∃ s t', t.Enters s t' ∧
      ∀ fuel, 2 ^ 32 ≤ fuel → t.allocate c peer outbound fuel = some (s, t')) ∧
    ∀ id, ((t.insert c peer id).isSome = true ↔ t.Free id) ∧
      ∀ s t', t.insert c peer id = some (s, t') → s.id = id ∧ t.Enters s t' := by
  refine ⟨fun ⟨free, hfree⟩ outbound => ?_, fun id => ?_⟩
  · obtain ⟨id, hid, hprobe⟩ := probe_finds hfree
    refine ⟨_, _, enters_newStream c peer hid id outbound, fun fuel hfuel => ?_⟩
    rw [allocate, hprobe fuel (lt_of_lt_of_le (UInt32.toNat_lt _) hfuel)]
    rfl
  · rw [free_iff, insert]
    split_ifs with hused
    · exact ⟨iff_of_false nofun (not_not.mpr hused), nofun⟩
    · refine ⟨iff_of_true rfl hused, ?_⟩
      rintro s t' ⟨⟩
      exact ⟨rfl, enters_newStream c peer (free_iff.mpr hused) t.next false⟩

/-- The cursor wraps around, and zero and the identifier in use are skipped. -/
def wrapping : StreamTable Unit Unit := (newStream ⟨∅, 0xFFFFFFFF⟩ () () 1 false).2

theorem wrapping_allocates : (wrapping.allocate () () true 3).map (·.1.id) = some 2 ∧
    ∃ s t', wrapping.Enters s t' ∧
      ∀ fuel, 2 ^ 32 ≤ fuel → wrapping.allocate () () true fuel = some (s, t') :=
  ⟨rfl, (identifiers_fresh wrapping () ()).1 ⟨2, by decide, rfl⟩ true⟩

end StreamTable

end LinkSocks.Zone
