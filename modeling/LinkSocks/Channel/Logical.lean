import LinkSocks.Go.Machine
import LinkSocks.Wire.Message
import Mathlib.Data.List.Sort

/-!
# Logical channels

The object that stands for a channel at one of its ends: its current writer, the relay
writer it falls back to, the numbers of the last data message it has sent and of the last it
has taken in, and the data that the peer has not acknowledged.  Every definition here is one
critical section of `mu`.
-/

namespace LinkSocks

open Go List

/-- A `MessageWriter`: the pool of relay links, or a direct connection. -/
abbrev Writer := ℕ

inductive ChannelPath where
  | relay
  | direct
  deriving DecidableEq

/-- `suspendSince` is left out: what it decides is a label of the machines that
use channels. -/
structure LogicalChannelState where
  id : UUID
  path : ChannelPath
  writer : Option Writer
  fallback : Option Writer
  request : ConnectMessage
  resumeOwner : Bool
  migration : Bool
  sequence : UInt64
  received : UInt64
  pending : GoMap UInt64 DataMessage
  closed : Bool

namespace LogicalChannelState

def noRequest : ConnectMessage := ⟨[], [], 0, UUID.nil, false⟩

def newLogicalChannel (id : UUID) (writer fallback : Option Writer)
    (path : ChannelPath) : LogicalChannelState where
  id := id
  path := path
  writer := writer
  fallback := fallback
  request := noRequest
  resumeOwner := false
  migration := false
  sequence := 0
  received := 0
  pending := ∅
  closed := false

/-! ## Sending -/

/-- What `WriteMessage` does to data under `mu`: with migration it gets the
next number and is kept until it is acknowledged. -/
def assign (c : LogicalChannelState) (data : DataMessage) : LogicalChannelState × DataMessage :=
  if c.migration then
    let data := { data with
      channelID := if data.channelID = UUID.nil then c.id else data.channelID
      sequence := c.sequence + 1 }
    ({ c with
        sequence := c.sequence + 1
        pending := c.pending.insert data.sequence data }, data)
  else (c, data)

variable {c : LogicalChannelState} {m : DataMessage} {w : Writer} {sequence : UInt64}

theorem assign_off (data : DataMessage)
    (hoff : c.migration = false) : c.assign data = (c, data) := by
  rw [assign, hoff]
  rfl

theorem assign_on (data : DataMessage) (hon : c.migration = true) :
    (c.assign data).2.sequence = c.sequence + 1 ∧ (c.assign data).1.sequence = c.sequence + 1 ∧
      (c.assign data).1.pending =
        c.pending.insert (c.assign data).2.sequence (c.assign data).2 := by
  rw [assign, hon]
  exact ⟨rfl, rfl, rfl⟩

theorem assign_keeps (c : LogicalChannelState) (data : DataMessage) :
    (c.assign data).1.resumeOwner = c.resumeOwner ∧ (c.assign data).1.migration = c.migration ∧
      (c.assign data).1.writer = c.writer ∧ (c.assign data).1.fallback = c.fallback ∧
      (c.assign data).1.closed = c.closed := by
  rw [assign]
  split <;> exact ⟨rfl, rfl, rfl, rfl, rfl⟩

theorem lookup_assign {data : DataMessage}
    {n : UInt64} (hon : c.migration = true) (h : (c.assign data).1.pending.lookup n = some m) :
    c.pending.lookup n = some m ∨ m = (c.assign data).2 := by
  rw [(assign_on data hon).2.2] at h
  obtain ⟨-, hnew⟩ | ⟨-, hold⟩ := lookup_insert_cases h
  · exact .inr hnew
  · exact .inl hold

/-- `Switch`; no result means that the channel is closed. -/
def switch (c : LogicalChannelState) (w : Writer) (path : ChannelPath) :
    Option LogicalChannelState :=
  if c.closed then none else some { c with writer := some w, path := path }

/-- `switchToFallback` under `mu`, with the writer it goes on with. -/
def switchToFallback (c : LogicalChannelState) : Option (LogicalChannelState × Writer) :=
  if c.closed then none
  else c.fallback.map fun w => ({ c with writer := some w, path := .relay }, w)

def enableMigration (c : LogicalChannelState) (enabled : Bool) : LogicalChannelState :=
  { c with migration := enabled }

/-- Only the writer and the path have changed, and migration may have been
switched on. -/
structure KeepsData (c c' : LogicalChannelState) : Prop where
  id : c'.id = c.id
  fallback : c'.fallback = c.fallback
  request : c'.request = c.request
  resumeOwner : c'.resumeOwner = c.resumeOwner
  migration : c.migration = true → c'.migration = true
  sequence : c'.sequence = c.sequence
  pending : c'.pending = c.pending
  closed : c'.closed = c.closed

theorem KeepsData.refl (c : LogicalChannelState) : c.KeepsData c :=
  ⟨rfl, rfl, rfl, rfl, fun h => h, rfl, rfl, rfl⟩

theorem keepsData_enableMigration (c : LogicalChannelState) :
    c.KeepsData (c.enableMigration true) := ⟨rfl, rfl, rfl, rfl, fun _ => rfl, rfl, rfl, rfl⟩

variable {c c' : LogicalChannelState}

theorem keepsData_switch {path : ChannelPath} (h : c.switch w path = some c') : c.KeepsData c' := by
  rw [switch] at h
  split at h <;> cases h
  exact ⟨rfl, rfl, rfl, rfl, fun h => h, rfl, rfl, rfl⟩

theorem keepsData_switchToFallback (h : c.switchToFallback = some (c', w)) : c.KeepsData c' := by
  rw [switchToFallback] at h
  split at h
  · cases h
  · obtain ⟨w', -, hw⟩ := Option.map_eq_some_iff.mp h
    cases hw
    exact ⟨rfl, rfl, rfl, rfl, fun h => h, rfl, rfl, rfl⟩

def setRequest (c : LogicalChannelState) (request : ConnectMessage) : LogicalChannelState :=
  { c with request := request }

def markResumeOwner (c : LogicalChannelState) : LogicalChannelState :=
  { c with resumeOwner := true }

def canResume (c : LogicalChannelState) : Bool :=
  c.resumeOwner && decide (c.request.channelID ≠ UUID.nil) && !c.closed

def acknowledge (c : LogicalChannelState) (sequence : UInt64) : LogicalChannelState :=
  { c with pending := c.pending.erase sequence }

/-- The retained data in the order of its numbers. -/
def pendingMessages (c : LogicalChannelState) : List DataMessage :=
  (c.pending.entries.map Sigma.snd).insertionSort (·.sequence ≤ ·.sequence)

def close (c : LogicalChannelState) : LogicalChannelState :=
  { c with closed := true, writer := none }

theorem mem_pendingMessages : m ∈ c.pendingMessages ↔ ∃ n, c.pending.lookup n = some m := by
  rw [pendingMessages, mem_insertionSort, mem_map]
  constructor
  · rintro ⟨⟨n, m'⟩, hmem, rfl⟩
    exact ⟨n, AList.mem_lookup_iff.mpr hmem⟩
  · rintro ⟨n, hn⟩
    exact ⟨⟨n, m⟩, AList.mem_lookup_iff.mp hn, rfl⟩

theorem pendingMessages_sorted (c : LogicalChannelState) :
    (c.pendingMessages.map (·.sequence.toNat)).Pairwise (· ≤ ·) := by
  rw [pairwise_map]
  exact (pairwise_insertionSort (fun a b : DataMessage =>
    a.sequence ≤ b.sequence) _).imp fun h => UInt64.le_iff_toNat_le.mp h

/-! ## Receiving -/

/-- `acceptData`, with the channel after it when it accepts. -/
def acceptData (c : LogicalChannelState) (sequence : UInt64) : Option LogicalChannelState :=
  if sequence = 0 then some c
  else if sequence ≤ c.received then none
  else if sequence ≠ c.received + 1 then none
  else some { c with received := sequence }

def rejectData (c : LogicalChannelState) (sequence : UInt64) : LogicalChannelState :=
  if sequence ≠ 0 ∧ c.received = sequence then { c with received := sequence - 1 }
  else c

def isDuplicate (c : LogicalChannelState) (sequence : UInt64) : Bool :=
  decide (sequence ≠ 0) && decide (sequence ≤ c.received)

theorem acceptData_unsequenced (c : LogicalChannelState) : c.acceptData 0 = some c := rfl

theorem acceptData_sequenced (hne : sequence ≠ 0) :
    c.acceptData sequence = some c' ↔ c.received < sequence ∧ sequence = c.received + 1 ∧
        c' = { c with received := sequence } := by
  rw [acceptData, if_neg hne]
  split
  · rename_i hle
    simp [UInt64.not_lt.mpr hle]
  · rename_i hlt
    split
    · rename_i hgap
      simp [hgap]
    · rename_i hnext
      simp only [ne_eq, not_not] at hnext
      have hreceived := UInt64.not_le.mp hlt
      rw [hnext] at hreceived
      simp [hnext, hreceived, eq_comm]

/-- Taking in a message and giving it back leaves the channel as it was. -/
theorem rejectData_of_acceptData
    (h : c.acceptData sequence = some c') : c'.rejectData sequence = c := by
  by_cases hzero : sequence = 0
  · subst hzero
    cases h
    rfl
  · obtain ⟨-, hnext, rfl⟩ := (acceptData_sequenced hzero).mp h
    rw [rejectData, if_pos ⟨hzero, rfl⟩, hnext]
    simp

end LogicalChannelState

end LinkSocks
