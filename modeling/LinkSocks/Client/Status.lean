import LinkSocks.Go.Machine

/-!
# Notifications of the connection status

A client has a channel for each of its two states, which is closed while the client is
in that state and replaced when it leaves it.  An observer may hold a channel that has
been replaced since.
-/

namespace LinkSocks

open Go List

/-- The status of a client; channels are numbered in the order they are made. -/
structure ConnectionStatus where
  isConnected : Bool
  connected : ℕ
  disconnected : ℕ
  closed : List ℕ
  made : ℕ

namespace ConnectionStatus

def new : ConnectionStatus := ⟨false, 1, 0, [0], 2⟩

/-- `ConnectedChan` and `DisconnectedChan`. -/
def chan (s : ConnectionStatus) (connected : Bool) : ℕ :=
  if connected then s.connected else s.disconnected

/-- `close`, which panics if the channel is closed already. -/
def close (s : ConnectionStatus) (ch : ℕ) : Option ConnectionStatus :=
  if ch ∈ s.closed then none else some { s with closed := ch :: s.closed }

def makeConnected (s : ConnectionStatus) : ConnectionStatus :=
  { s with connected := s.made, made := s.made + 1 }

def makeDisconnected (s : ConnectionStatus) : ConnectionStatus :=
  { s with disconnected := s.made, made := s.made + 1 }

/-- `setConnectionStatus`, `none` for a panic. -/
def setConnectionStatus (s : ConnectionStatus) (connected : Bool) : Option ConnectionStatus :=
  if s.isConnected = connected then some s
  else
    let s := { s with isConnected := connected }
    if connected then
      let s := if s.connected ∈ s.closed then s.makeConnected else s
      (s.close s.connected).map makeDisconnected
    else
      let s := s.makeConnected
      let s := if s.disconnected ∈ s.closed then s.makeDisconnected else s
      s.close s.disconnected

/-- The channel of the state that the client is in is closed, and the other one is
open. -/
structure Kept (s : ConnectionStatus) : Prop where
  current : ∀ side, s.chan side ∈ s.closed ↔ s.isConnected = side
  made : ∀ ch ∈ s.closed, ch < s.made
  chan_made : ∀ side, s.chan side < s.made

/-- The channel was obtained for that side: it has been closed since, or it is the one
to be closed next. -/
def Held (s : ConnectionStatus) (side : Bool) (ch : ℕ) : Prop := ch ∈ s.closed ∨ ch = s.chan side

variable {s : ConnectionStatus} {side : Bool} {ch : ℕ}

theorem Kept.change (h : s.Kept) (hne : s.isConnected ≠ side) :
    ∃ s', s.setConnectionStatus side = some s' ∧ s'.isConnected = side ∧
      s'.chan side = s.chan side ∧ s'.chan (!side) = s.made ∧
      s'.closed = s.chan side :: s.closed ∧ s'.made = s.made + 1 := by
  have hopen : s.chan side ∉ s.closed := mt (h.current side).mp hne
  cases side with
  | true =>
    have hopen : s.connected ∉ s.closed := hopen
    refine ⟨{ s with
      isConnected := true
      closed := s.connected :: s.closed
      disconnected := s.made
      made := s.made + 1 }, ?_, rfl, rfl, rfl, rfl, rfl⟩
    simp [setConnectionStatus, hne, hopen, close, makeDisconnected]
  | false =>
    have hopen : s.disconnected ∉ s.closed := hopen
    refine ⟨{ s with
      isConnected := false
      connected := s.made
      closed := s.disconnected :: s.closed
      made := s.made + 1 }, ?_, rfl, rfl, rfl, rfl, rfl⟩
    simp [setConnectionStatus, hne, hopen, close, makeConnected]

/-- A call does not panic, and it closes what is held for its side. -/
theorem Kept.step (h : s.Kept) (connected : Bool) :
    ∃ s', s.setConnectionStatus connected = some s' ∧ s'.Kept ∧ s'.isConnected = connected ∧
      ∀ side ch, s.Held side ch → s'.Held side ch ∧
        (ch ∈ s'.closed ↔ ch ∈ s.closed ∨ side = connected) := by
  by_cases hsame : s.isConnected = connected
  · refine ⟨s, if_pos hsame, h, hsame, fun side ch hheld => ⟨hheld, .inl, ?_⟩⟩
    rintro (hclosed | rfl)
    · exact hclosed
    · exact hheld.elim id fun heq => heq ▸ (h.current side).mpr hsame
  obtain ⟨s', hset, hstatus, hkeep, hnew, hclosed, hmade⟩ := h.change hsame
  have hsides : ∀ side, side = connected ∨ side = !connected := by
    cases connected <;> simp
  have hbound : ∀ ch ∈ s'.closed, ch < s.made := by
    rw [hclosed]
    exact forall_mem_cons.mpr ⟨h.chan_made connected, h.made⟩
  refine ⟨s', hset, ⟨fun side => ?_, fun ch hch => ?_, fun side => ?_⟩, hstatus,
    fun side ch hheld => ?_⟩
  · obtain rfl | rfl := hsides side
    · simp [hkeep, hclosed, hstatus]
    · rw [hnew, hstatus]
      exact iff_of_false (fun hmem => Nat.lt_irrefl _ (hbound _ hmem)) (by simp)
  · have := hbound ch hch
    omega
  · obtain rfl | rfl := hsides side
    · have := h.chan_made side
      omega
    · omega
  · obtain rfl | rfl := hsides side
    · have hmem : ch ∈ s'.closed := by
        rw [hclosed, mem_cons]
        exact hheld.symm
      exact ⟨.inl hmem, iff_of_true hmem (.inr rfl)⟩
    · -- what is held for the old state is closed already
      have hold : ch ∈ s.closed :=
        hheld.elim id fun heq => heq ▸ (h.current _).mpr (Bool.eq_not.mpr hsame)
      have hmem : ch ∈ s'.closed := by
        rw [hclosed]
        exact mem_cons_of_mem _ hold
      exact ⟨.inl hmem, iff_of_true hmem (.inl hold)⟩

theorem new_kept : new.Kept := ⟨by decide, by decide, by decide⟩

theorem Kept.run (h : s.Kept) (calls : List Bool) :
    ∃ t, run setConnectionStatus s calls = some t ∧ t.Kept ∧
      t.isConnected = calls.getLastD s.isConnected ∧
      ∀ side ch, s.Held side ch → (ch ∈ t.closed ↔ ch ∈ s.closed ∨ side ∈ calls) := by
  induction calls generalizing s with
  | nil => exact ⟨s, rfl, h, rfl, fun side ch _ => by simp⟩
  | cons b calls ih =>
    obtain ⟨s', hset, hkept, rfl, hheld⟩ := h.step b
    obtain ⟨t, hrun, ht, hstatus, hclosed⟩ := ih hkept
    refine ⟨t, by rw [Go.run, hset]; exact hrun, ht, ?_, fun side ch hch => ?_⟩
    · rw [hstatus, getLastD_cons]
    · obtain ⟨hch', hiff⟩ := hheld side ch hch
      rw [hclosed side ch hch', hiff, mem_cons, or_assoc]

/-- The status that the calls have asked for; a new client is not connected. -/
def statusAfter (calls : List Bool) : Bool := calls.getLastD false

/-- After the first `calls`, or at some moment of the `later` ones, the status is `side`. -/
def Reaches (calls later : List Bool) (side : Bool) : Prop :=
  ∃ past, past <+: later ∧ statusAfter (calls ++ past) = side

theorem statusAfter_concat (calls past : List Bool) (b : Bool) :
    statusAfter (calls ++ (past ++ [b])) = b := by
  rw [statusAfter, ← append_assoc, getLastD_concat]

theorem reaches_iff (calls later : List Bool) :
    Reaches calls later side ↔ statusAfter calls = side ∨ side ∈ later := by
  constructor
  · rintro ⟨past, hpast, rfl⟩
    obtain rfl | ⟨past, b, rfl⟩ := eq_nil_or_concat' past
    · rw [append_nil]
      exact .inl rfl
    · rw [statusAfter_concat]
      exact .inr (hpast.subset mem_concat_self)
  · rintro (hnow | hlater)
    · exact ⟨[], nil_prefix, by rwa [append_nil]⟩
    · obtain ⟨past, rest, rfl⟩ := append_of_mem hlater
      exact ⟨past ++ [side], ⟨rest, by simp⟩, statusAfter_concat calls past side⟩

/-- No call panics, the status is what the last call has asked for, and a channel that is
obtained between two calls is closed from the first moment on at which this is its state. -/
theorem closed_iff_reaches (calls later : List Bool) :
    ∃ s t, Go.run setConnectionStatus new calls = some s ∧
      Go.run setConnectionStatus s later = some t ∧
      t.isConnected = statusAfter (calls ++ later) ∧
      ∀ side, s.chan side ∈ t.closed ↔ Reaches calls later side := by
  obtain ⟨s, hs, hkept, hstatus, -⟩ := new_kept.run calls
  obtain ⟨t, ht, -, hlast, hclosed⟩ := hkept.run later
  refine ⟨s, t, hs, ht, ?_, fun side => ?_⟩
  · rw [hlast, hstatus, statusAfter]
    simp [getLastD_eq_getLast?, new]
  · rw [hclosed side _ (.inr rfl), hkept.current, hstatus, reaches_iff]
    rfl

end ConnectionStatus

end LinkSocks
