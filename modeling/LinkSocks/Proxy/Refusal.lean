import LinkSocks.Proxy.HTTPConnect

/-!
# Refusing a client

`refuseSocksOnBuffered` makes one read for the greeting and one for the request, and
completes only the list of methods.  A greeting that starts with a read of one byte is
not completed, a request in the read of the greeting is lost, and a request of which a
read returns less than seven bytes is not answered.
-/

namespace LinkSocks

open Go List

namespace ProxySession

/-- What a read has returned is in the buffer. -/
def received (s : ProxySession) (b : Bytes) (reader : BufReader) : ProxySession :=
  { s with reader := reader, buffer := b ++ s.buffer.drop b.length }

/-- `conn.Read(buffer)`, which returns the number of bytes. -/
def readSome (text : String) : ProxyMethod ℕ := ExceptT.mk fun s =>
  match s.reader.read 1024 with
  | .ok (b, reader) => (.ok b.length, s.received b reader)
  | .error e => (.error (.wrap text e), s)

/-- The read of the request; nothing is returned if the client has gone away. -/
def readRefused : ProxyMethod (Option ℕ) := ExceptT.mk fun s =>
  match s.reader.read 1024 with
  | .ok (b, reader) => (.ok (some b.length), s.received b reader)
  | .error e =>
    if e = errEOF then (.ok none, s) else (.error (.wrap "read request error" e), s)

/-- The methods of a greeting of which `n` bytes have been read. -/
def readMethods (n : ℕ) : ProxyMethod Unit := do
  if 2 ≤ n then
    let methodsDeclared := (← byteAt 1).toNat
    if n - 2 < methodsDeclared then
      readFull (methodsDeclared - (n - 2)) "read auth methods error"
    else pure ()
  else pure ()

def refusal (reason : UInt8) : Bytes :=
  [0x05, reason, 0x00, 0x01, 0x00, 0x00, 0x00, 0x00, 0x00, 0x00]

/-- `refuseSocksOnBuffered` after the reply to the greeting. -/
def refuseRequest (E : ProxyEnv) (reason : UInt8) : ProxyMethod Unit := do
  match ← readRefused with
  | none => pure ()
  | some n =>
    if n < 7 then throw (.msg "request too short")
    else
      write E (refusal reason) "write refusal response error"
      close

def refuseSocksOnBuffered (E : ProxyEnv) (reason : UInt8) : ProxyMethod Unit := do
  let n ← readSome "read error"
  if n = 0 ∨ (← byteAt 0) ≠ 0x05 then throw (.msg "invalid socks version")
  else
    readMethods n
    write E [0x05, 0x00] "write auth response error"
    refuseRequest E reason

/-- The request is read, whether it is one or not. -/
def drainRequest (E : ProxyEnv) : ProxyMethod Unit := ExceptT.mk fun s =>
  match E.readRequest s.reader with
  | .ok (_, reader) => (.ok (), { s with reader := reader })
  | .error _ => (.ok (), s)

def refuseHTTPProxy (E : ProxyEnv) (statusCode : ℕ) (message : String) : ProxyMethod Unit := do
  drainRequest E
  let written ← succeeds
  if written then reply (E.response statusCode message) else pure ()
  close
  if written then pure () else throw (.wrap "write HTTP refusal response error" E.failure)

def refuseLocalProxyRequest (E : ProxyEnv) (socksReason : UInt8) : ProxyMethod Unit := do
  match ← detect with
  | .socks5 => refuseSocksOnBuffered E socksReason
  | .http => refuseHTTPProxy E 503 "No backend available"

end ProxySession

open ProxySession

def greeting (methods : Bytes) : Bytes := 0x05 :: UInt8.ofNat methods.length :: methods

/-- The state of a connection whose reads return the chunks after the client was refused;
its writes succeed. -/
def afterRefusal (E : ProxyEnv) (reason : UInt8) (chunks : List Bytes) (ending : Error) :
    ProxySession := ((refuseLocalProxyRequest E reason).run (start chunks ending [true, true])).2

/-- The client gets both replies, and the connection is closed. -/
def Answered (reason : UInt8) (s : ProxySession) : Prop :=
  s.replies = [[0x05, 0x00], refusal reason] ∧ s.closed = true

/-! ## How much a read returns -/

/-- The number of bytes that a read returns when `k` bytes of the chunks have been
taken. -/
def readAfter : List Bytes → ℕ → ℕ
  | [], _ => 0
  | chunk :: rest, k =>
    if k < chunk.length then min 1024 (chunk.length - k) else readAfter rest (k - chunk.length)

/-- The methods that are missing after a first read of `n` bytes.  The code does not look
for them after one byte. -/
def missingMethods (methods n : ℕ) : ℕ := if 2 ≤ n then methods + 2 - n else 0

theorem readAfter_drop (chunk : Bytes) (rest : List Bytes) {j : ℕ} (hj : j ≤ chunk.length)
    (k : ℕ) : readAfter (chunk.drop j :: rest) k = readAfter (chunk :: rest) (j + k) := by
  simp only [readAfter, length_drop]
  by_cases hk : j + k < chunk.length
  · rw [if_pos (by omega), if_pos hk, Nat.sub_sub]
  · rw [if_neg (by omega), if_neg hk]
    congr 1
    omega

namespace BufReader

/-- The number of bytes that the next read returns. -/
def next (r : BufReader) : ℕ := readAfter (r.buffered :: r.chunks) 0

theorem read_cases (r : BufReader) (hne : [] ∉ r.chunks) :
    (∃ b r', r.read 1024 = .ok (b, r') ∧ b.length = r.next) ∨
      ∃ e, r.read 1024 = .error e ∧ r.next = 0 := by
  obtain ⟨- | ⟨b, bs⟩, - | ⟨chunk, rest⟩, ending⟩ := r
  · exact .inr ⟨ending, rfl, rfl⟩
  · have hpos : 0 < chunk.length := by
      refine length_pos_iff.mpr fun hnil => hne ?_
      rw [hnil]
      exact mem_cons_self
    refine .inl ⟨_, _, rfl, ?_⟩
    simp [next, readAfter, hpos]
  all_goals exact .inl ⟨_, _, rfl, by simp only [next, readAfter, length_take, length_cons,
    Nat.zero_lt_succ, if_true, Nat.sub_zero]⟩

/-- A full read that finds enough bytes goes as far as their number says. -/
theorem readFullFrom_next (ending : Error) {chunks : List Bytes} {buffered : Bytes} (got : ℕ)
    {k : ℕ} (hk : k ≤ (buffered ++ chunks.flatten).length) :
    ∃ b r, readFullFrom ending chunks buffered got k = .ok (b, r) ∧ r.chunks <:+ chunks ∧
      r.next = readAfter (buffered :: chunks) k := by
  induction chunks generalizing buffered got k with
  | nil =>
    rw [flatten_nil, append_nil] at hk
    rw [readFullFrom, if_pos hk]
    exact ⟨_, _, rfl, suffix_rfl, readAfter_drop buffered [] hk 0⟩
  | cons chunk rest ih =>
    rw [readFullFrom]
    split_ifs with hle
    · exact ⟨_, _, rfl, suffix_rfl, readAfter_drop buffered _ hle 0⟩
    · rw [flatten_cons, length_append] at hk
      have hmore : k - buffered.length ≤ (chunk ++ rest.flatten).length := by omega
      obtain ⟨b, r, hread, hsuffix, hnext⟩ := ih (got + buffered.length) hmore
      refine ⟨buffered ++ b, r, by rw [hread]; rfl, hsuffix.trans (suffix_cons ..), ?_⟩
      rw [hnext]
      conv_rhs => rw [readAfter, if_neg (by omega)]

end BufReader

namespace ProxySession

variable {E : ProxyEnv} {s : ProxySession}

theorem run_write {outcomes : List Bool} (b : Bytes) (text : String)
    (hs : s.outcomes = true :: outcomes) : (write E b text).run s =
      (.ok (), { s with outcomes := outcomes, replies := s.replies ++ [b] }) := by
  have hsucceeds : succeeds.run s = (.ok true, { s with outcomes := outcomes }) := by
    simp [succeeds, hs]
  rw [write, run_bind_ok hsucceeds]
  rfl

theorem run_readMethods {methods n : ℕ} (hbyte : 2 ≤ n → (s.buffer.getD 1 0).toNat = methods)
    (henough : missingMethods methods n ≤ s.reader.stream.length) :
    ∃ reader buffer, (readMethods n).run s =
        (.ok (), { s with reader := reader, buffer := buffer }) ∧
      reader.chunks <:+ s.reader.chunks ∧ reader.next =
        readAfter (s.reader.buffered :: s.reader.chunks) (missingMethods methods n) := by
  rw [readMethods, missingMethods] at *
  split_ifs at henough ⊢ with hn
  · have hrun : (byteAt 1).run s = (.ok (s.buffer.getD 1 0), s) := rfl
    rw [run_bind_ok hrun]
    dsimp only
    rw [hbyte hn]
    split_ifs with hmore
    · have hk : methods - (n - 2) = methods + 2 - n := by omega
      obtain ⟨b, reader, hread, hsuffix, hnext⟩ :=
        BufReader.readFullFrom_next s.reader.ending 0 henough
      refine ⟨reader, b ++ s.buffer.drop (methods + 2 - n), ?_, hsuffix, hnext⟩
      rw [hk]
      simp only [readFull, ExceptT.run_mk, BufReader.readFull, hread]
    · rw [show methods + 2 - n = 0 by omega]
      exact ⟨s.reader, s.buffer, rfl, suffix_rfl, rfl⟩
  · exact ⟨s.reader, s.buffer, rfl, suffix_rfl, rfl⟩

/-- The request is answered if and only if its read returns seven bytes or more. -/
theorem run_refuseRequest {reason : UInt8} {outcomes : List Bool} (hne : [] ∉ s.reader.chunks)
    (hs : s.outcomes = true :: outcomes) :
    (((refuseRequest E reason).run s).2.replies = s.replies ++ [refusal reason] ∧
      ((refuseRequest E reason).run s).2.closed = true) ↔ 7 ≤ s.reader.next := by
  have hunanswered : ∀ {t : ProxySession} {P : Prop}, t.replies = s.replies →
      ¬ (t.replies = s.replies ++ [refusal reason] ∧ P) := by
    intro t P ht h
    simp [ht] at h
  obtain ⟨b, reader, hread, hlength⟩ | ⟨e, hread, hnone⟩ := s.reader.read_cases hne
  · have hrefused : readRefused.run s = (.ok (some b.length), s.received b reader) := by
      simp [readRefused, hread]
    rw [refuseRequest, run_bind_ok hrefused, ← hlength]
    dsimp only
    split_ifs with hshort
    · exact iff_of_false (hunanswered rfl) (by omega)
    · rw [run_bind_ok (run_write _ _ (show (s.received b reader).outcomes = _ from hs))]
      exact iff_of_true ⟨rfl, rfl⟩ (by omega)
  · refine iff_of_false (hunanswered ?_) (by omega)
    rw [refuseRequest]
    by_cases heof : e = errEOF
    · have hrefused : readRefused.run s = (.ok none, s) := by simp [readRefused, hread, heof]
      rw [run_bind_ok hrefused]
      rfl
    · have hrefused : readRefused.run s = (.error (.wrap "read request error" e), s) := by
        simp [readRefused, hread, heof]
      rw [run_bind_error hrefused]

end ProxySession

/-- However a greeting and what follows it are split into reads, the client is answered if
and only if, after the first read and the read of the methods that it lacks, the next read
returns seven bytes or more. -/
theorem refusal_answered_iff (E : ProxyEnv) (reason : UInt8) (methods request : Bytes)
    (hmethods : methods.length < 256) (chunks : List Bytes) (ending : Error)
    (hchunks : chunks.flatten = greeting methods ++ request) (hne : [] ∉ chunks) :
    Answered reason (afterRefusal E reason chunks ending) ↔
      7 ≤ readAfter chunks ((firstRead chunks).length +
        missingMethods methods.length (firstRead chunks).length) := by
  obtain - | ⟨- | ⟨version, tail⟩, rest⟩ := chunks
  · cases hchunks
  · exact absurd mem_cons_self hne
  obtain ⟨rfl, htail⟩ : version = 5 ∧
      tail ++ rest.flatten = UInt8.ofNat methods.length :: (methods ++ request) := by
    simpa [greeting] using hchunks
  rw [firstRead, headD_cons]
  set first : Bytes := 5 :: tail
  let s := start (first :: rest) ending [true, true]
  let s₁ : ProxySession := { s with reader := ⟨first, rest, ending⟩ }
  let s₂ := s₁.received (first.take 1024) ⟨first.drop 1024, rest, ending⟩
  have hdetect : detect.run s = (.ok .socks5, s₁) := rfl
  have hread : (readSome "read error").run s₁ = (.ok (first.take 1024).length, s₂) := rfl
  have hbyte : 2 ≤ (first.take 1024).length → (s₂.buffer.getD 1 0).toNat = methods.length := by
    intro htwo
    obtain - | ⟨len, tail⟩ := tail
    · simp [first] at htwo
    · obtain rfl : len = UInt8.ofNat methods.length := by simpa using congrArg head? htail
      exact (UInt8.toNat_ofNat' ..).trans (Nat.mod_eq_of_lt hmethods)
  have henough : missingMethods methods.length (first.take 1024).length ≤
      s₂.reader.stream.length := by
    have htotal := congrArg length hchunks
    simp only [s₂, received, BufReader.stream, missingMethods, greeting, flatten_cons,
      length_append, length_take, length_drop, length_cons] at htotal ⊢
    split_ifs <;> omega
  obtain ⟨reader, buffer, hmore, hsuffix, hnext⟩ := run_readMethods hbyte henough
  rw [Answered, afterRefusal, refuseLocalProxyRequest, run_bind_ok hdetect]
  rw [refuseSocksOnBuffered, run_bind_ok hread,
    run_bind_ok (show (byteAt 0).run s₂ = (.ok 5, s₂) from rfl), if_neg (by simp [first]),
    run_bind_ok hmore, run_bind_ok (run_write _ _ rfl)]
  refine (run_refuseRequest ?_ rfl).trans ?_
  · exact fun hnil => hne (mem_cons_of_mem _ (hsuffix.mem hnil))
  · have hdrop : first.drop (first.take 1024).length = first.drop 1024 := by
      rw [length_take, ← drop_eq_drop_min]
    rw [← readAfter_drop first rest (by rw [length_take]; omega), hdrop]
    change 7 ≤ reader.next ↔ _
    rw [hnext]
    exact Iff.rfl

/-! ## Two connections -/

/-- A CONNECT request for an address. -/
def connectBytes : Bytes := [5, 1, 0, 1, 1, 2, 3, 4, 0, 80]

/-- The client with this request is refused. -/
def refusedClient (chunks : List Bytes) : ProxySession := afterRefusal bareProxyEnv 3 chunks errEOF

theorem refusedClient_answered : Answered 3 (refusedClient [greeting [0], connectBytes]) :=
  (refusal_answered_iff bareProxyEnv 3 [0] connectBytes (by decide) _ errEOF rfl (by decide)).mpr
    (by decide)

/-- A greeting that comes byte by byte, and a greeting and a request that come together: the
request is not answered, and the connection stays open. -/
theorem refusedClient_unanswered :
    (refusedClient [[5], [1], [0], connectBytes]).replies = [[5, 0]] ∧
      (refusedClient [[5], [1], [0], connectBytes]).closed = false ∧
      (refusedClient [greeting [0] ++ connectBytes]).replies = [[5, 0]] ∧
      (refusedClient [greeting [0] ++ connectBytes]).closed = false := by
  decide +kernel

end LinkSocks
