import LinkSocks.Relay.Server
import LinkSocks.Wire.Pack

/-!
# The sending side of a secure session

Calls of `WriteMessage` run concurrently.  `writeMu` is held by one of them
from before the encryption until its frame is delivered or given up; `mu` is
held for single accesses to the fields, so each of these is one step.  Links
fail, `setLink` replaces them, and the session is closed by others at any
time.
-/

namespace LinkSocks

open Go

/-- Settings, and the transport cipher of the Noise library: `cipher n` seals
with nonce `n`, and there is no sealing after `maxNonce`. -/
structure SendEnv where
  lib : Lib
  cipher : ℕ → Bytes → Bytes
  maxNonce : ℕ
  transportGrace : ℤ

inductive WritePC where
  | start (msg : BaseMessage)
  /-- `writePlain`, with the link it has read. -/
  | plain (msg : BaseMessage) (link : Link)
  | lock (plain : Bytes)
  /-- Holding `writeMu`, before the checks and the encryption. -/
  | encrypt (plain : Bytes)
  /-- `writeWithGrace`: the head of the loop. -/
  | readLink (ct : Bytes)
  | write (ct : Bytes) (link : Link)
  | wait (ct : Bytes)
  /-- `fail` closes `done` and then sets `closed`. -/
  | fail
  | setClosed
  | unlock
  | returned

def WritePC.holds : WritePC → Bool
  | .encrypt _ | .readLink _ | .write _ _ | .wait _ | .fail | .setClosed
  | .unlock => true
  | .start _ | .plain _ _ | .lock _ | .returned => false

inductive WriteLabel where
  | next
  /-- The link has taken the frame. -/
  | written
  /-- The link has not; is it down, and is the grace over? -/
  | refused (transportDown expired : Bool)
  /-- The wait ends: by the timer, by `done`, or with the relay. -/
  | timer
  | sessionDone
  | relayDone

structure SendSession where
  link : Link
  established : Bool
  closed : Bool
  done : Bool
  nonce : ℕ
  /-- The call that holds `writeMu`. -/
  writeMu : Option ℕ
  calls : List WritePC
  /-- History: packed messages in the order of the lock, and those of them
  that were encrypted. -/
  acquired : List Bytes
  encrypted : List Bytes
  /-- History: the sealed frames the links have taken, and the messages in the
  clear. -/
  delivered : List (Link × Bytes)
  inTheClear : List (Link × BaseMessage)
  /-- History: a frame was given up. -/
  lost : Bool

def SendSession.setCall (s : SendSession) (i : ℕ) (pc : WritePC) : SendSession :=
  { s with calls := s.calls.set i pc }

/-- Nothing has been sent yet over the established session. -/
structure SendSession.Initial (s : SendSession) : Prop where
  established : s.established = true
  nonce : s.nonce = 0
  writeMu : s.writeMu = none
  calls : s.calls = []
  acquired : s.acquired = []
  encrypted : s.encrypted = []
  delivered : s.delivered = []
  lost : s.lost = false

/-- The part of `WriteMessage` before the lock: a disconnect stays in the
clear. -/
def SendSession.begin (env : SendEnv) (s : SendSession) (msg : BaseMessage) : WritePC :=
  match msg with
  | .disconnect _ => .plain msg s.link
  | _ =>
    match packMessageWithVersion env.lib msg protocolVersionV2 with
    | .ok plain => .lock plain
    | .error _ => .returned

/-- The checks under `mu`, and the encryption. -/
def SendSession.encrypt (env : SendEnv) (s : SendSession) (i : ℕ) (plain : Bytes) : SendSession :=
  if s.closed || !s.established || decide (env.maxNonce < s.nonce) then s.setCall i .unlock
  else
    { s.setCall i (.readLink (env.cipher s.nonce plain)) with
      nonce := s.nonce + 1
      encrypted := s.encrypted ++ [plain] }

/-- `writeCiphertext` returns an error. -/
def SendSession.giveUp (s : SendSession) (i : ℕ) : SendSession :=
  { s.setCall i .fail with lost := true }

def SendSession.stepCall (env : SendEnv) (s : SendSession) (i : ℕ) :
    WritePC → WriteLabel → Option SendSession
  | .start msg, .next => some (s.setCall i (s.begin env msg))
  | .plain msg link, .written =>
    some { s.setCall i .returned with inTheClear := s.inTheClear ++ [(link, msg)] }
  | .plain _ _, .refused _ _ => some (s.setCall i .returned)
  | .lock plain, .next =>
    if s.writeMu = none then
      some { s.setCall i (.encrypt plain) with
        writeMu := some i
        acquired := s.acquired ++ [plain] }
    else none
  | .encrypt plain, .next => some (s.encrypt env i plain)
  | .readLink ct, .next => some (s.setCall i (.write ct s.link))
  | .write ct link, .written =>
    some { s.setCall i .unlock with delivered := s.delivered ++ [(link, ct)] }
  | .write ct _, .refused transportDown expired =>
    if !transportDown || decide (env.transportGrace ≤ 0) || expired then some (s.giveUp i)
    else some (s.setCall i (.wait ct))
  | .wait ct, .timer => some (s.setCall i (.readLink ct))
  | .wait _, .sessionDone => if s.done then some (s.giveUp i) else none
  | .wait _, .relayDone => some (s.giveUp i)
  | .fail, .next => some { s.setCall i .setClosed with done := true }
  | .setClosed, .next => some { s.setCall i .unlock with closed := true }
  | .unlock, .next => some { s.setCall i .returned with writeMu := none }
  | _, _ => none

inductive SendAction where
  | call (msg : BaseMessage)
  | step (i : ℕ) (label : WriteLabel)
  | setLink (link : Link)
  /-- `close` or `fail` by others, in the two steps of `finish`. -/
  | finishDone
  | finishClosed

def SendSession.step (env : SendEnv) (s : SendSession) : SendAction → Option SendSession
  | .call msg => some { s with calls := s.calls ++ [.start msg] }
  | .step i label => s.calls[i]?.bind fun pc => s.stepCall env i pc label
  | .setLink link => some { s with link := link }
  | .finishDone => some { s with done := true }
  | .finishClosed => if s.done then some { s with closed := true } else none

end LinkSocks
