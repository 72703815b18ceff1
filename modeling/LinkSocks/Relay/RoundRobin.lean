import LinkSocks.Relay.Pairing
import Mathlib.Data.List.Rotate

/-!
# Providers in turn

The cursor of a token is moved on by every lookup, also by one that skips links or
finds none, and it stays where it is when the list of clients shrinks.  It is always
taken modulo the length of the list, so a lookup looks at every client once, and
lookups without a generation go round the list.
-/

namespace LinkSocks

open Go List Option

namespace Server

variable {s : Server} {token : GoString} {major : UInt8}

def members (s : Server) (token : GoString) : List ClientInfo :=
  (s.tokenClients.lookup token).getD []

def cursor (s : Server) (token : GoString) : ℕ := (s.tokenIndexes.lookup token).getD 0

@[simp] theorem members_setTokenIndex (index : ℕ) :
    (s.setTokenIndex token index).members token = s.members token := rfl

@[simp] theorem cursor_setTokenIndex (index : ℕ) :
    (s.setTokenIndex token index).cursor token = index := by
  rw [cursor, setTokenIndex, AList.lookup_insert, getD_some]

/-- The indexes that the loop of `getNextWebSocketLocked` uses, if it runs to its end. -/
def scanned (s : Server) (token : GoString) : List ℕ :=
  (List.range (s.members token).length).map fun offset =>
    (s.cursor token + offset) % (s.members token).length

/-- What a number of lookups without a generation return. -/
def selections (s : Server) (token : GoString) : ℕ → List (Except String Link)
  | 0 => []
  | k + 1 =>
    (s.getNextWebSocketLocked token 0).1 :: (s.getNextWebSocketLocked token 0).2.selections token k

theorem scanned_lt {i : ℕ} (h : i ∈ s.scanned token) : i < (s.members token).length := by
  obtain ⟨offset, hoffset, rfl⟩ := mem_map.mp h
  exact Nat.mod_lt _ (Nat.zero_lt_of_lt (mem_range.mp hoffset))

theorem mem_scanned {i : ℕ} (h : i < (s.members token).length) : i ∈ s.scanned token := by
  rw [scanned]
  generalize (s.members token).length = n at h ⊢
  have hlt : s.cursor token % n < n := Nat.mod_lt _ (by omega)
  refine mem_map.mpr ⟨(i + n - s.cursor token % n) % n, mem_range.mpr (Nat.mod_lt _ (by omega)), ?_⟩
  rw [Nat.add_mod_mod, ← Nat.mod_add_mod,
    show s.cursor token % n + (i + n - s.cursor token % n) = i + n by omega,
    Nat.add_mod_right, Nat.mod_eq_of_lt h]

theorem nextMatching_eq : s.nextMatching (s.members token) (s.cursor token) major =
    (s.scanned token).findSome? fun i => (s.members token)[i]?.bind fun c =>
      if major = 0 ∨ s.majorOf c.conn = major then some c.conn else none := by
  rw [scanned, findSome?_map]
  rfl

theorem getNextWebSocketLocked_eq (h : s.members token ≠ []) :
    s.getNextWebSocketLocked token major =
      ((s.nextMatching (s.members token) (s.cursor token) major).elim
        (.error ("no available clients for token with protocol major " ++
          toString major.toNat)) .ok,
        s.setTokenIndex token ((s.cursor token + 1) % (s.members token).length)) := by
  rw [getNextWebSocketLocked, cursor]
  rw [show (s.tokenClients.lookup token).getD [] = s.members token from rfl]
  cases hclients : s.members token with
  | nil => exact absurd hclients h
  | cons c cs =>
    dsimp only
    cases s.nextMatching (c :: cs) ((s.tokenIndexes.lookup token).getD 0) major <;> rfl

/-- A lookup finds a link if and only if there is one of the generation. -/
theorem getNextWebSocketLocked_iff : (∃ conn, (s.getNextWebSocketLocked token major).1 = .ok conn) ↔
      ∃ c ∈ s.members token, major = 0 ∨ s.majorOf c.conn = major := by
  constructor
  · rintro ⟨conn, h⟩
    obtain ⟨c, hc, -, hmatch⟩ := getNextWebSocketLocked_mem h
    exact ⟨c, hc, hmatch⟩
  · rintro ⟨c, hc, hmatch⟩
    rw [getNextWebSocketLocked_eq (ne_nil_of_mem hc)]
    cases hfound : s.nextMatching (s.members token) (s.cursor token) major with
    | some conn => exact ⟨conn, rfl⟩
    | none =>
      obtain ⟨i, hi, rfl⟩ := mem_iff_getElem.mp hc
      rw [nextMatching_eq, findSome?_eq_none_iff] at hfound
      have hnone := hfound i (mem_scanned hi)
      rw [getElem?_eq_getElem hi, bind_some, if_pos hmatch] at hnone
      cases hnone

theorem getNextWebSocketLocked_zero {n : ℕ} (hn : (s.members token).length = n)
    (h : s.cursor token % n < (s.members token).length) :
    s.getNextWebSocketLocked token 0 = (.ok (s.members token)[s.cursor token % n].conn,
        s.setTokenIndex token ((s.cursor token + 1) % n)) := by
  obtain ⟨conn, hconn⟩ : ∃ conn, (s.getNextWebSocketLocked token 0).1 = .ok conn :=
    getNextWebSocketLocked_iff.mpr ⟨_, getElem_mem h, .inl rfl⟩
  obtain ⟨hne, -⟩ | ⟨-, hcursor⟩ := getNextWebSocketLocked_ok hconn
  · contradiction
  · subst hn
    refine Prod.ext (hconn.trans ?_) ?_
    swap
    · rw [getNextWebSocketLocked_eq (ne_nil_of_mem (getElem_mem h))]
    change (s.members token)[s.cursor token % (s.members token).length]?.map _ = _ at hcursor
    rw [getElem?_eq_getElem h] at hcursor
    rw [← some.inj hcursor]

theorem selections_eq {k : ℕ} (hk : k ≤ (s.members token).length) :
    s.selections token k = (((s.members token).rotate (s.cursor token)).take k).map
      fun c => .ok c.conn := by
  induction k generalizing s with
  | zero => rfl
  | succ k ih =>
    have hlt := Nat.mod_lt (s.cursor token) (Nat.zero_lt_of_lt hk)
    rw [selections, getNextWebSocketLocked_zero rfl hlt, ih (by exact Nat.le_of_succ_le hk)]
    -- the list as it is seen from the cursor, and from the next position
    obtain ⟨c, rest, hrotate⟩ := exists_cons_of_length_pos
      (l := (s.members token).rotate (s.cursor token)) (by rw [length_rotate]; omega)
    have hfirst : (s.members token)[s.cursor token % (s.members token).length] = c := by
      have h := getElem_rotate (s.members token) (s.cursor token) 0
        (by rw [length_rotate]; omega)
      simpa [hrotate] using h.symm
    have hnext : (s.members token).rotate (s.cursor token + 1) = rest ++ [c] := by
      rw [← rotate_rotate, hrotate, rotate_cons_succ, rotate_zero]
    have hlength : k ≤ rest.length := by
      have h := congrArg length hrotate
      rw [length_rotate, length_cons] at h
      omega
    rw [members_setTokenIndex, cursor_setTokenIndex, rotate_mod, hnext, hrotate, hfirst,
      take_append_of_le_length hlength, take_succ_cons, map_cons]

end Server

/-! ## One token along a run -/

/-- The server, and the links that have been registered so far: a link is registered
once. -/
structure Rotation where
  server : Server
  used : List Link

inductive RotationAction where
  | register (clientID : UUID) (conn : Link)
  | cleanup (clientID : UUID)
  | select (major : UInt8)
  | version (conn : Link) (version : UInt8)

namespace Rotation

def step (token : GoString) (s : Rotation) : RotationAction → Option Rotation
  | .register clientID conn =>
    if conn ∈ s.used then none
    else some ⟨s.server.registerWebSocketClient clientID conn token, conn :: s.used⟩
  | .cleanup clientID => some { s with server := s.server.cleanupConnection clientID token }
  | .select major => some { s with server := (s.server.getNextWebSocketLocked token major).2 }
  | .version conn v => some { s with server := s.server.setProtocolVersion conn v }

/-- The links of the token are different ones. -/
structure Kept (token : GoString) (s : Rotation) : Prop where
  nodup : ((s.server.members token).map (·.conn)).Nodup
  used : ∀ c ∈ s.server.members token, c.conn ∈ s.used

variable {token : GoString} {s s' : Rotation}

theorem Kept.of_sublist {server : Server} (h : s.Kept token)
    (hsub : (server.members token).Sublist (s.server.members token)) :
    Kept token { s with server := server } where
  nodup := h.nodup.sublist (hsub.map _)
  used := fun c hc => h.used c (hsub.subset hc)

theorem members_register (server : Server) (clientID : UUID) (conn : Link) :
    (server.registerWebSocketClient clientID conn token).members token =
      server.members token ++ [⟨clientID, conn⟩] := by
  rw [Server.members, Server.registerWebSocketClient, AList.lookup_insert]
  rfl

theorem members_cleanup (server : Server) (clientID : UUID) :
    ((server.cleanupConnection clientID token).members token).Sublist (server.members token) := by
  fun_cases Server.cleanupConnection server clientID token
  case case3 => simp [Server.members]
  case case4 _ clients hclients _ _ =>
    simp only [Server.members, AList.lookup_insert, hclients, getD_some]
    exact filter_sublist
  all_goals exact .refl _

theorem Kept.step {a : RotationAction} (h : s.Kept token)
    (hstep : s.step token a = some s') : s'.Kept token := by
  cases a with
  | register clientID conn =>
    rw [Rotation.step] at hstep
    split_ifs at hstep with hused
    cases hstep
    constructor
    · rw [members_register, map_append, nodup_append]
      refine ⟨h.nodup, nodup_singleton _, ?_⟩
      rintro x hx y hy rfl
      obtain ⟨c, hc, rfl⟩ := mem_map.mp hx
      obtain rfl := mem_singleton.mp hy
      exact hused (h.used c hc)
    · intro c hc
      rw [members_register] at hc
      rcases mem_append.mp hc with hold | hnew
      · exact mem_cons_of_mem _ (h.used c hold)
      · rw [mem_singleton.mp hnew]
        exact mem_cons_self
  | cleanup clientID =>
    cases hstep
    exact h.of_sublist (members_cleanup s.server clientID)
  | select major =>
    cases hstep
    refine h.of_sublist ?_
    fun_cases Server.getNextWebSocketLocked s.server token major <;> exact .refl _
  | version conn v =>
    cases hstep
    exact h.of_sublist (.refl _)

/-- After every run of registrations, departures, lookups and changes of versions: a lookup
returns a link if and only if a client of the token speaks the generation; it looks only at
places of the list of clients; and as many lookups without a generation as there are clients
return different links, one of each client. -/
theorem providers_in_turn {server : Server} {actions : List RotationAction} {t : Rotation}
    (hstart : server.tokenClients.lookup token = none)
    (hrun : run (step token) ⟨server, []⟩ actions = some t) :
    (∀ major, (∃ conn, (t.server.getNextWebSocketLocked token major).1 = .ok conn) ↔
      ∃ c ∈ t.server.members token, major = 0 ∨ t.server.majorOf c.conn = major) ∧
    (∀ i ∈ t.server.scanned token, i < (t.server.members token).length) ∧
    ∃ links : List Link, links.Nodup ∧ links.Perm ((t.server.members token).map (·.conn)) ∧
      t.server.selections token (t.server.members token).length = links.map .ok := by
  have hkept : t.Kept token := by
    refine run_preserves (fun _ _ _ h => h.step) ?_ hrun
    have hnil : server.members token = [] := by rw [Server.members, hstart, getD_none]
    exact ⟨by simp [hnil], by simp [hnil]⟩
  refine ⟨fun _ => Server.getNextWebSocketLocked_iff, fun _ => Server.scanned_lt, ?_⟩
  refine ⟨((t.server.members token).rotate (t.server.cursor token)).map (·.conn), ?_, ?_, ?_⟩
  · rw [map_rotate, nodup_rotate]
    exact hkept.nodup
  · exact (rotate_perm _ _).map _
  · rw [Server.selections_eq le_rfl, take_of_length_le (by rw [length_rotate]), List.map_map]
    rfl

end Rotation

/-- Three clients are registered; one goes, after two lookups for links of generation 2, of
which there is none. -/
def rotationActions : List RotationAction :=
  [.version 1 protocolVersionV1, .register (uuidOf 1) 1, .register (uuidOf 2) 2,
    .register (uuidOf 3) 3, .select 2, .select 2, .cleanup (uuidOf 1)]

theorem rotationActions_in_turn : ∃ t ∈ run (Rotation.step (ascii "r"))
        ⟨(idleRelay pairRegistry protocolVersionV1).server, []⟩ rotationActions,
      (t.server.members (ascii "r")).map (·.conn) = [2, 3] ∧ ∃ links : List Link, links.Nodup ∧
        t.server.selections (ascii "r") 2 = links.map .ok := by
  refine exists_run_and_of (by decide +kernel) fun t ht hmembers => ?_
  have hlength : (t.server.members (ascii "r")).length = 2 := by
    simpa using congrArg length hmembers
  obtain ⟨-, -, links, hnodup, -, hlinks⟩ := Rotation.providers_in_turn rfl ht
  exact ⟨links, hnodup, hlength ▸ hlinks⟩

end LinkSocks
