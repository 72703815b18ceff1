import LinkSocks.Zone.Update

/-!
# Names of members

`resolveMember` goes over a map, in any order.  It leaves the loop at a member with the exact
name and counts the members with another spelling of it.
-/

namespace LinkSocks.Zone

open Go List

variable (equalFold : GoString → GoString → Bool) (name : GoString)

/-- The loop of `resolveMember`, over addresses and names. -/
def scanMembers : List (Addr × GoString) → Option Addr → ℕ → Option Addr
  | [], folded, foldedCount => if foldedCount = 1 then folded else none
  | (addr, p) :: rest, folded, foldedCount =>
    if p = name then some addr
    else if equalFold p name then scanMembers rest (some addr) (foldedCount + 1)
    else scanMembers rest folded foldedCount

def resolveMember (members : List (Addr × GoString)) : Option Addr :=
  if name = [] then none else scanMembers equalFold name members none 0

/-- The addresses of the members whose name fits. -/
def fitting (fits : GoString → Bool) (members : List (Addr × GoString)) : List Addr :=
  (members.filter fun m => fits m.2).map Prod.fst

/-- The addresses and names of the current peers. -/
def PacketCipher.members (c : PacketCipher) : List (Addr × GoString) :=
  c.peers.entries.filterMap fun e => c.states[e.2]?.map fun q => (e.1, q.peer.name)

theorem scanMembers_eq (members : List (Addr × GoString)) (folded : Option Addr) (n : ℕ) :
    scanMembers equalFold name members folded n = (fitting (· = name) members).head?.or
      (if n + (fitting (equalFold · name) members).length = 1 then
        (fitting (equalFold · name) members).getLast?.or folded else none) := by
  induction members generalizing folded n with
  | nil => simp [scanMembers, fitting]
  | cons m rest ih =>
    by_cases hm : m.2 = name
    · simp [scanMembers, fitting, hm]
    · by_cases hfold : equalFold m.2 name = true
      · simp [scanMembers, hm, hfold, ih, fitting, Nat.add_assoc, Nat.add_comm 1, getLast?_cons]
      · simp [scanMembers, hm, hfold, ih, fitting]

/-- In any order of the loop, a member with the exact name is found if there is one, and
otherwise a member if it is the only one with a spelling of the name. -/
theorem member_resolved (hname : name ≠ []) (c : PacketCipher) {order : List (Addr × GoString)}
    (horder : order ~ c.members) :
    (fitting (· = name) c.members ≠ [] → ∃ addr ∈ fitting (· = name) c.members,
      resolveMember equalFold name order = some addr) ∧
    (fitting (· = name) c.members = [] → ∀ addr, resolveMember equalFold name order = some addr ↔
      fitting (equalFold · name) c.members = [addr]) := by
  have hperm : ∀ fits, fitting fits order ~ fitting fits c.members :=
    fun _ => (horder.filter _).map _
  rw [resolveMember, if_neg hname, scanMembers_eq]
  refine ⟨fun hexact => ?_, fun hnone addr => ?_⟩
  · have hmem := hperm (· = name)
    cases hfirst : fitting (· = name) order with
    | nil => exact absurd (hfirst ▸ hmem).nil_eq.symm hexact
    | cons addr rest => exact ⟨addr, hmem.mem_iff.mp (hfirst ▸ mem_cons_self), rfl⟩
  · have hempty : fitting (· = name) order = [] := (hnone ▸ hperm (· = name)).eq_nil
    rw [hempty]
    have hsame : fitting (equalFold · name) c.members = [addr] ↔
        fitting (equalFold · name) order = [addr] :=
      ⟨fun h => (h ▸ hperm _).eq_singleton, fun h => (h ▸ hperm _).symm.eq_singleton⟩
    rw [hsame]
    rcases fitting (equalFold · name) order with _ | ⟨_, _ | _⟩ <;> simp

/-- Members with the names `B`, `c` and `C`. -/
def namedMembers : Option PacketCipher :=
  (plainMember 1 1 1 5 5 5).bind fun A =>
    (update plainLib A.cipher (plainRoster 1 [{ plainPeer 2 2 2 2 with name := ascii "B" },
      { plainPeer 3 3 3 3 with name := ascii "c" },
      { plainPeer 4 4 4 4 with name := ascii "C" }])).toOption

/-- `strings.EqualFold` on letters. -/
def foldLetters (a b : GoString) : Bool := a.map (· ||| 32) == b.map (· ||| 32)

/-- From the last member to the first, `b` is found by the spelling `B`, and `c` by its name. -/
theorem namedMembers_resolved : ∃ c ∈ namedMembers, c.members.reverse ≠ c.members ∧
    resolveMember foldLetters (ascii "b") c.members.reverse = some (.v4 0x0A000002) ∧
    ∃ addr ∈ fitting (· = ascii "c") c.members,
      resolveMember foldLetters (ascii "c") c.members.reverse = some addr := by
  obtain ⟨c, hc, horder, hnone, hfolded, hexact⟩ : ∃ c ∈ namedMembers,
      c.members.reverse ≠ c.members ∧ fitting (· = ascii "b") c.members = [] ∧
      fitting (foldLetters · (ascii "b")) c.members = [.v4 0x0A000002] ∧
      fitting (· = ascii "c") c.members ≠ [] := by
    decide +kernel
  refine ⟨c, hc, horder, ?_, ?_⟩
  · exact ((member_resolved _ _ (by decide) c (reverse_perm _)).2 hnone _).mpr hfolded
  · exact (member_resolved _ _ (by decide) c (reverse_perm _)).1 hexact

end LinkSocks.Zone
