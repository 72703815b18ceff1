import LinkSocks.Go.Machine
import LinkSocks.Go.Tables

/-!
# The links of a client and its status

Each thread of a client keeps a link to the relay alive.  A link is put into the pool as
soon as it is dialed, at the end if the pool has no slot for the thread yet.  A link that
dies after its authentication is taken out again; one that fails before stays.  The client
counts as connected when its first thread is authenticated, and no longer when a thread
finds all slots empty.
-/

namespace LinkSocks

open Go List Option

/-- Where `maintainWebSocketConnection` of a thread is, with its link. -/
inductive ThreadPC where
  | idle
  | authenticating (link : ℕ)
  /-- The server has accepted the link. -/
  | admitted (link : ℕ)
  | established (link : ℕ)
  /-- The link has been closed and is still in the pool. -/
  | closing (link : ℕ)
  | stopped
  deriving DecidableEq

namespace ThreadPC

def link : ThreadPC → Option ℕ
  | .idle | .stopped => none
  | .authenticating link | .admitted link | .established link | .closing link => some link

/-- The thread is not in the middle of something. -/
def quiescent : ThreadPC → Bool
  | .idle | .established _ | .stopped => true
  | .authenticating _ | .admitted _ | .closing _ => false

end ThreadPC

structure PoolLink where
  owner : ℕ
  authenticated : Bool
  closed : Bool
  deriving DecidableEq

structure LinkPool where
  websockets : List (Option ℕ)
  isConnected : Bool
  links : List PoolLink
  threads : List ThreadPC
  /-- History: links that were still open when another thread put something into
  their slot, and that thread. -/
  displaced : List (ℕ × ℕ)

inductive PoolAction where
  /-- The thread has dialed a link. -/
  | connect (index : ℕ)
  | authenticate (index : ℕ)
  /-- An error before the link is established; `again` if the thread tries once
  more. -/
  | fail (index : ℕ) (again : Bool)
  | establish (index : ℕ)
  /-- An error of the dispatcher or of the heartbeat. -/
  | die (index : ℕ)
  | clear (index : ℕ) (again : Bool)

/-- The link has been authenticated and has not been closed. -/
def PoolLink.live (x : PoolLink) : Bool := x.authenticated && !x.closed

namespace LinkPool

def addWebSocket (pool : List (Option ℕ)) (index link : ℕ) : List (Option ℕ) :=
  if pool.length ≤ index then pool ++ [some link] else pool.set index (some link)

/-- What is displaced when thread `index` overwrites its slot. -/
def displaces (s : LinkPool) (index : ℕ) : List (ℕ × ℕ) :=
  match s.websockets[index]? with
  | some (some link) =>
    if (s.links[link]?).any fun x => x.owner ≠ index && !x.closed then [(link, index)] else []
  | _ => []

def setThread (s : LinkPool) (index : ℕ) (pc : ThreadPC) : LinkPool :=
  { s with threads := s.threads.set index pc }

def closeLink (s : LinkPool) (link : ℕ) : LinkPool :=
  { s with links := s.links.modify link fun x => { x with closed := true } }

def step (s : LinkPool) : PoolAction → Option LinkPool
  | .connect index =>
    if s.threads[index]? = some .idle then
      let link := s.links.length
      some { s with
        links := s.links ++ [⟨index, false, false⟩]
        websockets := addWebSocket s.websockets index link
        displaced := s.displaced ++ s.displaces index
        threads := s.threads.set index (.authenticating link) }
    else none
  | .authenticate index =>
    match s.threads[index]? with
    | some (.authenticating link) =>
      some ({ s with
        links := s.links.modify link fun x => { x with authenticated := true } }.setThread
          index (.admitted link))
    | _ => none
  | .fail index again =>
    match s.threads[index]? with
    | some (.authenticating link) | some (.admitted link) =>
      some ((s.closeLink link).setThread index (if again then .idle else .stopped))
    | _ => none
  | .establish index =>
    match s.threads[index]? with
    | some (.admitted link) =>
      some ({ s with isConnected := s.isConnected || index = 0 }.setThread index
        (.established link))
    | _ => none
  | .die index =>
    match s.threads[index]? with
    | some (.established link) => some ((s.closeLink link).setThread index (.closing link))
    | _ => none
  | .clear index again =>
    match s.threads[index]? with
    | some (.closing _) =>
      let websockets := s.websockets.set index none
      some ({ s with
        websockets := websockets
        isConnected := s.isConnected && websockets.any Option.isSome
        displaced := s.displaced ++ s.displaces index }.setThread index
          (if again then .idle else .stopped))
    | _ => none

def newLinkPool (threads : ℕ) : LinkPool := ⟨[], false, [], List.replicate threads .idle, []⟩

def Quiescent (s : LinkPool) : Prop := ∀ pc ∈ s.threads, pc.quiescent = true

/-- The links that are authenticated and open. -/
def Live (s : LinkPool) (link : ℕ) : Prop := ∃ x ∈ s.links[link]?, x.live = true

/-- The pool has the live links, and the status says whether there are any. -/
structure Sound (s : LinkPool) : Prop where
  displaced : s.displaced = []
  slots : s.Quiescent → ∀ link, some link ∈ s.websockets ↔ s.Live link
  status : s.Quiescent → (s.isConnected = true ↔ ∃ link, s.Live link)

/-- The first links of the threads are dialed in the order of the threads, every link that is
dialed is established, and the first thread is there before the others. -/
def Tidy (s : LinkPool) : PoolAction → Prop
  | .connect index => index ≤ s.websockets.length
  | .fail .. => False
  | .establish index => index = 0 ∨ s.isConnected = true
  | _ => True

instance (s : LinkPool) : DecidablePred s.Tidy := by
  intro action
  unfold LinkPool.Tidy
  split <;> infer_instance

/-! ## What holds along a run -/

variable {s s' : LinkPool} {index link : ℕ} {pc pc' : ThreadPC}

/-- The link of a thread at this point. -/
def linkAt (index : ℕ) : ThreadPC → PoolLink
  | .authenticating _ => ⟨index, false, false⟩
  | .admitted _ | .established _ => ⟨index, true, false⟩
  | .idle | .stopped | .closing _ => ⟨index, true, true⟩

structure Kept (s : LinkPool) : Prop where
  held : ∀ (index link : ℕ) (pc : ThreadPC), s.threads[index]? = some pc → pc.link = some link →
    s.links[link]? = some (linkAt index pc) ∧ s.websockets[index]? = some (some link)
  slot : ∀ (index link : ℕ), s.websockets[index]? = some (some link) →
    ∃ pc : ThreadPC, s.threads[index]? = some pc ∧ pc.link = some link
  live : ∀ (link : ℕ) (x : PoolLink), s.links[link]? = some x → x.closed = false →
    ∃ pc : ThreadPC, s.threads[x.owner]? = some pc ∧ pc.link = some link
  connected : s.isConnected = true → ∃ link, some link ∈ s.websockets
  established : ∀ (index link : ℕ), s.threads[index]? = some (.established link) →
    s.isConnected = true
  displaced : s.displaced = []

theorem kept_newLinkPool (threads : ℕ) : (newLinkPool threads).Kept where
  held := by
    intro index link pc hpc hlink
    have hmem := mem_of_getElem? hpc
    obtain rfl := eq_of_mem_replicate hmem
    cases hlink
  slot := fun _ _ h => nomatch h
  live := fun _ _ h => nomatch h
  connected := nofun
  established := by
    intro index link hpc
    have hmem := mem_of_getElem? hpc
    cases eq_of_mem_replicate hmem
  displaced := rfl

theorem Kept.live_of_quiescent (h : s.Kept) (hquiescent : s.Quiescent)
    (hpc : s.threads[index]? = some pc) (hlink : pc.link = some link) : s.Live link := by
  refine ⟨_, (h.held index link pc hpc hlink).1, ?_⟩
  have hdone := hquiescent pc (mem_of_getElem? hpc)
  cases pc with
  | established => rfl
  | idle | stopped => cases hlink
  | authenticating | admitted | closing => cases hdone

theorem Kept.sound (h : s.Kept) : s.Sound where
  displaced := h.displaced
  slots := by
    intro hquiescent link
    constructor
    · intro hmem
      obtain ⟨index, hindex⟩ := mem_iff_getElem?.mp hmem
      obtain ⟨pc, hpc, hlink⟩ := h.slot index link hindex
      exact h.live_of_quiescent hquiescent hpc hlink
    · rintro ⟨x, hx, hlive⟩
      have hopen : x.closed = false := by
        rw [PoolLink.live, Bool.and_eq_true, Bool.not_eq_true'] at hlive
        exact hlive.2
      obtain ⟨pc, hpc, hlink⟩ := h.live link x hx hopen
      exact mem_of_getElem? (h.held x.owner link pc hpc hlink).2
  status := by
    intro hquiescent
    constructor
    · intro hconnected
      obtain ⟨link, hmem⟩ := h.connected hconnected
      obtain ⟨index, hindex⟩ := mem_iff_getElem?.mp hmem
      obtain ⟨pc, hpc, hlink⟩ := h.slot index link hindex
      exact ⟨link, h.live_of_quiescent hquiescent hpc hlink⟩
    · rintro ⟨link, x, hx, hlive⟩
      have hopen : x.closed = false := by
        rw [PoolLink.live, Bool.and_eq_true, Bool.not_eq_true'] at hlive
        exact hlive.2
      obtain ⟨pc, hpc, hlink⟩ := h.live link x hx hopen
      have hdone := hquiescent pc (mem_of_getElem? hpc)
      cases pc with
      | established link' => exact h.established _ _ hpc
      | idle | stopped => cases hlink
      | authenticating | admitted | closing => cases hdone

/-! ### One action -/

theorem Kept.link_ne (h : s.Kept) {i j l m : ℕ} (hpc : s.threads[i]? = some pc)
    (hpc' : s.threads[j]? = some pc') (hl : pc.link = some l) (hm : pc'.link = some m)
    (hne : i ≠ j) : l ≠ m := by
  rintro rfl
  have hfirst := (h.held i l pc hpc hl).1
  have hsecond := (h.held j l pc' hpc' hm).1
  have howner := congrArg PoolLink.owner (some.inj (hfirst.symm.trans hsecond))
  apply hne
  cases pc <;> cases pc' <;> exact howner

theorem Kept.displaces_eq_nil (h : s.Kept) (index : ℕ) : s.displaces index = [] := by
  rw [displaces]
  split
  · rename_i link hslot
    obtain ⟨pc, hpc, hlink⟩ := h.slot index link hslot
    have hlinks := (h.held index link pc hpc hlink).1
    rw [hlinks]
    cases pc <;> simp [linkAt]
  · rfl

section

variable (h : s.Kept) (hpc : s.threads[index]? = some pc) (hlink : pc.link = some link)
  (hlink' : pc'.link = some link)
include h hpc hlink hlink'

theorem Kept.move
    {links : List PoolLink} {isConnected : Bool} (hself : links[link]? = some (linkAt index pc'))
    (hother : ∀ m, m ≠ link → links[m]? = s.links[m]?)
    (hconnected : s.isConnected = true → isConnected = true)
    (hestablished : ∀ m, pc' = .established m → isConnected = true) : Kept { s with
      links := links, isConnected := isConnected, threads := s.threads.set index pc' } := by
  have hslot := (h.held index link pc hpc hlink).2
  refine ⟨?_, ?_, ?_, ?_, ?_, h.displaced⟩
  · intro j m qc hqc hm
    rcases getElem?_set_cases hqc with ⟨rfl, rfl⟩ | ⟨hj, hold⟩
    · cases hlink'.symm.trans hm
      exact ⟨hself, hslot⟩
    · have hne : m ≠ link := h.link_ne hold hpc hm hlink hj
      exact ⟨(hother m hne).trans (h.held j m qc hold hm).1, (h.held j m qc hold hm).2⟩
  · intro j m hm
    obtain ⟨qc, hqc, hqlink⟩ := h.slot j m hm
    by_cases hj : j = index
    · subst hj
      cases hpc.symm.trans hqc
      exact ⟨pc', getElem?_set_of_some hpc, hlink'.trans (hlink.symm.trans hqlink)⟩
    · exact ⟨qc, (getElem?_set_ne (Ne.symm hj)).trans hqc, hqlink⟩
  · intro m x hx hopen
    by_cases hm : m = link
    · subst hm
      cases hself.symm.trans hx
      refine ⟨pc', ?_, hlink'⟩
      have howner : (linkAt index pc').owner = index := by cases pc' <;> rfl
      rw [howner]
      exact getElem?_set_of_some hpc
    · obtain ⟨qc, hqc, hqlink⟩ := h.live m x ((hother m hm).symm.trans hx) hopen
      have hj : x.owner ≠ index := by
        intro howner
        rw [howner, hpc] at hqc
        cases hqc
        exact hm (some.inj (hqlink.symm.trans hlink))
      exact ⟨qc, (getElem?_set_ne (Ne.symm hj)).trans hqc, hqlink⟩
  · intro _
    exact ⟨link, mem_of_getElem? hslot⟩
  · intro j m hm
    rcases getElem?_set_cases hm with ⟨-, heq⟩ | ⟨-, hold⟩
    · exact hestablished m heq.symm
    · exact hconnected (h.established j m hold)

theorem Kept.modify {f : PoolLink → PoolLink} (hf : f (linkAt index pc) = linkAt index pc')
    (hnew : ∀ m, pc' ≠ .established m) :
    Kept { s with links := s.links.modify link f, threads := s.threads.set index pc' } := by
  have hlinks := (h.held index link pc hpc hlink).1
  refine h.move hpc hlink hlink' ?_ (fun m hm => ?_) id fun m hm => absurd hm (hnew m)
  · rw [getElem?_modify, hlinks]
    simp [hf]
  · simp [Ne.symm hm]

end

theorem getElem?_addWebSocket {pool : List (Option ℕ)} (h : index ≤ pool.length) (link : ℕ) :
    (addWebSocket pool index link)[index]? = some (some link) ∧
      ∀ j, j ≠ index → (addWebSocket pool index link)[j]? = pool[j]? := by
  rw [addWebSocket]
  split
  · rename_i hle
    obtain rfl := Nat.le_antisymm hle h
    refine ⟨getElem?_concat_length, fun j hj => ?_⟩
    rcases Nat.lt_or_ge j pool.length with hlt | hge
    · exact getElem?_append_left hlt
    · rw [getElem?_eq_none hge, getElem?_eq_none (by simp; omega)]
  · exact ⟨getElem?_set_self (by omega), fun j hj => getElem?_set_ne (Ne.symm hj)⟩

theorem Kept.connect (h : s.Kept) (hguard : s.Tidy (.connect index))
    (hstep : s.step (.connect index) = some s') : s'.Kept := by
  rw [LinkPool.step] at hstep
  split at hstep
  swap
  · cases hstep
  rename_i hidle
  cases hstep
  obtain ⟨hself, hother⟩ := getElem?_addWebSocket hguard s.links.length
  refine ⟨?_, ?_, ?_, ?_, ?_, ?_⟩
  · intro j m qc hqc hm
    rcases getElem?_set_cases hqc with ⟨rfl, rfl⟩ | ⟨hj, hold⟩
    · cases hm
      exact ⟨getElem?_concat_length, hself⟩
    · exact ⟨getElem?_append_of_some (h.held j m qc hold hm).1 _,
        (hother j hj).trans (h.held j m qc hold hm).2⟩
  · intro j m hm
    by_cases hj : j = index
    · subst hj
      cases some.inj (hself.symm.trans hm)
      exact ⟨_, getElem?_set_of_some hidle, rfl⟩
    · obtain ⟨qc, hqc, hqlink⟩ := h.slot j m ((hother j hj).symm.trans hm)
      exact ⟨qc, (getElem?_set_ne (Ne.symm hj)).trans hqc, hqlink⟩
  · intro m x hx hopen
    rcases getElem?_concat_cases hx with hold | ⟨rfl, rfl⟩
    · obtain ⟨qc, hqc, hqlink⟩ := h.live m x hold hopen
      have hj : x.owner ≠ index := by
        intro howner
        rw [howner, hidle] at hqc
        cases hqc
        cases hqlink
      exact ⟨qc, (getElem?_set_ne (Ne.symm hj)).trans hqc, hqlink⟩
    · exact ⟨_, getElem?_set_of_some hidle, rfl⟩
  · exact fun _ => ⟨s.links.length, mem_of_getElem? hself⟩
  · intro j m hm
    rcases getElem?_set_cases hm with ⟨-, heq⟩ | ⟨-, hold⟩
    · cases heq
    · exact h.established j m hold
  · rw [h.displaced, h.displaces_eq_nil, append_nil]

theorem Kept.clear (h : s.Kept) {again : Bool}
    (hstep : s.step (.clear index again) = some s') : s'.Kept := by
  rw [LinkPool.step] at hstep
  split at hstep <;> cases hstep
  rename_i link hpc
  obtain ⟨hlinks, hslot⟩ := h.held index link _ hpc rfl
  generalize hnext : (if again then ThreadPC.idle else .stopped) = next
  have hnone : next.link = none := by
    rw [← hnext]
    split <;> rfl
  -- the threads that have links are the other ones
  have hthread : ∀ {j m : ℕ} {qc : ThreadPC}, (s.threads.set index next)[j]? = some qc →
      qc.link = some m → j ≠ index ∧ s.threads[j]? = some qc := by
    intro j m qc hqc hm
    rcases getElem?_set_cases hqc with ⟨-, rfl⟩ | hold
    · rw [hnone] at hm
      cases hm
    · exact hold
  have hpool : ∀ {j : ℕ}, j ≠ index → (s.websockets.set index none)[j]? = s.websockets[j]? :=
    fun hj => getElem?_set_ne (Ne.symm hj)
  refine ⟨?_, ?_, ?_, ?_, ?_, ?_⟩
  · intro j m qc hqc hm
    obtain ⟨hj, hold⟩ := hthread hqc hm
    exact ⟨(h.held j m qc hold hm).1, (hpool hj).trans (h.held j m qc hold hm).2⟩
  · intro j m hm
    rcases getElem?_set_cases hm with ⟨-, heq⟩ | ⟨hj, hold⟩
    · cases heq
    · obtain ⟨qc, hqc, hqlink⟩ := h.slot j m hold
      exact ⟨qc, (getElem?_set_ne (Ne.symm hj)).trans hqc, hqlink⟩
  · intro m x hx hopen
    obtain ⟨qc, hqc, hqlink⟩ := h.live m x hx hopen
    have hj : x.owner ≠ index := by
      intro howner
      rw [howner, hpc] at hqc
      cases hqc
      cases hqlink
      cases hlinks.symm.trans hx
      cases hopen
    exact ⟨qc, (getElem?_set_ne (Ne.symm hj)).trans hqc, hqlink⟩
  · intro hconnected
    obtain ⟨slot, hmem, hsome⟩ := any_eq_true.mp (Bool.and_eq_true_iff.mp hconnected).2
    obtain ⟨m, rfl⟩ := isSome_iff_exists.mp hsome
    exact ⟨m, hmem⟩
  · intro j m hm
    obtain ⟨hj, hold⟩ := hthread hm rfl
    have hmem := mem_of_getElem? ((hpool hj).trans (h.held j m _ hold rfl).2)
    exact Bool.and_eq_true_iff.mpr
      ⟨h.established j m hold, any_eq_true.mpr ⟨some m, hmem, rfl⟩⟩
  · change s.displaced ++ s.displaces index = []
    rw [h.displaced, h.displaces_eq_nil, append_nil]

/-- Every tidy action. -/
theorem Kept.step (h : s.Kept) {a : PoolAction} (hguard : s.Tidy a)
    (hstep : s.step a = some s') : s'.Kept := by
  cases a with
  | connect index => exact h.connect hguard hstep
  | authenticate index | die index =>
    rw [LinkPool.step] at hstep
    split at hstep <;> cases hstep
    rename_i link hpc
    exact h.modify hpc rfl rfl rfl (by simp)
  | fail index again => exact hguard.elim
  | establish index =>
    rw [LinkPool.step] at hstep
    split at hstep <;> cases hstep
    rename_i link hpc
    refine h.move hpc rfl rfl (h.held index link _ hpc rfl).1 (fun _ _ => rfl) ?_ ?_
    · intro hconnected
      simp [hconnected]
    · rcases hguard with hzero | hconnected
      · simp [hzero]
      · simp [hconnected]
  | clear index again => exact h.clear hstep

/-- If the threads come up in order and nothing fails before a link is established,
the pool has exactly the live links, and the status is right. -/
theorem pool_sound {threads : ℕ} {actions : List PoolAction}
    (hguarded : Guarded LinkPool.step Tidy (newLinkPool threads) actions)
    (hrun : run LinkPool.step (newLinkPool threads) actions = some s) : s.Sound :=
  (run_invariant (fun _ _ _ h => h.step) (kept_newLinkPool threads)
    hguarded hrun : s.Kept).sound

end LinkPool

/-! ## Runs -/

/-- Two threads come up, and the first one loses its link and gets another. -/
def orderlyThreads : List PoolAction :=
  [.connect 0, .authenticate 0, .establish 0, .connect 1, .authenticate 1, .establish 1,
    .die 0, .clear 0 true, .connect 0, .authenticate 0, .establish 0]

theorem orderlyThreads_sound : ∃ s ∈ run LinkPool.step (.newLinkPool 2) orderlyThreads,
      s.websockets = [some 2, some 1] ∧ s.Sound :=
  exists_run_and (by decide +kernel) fun _ => LinkPool.pool_sound (by decide +kernel)

/-- The second thread is first, and the first one overwrites its link.  A link that fails stays
in the pool.  The second thread alone does not make the client connected. -/
theorem untidyThreads_unsound : (∃ s ∈ run LinkPool.step (.newLinkPool 2)
        [.connect 1, .authenticate 1, .establish 1, .connect 0, .authenticate 0, .establish 0],
      (∀ pc ∈ s.threads, pc.quiescent = true) ∧ s.displaced = [(0, 0)] ∧
      s.links[0]? = some ⟨1, true, false⟩ ∧ some 0 ∉ s.websockets) ∧
    (∃ s ∈ run LinkPool.step (.newLinkPool 1) [.connect 0, .fail 0 true],
      (∀ pc ∈ s.threads, pc.quiescent = true) ∧ s.websockets = [some 0] ∧
      s.links = [⟨0, false, true⟩]) ∧
    (∃ s ∈ run LinkPool.step (.newLinkPool 2) [.connect 1, .authenticate 1, .establish 1],
      (∀ pc ∈ s.threads, pc.quiescent = true) ∧ s.websockets = [some 0] ∧
      s.links = [⟨1, true, false⟩] ∧ s.isConnected = false) := by
  decide +kernel

end LinkSocks
