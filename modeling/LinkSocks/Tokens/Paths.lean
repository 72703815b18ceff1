import LinkSocks.Tokens.Integrity
import LinkSocks.Wire.Ranges
import LinkSocks.Wire.RoundTrip

/-!
# Two ways to authenticate

A client presents its token in an `AuthMessage`, or the hash of its token in the
URL.  The server computes the roles in two different ways, and looks the hash up
in a table that removals leave alone.  Both ways come to the same result for
every token that was ever added, because no token is of two kinds and no hash
belongs to two tokens; but only a frame is refused for its protocol version.
-/

namespace LinkSocks

open Go List AList

/-- What the server answers to an `AuthMessage` of a version it supports. -/
def authenticateMessage (R : Registry) (m : AuthMessage) (version : UInt8) :
    Except String WSClientAuth :=
  if (frameRoles R m).any then
    refuseSealedConnector R ⟨m.token, R.reverseTokenOf m.token, frameRoles R m, version⟩
  else .error "invalid token"

section Frames

variable {w : IntSize} {L : Lib} {V : VersionLib} {R : Registry} {m : AuthMessage}
  {version : UInt8} {frame : Bytes}

theorem auth_of_ite {α : Type} {p : Prop} [Decidable p] {ctor : α → BaseMessage}
    {r : Result α} {rest : Result BaseMessage}
    (h : (if p then ctor <$> r else rest) = .ok (.auth m))
    (hctor : ∀ a, ctor a ≠ .auth m) : rest = .ok (.auth m) := by
  by_cases hp : p
  · rw [if_pos hp] at h
    obtain ⟨a, -, heq⟩ := map_eq_ok h
    exact absurd heq.symm (hctor a)
  · rwa [if_neg hp] at h

theorem parseMessageBody_auth {msgType : UInt8} {payload : Bytes}
    (h : parseMessageBody w L msgType payload = .ok (.auth m)) : parseAuth L payload = .ok m := by
  rw [parseMessageBody] at h
  by_cases hauth : msgType = binaryTypeAuth
  · rw [if_pos hauth] at h
    obtain ⟨a, ha, heq⟩ := map_eq_ok h
    obtain rfl := BaseMessage.auth.inj heq
    exact ha
  · rw [if_neg hauth] at h
    -- one step for each of the other formats
    iterate 26 replace h := auth_of_ite h (fun _ => nofun)
    cases h

/-- The frame brings the message, with the version. -/
def Carries (w : IntSize) (L : Lib) (frame : Bytes) (m : AuthMessage) (version : UInt8) : Prop :=
  parseMessageWithVersion w L frame = (.ok (.auth m), version)

/-- A frame brings only a supported version and a token whose length fits into a
byte. -/
theorem Carries.fits (h : Carries w L frame m version) :
    protocolMajorSupported version = true ∧ m.token.length ≤ 255 := by
  rw [Carries, parseMessageWithVersion.eq_def] at h
  split at h
  · rename_i v msgType payload
    cases hversion : protocolMajorSupported v with
    | false =>
      rw [hversion] at h
      cases h
    | true =>
      rw [hversion] at h
      obtain ⟨hbody, rfl⟩ := Prod.mk.inj h
      exact ⟨hversion, parseAuth_token_length (parseMessageBody_auth hbody)⟩
  · cases h

theorem exists_carries (hL : L.uuid.Lawful) (hversion : protocolMajorSupported version = true)
    (hlength : m.token.length ≤ 255) : ∃ frame, Carries w L frame m version := by
  obtain ⟨frame, hpack, hparse⟩ := parseMessageWithVersion_packMessageWithVersion w L hL
    (.auth m) version ((protocolMajorSupported_iff version).mp hversion) hlength
  have hbytes : packAuth L m =
      .ok (packString m.token ++ boolToByte m.reverse :: m.instanceID.bytes) := by
    rw [packAuth, packUUID_eq hL]
    rfl
  have hroom : frame.length + 6 < 2147483648 := by
    rw [packMessageWithVersion, packBody, hbytes] at hpack
    obtain rfl := Except.ok.inj hpack
    simp
    omega
  exact ⟨frame, hparse fun _ => hroom⟩

theorem Carries.authenticate (h : Carries w L frame m version) :
    authenticateWebSocketClient w L V R (.frame frame) = authenticateMessage R m version := by
  rw [authenticateWebSocketClient, validateToken, h, authenticateMessage]
  dsimp only
  split <;> rfl

/-- The token has no role with the flag, or it is a connector token with rules and
the version is that of a sealed link. -/
def Refused (R : Registry) (m : AuthMessage) (version : UInt8) : Prop :=
  (frameRoles R m).any = false ∨
    protocolMajor version = protocolMajor protocolVersionV2 ∧ (frameRoles R m).connector = true ∧
      AccessControl.empty (R.connectorTokenAC.lookup m.token) = false

theorem refused_iff : Refused R m version ↔ ∀ auth, authenticateMessage R m version ≠ .ok auth := by
  rw [Refused, authenticateMessage]
  cases (frameRoles R m).any with
  | false => simp
  | true =>
    rw [if_pos rfl, refuseSealedConnector]
    split
    · rename_i hrefuse
      simpa using hrefuse
    · rename_i hpass
      simpa using hpass

end Frames

/-! ## Roles -/

/-- The value of the parameter `reverse` that stands for the flag. -/
def ReverseParam (reverse : GoString) (flag : Bool) : Prop :=
  reverse ≠ [] ∧ (reverse = ascii "true" ∨ reverse = ascii "1" ↔ flag = true)

theorem urlRoles_eq_frameRoles {R : Registry} {m : AuthMessage} {reverse : GoString}
    (hkind : R.OneKind m.token) (hparam : ReverseParam reverse m.reverse) :
    urlRoles R m.token reverse = frameRoles R m := by
  have hexclusive : R.isReverse m.token = true →
      R.isForward m.token = false ∧ R.isConnector m.token = false := by
    intro hreverse
    have hmem := Registry.mem_tokens_of_isReverse hreverse
    have hconnector := lookup_eq_none.mpr (hkind.reverse_connector hmem)
    have hforward : R.forwardTokens.lookup m.token = none :=
      lookup_eq_none.mpr fun hmem' => hkind.forward_reverse hmem' hmem
    simp [Registry.isForward, Registry.isConnector, hconnector, hforward]
  rw [urlRoles, frameRoles, if_neg hparam.1]
  simp only [hparam.2]
  cases hflag : m.reverse with
  | true =>
    cases hreverse : R.isReverse m.token with
    | true => simp [hexclusive hreverse]
    | false => simp
  | false =>
    cases hreverse : R.isReverse m.token with
    | true => simp [hexclusive hreverse]
    | false => cases R.isForward m.token <;> cases R.isConnector m.token <;> simp

/-! ## Hashes -/

namespace TokenServer

variable {E : TokenEnv} {S : Set GoString} {s s' : TokenServer} {token : GoString}

/-- The table of hashes has every token, and only strings of `S`. -/
structure Hashed (E : TokenEnv) (S : Set GoString) (s : TokenServer) : Prop where
  stored : ∀ x, s.tokenExists x = true → s.registry.sha256TokenMap.lookup (E.sha256.hex x) = some x
  named : ∀ h x, s.registry.sha256TokenMap.lookup h = some x → h = E.sha256.hex x ∧ x ∈ S

theorem hex_injOn (hsha : S.InjOn E.sha256.sum) : S.InjOn E.sha256.hex :=
  fun _ hx _ hy h => hsha hx hy (hexEncode_injective h)

/-- Storing the hash of a further string keeps the others, as no two strings have
the same hash. -/
theorem Hashed.storesHash (h : s.Hashed E S) (hsha : S.InjOn E.sha256.sum)
    (htoken : token ∈ S) (hhash : s.StoresHash E token s')
    (hexists : ∀ x, s'.tokenExists x = true → x = token ∨ s.tokenExists x = true) :
    s'.Hashed E S where
  stored := by
    intro x hx
    rw [hhash]
    rcases hexists x hx with rfl | hold
    · exact lookup_insert _
    · have hlookup := h.stored x hold
      by_cases heq : E.sha256.hex x = E.sha256.hex token
      · rw [hex_injOn hsha (h.named _ x hlookup).2 htoken heq, lookup_insert]
      · rwa [lookup_insert_ne heq]
  named := by
    intro k x hx
    rw [hhash] at hx
    rcases lookup_insert_cases hx with ⟨rfl, rfl⟩ | ⟨-, hold⟩
    · exact ⟨rfl, htoken⟩
    · exact h.named k x hold

theorem Hashed.of_same (h : s.Hashed E S)
    (hhash : s'.registry.sha256TokenMap = s.registry.sha256TokenMap)
    (hexists : ∀ x, s'.tokenExists x = true → s.tokenExists x = true) : s'.Hashed E S where
  stored := by
    intro x hx
    rw [hhash]
    exact h.stored x (hexists x hx)
  named := by
    intro k x
    rw [hhash]
    exact h.named k x

theorem Hashed.adds (h : s.Hashed E S) (hsha : S.InjOn E.sha256.sum)
    (htoken : token ∈ S) (hadds : s.Adds E token s') : s'.Hashed E S := by
  have hexists := fun x => hadds.tokenExists_cases (x := x)
  cases hadds with
  | nothing hf ht hc hm hh =>
    rcases hh with hsame | hstores
    · refine h.of_same hsame fun x hx => ?_
      rwa [tokenExists, hf, ht, hc] at hx
    · exact h.storesHash hsha htoken hstores hexists
  | forward hnew hf ht hc hm hh | reverse port hnew hport hf ht hc hm hh
  | connector r hnew htarget hf ht hc hm hh =>
    exact h.storesHash hsha htoken hh hexists

theorem Hashed.removeToken (h : s.Hashed E S) (token : GoString) :
    (s.removeToken token).Hashed E S := h.of_same (s.removeToken_sha256TokenMap token) fun _ =>
    (s.removeToken_drops token).tokenExists_before

end TokenServer

/-! ## Runs of calls -/

namespace TokenHub

variable {E : TokenEnv} {S : Set GoString} {s s' : TokenHub}

/-- What is true when no client has ever connected. -/
structure Operated (E : TokenEnv) (S : Set GoString) (s : TokenHub) : Prop where
  kept : s.Kept
  internal : ∀ t, s.server.internalOf t = []
  hashed : s.server.Hashed E S

theorem Operated.call (h : s.Operated E S) (hsha : S.InjOn E.sha256.sum)
    {c : TokenCall} (hS : ∀ t ∈ c.added, t ∈ S)
    (hstep : s.step E (.call c) = some s') : s'.Operated E S := by
  have hguard : s.Separate E (.call c) := by
    cases c with
    | removeToken token =>
      intro i hi
      rw [h.internal] at hi
      cases hi
    | _ => trivial
  have hkept := h.kept.call hguard hstep
  obtain ⟨hrandom, rfl⟩ := of_ite_some hstep
  rcases TokenServer.call_cases (E := E) hrandom with
    ⟨token, hadded, hclients, hadds⟩ | ⟨token, rfl⟩
  · refine ⟨hkept, fun t => ?_, h.hashed.adds hsha (hS token hadded) hadds⟩
    rw [hclients.internalOf]
    exact h.internal t
  · refine ⟨hkept, fun t => ?_, h.hashed.removeToken token⟩
    by_cases ht : t = token
    · rw [ht]
      exact s.server.removeToken_internalOf_self token
    · exact (s.server.removeToken_internalOf_of_ne ht).trans (h.internal t)

theorem start_operated (version : Link → UInt8) (pool : PortPool) :
    (start version pool).Operated E S := ⟨start_kept version pool, fun _ => rfl,
    ⟨fun x h => by simp [start, TokenServer.empty, TokenServer.tokenExists] at h,
      fun _ _ h => by simp [start, TokenServer.empty] at h⟩⟩

theorem run_calls_operated {version : Link → UInt8} {pool : PortPool}
    {calls : List TokenCall} (hsha : S.InjOn E.sha256.sum) (hS : ∀ c ∈ calls, ∀ t ∈ c.added, t ∈ S)
    (hrun : run (step E) (start version pool) (calls.map .call) = some s) : s.Operated E S := by
  have hguard : Guarded (step E) (fun _ a => ∃ c, a = .call c ∧ ∀ t ∈ c.added, t ∈ S)
      (start version pool) (calls.map .call) := by
    refine guarded_of_forall_mem (fun a ha _ => ?_) _
    obtain ⟨c, hc, rfl⟩ := mem_map.mp ha
    exact ⟨c, rfl, hS c hc⟩
  refine run_invariant ?_ (start_operated version pool) hguard hrun
  rintro s _ s' h ⟨c, rfl, hc⟩ hstep
  exact h.call hsha hc hstep

theorem Operated.oneKind (h : s.Operated E S) (token : GoString) :
    s.server.registry.OneKind token :=
  ⟨h.kept.integrity.forward_reverse token, h.kept.integrity.forward_connector token,
    h.kept.integrity.reverse_connector token⟩

theorem Operated.authenticate_url (h : s.Operated E S) (hsha : S.InjOn E.sha256.sum)
    {m : AuthMessage} (hm : m.token ∈ S) (version : GoString) {reverse : GoString}
    (hparam : ReverseParam reverse m.reverse) :
    s.authenticate E (.url (E.sha256.hex m.token) version reverse) =
      authenticateMessage s.server.registry m (urlVersion E.versions version) := by
  have hroles := urlRoles_eq_frameRoles (h.oneKind m.token) hparam
  rw [authenticate, authenticateWebSocketClient, validateToken,
    if_neg (not_not_intro (E.sha256.length_hex m.token)), authenticateMessage]
  cases hlookup : s.server.registry.sha256TokenMap.lookup (E.sha256.hex m.token) with
  | some original =>
    obtain ⟨hhex, horiginal⟩ := h.hashed.named _ original hlookup
    obtain rfl := TokenServer.hex_injOn hsha hm horiginal hhex
    simp only [hroles]
    split <;> rfl
  | none =>
    -- a token without hash is in none of the tables
    have hany : ¬ (frameRoles s.server.registry m).any = true := by
      intro hany
      have hexists := TokenServer.tokenExists_of_admits (frameRoles_admits protocolVersionV1 hany)
      rw [h.hashed.stored m.token hexists] at hlookup
      cases hlookup
    rw [if_neg hany]
    rfl

/-- Some frame brings the message with the version, and is accepted so. -/
def AcceptsMessage (E : TokenEnv) (s : TokenHub) (m : AuthMessage) (version : UInt8)
    (auth : WSClientAuth) : Prop :=
  ∃ frame, Carries E.w E.lib frame m version ∧ s.authenticate E (.frame frame) = .ok auth

theorem acceptsMessage_iff (hL : E.lib.uuid.Lawful) {m : AuthMessage} {version : UInt8}
    {auth : WSClientAuth} : s.AcceptsMessage E m version auth ↔
      (protocolMajorSupported version = true ∧ m.token.length ≤ 255) ∧
        authenticateMessage s.server.registry m version = .ok auth := by
  constructor
  · rintro ⟨frame, hcarries, hok⟩
    exact ⟨hcarries.fits, hcarries.authenticate.symm.trans hok⟩
  · rintro ⟨⟨hversion, hlength⟩, hok⟩
    obtain ⟨frame, hcarries⟩ := exists_carries hL hversion hlength
    exact ⟨frame, hcarries, hcarries.authenticate.trans hok⟩

/-- In every state that calls lead to, a token that was ever added is treated
alike whether its hash comes in the URL or the token itself in an `AuthMessage`,
both refused or both accepted for the same role and the same reverse token, if
and only if the message can be sent at all, or is refused for another reason. -/
theorem url_and_message_agree_iff {version : Link → UInt8} {pool : PortPool}
    {calls : List TokenCall} (hrun : run (step E) (start version pool) (calls.map .call) = some s)
    (hsha : Set.InjOn E.sha256.sum {t | t ∈ calls.filterMap TokenCall.added})
    (hL : E.lib.uuid.Lawful) {m : AuthMessage} (hm : m.token ∈ calls.filterMap TokenCall.added)
    (versionParam : GoString) {reverse : GoString} (hparam : ReverseParam reverse m.reverse) :
    (∀ auth, s.authenticate E (.url (E.sha256.hex m.token) versionParam reverse) = .ok auth ↔
        s.AcceptsMessage E m (urlVersion E.versions versionParam) auth) ↔
      (protocolMajorSupported (urlVersion E.versions versionParam) = true ∧ m.token.length ≤ 255) ∨
        Refused s.server.registry m (urlVersion E.versions versionParam) := by
  have hoperated := run_calls_operated hsha
    (fun c hc t ht => mem_filterMap.mpr ⟨c, hc, ht⟩) hrun
  simp only [hoperated.authenticate_url hsha hm versionParam hparam,
    acceptsMessage_iff hL, refused_iff]
  constructor
  · intro hagree
    by_contra hnot
    push Not at hnot
    obtain ⟨hfits, auth, hok⟩ := hnot
    have hsent := ((hagree auth).mp hok).1
    exact absurd hsent.2 (Nat.not_le.mpr (hfits hsent.1))
  · rintro (hfits | hrefused) auth
    · exact (and_iff_right hfits).symm
    · exact iff_of_false (hrefused auth) fun h => hrefused auth h.2

end TokenHub

/-! ## A version that only the URL gets away with -/

/-- A forward token, and a reverse token that is gone again. -/
def pathCalls : List TokenCall :=
  [.addForwardToken (ascii "f") [] none,
    .addReverseToken ⟨ascii "r", 0, true⟩ [] 0, .removeToken (ascii "r")]

theorem pathCalls_sha256_injOn :
    Set.InjOn paddedSha256.sum {t | t ∈ pathCalls.filterMap TokenCall.added} := by
  have hadded : pathCalls.filterMap TokenCall.added = [ascii "f", ascii "r"] := by
    decide
  intro x hx y hy
  simp only [hadded, Set.mem_ofPred_eq, mem_cons, not_mem_nil, or_false] at hx hy
  rcases hx with rfl | rfl <;> rcases hy with rfl | rfl <;> decide

def forwardURL (versionParam : GoString) : Credentials :=
  .url (paddedSha256.hex (ascii "f")) versionParam (ascii "false")

/-- The forward token is accepted both ways. -/
theorem pathCalls_agree : ∃ s ∈ run (TokenHub.step tokenEnv) emptyHub (pathCalls.map .call),
      ∃ auth, s.authenticate tokenEnv (forwardURL []) = .ok auth ∧
        s.AcceptsMessage tokenEnv ⟨ascii "f", false, uuidOf 1⟩
          (urlVersion tokenEnv.versions []) auth := by
  obtain ⟨s, hrun, haccepted⟩ : ∃ s ∈ run (TokenHub.step tokenEnv) emptyHub (pathCalls.map .call),
        (s.authenticate tokenEnv (forwardURL [])).toOption.isSome = true := by
    decide +kernel
  have hparam : ReverseParam (ascii "false") false := ⟨by decide, by decide⟩
  have hadded : ascii "f" ∈ pathCalls.filterMap TokenCall.added := by decide
  have hagree := (TokenHub.url_and_message_agree_iff (m := ⟨ascii "f", false, uuidOf 1⟩)
    hrun pathCalls_sha256_injOn canonicalUUID_lawful hadded [] hparam).mpr (.inl (by decide))
  cases hurl : s.authenticate tokenEnv (forwardURL []) with
  | error e =>
    rw [hurl] at haccepted
    cases haccepted
  | ok auth => exact ⟨s, hrun, auth, hurl, (hagree auth).mp hurl⟩

/-- `0x10` is parsed as the byte it stands for. -/
def sixteenVersions : VersionLib where
  trimSpace s := s
  parseUint s base :=
    if s = ascii "10" ∧ base = 16 then .ok 0x10 else .error (.msg "invalid syntax")

def sixteenEnv : TokenEnv := { tokenEnv with versions := sixteenVersions }

/-- A token whose length does not fit the one byte it is written in. -/
def longToken : GoString := List.replicate 256 97

/-- With a version of generation 1, the token is accepted in the URL and refused
in a frame.  So is a token that is too long for a frame. -/
theorem pathCalls_disagree : (∃ s ∈ run (TokenHub.step sixteenEnv) emptyHub (pathCalls.map .call),
      (s.authenticate sixteenEnv (forwardURL (ascii "0x10"))).toOption.map
        (fun auth => (auth.version, auth.roles)) = some (0x10, ⟨false, true, false⟩) ∧
      ∃ frame ∈ (packMessageWithVersion plainLib
          (.auth ⟨ascii "f", false, uuidOf 1⟩) 0x10).toOption,
        (s.authenticate sixteenEnv (.frame frame)).toOption.isNone = true) ∧
    (∃ s ∈ run (TokenHub.step tokenEnv) emptyHub [.call (.addForwardToken longToken [] none)],
      (s.authenticate tokenEnv
        (.url (paddedSha256.hex longToken) [] (ascii "false"))).toOption.isSome = true ∧
      ∃ frame ∈ (packMessageWithVersion plainLib
          (.auth ⟨longToken, false, uuidOf 1⟩) protocolVersionV1).toOption,
        (s.authenticate tokenEnv (.frame frame)).toOption.isNone = true) := by
  decide +kernel

end LinkSocks
