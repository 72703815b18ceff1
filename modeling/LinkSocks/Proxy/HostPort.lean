import LinkSocks.Proxy.Target

/-!
# Hosts and ports as texts

What `parseHTTPProxyTarget` makes of a text.  A host that is joined with a port comes
back, with brackets around it or without.  But the parser also accepts a port without a
host, and brackets that it does not take for those of a literal stay in the host.
-/

namespace LinkSocks

open Go List

/-- The parts around the last such byte. -/
def splitLast (b : UInt8) : GoString → Option (GoString × GoString)
  | [] => none
  | c :: s =>
    match splitLast b s with
    | some (front, back) => some (c :: front, back)
    | none => if c = b then some ([], s) else none

/-- `net.SplitHostPort`, `none` for an error. -/
def netSplitHostPort (s : GoString) : Option (GoString × GoString) :=
  match splitLast 58 s with
  | none => none
  | some (front, port) =>
    if front.head? = some 91 then
      let host := front.tail.dropLast
      if front = 91 :: (host ++ [93]) ∧ 91 ∉ host ++ port ∧ 93 ∉ host ++ port then some (host, port)
      else none
    else if 58 ∈ front ∨ 91 ∈ s ∨ 93 ∈ s then none
    else some (front, port)

/-- `net.JoinHostPort`. -/
def joinHostPort (host port : GoString) : GoString :=
  if 58 ∈ host then 91 :: host ++ 93 :: 58 :: port else host ++ 58 :: port

/-- The libraries read addresses as `net` does, and leave texts without blanks alone. -/
structure TargetLib.Lawful (T : TargetLib) : Prop where
  split : ∀ s, (T.splitHostPort s).toOption = netSplitHostPort s
  trim : ∀ s, (∀ b ∈ s, 32 < b ∧ b < 127) → T.trimSpace s = s

/-- A byte of a name, of the literal of an address or of a port. -/
abbrev HostByte (b : UInt8) : Prop := ((32 < b ∧ b < 127) ∧ b ≠ 47) ∧ b ≠ 91 ∧ b ≠ 93

def NoBracket (s : GoString) : Prop := 91 ∉ s ∧ 93 ∉ s

structure IsHost (host : GoString) : Prop where
  ne_nil : host ≠ []
  bytes : ∀ b ∈ host, HostByte b

structure IsPort (port : GoString) : Prop where
  bytes : ∀ b ∈ port, HostByte b
  colon : 58 ∉ port

/-- A port alone, behind its colon. -/
def IsPortOnly (text : GoString) : Prop := ∃ port, text = 58 :: port ∧ 58 ∉ port

/-- A host with or without a port, or a host in brackets with a port; one bracket at each end
may be there or not if there is no port behind it. -/
def Proper (text : GoString) : Prop :=
  ∃ core, core ≠ [] ∧ NoBracket core ∧ (text = core ∧ ¬ IsPortOnly core ∨
    text = 91 :: core ∨ text = core ++ [93] ∨ text = 91 :: (core ++ [93]) ∨
      ∃ port, text = 91 :: (core ++ 93 :: 58 :: port) ∧ NoBracket port ∧ 58 ∉ port)

section Split

variable {s host port : GoString}

theorem splitLast_eq_none {b : UInt8} : splitLast b s = none ↔ b ∉ s := by
  induction s with
  | nil => simp [splitLast]
  | cons c s ih =>
    cases hs : splitLast b s with
    | some parts =>
      have hmem : b ∈ s := by
        by_contra hnot
        rw [ih.mpr hnot] at hs
        cases hs
      simp [splitLast, hs, hmem]
    | none =>
      have hnot := ih.mp hs
      by_cases hc : c = b
      · simp [splitLast, hs, hc]
      · simp [splitLast, hs, hc, hnot, Ne.symm hc]

theorem eq_of_splitLast {b : UInt8} (h : splitLast b s = some (host, port)) :
    s = host ++ b :: port ∧ b ∉ port := by
  induction s generalizing host with
  | nil => cases h
  | cons c s ih =>
    rw [splitLast] at h
    split at h
    · rename_i front back hs
      cases h
      obtain ⟨rfl, hport⟩ := ih hs
      exact ⟨rfl, hport⟩
    · rename_i hs
      split_ifs at h with hc
      cases h
      exact ⟨by rw [hc, nil_append], splitLast_eq_none.mp hs⟩

theorem splitLast_append {b : UInt8} (h : b ∉ port) :
    splitLast b (host ++ b :: port) = some (host, port) := by
  induction host with
  | nil => simp [splitLast, splitLast_eq_none.mpr h]
  | cons c host ih => simp [splitLast, ih]

theorem netSplitHostPort_plain (hhost : NoBracket host) (hcolon : 58 ∉ host)
    (hport : NoBracket port) (hcolon' : 58 ∉ port) :
    netSplitHostPort (host ++ 58 :: port) = some (host, port) := by
  have hhead : host.head? ≠ some 91 := fun h => hhost.1 (mem_of_head? h)
  simp [netSplitHostPort, splitLast_append hcolon', hhead, hcolon, hhost.1, hhost.2, hport.1,
    hport.2]

theorem netSplitHostPort_literal (hhost : NoBracket host) (hport : NoBracket port)
    (hcolon : 58 ∉ port) :
    netSplitHostPort (91 :: (host ++ 93 :: 58 :: port)) = some (host, port) := by
  have heq : 91 :: (host ++ 93 :: 58 :: port) = (91 :: (host ++ [93])) ++ 58 :: port := by simp
  rw [netSplitHostPort, heq, splitLast_append hcolon]
  simp [hhost.1, hhost.2, hport.1, hport.2]

/-- A text that is split has brackets around its host, or none at all and one colon. -/
theorem netSplitHostPort_cases (h : netSplitHostPort s = some (host, port)) :
    NoBracket host ∧ NoBracket port ∧ 58 ∉ port ∧
      (s = 91 :: (host ++ 93 :: 58 :: port) ∨ s = host ++ 58 :: port ∧ 58 ∉ host) := by
  rw [netSplitHostPort] at h
  split at h
  · cases h
  · rename_i front back hsplit
    obtain ⟨rfl, hcolon⟩ := eq_of_splitLast hsplit
    by_cases hhead : front.head? = some 91
    · rw [if_pos hhead] at h
      dsimp only at h
      split_ifs at h with hliteral
      obtain ⟨hfront, hopen, hclose⟩ := hliteral
      cases h
      rw [mem_append, not_or] at hopen hclose
      refine ⟨⟨hopen.1, hclose.1⟩, ⟨hopen.2, hclose.2⟩, hcolon, .inl ?_⟩
      conv_lhs => rw [hfront]
      simp
    · rw [if_neg hhead] at h
      split_ifs at h with hplain
      cases h
      simp only [mem_append, mem_cons, not_or] at hplain
      exact ⟨⟨hplain.2.1.1, hplain.2.2.1⟩, ⟨hplain.2.1.2.2, hplain.2.2.2.2⟩, hcolon,
        .inr ⟨rfl, hplain.1⟩⟩

theorem contains_literal (host : GoString) (h : 93 ∉ host) :
    contains (host ++ [93]) (ascii "]:") = false := by
  induction host with
  | nil => decide
  | cons c host ih =>
    obtain ⟨hc, hhost⟩ : 93 ≠ c ∧ 93 ∉ host := by simpa using h
    rw [List.cons_append, contains, ih hhost]
    simp [ascii, List.isPrefixOf, hc]

theorem contains_literal_port (host port : GoString) :
    contains (host ++ 93 :: 58 :: port) (ascii "]:") = true :=
  contains_iff.mpr ⟨host, port, by simp [ascii]⟩

/-- The text is `core`, with a bracket or without at either end. -/
def Bracketed (core s : GoString) : Prop :=
  s = core ∨ s = 91 :: core ∨ s = core ++ [93] ∨ s = 91 :: (core ++ [93])

theorem trimBrackets_eq {core : GoString} (hne : core ≠ []) (hbare : NoBracket core)
    (h : Bracketed core s) : trimBrackets s = core := by
  have hend : core.getLast? ≠ some 93 := fun hb => hbare.2 (mem_of_getLast? hb)
  have hfront : core.head? ≠ some 91 := fun hb => hbare.1 (mem_of_head? hb)
  have hfirst : ∀ t : GoString, t.head? ≠ some 91 → trimFirst 91 t = t := by
    intro t ht
    cases t <;> simp_all [trimFirst]
  obtain rfl | rfl | rfl | rfl := h
  · rw [trimBrackets, hfirst _ hfront, trimLast, if_neg hend]
  · rw [trimBrackets, trimFirst, if_pos rfl, trimLast, if_neg hend]
  · have hhead : (core ++ [93]).head? ≠ some 91 := by
      obtain ⟨c, rest, rfl⟩ := exists_cons_of_ne_nil hne
      exact hfront
    rw [trimBrackets, hfirst _ hhead, trimLast, if_pos (by simp), dropLast_concat]
  · rw [trimBrackets, trimFirst, if_pos rfl, trimLast, if_pos (by simp), dropLast_concat]

/-- A host is left without its brackets if there is at most one at each end. -/
theorem trimBrackets_iff : trimBrackets s ≠ [] ∧ NoBracket (trimBrackets s) ↔
    ∃ core, core ≠ [] ∧ NoBracket core ∧ Bracketed core s := by
  constructor
  · rintro ⟨hne, hbare⟩
    have hfirst : s = trimFirst 91 s ∨ s = 91 :: trimFirst 91 s := by
      cases s with
      | nil => exact .inl rfl
      | cons c s => by_cases hc : c = 91 <;> simp [trimFirst, hc]
    have hlast : ∀ t, t = trimLast 93 t ∨ t = trimLast 93 t ++ [93] := by
      intro t
      rw [trimLast]
      split_ifs with hend
      · obtain ⟨front, rfl⟩ := getLast?_eq_some_iff.mp hend
        exact .inr (by rw [dropLast_concat])
      · exact .inl rfl
    refine ⟨trimBrackets s, hne, hbare, ?_⟩
    have hrest := hlast (trimFirst 91 s)
    rw [Bracketed, trimBrackets]
    grind
  · rintro ⟨core, hne, hbare, hforms⟩
    rw [trimBrackets_eq hne hbare hforms]
    exact ⟨hne, hbare⟩

theorem proper_of_none (hnone : netSplitHostPort s = none) :
    trimBrackets s ≠ [] ∧ NoBracket (trimBrackets s) ↔ Proper s := by
  rw [trimBrackets_iff]
  refine exists_congr fun core => and_congr_right fun hne => and_congr_right fun hbare => ?_
  constructor
  · rintro (rfl | hform)
    · refine .inl ⟨rfl, ?_⟩
      rintro ⟨port, rfl, hcolon⟩
      have hport : NoBracket port := by simpa [NoBracket] using hbare
      have hempty : NoBracket ([] : Bytes) := by simp [NoBracket]
      cases (netSplitHostPort_plain hempty not_mem_nil hport hcolon).symm.trans hnone
    · obtain hform | hform | hform := hform
      · exact .inr (.inl hform)
      · exact .inr (.inr (.inl hform))
      · exact .inr (.inr (.inr (.inl hform)))
  · rintro (⟨hform, -⟩ | hform | hform | hform | ⟨port, rfl, hport, hcolon⟩)
    · exact .inl hform
    · exact .inr (.inl hform)
    · exact .inr (.inr (.inl hform))
    · exact .inr (.inr (.inr hform))
    · cases (netSplitHostPort_literal hbare hport hcolon).symm.trans hnone

theorem proper_of_some (h : netSplitHostPort s = some (host, port)) :
    host ≠ [] ∧ NoBracket host ↔ Proper s := by
  obtain ⟨hhost, hport, hcolon, hcase⟩ := netSplitHostPort_cases h
  constructor
  · rintro ⟨hne, -⟩
    obtain rfl | ⟨rfl, hfront⟩ := hcase
    · exact ⟨host, hne, hhost, .inr (.inr (.inr (.inr ⟨port, rfl, hport, hcolon⟩)))⟩
    · refine ⟨host ++ 58 :: port, by simp, ?_, .inl ⟨rfl, ?_⟩⟩
      · simpa [NoBracket, not_or] using ⟨⟨hhost.1, hport.1⟩, hhost.2, hport.2⟩
      · rintro ⟨port', heq, -⟩
        obtain ⟨c, rest, rfl⟩ := exists_cons_of_ne_nil hne
        rw [cons_append, cons.injEq] at heq
        exact hfront (heq.1 ▸ mem_cons_self)
  · rintro ⟨core, hne, hbare, hforms⟩
    refine ⟨?_, hhost⟩
    rintro rfl
    -- there is nothing between the brackets, or in front of the only colon
    obtain ⟨c, rest, rfl⟩ := exists_cons_of_ne_nil hne
    obtain rfl | ⟨rfl, -⟩ := hcase
    · simp only [NoBracket] at hbare
      grind
    · simp only [NoBracket, IsPortOnly] at hbare hforms hport
      grind

end Split

theorem noBracket_of_bytes {s : GoString} (h : ∀ b ∈ s, HostByte b) : NoBracket s :=
  ⟨fun hmem => (h 91 hmem).2.1 rfl, fun hmem => (h 93 hmem).2.2 rfl⟩

section Parse

variable {T : TargetLib} {s host port text : GoString} {d d' p : Int}

theorem TargetLib.Lawful.split_ok (hT : T.Lawful) (h : netSplitHostPort s = some (host, port)) :
    T.splitHostPort s = .ok (host, port) := by
  have := (hT.split s).trans h
  cases hs : T.splitHostPort s <;> simp_all [Except.toOption]

/-- A text without blanks and schemes is parsed as it is. -/
theorem TargetLib.Lawful.targetHost_eq (hT : T.Lawful) (d : Int) (hne : s ≠ [])
    (hs : ∀ b ∈ s, (32 < b ∧ b < 127) ∧ b ≠ 47) :
    T.trimSpace s ≠ [] ∧ targetHost T (T.trimSpace s) d = .ok (s, d) := by
  have hscheme : contains s (ascii "://") ≠ true :=
    fun h => (hs 47 ((contains_iff.mp h).subset (by decide))).2 rfl
  rw [hT.trim s fun b hb => (hs b hb).1, targetHost, if_neg hscheme]
  exact ⟨hne, rfl⟩

/-- The host is neither empty nor bracketed if and only if the text was proper. -/
theorem TargetLib.Lawful.proper_iff (hT : T.Lawful)
    (h : parseHTTPProxyTarget T s d = .ok (host, p)) :
    ∃ text d', targetHost T (T.trimSpace s) d = .ok (text, d') ∧
      (host ≠ [] ∧ NoBracket host ↔ Proper text) := by
  revert h
  fun_cases parseHTTPProxyTarget T s d <;> intro h <;> cases h
  case case4 _ text hliteral htext _ =>
    refine ⟨text, p, htext, proper_of_none ?_⟩
    -- a text that begins with a bracket is split behind its closing one only
    cases hsplit : netSplitHostPort text with
    | none => rfl
    | some parts =>
      obtain ⟨hhost, -, -, rfl | ⟨rfl, -⟩⟩ := netSplitHostPort_cases hsplit
      · exact absurd (contains_literal_port (91 :: _) _) hliteral.2
      · refine absurd hliteral.1 fun hhead => ?_
        cases hparts : parts.1 with
        | nil => simp [hparts] at hhead
        | cons c rest =>
          rw [hparts, cons_append, head?_cons] at hhead
          refine hhost.1 ?_
          rw [hparts, Option.some.inj hhead]
          exact mem_cons_self
  case case6 _ text d' htext _ portText hsplit _ _ =>
    exact ⟨text, d', htext, proper_of_some ((hT.split _).symm.trans (by rw [hsplit]; rfl))⟩
  case case9 _ text _ _ hsplit htext _ =>
    exact ⟨text, p, htext, proper_of_none ((hT.split _).symm.trans (by rw [hsplit]; rfl))⟩

theorem IsHost.head_ne (hhost : IsHost host) : host.head? ≠ some 91 :=
  fun h => (noBracket_of_bytes hhost.bytes).1 (mem_of_head? h)

/-- A host joined with a port is parsed into the two. -/
theorem TargetLib.Lawful.parse_joined (hT : T.Lawful) (hhost : IsHost host) (hport : IsPort port)
    (hatoi : T.atoi port = .ok p) (hp : 1 ≤ p ∧ p ≤ 65535) :
    parseHTTPProxyTarget T (joinHostPort host port) d = .ok (host, p) := by
  have hbare := noBracket_of_bytes hhost.bytes
  have hsplit : netSplitHostPort (joinHostPort host port) = some (host, port) := by
    rw [joinHostPort]
    split_ifs with hcolon
    · exact netSplitHostPort_literal hbare (noBracket_of_bytes hport.bytes) hport.colon
    · exact netSplitHostPort_plain hbare hcolon (noBracket_of_bytes hport.bytes) hport.colon
  have hliteral (hhead : (joinHostPort host port).head? = some 91) :
      contains (joinHostPort host port) (ascii "]:") = true := by
    rw [joinHostPort] at hhead ⊢
    split_ifs at hhead ⊢ with hcolon
    · exact contains_literal_port (91 :: host) port
    · obtain ⟨c, rest, rfl⟩ := exists_cons_of_ne_nil hhost.ne_nil
      exact absurd hhead hhost.head_ne
  have hbytes : ∀ b ∈ joinHostPort host port, (32 < b ∧ b < 127) ∧ b ≠ 47 := by
    have hhosts := fun b hb => (hhost.bytes b hb).1
    have hports := fun b hb => (hport.bytes b hb).1
    rw [joinHostPort]
    split_ifs <;> simp [or_imp, forall_and] <;> grind
  have hne : joinHostPort host port ≠ [] := by
    rw [joinHostPort]
    split_ifs <;> simp
  have hrange : ¬ (p ≤ 0 ∨ p > 65535) := by omega
  simp +contextual [parseHTTPProxyTarget, hT.targetHost_eq d hne hbytes, hliteral,
    hT.split_ok hsplit, hatoi, hrange]

/-- A host alone, a literal with colons in brackets, gets the default port. -/
theorem TargetLib.Lawful.parse_alone (hT : T.Lawful) (hhost : IsHost host) (hd : 1 ≤ d) :
    parseHTTPProxyTarget T (if 58 ∈ host then 91 :: (host ++ [93]) else host) d =
      .ok (host, d) := by
  have hbare := noBracket_of_bytes hhost.bytes
  have hhosts := fun b hb => (hhost.bytes b hb).1
  have hpos : ¬ d ≤ 0 := by omega
  split_ifs with hcolon
  · have hbytes : ∀ b ∈ 91 :: (host ++ [93]), (32 < b ∧ b < 127) ∧ b ≠ 47 := by
      grind
    have hclose : contains (91 :: (host ++ [93])) (ascii "]:") = false :=
      contains_literal (91 :: host) (by simpa using hbare.2)
    simp [parseHTTPProxyTarget, hT.targetHost_eq d (cons_ne_nil _ _) hbytes, hclose,
      trimBrackets_eq hhost.ne_nil hbare (.inr (.inr (.inr rfl))), hpos]
  · have hsplit : ∃ e, T.splitHostPort host = .error e := by
      have hnone := hT.split host
      rw [netSplitHostPort, splitLast_eq_none.mpr hcolon] at hnone
      cases hs : T.splitHostPort host <;> simp_all [Except.toOption]
    obtain ⟨e, hsplit⟩ := hsplit
    simp [parseHTTPProxyTarget, hT.targetHost_eq d hhost.ne_nil hhosts, hhost.head_ne, hsplit,
      trimBrackets_eq hhost.ne_nil hbare (.inl rfl), hpos]

end Parse

/-- The parser over every text: a port is in range, the host is neither empty nor bracketed if
and only if the text is proper once a URL is reduced to its host, and hosts come back with the
port they were joined with or the default. -/
theorem parseHTTPProxyTarget_proper (T : TargetLib) (hT : T.Lawful) (d : Int)
    (hd : 1 ≤ d ∧ d ≤ 65535) :
    (∀ s host p, parseHTTPProxyTarget T s d = .ok (host, p) → (1 ≤ p ∧ p ≤ 65535) ∧
      ∃ text d', targetHost T (T.trimSpace s) d = .ok (text, d') ∧
        (host ≠ [] ∧ NoBracket host ↔ Proper text)) ∧
      ∀ host, IsHost host →
        parseHTTPProxyTarget T (if 58 ∈ host then 91 :: (host ++ [93]) else host) d =
            .ok (host, d) ∧
          ∀ port p, IsPort port → T.atoi port = .ok p → 1 ≤ p ∧ p ≤ 65535 →
            parseHTTPProxyTarget T (joinHostPort host port) d = .ok (host, p) := by
  refine ⟨fun s host p h => ⟨?_, hT.proper_iff h⟩, fun host hhost => ?_⟩
  · exact parseHTTPProxyTarget_port hd.1 hd.2 h
  · exact ⟨hT.parse_alone hhost hd.1, fun port p => hT.parse_joined hhost⟩

def netLib : TargetLib where
  trimSpace s := s
  toLower s := s
  urlParse _ := .error (.msg "no URL")
  splitHostPort s := (netSplitHostPort s).elim (.error (.msg "invalid address")) .ok
  atoi s := if s = ascii "80" then .ok 80 else .error (.msg "invalid syntax")
  quote _ := ""

theorem netLib_lawful : netLib.Lawful where
  split s := by
    cases h : netSplitHostPort s <;> simp [netLib, h, Except.toOption]
  trim _ _ := rfl

theorem netLib_parses :
    parseHTTPProxyTarget netLib (ascii "[::1]:80") 443 = .ok (ascii "::1", 80) :=
  ((parseHTTPProxyTarget_proper netLib netLib_lawful 443 (by decide)).2 (ascii "::1")
    ⟨by decide, by decide +kernel⟩).2 (ascii "80") 80 ⟨by decide +kernel, by decide⟩ rfl (by decide)

/-- A port without a host is accepted, and so is a literal with a bracket too many. -/
theorem netLib_malformed :
    netLib.Lawful ∧ parseHTTPProxyTarget netLib (ascii ":80") 443 = .ok ([], 80) ∧
      parseHTTPProxyTarget netLib (ascii "[[::1]") 443 = .ok (ascii "[::1", 443) :=
  ⟨netLib_lawful, by decide +kernel, by decide +kernel⟩

end LinkSocks
