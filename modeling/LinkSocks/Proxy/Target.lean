import LinkSocks.Wire.Message

/-!
# Targets of the local HTTP proxy

`parseHTTPProxyTarget` splits the target of a `CONNECT` request into a host
and a port, and `handleHTTPConnect` turns it into a connect request once entry
access control has let it pass.  No step bounds the length of the host.
-/

namespace LinkSocks

open Go

/-- The standard library calls of the target parser. -/
structure TargetLib where
  trimSpace : GoString → GoString
  toLower : GoString → GoString
  /-- Scheme and host of `url.Parse`. -/
  urlParse : GoString → Except Error (GoString × GoString)
  splitHostPort : GoString → Except Error (GoString × GoString)
  atoi : GoString → Except Error Int
  /-- The `%q` form of a string. -/
  quote : GoString → String

/-- `strings.Contains`. -/
def contains : GoString → GoString → Bool
  | [], sub => sub.isEmpty
  | c :: rest, sub => sub.isPrefixOf (c :: rest) || contains rest sub

theorem contains_iff {s sub : GoString} : contains s sub = true ↔ sub <:+: s := by
  induction s with
  | nil => simp [contains]
  | cons c s ih =>
    rw [contains, Bool.or_eq_true, List.isPrefixOf_iff_prefix, ih, List.infix_cons_iff]

/-- `strings.TrimPrefix` of one byte. -/
def trimFirst (b : UInt8) : GoString → GoString
  | [] => []
  | c :: rest => if c = b then rest else c :: rest

/-- `strings.TrimSuffix` of one byte. -/
def trimLast (b : UInt8) (s : GoString) : GoString := if s.getLast? = some b then s.dropLast else s

/-- The brackets of an IPv6 literal. -/
def trimBrackets (host : GoString) : GoString := trimLast 93 (trimFirst 91 host)

/-- Host and default port after an absolute URL was reduced to its host. -/
def targetHost (T : TargetLib) (host : GoString) (defaultPort : Int) :
    Except Error (GoString × Int) :=
  if contains host (ascii "://") then
    match T.urlParse host with
    | .error e => .error (.wrap "invalid proxy target URL" e)
    | .ok (scheme, urlHost) =>
      if defaultPort = 0 then
        if T.toLower scheme = ascii "https" then .ok (urlHost, 443)
        else if T.toLower scheme = ascii "http" then .ok (urlHost, 80)
        else .ok (urlHost, defaultPort)
      else .ok (urlHost, defaultPort)
  else .ok (host, defaultPort)

def parseHTTPProxyTarget (T : TargetLib) (rawHost : GoString)
    (defaultPort : Int) : Except Error (GoString × Int) :=
  if T.trimSpace rawHost = [] then .error (.msg "empty proxy target host")
  else
    match targetHost T (T.trimSpace rawHost) defaultPort with
    | .error e => .error e
    | .ok (host, defaultPort) =>
      -- a bracketed literal without a port, such as [::1]
      if host.head? = some 91 ∧ ¬ contains host (ascii "]:") then
        if defaultPort ≤ 0 then
          .error (.msg ("missing port for target " ++ T.quote (trimBrackets host)))
        else .ok (trimBrackets host, defaultPort)
      else
        match T.splitHostPort host with
        | .ok (hostname, portText) =>
          match T.atoi portText with
          | .ok port =>
            if port ≤ 0 ∨ port > 65535 then
              .error (.msg ("invalid port in target " ++ T.quote host))
            else .ok (hostname, port)
          | .error _ => .error (.msg ("invalid port in target " ++ T.quote host))
        | .error _ =>
          if defaultPort ≤ 0 then .error (.msg ("missing port for target " ++ T.quote host))
          else .ok (trimBrackets host, defaultPort)

/-- The connect request of an accepted `CONNECT`: the target is parsed with
default port 443 and must pass entry access control. -/
def httpConnectRequest (T : TargetLib) (checkEntryAccess : GoString → Int → Except Error Unit)
    (requestHost : GoString) (channelID : UUID) : Except Error ConnectMessage := do
  let (targetHost, targetPort) ← parseHTTPProxyTarget T requestHost 443
  checkEntryAccess targetHost targetPort
  return ⟨tcp, targetHost, targetPort, channelID, false⟩

theorem targetHost_port {T : TargetLib} {host host' : GoString}
    {defaultPort p : Int} (hpos : 0 < defaultPort)
    (h : targetHost T host defaultPort = .ok (host', p)) : p = defaultPort := by
  rw [targetHost] at h
  split at h
  · split at h
    · cases h
    · rw [if_neg (by omega)] at h
      cases h
      rfl
  · cases h
    rfl

theorem parseHTTPProxyTarget_port {T : TargetLib} {rawHost host : GoString}
    {defaultPort p : Int} (hpos : 0 < defaultPort) (hle : defaultPort ≤ 65535)
    (h : parseHTTPProxyTarget T rawHost defaultPort = .ok (host, p)) : 1 ≤ p ∧ p ≤ 65535 := by
  revert h
  fun_cases parseHTTPProxyTarget T rawHost defaultPort <;> intro h <;> cases h
  all_goals
    have hport := targetHost_port hpos ‹targetHost T _ _ = _›
    omega

/-- An accepted `CONNECT` asks for a stream to a 16-bit port. -/
theorem httpConnectRequest_stream {T : TargetLib}
    {checkEntryAccess : GoString → Int → Except Error Unit}
    {requestHost : GoString} {channelID : UUID} {m : ConnectMessage}
    (h : httpConnectRequest T checkEntryAccess requestHost channelID = .ok m) :
    m.protocol = tcp ∧ 0 ≤ m.port ∧ m.port < 65536 := by
  rw [httpConnectRequest] at h
  cases htarget : parseHTTPProxyTarget T requestHost 443 with
  | error e =>
    rw [htarget] at h
    cases h
  | ok target =>
    obtain ⟨host, p⟩ := target
    have hport := parseHTTPProxyTarget_port (by omega) (by omega) htarget
    rw [htarget] at h
    cases haccess : checkEntryAccess host p with
    | error e =>
      simp [bind, Except.bind, haccess] at h
    | ok u =>
      simp only [bind, Except.bind, haccess, pure, Except.pure] at h
      cases h
      exact ⟨rfl, show 0 ≤ p by omega, show p < 65536 by omega⟩

end LinkSocks
