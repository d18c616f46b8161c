import ClusterBootstrap.Proofs.Except
import ClusterBootstrap.Proofs.Run.Course
import ClusterBootstrap.Run.Connect

/-!
# Which settings are accepted

Settings are checked rule by rule, and the first rule that is broken is the one that is reported.  The rules
are told here without the checks: what an endpoint and a port look like, which texts are blank, and in which
order the rules count.  Settings that break one of them are refused before anything is sent.
-/

namespace ClusterBootstrap

/-! ## Endpoints -/

namespace Endpoint

/-- The parts of a text before and behind its last colon. -/
def Divides (text host port : List Char) : Prop :=
  text = host ++ ':' :: port ∧ ':' ∉ port

/-- A port in decimal: one plus sign or none, and then digits, with leading zeros or without, for a number
from 1 to 65535. -/
def PortForm (port : List Char) : Prop :=
  ∃ digits, (port = digits ∨ port = '+' :: digits) ∧ digits ≠ [] ∧
    (∀ c ∈ digits, c.isDigit = true) ∧
    1 ≤ Nat.ofDigitChars 10 digits 0 ∧ Nat.ofDigitChars 10 digits 0 ≤ 65535

/-- A host that is not empty, and a port behind the last colon. -/
def WellFormed (text : List Char) : Prop :=
  ∃ host port, Divides text host port ∧ host ≠ [] ∧ PortForm port

theorem unsignedDigits_of_isDigit {digits : List Char} (hDigits : ∀ c ∈ digits, c.isDigit = true) :
    unsignedDigits digits = digits := by
  unfold unsignedDigits
  split
  · exact absurd (hDigits '+' List.mem_cons_self) (by decide)
  · rfl

theorem port?_eq_some_iff {port : List Char} {n : Nat} :
    port? port = some n ↔
      unsignedDigits port ≠ [] ∧ (∀ c ∈ unsignedDigits port, c.isDigit = true) ∧
        Nat.ofDigitChars 10 (unsignedDigits port) 0 = n ∧ 1 ≤ n ∧ n ≤ 65535 := by
  unfold port?
  rw [Option.filter_eq_some_iff, Decimal.natural?_eq_some_iff, Bool.and_eq_true, decide_eq_true_eq,
    decide_eq_true_eq]
  simp only [and_assoc]

/-- A port is read exactly where it has the form of one. -/
theorem isNone_port?_iff {port : List Char} : (port? port).isNone = true ↔ ¬ PortForm port := by
  rw [← Option.not_isSome, Bool.not_eq_true', ← Bool.not_eq_true, Option.isSome_iff_exists]
  simp only [port?_eq_some_iff]
  refine not_congr ⟨?_, ?_⟩
  · rintro ⟨n, hNonempty, hDigits, rfl, hRange⟩
    refine ⟨unsignedDigits port, ?_, hNonempty, hDigits, hRange⟩
    unfold unsignedDigits
    split
    · exact .inr rfl
    · exact .inl rfl
  · rintro ⟨digits, hSign, hNonempty, hDigits, hRange⟩
    have hUnsigned : unsignedDigits port = digits := by
      rcases hSign with rfl | rfl
      · exact unsignedDigits_of_isDigit hDigits
      · rfl
    rw [hUnsigned]
    exact ⟨_, hNonempty, hDigits, rfl, hRange⟩

end Endpoint

/-! ## Settings of the client -/

namespace ClientSettings

/-- Settings of the client that obey all rules. -/
structure WellFormed (settings : ClientSettings) : Prop where
  endpoint : Endpoint.WellFormed settings.endpoint.toList
  /-- The path starts with a slash. -/
  apiPath : ∃ rest, settings.apiPath.toList = '/' :: rest
  probeTimeout : 0 < settings.probeTimeout.toNat
  requestTimeout : 0 < settings.requestTimeout.toNat

/-- The first rule that settings of the client break. -/
inductive FirstFault (settings : ClientSettings) : SettingsFault → Prop where
  | noPort (hColon : ':' ∉ settings.endpoint.toList) :
    FirstFault settings (.noPort settings.endpoint)
  | emptyHost {port : List Char} (hParts : Endpoint.Divides settings.endpoint.toList [] port) :
    FirstFault settings (.emptyHost settings.endpoint)
  | invalidPort {host port : List Char}
      (hParts : Endpoint.Divides settings.endpoint.toList host port) (hHost : host ≠ [])
      (hPort : ¬ Endpoint.PortForm port) :
    FirstFault settings (.invalidPort settings.endpoint)
  | relativeApiPath (hEndpoint : Endpoint.WellFormed settings.endpoint.toList)
      (hPath : ¬ ∃ rest, settings.apiPath.toList = '/' :: rest) :
    FirstFault settings (.relativeApiPath settings.apiPath)
  | zeroTimeout (hEndpoint : Endpoint.WellFormed settings.endpoint.toList)
      (hPath : ∃ rest, settings.apiPath.toList = '/' :: rest)
      (hTimeout : settings.probeTimeout.toNat = 0 ∨ settings.requestTimeout.toNat = 0) :
    FirstFault settings .zeroTimeout

variable {settings : ClientSettings} {fault : SettingsFault}

theorem checkEndpoint_of_wellFormed {endpoint : String}
    (hEndpoint : Endpoint.WellFormed endpoint.toList) : checkEndpoint endpoint = .ok () := by
  obtain ⟨host, port, hParts, hHost, hPort⟩ := hEndpoint
  have hRead : ¬ (Endpoint.port? port).isNone = true :=
    fun hNone => Endpoint.isNone_port?_iff.mp hNone hPort
  rw [checkEndpoint, Endpoint.splitLastColon_eq_some_iff.mpr hParts]
  dsimp only
  rw [if_neg hHost, if_neg hRead]

theorem isAbsolute_iff {path : String} :
    isAbsolute path = true ↔ ∃ rest, path.toList = '/' :: rest := by
  rw [isAbsolute, decide_eq_true_eq, List.head?_eq_some_iff]

theorem uint64_eq_zero_iff {n : UInt64} : n = 0 ↔ n.toNat = 0 := by
  rw [← UInt64.toNat_inj]
  rfl

/-- The checks, each behind the one before it. -/
theorem validate_eq (settings : ClientSettings) :
    settings.validate =
      (checkEndpoint settings.endpoint).bind fun _ =>
        if ¬ isAbsolute settings.apiPath then .error (.relativeApiPath settings.apiPath)
        else if settings.probeTimeout = 0 ∨ settings.requestTimeout = 0 then .error .zeroTimeout
        else .ok () := by
  unfold validate
  cases checkEndpoint settings.endpoint with
  | error fault => rfl
  | ok =>
    show _ = ite _ _ _
    split
    · rfl
    · split <;> rfl

/-- The first rule that is broken is reported. -/
theorem FirstFault.validate_eq (h : settings.FirstFault fault) :
    settings.validate = .error fault := by
  rw [ClientSettings.validate_eq]
  cases h with
  | noPort hColon =>
    rw [checkEndpoint, Endpoint.splitLastColon_eq_none_iff.mpr hColon]
    rfl
  | emptyHost hParts =>
    rw [checkEndpoint, Endpoint.splitLastColon_eq_some_iff.mpr hParts]
    rfl
  | invalidPort hParts hHost hPort =>
    rw [checkEndpoint, Endpoint.splitLastColon_eq_some_iff.mpr hParts]
    dsimp only
    rw [if_neg hHost, if_pos (Endpoint.isNone_port?_iff.mpr hPort)]
    rfl
  | relativeApiPath hEndpoint hPath =>
    rw [checkEndpoint_of_wellFormed hEndpoint, Except.bind, if_pos]
    rwa [isAbsolute_iff]
  | zeroTimeout hEndpoint hPath hTimeout =>
    rw [checkEndpoint_of_wellFormed hEndpoint, Except.bind, if_neg, if_pos]
    · rwa [uint64_eq_zero_iff, uint64_eq_zero_iff]
    · rw [Classical.not_not]
      exact isAbsolute_iff.mpr hPath

theorem WellFormed.validate_eq (h : settings.WellFormed) : settings.validate = .ok () := by
  rw [ClientSettings.validate_eq, checkEndpoint_of_wellFormed h.endpoint, Except.bind, if_neg,
    if_neg]
  · rw [uint64_eq_zero_iff, uint64_eq_zero_iff]
    have hProbe := h.probeTimeout
    have hRequest := h.requestTimeout
    omega
  · rw [Classical.not_not]
    exact isAbsolute_iff.mpr h.apiPath

/-- Settings obey all rules, or there is a first one that they break. -/
theorem wellFormed_or_exists_firstFault (settings : ClientSettings) :
    settings.WellFormed ∨ ∃ fault, settings.FirstFault fault := by
  -- rule by rule, in the order of the checks
  cases hSplit : Endpoint.splitLastColon settings.endpoint.toList with
  | none => exact .inr ⟨_, .noPort (Endpoint.splitLastColon_eq_none_iff.mp hSplit)⟩
  | some parts =>
  obtain ⟨host, port⟩ := parts
  have hParts : Endpoint.Divides settings.endpoint.toList host port :=
    Endpoint.splitLastColon_eq_some_iff.mp hSplit
  by_cases hHost : host = []
  · subst hHost
    exact .inr ⟨_, .emptyHost hParts⟩
  by_cases hPort : Endpoint.PortForm port
  case neg => exact .inr ⟨_, .invalidPort hParts hHost hPort⟩
  have hEndpoint : Endpoint.WellFormed settings.endpoint.toList :=
    ⟨host, port, hParts, hHost, hPort⟩
  by_cases hPath : ∃ rest, settings.apiPath.toList = '/' :: rest
  case neg => exact .inr ⟨_, .relativeApiPath hEndpoint hPath⟩
  by_cases hTimeout : settings.probeTimeout.toNat = 0 ∨ settings.requestTimeout.toNat = 0
  · exact .inr ⟨_, .zeroTimeout hEndpoint hPath hTimeout⟩
  · refine .inl ⟨hEndpoint, hPath, ?_, ?_⟩
    · omega
    · omega

theorem validate_iff (settings : ClientSettings) :
    (settings.validate = .ok () ↔ settings.WellFormed) ∧
      ∀ fault, settings.validate = .error fault ↔ settings.FirstFault fault :=
  check_iff settings.wellFormed_or_exists_firstFault WellFormed.validate_eq
    fun _ => FirstFault.validate_eq

end ClientSettings

/-! ## Roles -/

/-- The code points of white space. -/
def whiteSpace : List Nat :=
  [0x9, 0xa, 0xb, 0xc, 0xd, 0x20, 0x85, 0xa0, 0x1680, 0x2000, 0x2001, 0x2002, 0x2003, 0x2004, 0x2005,
    0x2006, 0x2007, 0x2008, 0x2009, 0x200a, 0x2028, 0x2029, 0x202f, 0x205f, 0x3000]

theorem isBlankChar_iff {c : Char} : Text.isBlankChar c = true ↔ c.toNat ∈ whiteSpace := by
  simp only [Text.isBlankChar, whiteSpace, Bool.or_eq_true, Bool.and_eq_true, decide_eq_true_eq,
    beq_iff_eq, List.mem_cons, List.not_mem_nil, or_false]
  omega

theorem isBlank_eq_true_iff {role : String} :
    Text.isBlank role = true ↔ ∀ c ∈ role.toList, c.toNat ∈ whiteSpace := by
  simp only [Text.isBlank_iff, isBlankChar_iff]

theorem isBlank_eq_false_iff {role : String} :
    Text.isBlank role = false ↔ ∃ c ∈ role.toList, c.toNat ∉ whiteSpace := by
  rw [← Bool.not_eq_true, isBlank_eq_true_iff]
  simp only [Classical.not_forall, exists_prop]

/-! ## Settings of a run -/

namespace BootstrapSettings

/-- Settings of a run that obey all rules: there are roles, and each of them has a character that is not
white space. -/
structure WellFormed (settings : BootstrapSettings) : Prop where
  client : settings.client.WellFormed
  roles_ne_nil : settings.roles ≠ []
  roles : ∀ role ∈ settings.roles, ∃ c ∈ role.toList, c.toNat ∉ whiteSpace

/-- The first rule that settings of a run break: of the client's, and then of the roles'. -/
inductive FirstFault (settings : BootstrapSettings) : SettingsFault → Prop where
  | client {fault : SettingsFault} (hFault : settings.client.FirstFault fault) :
    FirstFault settings fault
  | noRoles (hClient : settings.client.WellFormed) (hRoles : settings.roles = []) :
    FirstFault settings .noRoles
  | blankRole {before after : List String} {role : String} (hClient : settings.client.WellFormed)
      (hRoles : settings.roles = before ++ role :: after)
      (hBefore : ∀ earlier ∈ before, ∃ c ∈ earlier.toList, c.toNat ∉ whiteSpace)
      (hBlank : ∀ c ∈ role.toList, c.toNat ∈ whiteSpace) :
    FirstFault settings (.blankRole role)

variable {settings : BootstrapSettings} {fault : SettingsFault}

/-- Where the client's settings obey their rules, the roles decide. -/
theorem validate_of_client (hClient : settings.client.WellFormed) :
    settings.validate = checkRoles settings.roles := by
  rw [validate, hClient.validate_eq]
  rfl

theorem checkRoles_eq_of_blank {before after : List String} {role : String}
    (hBefore : ∀ earlier ∈ before, ∃ c ∈ earlier.toList, c.toNat ∉ whiteSpace)
    (hBlank : ∀ c ∈ role.toList, c.toNat ∈ whiteSpace) :
    checkRoles (before ++ role :: after) = .error (.blankRole role) := by
  have hFind : (before ++ role :: after).find? Text.isBlank = some role := by
    refine List.find?_eq_some_iff_append.mpr
      ⟨isBlank_eq_true_iff.mpr hBlank, before, after, rfl, fun earlier hMem => ?_⟩
    rw [isBlank_eq_false_iff.mpr (hBefore earlier hMem)]
    rfl
  rw [checkRoles, if_neg (by simp), hFind]

theorem FirstFault.validate_eq (h : settings.FirstFault fault) :
    settings.validate = .error fault := by
  cases h with
  | client hFault =>
    rw [validate, hFault.validate_eq]
    rfl
  | noRoles hClient hRoles =>
    rw [validate_of_client hClient, hRoles]
    rfl
  | blankRole hClient hRoles hBefore hBlank =>
    rw [validate_of_client hClient, hRoles]
    exact checkRoles_eq_of_blank hBefore hBlank

theorem WellFormed.validate_eq (h : settings.WellFormed) : settings.validate = .ok () := by
  have hFind : settings.roles.find? Text.isBlank = none := by
    refine List.find?_eq_none.mpr fun role hMem => ?_
    rw [isBlank_eq_false_iff.mpr (h.roles role hMem)]
    decide
  rw [validate_of_client h.client, checkRoles, if_neg h.roles_ne_nil, hFind]

theorem wellFormed_or_exists_firstFault (settings : BootstrapSettings) :
    settings.WellFormed ∨ ∃ fault, settings.FirstFault fault := by
  rcases settings.client.wellFormed_or_exists_firstFault with hClient | ⟨fault, hFault⟩
  · by_cases hRoles : settings.roles = []
    · exact .inr ⟨_, .noRoles hClient hRoles⟩
    · -- the list has a first blank role, or none
      cases hFind : settings.roles.find? Text.isBlank with
      | some role =>
        obtain ⟨hBlank, before, after, hSplit, hBefore⟩ := List.find?_eq_some_iff_append.mp hFind
        refine .inr ⟨_, .blankRole hClient hSplit (fun earlier hMem => ?_)
          (isBlank_eq_true_iff.mp hBlank)⟩
        exact isBlank_eq_false_iff.mp (by simpa using hBefore earlier hMem)
      | none =>
        refine .inl ⟨hClient, hRoles, fun role hMem => ?_⟩
        exact isBlank_eq_false_iff.mp (by simpa using List.find?_eq_none.mp hFind role hMem)
  · exact .inr ⟨fault, .client hFault⟩

theorem validate_iff (settings : BootstrapSettings) :
    (settings.validate = .ok () ↔ settings.WellFormed) ∧
      ∀ fault, settings.validate = .error fault ↔ settings.FirstFault fault :=
  check_iff settings.wellFormed_or_exists_firstFault WellFormed.validate_eq
    fun _ => FirstFault.validate_eq

end BootstrapSettings

/-! ## Refusal -/

variable {settings : BootstrapSettings} {fault : SettingsFault}

/-- Settings of the client that break a rule make no client. -/
theorem ClientSettings.FirstFault.ofSettings_eq {settings : ClientSettings}
    (h : settings.FirstFault fault) :
    Client.ofSettings settings = .error (.configuration fault.text) := by
  rw [Client.ofSettings, h.validate_eq]
  rfl

theorem BootstrapSettings.FirstFault.connect_eq (h : settings.FirstFault fault)
    (network : Net.Network) :
    connect settings network = .error (.configuration fault.text) := by
  rw [connect, h.validate_eq]
  rfl

/-- A run with settings that break a rule makes no call, and reports nothing but that rule. -/
theorem BootstrapSettings.FirstFault.bootstrap_eq {σ : Type} (h : settings.FirstFault fault)
    (plane : ControlPlane σ) (start : σ) :
    let run := bootstrap plane settings start
    run.calls = [] ∧ run.plane = start ∧
      run.report = { phase := .failed, error := some (.configuration fault.text) } := by
  rw [(Course.refused h.validate_eq).bootstrap_eq]
  exact ⟨rfl, rfl, rfl⟩

/-- Settings are accepted exactly if they obey all rules, and otherwise the first rule that they break is
reported: first those for the endpoint, the path and the timeouts, which are all that count for a client, and
then those for the roles.  No client is made of settings that are refused, and no run with them makes a
call. -/
theorem validate_grammar (settings : BootstrapSettings) :
    (settings.validate = .ok () ↔ settings.WellFormed) ∧
    (∀ fault, settings.validate = .error fault ↔ settings.FirstFault fault) ∧
    (settings.client.validate = .ok () ↔ settings.client.WellFormed) ∧
    (∀ fault, settings.client.validate = .error fault ↔ settings.client.FirstFault fault) ∧
    (∀ fault, settings.client.FirstFault fault →
      Client.ofSettings settings.client = .error (.configuration fault.text)) ∧
    ∀ fault, settings.FirstFault fault →
      (∀ network, connect settings network = .error (.configuration fault.text)) ∧
      ∀ {σ : Type} (plane : ControlPlane σ) (start : σ),
        let run := bootstrap plane settings start
        run.calls = [] ∧ run.plane = start ∧
          run.report = { phase := .failed, error := some (.configuration fault.text) } := by
  obtain ⟨hAccepted, hRefused⟩ := settings.validate_iff
  obtain ⟨hClientAccepted, hClientRefused⟩ := settings.client.validate_iff
  refine ⟨hAccepted, hRefused, hClientAccepted, hClientRefused, ?_, ?_⟩
  · intro fault hFault
    exact hFault.ofSettings_eq
  · intro fault hFault
    exact ⟨hFault.connect_eq, fun plane start => hFault.bootstrap_eq plane start⟩

/-- The port is too great by one, and the path is relative and the role blank; the port is reported. -/
theorem connect_port_before_path :
    let settings : BootstrapSettings :=
      { client := { endpoint := "::1:+065536", apiPath := "admin" }, roles := ["\t"] }
    settings.FirstFault (.invalidPort "::1:+065536") ∧
      settings.validate = .error (.invalidPort "::1:+065536") ∧
      connect settings (.ofReplies []) =
        .error (.configuration "endpoint `::1:+065536` has an invalid port") := by
  intro settings
  have hParts : Endpoint.Divides "::1:+065536".toList "::1".toList "+065536".toList :=
    ⟨by decide, by decide⟩
  have hPort : ¬ Endpoint.PortForm "+065536".toList :=
    Endpoint.isNone_port?_iff.mp (by decide +kernel)
  have hFault : settings.FirstFault (.invalidPort "::1:+065536") :=
    .client (.invalidPort hParts (by decide) hPort)
  obtain ⟨-, hRefused, -, -, -, hRuns⟩ := validate_grammar settings
  exact ⟨hFault, (hRefused _).mpr hFault, (hRuns _ hFault).1 (.ofReplies [])⟩

end ClusterBootstrap
