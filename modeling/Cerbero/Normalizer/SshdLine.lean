import Cerbero.Lib.ByteIndex
import Cerbero.Normalizer.LinuxSshd

/-!
# Normalizer/SshdLine — what the sshd parser reads in a line

The parser cuts a text at the first of each marker (`SshdReading`, `parseFailedPassword_eq_ok`).
A user name is written before the marker of the address, so a name that holds this marker is cut
short and the rest of it is taken for the address: the login sshd reports is read back exactly when
there is no such marker in front of the address (**`read_failedLogin_iff`**).
-/

namespace Cerbero

namespace Normalizer

open Text

/-! ## The reading of a text -/

/-- The parts of a text that the parser looks at. -/
structure SshdParts where
  before : List Char
  identity : List Char
  sourceIp : List Char
  portAndRest : List Char
  sourcePort : ℕ

/-- The text that has these parts. -/
def SshdParts.text (parts : SshdParts) : List Char :=
  parts.before ++ failedPasswordMarker ++ (parts.identity ++ fromMarker ++ (parts.sourceIp ++
    portMarker ++ parts.portAndRest))

/-- The parts are cut at the first of each marker, no part is missing, and the port is one. -/
structure SshdParts.Valid (parts : SshdParts) : Prop where
  before : ¬ failedPasswordMarker <:+: parts.before ++ failedPasswordMarker.dropLast
  identity : ¬ fromMarker <:+: parts.identity ++ fromMarker.dropLast
  sourceIp : ¬ portMarker <:+: parts.sourceIp ++ portMarker.dropLast
  sourcePort : (firstWord parts.portAndRest).bind (parseUnsigned (UInt16.size - 1)) =
    some parts.sourcePort
  username_ne : (splitIdentity parts.identity).2 ≠ []
  sourceIp_ne : parts.sourceIp ≠ []

/-- What the parser makes of the parts. -/
def SshdParts.event (parts : SshdParts) (parserVersion : String)
    (messagePolicy : InvalidUserMessagePolicy) : ParsedEvent :=
  let (invalidUser, username) := splitIdentity parts.identity
  let username := String.ofList username
  let sourceIp := String.ofList parts.sourceIp
  let identityLabel :=
    if invalidUser ∧ messagePolicy = .preserveInvalidUserLabel then "invalid user " ++ username
    else "user " ++ username
  { parserId := linuxSshdParserId
    parserVersion := parserVersion
    sourceEventType := "linux.ssh.authentication"
    fields := .ofEntries [
      ("username", .string username),
      ("source_ip", .string sourceIp),
      ("source_port", .number (toString parts.sourcePort)),
      ("authentication_succeeded", .bool false),
      ("invalid_user", .bool invalidUser),
      ("message", .string ("SSH authentication failed for " ++ identityLabel ++ " from " ++
        sourceIp))]
    timestampCandidates := []
    warnings := []
    status := .success
    selection := none }

theorem get_ofEntries (entries : List (String × ParsedValue)) (key : String) :
    (ParsedValue.ofEntries entries).get key = SortedMap.find key entries.reverse :=
  SortedMap.get?_ofList key entries

theorem elim_eq_ok {ε α : Type} {o : Option α} {e : ε} {a : α} :
    o.elim (.error e) Except.ok = .ok a ↔ o = some a := by
  match o with
  | none => exact iff_of_false (fun h => nomatch h) fun h => nomatch h
  | some b => exact ⟨fun h => congrArg some (Except.ok.inj h),
      fun h => congrArg Except.ok (Option.some.inj h)⟩

theorem elim_bind_eq_error {ε α β : Type} {o : Option α} {e e' : ε} {f : α → Except ε β} :
    (o.elim (.error e) Except.ok >>= f) = .error e' ↔
      o = none ∧ e = e' ∨ ∃ a, o = some a ∧ f a = .error e' := by
  match o with
  | none =>
    exact ⟨fun h => .inl ⟨rfl, Except.error.inj h⟩,
      fun h => h.elim (fun h => congrArg Except.error h.2) fun ⟨_, h, _⟩ => nomatch h⟩
  | some a =>
    exact ⟨fun h => .inr ⟨a, rfl, h⟩,
      fun h => h.elim (fun h => nomatch h.1) fun ⟨_, h, heq⟩ => Option.some.inj h ▸ heq⟩

/-- **A text is parsed exactly when it has the parts.** -/
theorem parseFailedPassword_eq_ok {text : List Char} {version : String}
    {policy : InvalidUserMessagePolicy} {parsed : ParsedEvent} :
    parseFailedPassword text version policy = .ok parsed ↔
      ∃ parts : SshdParts, parts.text = text ∧ parts.Valid ∧
        parsed = parts.event version policy := by
  have hpassword : failedPasswordMarker ≠ [] := by decide
  have hfrom : fromMarker ≠ [] := by decide
  have hport : portMarker ≠ [] := by decide
  simp only [parseFailedPassword, bind_eq_ok, elim_eq_ok, Prod.exists, splitOnce_eq_some hpassword,
    splitOnce_eq_some hfrom, splitOnce_eq_some hport]
  constructor
  · rintro ⟨before, _, ⟨rfl, hbefore⟩, identity, _, ⟨rfl, hidentity⟩, sourceIp, rest,
      ⟨rfl, hip⟩, word, hword, n, hn, h⟩
    split at h
    · cases h
    · rename_i hne
      push Not at hne
      refine ⟨⟨before, identity, sourceIp, rest, n⟩, rfl,
        ⟨hbefore, hidentity, hip, ?_, hne.1, hne.2⟩, (Except.ok.inj h).symm⟩
      rw [hword, Option.bind_some, hn]
  · rintro ⟨parts, rfl, hvalid, rfl⟩
    obtain ⟨word, hword, hn⟩ := Option.bind_eq_some_iff.1 hvalid.sourcePort
    refine ⟨_, _, ⟨rfl, hvalid.before⟩, _, _, ⟨rfl, hvalid.identity⟩, _, _, ⟨rfl, hvalid.sourceIp⟩,
      word, hword, _, hn, ?_⟩
    rw [if_neg (not_or.2 ⟨hvalid.username_ne, hvalid.sourceIp_ne⟩)]
    rfl

/-- A text that is not parsed is malformed. -/
theorem parseFailedPassword_error {text : List Char} {version : String}
    {policy : InvalidUserMessagePolicy} {e : ParseError}
    (h : parseFailedPassword text version policy = .error e) : e.code = "CER-PARSE-MALFORMED" := by
  simp only [parseFailedPassword, elim_bind_eq_error, Prod.exists] at h
  obtain ⟨-, rfl⟩ | ⟨_, _, -, h⟩ := h
  · rfl
  obtain ⟨-, rfl⟩ | ⟨_, _, -, h⟩ := h
  · rfl
  obtain ⟨-, rfl⟩ | ⟨_, _, -, h⟩ := h
  · rfl
  obtain ⟨-, rfl⟩ | ⟨_, -, h⟩ := h
  · rfl
  obtain ⟨-, rfl⟩ | ⟨_, -, h⟩ := h
  · rfl
  split at h
  · obtain rfl := Except.error.inj h
    rfl
  · exact nomatch h

/-! ## Failed logins -/

/-- A failed login, as sshd reports it.  A name that is valid does not begin as the label of those
that are not. -/
structure FailedLogin where
  invalidUser : Bool
  username : String
  sourceIp : String
  sourcePort : UInt16
  username_ne : username ≠ ""
  username_plain : invalidUser = false → ¬ "invalid user ".toList <+: username.toList
  sourceIp_ne : sourceIp ≠ ""
  sourceIp_plain : ' ' ∉ sourceIp.toList

namespace FailedLogin

/-- The user, with the label of one that is not valid. -/
def identity (login : FailedLogin) : List Char :=
  (if login.invalidUser then "invalid user ".toList else []) ++ login.username.toList

/-- The line of the login. -/
def line (login : FailedLogin) : String :=
  String.ofList (failedPasswordMarker ++ login.identity ++ fromMarker ++ login.sourceIp.toList ++
    portMarker ++ (toString login.sourcePort.toNat).toList ++ " ssh2".toList)

/-- The login is what was parsed. -/
structure ReadAs (login : FailedLogin) (parsed : ParsedEvent) : Prop where
  username : parsed.stringField "username" = some login.username
  sourceIp : parsed.stringField "source_ip" = some login.sourceIp
  sourcePort : parsed.u64Field "source_port" = some login.sourcePort.toNat
  invalidUser : parsed.boolField "invalid_user" = some login.invalidUser

/-- The marker of the address is not to be found before the address. -/
def Unambiguous (login : FailedLogin) : Prop :=
  ¬ fromMarker <:+: login.identity ++ fromMarker.dropLast

instance (login : FailedLogin) : Decidable login.Unambiguous :=
  decidable_of_iff (occurs fromMarker (login.identity ++ fromMarker.dropLast) = false)
    (by rw [Unambiguous, ← occurs_iff, Bool.not_eq_true])

theorem splitIdentity_injective : Function.Injective splitIdentity := by
  intro identity identity' h
  have hsplit (text : List Char) : text = (if (splitIdentity text).1 then "invalid user ".toList
      else []) ++ (splitIdentity text).2 := by
    unfold splitIdentity stripPrefix
    by_cases hstart : "invalid user ".toList.isPrefixOf text
    · rw [if_pos hstart]
      exact (List.prefix_iff_eq_append.1 (List.isPrefixOf_iff_prefix.1 hstart)).symm
    · rw [if_neg hstart]
      rfl
  rw [hsplit identity, h, ← hsplit identity']

theorem splitIdentity_identity (login : FailedLogin) :
    splitIdentity login.identity = (login.invalidUser, login.username.toList) := by
  rw [splitIdentity, identity]
  match h : login.invalidUser with
  | true => rw [if_pos rfl, stripPrefix_append]
  | false =>
    rw [if_neg (by decide), List.nil_append, stripPrefix, if_neg]
    exact fun hstart => login.username_plain h (List.isPrefixOf_iff_prefix.1 hstart)

/-- The parts of the line where the markers are. -/
def parts (login : FailedLogin) : SshdParts where
  before := []
  identity := login.identity
  sourceIp := login.sourceIp.toList
  portAndRest := (toString login.sourcePort.toNat).toList ++ " ssh2".toList
  sourcePort := login.sourcePort.toNat

theorem text_parts (login : FailedLogin) : login.parts.text = login.line.toList := by
  simp [parts, SshdParts.text, line]

theorem trim_line (login : FailedLogin) : trim login.line.toList = login.line.toList := by
  have hfirst : failedPasswordMarker = 'F' :: "ailed password for ".toList := by decide
  have hlast : " ssh2".toList = " ssh".toList ++ ['2'] := by decide
  rw [line, String.toList_ofList, hfirst, hlast]
  simp only [← List.append_assoc, List.cons_append]
  exact trim_eq_self (by decide) (by decide) _

theorem valid_parts {login : FailedLogin} (h : login.Unambiguous) : login.parts.Valid where
  before := show ¬ failedPasswordMarker <:+: [] ++ failedPasswordMarker.dropLast by decide
  identity := h
  sourceIp := fun hinfix => by
    have hcount : portMarker.count ' ' ≤ (login.sourceIp.toList ++ portMarker.dropLast).count ' ' :=
      hinfix.sublist.count_le ' '
    rw [List.count_append, List.count_eq_zero.2 login.sourceIp_plain] at hcount
    exact absurd hcount (by decide)
  sourcePort := by
    have hdigits : (toString login.sourcePort.toNat).toList =
        Nat.toDigits 10 login.sourcePort.toNat := Nat.toList_repr
    rw [parts, hdigits, firstWord_append Nat.toDigits_ne_nil]
    · exact parseUnsigned_toDigits (Nat.le_of_lt_succ login.sourcePort.toNat_lt)
    · exact fun ch hch => isWhitespace_of_isDigit
        (Nat.isDigit_of_mem_toDigits (by decide) (by decide) hch)
    · intro ch hch
      obtain rfl : ch = ' ' := by simpa [eq_comm] using hch
      rfl
  username_ne := by
    rw [show login.parts.identity = login.identity from rfl, splitIdentity_identity]
    exact fun h => login.username_ne (String.toList_inj.1 h)
  sourceIp_ne := fun h => login.sourceIp_ne (String.toList_inj.1 h)

/-- What is read back has the identity of the login. -/
theorem identity_of_readAs {login : FailedLogin} {parts : SshdParts} {version : String}
    {policy : InvalidUserMessagePolicy} (h : login.ReadAs (parts.event version policy)) :
    parts.identity = login.identity := by
  have husername := h.username
  have hinvalid := h.invalidUser
  rw [ParsedEvent.stringField, SshdParts.event, get_ofEntries] at husername
  rw [ParsedEvent.boolField, SshdParts.event, get_ofEntries] at hinvalid
  have huser : String.ofList (splitIdentity parts.identity).2 = login.username :=
    Option.some.inj husername
  have hflag : (splitIdentity parts.identity).1 = login.invalidUser := Option.some.inj hinvalid
  refine splitIdentity_injective (Prod.ext ?_ ?_)
  · rw [splitIdentity_identity, hflag]
  · rw [splitIdentity_identity, ← huser, String.toList_ofList]

/-- The parts where the markers are stand for the login. -/
theorem readAs_parts (login : FailedLogin) (version : String)
    (policy : InvalidUserMessagePolicy) : login.ReadAs (login.parts.event version policy) := by
  have hsplit : splitIdentity login.parts.identity = (login.invalidUser, login.username.toList) :=
    splitIdentity_identity login
  have hip : String.ofList login.parts.sourceIp = login.sourceIp := String.ofList_toList
  constructor
  all_goals
    simp only [ParsedEvent.stringField, ParsedEvent.u64Field, ParsedEvent.boolField,
      SshdParts.event, get_ofEntries, hsplit, hip, String.ofList_toList]
  · rfl
  · rfl
  · have hle : login.sourcePort.toNat ≤ UInt64.size - 1 :=
      (Nat.le_of_lt_succ login.sourcePort.toNat_lt).trans (by decide)
    have hdigits : (toString login.sourcePort.toNat).toList =
        Nat.toDigits 10 login.sourcePort.toNat := Nat.toList_repr
    show parseUnsigned (UInt64.size - 1) (toString login.sourcePort.toNat).toList = _
    rw [hdigits, parseUnsigned_toDigits hle]
  · rfl

/-- **Which logins are read back**: those whose line is not too long and has no marker of the address
before the address. -/
theorem read_failedLogin_iff (login : FailedLogin) (persisted : RawEventPersisted)
    (configured : Option String) (version : String) (policy : InvalidUserMessagePolicy) :
    (∃ parsed, (linuxSshd version policy).parse ⟨bytes login.line, persisted, configured⟩ =
        some (.ok parsed) ∧ login.ReadAs parsed) ↔
      (bytes login.line).length ≤ linuxSshdMaxInputBytes ∧ login.Unambiguous := by
  simp only [linuxSshd, Option.some_inj, parseLinuxSshd, fromUtf8_bytes, trim_line]
  constructor
  · rintro ⟨parsed, h, hread⟩
    split_ifs at h with hlimit
    obtain ⟨parts, htext, hvalid, rfl⟩ := parseFailedPassword_eq_ok.1 h
    refine ⟨Nat.le_of_not_lt hlimit, ?_⟩
    rw [Unambiguous, ← identity_of_readAs hread]
    exact hvalid.identity
  · rintro ⟨hlimit, hplain⟩
    rw [if_neg (Nat.not_lt.2 hlimit)]
    exact ⟨_, parseFailedPassword_eq_ok.2 ⟨login.parts, login.text_parts, valid_parts hplain, rfl⟩,
      readAs_parts login version policy⟩

end FailedLogin

/-! ### A forged address -/

/-- A name that goes on with an address. -/
def forgingLogin : FailedLogin where
  invalidUser := false
  username := "a from 6.6.6.6 port 22 ssh2"
  sourceIp := "10.0.0.8"
  sourcePort := 50341
  username_ne := by decide
  username_plain := fun _ => by decide
  sourceIp_ne := by decide
  sourceIp_plain := by decide

/-- The parts the parser finds in its line. -/
def forgedParts : SshdParts where
  before := []
  identity := "a".toList
  sourceIp := "6.6.6.6".toList
  portAndRest := "22 ssh2 from 10.0.0.8 port 50341 ssh2".toList
  sourcePort := 22

theorem valid_forgedParts : forgedParts.Valid where
  before := by decide
  identity := by decide
  sourceIp := by decide
  sourcePort := by decide
  username_ne := by decide
  sourceIp_ne := by decide

/-- The address in the name is taken for that of the source. -/
theorem forgingLogin_read : ¬ forgingLogin.Unambiguous ∧
    (trim forgingLogin.username.toList = forgingLogin.username.toList ∧
      ∀ ch ∈ forgingLogin.username.toList, ch ≠ '\n' ∧ ch ≠ '\r') ∧
    ∃ parsed, linuxSshdParser.parse ⟨bytes forgingLogin.line, defaultPersisted, none⟩ =
        some (.ok parsed) ∧
      parsed.stringField "username" = some "a" ∧
      parsed.stringField "source_ip" = some "6.6.6.6" ∧
      parsed.u64Field "source_port" = some 22 ∧ ¬ forgingLogin.ReadAs parsed := by
  have hlimit : (bytes forgingLogin.line).length ≤ linuxSshdMaxInputBytes := by decide +kernel
  have htext : forgedParts.text = forgingLogin.line.toList := by
    rw [FailedLogin.line, String.toList_ofList]
    decide +kernel
  have hparse : parseFailedPassword (trim forgingLogin.line.toList) linuxSshdParserVersion
      .legacyUserLabel = .ok (forgedParts.event linuxSshdParserVersion .legacyUserLabel) := by
    rw [FailedLogin.trim_line]
    exact parseFailedPassword_eq_ok.2 ⟨forgedParts, htext, valid_forgedParts, rfl⟩
  have hname : (forgedParts.event linuxSshdParserVersion .legacyUserLabel).stringField "username" =
      some "a" := by
    rw [ParsedEvent.stringField, SshdParts.event, get_ofEntries]
    decide +kernel
  refine ⟨by decide, by decide, _, congrArg some ?_, hname, ?_, ?_, fun hread => ?_⟩
  · simp only [parseLinuxSshd, if_neg (Nat.not_lt.2 hlimit), fromUtf8_bytes]
    exact hparse
  · rw [ParsedEvent.stringField, SshdParts.event, get_ofEntries]
    decide +kernel
  · rw [ParsedEvent.u64Field, SshdParts.event, get_ofEntries]
    decide +kernel
  · have hne : some "a" ≠ some forgingLogin.username := by decide
    exact hne (hname.symm.trans hread.username)

end Normalizer

end Cerbero
