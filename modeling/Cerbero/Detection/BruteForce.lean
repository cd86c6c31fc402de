import Cerbero.Detection.LoginRows
import Mathlib.Tactic.IntervalCases

/-!
# Detection/BruteForce — from lines of sshd to a report

The Sigma pack of the repository counts ten failed logins of one user from one address within five
minutes.  From the bytes of a line to the matches of the pack there are a parser, a mapping, a
stored row, a batch, an import, a compilation and an evaluation.  None of them fails on a line, and
taken together they report exactly the bursts in the lines (**`bruteForce_reported`**).
-/

namespace Cerbero

namespace Detection

open Text Panicking EarliestWindow Normalizer

/-! ## A pack says one thing -/

/-- **What a pack says is determined.** -/
theorem Denotes.unique {documents : List SigmaDocument} {count count' : EventCount}
    (h : Denotes documents count) (h' : Denotes documents count') : count = count' := by
  obtain ⟨hdocument, hcorrelation, -, -, -, hrules, hbase, -, hdetection, hselection, -, hgroupBy,
    hgte, htimespan, -, htimeField, -, hruleId, hruleVersion⟩ := h
  obtain ⟨hdocument', hcorrelation', -, -, -, hrules', hbase', -, hdetection', hselection', -,
    hgroupBy', hgte', htimespan', -, htimeField', -, hruleId', hruleVersion'⟩ := h'
  obtain rfl := List.singleton_inj.1 (hdocument.symm.trans hdocument')
  obtain rfl := Option.some.inj (hcorrelation.symm.trans hcorrelation')
  obtain rfl := List.singleton_inj.1 (hrules.symm.trans hrules')
  obtain rfl := Option.some.inj (hbase.symm.trans hbase')
  obtain rfl := Option.some.inj (hdetection.symm.trans hdetection')
  have hmillis : count.timespanMillis = count'.timespanMillis := by
    rw [← parseTimespanMillis_eq_ok] at htimespan htimespan'
    exact Except.ok.inj (attempt_eq_attempt.1 (htimespan.symm.trans htimespan'))
  obtain ⟨_, _, _, _, _, _, _⟩ := count
  obtain ⟨_, _, _, _, _, _, _⟩ := count'
  simp only [EventCount.mk.injEq]
  exact ⟨Option.some.inj (hselection.symm.trans hselection'), hgroupBy.trans hgroupBy'.symm,
    hgte.trans hgte'.symm, hmillis, Option.some.inj (htimeField.symm.trans htimeField'),
    Option.some.inj (hruleId.symm.trans hruleId'),
    Option.some.inj (hruleVersion.symm.trans hruleVersion')⟩

/-! ## The pack of the repository -/

/-- The base document of `linux_sshd_failed_login_burst.yml`. -/
def failedLoginDocument : SigmaDocument where
  title := "CERBERO Linux SSH Failed Login"
  id := some "3f954d8c-9af7-4dcc-bacd-6bdfd2ad6b4b"
  name := some "cerbero_linux_sshd_failed_login"
  taxonomy := some "ocsf"
  status := none
  logsource := some ⟨some "linux", some "sshd"⟩
  detection := some ⟨"selection", SortedMap.empty.insert "selection"
    ((SortedMap.empty.insert "activity_name" "Logon").insert "status" "Failure")⟩
  correlation := none
  level := none
  cerberoRuleId := none
  cerberoRuleVersion := none
  cerberoTimeBasis := none
  cerberoTimeField := none
  cerberoLateEventPolicy := none

/-- The correlation document of `linux_sshd_failed_login_burst.yml`. -/
def failedLoginBurstDocument : SigmaDocument where
  title := "CERBERO Linux SSH Authentication Burst"
  id := some "b6354e60-2047-4e3a-9bb3-a6531265a2fb"
  name := none
  taxonomy := some "ocsf"
  status := some "stable"
  logsource := none
  detection := none
  correlation := some ⟨"event_count", ["cerbero_linux_sshd_failed_login"],
    ["user.name", "src_endpoint.ip"], "5m", ⟨10⟩⟩
  level := some "high"
  cerberoRuleId := some "CER-DET-000001"
  cerberoRuleVersion := some "1"
  cerberoTimeBasis := some "EVENT_TIME"
  cerberoTimeField := some "time"
  cerberoLateEventPolicy := some "ACCEPT"

/-- The documents of `linux_sshd_failed_login_burst.yml`. -/
def failedLoginPack : List SigmaDocument := [failedLoginDocument, failedLoginBurstDocument]

/-- **What the pack says**: ten failed logins of a user from an address within five minutes. -/
def failedLoginBurst : EventCount where
  selection := (SortedMap.empty.insert "activity_name" "Logon").insert "status" "Failure"
  groupBy := ["user.name", "src_endpoint.ip"]
  gte := 10
  timespanMillis := 300000
  timeField := "time"
  ruleId := "CER-DET-000001"
  ruleVersion := "1"

theorem mem_failedLoginSelection {field text : String}
    (h : failedLoginBurst.selection.get? field = some text) :
    field = "activity_name" ∧ text = "Logon" ∨ field = "status" ∧ text = "Failure" := by
  rw [failedLoginBurst, SortedMap.get?_insert, SortedMap.get?_insert] at h
  split_ifs at h with hstatus hactivity
  · exact .inr ⟨hstatus, (Option.some.inj h).symm⟩
  · exact .inl ⟨hactivity, (Option.some.inj h).symm⟩
  · cases h

theorem denotes_failedLoginPack : Denotes failedLoginPack failedLoginBurst := by
  refine .mk (show _ = [failedLoginBurstDocument] from rfl) rfl rfl rfl rfl rfl rfl
    ⟨rfl, _, rfl, rfl, rfl⟩ rfl rfl ?_ rfl rfl ?_ rfl rfl rfl rfl rfl
  · intro field text h
    obtain ⟨rfl, -⟩ | ⟨rfl, -⟩ := mem_failedLoginSelection h
    · decide
    · decide
  · have hfive : IsNumeral ['5'] 5 := ⟨by decide, by decide, rfl⟩
    exact .inl (.mk hfive (by decide) .minute (by decide))

variable {importLib : ImportLibraries} {source : String}

/-- The THRESHOLD rule of the pack. -/
def failedLoginThresholdRule : ThresholdRule String String where
  filter := .and [.comparison ⟨"activity_name", .eq, "Logon"⟩,
    .comparison ⟨"status", .eq, "Failure"⟩]
  groupBy := ["user.name", "src_endpoint.ip"]
  aggregation := .count
  threshold := 10
  window := ⟨300000, .eventTime, "time", .accept⟩

/-- What is imported of the pack. -/
theorem parseSigmaThresholdRule_failedLoginPack
    (hyaml : importLib.fromYaml source = .ok failedLoginPack) :
    parseSigmaThresholdRule importLib source = attempt (.ok
      { ruleId := ⟨"CER-DET-000001"⟩
        ruleVersion := "1"
        status := .stable
        title := failedLoginBurstDocument.title
        severity := "high".map Char.toUpper
        contentHash := importLib.sha256LowerHex (bytes source)
        thresholdRule := failedLoginThresholdRule }) := by
  rw [parseSigmaThresholdRule, hyaml]
  rfl

-- The rule is closed here: the kernel counts the milliseconds one by one if a variable is in it.
theorem exists_compileThresholdExecutionPlan_failedLogin (planId planHash : String) : ∃ plan,
    compileThresholdExecutionPlan failedLoginThresholdRule .clickHouse mvpFieldResolver
      mvpValueResolver mvpComparisonPolicy
      (mvpStages ⟨planId, "CER-DET-000001", "1", planHash⟩) = .ok plan :=
  ⟨_, rfl⟩

/-- **The pack compiles**, whatever the libraries are, if its documents are read. -/
theorem exists_compileThresholdRule (hyaml : importLib.fromYaml source = .ok failedLoginPack) :
    ∃ plan, compileThresholdRule importLib source = attempt (.ok plan) := by
  rw [compileThresholdRule, parseSigmaThresholdRule_failedLoginPack hyaml]
  obtain ⟨plan, hplan⟩ := exists_compileThresholdExecutionPlan_failedLogin _ _
  exact ⟨plan, congrArg attempt (mapError_eq_ok.2 hplan)⟩

/-- The plan of the pack says what the pack says. -/
theorem compiled_failedLoginBurst {plan : MvpCompiledThresholdPlan}
    (hyaml : importLib.fromYaml source = .ok failedLoginPack)
    (h : compileThresholdRule importLib source = attempt (.ok plan)) :
    failedLoginBurst.Compiled plan := by
  obtain ⟨documents, count, hdocuments, hdenotes, hcount⟩ := compileThresholdRule_eq_ok h
  obtain rfl := Except.ok.inj (hyaml.symm.trans hdocuments)
  exact denotes_failedLoginPack.unique hdenotes ▸ hcount

/-! ## Counting lines -/

section

variable {lib : Libraries} {core : NormalizerCore} {batchLib : BatchLibraries}
  {plan : MvpCompiledThresholdPlan}

/-- The line is of this user and address, at the time and under the identifier of the candidate. -/
structure StoredLine.IsAt (line : StoredLine lib core) (user address : String) (c : Candidate) :
    Prop where
  user_eq : line.failed.username = user
  address_eq : line.failed.sourceIp = address
  normalizedEventId_eq : line.row.normalizedEventId = c.normalizedEventId
  observed : ∃ observed, observedTime line.persisted = some observed ∧
    unixMillis observed = c.eventTimeMillis

/-- Some line of the list is at the candidate. -/
def SomeLineAt (lines : List (StoredLine lib core)) (user address : String) (c : Candidate) :
    Prop :=
  ∃ line ∈ lines, line.IsAt user address c

/-- **The event of a login takes part**, in the group of its user and address. -/
theorem participation_login {login : Login} {event : NormalizedEvent}
    (hfields : LoginFields lib.f64Bits login event)
    (hexact : ∀ bits, lib.f64Bits (toString login.time) = some bits →
      f64Integral bits = some login.time) (hplan : failedLoginBurst.Compiled plan) :
    participation plan mvpThresholdPolicy event =
      .ok (some ([login.username, login.sourceIp], login.time)) := by
  obtain ⟨filter, hfilter, hpredicates⟩ := hplan.filter
  refine participation_eq_ok.2 ⟨?_, ?_, ?_⟩
  · rw [hpredicates]
    refine (evaluate_filterOfSelection hfilter event).2 fun field text hget => ?_
    obtain ⟨rfl, rfl⟩ | ⟨rfl, rfl⟩ := mem_failedLoginSelection hget
    · exact hfields.activityName
    · exact hfields.status
  · rw [hplan.groupBy_eq]
    exact thresholdGroupKey_eq_ok.2 (.cons hfields.username (.cons hfields.sourceIp .nil))
  · rw [hplan.timeBasis_eq, hplan.timeField_eq]
    obtain ⟨bits, hbits, hclock⟩ := hfields.time
    exact eventIntegerField_eq_ok.2 ⟨bits, hclock, hexact bits hbits⟩

variable {formats : FormatParsers} {version : String}

/-- **The event of a line takes part**, in the group of its user and address and at its time. -/
theorem StoredLine.Loads.participation (hshares : SharesJson lib batchLib)
    (hregistry : withLinuxSshdVersion formats version = .ok core.parsers)
    (hplan : failedLoginBurst.Compiled plan) {line : StoredLine lib core} {login : Login}
    {event : NormalizedEvent} (h : line.Loads login event) :
    ∃ observed, observedTime line.persisted = some observed ∧
      participation plan mvpThresholdPolicy event =
        .ok (some ([line.failed.username, line.failed.sourceIp], unixMillis observed)) := by
  obtain ⟨huser, haddress, observed, hobserved, htime⟩ :=
    loginOf_line hregistry line.unambiguous h.reads
  have hvalid := validateTimestamp_observedTime line.checked hobserved "event_time"
  obtain ⟨hmin, hmax⟩ := unixMillis_bounds hvalid
  refine ⟨observed, hobserved, ?_⟩
  rw [← huser, ← haddress, ← htime]
  refine participation_login h.fields (fun bits hbits => ?_) hplan
  rw [htime] at hbits ⊢
  exact hshares.f64Integral_eq _ _ hmin hmax hbits

/-- **The events are those of the lines.** -/
structure LoadsAll (lines : List (StoredLine lib core)) (events : Set NormalizedEvent) : Prop where
  from_line : ∀ event ∈ events, ∃ line ∈ lines, ∃ login, line.Loads login event
  of_line : ∀ line ∈ lines, ∃ event ∈ events, ∃ login, line.Loads login event

/-- **Lines with identifiers of their own are loaded.** -/
theorem exists_loadsAll (hshares : SharesJson lib batchLib) {lines : List (StoredLine lib core)}
    (hids : (lines.map fun line => line.row.normalizedEventId).Nodup) :
    ∃ batch, loadRows batchLib (lines.map fun line => batchRow line.row) = .ok batch ∧
      LoadsAll lines (batchEvents batch) := by
  have hrows : ((lines.map fun line => batchRow line.row).map
      StoredNormalizedRow.normalizedEventId).Nodup := by
    rw [List.map_map]
    exact hids
  have hloads : ∀ row ∈ lines.map fun line => batchRow line.row,
      ∃ batchEvent, row.intoBatchEvent batchLib = .ok batchEvent := by
    refine List.forall_mem_map.2 fun line _ => ?_
    obtain ⟨batchEvent, _, hevent, -⟩ := line.exists_batchEvent hshares
    exact ⟨batchEvent, hevent⟩
  obtain ⟨batch, hbatch, hevents⟩ := exists_loadRows hrows hloads
  refine ⟨batch, hbatch, ?_, ?_⟩
  · intro event hevent
    obtain ⟨row, hrow, batchEvent, hbatchEvent, rfl⟩ := (hevents event).1 hevent
    obtain ⟨line, hline, rfl⟩ := List.mem_map.1 hrow
    obtain ⟨batchEvent', login, hbatchEvent', hloaded⟩ := line.exists_batchEvent hshares
    obtain rfl := Except.ok.inj (hbatchEvent.symm.trans hbatchEvent')
    exact ⟨line, hline, login, hloaded⟩
  · intro line hline
    obtain ⟨batchEvent, login, hbatchEvent, hloaded⟩ := line.exists_batchEvent hshares
    refine ⟨batchEvent.event, (hevents _).2 ⟨_, List.mem_map_of_mem hline, _, hbatchEvent, rfl⟩, ?_⟩
    exact ⟨login, hloaded⟩

variable {lines : List (StoredLine lib core)} {events : Set NormalizedEvent} {tenantId : String}

/-- **What is counted are the lines.** -/
theorem counted_iff (hshares : SharesJson lib batchLib)
    (hregistry : withLinuxSshdVersion formats version = .ok core.parsers)
    (hplan : failedLoginBurst.Compiled plan)
    (htenant : ∀ line ∈ lines, line.persisted.tenantId = tenantId) (hall : LoadsAll lines events)
    {key : String ×ₗ List String} {c : Candidate} :
    failedLoginBurst.Counted events key c ↔ ∃ user address,
      key = toLex (tenantId, [user, address]) ∧ SomeLineAt lines user address c := by
  rw [← hplan.matching_iff]
  constructor
  · rintro ⟨event, hevent, hid, hkey, hcounts⟩
    obtain ⟨line, hline, login, hloads⟩ := hall.from_line event hevent
    obtain ⟨observed, hobserved, hparticipation⟩ := hloads.participation hshares hregistry hplan
    have hgroup := Option.some.inj (Except.ok.inj (hparticipation.symm.trans hcounts))
    obtain ⟨hvalues, hmillis⟩ := Prod.mk.inj hgroup
    refine ⟨line.failed.username, line.failed.sourceIp, ?_, line, hline, rfl, rfl, ?_, observed,
      hobserved, hmillis⟩
    · rw [hvalues, ← htenant line hline, ← hloads.tenantId, hkey]
      rfl
    · rw [← hloads.normalizedEventId, hid]
  · rintro ⟨user, address, rfl, line, hline, hat⟩
    obtain ⟨event, hevent, login, hloads⟩ := hall.of_line line hline
    obtain ⟨observed, hobserved, hparticipation⟩ := hloads.participation hshares hregistry hplan
    obtain ⟨observed', hobserved', hmillis⟩ := hat.observed
    obtain rfl := Option.some.inj (hobserved.symm.trans hobserved')
    refine ⟨event, hevent, hloads.normalizedEventId.trans hat.normalizedEventId_eq,
      hloads.tenantId.trans (htenant line hline), ?_⟩
    rw [hparticipation, hat.user_eq, hat.address_eq, hmillis]
    rfl

/-- **What is counted of a user and an address are its lines.** -/
theorem counted_group (hshares : SharesJson lib batchLib)
    (hregistry : withLinuxSshdVersion formats version = .ok core.parsers)
    (hplan : failedLoginBurst.Compiled plan)
    (htenant : ∀ line ∈ lines, line.persisted.tenantId = tenantId) (hall : LoadsAll lines events)
    (user address : String) :
    failedLoginBurst.Counted events (toLex (tenantId, [user, address])) =
      SomeLineAt lines user address := by
  ext c
  rw [counted_iff hshares hregistry hplan htenant hall]
  constructor
  · rintro ⟨user', address', hkey, h⟩
    obtain ⟨-, hvalues⟩ := Prod.mk.inj (toLex.injective hkey)
    obtain ⟨rfl, hrest⟩ := List.cons_eq_cons.1 hvalues
    obtain rfl := List.singleton_inj.1 hrest
    exact h
  · intro h
    exact ⟨user, address, rfl, h⟩

/-- The time of what matches is that of a line. -/
theorem validateTimestamp_of_matching (hshares : SharesJson lib batchLib)
    (hregistry : withLinuxSshdVersion formats version = .ok core.parsers)
    (hplan : failedLoginBurst.Compiled plan)
    (htenant : ∀ line ∈ lines, line.persisted.tenantId = tenantId) (hall : LoadsAll lines events)
    {key : String ×ₗ List String} {c : Candidate}
    (hc : Matching plan mvpThresholdPolicy events key c) (field : String) :
    validateTimestamp field (timestampFromMillis c.eventTimeMillis) = .ok () := by
  rw [hplan.matching_iff, counted_iff hshares hregistry hplan htenant hall] at hc
  obtain ⟨user, address, -, line, -, hat⟩ := hc
  obtain ⟨observed, hobserved, hmillis⟩ := hat.observed
  rw [← hmillis]
  exact validateTimestamp_timestampFromMillis
    (validateTimestamp_observedTime line.checked hobserved field)

/-- No event of a line is refused. -/
theorem admissible_of_loadsAll (hshares : SharesJson lib batchLib)
    (hregistry : withLinuxSshdVersion formats version = .ok core.parsers)
    (hplan : failedLoginBurst.Compiled plan)
    (hvalid : validateUuidV7 "tenant_id" tenantId = .ok ())
    (htenant : ∀ line ∈ lines, line.persisted.tenantId = tenantId) (hall : LoadsAll lines events) :
    ∀ event ∈ events, Admissible plan mvpThresholdPolicy event := by
  intro event hevent
  obtain ⟨line, hline, login, hloads⟩ := hall.from_line event hevent
  obtain ⟨observed, -, hparticipation⟩ := hloads.participation hshares hregistry hplan
  refine ⟨check_bind_eq_ok.2 ⟨hloads.normalizedEventId_valid, ?_⟩, _, hparticipation⟩
  rw [hloads.tenantId, htenant line hline]
  exact hvalid

/-! ## From lines to reports -/

variable {request : MvpBatchRequest}

/-- The checks before the first event are those of the request. -/
theorem checkRequest_eq_ok (hrequest : validateRequest request = .ok ())
    (hplan : failedLoginBurst.Compiled plan) :
    (checkRequest plan request.executionMode request.evaluatedAt :
      Except (ThresholdEvaluationError MvpPolicyError) Unit) = .ok () := by
  simp only [validateRequest, check_bind_eq_ok, mapError_eq_ok] at hrequest
  obtain ⟨-, hat, -, hspecified, -⟩ := hrequest
  have hmode : request.executionMode ≠ .unspecified := by
    intro heq
    rw [heq] at hspecified
    cases hspecified
  rw [checkRequest, hplan.threshold_eq, hplan.durationMillis_eq, if_neg hmode]
  exact check_bind_eq_ok.2 ⟨liftCheck_eq_ok.2 hat, rfl⟩

/-- **The evaluation of lines succeeds.** -/
theorem exists_thresholdMatches (hshares : SharesJson lib batchLib)
    (hregistry : withLinuxSshdVersion formats version = .ok core.parsers)
    (hplan : failedLoginBurst.Compiled plan) (hrequest : validateRequest request = .ok ())
    (htenant : ∀ line ∈ lines, line.persisted.tenantId = request.tenantId)
    {batch : List BatchEvent} (hcoh : Coherent (batchEvents batch))
    (hall : LoadsAll lines (batchEvents batch)) :
    ∃ found, thresholdMatches request plan batch = .ok found := by
  have hvalid : validateUuidV7 "tenant_id" request.tenantId = .ok () := by
    rw [validateRequest, check_bind_eq_ok, mapError_eq_ok] at hrequest
    exact hrequest.1
  have htime {key : String ×ₗ List String} {c : Candidate} (field : String)
      (hc : Matching plan mvpThresholdPolicy (batchEvents batch) key c) :
      validateTimestamp field (timestampFromMillis c.eventTimeMillis) = .ok () :=
    validateTimestamp_of_matching hshares hregistry hplan htenant hall hc field
  have htimes : ∀ key contributors first last (m : ThresholdSignalProvenance String),
      EarliestMatch plan mvpThresholdPolicy (batchEvents batch) key m contributors first last →
        m.TimesValid := by
    intro key contributors first last m hm
    rw [ThresholdSignalProvenance.TimesValid, hm.firstObservedAt_eq, hm.lastObservedAt_eq]
    exact ⟨htime _ ((hm.mem_iff first).1 (List.mem_of_mem_head? hm.head_eq)).1,
      htime _ ((hm.mem_iff last).1 (List.mem_of_getLast? hm.getLast_eq)).1⟩
  obtain ⟨found, hfound⟩ := (exists_evaluateThreshold_eq_ok_iff hcoh).2
    ⟨checkRequest_eq_ok hrequest hplan,
      admissible_of_loadsAll hshares hregistry hplan hvalid htenant hall, htimes⟩
  exact ⟨found, mapError_eq_ok.2 hfound⟩

variable {importLib : ImportLibraries} {source : String}

/-- **A brute force is reported, and nothing else is.**  Lines of sshd that were normalized and
stored are loaded and evaluated, and the pack of the repository reports exactly the earliest burst
of each user and address that has one: ten lines within five minutes. -/
theorem bruteForce_reported (hyaml : importLib.fromYaml source = .ok failedLoginPack)
    (hregistry : withLinuxSshdVersion formats version = .ok core.parsers)
    (hshares : SharesJson lib batchLib) (hrequest : validateRequest request = .ok ())
    (htenant : ∀ line ∈ lines, line.persisted.tenantId = request.tenantId)
    (hids : (lines.map fun line => line.row.normalizedEventId).Nodup) :
    ∃ plan batch found, compileThresholdRule importLib source = attempt (.ok plan) ∧
      loadRows batchLib (lines.map fun line => batchRow line.row) = .ok batch ∧
      thresholdMatches request plan batch = .ok found ∧
      (∀ m, m ∈ found ↔ ∃ user address contributors,
        IsEarliest Candidate.eventTimeMillis 300000 10 (SomeLineAt lines user address)
          contributors ∧
        m = failedLoginBurst.report request.executionMode request.evaluatedAt
          (toLex (request.tenantId, [user, address])) contributors) ∧
      ∀ user address,
        (∃ S, EarliestWindow.Burst Candidate.eventTimeMillis 300000 10
          (SomeLineAt lines user address) S) ↔
        ∃ contributors, IsEarliest Candidate.eventTimeMillis 300000 10
          (SomeLineAt lines user address) contributors := by
  obtain ⟨plan, hcompile⟩ := exists_compileThresholdRule hyaml
  have hplan := compiled_failedLoginBurst hyaml hcompile
  obtain ⟨batch, hload, hall⟩ := exists_loadsAll hshares hids
  have hcoh := coherent_loadRows hload
  obtain ⟨found, hfound⟩ :=
    exists_thresholdMatches hshares hregistry hplan hrequest htenant hcoh hall
  obtain ⟨hmem, hexists⟩ := hplan.mem_thresholdMatches hcoh hfound
  have hcounted : ∀ (key : String ×ₗ List String) c,
      failedLoginBurst.Counted (batchEvents batch) key c ↔ ∃ user address,
        key = toLex (request.tenantId, [user, address]) ∧ SomeLineAt lines user address c :=
    fun _ _ => counted_iff hshares hregistry hplan htenant hall
  have hlines (user address : String) : failedLoginBurst.Counted (batchEvents batch)
      (toLex (request.tenantId, [user, address])) = SomeLineAt lines user address :=
    counted_group hshares hregistry hplan htenant hall user address
  refine ⟨plan, batch, found, hcompile, hload, hfound, fun m => (hmem m).trans ⟨?_, ?_⟩,
    fun user address => ?_⟩
  · rintro ⟨key, contributors, hearliest, rfl⟩
    -- a burst has an event, and events are of a user and an address
    obtain ⟨last, hlast, -⟩ := hearliest.exists_last
    obtain ⟨user, address, rfl, -⟩ := (hcounted key last).1 (hearliest.holds hlast)
    refine ⟨user, address, contributors, ?_, rfl⟩
    rw [← hlines]
    exact hearliest
  · rintro ⟨user, address, contributors, hearliest, rfl⟩
    refine ⟨toLex (request.tenantId, [user, address]), contributors, ?_, rfl⟩
    rw [← hlines] at hearliest
    exact hearliest
  · have hburst := hexists (toLex (request.tenantId, [user, address]))
    rw [EventCount.Burst, EventCount.EarliestBurst, hlines] at hburst
    exact hburst

end

/-! ## Eleven lines -/

/-- A word with this exponent and this fraction, `2 ^ 52 + fraction = n * 2 ^ (52 - k)`. -/
theorem f64Integral_eq_some {n k fraction : ℕ} (hk : k ≤ 52) (hfraction : fraction < 2 ^ 52)
    (hn : n * 2 ^ (52 - k) = fraction + 2 ^ 52) :
    f64Integral (.ofNat ((k + 1023) * 2 ^ 52 + fraction)) = some ↑n := by
  have hword : (UInt64.ofNat ((k + 1023) * 2 ^ 52 + fraction)).toNat =
      (k + 1023) * 2 ^ 52 + fraction := by
    rw [UInt64.toNat_ofNat']
    exact Nat.mod_eq_of_lt (by omega)
  have hexponent : ((k + 1023) * 2 ^ 52 + fraction) / 2 ^ 52 % 2 ^ 11 = k + 1023 := by omega
  have hrest : ((k + 1023) * 2 ^ 52 + fraction) % 2 ^ 52 = fraction := by omega
  have hscale : 1075 - max (k + 1023) 1 = 52 - k := by omega
  have hpos : 0 < 2 ^ (52 - k) := Nat.two_pow_pos _
  have hlarge : n < 2 ^ 53 := by
    have := Nat.le_mul_of_pos_right n hpos
    omega
  rw [f64Integral, hword, hexponent, hrest, if_neg (by omega : k + 1023 ≠ 0), hscale, ← hn,
    Nat.mul_mod_left, Nat.mul_div_cancel _ hpos, if_neg, if_pos (by omega)]
  rintro (h | h | h)
  · omega
  · omega
  · exact absurd (Nat.lt_of_mul_lt_mul_right h) (by omega)

/-- **The bits of a whole number below `2 ^ 53`** are read as that number. -/
theorem f64Integral_natF64Bits {n : ℕ} (hn : n < 2 ^ 53) : f64Integral (natF64Bits n) = some ↑n := by
  by_cases hzero : n = 0
  · subst hzero
    decide +kernel
  have hlow : 2 ^ n.log2 ≤ n := Nat.log2_self_le hzero
  have hhigh : n < 2 ^ (n.log2 + 1) := Nat.lt_log2_self
  have hlog : n.log2 ≤ 52 := Nat.le_of_lt_succ ((Nat.log2_lt hzero).2 hn)
  rw [natF64Bits, if_neg hzero]
  generalize n.log2 = k at hlow hhigh hlog ⊢
  have hfull : 2 ^ k * 2 ^ (52 - k) = 2 ^ 52 := by
    rw [← pow_add, Nat.add_sub_cancel' hlog]
  refine f64Integral_eq_some hlog ?_ ?_
  · rw [← hfull]
    exact Nat.mul_lt_mul_of_pos_right (by omega) (Nat.two_pow_pos _)
  · rw [Nat.sub_mul, hfull, Nat.sub_add_cancel]
    rw [← hfull]
    exact Nat.mul_le_mul_right _ hlow

/-- An integer that is read as a natural number is that number. -/
theorem eq_of_parseUnsigned_toString {n : ℤ} {m : ℕ} (hn : n < 2 ^ 53)
    (h : parseUnsigned (2 ^ 53 - 1) (toString n).toList = some m) : n = m := by
  rw [Int.toString_eq_repr, Int.repr_eq_if] at h
  split_ifs at h with hnonneg
  · rw [Nat.toList_repr, parseUnsigned_toDigits (by omega), Option.some.injEq] at h
    omega
  · rw [String.toList_append] at h
    -- a minus sign is no digit
    obtain ⟨hnumeral | ⟨_, hplus, -⟩, -⟩ := parseUnsigned_eq_some.1 h
    · exact absurd (hnumeral.isDigit '-' (by simp)) (by decide)
    · cases hplus

/-- A failed login of `root`. -/
def sampleFailedLogin : FailedLogin where
  invalidUser := false
  username := "root"
  sourceIp := "10.0.0.9"
  sourcePort := 22
  username_ne := by decide
  username_plain _ := by decide
  sourceIp_ne := by decide
  sourceIp_plain := by decide

/-- A failed login of a user that does not exist. -/
def sampleGuestLogin : FailedLogin :=
  { sampleFailedLogin with
    invalidUser := true
    username := "guest"
    username_ne := by decide
    username_plain := by decide }

/-- The text of `linux_sshd_failed_login_burst.yml`, less the keys that no document has. -/
def failedLoginSource : String := "\n".intercalate
  ["title: CERBERO Linux SSH Failed Login",
    "id: 3f954d8c-9af7-4dcc-bacd-6bdfd2ad6b4b",
    "name: cerbero_linux_sshd_failed_login",
    "taxonomy: ocsf",
    "logsource:",
    "    product: linux",
    "    service: sshd",
    "detection:",
    "    selection:",
    "        activity_name: 'Logon'",
    "        status: 'Failure'",
    "    condition: selection",
    "---",
    "title: CERBERO Linux SSH Authentication Burst",
    "id: b6354e60-2047-4e3a-9bb3-a6531265a2fb",
    "status: stable",
    "taxonomy: ocsf",
    "correlation:",
    "    type: event_count",
    "    rules:",
    "        - cerbero_linux_sshd_failed_login",
    "    group-by:",
    "        - user.name",
    "        - src_endpoint.ip",
    "    timespan: 5m",
    "    condition:",
    "        gte: 10",
    "level: high",
    "cerbero_rule_id: CER-DET-000001",
    "cerbero_rule_version: '1'",
    "cerbero_time_basis: EVENT_TIME",
    "cerbero_time_field: time",
    "cerbero_late_event_policy: ACCEPT",
    ""]

/-- The libraries of the normalizer, on whole numbers. -/
def sampleLineLibraries : Libraries where
  sha256LowerHex := sha256LowerHex
  f64Bits text := (parseUnsigned (2 ^ 53 - 1) text.toList).map natF64Bits
  isLowerHex_sha256 := isLowerHex_sha256LowerHex

def sampleReadBack : BatchLibraries where
  fromStr := readText
  f64Bits := sampleLineLibraries.f64Bits
  sha256LowerHex := sha256LowerHex

/-- The documents of the pack, in a library that knows its text. -/
def sampleLineImport : ImportLibraries where
  fromYaml source := if source = failedLoginSource then .ok failedLoginPack else .error "another text"
  debug := Text.debug
  sha256LowerHex := sha256LowerHex

theorem sharesJson_sample : SharesJson sampleLineLibraries sampleReadBack where
  f64Bits_eq := rfl
  read_render _ := readText_render
  f64Integral_eq n bits _ hn hbits := by
    obtain ⟨m, hm, rfl⟩ := Option.map_eq_some_iff.1 hbits
    obtain rfl := eq_of_parseUnsigned_toString hn hm
    exact f64Integral_natF64Bits (by omega)

/-- A line of the sample, with the second it was observed in. -/
structure SampleLine where
  id : String
  failed : FailedLogin
  seconds : ℤ

/-- Ten lines of `root`, thirty seconds apart, and one of `guest`. -/
def sampleLines : List SampleLine :=
  ⟨"01995000-0000-7000-8000-000000000030", sampleGuestLogin, 1789000045⟩ ::
    (List.range 10).map fun (n : ℕ) => ⟨"01995000-0000-7000-8000-00000000002" ++ toString n,
      sampleFailedLogin, 1789000000 + 30 * n⟩

/-- The message that announces the line. -/
def SampleLine.persisted (line : SampleLine) : RawEventPersisted :=
  { samplePersisted with
    tenantId := sampleRequest.tenantId
    eventTime := some ⟨line.seconds, 0⟩
    ingestTime := some ⟨1789000300, 0⟩
    persistedAt := some ⟨1789000300, 1⟩
    rawHash := sha256LowerHex (bytes line.failed.line)
    rawSize := (bytes line.failed.line).length
    length := (bytes line.failed.line).length }

def sampleLineEnvelope : CerberoEnvelope :=
  { sampleIncoming.envelope with
    tenantId := sampleRequest.tenantId
    emittedAt := some ⟨1789000300, 1⟩ }

/-- The line, normalized under its identifier. -/
def SampleLine.run (line : SampleLine) : Outcome NormalizationPlan :=
  normalize sampleLineLibraries sampleCore
    { sampleReadings ⟨1789000301, 0⟩ with normalizedEventId := .ok line.id } sampleLineEnvelope
    line.persisted (bytes line.failed.line)

theorem run_sampleLines : ∀ line ∈ sampleLines, line.run.toOption.map
    (fun plan => plan.normalizedEvent.normalizedEventId) = some line.id := by
  rw [sampleLines, List.forall_mem_cons, List.forall_mem_map]
  refine ⟨by decide +kernel, fun n hn => ?_⟩
  have hn : n < 10 := List.mem_range.1 hn
  -- one case after the other, so that the kernel holds one run at a time
  interval_cases n <;> decide +kernel

/-- The line that a line of the sample is stored as. -/
structure SampleLine.StoredAs (sample : SampleLine)
    (line : StoredLine sampleLineLibraries sampleCore) : Prop where
  id_eq : line.row.normalizedEventId = sample.id
  failed_eq : line.failed = sample.failed
  persisted_eq : line.persisted = sample.persisted

/-- Every line of the sample is stored. -/
theorem exists_storedAs {sample : SampleLine} (hsample : sample ∈ sampleLines) :
    ∃ line, sample.StoredAs line := by
  have hrun := run_sampleLines sample hsample
  cases hplan : sample.run with
  | error e =>
    rw [hplan] at hrun
    cases hrun
  | ok plan =>
    rw [hplan] at hrun
    obtain ⟨row, hrow, hsame⟩ := exists_fromPlan hplan ⟨"1", "normalizer-1"⟩ ⟨1789000300, 0⟩
      sampleLineEnvelope "01995000-0000-7000-8000-000000000012"
    have hunambiguous : ∀ sample ∈ sampleLines, sample.failed.Unambiguous := by decide +kernel
    have hchecked : ∀ sample ∈ sampleLines,
        validateRawEventPersisted sample.persisted = .ok () := by
      decide +kernel
    exact ⟨⟨_, _, _, _, _, _, _, row, hunambiguous sample hsample, hchecked sample hsample, hplan,
      hrow⟩, hsame.trans (Option.some.inj hrun), rfl, rfl⟩

/-- **The lines of the sample**, stored in their order. -/
structure SampleStored (lines : List (StoredLine sampleLineLibraries sampleCore)) : Prop where
  ids : lines.map (fun line => line.row.normalizedEventId) = sampleLines.map SampleLine.id
  of_line : ∀ line ∈ lines, ∃ sample ∈ sampleLines, sample.StoredAs line
  of_sample : ∀ sample ∈ sampleLines, ∃ line ∈ lines, sample.StoredAs line

theorem exists_sampleStored : ∃ lines, SampleStored lines := by
  choose line hline using @exists_storedAs
  refine ⟨sampleLines.attach.map fun sample => line sample.2, ?_, ?_, ?_⟩
  · simp only [List.map_map, Function.comp_def, (hline _).id_eq]
    exact List.attach_map_val
  · exact List.forall_mem_map.2 fun sample _ => ⟨sample, sample.2, hline sample.2⟩
  · intro sample hsample
    exact ⟨_, List.mem_map_of_mem (List.mem_attach _ ⟨sample, hsample⟩), hline hsample⟩

/-- Where a line of the sample is counted. -/
def SampleLine.candidate (sample : SampleLine) : Candidate := ⟨sample.id, sample.seconds * 1000⟩

/-- A line of the sample is at one candidate. -/
theorem SampleLine.StoredAs.isAt_iff {sample : SampleLine}
    {line : StoredLine sampleLineLibraries sampleCore} (h : sample.StoredAs line)
    {user address : String} {c : Candidate} : line.IsAt user address c ↔
      sample.failed.username = user ∧ sample.failed.sourceIp = address ∧ sample.candidate = c := by
  have hobserved : observedTime line.persisted = some ⟨sample.seconds, 0⟩ := by
    rw [h.persisted_eq]
    rfl
  have hmillis : unixMillis ⟨sample.seconds, 0⟩ = sample.seconds * 1000 := add_zero _
  rw [← h.failed_eq]
  constructor
  · rintro ⟨huser, haddress, hid, observed, hsome, htime⟩
    obtain rfl := Option.some.inj (hobserved.symm.trans hsome)
    obtain ⟨id, millis⟩ := c
    obtain rfl : sample.id = id := h.id_eq.symm.trans hid
    obtain rfl : sample.seconds * 1000 = millis := hmillis.symm.trans htime
    exact ⟨huser, haddress, rfl⟩
  · rintro ⟨huser, haddress, rfl⟩
    exact ⟨huser, haddress, h.id_eq, _, hobserved, hmillis⟩

section

variable {lines : List (StoredLine sampleLineLibraries sampleCore)} (hlines : SampleStored lines)

include hlines

/-- What is counted of a user and an address are its lines of the sample. -/
theorem someLineAt_sample {user address : String} {c : Candidate} :
    SomeLineAt lines user address c ↔ ∃ sample ∈ sampleLines,
      sample.failed.username = user ∧ sample.failed.sourceIp = address ∧ sample.candidate = c := by
  constructor
  · rintro ⟨line, hline, hat⟩
    obtain ⟨sample, hsample, hstored⟩ := hlines.of_line line hline
    exact ⟨sample, hsample, hstored.isAt_iff.1 hat⟩
  · rintro ⟨sample, hsample, hat⟩
    obtain ⟨line, hline, hstored⟩ := hlines.of_sample sample hsample
    exact ⟨line, hline, hstored.isAt_iff.2 hat⟩

/-- The lines of `root` are a burst. -/
theorem exists_burst_sample : ∃ S, EarliestWindow.Burst Candidate.eventTimeMillis 300000 10
    (SomeLineAt lines "root" "10.0.0.9") S := by
  refine ⟨(sampleLines.tail.map SampleLine.candidate).toFinset, ?_, ?_, ?_⟩
  · rw [List.toFinset_card_of_nodup (by decide +kernel)]
    rfl
  · intro c hc
    obtain ⟨sample, hsample, rfl⟩ := List.mem_map.1 (List.mem_toFinset.1 hc)
    have hroot : ∀ sample ∈ sampleLines.tail,
        sample.failed.username = "root" ∧ sample.failed.sourceIp = "10.0.0.9" := by
      decide +kernel
    obtain ⟨huser, haddress⟩ := hroot sample hsample
    exact (someLineAt_sample hlines).2
      ⟨sample, List.mem_of_mem_tail hsample, huser, haddress, rfl⟩
  · have hclose : ∀ a ∈ sampleLines.tail.map SampleLine.candidate,
        ∀ b ∈ sampleLines.tail.map SampleLine.candidate,
        b.eventTimeMillis - a.eventTimeMillis ≤ 300000 := by
      decide +kernel
    exact fun a ha b hb => hclose a (List.mem_toFinset.1 ha) b (List.mem_toFinset.1 hb)

/-- Nobody else has one. -/
theorem eq_root_of_isEarliest {user address : String} {contributors : List Candidate}
    (h : IsEarliest Candidate.eventTimeMillis 300000 10 (SomeLineAt lines user address)
      contributors) : user = "root" ∧ address = "10.0.0.9" := by
  have hother : ∀ sample ∈ sampleLines, sample.failed.username = "root" ∧
      sample.failed.sourceIp = "10.0.0.9" ∨ sample.failed.username = "guest" ∧
      sample.candidate = ⟨"01995000-0000-7000-8000-000000000030", 1789000045000⟩ := by
    decide +kernel
  obtain ⟨last, hlast, -⟩ := h.exists_last
  obtain ⟨sample, hsample, rfl, rfl, -⟩ := (someLineAt_sample hlines).1 (h.holds hlast)
  obtain hroot | ⟨hguest, -⟩ := hother sample hsample
  · exact hroot
  -- `guest` has one line, and a burst has ten
  have hone : ∀ c ∈ contributors, c =
      ⟨"01995000-0000-7000-8000-000000000030", 1789000045000⟩ := by
    intro c hc
    obtain ⟨sample', hsample', huser, -, rfl⟩ := (someLineAt_sample hlines).1 (h.holds hc)
    obtain ⟨hroot, -⟩ | ⟨-, hcandidate⟩ := hother sample' hsample'
    · exact absurd (hroot.symm.trans (huser.trans hguest)) (by decide)
    · exact hcandidate
  have hnodup := h.nodup
  rw [List.eq_replicate_iff.2 ⟨h.length_eq, hone⟩, List.nodup_replicate] at hnodup
  exact absurd hnodup (by decide)

end

/-- The request for the lines of the sample. -/
def sampleLineRequest : MvpBatchRequest :=
  { sampleRequest with
    endMillis := 1789000300000
    evaluatedAt := ⟨1789000400, 0⟩
    createdAt := ⟨1789000400, 0⟩ }

/-- **The lines of `root` are reported**, and nothing else is. -/
theorem bruteForce_reported_elevenLines :
    ∃ (lines : List (StoredLine sampleLineLibraries sampleCore)) (plan : MvpCompiledThresholdPlan)
      (batch : List BatchEvent) (found : List (ThresholdSignalProvenance String)),
      (lines.map fun line => line.row.normalizedEventId) = sampleLines.map SampleLine.id ∧
      compileThresholdRule sampleLineImport failedLoginSource = attempt (.ok plan) ∧
      loadRows sampleReadBack (lines.map fun line => batchRow line.row) = .ok batch ∧
      thresholdMatches sampleLineRequest plan batch = .ok found ∧ found ≠ [] ∧
      ∀ m ∈ found, ∃ contributors, m = failedLoginBurst.report .live ⟨1789000400, 0⟩
        (toLex (sampleRequest.tenantId, ["root", "10.0.0.9"])) contributors := by
  obtain ⟨lines, hlines⟩ := exists_sampleStored
  have htenant : ∀ line ∈ lines, line.persisted.tenantId = sampleLineRequest.tenantId := by
    intro line hline
    obtain ⟨sample, -, hstored⟩ := hlines.of_line line hline
    rw [hstored.persisted_eq]
    rfl
  have hnodup : (lines.map fun line => line.row.normalizedEventId).Nodup := by
    rw [hlines.ids]
    decide +kernel
  have hrequest : validateRequest sampleLineRequest = .ok () := by decide +kernel
  have hyaml : sampleLineImport.fromYaml failedLoginSource = .ok failedLoginPack := by
    simp only [sampleLineImport, if_true]
  obtain ⟨plan, batch, found, hcompile, hload, hfound, hmem, hexists⟩ := bruteForce_reported hyaml
    (withLinuxSshdVersion_default _) sharesJson_sample hrequest htenant hnodup
  obtain ⟨contributors, hearliest⟩ := (hexists _ _).1 (exists_burst_sample hlines)
  have hreported := (hmem _).2 ⟨_, _, contributors, hearliest, rfl⟩
  refine ⟨lines, plan, batch, found, hlines.ids, hcompile, hload, hfound,
    List.ne_nil_of_mem hreported, fun m hm => ?_⟩
  obtain ⟨user, address, contributors, hearliest, rfl⟩ := (hmem m).1 hm
  obtain ⟨rfl, rfl⟩ := eq_root_of_isEarliest hlines hearliest
  exact ⟨contributors, rfl⟩

end Detection

end Cerbero
