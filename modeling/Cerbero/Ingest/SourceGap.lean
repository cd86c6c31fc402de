import Cerbero.Ingest.Core
import Cerbero.Lib.HighWater

/-!
# Ingest/SourceGap — gaps in the native sequences of sources

`services/cerbero-ingest/internal/sourcegap`: a detector keeps the greatest sequence number of each
source and reports a forward jump of more than one (`observe`).  A call holds the lock from the
lookup to the end, so calls take place one after another (`observeAll`).  For each key the stored
numbers are a high-water mark, and the detections are its jumps (`detections_observeAll`).  So the
intervals that are reported partition what is missing (**`sourceGaps_exact`**).
-/

namespace Cerbero

namespace Ingest

namespace SourceGap

open HighWater

open Journald (AdmissionMetadata)

/-! ## The detector -/

/-- `sourceKey`. -/
structure SourceKey where
  tenantId : String
  sourceId : String
  sensorId : String
  deriving DecidableEq, Repr

/-- `Detection`: the sequence numbers a source has skipped, from the one that was expected up to the
one that came. -/
structure Detection where
  tenantId : String
  sourceId : String
  sensorId : String
  expectedSequence : UInt64
  observedSequence : UInt64
  detectedAt : Instant
  deriving DecidableEq, Repr

/-- `math.MaxUint64`. -/
def maxUint64 : UInt64 := 18446744073709551615

/-- `Detector`, with what its clock reads from. -/
structure Detector (σ : Type) where
  last : SourceKey → Option UInt64
  sources : σ

/-- The arguments of a call of `Observe`. -/
structure Call where
  metadata : AdmissionMetadata
  sequence : Option UInt64
  deriving DecidableEq, Repr

variable {σ : Type}

/-- `New`. -/
def new (sources : σ) : Detector σ := ⟨fun _ => none, sources⟩

/-- The key of a call. -/
def Call.key (call : Call) : SourceKey :=
  ⟨call.metadata.tenantId, call.metadata.sourceId, call.metadata.sensorId⟩

/-- `d.last[key] = observed`. -/
def Detector.store (detector : Detector σ) (key : SourceKey) (observed : UInt64) : Detector σ :=
  { detector with last := Function.update detector.last key (some observed) }

section

variable (now : σ → Instant × σ)

/-- **`Observe`**: a number after the last one of its source is remembered; if it is not the next,
the numbers in between are the gap. A number that was seen before, or is missing, changes nothing.
-/
def observe (detector : Detector σ) (call : Call) : Option Detection × Detector σ :=
  match call.sequence with
  | none => (none, detector)
  | some observed =>
    match detector.last call.key with
    | none => (none, detector.store call.key observed)
    | some previous =>
      if observed ≤ previous then (none, detector)
      else if previous = maxUint64 then (none, detector.store call.key observed)
      else
        let expected := previous + 1
        let detector := detector.store call.key observed
        if observed ≤ expected then (none, detector)
        else
          let (detectedAt, sources) := now detector.sources
          (some ⟨call.metadata.tenantId, call.metadata.sourceId, call.metadata.sensorId, expected,
            observed, detectedAt⟩, { detector with sources })

/-- What a run of calls returns, and the detector after it. -/
def observeAll (detector : Detector σ) : List Call → List (Option Detection) × Detector σ
  | [] => ([], detector)
  | call :: calls =>
    let (result, detector) := observe now detector call
    let (results, detector) := observeAll detector calls
    (result :: results, detector)

end

/-! ## One key -/

/-- The key of a detection. -/
def Detection.key (detection : Detection) : SourceKey :=
  ⟨detection.tenantId, detection.sourceId, detection.sensorId⟩

/-- The expected and the observed number of a detection. -/
def Detection.bounds (detection : Detection) : ℕ × ℕ :=
  (detection.expectedSequence.toNat, detection.observedSequence.toNat)

/-- The numbers a detection reports as missing, from the expected one to the one before the observed
one. -/
def Detection.missing (detection : Detection) : Set ℕ :=
  Set.Icc detection.expectedSequence.toNat (detection.observedSequence.toNat - 1)

/-- The number that a call observes for a key. -/
def Call.value (key : SourceKey) (call : Call) : Option ℕ :=
  if call.key = key then call.sequence.map UInt64.toNat else none

/-- The numbers observed for a key. -/
def observedValues (key : SourceKey) (calls : List Call) : List ℕ :=
  calls.filterMap (Call.value key)

/-- The number stored for a key. -/
def Detector.mark (detector : Detector σ) (key : SourceKey) : Option ℕ :=
  (detector.last key).map UInt64.toNat

/-- The detections of a key. -/
def detections (key : SourceKey) (results : List (Option Detection)) : List Detection :=
  results.filterMap fun result => result.filter fun detection => detection.key = key

/-- **What is asked of a detector** for a key, after some calls. -/
structure GapsExact (now : σ → Instant × σ) (sources : σ) (calls : List Call) (key : SourceKey) :
    Prop where
  stored : (observeAll now (new sources) calls).2.mark key = (observedValues key calls).max?
  detected : ∀ call : Call, call.key = key →
    ((observe now (observeAll now (new sources) calls).2 call).1.isSome ↔
      ∃ observed greatest, call.sequence = some observed ∧
        (observedValues key calls).max? = some greatest ∧ greatest + 1 < observed.toNat)
  disjoint : (detections key (observeAll now (new sources) calls).1).Pairwise
    fun detection detection' => Disjoint detection.missing detection'.missing
  union : ∀ x : ℕ, (∃ detection ∈ detections key (observeAll now (new sources) calls).1,
      x ∈ detection.missing) ↔
    (∃ first ∈ (observedValues key calls).head?, first ≤ x) ∧
      (∃ greatest ∈ (observedValues key calls).max?, x ≤ greatest) ∧
      PassedOver (observedValues key calls) x
  named : ∀ call : Call,
    ∀ detection ∈ (observe now (observeAll now (new sources) calls).2 call).1,
      detection.key = call.key
  others : ∀ call : Call, call.key ≠ key →
    (observe now (observeAll now (new sources) calls).2 call).2.last key =
      (observeAll now (new sources) calls).2.last key

/-! ## Jumps of a mark -/

/-- The raises of a mark by more than one. -/
def jumps (mark : Option ℕ) (values : List ℕ) : List (ℕ × ℕ) :=
  (raises mark values).filter fun pair => pair.1 + 1 < pair.2

theorem jumps_append (mark : Option ℕ) (values more : List ℕ) :
    jumps mark (values ++ more) = jumps mark values ++ jumps (highWater mark values) more := by
  rw [jumps, raises_append, List.filter_append]
  rfl

theorem jumps_some (m v : ℕ) : jumps (some m) [v] = if m + 1 < v then [(m, v)] else [] := by
  rw [jumps, raises, raises, raises]
  by_cases hv : m < v
  · rw [if_pos hv]
    by_cases hjump : m + 1 < v
    · rw [if_pos hjump, List.filter_cons_of_pos (by simpa using hjump), List.filter_nil]
    · rw [if_neg hjump, List.filter_cons_of_neg (by simpa using hjump), List.filter_nil]
  · rw [if_neg hv, if_neg (by omega), List.filter_nil]

/-- The bounds of the interval that a jump passes over. -/
def jumpBounds (pair : ℕ × ℕ) : ℕ × ℕ := (pair.1 + 1, pair.2)

/-! ## One call -/

/-- What a call does, in terms of the mark of its key. -/
structure Step (detector : Detector σ) (call : Call) (outcome : Option Detection × Detector σ) :
    Prop where
  mark : outcome.2.mark call.key =
    highWater (detector.mark call.key) (call.sequence.map UInt64.toNat).toList
  bounds : outcome.1.toList.map Detection.bounds =
    (jumps (detector.mark call.key) (call.sequence.map UInt64.toNat).toList).map jumpBounds
  key : ∀ detection ∈ outcome.1, detection.key = call.key
  others : ∀ key, call.key ≠ key → outcome.2.last key = detector.last key

section

variable {detector : Detector σ} {key : SourceKey} {observed : UInt64}

theorem mark_store : (detector.store key observed).mark key = some observed.toNat := by
  show (Function.update detector.last key (some observed) key).map UInt64.toNat = _
  rw [Function.update_self, Option.map_some]

theorem last_store_of_ne {key' : SourceKey} (h : key ≠ key') :
    (detector.store key observed).last key' = detector.last key' :=
  Function.update_of_ne h.symm _ _

end

section

variable {detector : Detector σ} {call : Call} {observed previous : UInt64}

theorem toNat_succ (h : previous < observed) : (previous + 1).toNat = previous.toNat + 1 := by
  have hlt := UInt64.lt_iff_toNat_lt.1 h
  have hsize := observed.toNat_lt
  rw [UInt64.toNat_add, UInt64.toNat_one, Nat.mod_eq_of_lt (by omega)]

/-- A call without a number does nothing. -/
theorem step_none (h : call.sequence = none) : Step detector call (none, detector) where
  mark := by rw [h]; rfl
  bounds := by rw [h]; cases detector.mark call.key <;> rfl
  key := fun _ hmem => nomatch hmem
  others := fun _ _ => rfl

/-- The first number of a key is stored. -/
theorem step_first (h : call.sequence = some observed) (hlast : detector.last call.key = none) :
    Step detector call (none, detector.store call.key observed) := by
  have hmark : detector.mark call.key = none := by rw [Detector.mark, hlast]; rfl
  exact
    { mark := by rw [h, hmark, mark_store]; rfl
      bounds := by rw [h, hmark]; rfl
      key := fun _ hmem => nomatch hmem
      others := fun _ => last_store_of_ne }

section

variable (h : call.sequence = some observed)
variable (hmark : detector.mark call.key = some previous.toNat)

include h hmark

theorem highWater_of_mark :
    highWater (detector.mark call.key) (call.sequence.map UInt64.toNat).toList =
      some (max previous.toNat observed.toNat) := by
  rw [h, hmark]
  rfl

theorem jumps_of_mark :
    jumps (detector.mark call.key) (call.sequence.map UInt64.toNat).toList =
      if previous.toNat + 1 < observed.toNat then [(previous.toNat, observed.toNat)] else [] := by
  rw [h, hmark]
  exact jumps_some _ _

/-- A number that is not above the mark does nothing. -/
theorem step_le (hle : observed ≤ previous) : Step detector call (none, detector) := by
  have hle := UInt64.le_iff_toNat_le.1 hle
  exact
    { mark := by rw [highWater_of_mark h hmark, hmark, max_eq_left hle]
      bounds := by
        rw [jumps_of_mark h hmark, if_neg (by omega)]
        rfl
      key := fun _ hmem => nomatch hmem
      others := fun _ _ => rfl }

/-- The next number is stored. -/
theorem step_next (hlt : previous < observed) (hle : observed ≤ previous + 1) :
    Step detector call (none, detector.store call.key observed) := by
  have hlt' := UInt64.lt_iff_toNat_lt.1 hlt
  have hle := UInt64.le_iff_toNat_le.1 hle
  rw [toNat_succ hlt] at hle
  exact
    { mark := by rw [highWater_of_mark h hmark, mark_store, max_eq_right hlt'.le]
      bounds := by
        rw [jumps_of_mark h hmark, if_neg (by omega)]
        rfl
      key := fun _ hmem => nomatch hmem
      others := fun _ => last_store_of_ne }

/-- A number that is further above the mark is stored and reported. -/
theorem step_jump {detectedAt : Instant} {sources : σ} (hlt : previous < observed)
    (hjump : previous + 1 < observed) :
    Step detector call
      (some ⟨call.metadata.tenantId, call.metadata.sourceId, call.metadata.sensorId, previous + 1,
        observed, detectedAt⟩, { detector.store call.key observed with sources }) := by
  have hlt' := UInt64.lt_iff_toNat_lt.1 hlt
  have hjump := UInt64.lt_iff_toNat_lt.1 hjump
  rw [toNat_succ hlt] at hjump
  exact
    { mark := by
        rw [highWater_of_mark h hmark, max_eq_right hlt'.le]
        exact mark_store
      bounds := by
        rw [jumps_of_mark h hmark, if_pos hjump]
        exact congrArg (fun expected => [(expected, observed.toNat)]) (toNat_succ hlt)
      key := by
        intro detection hdetection
        obtain rfl := Option.some.inj hdetection
        rfl
      others := fun _ => last_store_of_ne }

end

end

section

variable (now : σ → Instant × σ) (detector : Detector σ) (call : Call)

/-- **One call** raises the mark of its key and reports a jump. -/
theorem step_observe : Step detector call (observe now detector call) := by
  rcases hsequence : call.sequence with _ | observed
  · rw [observe, hsequence]
    exact step_none hsequence
  · rw [observe, hsequence]
    dsimp only
    rcases hlast : detector.last call.key with _ | previous
    · exact step_first hsequence hlast
    · have hmark : detector.mark call.key = some previous.toNat := by
        rw [Detector.mark, hlast]
        rfl
      dsimp only
      split_ifs with hle htop hnext
      · exact step_le hsequence hmark hle
      · -- no number is above the greatest one
        subst htop
        exact absurd (UInt64.le_iff_toNat_le.2 (Nat.le_of_lt_succ observed.toNat_lt)) hle
      · exact step_next hsequence hmark (UInt64.not_le.1 hle) hnext
      · exact step_jump hsequence hmark (UInt64.not_le.1 hle) (UInt64.not_le.1 hnext)

/-- **When a call reports.** -/
theorem isSome_observe_iff : (observe now detector call).1.isSome ↔ ∃ observed greatest,
    call.sequence = some observed ∧ detector.mark call.key = some greatest ∧
      greatest + 1 < observed.toNat := by
  have hbounds := (step_observe now detector call).bounds
  have hjumps : (observe now detector call).1.isSome ↔
      jumps (detector.mark call.key) (call.sequence.map UInt64.toNat).toList ≠ [] := by
    rw [Ne, ← List.map_eq_nil_iff, ← hbounds, List.map_eq_nil_iff]
    cases (observe now detector call).1 <;> simp
  rw [hjumps]
  rcases call.sequence with _ | observed
  · refine iff_of_false (fun h => h ?_) fun ⟨_, _, h, _⟩ => nomatch h
    cases detector.mark call.key <;> rfl
  · rcases detector.mark call.key with _ | greatest
    · exact iff_of_false (fun h => h rfl) fun ⟨_, _, _, h, _⟩ => nomatch h
    · rw [Option.map_some, Option.toList_some, jumps_some]
      constructor
      · intro h
        exact ⟨observed, greatest, rfl, rfl, by_contra fun hnot => h (if_neg hnot)⟩
      · rintro ⟨_, _, hsequence, hgreatest, h⟩
        obtain rfl := Option.some.inj hsequence
        obtain rfl := Option.some.inj hgreatest
        rw [if_pos h]
        exact List.cons_ne_nil _ _

/-! ## A run -/

variable (key : SourceKey)

theorem mark_observe :
    (observe now detector call).2.mark key =
      highWater (detector.mark key) (call.value key).toList := by
  by_cases h : call.key = key
  · subst h
    rw [Call.value, if_pos rfl]
    exact (step_observe now detector call).mark
  · rw [Call.value, if_neg h, Detector.mark, (step_observe now detector call).others key h]
    rfl

theorem bounds_observe :
    (detections key [(observe now detector call).1]).map Detection.bounds =
      (jumps (detector.mark key) (call.value key).toList).map jumpBounds := by
  have hkey := (step_observe now detector call).key
  by_cases h : call.key = key
  · subst h
    rw [Call.value, if_pos rfl, ← (step_observe now detector call).bounds]
    cases hresult : (observe now detector call).1 with
    | none => rfl
    | some detection =>
      rw [detections, List.filterMap_cons, Option.filter_some_pos (by simpa using hkey _ hresult)]
      rfl
  · rw [Call.value, if_neg h]
    cases hresult : (observe now detector call).1 with
    | none => cases detector.mark key <;> rfl
    | some detection =>
      have hother : ¬ detection.key = key := fun heq => h ((hkey _ hresult).symm.trans heq)
      rw [detections, List.filterMap_cons, Option.filter_some_neg (by simpa using hother)]
      cases detector.mark key <;> rfl

theorem detections_cons (result : Option Detection) (results : List (Option Detection)) :
    detections key (result :: results) = detections key [result] ++ detections key results := by
  rw [← List.singleton_append, detections, List.filterMap_append]
  rfl

theorem observedValues_cons (call : Call) (calls : List Call) :
    observedValues key (call :: calls) = (call.value key).toList ++ observedValues key calls := by
  rw [observedValues, List.filterMap_cons]
  cases call.value key <;> rfl

/-- **The stored number** after a run is the high-water mark. -/
theorem mark_observeAll (calls : List Call) (detector : Detector σ) :
    (observeAll now detector calls).2.mark key =
      highWater (detector.mark key) (observedValues key calls) := by
  induction calls generalizing detector with
  | nil => rfl
  | cons call calls ih =>
    rw [observedValues_cons, highWater_append, ← mark_observe now]
    exact ih _

/-- **The detections** of a run are the jumps of the mark. -/
theorem bounds_observeAll (calls : List Call) (detector : Detector σ) :
    (detections key (observeAll now detector calls).1).map Detection.bounds =
      (jumps (detector.mark key) (observedValues key calls)).map jumpBounds := by
  induction calls generalizing detector with
  | nil => cases detector.mark key <;> rfl
  | cons call calls ih =>
    rw [observedValues_cons, jumps_append, List.map_append, ← bounds_observe now,
      ← mark_observe now, ← ih, ← List.map_append, ← detections_cons]
    rfl

end

/-! ## The missing numbers -/

/-- The interval of the bounds of a detection. -/
def between (bounds : ℕ × ℕ) : Set ℕ := Set.Icc bounds.1 (bounds.2 - 1)

theorem exists_mem_missing_iff {found : List Detection} {x : ℕ} :
    (∃ detection ∈ found, x ∈ detection.missing) ↔
      ∃ bounds ∈ found.map Detection.bounds, x ∈ between bounds := by
  simp only [List.mem_map, exists_exists_and_eq_and]
  rfl

theorem between_jumpBounds (pair : ℕ × ℕ) :
    between (jumpBounds pair) = Set.Ioo pair.1 pair.2 := by
  ext x
  simp only [between, jumpBounds, Set.mem_Icc, Set.mem_Ioo]
  omega

theorem pairwise_disjoint_jumps (values : List ℕ) :
    ((jumps none values).map jumpBounds).Pairwise
      fun bounds bounds' => Disjoint (between bounds) (between bounds') := by
  rw [List.pairwise_map]
  simp only [between_jumpBounds]
  exact (pairwise_disjoint_raises values).filter _

/-- A raise by one passes over nothing, so the jumps pass over what the raises do. -/
theorem exists_mem_jumps_iff (values : List ℕ) (x : ℕ) :
    (∃ bounds ∈ (jumps none values).map jumpBounds, x ∈ between bounds) ↔
      (∃ first ∈ values.head?, first ≤ x) ∧ PassedOver values x := by
  rw [← exists_mem_raises_iff]
  constructor
  · rintro ⟨_, hbounds, hx⟩
    obtain ⟨pair, hpair, rfl⟩ := List.mem_map.1 hbounds
    rw [between_jumpBounds] at hx
    exact ⟨pair, List.mem_of_mem_filter hpair, hx⟩
  · rintro ⟨pair, hpair, hx⟩
    refine ⟨jumpBounds pair, List.mem_map_of_mem (List.mem_filter.2 ⟨hpair, ?_⟩), ?_⟩
    · exact decide_eq_true ((Nat.succ_le_of_lt hx.1).trans_lt hx.2)
    · rwa [between_jumpBounds]

theorem le_max_of_passedOver {values : List ℕ} {x : ℕ} (h : PassedOver values x) :
    ∃ greatest ∈ values.max?, x ≤ greatest := by
  obtain ⟨v, hv, hle⟩ := h.exists_le
  obtain ⟨greatest, hgreatest⟩ := Option.ne_none_iff_exists'.1
    fun hnone => List.ne_nil_of_mem hv (List.max?_eq_none_iff.1 hnone)
  exact ⟨greatest, hgreatest, hle.trans ((List.max?_eq_some_iff.1 hgreatest).2 v hv)⟩

/-- **The detections partition what is missing**, for every key and after every run. -/
theorem sourceGaps_exact (now : σ → Instant × σ) (sources : σ) (calls : List Call)
    (key : SourceKey) : GapsExact now sources calls key := by
  have hstart : (new sources).mark key = none := rfl
  have hmark : (observeAll now (new sources) calls).2.mark key =
      (observedValues key calls).max? := by
    rw [mark_observeAll, hstart, highWater_none]
  have hbounds := bounds_observeAll now key calls (new sources)
  exact
    { stored := hmark
      detected := by
        rintro call rfl
        rw [isSome_observe_iff, hmark]
      disjoint := by
        have hpairwise := pairwise_disjoint_jumps (observedValues key calls)
        rwa [← hstart, ← hbounds, List.pairwise_map] at hpairwise
      union := by
        intro x
        rw [exists_mem_missing_iff, hbounds, hstart, exists_mem_jumps_iff]
        exact and_congr_right' ⟨fun h => ⟨le_max_of_passedOver h, h⟩, And.right⟩
      named := fun call => (step_observe now _ call).key
      others := fun call => (step_observe now _ call).others key }

end SourceGap

end Ingest

end Cerbero
