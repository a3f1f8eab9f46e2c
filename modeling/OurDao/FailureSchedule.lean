import OurDao.Backoff

/-!
# The failure tracker's schedule

What `AuthFailureTracker` holds after any failures, successes and sweeps: never more than
its capacity, and for an address that was not evicted the run of failures since its last
success or its last gap of a window. Sweeps are invisible to `isAllowed`; an eviction takes
the record that would be allowed first.
-/

namespace OurDao

namespace RecordMap

variable {ν : Type} {rows : RecordMap ν} {key other : String} {value : ν}

theorem mem_of_lookup (h : rows.lookup key = some value) : (key, value) ∈ rows := by
  obtain ⟨before, after, hrows, -⟩ := List.lookup_eq_some_iff.mp h
  rw [hrows]
  simp

theorem lookup_of_mem (hnodup : (rows.map Prod.fst).Nodup) (h : (key, value) ∈ rows) :
    rows.lookup key = some value := by
  induction rows with
  | nil => cases h
  | cons row rest ih =>
    obtain ⟨first, old⟩ := row
    rw [List.map_cons, List.nodup_cons] at hnodup
    rw [lookup_cons]
    rcases List.mem_cons.mp h with heq | h
    · cases heq
      exact if_pos rfl
    · have hne : key ≠ first := fun heq => hnodup.1 (heq ▸ List.mem_map.mpr ⟨_, h, rfl⟩)
      rw [if_neg hne]
      exact ih hnodup.2 h

theorem lookup_filter (hnodup : (rows.map Prod.fst).Nodup) (p : String × ν → Bool) :
    (rows.filter p).lookup key = (rows.lookup key).filter fun value => p (key, value) := by
  have hfiltered : ((rows.filter p).map Prod.fst).Nodup := hnodup.sublist (List.filter_sublist.map _)
  cases hrow : rows.lookup key with
  | none =>
    cases hleft : (rows.filter p).lookup key with
    | none => rfl
    | some value =>
      have hmem := lookup_of_mem hnodup (List.mem_of_mem_filter (mem_of_lookup hleft))
      rw [hrow] at hmem
      cases hmem
  | some value =>
    by_cases hp : p (key, value) = true
    · rw [Option.filter_some, if_pos hp]
      exact lookup_of_mem hfiltered (List.mem_filter.mpr ⟨mem_of_lookup hrow, hp⟩)
    · cases hleft : (rows.filter p).lookup key with
      | none => rw [Option.filter_some, if_neg hp]
      | some left =>
        obtain ⟨hmem, hkept⟩ := List.mem_filter.mp (mem_of_lookup hleft)
        rw [lookup_of_mem hnodup hmem] at hrow
        cases hrow
        exact absurd hkept hp

theorem keys_set (rows : RecordMap ν) (key : String) (value : ν) : (rows.set key value).map Prod.fst =
    if key ∈ rows.map Prod.fst then rows.map Prod.fst else rows.map Prod.fst ++ [key] := by
  induction rows with
  | nil => rfl
  | cons row rest ih =>
    obtain ⟨first, old⟩ := row
    by_cases hfirst : first = key
    · simp [set, hfirst]
    · rw [set, if_neg hfirst, List.map_cons, ih]
      by_cases hmem : key ∈ rest.map Prod.fst
      · simp [hmem]
      · simp [hmem, Ne.symm hfirst]

theorem nodup_set (hnodup : (rows.map Prod.fst).Nodup) (key : String) (value : ν) :
    ((rows.set key value).map Prod.fst).Nodup := by
  rw [keys_set]
  split
  next => exact hnodup
  next hnew => exact List.nodup_append_comm.mp (List.nodup_cons.mpr ⟨hnew, hnodup⟩)

theorem length_set_le (rows : RecordMap ν) (key : String) (value : ν) :
    (rows.set key value).length ≤ rows.length + 1 := by
  have hkeys := congrArg List.length (keys_set rows key value)
  rw [List.length_map] at hkeys
  rw [hkeys]
  split <;> simp

theorem length_set_of_mem (h : (rows.lookup key).isSome) (value : ν) : (rows.set key value).length = rows.length := by
  obtain ⟨old, hold⟩ := Option.isSome_iff_exists.mp h
  have hkeys := congrArg List.length (keys_set rows key value)
  rw [if_pos (List.mem_map_of_mem (mem_of_lookup hold))] at hkeys
  simpa using hkeys

theorem length_delete_lt (h : key ∈ rows.map Prod.fst) : (rows.delete key).length < rows.length := by
  obtain ⟨row, hrow, rfl⟩ := List.mem_map.mp h
  exact List.length_filter_lt_length_iff_exists.mpr ⟨row, hrow, by simp⟩

end RecordMap

namespace AuthFailureTracker

/-- The one of two rows that may try again earlier, the first where they are even. -/
def older (least row : String × FailureRecord) : String × FailureRecord :=
  if row.2.nextAllowedAt < least.2.nextAllowedAt then row else least

theorem foldl_older (rows : RecordMap FailureRecord) (least : String × FailureRecord) :
    rows.foldl older least ∈ least :: rows ∧
      ∀ row ∈ least :: rows, (rows.foldl older least).2.nextAllowedAt ≤ row.2.nextAllowedAt := by
  induction rows generalizing least with
  | nil => simp
  | cons first rows ih =>
    obtain ⟨hmem, hmin⟩ := ih (older least first)
    have hone : older least first = first ∨ older least first = least := by
      rw [older]
      split
      · exact .inl rfl
      · exact .inr rfl
    have hbound : (older least first).2.nextAllowedAt ≤ first.2.nextAllowedAt ∧
        (older least first).2.nextAllowedAt ≤ least.2.nextAllowedAt := by
      rw [older]
      split <;> omega
    have hfirst := hmin _ List.mem_cons_self
    rw [List.foldl_cons]
    refine ⟨?_, fun row hrow => ?_⟩
    · rcases List.mem_cons.mp hmem with heq | hmem
      · rw [heq]
        rcases hone with hone | hone <;> simp [hone]
      · exact List.mem_cons_of_mem _ (List.mem_cons_of_mem _ hmem)
    · rcases List.mem_cons.mp hrow with rfl | hrow
      · omega
      · rcases List.mem_cons.mp hrow with rfl | hrow
        · omega
        · exact hmin row (List.mem_cons_of_mem _ hrow)

theorem oldestKey_cons (least : String × FailureRecord) (rows : RecordMap FailureRecord) :
    oldestKey ⟨least :: rows⟩ = some (rows.foldl older least).1 := by
  have hstep : ∀ least row : String × FailureRecord,
      (if row.2.nextAllowedAt < least.2.nextAllowedAt then some row else some least) = some (older least row) := by
    intro least row
    rw [older]
    split <;> rfl
  rw [oldestKey, List.foldl_cons]
  exact congrArg (Option.map Prod.fst) (List.foldl_hom some hstep)

/-- Where there are records, the oldest key is that of one with the smallest `nextAllowedAt`. -/
theorem oldestKey_spec {tracker : AuthFailureTracker} {key : String} (h : tracker.oldestKey = some key) :
    ∃ record, (key, record) ∈ tracker.failures ∧
      ∀ row ∈ tracker.failures, record.nextAllowedAt ≤ row.2.nextAllowedAt := by
  obtain ⟨rows⟩ := tracker
  cases rows with
  | nil => cases h
  | cons least rows =>
    obtain ⟨hmem, hmin⟩ := foldl_older rows least
    rw [oldestKey_cons] at h
    cases h
    exact ⟨_, hmem, hmin⟩

theorem oldestKey_isSome {tracker : AuthFailureTracker} (h : tracker.failures ≠ []) : tracker.oldestKey.isSome := by
  obtain ⟨rows⟩ := tracker
  cases rows with
  | nil => exact absurd rfl h
  | cons least rows => rw [oldestKey_cons]; rfl

end AuthFailureTracker

open AuthFailureTracker

/-- What is done to a tracker, and the readings of the clock. -/
inductive TrackerStep where
  | recordFailure (address : String) (now : Nat)
  | recordSuccess (address : String)
  | cleanup (now : Nat)
  deriving DecidableEq, Repr

namespace TrackerStep

def now : TrackerStep → Option Nat
  | recordFailure _ now => some now
  | recordSuccess _ => none
  | cleanup now => some now

def apply (tracker : AuthFailureTracker) : TrackerStep → AuthFailureTracker
  | recordFailure address now => tracker.recordFailure address now
  | recordSuccess address => tracker.recordSuccess address
  | cleanup now => tracker.cleanup now

/-- The address whose record a step evicts for capacity. -/
def evicted (tracker : AuthFailureTracker) : TrackerStep → Option String
  | recordFailure address _ =>
    if (tracker.failures.lookup address).isNone ∧ MAX_CAPACITY ≤ tracker.failures.length then tracker.oldestKey
    else none
  | _ => none

/-- What a step is for an address: a failure at a time, or a success. -/
def mark (address : String) : TrackerStep → Option (Option Nat)
  | recordFailure other now => if other = address then some (some now) else none
  | recordSuccess other => if other = address then some none else none
  | cleanup _ => none

end TrackerStep

def AuthFailureTracker.after (steps : List TrackerStep) : AuthFailureTracker := steps.foldl TrackerStep.apply {}

/-- The readings of the clock do not go back. -/
def Clocked (steps : List TrackerStep) : Prop := (steps.filterMap TrackerStep.now).Pairwise (· ≤ ·)

def WasEvicted (address : String) (steps : List TrackerStep) : Prop :=
  ∃ past step, past ++ [step] <+: steps ∧ step.evicted (after past) = some address

/-- The failures, with their times, and the successes of an address. -/
def marksOf (address : String) (steps : List TrackerStep) : List (Option Nat) :=
  steps.filterMap (TrackerStep.mark address)

/-- The failures of a history since its last success or its last gap of at least the window. -/
structure StreakTimes (marks : List (Option Nat)) (times : List Nat) : Prop where
  split : ∃ before, marks = before ++ times.map some ∧
    ∀ last ∈ before.getLast?, last = none ∨ ∃ t u, last = some t ∧ times.head? = some u ∧ t + FAILURE_WINDOW_MS ≤ u
  chain : times.IsChain fun t u => u < t + FAILURE_WINDOW_MS

/-- The same failures, one mark after the other. -/
def nextTimes (times : List Nat) : Option Nat → List Nat
  | none => []
  | some now => if times.getLast?.any fun t => now < t + FAILURE_WINDOW_MS then times ++ [now] else [now]

def sinceBreak (marks : List (Option Nat)) : List Nat := marks.foldl nextTimes []

theorem sinceBreak_snoc (marks : List (Option Nat)) (mark : Option Nat) :
    sinceBreak (marks ++ [mark]) = nextTimes (sinceBreak marks) mark := List.foldl_concat _ _ _ _

theorem streakTimes_sinceBreak (marks : List (Option Nat)) : StreakTimes marks (sinceBreak marks) := by
  induction marks using List.reverseRecOn with
  | nil => exact ⟨⟨[], rfl, by simp⟩, .nil⟩
  | append_singleton marks mark ih =>
    obtain ⟨⟨before, hmarks, hbreak⟩, hchain⟩ := ih
    rw [sinceBreak_snoc]
    cases mark with
    | none => exact ⟨⟨marks ++ [none], by simp [nextTimes], by simp⟩, .nil⟩
    | some now =>
      rw [nextTimes]
      cases hlast : (sinceBreak marks).getLast? with
      | none =>
        have hempty := List.getLast?_eq_none_iff.mp hlast
        rw [hempty] at hmarks hbreak
        refine ⟨⟨before, by simp [hmarks], fun last hl => ?_⟩, by simp⟩
        rcases hbreak last hl with hnone | ⟨t, u, -, hu, -⟩
        · exact .inl hnone
        · cases hu
      | some t =>
        rw [Option.any_some]
        split
        next hgap =>
          refine ⟨⟨before, by rw [List.map_append, ← List.append_assoc, ← hmarks]; rfl, fun last hl => ?_⟩, ?_⟩
          · rcases hbreak last hl with hnone | ⟨v, u, hv, hu, hle⟩
            · exact .inl hnone
            · exact .inr ⟨v, u, hv, by rw [List.head?_append, hu]; rfl, hle⟩
          · refine List.isChain_append.mpr ⟨hchain, List.isChain_singleton _, ?_⟩
            rw [hlast]
            simpa using hgap
        next hgap =>
          obtain ⟨times, htimes⟩ := List.getLast?_eq_some_iff.mp hlast
          refine ⟨⟨marks, rfl, fun last hl => .inr ⟨t, now, ?_, rfl, by simpa using hgap⟩⟩, List.isChain_singleton _⟩
          rw [hmarks, htimes, List.map_append, ← List.append_assoc, List.map_singleton, List.getLast?_concat] at hl
          simpa using hl.symm

theorem sinceBreak_of_streakTimes {marks : List (Option Nat)} {times : List Nat} (h : StreakTimes marks times) :
    times = sinceBreak marks := by
  induction marks using List.reverseRecOn generalizing times with
  | nil =>
    obtain ⟨before, hmarks, -⟩ := h.split
    have htimes : times = [] := by simpa using (List.append_eq_nil_iff.mp hmarks.symm).2
    exact htimes
  | append_singleton marks mark ih =>
    obtain ⟨⟨before, hmarks, hbreak⟩, hchain⟩ := h
    rw [sinceBreak_snoc]
    rcases times.eq_nil_or_concat' with rfl | ⟨times, now, rfl⟩
    · have hnone : mark = none := by
        rw [List.map_nil, List.append_nil] at hmarks
        rcases hbreak mark (by simp [← hmarks]) with hnone | ⟨t, u, -, hu, -⟩
        · exact hnone
        · cases hu
      rw [hnone]
      rfl
    · rw [List.map_append, ← List.append_assoc, List.map_singleton] at hmarks
      obtain ⟨hbefore, hmark⟩ := List.append_inj' hmarks rfl
      obtain rfl : mark = some now := by simpa using hmark
      rw [nextTimes]
      rcases times.eq_nil_or_concat' with rfl | ⟨earlier, last, rfl⟩
      · -- the first failure after the break
        rw [List.map_nil, List.append_nil] at hbefore
        rw [if_neg]
        · rfl
        intro hgap
        obtain ⟨t, ht, hlt⟩ := (Option.any_eq_true _ _).mp hgap
        obtain ⟨init, hinit⟩ := List.getLast?_eq_some_iff.mp ht
        obtain ⟨start, hstart, -⟩ := (streakTimes_sinceBreak marks).split
        rw [hinit, List.map_append, ← List.append_assoc, List.map_singleton] at hstart
        rcases hbreak (some t) (by rw [← hbefore, hstart, List.getLast?_concat]; rfl) with hnone | ⟨v, u, hv, hu, hle⟩
        · cases hnone
        · cases hv
          cases hu
          simp only [decide_eq_true_eq] at hlt
          omega
      · obtain ⟨hprior, -, hlast⟩ := List.isChain_append.mp hchain
        have hstreak : StreakTimes marks (earlier ++ [last]) := by
          refine ⟨⟨before, hbefore, fun first hfirst => ?_⟩, hprior⟩
          rcases hbreak first hfirst with hnone | ⟨t, u, ht, hu, hle⟩
          · exact .inl hnone
          · refine .inr ⟨t, u, ht, ?_, hle⟩
            rwa [List.head?_append_of_ne_nil _ (by simp)] at hu
        have hgap : now < last + FAILURE_WINDOW_MS := by simpa using hlast
        rw [← ih hstreak, List.getLast?_concat, Option.any_some, if_pos (by simpa using hgap)]

section

variable {tracker : AuthFailureTracker} {address other : String} {steps : List TrackerStep} {step : TrackerStep}

theorem lookup_makeRoom (tracker : AuthFailureTracker) (address other : String) (now : Nat) :
    (tracker.makeRoom address).lookup other =
      if (TrackerStep.recordFailure address now).evicted tracker = some other then none
      else tracker.failures.lookup other := by
  rw [makeRoom, TrackerStep.evicted]
  split
  next =>
    cases holdest : tracker.oldestKey with
    | none => simp
    | some key =>
      rw [RecordMap.lookup_delete]
      simp [eq_comm]
  next => simp

theorem lookup_recordFailure (tracker : AuthFailureTracker) (address other : String) (now : Nat) :
    (tracker.recordFailure address now).failures.lookup other =
      if other = address then some (nextRecord now (tracker.failures.lookup address))
      else if (TrackerStep.recordFailure address now).evicted tracker = some other then none
      else tracker.failures.lookup other := by
  rw [recordFailure, RecordMap.lookup_set, lookup_makeRoom tracker address other now]

theorem nextRecord_backoff (now : Nat) (existing : Option FailureRecord) :
    (nextRecord now existing).nextAllowedAt =
      (nextRecord now existing).lastFailureAt + backoffMs (nextRecord now existing).count := by
  have hfirst : backoffMs 1 = BASE_BACKOFF_MS := by decide
  cases existing with
  | none => simp only [nextRecord, hfirst]
  | some existing =>
    simp only [nextRecord]
    split
    next => rfl
    next => simp only [hfirst]

theorem makeRoom_sublist (tracker : AuthFailureTracker) (address : String) :
    (tracker.makeRoom address).Sublist tracker.failures := by
  rw [makeRoom]
  split
  next =>
    cases tracker.oldestKey with
    | none => exact .refl _
    | some key => exact List.filter_sublist
  next => exact .refl _

theorem length_recordFailure (now : Nat) (h : tracker.failures.length ≤ MAX_CAPACITY) :
    (tracker.recordFailure address now).failures.length ≤ MAX_CAPACITY := by
  rw [recordFailure]
  dsimp only
  rw [makeRoom]
  cases hold : tracker.failures.lookup address with
  | some record =>
    rw [if_neg (by simp), RecordMap.length_set_of_mem (by rw [hold]; rfl)]
    exact h
  | none =>
    split
    next hfull =>
      have hempty : tracker.failures ≠ [] := by
        intro hnil
        rw [hnil] at hfull
        exact absurd hfull.2 (by decide)
      obtain ⟨key, hkey⟩ := Option.isSome_iff_exists.mp (oldestKey_isSome hempty)
      obtain ⟨record, hmem, -⟩ := oldestKey_spec hkey
      rw [hkey]
      have hdelete := RecordMap.length_delete_lt (List.mem_map_of_mem (f := Prod.fst) hmem)
      have hset := RecordMap.length_set_le (tracker.failures.delete key) address (nextRecord now none)
      dsimp only at hdelete ⊢
      omega
    next hroom =>
      have hset := RecordMap.length_set_le tracker.failures address (nextRecord now none)
      simp only [Option.isNone_none, true_and, not_le] at hroom
      omega

theorem lookup_cleanup (hnodup : (tracker.failures.map Prod.fst).Nodup) (now : Nat) :
    (tracker.cleanup now).failures.lookup other = (tracker.failures.lookup other).filter fun record =>
      !(record.lastFailureAt + FAILURE_WINDOW_MS < now || record.nextAllowedAt + 3600000 < now) :=
  RecordMap.lookup_filter hnodup _

theorem marksOf_snoc (address : String) (steps : List TrackerStep) (step : TrackerStep) :
    marksOf address (steps ++ [step]) = marksOf address steps ++ (step.mark address).toList := by
  rw [marksOf, List.filterMap_append]
  cases h : step.mark address <;> simp [marksOf, h]

theorem not_evicted_snoc (h : ¬ WasEvicted address (steps ++ [step])) :
    ¬ WasEvicted address steps ∧ step.evicted (after steps) ≠ some address :=
  ⟨fun ⟨past, e, hpast, he⟩ => h ⟨past, e, hpast.trans (List.prefix_append _ _), he⟩,
    fun he => h ⟨steps, step, List.prefix_rfl, he⟩⟩

theorem Clocked.snoc (h : Clocked (steps ++ [step])) :
    Clocked steps ∧ ∀ t ∈ step.now, ∀ u ∈ steps.filterMap TrackerStep.now, u ≤ t := by
  rw [Clocked, List.filterMap_append, List.pairwise_append] at h
  exact ⟨h.1, fun t ht u hu => h.2.2 u hu t (List.mem_filterMap.mpr ⟨step, by simp, ht⟩)⟩

theorem after_snoc (steps : List TrackerStep) (step : TrackerStep) :
    after (steps ++ [step]) = step.apply (after steps) := List.foldl_concat _ _ _ _

/-- A failure is counted after those that the record there is counts. -/
theorem nextRecord_counts {times : List Nat} {existing : Option FailureRecord} {now : Nat}
    (hheld : ∀ record ∈ existing, record.count = times.length ∧ times.getLast? = some record.lastFailureAt)
    (hgone : existing = none → ∀ t ∈ times.getLast?, t + FAILURE_WINDOW_MS ≤ now) :
    (nextRecord now existing).count = (nextTimes times (some now)).length ∧
      (nextTimes times (some now)).getLast? = some (nextRecord now existing).lastFailureAt := by
  rw [nextTimes]
  cases existing with
  | none =>
    rw [if_neg]
    · exact ⟨rfl, rfl⟩
    intro hgap
    obtain ⟨t, ht, hlt⟩ := (Option.any_eq_true _ _).mp hgap
    have hle := hgone rfl t ht
    simp only [decide_eq_true_eq] at hlt
    omega
  | some existing =>
    obtain ⟨hcount, hlast⟩ := hheld existing rfl
    rw [hlast, Option.any_some]
    by_cases hgap : now < existing.lastFailureAt + FAILURE_WINDOW_MS
    · simp [nextRecord, hgap, hcount]
    · simp [nextRecord, hgap]

end

/-- What a tracker holds after its steps. -/
structure Scheduled (steps : List TrackerStep) (tracker : AuthFailureTracker) : Prop where
  nodup : (tracker.failures.map Prod.fst).Nodup
  bounded : tracker.failures.length ≤ MAX_CAPACITY
  backoff : ∀ address record, tracker.failures.lookup address = some record →
    record.nextAllowedAt = record.lastFailureAt + backoffMs record.count
  held : ∀ address record, ¬ WasEvicted address steps → tracker.failures.lookup address = some record →
    record.count = (sinceBreak (marksOf address steps)).length ∧
      (sinceBreak (marksOf address steps)).getLast? = some record.lastFailureAt
  gone : ∀ address, ¬ WasEvicted address steps → tracker.failures.lookup address = none →
    ∀ t ∈ (sinceBreak (marksOf address steps)).getLast?,
      ∃ u ∈ steps.filterMap TrackerStep.now, t + FAILURE_WINDOW_MS < u

namespace Scheduled

variable {steps : List TrackerStep}

theorem nil : Scheduled [] {} where
  nodup := List.nodup_nil
  bounded := Nat.zero_le _
  backoff _ _ h := nomatch h
  held _ _ _ h := nomatch h
  gone _ _ _ _ h := nomatch h

/-- A reading that came is still there after a step. -/
theorem later {t : Nat} (step : TrackerStep) (h : ∃ u ∈ steps.filterMap TrackerStep.now, t < u) :
    ∃ u ∈ (steps ++ [step]).filterMap TrackerStep.now, t < u := by
  obtain ⟨u, hu, hlt⟩ := h
  refine ⟨u, ?_, hlt⟩
  rw [List.filterMap_append]
  exact List.mem_append_left _ hu

theorem recordFailure (h : Scheduled steps (after steps)) (address : String) (now : Nat)
    (hclock : ∀ u ∈ steps.filterMap TrackerStep.now, u ≤ now) :
    Scheduled (steps ++ [.recordFailure address now]) ((after steps).recordFailure address now) where
  nodup := RecordMap.nodup_set (h.nodup.sublist ((makeRoom_sublist _ _).map _)) _ _
  bounded := length_recordFailure now h.bounded
  backoff other record hrecord := by
    rw [lookup_recordFailure] at hrecord
    split at hrecord
    next =>
      cases hrecord
      exact nextRecord_backoff _ _
    next =>
      split at hrecord
      next => cases hrecord
      next => exact h.backoff other record hrecord
  held other record hkept hrecord := by
    obtain ⟨hbefore, hkept⟩ := not_evicted_snoc hkept
    rw [lookup_recordFailure] at hrecord
    rw [marksOf_snoc]
    split at hrecord
    next heq =>
      cases hrecord
      subst heq
      rw [TrackerStep.mark, if_pos rfl, Option.toList_some, sinceBreak_snoc]
      refine nextRecord_counts (h.held other · hbefore) fun hnone t ht => ?_
      obtain ⟨u, hu, hlt⟩ := h.gone other hbefore hnone t ht
      exact (hlt.trans_le (hclock u hu)).le
    next hne =>
      rw [TrackerStep.mark, if_neg (Ne.symm hne), Option.toList_none, List.append_nil]
      exact h.held other record hbefore hrecord
  gone other hkept hnone t ht := by
    obtain ⟨hbefore, hkept⟩ := not_evicted_snoc hkept
    rw [lookup_recordFailure] at hnone
    split at hnone
    next => cases hnone
    next hne =>
      rw [marksOf_snoc, TrackerStep.mark, if_neg (Ne.symm hne), Option.toList_none, List.append_nil] at ht
      exact later _ (h.gone other hbefore hnone t ht)

theorem recordSuccess (h : Scheduled steps (after steps)) (address : String) :
    Scheduled (steps ++ [.recordSuccess address]) ((after steps).recordSuccess address) where
  nodup := h.nodup.sublist (List.filter_sublist.map _)
  bounded := (List.length_filter_le _ _).trans h.bounded
  backoff other record hrecord := by
    rw [AuthFailureTracker.recordSuccess, RecordMap.lookup_delete] at hrecord
    split at hrecord
    next => cases hrecord
    next => exact h.backoff other record hrecord
  held other record hkept hrecord := by
    rw [AuthFailureTracker.recordSuccess, RecordMap.lookup_delete] at hrecord
    rw [marksOf_snoc]
    split at hrecord
    next => cases hrecord
    next hne =>
      rw [TrackerStep.mark, if_neg (Ne.symm hne), Option.toList_none, List.append_nil]
      exact h.held other record (not_evicted_snoc hkept).1 hrecord
  gone other hkept hnone t ht := by
    rw [AuthFailureTracker.recordSuccess, RecordMap.lookup_delete] at hnone
    rw [marksOf_snoc] at ht
    split at hnone
    next heq =>
      rw [TrackerStep.mark, if_pos heq.symm, Option.toList_some, sinceBreak_snoc] at ht
      cases ht
    next hne =>
      rw [TrackerStep.mark, if_neg (Ne.symm hne), Option.toList_none, List.append_nil] at ht
      exact later _ (h.gone other (not_evicted_snoc hkept).1 hnone t ht)

theorem cleanup (h : Scheduled steps (after steps)) (now : Nat) :
    Scheduled (steps ++ [.cleanup now]) ((after steps).cleanup now) where
  nodup := h.nodup.sublist (List.filter_sublist.map _)
  bounded := (List.length_filter_le _ _).trans h.bounded
  backoff other record hrecord := by
    rw [lookup_cleanup h.nodup] at hrecord
    exact h.backoff other record (Option.eq_some_of_filter_eq_some hrecord)
  held other record hkept hrecord := by
    rw [lookup_cleanup h.nodup] at hrecord
    rw [marksOf_snoc, TrackerStep.mark, Option.toList_none, List.append_nil]
    exact h.held other record (not_evicted_snoc hkept).1 (Option.eq_some_of_filter_eq_some hrecord)
  gone other hkept hnone t ht := by
    obtain ⟨hbefore, -⟩ := not_evicted_snoc hkept
    rw [marksOf_snoc, TrackerStep.mark, Option.toList_none, List.append_nil] at ht
    rw [lookup_cleanup h.nodup] at hnone
    cases hrecord : (after steps).failures.lookup other with
    | none => exact later _ (h.gone other hbefore hrecord t ht)
    | some record =>
      -- either rule leaves a whole window after the last failure
      obtain ⟨-, hlast⟩ := h.held other record hbefore hrecord
      have hnext := h.backoff other record hrecord
      obtain rfl : record.lastFailureAt = t := Option.some.inj (hlast.symm.trans ht)
      have hwindow : FAILURE_WINDOW_MS ≤ 3600000 := by decide
      refine ⟨now, by simp [TrackerStep.now], ?_⟩
      rw [hrecord] at hnone
      simp only [Option.filter_some, ite_eq_right_iff, reduceCtorEq, imp_false, Bool.not_eq_true,
        Bool.not_eq_false', Bool.or_eq_true, decide_eq_true_eq] at hnone
      omega

/-- Whatever the steps, as long as the clock does not go back. -/
theorem after_run : ∀ steps, Clocked steps → Scheduled steps (after steps) := by
  intro steps hclock
  induction steps using List.reverseRecOn with
  | nil => exact nil
  | append_singleton steps step ih =>
    obtain ⟨hbefore, hnow⟩ := hclock.snoc
    have hscheduled := ih hbefore
    rw [after_snoc]
    cases step with
    | recordFailure address now => exact hscheduled.recordFailure address now (hnow now rfl)
    | recordSuccess address => exact hscheduled.recordSuccess address
    | cleanup now => exact hscheduled.cleanup now

end Scheduled

/-- A tracker keeps the schedule in every run. -/
structure KeepsSchedule (steps : List TrackerStep) : Prop where
  bounded : (after steps).failures.length ≤ 10000
  counted : ∀ address, ∃ times, StreakTimes (marksOf address steps) times
  exact : ∀ address record times, ¬ WasEvicted address steps →
    (after steps).failures.lookup address = some record → StreakTimes (marksOf address steps) times →
    record.count = times.length ∧ times.getLast? = some record.lastFailureAt ∧
      record.nextAllowedAt = record.lastFailureAt + min (2 ^ (record.count - 1) * 1000) 60000
  kept : ∀ address times last, ¬ WasEvicted address steps → StreakTimes (marksOf address steps) times →
    times.getLast? = some last → (∀ now ∈ steps.filterMap TrackerStep.now, now ≤ last + FAILURE_WINDOW_MS) →
    ((after steps).failures.lookup address).isSome
  swept : ∀ past now, past ++ [.cleanup now] <+: steps → ∀ address later, now ≤ later →
    (after (past ++ [.cleanup now])).isAllowed address later = (after past).isAllowed address later
  evicts : ∀ past address now other record, past ++ [.recordFailure address now] <+: steps →
    (after past).failures.lookup other = some record →
    ((after (past ++ [.recordFailure address now])).failures.lookup other = none ↔
      (TrackerStep.recordFailure address now).evicted (after past) = some other)
  smallest : ∀ past step key, past ++ [step] <+: steps → step.evicted (after past) = some key →
    ∃ record, (after past).failures.lookup key = some record ∧
      ∀ other otherRecord, (after past).failures.lookup other = some otherRecord →
        record.nextAllowedAt ≤ otherRecord.nextAllowedAt

section

variable {tracker : AuthFailureTracker} {steps past : List TrackerStep}

theorem isAllowed_cleanup (h : Scheduled steps tracker) {now later : Nat} (hlater : now ≤ later) (address : String) :
    (tracker.cleanup now).isAllowed address later = tracker.isAllowed address later := by
  rw [isAllowed, isAllowed, lookup_cleanup h.nodup]
  cases hrecord : tracker.failures.lookup address with
  | none => rfl
  | some record =>
    -- a record still backed off is inside both limits: the longest backoff is shorter than the window
    have hnext := h.backoff address record hrecord
    have hmost : backoffMs record.count ≤ FAILURE_WINDOW_MS := (min_le_right _ _).trans (by decide)
    rw [Option.filter_some]
    by_cases hallowed : record.nextAllowedAt ≤ later
    · split_ifs <;> simp [hallowed]
    · rw [if_pos]
      simp only [Bool.not_eq_true', Bool.or_eq_false_iff, decide_eq_false_iff_not]
      omega

theorem lookup_of_evicted {step : TrackerStep} {key : String} (hnodup : (tracker.failures.map Prod.fst).Nodup)
    (h : step.evicted tracker = some key) : ∃ record, tracker.failures.lookup key = some record ∧
      ∀ other otherRecord, tracker.failures.lookup other = some otherRecord →
        record.nextAllowedAt ≤ otherRecord.nextAllowedAt := by
  cases step with
  | recordSuccess address => cases h
  | cleanup now => cases h
  | recordFailure address now =>
    rw [TrackerStep.evicted] at h
    split at h
    next =>
      obtain ⟨record, hmem, hmin⟩ := oldestKey_spec h
      exact ⟨record, RecordMap.lookup_of_mem hnodup hmem,
        fun other otherRecord hother => hmin _ (RecordMap.mem_of_lookup hother)⟩
    next => cases h

theorem lookup_none_iff_evicted {address other : String} {now : Nat} {record : FailureRecord}
    (h : tracker.failures.lookup other = some record) :
    (tracker.recordFailure address now).failures.lookup other = none ↔
      (TrackerStep.recordFailure address now).evicted tracker = some other := by
  rw [lookup_recordFailure]
  split
  next heq =>
    subst heq
    simp [TrackerStep.evicted, h]
  next => simp [h]

theorem Clocked.of_prefix (h : Clocked steps) (hpast : past <+: steps) : Clocked past :=
  List.Pairwise.sublist (hpast.sublist.filterMap _) h

/-- The tracker's schedule is exact and bounded. -/
theorem tracker_keeps_schedule (hclock : Clocked steps) : KeepsSchedule steps := by
  have hrun := Scheduled.after_run steps hclock
  have hpast : ∀ {past step}, past ++ [step] <+: steps → Scheduled past (after past) :=
    fun h => Scheduled.after_run _ (hclock.of_prefix ((List.prefix_append _ _).trans h))
  refine ⟨hrun.bounded, fun address => ⟨_, streakTimes_sinceBreak _⟩, ?_, ?_, ?_, ?_, ?_⟩
  · intro address record times hkept hrecord htimes
    obtain ⟨hcount, hlast⟩ := hrun.held address record hkept hrecord
    rw [← sinceBreak_of_streakTimes htimes] at hcount hlast
    exact ⟨hcount, hlast, hrun.backoff address record hrecord⟩
  · intro address times last hkept htimes hlast hnow
    rw [sinceBreak_of_streakTimes htimes] at hlast
    cases hrecord : (after steps).failures.lookup address with
    | some record => rfl
    | none =>
      obtain ⟨u, hu, hlt⟩ := hrun.gone address hkept hrecord last hlast
      exact absurd (hnow u hu) (Nat.not_le.mpr hlt)
  · intro past now hprefix address later hlater
    rw [after_snoc]
    exact isAllowed_cleanup (hpast hprefix) hlater address
  · intro past address now other record _ hrecord
    rw [after_snoc]
    exact lookup_none_iff_evicted hrecord
  · intro past step key hprefix hevicted
    exact lookup_of_evicted (hpast hprefix).nodup hevicted

/-- Two failures, a sweep, a success, and a failure exactly a window after the last. -/
def someSteps : List TrackerStep :=
  [.recordFailure "a" 0, .recordFailure "a" 1000, .cleanup 60000, .recordSuccess "b", .recordFailure "b" 300000,
    .recordFailure "a" 301000]

theorem tracker_keeps_schedule_someSteps : Clocked someSteps ∧ KeepsSchedule someSteps :=
  have hclock : Clocked someSteps := by
    unfold Clocked
    decide
  ⟨hclock, tracker_keeps_schedule hclock⟩

end

end OurDao
