import OurDao.Auth
import OurDao.Runs

/-!
# Backing off after failed attempts

`AuthFailureTracker` keeps for each address a count of failures and the time from which it may
try again. On its own it keeps the schedule. `authenticateRequest` never asks it and never tells
it of a failure: the schedule is kept by requests that keep to it by themselves.
-/

namespace OurDao

/-- The rows of a `Map`, in the order of their first insertion. -/
abbrev RecordMap (ν : Type) : Type := List (String × ν)

namespace RecordMap

variable {ν : Type} (rows : RecordMap ν) (key other : String) (value : ν)

def set : RecordMap ν → String → ν → RecordMap ν
  | [], key, value => [(key, value)]
  | (first, old) :: rest, key, value =>
    if first = key then (first, value) :: rest else (first, old) :: set rest key value

def delete : RecordMap ν := rows.filter fun row => row.1 ≠ key

theorem lookup_cons (first : String) (old : ν) (rest : RecordMap ν) :
    List.lookup other ((first, old) :: rest) = if other = first then some old else rest.lookup other := by
  by_cases h : other = first
  · simp [h]
  · rw [List.lookup_cons, beq_false_of_ne h, if_neg h]

theorem lookup_set : (rows.set key value).lookup other = if other = key then some value else rows.lookup other := by
  induction rows with
  | nil => exact lookup_cons other key value []
  | cons row rest ih =>
    obtain ⟨first, old⟩ := row
    by_cases hfirst : first = key
    · subst hfirst
      rw [set, if_pos rfl, lookup_cons, lookup_cons]
      split <;> rfl
    · rw [set, if_neg hfirst, lookup_cons, lookup_cons, ih]
      by_cases h : other = first
      · subst h
        simp [hfirst]
      · simp [h]

theorem lookup_delete : (rows.delete key).lookup other = if other = key then none else rows.lookup other := by
  induction rows with
  | nil => simp [delete]
  | cons row rest ih =>
    obtain ⟨first, old⟩ := row
    rw [delete] at ih
    by_cases hfirst : first = key
    · subst hfirst
      rw [delete, List.filter_cons_of_neg (by simp), ih, lookup_cons]
      split <;> rfl
    · rw [delete, List.filter_cons_of_pos (by simpa using hfirst), lookup_cons, lookup_cons, ih]
      by_cases h : other = first
      · subst h
        simp [hfirst]
      · simp [h]

end RecordMap

structure FailureRecord where
  count : Nat
  lastFailureAt : Nat
  nextAllowedAt : Nat
  deriving DecidableEq, Repr

structure AuthFailureTracker where
  failures : RecordMap FailureRecord := []
  deriving DecidableEq, Repr

namespace AuthFailureTracker

def BASE_BACKOFF_MS : Nat := 1000

def MAX_BACKOFF_MS : Nat := 60000

def FAILURE_WINDOW_MS : Nat := 300000

def MAX_CAPACITY : Nat := 10000

/-- The backoff after `count` failures. -/
def backoffMs (count : Nat) : Nat := min (2 ^ (count - 1) * BASE_BACKOFF_MS) MAX_BACKOFF_MS

variable (tracker : AuthFailureTracker) (address : String) (now : Nat)

/-- What the timer does every minute. -/
def cleanup : AuthFailureTracker where
  failures := tracker.failures.filter fun row =>
    !(row.2.lastFailureAt + FAILURE_WINDOW_MS < now || row.2.nextAllowedAt + 3600000 < now)

def isAllowed : Bool :=
  match tracker.failures.lookup address with
  | none => true
  | some record => record.nextAllowedAt ≤ now

def getRemainingBackoff : Nat :=
  match tracker.failures.lookup address with
  | none => 0
  | some record => record.nextAllowedAt - now

theorem isAllowed_iff_remaining :
    tracker.isAllowed address now = true ↔ tracker.getRemainingBackoff address now = 0 := by
  rw [isAllowed, getRemainingBackoff]
  cases tracker.failures.lookup address with
  | none => simp
  | some record =>
    simp only [decide_eq_true_eq]
    omega

/-- The first of the rows that may try again the earliest. -/
def oldestKey : Option String :=
  (tracker.failures.foldl (fun oldest row =>
    match oldest with
    | none => some row
    | some least => if row.2.nextAllowedAt < least.2.nextAllowedAt then some row else some least) none).map Prod.fst

/-- Room for an address: the oldest record goes where it is new and the tracker is full. -/
def makeRoom : RecordMap FailureRecord :=
  if (tracker.failures.lookup address).isNone ∧ MAX_CAPACITY ≤ tracker.failures.length then
    match tracker.oldestKey with
    | some oldestKey => tracker.failures.delete oldestKey
    | none => tracker.failures
  else tracker.failures

/-- The record of a failure, after the one that exists. -/
def nextRecord (existing : Option FailureRecord) : FailureRecord :=
  let first : FailureRecord := { count := 1, lastFailureAt := now, nextAllowedAt := now + BASE_BACKOFF_MS }
  match existing with
  | none => first
  | some existing =>
    if now < existing.lastFailureAt + FAILURE_WINDOW_MS then
      { count := existing.count + 1, lastFailureAt := now, nextAllowedAt := now + backoffMs (existing.count + 1) }
    else first

def recordFailure : AuthFailureTracker where
  failures := (tracker.makeRoom address).set address (nextRecord now (tracker.failures.lookup address))

def recordSuccess : AuthFailureTracker where
  failures := tracker.failures.delete address

end AuthFailureTracker

open AuthFailureTracker

/-- A verification of a signature and a nonce for an address. -/
structure Attempt where
  address : String
  succeeded : Bool
  now : Nat
  deriving DecidableEq, Repr

/-- The attempts for one address. -/
def attemptsFor (address : String) (attempts : List Attempt) : List Attempt :=
  attempts.filter fun a => a.address = address

/-- `n` failures in a row, each less than the window after the one before, keep an address from
succeeding for `backoffMs n` after the last of them. -/
def BacksOff (attempts : List Attempt) : Prop :=
  ∀ address before failures last success after,
    attemptsFor address attempts = before ++ (failures ++ [last]) ++ success :: after →
    (∀ f ∈ failures ++ [last], f.succeeded = false) →
    (failures ++ [last]).IsChain (fun f g => g.now < f.now + FAILURE_WINDOW_MS) →
    success.succeeded = true → last.now + backoffMs (failures.length + 1) ≤ success.now

/-- How many failures in a row there have been, and when the last was. -/
structure Streak where
  count : Nat
  lastFailureAt : Nat
  deriving DecidableEq, Repr

def Streak.next (streak : Option Streak) (a : Attempt) : Option Streak :=
  if a.succeeded then none
  else match streak with
    | none => some ⟨1, a.now⟩
    | some s => some ⟨if a.now < s.lastFailureAt + FAILURE_WINDOW_MS then s.count + 1 else 1, a.now⟩

def streak (attempts : List Attempt) : Option Streak := attempts.foldl Streak.next none

theorem streak_snoc (attempts : List Attempt) (a : Attempt) :
    streak (attempts ++ [a]) = Streak.next (streak attempts) a := by simp [streak]

/-- Failures in a row are part of the streak. -/
theorem streak_of_failures (before failures : List Attempt) (last : Attempt)
    (hfail : ∀ f ∈ failures ++ [last], f.succeeded = false)
    (hchain : (failures ++ [last]).IsChain fun f g => g.now < f.now + FAILURE_WINDOW_MS) :
    ∃ count, failures.length + 1 ≤ count ∧ streak (before ++ (failures ++ [last])) = some ⟨count, last.now⟩ := by
  induction failures using List.reverseRecOn generalizing last with
  | nil =>
    have hlast : last.succeeded = false := hfail last (by simp)
    rw [List.nil_append, streak_snoc]
    simp only [Streak.next, hlast, Bool.false_eq_true, if_false]
    cases streak before with
    | none => exact ⟨1, le_rfl, rfl⟩
    | some s =>
      refine ⟨_, ?_, rfl⟩
      dsimp only [List.length_nil]
      split <;> omega
  | append_singleton failures prior ih =>
    have hlast : last.succeeded = false := hfail last (by simp)
    have hprior : (failures ++ [prior]).IsChain fun f g => g.now < f.now + FAILURE_WINDOW_MS :=
      hchain.left_of_append
    have hgap : last.now < prior.now + FAILURE_WINDOW_MS := by
      rw [List.append_assoc, List.singleton_append] at hchain
      exact (List.isChain_cons_cons.mp hchain.right_of_append).1
    obtain ⟨count, hcount, hstreak⟩ := ih prior (fun f hf => hfail f (List.mem_append_left _ hf)) hprior
    refine ⟨count + 1, ?_, ?_⟩
    · rw [List.length_append, List.length_singleton]
      omega
    · rw [← List.append_assoc, streak_snoc, hstreak]
      simp [Streak.next, hlast, hgap]

/-- A streak is made of failures in a row. -/
theorem failures_of_streak (attempts : List Attempt) {s : Streak} (h : streak attempts = some s) :
    ∃ before failures last, attempts = before ++ (failures ++ [last]) ∧
      (∀ f ∈ failures ++ [last], f.succeeded = false) ∧
      (failures ++ [last]).IsChain (fun f g => g.now < f.now + FAILURE_WINDOW_MS) ∧
      s = ⟨failures.length + 1, last.now⟩ := by
  induction attempts using List.reverseRecOn generalizing s with
  | nil => cases h
  | append_singleton attempts last ih =>
    rw [streak_snoc] at h
    have hlast : last.succeeded = false := by
      by_contra hsucceeded
      simp [Streak.next, hsucceeded] at h
    simp only [Streak.next, hlast, Bool.false_eq_true, if_false] at h
    cases hstreak : streak attempts with
    | none =>
      rw [hstreak] at h
      cases h
      exact ⟨attempts, [], last, rfl, by simpa using hlast, List.isChain_singleton _, rfl⟩
    | some prior =>
      rw [hstreak] at h
      by_cases hgap : last.now < prior.lastFailureAt + FAILURE_WINDOW_MS
      · obtain ⟨before, failures, lastBefore, rfl, hfail, hchain, rfl⟩ := ih hstreak
        simp only [hgap, if_true, Option.some.injEq] at h
        subst h
        refine ⟨before, failures ++ [lastBefore], last, by simp, ?_, ?_, by simp⟩
        · intro f hf
          rcases List.mem_append.mp hf with hf | hf
          · exact hfail f hf
          · rw [List.mem_singleton.mp hf, hlast]
        · refine List.isChain_append.mpr ⟨hchain, List.isChain_singleton _, ?_⟩
          simp [hgap]
      · simp only [hgap, if_false, Option.some.injEq] at h
        subst h
        exact ⟨attempts, [], last, rfl, by simpa using hlast, List.isChain_singleton _, rfl⟩

theorem backoffMs_mono {n m : Nat} (h : n ≤ m) : backoffMs n ≤ backoffMs m := by
  have hpow : 2 ^ (n - 1) ≤ 2 ^ (m - 1) := Nat.pow_le_pow_right (by decide) (by omega)
  have hscaled := Nat.mul_le_mul_right BASE_BACKOFF_MS hpow
  rw [backoffMs, backoffMs]
  omega

/-- Over a history, the schedule is that of the streaks: each success waits for the backoff of the
streak that comes before it. -/
theorem backsOff_iff {attempts : List Attempt} : BacksOff attempts ↔ ∀ past a, past ++ [a] <+: attempts →
    a.succeeded = true → ∀ s, streak (attemptsFor a.address past) = some s →
      s.lastFailureAt + backoffMs s.count ≤ a.now := by
  constructor
  · rintro h past a ⟨rest, rfl⟩ hsucceeded s hstreak
    obtain ⟨before, failures, last, hpast, hfail, hchain, rfl⟩ := failures_of_streak _ hstreak
    have hsplit : attemptsFor a.address (past ++ [a] ++ rest) =
        before ++ (failures ++ [last]) ++ a :: attemptsFor a.address rest := by
      rw [← hpast]
      simp [attemptsFor]
    exact h a.address before failures last a _ hsplit hfail hchain hsucceeded
  · intro h address before failures last success after hsplit hfail hchain hsucceeded
    obtain ⟨past, rest, rfl, hpast, hrest⟩ := List.filter_eq_append_iff.mp hsplit
    obtain ⟨skipped, rest, rfl, hskipped, haddress, -⟩ := List.filter_eq_cons_iff.mp hrest
    have hnone : attemptsFor address skipped = [] := List.filter_eq_nil_iff.mpr hskipped
    have hbefore : attemptsFor success.address (past ++ skipped) = before ++ (failures ++ [last]) := by
      rw [of_decide_eq_true haddress, attemptsFor, List.filter_append, hpast, ← attemptsFor, hnone, List.append_nil]
    obtain ⟨count, hcount, hstreak⟩ := streak_of_failures before failures last hfail hchain
    have hwait := h (past ++ skipped) success (by simp) hsucceeded ⟨count, last.now⟩ (by rw [hbefore, hstreak])
    have hmono := backoffMs_mono hcount
    dsimp only at hwait
    omega

def Streak.record (s : Streak) : FailureRecord where
  count := s.count
  lastFailureAt := s.lastFailureAt
  nextAllowedAt := s.lastFailureAt + backoffMs s.count

namespace AuthFailureTracker

/-- The tracker is told of an attempt. -/
def tell (tracker : AuthFailureTracker) (a : Attempt) : AuthFailureTracker :=
  if a.succeeded then tracker.recordSuccess a.address else tracker.recordFailure a.address a.now

/-- Being told of an attempt evicts nothing. -/
def HasRoom (tracker : AuthFailureTracker) (a : Attempt) : Prop :=
  a.succeeded = true ∨ (tracker.failures.lookup a.address).isSome ∨ tracker.failures.length < MAX_CAPACITY

theorem nextRecord_streak (now : Nat) (s : Option Streak) (address : String) :
    some (nextRecord now (s.map Streak.record)) = (Streak.next s ⟨address, false, now⟩).map Streak.record := by
  have hfirst : backoffMs 1 = BASE_BACKOFF_MS := by decide
  cases s with
  | none => simp [nextRecord, Streak.next, Streak.record, hfirst]
  | some s =>
    by_cases h : now < s.lastFailureAt + FAILURE_WINDOW_MS
    · simp [nextRecord, Streak.next, Streak.record, h]
    · simp [nextRecord, Streak.next, Streak.record, h, hfirst]

theorem lookup_tell {tracker : AuthFailureTracker} {a : Attempt} (h : tracker.HasRoom a) {address : String} :
    (tracker.tell a).failures.lookup address =
      if address = a.address then
        if a.succeeded then none else some (nextRecord a.now (tracker.failures.lookup a.address))
      else tracker.failures.lookup address := by
  by_cases hsucceeded : a.succeeded = true
  · simp [tell, hsucceeded, recordSuccess, RecordMap.lookup_delete]
  · have hkept : tracker.makeRoom a.address = tracker.failures := by
      rw [makeRoom, if_neg]
      rintro ⟨hnew, hfull⟩
      obtain hyes | hold | hroom := h
      · exact hsucceeded hyes
      · rw [Option.isNone_iff_eq_none.mp hnew] at hold
        cases hold
      · omega
    simp [tell, hsucceeded, recordFailure, RecordMap.lookup_set, hkept]

/-- As long as nothing is evicted, the records are those of the streaks. -/
theorem lookup_told {attempts : List Attempt}
    (hroom : ∀ past a, past ++ [a] <+: attempts → (past.foldl tell {}).HasRoom a) (address : String) :
    (attempts.foldl tell {}).failures.lookup address =
      (streak (attemptsFor address attempts)).map Streak.record := by
  induction attempts using List.reverseRecOn generalizing address with
  | nil => rfl
  | append_singleton attempts a ih =>
    have hbefore : ∀ address, (attempts.foldl tell {}).failures.lookup address =
        (streak (attemptsFor address attempts)).map Streak.record :=
      ih fun past b hpast => hroom past b (hpast.trans (List.prefix_append _ _))
    rw [List.foldl_concat, lookup_tell (hroom attempts a List.prefix_rfl)]
    by_cases haddress : address = a.address
    · subst haddress
      have hsnoc : attemptsFor a.address (attempts ++ [a]) = attemptsFor a.address attempts ++ [a] := by
        simp [attemptsFor]
      rw [if_pos rfl, hsnoc, streak_snoc]
      by_cases hsucceeded : a.succeeded = true
      · simp [hsucceeded, Streak.next]
      · rw [if_neg hsucceeded, hbefore, nextRecord_streak a.now _ a.address]
        simp [Streak.next, hsucceeded]
    · have hsnoc : attemptsFor address (attempts ++ [a]) = attemptsFor address attempts := by
        simp [attemptsFor, Ne.symm haddress]
      rw [if_neg haddress, hsnoc, hbefore]

/-- **The tracker keeps the schedule**: where it is told of every attempt, evicts nothing, and
lets every success pass, the addresses are backed off. -/
theorem backsOff_of_told {attempts : List Attempt}
    (hroom : ∀ past a, past ++ [a] <+: attempts → (past.foldl tell {}).HasRoom a)
    (hasked : ∀ past a, past ++ [a] <+: attempts → a.succeeded = true →
      (past.foldl tell {}).isAllowed a.address a.now = true) : BacksOff attempts := by
  rw [backsOff_iff]
  intro past a hpast hsucceeded s hstreak
  have hallowed := hasked past a hpast hsucceeded
  have hlookup := lookup_told (fun past' b hb => hroom past' b (hb.trans (Runs.prefix_of_snoc hpast))) a.address
  rw [hstreak] at hlookup
  simpa [isAllowed, hlookup, Streak.record] using hallowed

end AuthFailureTracker

variable (sdk : StellarSdk)

/-- `authenticateRequest` with a failure tracker. -/
def authenticateTracked {m : Type → Type} [Monad m] (consume : String → String → m Bool)
    (authorization targetAddress : Option String) (failureTracker : AuthFailureTracker) :
    m (AuthResult × AuthFailureTracker) := do
  let result ← authenticateRequest sdk consume authorization targetAddress
  match result with
  | .denied _ _ => return (result, failureTracker)
  | .authenticated address _ => return (result, failureTracker.recordSuccess address)

/-- A call: its arguments, what the nonce store answers, and the reading of the clock. -/
structure AuthCall where
  authorization : Option String
  targetAddress : Option String := none
  nonceValid : Bool
  now : Nat
  deriving DecidableEq, Repr

inductive AuthEvent where
  | call (c : AuthCall)
  | cleanup (now : Nat)
  deriving DecidableEq, Repr

/-- A tracker, and the calls made with it together with their answers. -/
structure TrackedCalls where
  failureTracker : AuthFailureTracker := {}
  answered : List (AuthCall × AuthResult) := []

def TrackedCalls.act (s : TrackedCalls) : AuthEvent → TrackedCalls
  | .call c =>
    let (result, failureTracker) := Id.run
      (authenticateTracked sdk (fun _ _ => c.nonceValid) c.authorization c.targetAddress s.failureTracker)
    { failureTracker, answered := s.answered ++ [(c, result)] }
  | .cleanup now => { s with failureTracker := s.failureTracker.cleanup now }

namespace AuthCall

/-- The address for which the signature or the nonce of a call does not verify. -/
def failed (c : AuthCall) : Option String :=
  match extractAuthHeaders c.authorization with
  | none => none
  | some headers =>
    if headers.address = "" ∨ headers.signature = "" ∨ headers.nonce = "" then none
    else
      match verifySignature sdk headers.address headers.nonce headers.signature with
      | .error _ => some headers.address
      | .ok _ => if c.nonceValid then none else some headers.address

/-- The address of a call with a valid signature and a live nonce, and about itself. -/
def valid (c : AuthCall) : Option String :=
  match checkSignature sdk c.authorization with
  | .error _ => none
  | .ok (headers, _) =>
    if c.nonceValid ∧ ¬ c.targetAddress.any (fun target => target ≠ "" ∧ target ≠ headers.address) then
      some headers.address
    else none

/-- The attempt that a call makes with its arguments. -/
def attempt (c : AuthCall) : Option Attempt :=
  match c.valid sdk with
  | some address => some ⟨address, true, c.now⟩
  | none => (c.failed sdk).map fun address => ⟨address, false, c.now⟩

/-- The attempt that an answered call was. -/
def answeredAttempt (c : AuthCall) : AuthResult → Option Attempt
  | .authenticated address _ => some ⟨address, true, c.now⟩
  | .denied _ _ => (c.failed sdk).map fun address => ⟨address, false, c.now⟩

end AuthCall

def TrackedCalls.attempts (s : TrackedCalls) : List Attempt :=
  s.answered.filterMap fun r => r.1.answeredAttempt sdk r.2

/-- The calls among the events. -/
def callsOf (events : List AuthEvent) : List AuthCall :=
  events.filterMap fun
    | .call c => some c
    | .cleanup _ => none

/-- No call with a valid signature and a live nonce, about itself, comes before the backoff of the
failures of its address in the calls before it. -/
def Patient (events : List AuthEvent) : Prop :=
  ∀ past c, past ++ [c] <+: callsOf events → ∀ address, c.valid sdk = some address →
    ∀ s, streak (attemptsFor address (past.filterMap (·.attempt sdk))) = some s →
      s.lastFailureAt + backoffMs s.count ≤ c.now

section

variable {sdk}

theorem run_authenticateTracked (nonceValid : Bool) (authorization targetAddress : Option String)
    (failureTracker : AuthFailureTracker) :
    Id.run (authenticateTracked sdk (fun _ _ => nonceValid) authorization targetAddress failureTracker) =
      match checkSignature sdk authorization with
      | .error (status, error) => (.denied status error, failureTracker)
      | .ok (headers, ed25519Address) =>
        match checkTarget headers ed25519Address nonceValid targetAddress with
        | .denied status error => (.denied status error, failureTracker)
        | .authenticated address ed25519Address =>
          (.authenticated address ed25519Address, failureTracker.recordSuccess address) := by
  rw [authenticateTracked, authenticateRequest]
  cases checkSignature sdk authorization with
  | error failure => rfl
  | ok verified =>
    obtain ⟨headers, ed25519Address⟩ := verified
    simp only [Id.run, bind, pure]
    cases checkTarget headers ed25519Address nonceValid targetAddress <;> rfl

/-- A call succeeds exactly where its arguments are valid. -/
theorem answeredAttempt_answer (sdk : StellarSdk) (c : AuthCall) (failureTracker : AuthFailureTracker) :
    c.answeredAttempt sdk (Id.run (authenticateTracked sdk (fun _ _ => c.nonceValid) c.authorization c.targetAddress
      failureTracker)).1 = c.attempt sdk := by
  rw [run_authenticateTracked, AuthCall.attempt, AuthCall.valid]
  cases checkSignature sdk c.authorization with
  | error failure => rfl
  | ok verified =>
    obtain ⟨headers, ed25519Address⟩ := verified
    by_cases hnonce : c.nonceValid = true
    · by_cases htarget : c.targetAddress.any (fun target => target ≠ "" ∧ target ≠ headers.address) = true
      · simp only [checkTarget, hnonce, htarget]
        rfl
      · simp only [checkTarget, hnonce, htarget]
        rfl
    · simp only [checkTarget, hnonce]
      rfl

theorem attempts_run (events : List AuthEvent) :
    (events.foldl (TrackedCalls.act sdk) {}).attempts sdk = (callsOf events).filterMap (·.attempt sdk) := by
  induction events using List.reverseRecOn with
  | nil => rfl
  | append_singleton events e ih =>
    rw [List.foldl_concat]
    cases e with
    | cleanup now => simpa [TrackedCalls.act, TrackedCalls.attempts, callsOf] using ih
    | call c =>
      have hanswer := answeredAttempt_answer sdk c (events.foldl (TrackedCalls.act sdk) {}).failureTracker
      simp only [TrackedCalls.attempts, TrackedCalls.act, List.filterMap_append, callsOf] at ih ⊢
      rw [ih, List.filterMap_cons, hanswer]
      rfl

/-- Nothing is ever recorded in the tracker. -/
theorem failureTracker_empty (events : List AuthEvent) :
    (events.foldl (TrackedCalls.act sdk) {}).failureTracker = {} := by
  induction events using List.reverseRecOn with
  | nil => rfl
  | append_singleton events e ih =>
    rw [List.foldl_concat]
    cases e with
    | cleanup now =>
      rw [TrackedCalls.act, ih]
      rfl
    | call c =>
      rw [TrackedCalls.act, ih, run_authenticateTracked]
      dsimp only
      split
      · rfl
      · split <;> rfl

/-- The attempt of a call succeeds exactly where the call is valid. -/
theorem attempt_succeeded {c : AuthCall} {a : Attempt} :
    c.attempt sdk = some a ∧ a.succeeded = true ↔ c.valid sdk = some a.address ∧ a = ⟨a.address, true, c.now⟩ := by
  rw [AuthCall.attempt]
  cases hvalid : c.valid sdk with
  | some address =>
    constructor
    · rintro ⟨h, -⟩
      cases h
      exact ⟨rfl, rfl⟩
    · rintro ⟨h, ha⟩
      cases h
      exact ⟨congrArg some ha.symm, by rw [ha]⟩
  | none =>
    constructor
    · rintro ⟨h, hsucceeded⟩
      obtain ⟨address, -, rfl⟩ := Option.map_eq_some_iff.mp h
      cases hsucceeded
    · rintro ⟨h, -⟩
      cases h

/-- **Who backs an address off**: over any calls with one tracker, the answers keep to the schedule
if and only if the valid calls do. -/
theorem backs_off_iff (events : List AuthEvent) :
    BacksOff ((events.foldl (TrackedCalls.act sdk) {}).attempts sdk) ↔ Patient sdk events := by
  rw [attempts_run, backsOff_iff]
  constructor
  · rintro h past c ⟨rest, hcalls⟩ address hvalid s hstreak
    obtain ⟨hattempt, -⟩ := attempt_succeeded.mpr ⟨hvalid, (rfl : (⟨address, true, c.now⟩ : Attempt) = _)⟩
    have hpast : past.filterMap (·.attempt sdk) ++ [⟨address, true, c.now⟩] <+:
        (callsOf events).filterMap (·.attempt sdk) := by
      refine ⟨rest.filterMap (·.attempt sdk), ?_⟩
      rw [← hcalls, List.filterMap_append, List.filterMap_append, List.filterMap_cons, hattempt]
      rfl
    exact h _ _ hpast rfl s hstreak
  · rintro h past a ⟨rest, hattempts⟩ hsucceeded s hstreak
    rw [List.append_assoc, List.singleton_append] at hattempts
    obtain ⟨before, after, hcalls, rfl, hafter⟩ := List.filterMap_eq_append_iff.mp hattempts.symm
    obtain ⟨skipped, c, later, rfl, hskipped, hattempt, -⟩ := List.filterMap_eq_cons_iff.mp hafter
    obtain ⟨hvalid, ha⟩ := attempt_succeeded.mp ⟨hattempt, hsucceeded⟩
    have hnone : skipped.filterMap (·.attempt sdk) = [] := List.filterMap_eq_nil_iff.mpr hskipped
    have hpast : before ++ skipped ++ [c] <+: callsOf events := ⟨later, by rw [hcalls]; simp⟩
    have hwait := h (before ++ skipped) c hpast a.address hvalid s (by
      rw [List.filterMap_append, hnone, List.append_nil, hstreak])
    rwa [ha]

end

/-- A call with a signature that does not decode, and one a millisecond later that is valid. -/
def guessedThenSigned : List AuthEvent :=
  [.call { authorization := some "StellarSignature GMEMBER:guess:0000000003e8ff", nonceValid := true, now := 2000 },
    .call { authorization := some "StellarSignature GMEMBER:sig:0000000003e8ff", nonceValid := true, now := 2001 }]

/-- The second one succeeds, with a nonce that the store still holds. -/
theorem success_follows_failure_at_once :
    (sharedNonce.nonces.consume "GMEMBER" "0000000003e8ff" 2001).1 = true ∧
      ¬ BacksOff ((guessedThenSigned.foldl (TrackedCalls.act memberSdk) {}).attempts memberSdk) := by
  refine ⟨by decide +kernel, fun h => ?_⟩
  have hattempts : (guessedThenSigned.foldl (TrackedCalls.act memberSdk) {}).attempts memberSdk =
      [⟨"GMEMBER", false, 2000⟩, ⟨"GMEMBER", true, 2001⟩] := by decide +kernel
  rw [hattempts] at h
  have hwait := h "GMEMBER" [] [] ⟨"GMEMBER", false, 2000⟩ ⟨"GMEMBER", true, 2001⟩ [] rfl (by simp)
    (List.isChain_singleton _) rfl
  revert hwait
  decide

end OurDao
