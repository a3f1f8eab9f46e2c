import OurDao.Worker

/-!
# When contracts are polled

One loop polls all contracts, and a contract whose polls fail waits longer and longer. What it
waits for is a matter of its own polls: a round polls, in the order of the configuration, the
contracts whose own wait is over when the round begins, however the others fare.
-/

namespace OurDao

open Faults Op

/-- A poll that returned or failed, and did not find a reorganisation. -/
structure Poll where
  contractId : String
  /-- when its round began -/
  round : Nat
  failed : Bool
  ended : Nat
  deriving DecidableEq, Repr

/-- The polls of one contract. -/
def pollsOf (polls : List Poll) (contractId : String) : List Poll := polls.filter (·.contractId = contractId)

/-- How many polls failed one after the other at the end. -/
def failuresInARow (polls : List Poll) : Nat := (polls.reverse.takeWhile (·.failed)).length

/-- When a contract with these polls may be polled again. -/
def waitsUntil (config : WorkerConfig) (own : List Poll) : Int :=
  match own.getLast? with
  | none => 0
  | some last => last.ended + Schedule.delay config (failuresInARow own)

/-- The contract's own wait is over. -/
def IsReady (config : WorkerConfig) (polls : List Poll) (now : Nat) (contractId : String) : Prop :=
  waitsUntil config (pollsOf polls contractId) ≤ now

instance (config : WorkerConfig) (polls : List Poll) (now : Nat) : DecidablePred (IsReady config polls now) :=
  fun contractId => inferInstanceAs (Decidable (waitsUntil config (pollsOf polls contractId) ≤ now))

variable {ρ : Type} (E : Environment ρ)

/-- The poll that the next step of the loop makes. -/
def Worker.poll (w : Worker ρ) : Option Poll :=
  match w.phase with
  | .polling _ s now (contractId :: _) =>
    if (E.aborted w.world.env).1 || !s.isDue contractId now then none
    else
      match pollContract E w.config s contractId { w.world with env := (E.aborted w.world.env).2 } with
      | (.done (.ok failures), world) => some ⟨contractId, now, failures ≠ 0, (E.now world.env).1⟩
      | _ => none
  | _ => none

/-- What a worker process does from its start on, while others change the database, with the polls
it makes. -/
inductive Worker.Polls (w₀ : Worker ρ) : List Poll → Worker ρ → Prop
  | start : Polls w₀ [] w₀
  | step {polls : List Poll} {w : Worker ρ} {phase : Phase} {world : World ρ} : Polls w₀ polls w →
      w.phase.next E w.config w.world = (.done phase, world) →
      Polls w₀ (polls ++ (w.poll E).toList) ⟨w.config, phase, world⟩
  | others {polls : List Poll} {w : Worker ρ} (db : Db) : Polls w₀ polls w →
      Polls w₀ polls ⟨w.config, w.phase, { w.world with db }⟩

theorem pollsOf_append (polls polls' : List Poll) (c : String) :
    pollsOf (polls ++ polls') c = pollsOf polls c ++ pollsOf polls' c := List.filter_append ..

theorem pollsOf_self (p : Poll) : pollsOf [p] p.contractId = [p] := by simp [pollsOf]

theorem pollsOf_eq_nil {polls : List Poll} {c : String} (h : c ∉ polls.map (·.contractId)) :
    pollsOf polls c = [] := by
  simp only [pollsOf, List.filter_eq_nil_iff, decide_eq_true_eq]
  intro p hp hc
  exact h (List.mem_map.mpr ⟨p, hp, hc⟩)

theorem failuresInARow_concat (polls : List Poll) (p : Poll) :
    failuresInARow (polls ++ [p]) = if p.failed then failuresInARow polls + 1 else 0 := by
  simp only [failuresInARow, List.reverse_append, List.reverse_singleton, List.singleton_append]
  cases hp : p.failed <;> simp [List.takeWhile, hp]

theorem waitsUntil_concat (config : WorkerConfig) (polls : List Poll) (p : Poll) :
    waitsUntil config (polls ++ [p]) =
      p.ended + Schedule.delay config (if p.failed then failuresInARow polls + 1 else 0) := by
  simp only [waitsUntil, List.getLast?_concat, failuresInARow_concat]

/-- A round of which nothing is about a contract leaves it as ready as it was. -/
theorem ready_append {config : WorkerConfig} {polls round : List Poll} {now : Nat} {c : String}
    (h : c ∉ round.map (·.contractId)) : IsReady config (polls ++ round) now c ↔ IsReady config polls now c := by
  simp only [IsReady, pollsOf_append, pollsOf_eq_nil h, List.append_nil]

theorem mem_duplicates (ids : List String) : ∀ s : List String × List String,
    (∀ id ∈ s.2, id ∈ (ids.foldl (fun (s : List String × List String) id =>
      (id :: s.1, if id ∈ s.1 ∧ id ∉ s.2 then s.2 ++ [id] else s.2)) s).2) ∧
    ((ids.foldl (fun (s : List String × List String) id =>
      (id :: s.1, if id ∈ s.1 ∧ id ∉ s.2 then s.2 ++ [id] else s.2)) s).2 = [] →
      ids.Nodup ∧ ∀ id ∈ ids, id ∉ s.1) := by
  induction ids with
  | nil => simp
  | cons a ids ih =>
    intro s
    obtain ⟨hkeeps, hnodup⟩ := ih (a :: s.1, if a ∈ s.1 ∧ a ∉ s.2 then s.2 ++ [a] else s.2)
    constructor
    · intro id hid
      apply hkeeps
      split
      · exact List.mem_append_left _ hid
      · exact hid
    · intro hnil
      obtain ⟨hids, hfresh⟩ := hnodup hnil
      have hempty : (if a ∈ s.1 ∧ a ∉ s.2 then s.2 ++ [a] else s.2) = [] := by
        rw [List.eq_nil_iff_forall_not_mem]
        intro id hid
        have hmem := hkeeps id hid
        rw [List.foldl_cons] at hnil
        rw [hnil] at hmem
        cases hmem
      have hs : s.2 = [] := by
        split at hempty
        · exact (List.append_eq_nil_iff.mp hempty).1
        · exact hempty
      have ha : a ∉ s.1 := by
        intro ha
        rw [if_pos ⟨ha, by simp [hs]⟩] at hempty
        simp at hempty
      refine ⟨List.nodup_cons.mpr ⟨fun hmem => hfresh a hmem (List.mem_cons_self ..), hids⟩, ?_⟩
      intro id hid
      cases hid with
      | head => exact ha
      | tail _ hid => exact fun h => hfresh id hid (List.mem_cons_of_mem _ h)

/-- No contract is configured twice. -/
theorem nodup_of_assertContractsConfigured {config : WorkerConfig} {contractIds : List String}
    (h : assertContractsConfigured config = .ok contractIds) : contractIds.Nodup := by
  rw [assertContractsConfigured] at h
  split at h
  · cases hc : assertContractConfigured config with
    | error m =>
      rw [hc] at h
      cases h
    | ok contractId =>
      rw [hc] at h
      cases h
      exact List.nodup_singleton _
  · split at h
    next hd =>
      cases h
      exact ((mem_duplicates config.contractIds ([], [])).2 (List.isEmpty_iff.mp hd)).1
    next => cases h

/-- The schedule is what the polls make of it. -/
def Schedule.Follows (s : Schedule) (config : WorkerConfig) (polls : List Poll) : Prop :=
  ∀ c, s.failures c = failuresInARow (pollsOf polls c) ∧
    (s.nextPollAt.lookup c).getD 0 = waitsUntil config (pollsOf polls c)

theorem Schedule.follows_nil (config : WorkerConfig) : Schedule.Follows {} config [] := by
  intro c
  exact ⟨rfl, rfl⟩

variable {config : WorkerConfig} {s : Schedule} {polls : List Poll} {contractIds due : List String} {now : Nat}

theorem Schedule.Follows.isDue (h : s.Follows config polls) (c : String) (now : Nat) :
    s.isDue c now = decide (IsReady config polls now c) := by
  rw [Schedule.isDue, (h c).2]
  exact decide_eq_decide.mpr Iff.rfl

theorem Schedule.Follows.polled (h : s.Follows config polls) (p : Poll) :
    (s.polled config p.contractId (if p.failed then s.failures p.contractId + 1 else 0) p.ended).Follows config
      (polls ++ [p]) := by
  intro c
  by_cases hc : c = p.contractId
  · subst hc
    rw [(h p.contractId).1, pollsOf_append, pollsOf_self]
    constructor
    · simp [Schedule.polled, Schedule.failures, failuresInARow_concat]
    · simp [Schedule.polled, waitsUntil_concat]
  · have hother : pollsOf [p] c = [] := pollsOf_eq_nil (by simpa using hc)
    rw [pollsOf_append, hother, List.append_nil]
    constructor
    · have hf := (h c).1
      simpa [Schedule.polled, Schedule.failures, Table.lookup_insert, hc] using hf
    · simpa [Schedule.polled, Table.lookup_insert, hc] using (h c).2

variable {E} {w : Worker ρ} {phase : Phase} {world : World ρ} {contractId : String}

theorem pollContract_done {w₁ world : World ρ} {failures : Nat}
    (h : pollContract E config s contractId w₁ = (.done (.ok failures), world)) :
    failures = 0 ∨ failures = s.failures contractId + 1 := by
  rw [pollContract, tryCatch_run] at h
  split at h
  · rename_i hrun
    obtain ⟨_, _, -, hret⟩ := bind_eq_done.mp hrun
    cases hret
    cases h
    exact .inl rfl
  · rename_i e _ _
    cases e with
    | reorgDetected detail => cases h
    | error m =>
      cases h
      exact .inr rfl
  · cases h

/-- What the loop does with the next contract of a round. -/
theorem polling_next (hphase : w.phase = .polling contractIds s now (contractId :: due))
    (h : w.phase.next E w.config w.world = (.done phase, world)) :
    (phase = .ticking contractIds s ∧ w.poll E = none) ∨
    (s.isDue contractId now = false ∧ phase = .polling contractIds s now due ∧ w.poll E = none) ∨
    ((∃ detail, phase = .halting contractId detail) ∧ w.poll E = none) ∨
    ∃ p : Poll, w.poll E = some p ∧ p.contractId = contractId ∧ p.round = now ∧ s.isDue contractId now = true ∧
      phase = .polling contractIds
        (s.polled w.config contractId (if p.failed then s.failures contractId + 1 else 0) p.ended) now due := by
  rw [hphase, Phase.next] at h
  obtain ⟨aborted, w₁, hab, h⟩ := bind_eq_done.mp h
  cases hab
  simp only [Worker.poll, hphase]
  split at h
  next ha =>
    cases h
    exact .inl ⟨rfl, by simp [ha]⟩
  next ha =>
    split at h
    next hd =>
      cases h
      exact .inr (.inl ⟨by simpa using hd, rfl, by simp [hd]⟩)
    next hd =>
      have hdue : s.isDue contractId now = true := by simpa using hd
      obtain ⟨result, w₂, hpoll, h⟩ := bind_eq_done.mp h
      simp only [ha, hdue, Bool.not_true, Bool.or_false, Bool.false_eq_true, if_false, hpoll]
      cases result with
      | error detail =>
        cases h
        exact .inr (.inr (.inl ⟨⟨detail, rfl⟩, rfl⟩))
      | ok failures =>
        obtain ⟨t, w₃, hnow, h⟩ := bind_eq_done.mp h
        cases hnow
        cases h
        refine .inr (.inr (.inr ⟨_, rfl, rfl, rfl, trivial, ?_⟩))
        obtain hf | hf := pollContract_done hpoll <;> simp [hf]

/-- Where a round stands: of the contracts behind it, it has polled those that were ready. -/
def MidRound (config : WorkerConfig) (contractIds : List String) (now : Nat) (due : List String)
    (polls : List Poll) : Prop :=
  ∃ before round behind, polls = before ++ round ∧ behind ++ due = contractIds ∧
    (∀ p ∈ round, p.round = now) ∧ round.map (·.contractId) = behind.filter (IsReady config before now ·)

theorem midRound_start (config : WorkerConfig) (contractIds : List String) (now : Nat) (polls : List Poll) :
    MidRound config contractIds now contractIds polls :=
  ⟨polls, [], [], by simp, rfl, by simp, rfl⟩

/-- The contracts still due have not been polled in the round. -/
theorem ready_of_midRound {before round : List Poll} {behind : List String} (hnodup : (behind ++ due).Nodup)
    (hround : round.map (·.contractId) = behind.filter (IsReady config before now ·)) {c : String} (hc : c ∈ due) :
    IsReady config (before ++ round) now c ↔ IsReady config before now c := by
  apply ready_append
  rw [hround]
  intro hmem
  exact (List.nodup_append.mp hnodup).2.2 c (List.mem_filter.mp hmem).1 c hc rfl

theorem MidRound.skip (h : MidRound config contractIds now (contractId :: due) polls) (hnodup : contractIds.Nodup)
    (hwaits : ¬ IsReady config polls now contractId) : MidRound config contractIds now due polls := by
  obtain ⟨before, round, behind, rfl, rfl, hnow, hround⟩ := h
  rw [ready_of_midRound hnodup hround (List.mem_cons_self ..)] at hwaits
  exact ⟨before, round, behind ++ [contractId], rfl, by simp, hnow, by simp [hround, hwaits]⟩

theorem MidRound.poll (h : MidRound config contractIds now (contractId :: due) polls) (hnodup : contractIds.Nodup)
    {p : Poll} (hp : p.contractId = contractId) (hnow' : p.round = now)
    (hready : IsReady config polls now contractId) : MidRound config contractIds now due (polls ++ [p]) := by
  obtain ⟨before, round, behind, rfl, rfl, hnow, hround⟩ := h
  rw [ready_of_midRound hnodup hround (List.mem_cons_self ..)] at hready
  refine ⟨before, round ++ [p], behind ++ [contractId], by simp, by simp, ?_, ?_⟩
  · intro q hq
    cases List.mem_append.mp hq with
    | inl hq => exact hnow q hq
    | inr hq => rw [List.mem_singleton.mp hq, hnow']
  · simp [hround, hready, hp]

/-- Every poll found its contract ready when its round began. -/
def Waited (config : WorkerConfig) (polls : List Poll) : Prop :=
  ∀ before p, before ++ [p] <+: polls → IsReady config before p.round p.contractId

theorem waited_concat {p : Poll} (h : Waited config polls) (hready : IsReady config polls p.round p.contractId) :
    Waited config (polls ++ [p]) := by
  intro before q hq
  cases List.prefix_concat_iff.mp hq with
  | inl heq =>
    obtain ⟨hbefore, hlast⟩ := List.append_inj' heq rfl
    rw [List.singleton_inj.mp hlast, hbefore]
    exact hready
  | inr hpre => exact h before q hpre

/-- What is true of the polls at each place in the loop. -/
def Worker.OnSchedule (polls : List Poll) (w : Worker ρ) : Prop :=
  match w.phase with
  | .starting | .resuming => polls = []
  | .ticking contractIds s => contractIds.Nodup ∧ s.Follows w.config polls
  | .polling contractIds s now due =>
    contractIds.Nodup ∧ s.Follows w.config polls ∧ MidRound w.config contractIds now due polls
  | _ => True

theorem Worker.OnSchedule.step (h : w.OnSchedule polls) (hwaited : Waited w.config polls)
    (hnext : w.phase.next E w.config w.world = (.done phase, world)) :
    Waited w.config (polls ++ (w.poll E).toList) ∧
      Worker.OnSchedule (polls ++ (w.poll E).toList) ⟨w.config, phase, world⟩ := by
  cases hphase : w.phase with
  | stopped =>
    rw [hphase] at hnext
    cases hnext
    simpa [Worker.poll, hphase, Worker.OnSchedule] using hwaited
  | starting =>
    have hnone : w.poll E = none := by simp [Worker.poll, hphase]
    simp only [Worker.OnSchedule, hphase] at h
    rw [hphase, Phase.next] at hnext
    obtain ⟨halt, w₁, -, hret⟩ := bind_eq_done.mp hnext
    cases halt with
    | some halt => cases hret
    | none =>
      cases hret
      simpa [hnone, Worker.OnSchedule] using ⟨hwaited, h⟩
  | resuming =>
    have hnone : w.poll E = none := by simp [Worker.poll, hphase]
    simp only [Worker.OnSchedule, hphase] at h
    subst h
    rw [hphase, Phase.next] at hnext
    cases hids : assertContractsConfigured w.config with
    | error m =>
      simp only [hids] at hnext
      cases hnext
    | ok contractIds =>
      simp only [hids] at hnext
      obtain ⟨_, w₁, -, hret⟩ := bind_eq_done.mp hnext
      cases hret
      have hnodup := nodup_of_assertContractsConfigured hids
      simpa [hnone, Worker.OnSchedule] using ⟨hwaited, hnodup, Schedule.follows_nil w.config⟩
  | ticking contractIds s =>
    have hnone : w.poll E = none := by simp [Worker.poll, hphase]
    simp only [Worker.OnSchedule, hphase] at h
    obtain ⟨hnodup, hfollows⟩ := h
    rw [hphase, Phase.next] at hnext
    obtain ⟨aborted, w₁, -, hret⟩ := bind_eq_done.mp hnext
    split at hret
    next =>
      cases hret
      simpa [hnone, Worker.OnSchedule] using hwaited
    next =>
      obtain ⟨now, w₂, -, hret⟩ := bind_eq_done.mp hret
      cases hret
      have hround := midRound_start w.config contractIds now polls
      simpa [hnone, Worker.OnSchedule] using ⟨hwaited, hnodup, hfollows, hround⟩
  | polling contractIds s now due =>
    simp only [Worker.OnSchedule, hphase] at h
    obtain ⟨hnodup, hfollows, hround⟩ := h
    cases due with
    | nil =>
      rw [hphase] at hnext
      cases hnext
      have hnone : w.poll E = none := by simp [Worker.poll, hphase]
      simpa [hnone, Worker.OnSchedule] using ⟨hwaited, hnodup, hfollows⟩
    | cons contractId due =>
      have hdue := hfollows.isDue contractId now
      obtain ⟨rfl, hnone⟩ | ⟨hskip, rfl, hnone⟩ | ⟨⟨detail, rfl⟩, hnone⟩ | ⟨p, hp, hc, hr, hready, rfl⟩ :=
        polling_next hphase hnext
      · simpa [hnone, Worker.OnSchedule] using ⟨hwaited, hnodup, hfollows⟩
      · rw [hskip] at hdue
        have hround' := hround.skip hnodup (by simpa using hdue.symm)
        simpa [hnone, Worker.OnSchedule] using ⟨hwaited, hnodup, hfollows, hround'⟩
      · simpa [hnone, Worker.OnSchedule] using hwaited
      · rw [hready] at hdue
        have hdue' : IsReady w.config polls now contractId := by simpa using hdue.symm
        have hround' := hround.poll hnodup hc hr hdue'
        subst hc hr
        rw [hp]
        exact ⟨waited_concat hwaited hdue', hnodup, hfollows.polled p, hround'⟩
  | halting contractId detail =>
    have hnone : w.poll E = none := by simp [Worker.poll, hphase]
    rw [hphase, Phase.next] at hnext
    obtain ⟨_, w₁, -, hret⟩ := bind_eq_done.mp hnext
    cases hret
    simpa [hnone, Worker.OnSchedule] using hwaited
  | halted contractId detail =>
    rw [hphase, Phase.next] at hnext
    obtain ⟨_, w₁, -, hret⟩ := bind_eq_done.mp hnext
    obtain ⟨_, w₂, -, hret⟩ := bind_eq_done.mp hret
    cases hret

theorem Worker.Polls.onSchedule {w₀ : Worker ρ} (hstart : w₀.phase = .starting) (h : w₀.Polls E polls w) :
    w.config = w₀.config ∧ Waited w.config polls ∧ w.OnSchedule polls := by
  induction h with
  | start => exact ⟨rfl, fun before p hp => by simp at hp, by simp [Worker.OnSchedule, hstart]⟩
  | step _ hnext ih =>
    obtain ⟨hconfig, hwaited, hon⟩ := ih
    exact ⟨hconfig, hon.step hwaited hnext⟩
  | others db _ ih => exact ih

/-- **Contracts are polled on their own schedule.** A poll comes no sooner after the last poll of
its contract than that contract's failures in a row ask for, and a round has polled, of the
contracts behind it, those whose wait was over when it began. -/
theorem polls_on_schedule {w₀ : Worker ρ} (hstart : w₀.phase = .starting) (h : w₀.Polls E polls w) :
    Waited w₀.config polls ∧ ∀ contractIds s now due, w.phase = .polling contractIds s now due →
      MidRound w₀.config contractIds now due polls := by
  obtain ⟨hconfig, hwaited, hon⟩ := h.onSchedule hstart
  rw [hconfig] at hwaited
  constructor
  · exact hwaited
  · intro contractIds s now due hphase
    simp only [Worker.OnSchedule, hphase, hconfig] at hon
    exact hon.2.2

theorem Schedule.delay_le (hbackoff : config.pollIntervalMs ≤ config.maxBackoffMs) (failures : Nat) :
    Schedule.delay config failures ≤ config.maxBackoffMs := by
  rw [Schedule.delay]
  split
  · exact hbackoff
  · exact min_le_right _ _

/-- **No contract is left out for longer than `POLL_MAX_BACKOFF_MS`**, whatever the others do: at the
end of a round, the last poll of a contract was in it, or so late that this time had not passed
when the round began. -/
theorem polled_again {w₀ : Worker ρ} (hstart : w₀.phase = .starting) (h : w₀.Polls E polls w)
    (hbackoff : w₀.config.pollIntervalMs ≤ w₀.config.maxBackoffMs) (hround : w.phase = .polling contractIds s now [])
    {c : String} (hc : c ∈ contractIds) : ∃ p, (pollsOf polls c).getLast? = some p ∧
      (p.round = now ∨ (now : Int) < p.ended + w₀.config.maxBackoffMs) := by
  obtain ⟨hconfig, -, hon⟩ := h.onSchedule hstart
  simp only [Worker.OnSchedule, hround, hconfig] at hon
  obtain ⟨before, round, behind, rfl, rfl, hnow, hpolled⟩ := hon.2.2
  rw [List.append_nil] at hc
  by_cases hready : IsReady w₀.config before now c
  · have hmem : c ∈ round.map (·.contractId) := by
      rw [hpolled]
      exact List.mem_filter.mpr ⟨hc, decide_eq_true hready⟩
    have hthis : pollsOf round c ≠ [] := by
      obtain ⟨p, hp, hpc⟩ := List.mem_map.mp hmem
      exact List.ne_nil_of_mem (List.mem_filter.mpr ⟨hp, by simpa using hpc⟩)
    have hlast := List.getLast?_eq_some_getLast hthis
    refine ⟨(pollsOf round c).getLast hthis, ?_, .inl (hnow _ (List.mem_filter.mp (List.getLast_mem hthis)).1)⟩
    rw [pollsOf_append, List.getLast?_append, hlast, Option.some_or]
  · rw [IsReady, waitsUntil] at hready
    cases hlast : (pollsOf before c).getLast? with
    | none =>
      simp only [hlast] at hready
      omega
    | some p =>
      simp only [hlast] at hready
      have hskipped : pollsOf round c = [] := by
        refine pollsOf_eq_nil fun hmem => ?_
        rw [hpolled] at hmem
        have hwas := of_decide_eq_true (List.mem_filter.mp hmem).2
        simp only [IsReady, waitsUntil, hlast] at hwas
        exact hready hwas
      have hdelay := Schedule.delay_le hbackoff (failuresInARow (pollsOf before c))
      have hlate : (now : Int) < p.ended + w₀.config.maxBackoffMs := by omega
      exact ⟨p, by rw [pollsOf_append, hskipped, List.append_nil, hlast], .inr hlate⟩

/-- A clock that goes on six seconds with every look at it. -/
def slowRpc : Environment Nat := { Environment.healthy with now := fun n => (n * 6000, n + 1) }

def twoContracts : Worker Nat := ⟨{ contractIds := ["A", "B"] }, .starting, freshWorld 0⟩

/-- A process after so many steps, if all of them return. -/
def Worker.turns (E : Environment ρ) (w : Worker ρ) : Nat → List Poll × Worker ρ
  | 0 => ([], w)
  | n + 1 =>
    match (w.turns E n).2.phase.next E (w.turns E n).2.config (w.turns E n).2.world with
    | (.done phase, world) =>
      ((w.turns E n).1 ++ ((w.turns E n).2.poll E).toList, ⟨(w.turns E n).2.config, phase, world⟩)
    | _ => w.turns E n

theorem Worker.polls_turns (w : Worker ρ) (n : Nat) : w.Polls E (w.turns E n).1 (w.turns E n).2 := by
  induction n with
  | zero => exact .start
  | succ n ih =>
    rw [Worker.turns]
    split
    next hnext => exact ih.step hnext
    next => exact ih

/-- Both contracts fail, wait for as long as that asks for and are polled again. -/
theorem polls_on_schedule_slowRpc :
    (twoContracts.turns slowRpc 14).1.map (fun p => (p.contractId, p.failed, p.round, p.ended)) =
        [("A", true, 12000, 24000), ("B", true, 12000, 36000), ("A", true, 42000, 54000),
          ("B", true, 60000, 72000)] ∧
      Waited twoContracts.config (twoContracts.turns slowRpc 14).1 :=
  ⟨by decide +kernel, (polls_on_schedule rfl (twoContracts.polls_turns 14)).1⟩

theorem polled_again_slowRpc : ∃ p, (pollsOf (twoContracts.turns slowRpc 5).1 "B").getLast? = some p ∧
    (p.round = 12000 ∨ ((12000 : Nat) : Int) < p.ended + 60000) := by
  have hround : (twoContracts.turns slowRpc 5).2.phase = .polling ["A", "B"] _ 12000 [] := rfl
  exact polled_again rfl (twoContracts.polls_turns 5) (by decide) hround (by decide)

end OurDao
