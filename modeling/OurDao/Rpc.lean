import Mathlib.Logic.Relation
import OurDao.Frames

/-!
# The RPC as an append-only log

What a poller relies on when it reads a contract's events from an RPC server whose
history is not replaced: requests are answered from a log that only grows at its end,
in ascending order and without gaps behind the position asked for. `PollRun` is any
sequence of polls and restarts.
-/

namespace OurDao

open Faults Op

/-- The events that a request starting at a position asks for. -/
def Position.admits : Position → EventResponse → Bool
  | .cursor none, _ => true
  | .cursor (some token), e => token < e.id
  | .startLedger ledger, e => ledger ≤ e.ledger

theorem admits_cursor {token : String} {e : EventResponse} :
    (Position.cursor (some token)).admits e = true ↔ token < e.id := decide_eq_true_iff

theorem not_admits_cursor {token : String} {e : EventResponse} :
    (Position.cursor (some token)).admits e = false ↔ e.id ≤ token := by
  rw [Position.admits, decide_eq_false_iff_not, not_lt]

variable {ρ : Type}

/-- `log r` is what the RPC knows of the contract's events when the surroundings are in `r`. -/
structure RpcLog (E : Environment ρ) (contractId : String) (log : ρ → List EventResponse) : Prop where
  appends : ∀ r r', E.Step r r' → log r <+: log r'
  ids : ∀ r, (log r).Pairwise fun a b => a.id < b.id
  ledgers : ∀ r, (log r).Pairwise fun a b => a.ledger ≤ b.ledger
  /-- an answer is a gapless part of the log, from the position on -/
  getEvents : ∀ request r res, request.contractId = contractId → (E.getEvents request r).1 = .done res →
    res.events <+: (log (E.getEvents request r).2).filter request.position.admits
  /-- a request that says nowhere where to start is refused -/
  refused : ∀ request r res, request.position = .cursor none → (E.getEvents request r).1 ≠ .done res
  /-- the cursor of an empty answer stands behind nothing the position asks for, now or later -/
  cursor : ∀ request r res token, request.contractId = contractId → (E.getEvents request r).1 = .done res →
    res.events = [] → res.cursor = some token →
    (∀ t, request.position = .cursor (some t) → t ≤ token) ∧
      ∀ r', Relation.ReflTransGen E.Step (E.getEvents request r).2 r' →
        ∀ e ∈ log r', request.position.admits e = true ↔ token < e.id

namespace RpcLog

variable {E : Environment ρ} {contractId : String} {log : ρ → List EventResponse}

theorem grows (h : RpcLog E contractId log) {r r' : ρ} (hr : Relation.ReflTransGen E.Step r r') :
    log r <+: log r' := by
  induction hr with
  | refl => exact List.prefix_rfl
  | tail _ hstep ih => exact ih.trans (h.appends _ _ hstep)

end RpcLog

/-- What stands in a gapless part of an ascending list up to its last entry. -/
theorem mem_of_le_last {events l : List EventResponse} {e last : EventResponse} (h : events <+: l)
    (hl : l.Pairwise fun a b => a.id < b.id) (he : e ∈ l) (hlast : events.getLast? = some last)
    (hle : e.id ≤ last.id) : e ∈ events := by
  obtain ⟨rest, rfl⟩ := h
  rcases List.mem_append.mp he with he | he
  · exact he
  · have hlt : last.id < e.id :=
      (List.pairwise_append.mp hl).2.2 last (List.mem_of_getLast? hlast) e he
    exact absurd hle (not_le_of_gt hlt)

/-- What a request from `position` was answered, seen from surroundings in `r`. -/
structure Answers (E : Environment ρ) (log : ρ → List EventResponse) (position : Position)
    (res : EventsPage) (r : ρ) : Prop where
  started : position ≠ .cursor none
  gapless : res.events <+: (log r).filter position.admits
  cursor : ∀ token, res.events = [] → res.cursor = some token →
    (∀ t, position = .cursor (some t) → t ≤ token) ∧
      ∀ r', Relation.ReflTransGen E.Step r r' → ∀ e ∈ log r', position.admits e = true ↔ token < e.id

namespace Answers

variable {E : Environment ρ} {contractId : String} {log : ρ → List EventResponse} {position : Position}
  {res : EventsPage} {r : ρ}

theorem step (h : Answers E log position res r) (hlog : RpcLog E contractId log) {r' : ρ}
    (hr : E.Step r r') : Answers E log position res r' where
  started := h.started
  gapless := h.gapless.trans ((hlog.appends r r' hr).filter _)
  cursor token hempty htoken :=
    (h.cursor token hempty htoken).imp id fun hall r'' hr'' => hall r'' (.head hr hr'')

/-- The next request does not start behind this one. -/
theorem next_token (h : Answers E log position res r) {t : String} (ht : position = .cursor (some t)) :
    ∃ token, res.nextToken position = some token ∧ t ≤ token := by
  rw [EventsPage.nextToken]
  cases hlast : res.events.getLast? with
  | some last =>
    have hmem : last ∈ (log r).filter position.admits := h.gapless.mem (List.mem_of_getLast? hlast)
    have hlt : t < last.id := by simpa [ht, Position.admits] using (List.mem_filter.mp hmem).2
    exact ⟨last.id, rfl, hlt.le⟩
  | none =>
    have hempty : res.events = [] := List.getLast?_eq_none_iff.mp hlast
    cases htoken : res.cursor with
    | some token => exact ⟨token, rfl, (h.cursor token hempty htoken).1 t ht⟩
    | none => exact ⟨t, by simp [ht, Position.token], le_rfl⟩

/-- What the next request does not ask for any more was asked for by no request, or is in this page. -/
theorem admits_next (h : Answers E log position res r) (hlog : RpcLog E contractId log)
    {e : EventResponse} (he : e ∈ log r) (hnext : (Position.cursor (res.nextToken position)).admits e = false) :
    position.admits e = false ∨ e ∈ res.events := by
  by_cases hadm : position.admits e = true
  · right
    rw [EventsPage.nextToken] at hnext
    cases hlast : res.events.getLast? with
    | some last =>
      rw [hlast] at hnext
      have hle : e.id ≤ last.id := not_admits_cursor.mp hnext
      exact mem_of_le_last h.gapless ((hlog.ids r).filter _) (List.mem_filter.mpr ⟨he, hadm⟩) hlast hle
    | none =>
      have hempty : res.events = [] := List.getLast?_eq_none_iff.mp hlast
      cases htoken : res.cursor with
      | some token =>
        have hlt := ((h.cursor token hempty htoken).2 r .refl e he).mp hadm
        simp [hlast, htoken, Position.admits, hlt] at hnext
      | none =>
        have hsame : Position.cursor position.token = position ∨ position.token = none := by
          cases position with
          | cursor t => exact .inl rfl
          | startLedger ledger => exact .inr rfl
        rcases hsame with hsame | hsame
        · simp [hlast, htoken, hsame, hadm] at hnext
        · simp [hlast, htoken, hsame, Position.admits] at hnext
  · exact .inl (by simpa using hadm)

end Answers

theorem RpcLog.answers {E : Environment ρ} {contractId : String} {log : ρ → List EventResponse}
    (h : RpcLog E contractId log) {request : Request} (hid : request.contractId = contractId) {r : ρ}
    {res : EventsPage} (hres : (E.getEvents request r).1 = .done res) :
    Answers E log request.position res (E.getEvents request r).2 where
  started hp := h.refused request r res hp hres
  gapless := h.getEvents request r res hid hres
  cursor token hempty htoken := h.cursor request r res token hid hres hempty htoken

/-- Surroundings whose RPC serves a growing log: `n` counts the waits so far. -/
def Environment.serving (log : Nat → List EventResponse) (tip : Nat → Nat)
    (fate : Nat → Outcome Failure Unit) : Environment Nat where
  statement n := (fate n, n + 1)
  pg_try_advisory_lock n := (.done true, n + 1)
  getLatestLedger n := (.done { sequence := tip n, hash := "" }, n + 1)
  getLedgers _ n := (.done none, n + 1)
  getEvents request n :=
    if request.position = .cursor none then (.raised (.error "startLedger must be positive"), n + 1)
    else
      let events := ((log n).filter request.position.admits).take request.limit.toNat
      (.done { events, cursor := (events.getLast?.map (·.id)) <|> request.position.token,
               latestLedger := some (tip n) }, n + 1)
  now n := (0, n + 1)
  aborted n := (false, n + 1)

theorem step_serving {log : Nat → List EventResponse} {tip : Nat → Nat}
    {fate : Nat → Outcome Failure Unit} {n n' : Nat}
    (h : (Environment.serving log tip fate).Step n n') : n' = n + 1 := by
  cases h with
  | getEvents request =>
    simp only [Environment.serving]
    split <;> rfl
  | _ => rfl

theorem rpcLog_serving {log : Nat → List EventResponse} (tip : Nat → Nat)
    (fate : Nat → Outcome Failure Unit) (contractId : String) (happends : ∀ n, log n <+: log (n + 1))
    (hids : ∀ n, (log n).Pairwise fun a b => a.id < b.id)
    (hledgers : ∀ n, (log n).Pairwise fun a b => a.ledger ≤ b.ledger) :
    RpcLog (.serving log tip fate) contractId log where
  appends r r' hr := step_serving hr ▸ happends r
  ids := hids
  ledgers := hledgers
  getEvents request r res _ hres := by
    by_cases hp : request.position = .cursor none
    · simp [Environment.serving, hp] at hres
    · simp only [Environment.serving, hp, if_false, Outcome.done.injEq] at hres ⊢
      subst hres
      exact (List.take_prefix _ _).trans ((happends r).filter _)
  refused request r res hp := by simp [Environment.serving, hp]
  cursor request r res token _ hres hempty htoken := by
    by_cases hp : request.position = .cursor none
    · simp [Environment.serving, hp] at hres
    simp only [Environment.serving, hp, if_false, Outcome.done.injEq] at hres
    subst hres
    dsimp only at hempty htoken
    rw [hempty] at htoken
    cases hpos : request.position with
    | startLedger ledger => simp [hpos, Position.token] at htoken
    | cursor t =>
      obtain rfl : t = some token := by simpa [hpos, Position.token] using htoken
      refine ⟨fun t ht => by cases ht; exact le_rfl, fun r' _ e _ => ?_⟩
      simp [Position.admits]

/-- Polls and restarts in any order; each poll may have settings of its own, starts in a
world that meets a condition, and ends, fails or dies wherever the surroundings have it. -/
inductive PollRun (E : Environment ρ) (contractId : String) (Meets : Config → World ρ → Prop) :
    World ρ → World ρ → Prop
  | refl (w : World ρ) : PollRun E contractId Meets w w
  | poll {w w' : World ρ} (config : Config) : PollRun E contractId Meets w w' → Meets config w' →
    PollRun E contractId Meets w (recover (fetchOnce E config contractId w'))
  | restart {w w' : World ρ} : PollRun E contractId Meets w w' → PollRun E contractId Meets w (restart w')

theorem recover_keeps {α : Type} {I : World ρ → Prop} (hrestart : ∀ w, I w → I (restart w))
    {o : Outcome Failure α × World ρ} (h : I o.2) : I (recover o) := by
  obtain ⟨o, w⟩ := o
  cases o with
  | crashed => exact hrestart w h
  | _ => exact h

/-- What every poll keeps holds after any run. -/
theorem PollRun.keeps {E : Environment ρ} {contractId : String} {Meets : Config → World ρ → Prop}
    {I : World ρ → Prop} {w w' : World ρ} (h : PollRun E contractId Meets w w')
    (hpoll : ∀ config, Ensures (fun w => I w ∧ Meets config w) (fetchOnce E config contractId) fun _ => I)
    (hrestart : ∀ w, I w → I (OurDao.restart w)) (hw : I w) : I w' := by
  induction h with
  | refl => exact hw
  | poll config _ hmeets ih => exact recover_keeps hrestart (hpoll config _ ⟨ih, hmeets⟩)
  | restart _ ih => exact hrestart _ ih

end OurDao
