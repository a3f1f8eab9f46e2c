import Mathlib.Data.List.Induction
import OurDao.Quarantine

/-!
# When a failing page is taken apart

A page that fails at the start of a poll leaves the cursor where it is, so that the next
poll asks from the same position. Its failures are counted by the first and the last
event and the length of the page: the count starts anew when the page has grown in
between, with the same event failing in it.
-/

namespace OurDao

open Faults Op

variable {ρ : Type} {E : Environment ρ}

/-- The count after failures with `m` on pages with these keys, one after the other. -/
def tally (m : String) (keys : List String) : Option QuarantineState :=
  keys.foldl (fun s key => some (countFailure s key m)) none

theorem tally_concat (m : String) (keys : List String) (key : String) :
    tally m (keys ++ [key]) = some (countFailure (tally m keys) key m) := by
  simp [tally]

/-- The count is that of the last key, and full when there was no other. -/
theorem tally_failures (m : String) (keys : List String) (key : String) :
    ∃ n, tally m (keys ++ [key]) = some ⟨key, m, n⟩ ∧ n ≤ keys.length + 1 ∧
      (n = keys.length + 1 ↔ ∀ k ∈ keys, k = key) := by
  induction keys using List.reverseRecOn generalizing key with
  | nil => exact ⟨1, rfl, by simp, by simp⟩
  | append_singleton keys k ih =>
    obtain ⟨n, htally, hle, hfull⟩ := ih k
    rw [tally_concat, htally]
    by_cases hk : k = key
    · subst hk
      refine ⟨n + 1, by simp [countFailure], by simp; omega, ?_⟩
      simp only [List.length_append, List.length_singleton, List.mem_append, List.mem_singleton]
      constructor
      · rintro h x (hx | hx)
        · exact hfull.mp (by omega) x hx
        · exact hx
      · intro h
        have := hfull.mpr fun x hx => h x (.inl hx)
        omega
    · refine ⟨1, by simp [countFailure, hk], by simp, ?_⟩
      simp only [List.length_append, List.length_singleton]
      constructor
      · intro h
        omega
      · intro h
        exact absurd (h k (by simp)) hk

/-- Two counts that go on alike after one more failure with `m`. -/
def CountsAlike (m : String) (s t : Option QuarantineState) : Prop :=
  ∀ key, countFailure s key m = countFailure t key m

theorem countsAlike_none {m : String} {s : Option QuarantineState} (h : ∀ q ∈ s, q.errorMessage ≠ m) :
    CountsAlike m s none := by
  intro key
  cases s with
  | none => rfl
  | some q => simp [countFailure, h q rfl]

/-- The failures counted by the process and by the database, for a process that is started again. -/
structure Tallied (contractId m : String) (keys : List String) (w : World ρ) : Prop where
  process : CountsAlike m (counted contractId w) (tally m keys)
  database : CountsAlike m (counted contractId (restart w)) (tally m keys)

theorem Tallied.restart {contractId m : String} {keys : List String} {w : World ρ}
    (h : Tallied contractId m keys w) : Tallied contractId m keys (restart w) := ⟨h.database, h.database⟩

/-- The process and the database have counted `s`. -/
structure Counts (contractId : String) (s : QuarantineState) (w : World ρ) : Prop where
  process : counted contractId w = some s
  database : counted contractId (restart w) = some s

theorem pageKeyFor_ne_empty {page : List EventResponse} (h : page ≠ []) : pageKeyFor page ≠ "" := by
  cases page with
  | nil => exact absurd rfl h
  | cons e es =>
    intro hempty
    have hdots : ("..").toList ⊆ (pageKeyFor (e :: es)).toList := by
      simp [pageKeyFor, toString]
    rw [hempty] at hdots
    simp at hdots

theorem Tallied.next {contractId m : String} {keys : List String} {w w' : World ρ} {key : String}
    (h : Tallied contractId m keys w)
    (hcounts : Counts contractId (countFailure (counted contractId w) key m) w') :
    Tallied contractId m (keys ++ [key]) w' := by
  have hsame : some (countFailure (counted contractId w) key m) = tally m (keys ++ [key]) := by
    rw [tally_concat, h.process key]
  refine ⟨fun k => ?_, fun k => ?_⟩
  · rw [hcounts.process, hsame]
  · rw [hcounts.database, hsame]

/-- The process holds `s` for the contract, and has printed `lines`. -/
structure Held (contractId : String) (s : QuarantineState) (lines : List Notice) (w : World ρ) : Prop where
  loaded : w.memory.quarantineStatesLoaded.contains contractId = true
  state : w.memory.quarantineStates.lookup contractId = some (some s)
  console : w.console = lines

theorem drifts_held (contractId : String) (s : QuarantineState) (lines : List Notice) :
    Drifts E (Held contractId s lines) :=
  ⟨fun _ _ _ h => ⟨h.loaded, h.state, h.console⟩, fun _ _ h => ⟨h.loaded, h.state, h.console⟩⟩

theorem persistQuarantineState_held (hE : E.Healthy) {contractId m : String} {s : QuarantineState}
    {lines : List Notice} (hkey : s.pageKey ≠ "") (hmessage : s.errorMessage = m) (hm : m ≠ "") (escalating : Bool) :
    Returns (Held contractId s lines) (persistQuarantineState E contractId (some s) escalating) fun _ w =>
      Counts contractId s w ∧ w.console = lines := by
  refine Returns.tryCatch (hE.returns_transaction (drifts_held contractId s lines) fun w h => ⟨(), _, rfl, ?_⟩)
  refine ⟨⟨?_, ?_⟩, h.console⟩
  · simp [counted, List.contains_iff_mem.mp h.loaded, h.state]
  · have htext : s.errorMessage.text = m := by rw [hmessage, JsText.text_ofString]
    simp [counted, restart, AList.lookup_insert, QuarantineStateRow.state, hkey, htext, hm, ← hmessage]

/-- Everything an ingest or a poll says comes after what was said before. -/
theorem pollable_console (lines : List Notice) :
    Pollable E (fun _ => True) fun w => lines <+: w.console where
  drifts := ⟨fun _ _ _ h => h, fun _ _ h => h⟩
  insertRawEvent _ _ _ _ _ h _ := h
  foldLogged _ _ _ _ _ h _ := h
  failed _ _ _ _ _ h _ := h
  quarantineState _ _ _ _ _ h _ := h
  console _ _ h := h.trans (List.prefix_append _ _)
  memory _ _ h := h
  cursor _ _ _ h := h
  deliver _ _ h := h

variable {config : Config} {contractId m : String} {lastLedger : Nat} {page : List EventResponse}

/-- What follows a page failure: the count goes up, and the page is taken apart when it is full. -/
def FailureCounted (config : Config) (contractId m : String) (s : QuarantineState) (lines : List Notice)
    (o : Outcome Failure Unit) (w : World ρ) : Prop :=
  if (s.failures : Int) < config.quarantineAfterFailures then
    o = .raised (.error m) ∧ w.console = lines ∧ Counts contractId s w
  else lines ++ [.switching contractId s.failures m] <+: w.console

theorem onPageFailure_counts (hE : E.Healthy) (hpage : page ≠ []) (hm : m ≠ "") {lines : List Notice}
    {state : Option QuarantineState} {s : QuarantineState} (hs : countFailure state (pageKeyFor page) m = s) :
    Ensures (fun w => w.memory.quarantineStatesLoaded.contains contractId = true ∧ w.console = lines)
      (onPageFailure E config page lastLedger contractId state (.error m))
      (FailureCounted config contractId m s lines) := by
  have hstate : s.pageKey ≠ "" ∧ s.errorMessage = m := by
    have hkey := pageKeyFor_ne_empty hpage
    subst hs
    cases state with
    | none => exact ⟨hkey, rfl⟩
    | some q =>
      simp only [countFailure]
      split
      next h => exact ⟨h.1 ▸ hkey, h.2⟩
      next h => exact ⟨hkey, rfl⟩
  have hrun : onPageFailure E config page lastLedger contractId state (.error m) = (do
      setQuarantineState contractId (some s)
      persistQuarantineState E contractId (some s) false
      if (s.failures : Int) < config.quarantineAfterFailures then throw (.error m)
      else do
        say (.switching contractId s.failures m)
        persistQuarantineState E contractId (some s) true
        ingestEach E page lastLedger
        clearQuarantineState E contractId) := by
    subst hs
    rfl
  have hset : Returns (fun w : World ρ => w.memory.quarantineStatesLoaded.contains contractId = true ∧
      w.console = lines) (setQuarantineState contractId (some s)) fun _ => Held contractId s lines :=
    returns_update fun w h => ⟨h.1, AList.lookup_insert _, h.2⟩
  rw [hrun]
  refine hset.bind_ensures fun _ =>
    (persistQuarantineState_held hE hstate.1 hstate.2 hm false).bind_ensures fun _ => ?_
  by_cases hlow : (s.failures : Int) < config.quarantineAfterFailures
  · rw [if_pos hlow]
    refine ensures_throw fun w h => ?_
    rw [FailureCounted, if_pos hlow]
    exact ⟨rfl, h.2, h.1⟩
  · have hlines := pollable_console (E := E) (lines ++ [.switching contractId s.failures m])
    rw [if_neg hlow]
    have hsay : Ensures (fun w : World ρ => Counts contractId s w ∧ w.console = lines)
        (say (.switching contractId s.failures m))
        fun _ w => lines ++ [.switching contractId s.failures m] <+: w.console :=
      ensures_say fun w h => h.2 ▸ List.prefix_rfl
    refine Ensures.post (Q := fun _ w => lines ++ [.switching contractId s.failures m] <+: w.console) ?_
      fun o w h => by rwa [FailureCounted, if_neg hlow]
    refine Ensures.bind hsay (fun _ => ?_) (fun _ _ h => h) fun _ h => h
    exact Keeps.bind (hlines.recordable.persistQuarantineState _ _ _) fun _ =>
      Keeps.bind (hlines.ingestEach (decodes_true page) _) fun _ => hlines.recordable.clearQuarantineState contractId

theorem ingestPageWithQuarantine_counts (hE : E.Healthy) {v : World ρ}
    (hfails : ingestEvents lastLedger page v.db = .error (.error m)) :
    Ensures (Asked v) (ingestPageWithQuarantine E config page lastLedger contractId)
      (FailureCounted config contractId m (countFailure (counted contractId v) (pageKeyFor page) m) v.console) := by
  have hpage : page ≠ [] := by
    rintro rfl
    cases hfails
  have hm : m ≠ "" := by
    obtain ⟨m', h, hm'⟩ | ⟨-, m', h⟩ := ingestEvents_fails hfails
    · cases h
      exact hm'
    · cases h
  refine (quarantineStateOf_healthy hE contractId v).bind_ensures fun state => ?_
  rintro w ⟨rfl, hdb, hconsole, hloaded⟩
  have hraised : Ensures (Asked w)
      (do ingestPage E page lastLedger; clearQuarantineState E contractId)
      (OrRaises (fun _ _ => False) fun e w' => e = .error m ∧ Asked w w') := by
    refine Ensures.bind (R := OrRaises (fun _ _ => False) fun e w' => e = .error m ∧ Asked w w')
      ((ingestPage_healthy hE page lastLedger w).post fun o w' h => ?_) (fun _ _ h => h.elim) (fun _ _ h => h)
      fun _ h => h
    rw [hdb, hfails] at h
    cases o with
    | done => obtain ⟨⟨_, h⟩, -⟩ := h; cases h
    | raised e => obtain ⟨he, hasked⟩ := h; cases he; exact ⟨rfl, hasked⟩
    | crashed => exact h
  refine Ensures.tryCatch hraised (fun _ _ h => h.elim) (fun e => ?_) (fun _ h => h.elim) w (.refl w)
  rintro w' ⟨rfl, hasked⟩
  exact onPageFailure_counts hE hpage hm rfl w'
    ⟨hasked.memory ▸ hloaded, by rw [hasked.console, hconsole]⟩

/-- The start of a poll, up to the answer to its first request: the last folded ledger and the page. -/
def firstPage (E : Environment ρ) (config : Config) (contractId : String) :
    Proc ρ (Nat × List EventResponse) := do
  let (cursor, _) ← checkChain E contractId
  let position ← startPosition E config cursor
  let _ ← look E.now
  let aborted ← look E.aborted
  if aborted then return (CursorRow.priorLedger cursor, [])
  else do
    let res ← ask (E.getEvents { contractId, limit := config.pageLimit, position })
    return (CursorRow.priorLedger cursor, res.events)

/-- The poll gets as far as its first page, whose fold then fails with the error `m`. -/
def FailsOn (E : Environment ρ) (config : Config) (contractId m : String) (page : List EventResponse)
    (w : World ρ) : Prop :=
  ∃ lastLedger w₁, firstPage E config contractId w = (.done (lastLedger, page), w₁) ∧
    ingestEvents lastLedger page w.db = .error (.error m)

theorem keeps_firstPage (config : Config) (contractId : String) {P : World ρ → Prop} (hP : Drifts E P) :
    Keeps P (firstPage E config contractId) := by
  have hcheck : Keeps P (checkChain E contractId) := (ensures_checkChain hP contractId).post fun _ _ h => h.1
  refine Keeps.bind hcheck fun c => Keeps.bind (keeps_startPosition hP config c.1) fun position => ?_
  refine Keeps.bind (keeps_look .now hP) fun now => Keeps.bind (keeps_look .aborted hP) fun aborted => ?_
  cases aborted with
  | true => exact Keeps.pure _
  | false => exact Keeps.bind (keeps_ask (fun r => .getEvents r _) hP) fun res => Keeps.pure _

/-- A drain that gets a first page ingests it, and goes on. -/
theorem drain_of_page (cursor : Option CursorRow) (now fuel : Nat) (s : Drain) {res : EventsPage}
    {w wd w₁ : World ρ} (haborted : look E.aborted w = (.done false, wd))
    (hres : ask (E.getEvents { contractId, limit := config.pageLimit, position := s.position }) wd =
      (.done res, w₁)) :
    ∃ rest : Proc ρ Drain, (∀ P, Pollable E (fun _ => True) P → Keeps P rest) ∧
      drain E config contractId cursor now (fuel + 1) s w =
        (do deliver res.events; ingestPageWithQuarantine E config res.events s.lastLedger contractId; rest) w₁ := by
  obtain ⟨next, hnext, hdrain⟩ : ∃ next : EventsPage × Drain → Proc ρ Drain,
      (∀ P, Pollable E (fun _ => True) P → ∀ p, Keeps P (next p)) ∧
        drain E config contractId cursor now (fuel + 1) s w =
          (drainPage E config contractId cursor s >>= next) wd := by
    refine ⟨_, fun P hP p => ?_, Op.bind_done haborted⟩
    refine Keeps.bind (keeps_look .now hP.drifts) fun time => ?_
    dsimp only
    split
    · exact Keeps.pure _
    · exact hP.drain (serves_true contractId) config cursor now fuel _
  obtain ⟨advance, hadvance, hpage⟩ : ∃ advance : Proc ρ (EventsPage × Drain),
      (∀ P, Pollable E (fun _ => True) P → Keeps P advance) ∧ drainPage E config contractId cursor s wd = (do
        deliver res.events
        ingestPageWithQuarantine E config res.events s.lastLedger contractId
        advance) w₁ :=
    ⟨_, fun P hP => Keeps.bind (hP.advanceCursor cursor res s) fun _ => Keeps.pure _, Op.bind_done hres⟩
  refine ⟨advance >>= next, fun P hP => (hadvance P hP).bind (hnext P hP), ?_⟩
  rw [hdrain, Op.bind_congr_run hpage, Op.bind_assoc]
  simp only [Op.bind_assoc]

/-- A poll is its first page, ingested, and a rest that only goes on polling. -/
theorem fetchOnce_of_firstPage {w w₁ : World ρ} (hpage : page ≠ [])
    (h : firstPage E config contractId w = (.done (lastLedger, page), w₁)) :
    ∃ rest : Proc ρ Unit, (∀ P, Pollable E (fun _ => True) P → Keeps P rest) ∧
      fetchOnce E config contractId w =
        (do deliver page; ingestPageWithQuarantine E config page lastLedger contractId; rest) w₁ := by
  obtain ⟨⟨cursor, tip⟩, wa, hcheck, h⟩ := bind_eq_done.mp h
  obtain ⟨position, wb, hposition, h⟩ := bind_eq_done.mp h
  obtain ⟨now, wc, hnow, h⟩ := bind_eq_done.mp h
  obtain ⟨aborted, wd, haborted, h⟩ := bind_eq_done.mp h
  cases aborted with
  | true =>
    cases h
    exact absurd rfl hpage
  | false =>
    obtain ⟨res, we, hres, h⟩ := bind_eq_done.mp h
    cases h
    obtain ⟨fuel, hfuel⟩ : ∃ fuel, config.drainFuel = fuel + 1 :=
      ⟨config.drainFuel - 1, by simp only [Config.drainFuel]; omega⟩
    obtain ⟨touch, s, htouch, hlast, hposition', hfetch⟩ : ∃ (touch : Drain → Proc ρ Unit) (s : Drain),
        (∀ P, Pollable E (fun _ => True) P → ∀ s, Keeps P (touch s)) ∧
          s.lastLedger = CursorRow.priorLedger cursor ∧ s.position = position ∧
          fetchOnce E config contractId w =
            (drain E config contractId cursor now config.drainFuel s >>= touch) wc := by
      refine ⟨_, _, fun P hP s => ?_, ?_, ?_,
        (Op.bind_done hcheck).trans ((Op.bind_done hposition).trans (Op.bind_done hnow))⟩
      · split
        · refine ensures_transaction hP.drifts ?_ (fun _ _ h => h) fun _ h => h
          intro w _ db h hu
          cases hu
          exact h
        · exact Keeps.pure _
      · rfl
      · rfl
    subst hposition'
    obtain ⟨rest, hrest, hdrain⟩ := drain_of_page cursor now fuel s haborted hres
    refine ⟨rest >>= touch, fun P hP => (hrest P hP).bind (htouch P hP), ?_⟩
    rw [hfetch, hfuel, Op.bind_congr_run hdrain, Op.bind_assoc, hlast]
    simp only [Op.bind_assoc]

/-- A poll that goes on after a failure has taken the page apart. -/
theorem FailureCounted.andThen {P : World ρ → Prop} {body rest : Proc ρ Unit} {s : QuarantineState}
    {lines : List Notice} (hbody : Ensures P body (FailureCounted config contractId m s lines))
    (hrest : ∀ P, Pollable E (fun _ => True) P → Keeps P rest) :
    Ensures P (body >>= fun _ => rest) (FailureCounted config contractId m s lines) := by
  refine Ensures.bind hbody (fun _ w h => ?_) (fun _ _ h => h) fun _ h => h
  by_cases hlow : (s.failures : Int) < config.quarantineAfterFailures
  · rw [FailureCounted, if_pos hlow] at h
    cases h.1
  · rw [FailureCounted, if_neg hlow] at h ⊢
    exact hrest _ (pollable_console _) w h

/-- **A poll on a failing page counts the failure**, and takes the page apart when the count is full. -/
theorem fetchOnce_counts (hE : E.Healthy) {w : World ρ} (h : FailsOn E config contractId m page w) :
    FailureCounted config contractId m (countFailure (counted contractId w) (pageKeyFor page) m) w.console
      (fetchOnce E config contractId w).1 (fetchOnce E config contractId w).2 := by
  obtain ⟨lastLedger, w₁, hfirst, hfails⟩ := h
  have hpage : page ≠ [] := by
    rintro rfl
    cases hfails
  obtain ⟨rest, hrest, hfetch⟩ := fetchOnce_of_firstPage hpage hfirst
  have hasked : Asked w w₁ := by
    have hkept := keeps_firstPage config contractId (drifts_asked (E := E) w) w (.refl w)
    rwa [hfirst] at hkept
  have hcounted : counted contractId w₁ = counted contractId w := by
    rw [counted, counted, hasked.memory, hasked.db]
  have hdeliver : Ensures (Asked w₁) (deliver page) fun o w₂ => o = .done () ∧
      Asked { w₁ with delivered := w₁.delivered ++ page } w₂ :=
    ensures_update fun w₂ h => ⟨rfl, h.db, h.memory, by rw [h.delivered], h.console⟩
  have hingest : Ensures (Asked { w₁ with delivered := w₁.delivered ++ page })
      (do ingestPageWithQuarantine E config page lastLedger contractId; rest)
      (FailureCounted config contractId m (countFailure (counted contractId w) (pageKeyFor page) m) w.console) := by
    refine FailureCounted.andThen ?_ hrest
    have hcounts : Ensures (Asked { w₁ with delivered := w₁.delivered ++ page })
        (ingestPageWithQuarantine E config page lastLedger contractId)
        (FailureCounted config contractId m (countFailure (counted contractId w₁) (pageKeyFor page) m) w₁.console) :=
      ingestPageWithQuarantine_counts hE (hasked.db ▸ hfails)
    exact hcounted ▸ hasked.console ▸ hcounts
  rw [hfetch]
  exact Ensures.bind hdeliver (fun _ => hingest.mono (fun _ h => h.2) fun _ _ h => h) (fun _ _ h => by cases h.1)
    (fun _ h => by cases h.1) w₁ (.refl w₁)

/-- Polls that all fail on their first page with the error `m`, with restarts in between; the pages,
in order. -/
inductive FailingRun (E : Environment ρ) (config : Config) (contractId m : String) (w : World ρ) :
    List (List EventResponse) → World ρ → Prop
  | start : FailingRun E config contractId m w [] w
  | restart {pages : List (List EventResponse)} {w' : World ρ} : FailingRun E config contractId m w pages w' →
    FailingRun E config contractId m w pages (restart w')
  | poll {pages : List (List EventResponse)} {page : List EventResponse} {w' : World ρ} :
    FailingRun E config contractId m w pages w' → FailsOn E config contractId m page w' →
    FailingRun E config contractId m w (pages ++ [page]) (fetchOnce E config contractId w').2

/-- Neither the process nor the database has counted a failure with `m`. -/
def Uncounted (contractId m : String) (w : World ρ) : Prop :=
  (∀ q ∈ counted contractId w, q.errorMessage ≠ m) ∧
    ∀ q ∈ counted contractId (restart w), q.errorMessage ≠ m

/-- A failing poll below the threshold counts its page. -/
theorem Tallied.poll (hE : E.Healthy) {keys : List String} {w : World ρ} (h : Tallied contractId m keys w)
    (hfails : FailsOn E config contractId m page w)
    (hlow : (keys.length : Int) + 1 < config.quarantineAfterFailures) :
    Tallied contractId m (keys ++ [pageKeyFor page]) (fetchOnce E config contractId w).2 := by
  obtain ⟨n, htally, hle, -⟩ := tally_failures m keys (pageKeyFor page)
  have hcount : countFailure (counted contractId w) (pageKeyFor page) m = ⟨pageKeyFor page, m, n⟩ := by
    rw [h.process]
    exact Option.some.inj ((tally_concat m keys _).symm.trans htally)
  have hpoll := fetchOnce_counts hE hfails
  have hsmall : ((countFailure (counted contractId w) (pageKeyFor page) m).failures : Int) <
      config.quarantineAfterFailures := by
    rw [hcount]
    dsimp only
    omega
  rw [FailureCounted, if_pos hsmall] at hpoll
  exact h.next hpoll.2.2

/-- As long as the threshold is not reached, every failing poll has counted its page. -/
theorem FailingRun.tallied (hE : E.Healthy) {pages : List (List EventResponse)} {w w' : World ρ}
    (h : FailingRun E config contractId m w pages w') (hw : Uncounted contractId m w)
    (hlow : (pages.length : Int) < config.quarantineAfterFailures) :
    Tallied contractId m (pages.map pageKeyFor) w' := by
  induction h with
  | start => exact ⟨countsAlike_none hw.1, countsAlike_none hw.2⟩
  | restart _ ih => exact (ih hlow).restart
  | poll _ hfails ih =>
    rw [List.length_append, List.length_singleton] at hlow
    have hkept := ih (by omega)
    rw [List.map_append, List.map_singleton]
    exact hkept.poll hE hfails (by rw [List.length_map]; omega)

def Notice.switches (contractId : String) : Notice → Bool
  | .switching id _ _ => id = contractId
  | _ => false

/-- Among the lines printed in between is one that says that a page of the contract is taken event by event. -/
def Switched (contractId : String) (before after : World ρ) : Prop :=
  ∃ n ∈ after.console.drop before.console.length, n.switches contractId = true

instance (contractId : String) (before after : World ρ) : Decidable (Switched contractId before after) :=
  inferInstanceAs (Decidable (∃ n ∈ after.console.drop before.console.length, n.switches contractId = true))

/-- **The poll that brings the failures to the threshold takes its page apart** exactly when the pages of
all the polls had one key. -/
theorem switched_iff_same_key (hE : E.Healthy) {pages : List (List EventResponse)} {w w' : World ρ}
    (h : FailingRun E config contractId m w pages w') (hw : Uncounted contractId m w)
    (hcount : (pages.length : Int) + 1 = config.quarantineAfterFailures)
    (hlast : FailsOn E config contractId m page w') :
    Switched contractId w' (fetchOnce E config contractId w').2 ↔
      ∀ p ∈ pages, pageKeyFor p = pageKeyFor page := by
  have htallied := h.tallied hE hw (by omega)
  obtain ⟨n, htally, hle, hfull⟩ := tally_failures m (pages.map pageKeyFor) (pageKeyFor page)
  rw [List.length_map] at hle hfull
  have hstate : countFailure (counted contractId w') (pageKeyFor page) m = ⟨pageKeyFor page, m, n⟩ := by
    rw [htallied.process]
    exact Option.some.inj ((tally_concat m _ _).symm.trans htally)
  have hpoll := fetchOnce_counts hE hlast
  rw [hstate] at hpoll
  have hkeys : (∀ k ∈ pages.map pageKeyFor, k = pageKeyFor page) ↔ ∀ p ∈ pages, pageKeyFor p = pageKeyFor page := by
    simp
  rw [← hkeys, ← hfull]
  by_cases hlow : (n : Int) < config.quarantineAfterFailures
  · rw [FailureCounted, if_pos hlow] at hpoll
    have hnone : ¬ Switched contractId w' (fetchOnce E config contractId w').2 := by
      rintro ⟨notice, hmem, -⟩
      rw [hpoll.2.1, List.drop_length] at hmem
      cases hmem
    constructor
    · exact fun hswitched => absurd hswitched hnone
    · intro hn
      omega
  · rw [FailureCounted, if_neg hlow] at hpoll
    constructor
    · intro _
      omega
    · intro _
      obtain ⟨rest, hrest⟩ := hpoll
      refine ⟨.switching contractId n m, ?_, by simp [Notice.switches]⟩
      rw [← hrest, List.append_assoc, List.drop_left]
      simp

/-- The page a poll is served first, with the last folded ledger. -/
def servedFirst (E : Environment ρ) (config : Config) (contractId : String) (w : World ρ) :
    Option (Nat × List EventResponse) :=
  match (firstPage E config contractId w).1 with
  | .done p => some p
  | _ => none

theorem failsOn_of_served {w : World ρ}
    (h : ((servedFirst E config contractId w).bind fun p => pageError p.1 p.2 w.db) = some (.error m)) :
    FailsOn E config contractId m (((servedFirst E config contractId w).map Prod.snd).getD []) w := by
  rcases hfirst : firstPage E config contractId w with ⟨⟨lastLedger, page⟩ | _ | _, w₁⟩
  · simp only [servedFirst, hfirst, Option.bind_some, pageError] at h
    refine ⟨lastLedger, w₁, by simp [hfirst, servedFirst], ?_⟩
    simp only [servedFirst, hfirst, Option.map_some, Option.getD_some]
    cases hingest : ingestEvents lastLedger page w.db with
    | ok r => simp [hingest] at h
    | error e => simpa [hingest] using h
  · simp [servedFirst, hfirst] at h
  · simp [servedFirst, hfirst] at h

def aLog : List EventResponse :=
  [aBadClaim, .published "0003" 3 "joined" [.str "GB", .bigint 100],
    .published "0004" 4 "joined" [.str "GC", .bigint 100]]

/-- A healthy database, and an RPC that knows the first `count n` events after `n` waits. -/
def telling (count : Nat → Nat) : Environment Nat :=
  .serving (fun n => aLog.take (count n)) (fun _ => 100) fun _ => .done ()

theorem healthy_telling (count : Nat → Nat) : (telling count).Healthy := ⟨fun _ => rfl, fun _ => rfl⟩

theorem rpcLog_telling {count : Nat → Nat} (hcount : ∀ n, count n ≤ count (n + 1)) :
    RpcLog (telling count) "C" fun n => aLog.take (count n) := by
  have hids : aLog.Pairwise fun a b => a.id < b.id := by decide
  have hledgers : aLog.Pairwise fun a b => a.ledger ≤ b.ledger := by decide
  exact rpcLog_serving _ _ _ (fun n => List.take_prefix_take_left (hcount n))
    (fun n => hids.sublist (List.take_sublist _ _)) fun n => hledgers.sublist (List.take_sublist _ _)

def fromTheStart : Config := { contractIds := ["C"], startLedger := 1 }

/-- A poll, after which the process is started again. -/
def pollOnce (count : Nat → Nat) : World Nat :=
  restart (fetchOnce (telling count) fromTheStart "C" (freshWorld 0)).2

def pollTwice (count : Nat → Nat) : World Nat := (fetchOnce (telling count) fromTheStart "C" (pollOnce count)).2

def pageAt (count : Nat → Nat) (w : World Nat) : List EventResponse :=
  ((servedFirst (telling count) fromTheStart "C" w).map Prod.snd).getD []

def badClaimError : String :=
  "event 0002 (claimed): field \"pending\" must be a non-negative decimal-integer amount, got \"much\""

def FailsAt (count : Nat → Nat) (w : World Nat) : Prop :=
  ((servedFirst (telling count) fromTheStart "C" w).bind fun p => pageError p.1 p.2 w.db) =
    some (.error badClaimError)

instance (count : Nat → Nat) (w : World Nat) : Decidable (FailsAt count w) := inferInstanceAs (Decidable (_ = _))

theorem failingRun_pollTwice {count : Nat → Nat} (h₁ : FailsAt count (freshWorld 0))
    (h₂ : FailsAt count (pollOnce count)) :
    FailingRun (telling count) fromTheStart "C" badClaimError (freshWorld 0)
      [pageAt count (freshWorld 0), pageAt count (pollOnce count)] (pollTwice count) :=
  .poll (.restart (.poll .start (failsOn_of_served h₁))) (failsOn_of_served h₂)

theorem uncounted_freshWorld (m : String) : Uncounted "C" m (freshWorld 0) := by
  constructor <;> exact fun _ h => by cases h

/-- The third poll of a page that stays as it is, with a restart in between. -/
theorem switched_iff_same_key_restarted :
    Switched "C" (pollTwice fun _ => 3)
        (fetchOnce (telling fun _ => 3) fromTheStart "C" (pollTwice fun _ => 3)).2 := by
  have hfirst : FailsAt (fun _ => 3) (freshWorld 0) := by decide +kernel
  have hrun := failingRun_pollTwice hfirst (by decide +kernel)
  have hlast : FailsOn (telling fun _ => 3) fromTheStart "C" badClaimError
      (pageAt (fun _ => 3) (pollTwice fun _ => 3)) (pollTwice fun _ => 3) := failsOn_of_served (by decide +kernel)
  have hkeys : ∀ p ∈ [pageAt (fun _ => 3) (freshWorld 0), pageAt (fun _ => 3) (pollOnce fun _ => 3)],
      pageKeyFor p = pageKeyFor (pageAt (fun _ => 3) (pollTwice fun _ => 3)) := by decide +kernel
  exact (switched_iff_same_key (healthy_telling _) hrun (uncounted_freshWorld _) rfl hlast).mpr hkeys

/-- One more event every ten waits. -/
def slowly (n : Nat) : Nat := 1 + n / 10

/-- At the tip of the chain the page grows from poll to poll: the third poll that fails on the same event
counts its first failure. -/
theorem growing_page_is_not_taken_apart :
    RpcLog (telling slowly) "C" (fun n => aLog.take (slowly n)) ∧ (telling slowly).Healthy ∧
      FailingRun (telling slowly) fromTheStart "C" badClaimError (freshWorld 0)
        [pageAt slowly (freshWorld 0), pageAt slowly (pollOnce slowly)] (pollTwice slowly) ∧
      FailsOn (telling slowly) fromTheStart "C" badClaimError (pageAt slowly (pollTwice slowly)) (pollTwice slowly) ∧
      fromTheStart.quarantineAfterFailures = 3 ∧
      ¬ Switched "C" (pollTwice slowly) (fetchOnce (telling slowly) fromTheStart "C" (pollTwice slowly)).2 := by
  have hslowly : ∀ n, slowly n ≤ slowly (n + 1) := fun n => by simp only [slowly]; omega
  exact ⟨rpcLog_telling hslowly, healthy_telling slowly,
    failingRun_pollTwice (by decide +kernel) (by decide +kernel), failsOn_of_served (by decide +kernel), rfl,
    by decide +kernel⟩

end OurDao
