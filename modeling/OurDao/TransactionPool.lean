import OurDao.Pools

/-!
# What shares the pool

Everything the API and the worker send to Postgres goes through one pool of connections: single
statements, `withTransaction`, and the operations that take a connection for themselves and send their
own `BEGIN`, `COMMIT` and `ROLLBACK`. Whatever of this goes on at the same time, and wherever a
statement fails or a connection breaks, a call commits all of a block or nothing of it, unless the
server refuses a `ROLLBACK` on a connection that stays open.
-/

namespace OurDao.OnPool

open Pools

variable {W : Type}

/-- What is done in a block by someone who is handed the connection: it returns, or it throws. `query`
sends a statement, `none` one that writes nothing. -/
inductive Body (W : Type) : Type 1 where
  | ends (returned : Bool)
  | ask {α : Type} (next : α → Body W)
  | query (w : Option W) (next : Reply → Body W)

def statement : Option W → Statement W
  | none => .read
  | some w => .write w

def Body.andThen : Body W → (Bool → Code W) → Code W
  | .ends returned, k => k returned
  | .ask next, k => .ask fun a => (next a).andThen k
  | .query w next, k => .send (statement w) fun r => (next r).andThen k

/-- `COMMIT` after what returned. -/
def thenCommit (undo done : Code W) : Bool → Code W
  | false => undo
  | true => .send .commit fun
    | .error => undo
    | .ok => done

/-- `BEGIN`, what is done, `COMMIT`; `undo` is what catches an error of any of them. -/
def inBlock (body : Body W) (undo done : Code W) : Code W :=
  .send .beginBlock fun
    | .error => undo
    | .ok => body.andThen (thenCommit undo done)

/-- `pool.query`. -/
def query (w : Option W) : Code W :=
  .send (statement w) fun
    | .ok => .release true
    | .error => .release false

/-- Run a set of statements inside a transaction. That the `ROLLBACK` fails is logged. -/
def withTransaction (fn : Body W) : Code W :=
  inBlock fn (.send .rollback fun _ => .release false) (.release true)

/-- The lock belongs to the block. -/
def resetForContractChange (wipe : Body W) : Code W :=
  inBlock (.query none fun
      | .error => .ends false
      | .ok => .ask fun acquired : Bool => if acquired then wipe else .ends false)
    (.send .rollback fun _ => .release false) (.release true)

/-- `pg_advisory_unlock`, whose failure is logged, and the connection is given back. -/
def unlock (returned : Bool) : Code W := .send .read fun _ => .release returned

/-- What is done under `pg_try_advisory_lock`. -/
def underLock (main : Code W) : Code W :=
  .send .read fun
    | .error => .release false
    | .ok => .ask fun acquired : Bool => if acquired then main else .release false

def ingestPage (fold : Body W) : Code W :=
  underLock (inBlock fold (.send .rollback fun _ => unlock false) (unlock true))

def reindexFromEventLog (rebuild : Body W) : Code W :=
  underLock (inBlock rebuild (.send .rollback fun _ => unlock false) (unlock true))

/-- The raw row is inserted on its own. An error of the fold is recorded elsewhere, and one of `ROLLBACK`
is not caught. -/
def ingestEventQuarantined (raw : W) (fold : Body W) : Code W :=
  underLock <| .send (.write raw) fun
    | .error => unlock false
    | .ok => .ask fun needsFold : Bool =>
      if needsFold then
        inBlock fold
          (.send .rollback fun
            | .ok => unlock true
            | .error => unlock false)
          (unlock true)
      else unlock true

/-- What `replayFailedEvent` finds in the log of an event with an unresolved record. -/
inductive Finds where
  | nothing
  | folded
  | unfolded

/-- `mark` resolves the record of an event that was folded, `note` writes the new error to it; `fold`
folds the event and resolves its record. -/
def replayFailedEvent (mark note : W) (fold : Body W) : Code W :=
  underLock <| .send .read fun
    | .error => unlock false
    | .ok => .ask fun unresolved : Bool =>
      if !unresolved then unlock true
      else .send .read fun
        | .error => unlock false
        | .ok => .ask fun
          | Finds.nothing => unlock false
          | .folded => .send (.write mark) fun
            | .error => unlock false
            | .ok => unlock true
          | .unfolded =>
            inBlock fold
              (.send .rollback fun
                | .error => unlock false
                | .ok => .send (.write note) fun
                  | .error => unlock false
                  | .ok => unlock true)
              (unlock true)

inductive Call (W : Type) : Type 1 where
  | query (w : Option W)
  | withTransaction (fn : Body W)
  | resetForContractChange (wipe : Body W)
  | ingestPage (fold : Body W)
  | ingestEventQuarantined (raw : W) (fold : Body W)
  | reindexFromEventLog (rebuild : Body W)
  | replayFailedEvent (mark note : W) (fold : Body W)

def Call.code : Call W → Code W
  | query w => OnPool.query w
  | withTransaction fn => OnPool.withTransaction fn
  | resetForContractChange wipe => OnPool.resetForContractChange wipe
  | ingestPage fold => OnPool.ingestPage fold
  | ingestEventQuarantined raw fold => OnPool.ingestEventQuarantined raw fold
  | reindexFromEventLog rebuild => OnPool.reindexFromEventLog rebuild
  | replayFailedEvent mark note fold => OnPool.replayFailedEvent mark note fold

/-- A block is committed whole or not at all. A caller that is told so has it committed, unless a
statement was refused that the block went on from; one that is not may have it committed only if the
connection broke. -/
def Whole (before : List (List W)) (returned : Bool) (s : Session W) : Prop :=
  if returned then s.units = before ++ if s.spoiled then [] else [s.acked]
  else s.units = before ∨ s.units = before ++ [s.acked] ∧ s.spoiled = false ∧ s.block = none

/-- What is true of a call that ended. -/
def Call.Outcome : Call W → Bool → Session W → Prop
  | query none, _, s => s.units = []
  | query (some w), returned, s =>
    s.units = [[w]] ∧ (returned = false → s.block = none) ∨ s.units = [] ∧ returned = false
  | withTransaction _, returned, s => Whole [] returned s
  | resetForContractChange _, returned, s => Whole [] returned s
  | ingestPage _, returned, s => Whole [] returned s
  | reindexFromEventLog _, returned, s => Whole [] returned s
  | ingestEventQuarantined raw _, returned, s =>
    s.units = [] ∧ returned = false ∨ s.units = [[raw]] ∨ Whole [[raw]] returned s
  | replayFailedEvent mark note _, returned, s =>
    s.units = [] ∨ s.units = [[mark]] ∨ s.units = [[note]] ∨ Whole [] returned s

section

variable {refusable : Statement W → Prop} {Q : Bool → Session W → Prop} {next : Reply → Code W}
  {b : Block W} {units : List (List W)} {acked : List W} {spoiled : Bool}

theorem execute_statement_active (w : Option W) (ws : List W) :
    (Block.active ws).execute (statement w) = some (.active (ws ++ w.toList), []) := by
  cases w with
  | none => rw [Option.toList_none, List.append_nil]; rfl
  | some w => rfl

/-- A body that is in a block ends in it, in a failed one, or on a broken connection. -/
theorem ensures_body {k : Bool → Code W} (body : Body W)
    (hactive : ∀ returned ws, (k returned).Ensures refusable Q ⟨some (.active ws), units, ws, false⟩)
    (hfailed : ∀ returned ws, (k returned).Ensures refusable Q ⟨some .failed, units, ws, true⟩)
    (hbroken : ∀ returned ws spoiled, (k returned).Ensures refusable Q ⟨none, units, ws, spoiled⟩) :
    (∀ ws, (body.andThen k).Ensures refusable Q ⟨some (.active ws), units, ws, false⟩) ∧
    (∀ ws, (body.andThen k).Ensures refusable Q ⟨some .failed, units, ws, true⟩) ∧
    ∀ ws spoiled, (body.andThen k).Ensures refusable Q ⟨none, units, ws, spoiled⟩ := by
  induction body with
  | ends returned => exact ⟨hactive returned, hfailed returned, hbroken returned⟩
  | ask next ih =>
    exact ⟨fun ws a => (ih a).1 ws, fun ws a => (ih a).2.1 ws, fun ws spoiled a => (ih a).2.2 ws spoiled⟩
  | query w next ih =>
    refine ⟨fun ws => ?_, fun ws => ?_, fun ws spoiled => Code.ensures_broken ((ih .error).2.2 ws spoiled)⟩
    · apply Code.ensures_send
      · intro b' news hexecute
        rw [execute_statement_active] at hexecute
        cases hexecute
        rw [List.append_nil]
        have hrecord : (Block.active ws).record (statement w) ws = ws ++ w.toList := by
          cases w with
          | none => exact (List.append_nil _).symm
          | some w => rfl
        rw [hrecord]
        exact (ih .ok).1 _
      · intro _
        have hspoils : (false || (Block.active ws).spoils (statement w)) = true := by cases w <;> rfl
        have hrefuse : (Block.active ws).refuse (statement w) = .failed := by cases w <;> rfl
        rw [hspoils, hrefuse]
        exact (ih .error).2.1 ws
      · exact (ih .error).2.2 ws false
      · intro b' news hexecute
        rw [execute_statement_active] at hexecute
        cases hexecute
        rw [List.append_nil]
        exact (ih .error).2.2 ws false
    · apply Code.ensures_send
      · intro b' news hexecute
        cases w <;> cases hexecute
      · intro _
        have hspoils : (true || Block.failed.spoils (statement w)) = true := Bool.true_or _
        have hrefuse : Block.failed.refuse (statement w) = .failed := by cases w <;> rfl
        rw [hspoils, hrefuse]
        exact (ih .error).2.1 ws
      · exact (ih .error).2.2 ws true
      · intro b' news hexecute
        cases w <;> cases hexecute

/-- A block that begins where none is open. -/
theorem ensures_inBlock {body : Body W} {undo done : Code W} (hb : ∀ ws, b ≠ .active ws)
    (hdone : ∀ ws, done.Ensures refusable Q ⟨some .idle, units ++ [ws], ws, false⟩)
    (hspoiled : ∀ ws, done.Ensures refusable Q ⟨some .idle, units, ws, true⟩)
    (hundo : ∀ b' ws spoiled, undo.Ensures refusable Q ⟨some b', units, ws, spoiled⟩)
    (hbroken : ∀ ws spoiled, undo.Ensures refusable Q ⟨none, units, ws, spoiled⟩)
    (hunanswered : ∀ ws, undo.Ensures refusable Q ⟨none, units ++ [ws], ws, false⟩) :
    (inBlock body undo done).Ensures refusable Q ⟨some b, units, acked, false⟩ := by
  have hafter : ∀ returned ws,
      (thenCommit undo done returned).Ensures refusable Q ⟨some (.active ws), units, ws, false⟩ := by
    intro returned ws
    cases returned with
    | false => exact hundo _ _ _
    | true =>
      apply Code.ensures_send
      · intro b' news hexecute
        cases hexecute
        exact hdone ws
      · exact fun _ => hundo _ _ _
      · exact hbroken _ _
      · intro b' news hexecute
        cases hexecute
        exact hunanswered ws
  have hafterFailed : ∀ returned ws,
      (thenCommit undo done returned).Ensures refusable Q ⟨some .failed, units, ws, true⟩ := by
    intro returned ws
    cases returned with
    | false => exact hundo _ _ _
    | true =>
      apply Code.ensures_send
      · intro b' news hexecute
        cases hexecute
        rw [List.append_nil]
        exact hspoiled ws
      · exact fun _ => hundo _ _ _
      · exact hbroken _ _
      · intro b' news hexecute
        cases hexecute
        rw [List.append_nil]
        exact hbroken _ _
  have hafterBroken : ∀ returned ws spoiled,
      (thenCommit undo done returned).Ensures refusable Q ⟨none, units, ws, spoiled⟩ := by
    intro returned ws spoiled
    cases returned with
    | false => exact hbroken _ _
    | true => exact Code.ensures_broken (hbroken _ _)
  have hexecuted : ∀ b' news, b.execute .beginBlock = some (b', news) → b' = .active [] ∧ news = [] := by
    intro b' news hexecute
    cases b with
    | idle =>
      cases hexecute
      exact ⟨rfl, rfl⟩
    | active ws => exact absurd rfl (hb ws)
    | failed => cases hexecute
  apply Code.ensures_send
  · intro b' news hexecute
    obtain ⟨rfl, rfl⟩ := hexecuted b' news hexecute
    have hrecord : b.record .beginBlock acked = [] := by cases b <;> rfl
    rw [List.append_nil, hrecord]
    exact (ensures_body body hafter hafterFailed hafterBroken).1 []
  · exact fun _ => hundo _ _ _
  · exact hbroken _ _
  · intro b' news hexecute
    obtain ⟨rfl, rfl⟩ := hexecuted b' news hexecute
    rw [List.append_nil]
    exact hbroken _ _

/-- A `ROLLBACK` that the server does not refuse. -/
theorem ensures_rollback (hkept : ¬ refusable .rollback)
    (hok : (next .ok).Ensures refusable Q ⟨some .idle, units, acked, spoiled⟩)
    (herror : (next .error).Ensures refusable Q ⟨none, units, acked, spoiled⟩) :
    (Code.send .rollback next).Ensures refusable Q ⟨some b, units, acked, spoiled⟩ := by
  have hexecuted : b.execute .rollback = some (.idle, []) := by cases b <;> rfl
  have hrecord : b.record .rollback acked = acked := by cases b <;> rfl
  apply Code.ensures_send
  · intro b' news hexecute
    cases hexecuted.symm.trans hexecute
    rw [List.append_nil, hrecord]
    exact hok
  · exact fun h => absurd h hkept
  · exact herror
  · intro b' news hexecute
    cases hexecuted.symm.trans hexecute
    rw [List.append_nil]
    exact herror

/-- A block that is rolled back when anything in it throws. -/
theorem ensures_whole {body : Body W} {done : Code W} (hkept : ¬ refusable .rollback) (hb : ∀ ws, b ≠ .active ws)
    (hdone : ∀ s, Whole units true s → s.block = some .idle → done.Ensures refusable Q s)
    (hok : ∀ s, s.units = units → s.block = some .idle → (next .ok).Ensures refusable Q s)
    (herror : ∀ s, Whole units false s → s.block = none → (next .error).Ensures refusable Q s) :
    (inBlock body (.send .rollback next) done).Ensures refusable Q ⟨some b, units, acked, false⟩ := by
  apply ensures_inBlock hb
  · intro ws
    exact hdone _ rfl rfl
  · intro ws
    exact hdone _ (List.append_nil _).symm rfl
  · intro b' ws spoiled
    apply ensures_rollback hkept
    · exact hok _ rfl rfl
    · exact herror _ (.inl rfl) rfl
  · intro ws spoiled
    exact Code.ensures_broken (herror _ (.inl rfl) rfl)
  · intro ws
    exact Code.ensures_broken (herror _ (.inr ⟨rfl, rfl, rfl⟩) rfl)

theorem ensures_unlock {returned : Bool} {s : Session W} (hs : s.block = some .idle ∨ s.block = none)
    (h : Q returned s) (hbroken : Q returned { s with block := none }) : (unlock returned).Ensures refusable Q s := by
  obtain ⟨block, units, acked, spoiled⟩ := s
  obtain rfl | rfl := hs
  · apply Code.ensures_send
    · intro b' news hexecute
      cases hexecute
      rw [List.append_nil]
      exact h
    · intro _
      have hspoils : (spoiled || Block.idle.spoils (.read : Statement W)) = spoiled := Bool.or_false _
      rw [hspoils]
      exact h
    · exact hbroken
    · intro b' news hexecute
      cases hexecute
      rw [List.append_nil]
      exact hbroken
  · exact Code.ensures_broken hbroken

/-- Nothing was sent but the request for the lock, unless the lock was acquired; a connection on which it
was is in no block. -/
theorem ensures_underLock {main : Code W} (hb : ∀ ws, b ≠ .active ws)
    (h : Q false (.fresh b)) (hbroken : Q false { block := none })
    (hmain : main.Ensures refusable Q (.fresh .idle)) : (underLock main).Ensures refusable Q (.fresh b) := by
  apply Code.ensures_send
  · intro b' news hexecute acquired
    cases b with
    | idle =>
      cases hexecute
      cases acquired with
      | true => exact hmain
      | false => exact h
    | active ws => exact absurd rfl (hb ws)
    | failed => cases hexecute
  · intro _
    cases b with
    | idle | failed => exact h
    | active ws => exact absurd rfl (hb ws)
  · exact hbroken
  · intro b' news hexecute
    cases b with
    | idle =>
      cases hexecute
      exact hbroken
    | active ws => exact absurd rfl (hb ws)
    | failed => cases hexecute

/-- A statement that is sent on its own. -/
theorem ensures_alone (w : Option W)
    (hok : (next .ok).Ensures refusable Q ⟨some .idle, units ++ (w.map fun w => [w]).toList, acked, spoiled⟩)
    (herror : (next .error).Ensures refusable Q ⟨some .idle, units, acked, spoiled⟩)
    (hbroken : (next .error).Ensures refusable Q ⟨none, units, acked, spoiled⟩)
    (hunanswered : (next .error).Ensures refusable Q
      ⟨none, units ++ (w.map fun w => [w]).toList, acked, spoiled⟩) :
    (Code.send (statement w) next).Ensures refusable Q ⟨some .idle, units, acked, spoiled⟩ := by
  apply Code.ensures_send
  · intro b' news hexecute
    cases w <;> cases hexecute <;> exact hok
  · intro _
    have hspoils : (spoiled || Block.idle.spoils (statement w)) = spoiled := by cases w <;> exact Bool.or_false _
    have hrefuse : Block.idle.refuse (statement w) = .idle := by cases w <;> rfl
    rw [hspoils, hrefuse]
    exact herror
  · exact hbroken
  · intro b' news hexecute
    cases w <;> cases hexecute <;> exact hunanswered

/-- What is true of a call and of the connection that it gives back. -/
def Call.Meets (c : Call W) (b : Block W) (returned : Bool) (s : Session W) : Prop :=
  c.Outcome returned s ∧ ∀ b', s.block = some b' → b' = .idle ∨ b' = b

theorem Call.Meets.of_closed {c : Call W} {returned : Bool} {s : Session W} (h : c.Outcome returned s)
    (hs : s.block = some .idle ∨ s.block = none) : c.Meets b returned s := by
  refine ⟨h, fun b' hb' => .inl ?_⟩
  obtain hs | hs := hs
  · exact Option.some_inj.mp (hb'.symm.trans hs)
  · cases hb'.symm.trans hs

theorem Whole.of_broken {before : List (List W)} {returned : Bool} {s : Session W} (h : Whole before returned s) :
    Whole before returned { s with block := none } := by
  cases returned with
  | true => exact h
  | false => exact h.imp id fun h => ⟨h.1, h.2.1, rfl⟩

theorem meets_query (hb : ∀ ws, b ≠ .active ws) (w : Option W) :
    (query w).Ensures refusable ((Call.query w).Meets b) (.fresh b) := by
  cases b with
  | active ws => exact absurd rfl (hb ws)
  | idle =>
    apply ensures_alone w
    · cases w with
      | none => exact .of_closed rfl (.inl rfl)
      | some w => exact .of_closed (.inl ⟨rfl, fun h => by cases h⟩) (.inl rfl)
    · cases w with
      | none => exact .of_closed rfl (.inl rfl)
      | some w => exact .of_closed (.inr ⟨rfl, rfl⟩) (.inl rfl)
    · cases w with
      | none => exact .of_closed rfl (.inr rfl)
      | some w => exact .of_closed (.inr ⟨rfl, rfl⟩) (.inr rfl)
    · cases w with
      | none => exact .of_closed rfl (.inr rfl)
      | some w => exact .of_closed (.inl ⟨rfl, fun _ => rfl⟩) (.inr rfl)
  | failed =>
    have hrefused : (Call.query w).Outcome false ⟨some .failed, [], [], false⟩ := by
      cases w with
      | none => exact rfl
      | some w => exact .inr ⟨rfl, rfl⟩
    apply Code.ensures_send
    · intro b' news hexecute
      cases w <;> cases hexecute
    · intro _
      have hsame : (Block.failed : Block W).refuse (statement w) = .failed := by cases w <;> rfl
      have hspoils : (false || (Block.failed : Block W).spoils (statement w)) = false := by cases w <;> rfl
      rw [hsame, hspoils]
      exact ⟨hrefused, fun b' hb' => .inr (Option.some_inj.mp hb').symm⟩
    · cases w with
      | none => exact .of_closed rfl (.inr rfl)
      | some w => exact .of_closed (.inr ⟨rfl, rfl⟩) (.inr rfl)
    · intro b' news hexecute
      cases w <;> cases hexecute

/-- The operations that fold or rebuild in one block under the lock. -/
theorem meets_locked (hkept : ¬ refusable .rollback) (hb : ∀ ws, b ≠ .active ws) {c : Call W}
    (hc : ∀ returned s, Whole [] returned s → c.Outcome returned s) (body : Body W) :
    (underLock (inBlock body (.send .rollback fun _ => unlock false) (unlock true))).Ensures refusable
      (c.Meets b) (.fresh b) := by
  apply ensures_underLock hb
  · exact ⟨hc _ _ (.inl rfl), fun b' hb' => .inr (Option.some_inj.mp hb').symm⟩
  · exact .of_closed (hc _ _ (.inl rfl)) (.inr rfl)
  · have hidle : ∀ ws : List W, (.idle : Block W) ≠ .active ws := fun ws h => by cases h
    apply ensures_whole hkept hidle
    · intro s hs hblock
      exact ensures_unlock (.inl hblock) (.of_closed (hc _ _ hs) (.inl hblock))
        (.of_closed (hc _ _ hs.of_broken) (.inr rfl))
    · intro s hs hblock
      exact ensures_unlock (.inl hblock) (.of_closed (hc _ _ (.inl hs)) (.inl hblock))
        (.of_closed (hc _ _ (.inl hs)) (.inr rfl))
    · intro s hs hblock
      exact ensures_unlock (.inr hblock) (.of_closed (hc _ _ hs) (.inr hblock))
        (.of_closed (hc _ _ hs.of_broken) (.inr rfl))

/-- `withTransaction`, and what is written like it. -/
theorem meets_transaction (hkept : ¬ refusable .rollback) (hb : ∀ ws, b ≠ .active ws) {c : Call W}
    (hc : ∀ returned s, Whole [] returned s → c.Outcome returned s) (body : Body W) :
    (withTransaction body).Ensures refusable (c.Meets b) (.fresh b) := by
  apply ensures_whole hkept hb
  · intro s hs hblock
    exact .of_closed (hc _ _ hs) (.inl hblock)
  · intro s hs hblock
    exact .of_closed (hc _ _ (.inl hs)) (.inl hblock)
  · intro s hs hblock
    exact .of_closed (hc _ _ hs) (.inr hblock)

theorem meets_ingestEventQuarantined (hkept : ¬ refusable .rollback) (hb : ∀ ws, b ≠ .active ws) (raw : W)
    (fold : Body W) : (ingestEventQuarantined raw fold).Ensures refusable
      ((Call.ingestEventQuarantined raw fold).Meets b) (.fresh b) := by
  have hnone : ∀ s : Session W, s.units = [] → (Call.ingestEventQuarantined raw fold).Outcome false s :=
    fun s hs => .inl ⟨hs, rfl⟩
  have hraw : ∀ returned (s : Session W), s.units = [[raw]] →
      (Call.ingestEventQuarantined raw fold).Outcome returned s := fun returned s hs => .inr (.inl hs)
  have hwhole : ∀ returned (s : Session W), Whole [[raw]] returned s →
      (Call.ingestEventQuarantined raw fold).Outcome returned s := fun returned s hs => .inr (.inr hs)
  apply ensures_underLock hb
  · exact ⟨hnone _ rfl, fun b' hb' => .inr (Option.some_inj.mp hb').symm⟩
  · exact .of_closed (hnone _ rfl) (.inr rfl)
  apply ensures_alone (some raw)
  · intro needsFold
    cases needsFold with
    | false =>
      exact ensures_unlock (.inl rfl) (.of_closed (hraw _ _ rfl) (.inl rfl)) (.of_closed (hraw _ _ rfl) (.inr rfl))
    | true =>
      have hidle : ∀ ws : List W, (.idle : Block W) ≠ .active ws := fun ws h => by cases h
      apply ensures_whole hkept hidle
      · intro s hs hblock
        exact ensures_unlock (.inl hblock) (.of_closed (hwhole _ _ hs) (.inl hblock))
          (.of_closed (hwhole _ _ hs.of_broken) (.inr rfl))
      · intro s hs hblock
        exact ensures_unlock (.inl hblock) (.of_closed (hraw _ _ hs) (.inl hblock))
          (.of_closed (hraw _ _ hs) (.inr rfl))
      · intro s hs hblock
        exact ensures_unlock (.inr hblock) (.of_closed (hwhole _ _ hs) (.inr hblock))
          (.of_closed (hwhole _ _ hs.of_broken) (.inr rfl))
  · exact ensures_unlock (.inl rfl) (.of_closed (hnone _ rfl) (.inl rfl)) (.of_closed (hnone _ rfl) (.inr rfl))
  · exact ensures_unlock (.inr rfl) (.of_closed (hnone _ rfl) (.inr rfl)) (.of_closed (hnone _ rfl) (.inr rfl))
  · exact ensures_unlock (.inr rfl) (.of_closed (hraw _ _ rfl) (.inr rfl)) (.of_closed (hraw _ _ rfl) (.inr rfl))

theorem meets_replayFailedEvent (hkept : ¬ refusable .rollback) (hb : ∀ ws, b ≠ .active ws) (mark note : W)
    (fold : Body W) : (replayFailedEvent mark note fold).Ensures refusable
      ((Call.replayFailedEvent mark note fold).Meets b) (.fresh b) := by
  have hnone : ∀ returned (s : Session W), s.units = [] →
      (Call.replayFailedEvent mark note fold).Outcome returned s := fun returned s hs => .inl hs
  have hmark : ∀ returned (s : Session W), s.units = [[mark]] →
      (Call.replayFailedEvent mark note fold).Outcome returned s := fun returned s hs => .inr (.inl hs)
  have hnote : ∀ returned (s : Session W), s.units = [[note]] →
      (Call.replayFailedEvent mark note fold).Outcome returned s := fun returned s hs => .inr (.inr (.inl hs))
  have hwhole : ∀ returned (s : Session W), Whole [] returned s →
      (Call.replayFailedEvent mark note fold).Outcome returned s := fun returned s hs => .inr (.inr (.inr hs))
  -- a session that wrote nothing, or one of the two statements, in whatever state it is
  have hunlock : ∀ (P : Session W → Prop) returned (s : Session W), P s → (∀ s, P s → P { s with block := none }) →
      (∀ s, P s → (Call.replayFailedEvent mark note fold).Outcome returned s) → s.block = some .idle ∨ s.block = none →
      (unlock returned).Ensures refusable ((Call.replayFailedEvent mark note fold).Meets b) s := by
    intro P returned s hs hbroken houtcome hblock
    exact ensures_unlock hblock (.of_closed (houtcome s hs) hblock) (.of_closed (houtcome _ (hbroken s hs)) (.inr rfl))
  apply ensures_underLock hb
  · exact ⟨hnone _ _ rfl, fun b' hb' => .inr (Option.some_inj.mp hb').symm⟩
  · exact .of_closed (hnone _ _ rfl) (.inr rfl)
  have hwroteNothing : ∀ returned (s : Session W), s.units = [] → s.block = some .idle ∨ s.block = none →
      (unlock returned).Ensures refusable ((Call.replayFailedEvent mark note fold).Meets b) s :=
    fun returned s hs => hunlock (·.units = []) returned s hs (fun _ h => h) (hnone returned)
  apply ensures_alone none
  · intro unresolved
    cases unresolved with
    | false => exact hwroteNothing _ _ rfl (.inl rfl)
    | true =>
      apply ensures_alone none
      · intro finds
        cases finds with
        | nothing => exact hwroteNothing _ _ rfl (.inl rfl)
        | folded =>
          apply ensures_alone (some mark)
          · exact hunlock (·.units = [[mark]]) _ _ rfl (fun _ h => h) (hmark _) (.inl rfl)
          · exact hwroteNothing _ _ rfl (.inl rfl)
          · exact hwroteNothing _ _ rfl (.inr rfl)
          · exact hunlock (·.units = [[mark]]) _ _ rfl (fun _ h => h) (hmark _) (.inr rfl)
        | unfolded =>
          have hidle : ∀ ws : List W, (.idle : Block W) ≠ .active ws := fun ws h => by cases h
          apply ensures_whole hkept hidle
          · intro s hs hblock
            exact hunlock (Whole [] true) _ _ hs (fun _ h => h.of_broken) (hwhole _) (.inl hblock)
          · intro s hs hblock
            obtain ⟨block, units, acked, spoiled⟩ := s
            cases hs
            cases hblock
            apply ensures_alone (some note)
            · exact hunlock (·.units = [[note]]) _ _ rfl (fun _ h => h) (hnote _) (.inl rfl)
            · exact hwroteNothing _ _ rfl (.inl rfl)
            · exact hwroteNothing _ _ rfl (.inr rfl)
            · exact hunlock (·.units = [[note]]) _ _ rfl (fun _ h => h) (hnote _) (.inr rfl)
          · intro s hs hblock
            exact hunlock (Whole [] false) _ _ hs (fun _ h => h.of_broken) (hwhole _) (.inr hblock)
      · exact hwroteNothing _ _ rfl (.inl rfl)
      · exact hwroteNothing _ _ rfl (.inr rfl)
      · exact hwroteNothing _ _ rfl (.inr rfl)
  · exact hwroteNothing _ _ rfl (.inl rfl)
  · exact hwroteNothing _ _ rfl (.inr rfl)
  · exact hwroteNothing _ _ rfl (.inr rfl)

theorem Call.meets (hkept : ¬ refusable .rollback) (hb : ∀ ws, b ≠ .active ws) (c : Call W) :
    c.code.Ensures refusable (c.Meets b) (.fresh b) := by
  cases c with
  | query w => exact meets_query hb w
  | withTransaction fn => exact meets_transaction (c := .withTransaction fn) hkept hb (fun _ _ h => h) fn
  | resetForContractChange wipe =>
    exact meets_transaction (c := .resetForContractChange wipe) hkept hb (fun _ _ h => h) _
  | ingestPage fold => exact meets_locked (c := .ingestPage fold) hkept hb (fun _ _ h => h) fold
  | ingestEventQuarantined raw fold => exact meets_ingestEventQuarantined hkept hb raw fold
  | reindexFromEventLog rebuild =>
    exact meets_locked (c := .reindexFromEventLog rebuild) hkept hb (fun _ _ h => h) rebuild
  | replayFailedEvent mark note fold => exact meets_replayFailedEvent hkept hb mark note fold

end

/-- The server may refuse anything but a `ROLLBACK`. -/
def mayRefuse (st : Statement W) : Prop := st ≠ .rollback

theorem rollback_kept : ¬ mayRefuse (.rollback : Statement W) := fun h => h rfl

variable {max : Nat} {P : Pool (Call W) W}

section

variable {refusable : Statement W → Prop} {l₁ l₂ : List (Pools.Link (Call W) W)} {call : Call W} {b b' : Block W}
  {st : Statement W} {next : Reply → Code W} {units log news : List (List W)} {acked : List W} {spoiled : Bool}
  {ended : List (Ended (Call W) W)}

theorem step_executed (h : b.execute st = some (b', news)) : Step refusable Call.code max
    ⟨log, l₁ ++ .busy ⟨some b, units, acked, spoiled⟩ call (.send st next) :: l₂, ended⟩
    ⟨log ++ news, l₁ ++ .busy ⟨some b', units ++ news, b.record st acked, spoiled⟩ call (next .ok) :: l₂, ended⟩ :=
  .send rfl (.executed h)

theorem step_refused (h : refusable st) : Step refusable Call.code max
    ⟨log, l₁ ++ .busy ⟨some b, units, acked, spoiled⟩ call (.send st next) :: l₂, ended⟩
    ⟨log ++ [], l₁ ++ .busy ⟨some (b.refuse st), units, acked, spoiled || b.spoils st⟩ call (next .error) :: l₂,
      ended⟩ := .send rfl (.refused h)

theorem step_release {returned : Bool} : Step refusable Call.code max
    ⟨log, l₁ ++ .busy ⟨some b, units, acked, spoiled⟩ call (.release returned) :: l₂, ended⟩
    ⟨log, l₁ ++ .free b :: l₂, ended ++ [⟨call, returned, ⟨some b, units, acked, spoiled⟩⟩]⟩ := .release rfl rfl

end

/-- **The calls that share the pool do not meet in a block**, however their statements are interleaved and
whatever fails or breaks: no more than `max` connections are open, every free one is in no block, every call
that ended committed all of its block or nothing of it, and nothing else was committed. -/
theorem pooled_calls (h : Reaches mayRefuse Call.code max {} P) :
    P.links.length ≤ max ∧ (∀ b, .free b ∈ P.links → b = .idle) ∧
      (∀ e ∈ P.ended, e.call.Outcome e.returned e.session) ∧ P.log.Perm P.units := by
  have hidle : ∀ ws : List W, (.idle : Block W) ≠ .active ws := fun ws h => by cases h
  have hstart : ∀ (c : Call W) b, b = .idle → c.code.Ensures mayRefuse (c.Meets .idle) (.fresh b) := by
    rintro c b rfl
    exact c.meets rollback_kept hidle
  have hclean : ∀ (c : Call W) returned s b, c.Meets .idle returned s → s.block = some b → b = .idle :=
    fun c returned s b hmeets hb => (hmeets.2 b hb).elim id id
  have hempty : Orderly mayRefuse (· = .idle) (fun c : Call W => c.Meets .idle) 0 {} :=
    ⟨fun b hb => (by cases hb), fun s c code hcode => (by cases hcode), fun e he => (by cases he), Nat.le_refl _⟩
  have horderly := hempty.run hstart hclean rfl h
  refine ⟨h.length_le (Nat.zero_le _), horderly.free, ?_, h.log_perm .rfl⟩
  intro e he
  exact (horderly.ended e (by rwa [List.drop_zero])).1

def insertNine : Call Nat := .query (some 9)

/-- It inserts twice, and throws if it cannot. -/
def insertBoth : Body Nat := .query (some 7) fun _ => .query (some 8) fun
  | .ok => .ends true
  | .error => .ends false

/-- Two connections: on one, the second insert of a transaction was refused, on the other an insert was
carried out meanwhile. -/
def nineInserted : Pool (Call Nat) Nat where
  log := [[9]]
  links := [.free .idle, .free .idle]
  ended := [⟨.withTransaction insertBoth, false, ⟨some .idle, [], [7], true⟩⟩,
    ⟨insertNine, true, ⟨some .idle, [[9]], [], false⟩⟩]

def oneConnection : Pool (Call Nat) Nat := { links := [.free .idle] }

theorem reaches_nineInserted : Reaches mayRefuse Call.code 2 {} nineInserted := by
  let call : Call Nat := .withTransaction insertBoth
  let undo : Code Nat := .send .rollback fun _ => .release false
  let second : Body Nat := .query (some 8) fun
    | .ok => .ends true
    | .error => .ends false
  let transaction (s : Session Nat) (code : Code Nat) : Pools.Link (Call Nat) Nat := .busy s call code
  let insert (s : Session Nat) (code : Code Nat) : Pools.Link (Call Nat) Nat := .busy s insertNine code
  let pool (log : List (List Nat)) (links : List (Pools.Link (Call Nat) Nat)) : Pool (Call Nat) Nat := ⟨log, links, []⟩
  let began := transaction ⟨some (.active []), [], [], false⟩ (insertBoth.andThen (thenCommit undo (.release true)))
  let inserted := transaction ⟨some (.active [7]), [], [7], false⟩ (second.andThen (thenCommit undo (.release true)))
  let refused := transaction ⟨some .failed, [], [7], true⟩ undo
  let undone := transaction ⟨some .idle, [], [7], true⟩ (.release false)
  let nine := insert ⟨some .idle, [[9]], [], false⟩ (.release true)
  have hconnect : Step mayRefuse Call.code 2 {} oneConnection := .connect (Nat.zero_lt_succ 1)
  have hconnect' : Step mayRefuse Call.code 2 oneConnection (pool [] [.free .idle, .free .idle]) :=
    .connect (Nat.lt_succ_self 1)
  have htake : Step mayRefuse Call.code 2 (pool [] [.free .idle, .free .idle])
      (pool [] ([] ++ transaction (.fresh .idle) call.code :: [.free .idle])) := .take call rfl
  have hbegin : Step mayRefuse Call.code 2 (pool [] ([] ++ transaction (.fresh .idle) call.code :: [.free .idle]))
      (pool [] ([] ++ began :: [.free .idle])) := step_executed rfl
  have hinsert : Step mayRefuse Call.code 2 (pool [] ([] ++ began :: [.free .idle]))
      (pool [] ([inserted] ++ .free .idle :: [])) := step_executed rfl
  have htake' : Step mayRefuse Call.code 2 (pool [] ([inserted] ++ .free .idle :: []))
      (pool [] ([inserted] ++ insert (.fresh .idle) insertNine.code :: [])) := .take insertNine rfl
  have hnine : Step mayRefuse Call.code 2 (pool [] ([inserted] ++ insert (.fresh .idle) insertNine.code :: []))
      (pool [[9]] ([] ++ inserted :: [nine])) := step_executed rfl
  have hrefused : Step mayRefuse Call.code 2 (pool [[9]] ([] ++ inserted :: [nine]))
      (pool [[9]] ([] ++ refused :: [nine])) := step_refused fun h => by cases h
  have hundo : Step mayRefuse Call.code 2 (pool [[9]] ([] ++ refused :: [nine]))
      (pool [[9]] ([] ++ undone :: [nine])) := step_executed rfl
  have hrelease : Step mayRefuse Call.code 2 (pool [[9]] ([] ++ undone :: [nine]))
      ⟨[[9]], [.free .idle] ++ nine :: [], [⟨call, false, ⟨some .idle, [], [7], true⟩⟩]⟩ := step_release
  have hstarted := ((((Relation.ReflTransGen.single hconnect).tail hconnect').tail htake).tail hbegin).tail hinsert
  exact (((((hstarted.tail htake').tail hnine).tail hrefused).tail hundo).tail hrelease).tail step_release

theorem pooled_calls_nineInserted : nineInserted.log.Perm nineInserted.units ∧
    (Call.withTransaction insertBoth).Outcome false ⟨some .idle, [], [7], true⟩ := by
  obtain ⟨-, -, houtcome, hperm⟩ := pooled_calls reaches_nineInserted
  exact ⟨hperm, houtcome _ (List.mem_cons_self ..)⟩

/-- **What a refused `ROLLBACK` leaves behind**: from a pool at rest, every later call commits its own block or
nothing exactly if no free connection is still in a block. -/
theorem pool_trusted_iff (w : W) (hrest : ∀ l ∈ P.links, ∃ b, l = .free b) :
    (∀ P', Reaches mayRefuse Call.code max P P' →
      ∀ e ∈ P'.ended.drop P.ended.length, e.call.Outcome e.returned e.session) ↔
    ∀ ws, .free (.active ws) ∉ P.links := by
  constructor
  · intro hcalls ws hmem
    obtain ⟨l₁, l₂, hlinks⟩ := List.append_of_mem hmem
    -- a single statement on that connection is acknowledged, and is not committed
    let acknowledged : Session W := ⟨some (.active (ws ++ [w])), [] ++ [], [] ++ [w], false⟩
    let taken : Pool (Call W) W :=
      { P with links := l₁ ++ .busy (.fresh (.active ws)) (.query (some w)) (Call.query (some w)).code :: l₂ }
    let sent : Pool (Call W) W :=
      ⟨P.log ++ [], l₁ ++ .busy acknowledged (.query (some w)) (.release true) :: l₂, P.ended⟩
    have htake : Step mayRefuse Call.code max P taken := .take (.query (some w)) hlinks
    have hsend : Step mayRefuse Call.code max taken sent := step_executed rfl
    have hrun := ((Relation.ReflTransGen.single htake).tail hsend).tail step_release
    have hcall := hcalls _ hrun ⟨.query (some w), true, acknowledged⟩ (by
      rw [List.drop_left']
      · exact List.mem_singleton_self _
      · rfl)
    obtain ⟨hunits, -⟩ | ⟨-, hreturned⟩ := hcall
    · cases hunits
    · cases hreturned
  · intro hclean P' hrun e he
    have hstart : ∀ (c : Call W) b, (∀ ws, b ≠ .active ws) → c.code.Ensures mayRefuse
        (fun returned s => c.Outcome returned s ∧ ∀ b', s.block = some b' → ∀ ws, b' ≠ .active ws) (.fresh b) := by
      intro c b hb
      apply (c.meets rollback_kept hb).mono
      intro returned s hmeets
      refine ⟨hmeets.1, fun b' hb' ws => ?_⟩
      obtain rfl | rfl := hmeets.2 b' hb'
      · intro h
        cases h
      · exact hb ws
    have hrestful : Orderly mayRefuse (fun b => ∀ ws, b ≠ .active ws) (fun (c : Call W) returned s =>
        c.Outcome returned s ∧ ∀ b', s.block = some b' → ∀ ws, b' ≠ .active ws) P.ended.length P := by
      constructor
      · rintro b hb ws rfl
        exact hclean ws hb
      · intro s c code hcode
        obtain ⟨b, hb⟩ := hrest _ hcode
        cases hb
      · intro e he
        rw [List.drop_length] at he
        cases he
      · exact Nat.le_refl _
    have horderly := hrestful.run hstart (fun c returned s b hmeets => hmeets.2 b) (fun ws h => by cases h) hrun
    exact (horderly.ended e he).1

/-- It inserts, and then it throws. -/
def insertAndThrow : Body Nat := .query (some 7) fun _ => .ends false

/-- What a refused `ROLLBACK` of `insertAndThrow` leaves. -/
def leftOpen : Pool (Call Nat) Nat where
  links := [.free (.active [7])]
  ended := [⟨.withTransaction insertAndThrow, false, ⟨some (.active [7]), [], [7], false⟩⟩]

theorem reaches_leftOpen : Reaches (fun _ => True) Call.code 1 {} leftOpen := by
  let call : Call Nat := .withTransaction insertAndThrow
  let undo : Code Nat := .send .rollback fun _ => .release false
  let running (b : Block Nat) (acked : List Nat) (code : Code Nat) : Pool (Call Nat) Nat :=
    ⟨[], [] ++ .busy ⟨some b, [], acked, false⟩ call code :: [], []⟩
  have hconnect : Step (fun _ => True) Call.code 1 {} oneConnection := .connect Nat.zero_lt_one
  have htake : Step (fun _ => True) Call.code 1 oneConnection (running .idle [] call.code) := .take call rfl
  have hbegin : Step (fun _ => True) Call.code 1 (running .idle [] call.code)
      (running (.active []) [] (insertAndThrow.andThen (thenCommit undo (.release true)))) := step_executed rfl
  have hinsert : Step (fun _ => True) Call.code 1
      (running (.active []) [] (insertAndThrow.andThen (thenCommit undo (.release true))))
      (running (.active [7]) [7] undo) := step_executed rfl
  have hrollback : Step (fun _ => True) Call.code 1 (running (.active [7]) [7] undo)
      (running (.active [7]) [7] (.release false)) := step_refused trivial
  have hthrown := (((Relation.ReflTransGen.single hconnect).tail htake).tail hbegin).tail hinsert
  exact (hthrown.tail hrollback).tail step_release

theorem pool_trusted_iff_leftOpen : Reaches (fun _ => True) Call.code 1 {} leftOpen ∧
    ((∀ P', Reaches mayRefuse Call.code 1 leftOpen P' →
      ∀ e ∈ P'.ended.drop leftOpen.ended.length, e.call.Outcome e.returned e.session) ↔
    ∀ ws, .free (.active ws) ∉ leftOpen.links) := by
  refine ⟨reaches_leftOpen, pool_trusted_iff 0 ?_⟩
  intro l hl
  exact ⟨_, List.mem_singleton.mp hl⟩

end OurDao.OnPool
