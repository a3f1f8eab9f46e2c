import Mathlib.Logic.Function.Basic
import Mathlib.Logic.Relation

/-!
# Sessions that take turns

Sessions of one database send statements, on their own or in a transaction block, and one of
them at a time can hold a lock. A part of the database is written under the lock only. What
a block sees of the writes that others commit meanwhile is left open, and it does not matter:
while a session holds the lock, nobody else commits to that part, so a session works on it as
if it were alone.
-/

namespace OurDao.Turns

variable {σ D G H ε : Type}

/-- What a session has still to send. An `ask` is answered from elsewhere, in any way. -/
inductive Code (D ε : Type) : Type 1 where
  | done
  | ask {α : Type} (next : α → Code D ε)
  | query {α : Type} (body : D → Except ε (α × D)) (next : Except ε α → Code D ε)
  | beginBlock (next : Except ε Unit → Code D ε)
  | commit (next : Except ε Unit → Code D ε)
  | rollback (next : Code D ε)

/-- The transaction block of a session: what was committed when it last looked, and its own
version of it. -/
inductive Block (D : Type) where
  | idle
  | active (seen work : D)
  | failed

/-- What an error leaves of a block. -/
def Block.afterError : Block D → Block D
  | .idle => .idle
  | _ => .failed

/-- What a session has under way. -/
structure Work (D ε : Type) where
  code : Code D ε
  block : Block D := .idle

/-- One statement, with what is committed before and after it. A statement in a block works on a
version `v` of the database, of which is known only that it holds the block's own writes to the
part `g`, as long as nobody else has committed to that part. -/
inductive Move (g : D → G) : Work D ε → D → Work D ε → D → Prop
  | ask {α : Type} {next : α → Code D ε} {b : Block D} {db : D} (a : α) :
      Move g ⟨.ask next, b⟩ db ⟨next a, b⟩ db
  | alone {α : Type} {body : D → Except ε (α × D)} {next : Except ε α → Code D ε} {db db' : D} {a : α} :
      body db = .ok (a, db') → Move g ⟨.query body next, .idle⟩ db ⟨next (.ok a), .idle⟩ db'
  | query {α : Type} {body : D → Except ε (α × D)} {next : Except ε α → Code D ε} {db seen work v work' : D}
      {a : α} : (g seen = g db → g v = g work) → body v = .ok (a, work') →
      Move g ⟨.query body next, .active seen work⟩ db ⟨next (.ok a), .active db work'⟩ db
  | fails {α : Type} {body : D → Except ε (α × D)} {next : Except ε α → Code D ε} {b : Block D} {db : D} (e : ε) :
      Move g ⟨.query body next, b⟩ db ⟨next (.error e), b.afterError⟩ db
  | beginBlock {next : Except ε Unit → Code D ε} {db : D} :
      Move g ⟨.beginBlock next, .idle⟩ db ⟨next (.ok ()), .active db db⟩ db
  | beginFails {next : Except ε Unit → Code D ε} {b : Block D} {db : D} (e : ε) :
      Move g ⟨.beginBlock next, b⟩ db ⟨next (.error e), b.afterError⟩ db
  | commit {next : Except ε Unit → Code D ε} {db seen work v : D} : (g seen = g db → g v = g work) →
      Move g ⟨.commit next, .active seen work⟩ db ⟨next (.ok ()), .idle⟩ v
  /-- a failed block is rolled back by `COMMIT`, and without an error -/
  | commitFailed {next : Except ε Unit → Code D ε} {db : D} :
      Move g ⟨.commit next, .failed⟩ db ⟨next (.ok ()), .idle⟩ db
  | commitFails {next : Except ε Unit → Code D ε} {b : Block D} {db : D} (e : ε) :
      Move g ⟨.commit next, b⟩ db ⟨next (.error e), .idle⟩ db
  | rollback {next : Code D ε} {b : Block D} {db : D} : Move g ⟨.rollback next, b⟩ db ⟨next, .idle⟩ db

structure System (σ D ε : Type) where
  db : D
  /-- the session that holds the lock -/
  lock : Option σ := none
  running : σ → Option (Work D ε) := fun _ => none

variable [DecidableEq σ]

namespace System

def set (S : System σ D ε) (s : σ) (w : Option (Work D ε)) : System σ D ε :=
  { S with running := Function.update S.running s w }

@[simp] theorem set_db (S : System σ D ε) (s : σ) (w : Option (Work D ε)) : (S.set s w).db = S.db := rfl

@[simp] theorem set_lock (S : System σ D ε) (s : σ) (w : Option (Work D ε)) : (S.set s w).lock = S.lock := rfl

@[simp] theorem set_same (S : System σ D ε) (s : σ) (w : Option (Work D ε)) : (S.set s w).running s = w :=
  Function.update_self ..

theorem set_other {S : System σ D ε} {s s' : σ} (w : Option (Work D ε)) (h : s' ≠ s) :
    (S.set s w).running s' = S.running s' := Function.update_of_ne h ..

end System

/-- One step of one session, or a write of someone who does not take the lock. A session that is
told that the lock is taken sends nothing else. -/
inductive Step (g : D → G) (May : G → Code D ε → Prop) (S : System σ D ε) : System σ D ε → Prop
  /-- a session may hold the lock from before, when giving it back had failed -/
  | acquire (s : σ) {code : Code D ε} : S.running s = none → S.lock = none ∨ S.lock = some s →
      May (g S.db) code → Step g May S { S.set s (some ⟨code, .idle⟩) with lock := some s }
  | move {s : σ} {w w' : Work D ε} {db : D} : S.running s = some w → Move g w S.db w' db →
      Step g May S { S.set s (some w') with db := db }
  | release {s : σ} {b : Block D} : S.running s = some ⟨.done, b⟩ →
      Step g May S { S.set s none with lock := none }
  /-- the lock could not be given back: it stays with the session -/
  | keep {s : σ} {b : Block D} : S.running s = some ⟨.done, b⟩ → Step g May S (S.set s none)
  /-- the connection breaks or the process dies, and with the session go its block and its lock -/
  | lose (s : σ) : Step g May S { S.set s none with lock := if S.lock = some s then none else S.lock }
  | elsewhere {db : D} : g db = g S.db → Step g May S { S with db := db }

/-- A block as far as the part `g` goes. -/
inductive View (G : Type) where
  | idle
  | active (work : G)
  | failed

def View.afterError : View G → View G
  | .idle => .idle
  | _ => .failed

def Block.view (g : D → G) : Block D → View G
  | .idle => .idle
  | .active _ work => .active (g work)
  | .failed => .failed

theorem Block.view_afterError (g : D → G) (b : Block D) : b.afterError.view g = (b.view g).afterError := by
  cases b <;> rfl

/-- Sent by a session that is alone with the part `g`, which is `x`, the code commits nothing that
breaks `I`, whatever fails on the way. -/
def Code.Keeps (g : D → G) (I : G → Prop) : Code D ε → View G → G → Prop
  | .done, _, _ => True
  | .ask next, b, x => ∀ a, (next a).Keeps g I b x
  | .query body next, b, x => (∀ e, (next (.error e)).Keeps g I b.afterError x) ∧
    match b with
    | .idle => ∀ d a d', g d = x → body d = .ok (a, d') → I (g d') ∧ (next (.ok a)).Keeps g I .idle (g d')
    | .active work => ∀ d a d', g d = work → body d = .ok (a, d') → (next (.ok a)).Keeps g I (.active (g d')) x
    | .failed => True
  | .beginBlock next, b, x => (∀ e, (next (.error e)).Keeps g I b.afterError x) ∧
    match b with
    | .idle => (next (.ok ())).Keeps g I (.active x) x
    | _ => True
  | .commit next, b, x => (∀ e, (next (.error e)).Keeps g I .idle x) ∧
    match b with
    | .idle => True
    | .active work => I work ∧ (next (.ok ())).Keeps g I .idle work
    | .failed => (next (.ok ())).Keeps g I .idle x
  | .rollback next, _, x => next.Keeps g I .idle x

section

variable {g : D → G} {I : G → Prop} {x work : G}

/-- A statement of its own. -/
theorem Code.keeps_alone {α : Type} {body : D → Except ε (α × D)} {next : Except ε α → Code D ε}
    (herror : ∀ e, (next (.error e)).Keeps g I .idle x)
    (hok : ∀ d a d', g d = x → body d = .ok (a, d') → I (g d') ∧ (next (.ok a)).Keeps g I .idle (g d')) :
    (Code.query body next).Keeps g I .idle x := And.intro herror hok

/-- A statement in a block. -/
theorem Code.keeps_query {α : Type} {body : D → Except ε (α × D)} {next : Except ε α → Code D ε}
    (herror : ∀ e, (next (.error e)).Keeps g I .failed x)
    (hok : ∀ d a d', g d = work → body d = .ok (a, d') → (next (.ok a)).Keeps g I (.active (g d')) x) :
    (Code.query body next).Keeps g I (.active work) x := And.intro herror hok

theorem Code.keeps_beginBlock {next : Except ε Unit → Code D ε} (herror : ∀ e, (next (.error e)).Keeps g I .idle x)
    (hok : (next (.ok ())).Keeps g I (.active x) x) : (Code.beginBlock next).Keeps g I .idle x :=
  And.intro herror hok

theorem Code.keeps_commit {next : Except ε Unit → Code D ε} (herror : ∀ e, (next (.error e)).Keeps g I .idle x)
    (hwork : I work) (hok : (next (.ok ())).Keeps g I .idle work) :
    (Code.commit next).Keeps g I (.active work) x := And.intro herror ⟨hwork, hok⟩

variable {b : View G}

theorem Code.keeps_done : (Code.done : Code D ε).Keeps g I b x := trivial

theorem Code.keeps_ask {α : Type} {next : α → Code D ε} (h : ∀ a, (next a).Keeps g I b x) :
    (Code.ask next).Keeps g I b x := h

theorem Code.keeps_rollback {next : Code D ε} (h : next.Keeps g I .idle x) : (Code.rollback next).Keeps g I b x := h

theorem Code.Keeps.of_query {α : Type} {body : D → Except ε (α × D)} {next : Except ε α → Code D ε}
    (h : (Code.query body next).Keeps g I b x) (e : ε) : (next (.error e)).Keeps g I b.afterError x := by
  cases b <;> exact And.left h e

theorem Code.Keeps.of_beginBlock {next : Except ε Unit → Code D ε} (h : (Code.beginBlock next).Keeps g I b x)
    (e : ε) : (next (.error e)).Keeps g I b.afterError x := And.left h e

theorem Code.Keeps.of_commit {next : Except ε Unit → Code D ε} (h : (Code.commit next).Keeps g I b x) (e : ε) :
    (next (.error e)).Keeps g I .idle x := And.left h e

variable {h : D → H} {d d' e : D}

/-- What a statement does to the part `h` is determined by that part, and so is its answer, up to `Same`. -/
def Determined (h : D → H) {α : Type} (body : D → Except ε (α × D)) (Same : α → α → Prop) : Prop :=
  ∀ d e a d', h d = h e → body d = .ok (a, d') → ∃ b e', body e = .ok (b, e') ∧ h d' = h e' ∧ Same a b

/-- So it is for every statement of the code, as far as the code looks at the answers. -/
def Code.DependsOn (h : D → H) : Code D ε → Prop
  | .done => True
  | .ask next => ∀ a, (next a).DependsOn h
  | .query body next => (Determined h body fun a b => next (.ok a) = next (.ok b)) ∧ ∀ r, (next r).DependsOn h
  | .beginBlock next => ∀ r, (next r).DependsOn h
  | .commit next => ∀ r, (next r).DependsOn h
  | .rollback next => next.DependsOn h

theorem Code.dependsOn_done : (Code.done : Code D ε).DependsOn h := trivial

theorem Code.dependsOn_query {α : Type} {body : D → Except ε (α × D)} {next : Except ε α → Code D ε}
    (hbody : Determined h body Eq) (herror : ∀ e, (next (.error e)).DependsOn h)
    (hok : ∀ a, (next (.ok a)).DependsOn h) : (Code.query body next).DependsOn h := by
  refine And.intro (fun d e a d' hde hrun => ?_) (Except.rec herror hok)
  obtain ⟨b, e', hrun', hsame, rfl⟩ := hbody d e a d' hde hrun
  exact ⟨a, e', hrun', hsame, rfl⟩

/-- Code whose statements depend on `h` keeps of `h` what it keeps of `g` in a database that is the
same as far as `h` goes. -/
theorem Code.Keeps.through {code : Code D ε} (hcode : code.DependsOn h) {b : Block D}
    (hkeeps : code.Keeps g I (b.view g) (g d)) :
    code.Keeps h (fun z => ∃ y, h y = z ∧ I (g y)) (b.view h) (h d) := by
  induction code generalizing b d with
  | done => exact Code.keeps_done
  | ask next ih => exact Code.keeps_ask fun a => ih a (hcode a) (hkeeps a)
  | query body next ih =>
    obtain ⟨hbody, hnext⟩ := hcode
    have herror : ∀ e, (next (.error e)).Keeps h (fun z => ∃ y, h y = z ∧ I (g y)) (b.view h).afterError (h d) := by
      intro e
      rw [← b.view_afterError h]
      exact ih _ (hnext _) (b.view_afterError g ▸ hkeeps.of_query e)
    cases b with
    | idle =>
      refine Code.keeps_alone herror fun e a e' he hrun => ?_
      obtain ⟨a', d', hrun', hsame, hanswer⟩ := hbody e d a e' he hrun
      obtain ⟨hI, hkeeps'⟩ := And.right hkeeps d a' d' rfl hrun'
      rw [hsame, hanswer]
      exact ⟨⟨d', rfl, hI⟩, ih _ (hnext _) (b := .idle) hkeeps'⟩
    | active seen work =>
      refine Code.keeps_query herror fun e a e' he hrun => ?_
      obtain ⟨a', work', hrun', hsame, hanswer⟩ := hbody e work a e' he hrun
      rw [hsame, hanswer]
      exact ih _ (hnext _) (b := .active seen work') (And.right hkeeps work a' work' rfl hrun')
    | failed => exact And.intro herror trivial
  | beginBlock next ih =>
    have herror : ∀ e, (next (.error e)).Keeps h (fun z => ∃ y, h y = z ∧ I (g y)) (b.view h).afterError (h d) := by
      intro e
      rw [← b.view_afterError h]
      exact ih _ (hcode _) (b.view_afterError g ▸ hkeeps.of_beginBlock e)
    cases b with
    | idle => exact Code.keeps_beginBlock herror (ih _ (hcode _) (b := .active d d) (And.right hkeeps))
    | active seen work => exact And.intro herror trivial
    | failed => exact And.intro herror trivial
  | commit next ih =>
    have herror : ∀ e, (next (.error e)).Keeps h (fun z => ∃ y, h y = z ∧ I (g y)) .idle (h d) := fun e =>
      ih _ (hcode _) (b := .idle) (hkeeps.of_commit e)
    cases b with
    | idle => exact And.intro herror trivial
    | active seen work =>
      obtain ⟨hwork, hnext⟩ := And.right hkeeps
      exact Code.keeps_commit herror ⟨work, rfl, hwork⟩ (ih _ (hcode _) (b := .idle) hnext)
    | failed => exact And.intro herror (ih _ (hcode _) (b := .idle) (And.right hkeeps))
  | rollback next ih => exact Code.keeps_rollback (ih hcode (b := .idle) hkeeps)

/-- The block looked at the part `g` when it was what it is now. -/
def Block.Current (g : D → G) (x : G) : Block D → Prop
  | .active seen _ => g seen = x
  | _ => True

theorem Block.Current.afterError {b : Block D} : b.afterError.Current g x := by
  cases b <;> trivial

/-- What a session has under way keeps `I` from here on. -/
structure Work.Sound (g : D → G) (I : G → Prop) (w : Work D ε) (x : G) : Prop where
  current : w.block.Current g x
  keeps : w.code.Keeps g I (w.block.view g) x

/-- A statement of a session that is alone. -/
theorem Work.Sound.move {w w' : Work D ε} {db db' : D} (h : w.Sound g I (g db)) (hI : I (g db))
    (hmove : Move g w db w' db') : I (g db') ∧ w'.Sound g I (g db') := by
  obtain ⟨hcurrent, hkeeps⟩ := h
  cases hmove with
  | ask a => exact ⟨hI, hcurrent, hkeeps a⟩
  | alone hbody =>
    obtain ⟨hI', hnext⟩ := And.right hkeeps _ _ _ rfl hbody
    exact ⟨hI', trivial, hnext⟩
  | query hsees hbody => exact ⟨hI, rfl, And.right hkeeps _ _ _ (hsees hcurrent) hbody⟩
  | @fails _ _ _ b _ e => exact ⟨hI, Block.Current.afterError, b.view_afterError g ▸ hkeeps.of_query e⟩
  | beginBlock => exact ⟨hI, rfl, And.right hkeeps⟩
  | @beginFails _ b _ e => exact ⟨hI, Block.Current.afterError, b.view_afterError g ▸ hkeeps.of_beginBlock e⟩
  | commit hsees =>
    obtain ⟨hwork, hnext⟩ := And.right hkeeps
    rw [hsees hcurrent]
    exact ⟨hwork, trivial, hnext⟩
  | commitFailed => exact ⟨hI, trivial, And.right hkeeps⟩
  | commitFails e => exact ⟨hI, trivial, hkeeps.of_commit e⟩
  | rollback => exact ⟨hI, trivial, hkeeps⟩

/-- Only the session that holds the lock has work under way, and all is well with it. -/
structure System.Orderly (g : D → G) (I : G → Prop) (S : System σ D ε) : Prop where
  holds : I (g S.db)
  exclusive : ∀ s w, S.running s = some w → S.lock = some s
  sound : ∀ s w, S.running s = some w → w.Sound g I (g S.db)

/-- The session that holds the lock goes on or ends; the others have nothing under way. -/
theorem System.orderly_set {S : System σ D ε} {s : σ} {w : Option (Work D ε)} {db : D} {lock : Option σ}
    (hothers : ∀ s' w', s' ≠ s → S.running s' ≠ some w') (hI : I (g db))
    (hlock : ∀ w', w = some w' → lock = some s) (hsound : ∀ w', w = some w' → w'.Sound g I (g db)) :
    System.Orderly g I { S.set s w with db, lock } := by
  have hrunning : ∀ s' w', (S.set s w).running s' = some w' → s' = s ∧ w = some w' := by
    intro s' w' hw'
    by_cases hs : s' = s
    · subst hs
      exact ⟨rfl, by simpa using hw'⟩
    · rw [System.set_other w hs] at hw'
      exact absurd hw' (hothers s' w' hs)
  refine ⟨hI, fun s' w' hw' => ?_, fun s' w' hw' => ?_⟩
  · obtain ⟨rfl, hw⟩ := hrunning s' w' hw'
    exact hlock w' hw
  · obtain ⟨rfl, hw⟩ := hrunning s' w' hw'
    exact hsound w' hw

omit [DecidableEq σ] in
theorem System.Orderly.others {S : System σ D ε} (h : S.Orderly g I) {s s' : σ} {w' : Work D ε}
    (hlock : S.lock = none ∨ S.lock = some s) (hne : s' ≠ s) : S.running s' ≠ some w' := by
  intro hw'
  have hs' := h.exclusive s' w' hw'
  rcases hlock with hlock | hlock
  · rw [hlock] at hs'
    cases hs'
  · rw [hlock] at hs'
    exact hne (Option.some.inj hs').symm

variable {May : G → Code D ε → Prop}

theorem System.Orderly.step {S S' : System σ D ε} (h : S.Orderly g I)
    (hjobs : ∀ x code, I x → May x code → code.Keeps g I .idle x) (hstep : Step g May S S') : S'.Orderly g I := by
  cases hstep with
  | acquire s hidle hlock hmay =>
    refine System.orderly_set (fun s' w' hne => h.others hlock hne) h.holds (fun _ _ => rfl) fun w' hw' => ?_
    cases hw'
    exact ⟨trivial, hjobs _ _ h.holds hmay⟩
  | @move s w w' db hw hmove =>
    have hlock := h.exclusive s w hw
    obtain ⟨hI, hsound⟩ := (h.sound s w hw).move h.holds hmove
    have hsame : ∀ w₁, some w' = some w₁ → w₁.Sound g I (g db) := by
      intro w₁ hw₁
      cases hw₁
      exact hsound
    exact System.orderly_set (fun s' w' hne => h.others (.inr hlock) hne) hI (fun _ _ => hlock) hsame
  | @release s b hw =>
    have hlock := h.exclusive s _ hw
    exact System.orderly_set (fun s' w' hne => h.others (.inr hlock) hne) h.holds (fun _ hnone => by cases hnone)
      fun _ hnone => by cases hnone
  | @keep s b hw =>
    have hlock := h.exclusive s _ hw
    exact System.orderly_set (fun s' w' hne => h.others (.inr hlock) hne) h.holds (fun _ hnone => by cases hnone)
      fun _ hnone => by cases hnone
  | lose s =>
    have hrunning : ∀ s' w', (S.set s none).running s' = some w' → s' ≠ s ∧ S.running s' = some w' := by
      intro s' w' hw'
      by_cases hs : s' = s
      · subst hs
        rw [System.set_same] at hw'
        cases hw'
      · exact ⟨hs, by rwa [System.set_other none hs] at hw'⟩
    refine ⟨h.holds, fun s' w' hw' => ?_, fun s' w' hw' => h.sound s' w' (hrunning s' w' hw').2⟩
    obtain ⟨hne, hw⟩ := hrunning s' w' hw'
    have hlock := h.exclusive s' w' hw
    have hother : S.lock ≠ some s := fun hs => hne (Option.some.inj (hlock.symm.trans hs))
    simpa [hother] using hlock
  | elsewhere hsame => exact ⟨by rw [hsame]; exact h.holds, h.exclusive, by rw [hsame]; exact h.sound⟩

/-- **Sessions that take turns work as if each were alone.** What all code keeps that is sent by a
session on its own holds of what is committed, however the sessions are interleaved, and only one
of them has anything under way. -/
theorem System.orderly_of_steps {S₀ S : System σ D ε} (hstart : ∀ s, S₀.running s = none) (h₀ : I (g S₀.db))
    (hjobs : ∀ x code, I x → May x code → code.Keeps g I .idle x)
    (h : Relation.ReflTransGen (Step g May) S₀ S) : S.Orderly g I := by
  induction h with
  | refl => exact ⟨h₀, by simp [hstart], by simp [hstart]⟩
  | tail _ hstep ih => exact ih.step hjobs hstep

/-- A run after which the session `s` has `w` under way. -/
def Reaches (g : D → G) (May : G → Code D ε → Prop) (S₀ : System σ D ε) (s : σ) (w : Work D ε) (db : D) : Prop :=
  ∃ S, Relation.ReflTransGen (Step g May) S₀ S ∧ S.running s = some w ∧ S.db = db

variable {S₀ : System σ D ε} {s : σ} {w w' : Work D ε} {db db' : D}

theorem Reaches.acquire {code : Code D ε} (hidle : S₀.running s = none) (hlock : S₀.lock = none)
    (hmay : May (g S₀.db) code) : Reaches g May S₀ s ⟨code, .idle⟩ S₀.db :=
  ⟨_, .single (.acquire s hidle (.inl hlock) hmay), Function.update_self .., rfl⟩

theorem Reaches.move (h : Reaches g May S₀ s w db) (hmove : Move g w db w' db') : Reaches g May S₀ s w' db' := by
  obtain ⟨S, hrun, hw, rfl⟩ := h
  exact ⟨_, hrun.tail (.move hw hmove), Function.update_self .., rfl⟩

theorem Reaches.elsewhere (h : Reaches g May S₀ s w db) (db' : D) (hsame : g db' = g db) :
    Reaches g May S₀ s w db' := by
  obtain ⟨S, hrun, hw, rfl⟩ := h
  exact ⟨_, hrun.tail (.elsewhere hsame), hw, rfl⟩

end

end OurDao.Turns
