import Mathlib.Data.List.Count
import Mathlib.Logic.Relation

/-!
# Calls that share a pool of connections

A call takes a connection from a pool, sends statements on it and gives it back. The server keeps a
transaction block for each connection, and a block that is not closed stays with the connection and
meets the next call that takes it. A statement may be refused, and a connection may break, before the
server does what it is asked or after that.
-/

namespace OurDao.Pools

inductive Statement (W : Type) where
  | beginBlock
  | commit
  | rollback
  /-- anything that writes nothing -/
  | read
  | write (w : W)

inductive Reply where
  | ok
  | error

/-- The transaction block of a connection. -/
inductive Block (W : Type) where
  | idle
  | active (writes : List W)
  | failed

variable {C : Type 1} {W : Type}

namespace Block

/-- What becomes of the block, and what is committed, when the statement is executed. In a failed block
only `COMMIT` and `ROLLBACK` are. -/
def execute : Block W → Statement W → Option (Block W × List (List W))
  | idle, .beginBlock => some (active [], [])
  | active ws, .beginBlock => some (active ws, [])
  | active ws, .commit => some (idle, [ws])
  | _, .commit => some (idle, [])
  | _, .rollback => some (idle, [])
  | idle, .read => some (idle, [])
  | active ws, .read => some (active ws, [])
  | idle, .write w => some (idle, [[w]])
  | active ws, .write w => some (active (ws ++ [w]), [])
  | failed, _ => none

/-- What becomes of the block when the statement is refused. -/
def refuse : Block W → Statement W → Block W
  | _, .commit => idle
  | b, .rollback => b
  | active _, _ => failed
  | b, _ => b

/-- The writes that were acknowledged since the block began. -/
def record : Block W → Statement W → List W → List W
  | _, .beginBlock, _ => []
  | active _, .write w, ws => ws ++ [w]
  | _, _, ws => ws

/-- Whether a refused statement takes the block with it. -/
def spoils : Block W → Statement W → Bool
  | active _, .beginBlock => true
  | active _, .read => true
  | active _, .write _ => true
  | _, _ => false

end Block

/-- A connection during a call. -/
structure Session (W : Type) where
  /-- `none` once the connection is broken -/
  block : Option (Block W)
  /-- what each statement of the call committed -/
  units : List (List W) := []
  /-- the writes that were acknowledged since the call began a block -/
  acked : List W := []
  /-- a statement of the block was refused -/
  spoiled : Bool := false

/-- A connection as a call finds it. -/
def Session.fresh (b : Block W) : Session W := { block := some b }

@[simp] theorem Session.fresh_units (b : Block W) : (Session.fresh b).units = [] := rfl

/-- A statement, its reply, and what it commits. `refusable` says what the server may refuse. -/
inductive Session.Sends (refusable : Statement W → Prop) :
    Session W → Statement W → Reply → Session W → List (List W) → Prop
  | executed {b b' : Block W} {st : Statement W} {units news : List (List W)} {acked : List W} {spoiled : Bool} :
      b.execute st = some (b', news) →
      Sends refusable ⟨some b, units, acked, spoiled⟩ st .ok
        ⟨some b', units ++ news, b.record st acked, spoiled⟩ news
  | refused {b : Block W} {st : Statement W} {units : List (List W)} {acked : List W} {spoiled : Bool} :
      refusable st →
      Sends refusable ⟨some b, units, acked, spoiled⟩ st .error
        ⟨some (b.refuse st), units, acked, spoiled || b.spoils st⟩ []
  /-- the connection breaks before the statement arrives -/
  | lost {b : Block W} {st : Statement W} {units : List (List W)} {acked : List W} {spoiled : Bool} :
      Sends refusable ⟨some b, units, acked, spoiled⟩ st .error ⟨none, units, acked, spoiled⟩ []
  /-- the connection breaks before the reply arrives -/
  | unanswered {b b' : Block W} {st : Statement W} {units news : List (List W)} {acked : List W}
      {spoiled : Bool} : b.execute st = some (b', news) →
      Sends refusable ⟨some b, units, acked, spoiled⟩ st .error ⟨none, units ++ news, acked, spoiled⟩ news
  | broken {st : Statement W} {units : List (List W)} {acked : List W} {spoiled : Bool} :
      Sends refusable ⟨none, units, acked, spoiled⟩ st .error ⟨none, units, acked, spoiled⟩ []

/-- What a call has still to do. An `ask` is answered from elsewhere, in any way. -/
inductive Code (W : Type) : Type 1 where
  | release (returned : Bool)
  | ask {α : Type} (next : α → Code W)
  | send (st : Statement W) (next : Reply → Code W)

/-- However the server and the surroundings answer, `Q` holds of the session when the connection is
given back. -/
def Code.Ensures (refusable : Statement W → Prop) (Q : Bool → Session W → Prop) : Code W → Session W → Prop
  | .release returned, s => Q returned s
  | .ask next, s => ∀ a, (next a).Ensures refusable Q s
  | .send st next, s => ∀ r s' news, s.Sends refusable st r s' news → (next r).Ensures refusable Q s'

theorem Code.Ensures.mono {refusable : Statement W → Prop} {Q Q' : Bool → Session W → Prop}
    (hQ : ∀ r s, Q r s → Q' r s) {code : Code W} {s : Session W} (h : code.Ensures refusable Q s) :
    code.Ensures refusable Q' s := by
  induction code generalizing s with
  | release returned => exact hQ returned s h
  | ask next ih => exact fun a => ih a (h a)
  | send st next ih => exact fun r s' news hsends => ih r (h r s' news hsends)

inductive Link (C : Type 1) (W : Type) where
  | free (b : Block W)
  | busy (s : Session W) (call : C) (code : Code W)

def Link.units : Link C W → List (List W)
  | .free _ => []
  | .busy s _ _ => s.units

/-- A call that gave its connection back. -/
structure Ended (C : Type 1) (W : Type) where
  call : C
  returned : Bool
  session : Session W

structure Pool (C : Type 1) (W : Type) where
  /-- what was committed, one entry for each commit -/
  log : List (List W) := []
  links : List (Link C W) := []
  ended : List (Ended C W) := []

/-- One step of a pool of at most `max` connections. A connection that is found broken when it is given
back is not kept. -/
inductive Step (refusable : Statement W → Prop) (start : C → Code W) (max : Nat) (P : Pool C W) : Pool C W → Prop
  | connect : P.links.length < max → Step refusable start max P { P with links := .free .idle :: P.links }
  | disconnect {l₁ l₂ : List (Link C W)} {b : Block W} : P.links = l₁ ++ .free b :: l₂ →
      Step refusable start max P { P with links := l₁ ++ l₂ }
  | take {l₁ l₂ : List (Link C W)} {b : Block W} (c : C) : P.links = l₁ ++ .free b :: l₂ →
      Step refusable start max P { P with links := l₁ ++ .busy (.fresh b) c (start c) :: l₂ }
  | ask {l₁ l₂ : List (Link C W)} {s : Session W} {c : C} {α : Type} {next : α → Code W} (a : α) :
      P.links = l₁ ++ .busy s c (.ask next) :: l₂ →
      Step refusable start max P { P with links := l₁ ++ .busy s c (next a) :: l₂ }
  | send {l₁ l₂ : List (Link C W)} {s s' : Session W} {c : C} {st : Statement W} {next : Reply → Code W}
      {r : Reply} {news : List (List W)} :
      P.links = l₁ ++ .busy s c (.send st next) :: l₂ → s.Sends refusable st r s' news →
      Step refusable start max P
        { P with links := l₁ ++ .busy s' c (next r) :: l₂, log := P.log ++ news }
  | release {l₁ l₂ : List (Link C W)} {s : Session W} {c : C} {returned : Bool} {b : Block W} :
      P.links = l₁ ++ .busy s c (.release returned) :: l₂ → s.block = some b →
      Step refusable start max P
        { P with links := l₁ ++ .free b :: l₂, ended := P.ended ++ [⟨c, returned, s⟩] }
  | drop {l₁ l₂ : List (Link C W)} {s : Session W} {c : C} {returned : Bool} :
      P.links = l₁ ++ .busy s c (.release returned) :: l₂ → s.block = none →
      Step refusable start max P { P with links := l₁ ++ l₂, ended := P.ended ++ [⟨c, returned, s⟩] }

abbrev Reaches (refusable : Statement W → Prop) (start : C → Code W) (max : Nat) : Pool C W → Pool C W → Prop :=
  Relation.ReflTransGen (Step refusable start max)

section

variable {refusable : Statement W → Prop} {start : C → Code W} {max : Nat} {P P' : Pool C W}

/-- A pool that makes room for no more than `max` connections never has more. -/
theorem Reaches.length_le (h : Reaches refusable start max P P') (hmax : P.links.length ≤ max) :
    P'.links.length ≤ max := by
  induction h with
  | refl => exact hmax
  | tail _ hstep ih =>
    cases hstep with
    | connect hroom => exact hroom
    | disconnect hlinks | take _ hlinks | ask _ hlinks | send hlinks _ | release hlinks _ | drop hlinks _ =>
      rw [hlinks] at ih
      simp only [List.length_append, List.length_cons] at ih ⊢
      omega

theorem mem_links {links l₁ l₂ : List (Link C W)} {l : Link C W} (h : links = l₁ ++ l :: l₂) : l ∈ links := by
  rw [h]
  exact List.mem_append_right _ (List.mem_cons_self ..)

/-- Free connections are `Clean`, calls under way will end in `Q`, and so did those that ended, since
the first `n` of them. -/
structure Orderly (refusable : Statement W → Prop) (Clean : Block W → Prop) (Q : C → Bool → Session W → Prop)
    (n : Nat) (P : Pool C W) : Prop where
  free : ∀ b, .free b ∈ P.links → Clean b
  busy : ∀ s c code, .busy s c code ∈ P.links → code.Ensures refusable (Q c) s
  ended : ∀ e ∈ P.ended.drop n, Q e.call e.returned e.session
  many : n ≤ P.ended.length

variable {Clean : Block W → Prop} {Q : C → Bool → Session W → Prop} {n : Nat}

/-- A pool with one connection replaced. -/
theorem Orderly.replace (h : Orderly refusable Clean Q n P) {l₁ l₂ : List (Link C W)} {l l' : Link C W}
    {log : List (List W)} (hlinks : P.links = l₁ ++ l :: l₂) (hfree : ∀ b, l' = .free b → Clean b)
    (hbusy : ∀ s c code, l' = .busy s c code → code.Ensures refusable (Q c) s) :
    Orderly refusable Clean Q n ⟨log, l₁ ++ l' :: l₂, P.ended⟩ := by
  have hothers : ∀ k : Link C W, k ∈ l₁ ++ l' :: l₂ → k = l' ∨ k ∈ P.links := by
    intro k hk
    rw [hlinks]
    simp only [List.mem_append, List.mem_cons] at hk ⊢
    obtain hk | rfl | hk := hk
    · exact .inr (.inl hk)
    · exact .inl rfl
    · exact .inr (.inr (.inr hk))
  constructor
  · intro b hb
    obtain hb | hb := hothers _ hb
    · exact hfree b hb.symm
    · exact h.free b hb
  · intro s c code hcode
    obtain hcode | hcode := hothers _ hcode
    · exact hbusy s c code hcode.symm
    · exact h.busy s c code hcode
  · exact h.ended
  · exact h.many

theorem Orderly.remove (h : Orderly refusable Clean Q n P) {l₁ l₂ : List (Link C W)} {l : Link C W}
    (hlinks : P.links = l₁ ++ l :: l₂) : Orderly refusable Clean Q n ⟨P.log, l₁ ++ l₂, P.ended⟩ := by
  have hothers : ∀ k : Link C W, k ∈ l₁ ++ l₂ → k ∈ P.links := by
    intro k hk
    rw [hlinks]
    simp only [List.mem_append, List.mem_cons] at hk ⊢
    exact hk.imp id .inr
  exact ⟨fun b hb => h.free b (hothers _ hb), fun s c code hcode => h.busy s c code (hothers _ hcode),
    h.ended, h.many⟩

theorem Orderly.endCall (h : Orderly refusable Clean Q n P) {e : Ended C W} (he : Q e.call e.returned e.session) :
    Orderly refusable Clean Q n { P with ended := P.ended ++ [e] } := by
  have hmany := h.many
  refine ⟨h.free, h.busy, ?_, ?_⟩
  · intro e' he'
    rw [List.drop_append_of_le_length h.many] at he'
    obtain he' | he' := List.mem_append.mp he'
    · exact h.ended e' he'
    · cases List.mem_singleton.mp he'
      exact he
  · rw [List.length_append]
    omega

theorem Orderly.step (hstart : ∀ c b, Clean b → (start c).Ensures refusable (Q c) (.fresh b))
    (hclean : ∀ c returned s b, Q c returned s → s.block = some b → Clean b) (hidle : Clean .idle)
    (h : Orderly refusable Clean Q n P) (hstep : Step refusable start max P P') : Orderly refusable Clean Q n P' := by
  cases hstep with
  | connect _ =>
    constructor
    · intro b hb
      obtain hb | hb := List.mem_cons.mp hb
      · cases hb
        exact hidle
      · exact h.free b hb
    · intro s c code hcode
      obtain hcode | hcode := List.mem_cons.mp hcode
      · cases hcode
      · exact h.busy s c code hcode
    · exact h.ended
    · exact h.many
  | disconnect hlinks => exact h.remove hlinks
  | @take l₁ l₂ b c hlinks =>
    have hb := h.free b (mem_links hlinks)
    apply h.replace hlinks
    · intro b' hb'
      cases hb'
    · intro s c' code hcode
      cases hcode
      exact hstart c b hb
  | @ask l₁ l₂ s c α next a hlinks =>
    have hcode := h.busy s c _ (mem_links hlinks)
    apply h.replace hlinks
    · intro b hb
      cases hb
    · intro s' c' code hcode'
      cases hcode'
      exact hcode a
  | @send l₁ l₂ s s' c st next r news hlinks hsends =>
    have hcode := h.busy s c _ (mem_links hlinks)
    apply h.replace hlinks
    · intro b hb
      cases hb
    · intro s'' c' code hcode'
      cases hcode'
      exact hcode r s' news hsends
  | @release l₁ l₂ s c returned b hlinks hb =>
    have hQ : Q c returned s := h.busy s c _ (mem_links hlinks)
    apply Orderly.endCall (P := ⟨P.log, l₁ ++ .free b :: l₂, P.ended⟩) ?_ hQ
    apply h.replace hlinks
    · intro b' hb'
      cases hb'
      exact hclean c returned s b hQ hb
    · intro s' c' code hcode
      cases hcode
  | @drop l₁ l₂ s c returned hlinks hb =>
    have hQ : Q c returned s := h.busy s c _ (mem_links hlinks)
    exact (h.remove hlinks).endCall hQ

/-- **Whatever calls share the pool**, every call that ends meets its own postcondition, if each does
that on a clean connection and leaves a clean one. -/
theorem Orderly.run (hstart : ∀ c b, Clean b → (start c).Ensures refusable (Q c) (.fresh b))
    (hclean : ∀ c returned s b, Q c returned s → s.block = some b → Clean b) (hidle : Clean .idle)
    (h : Orderly refusable Clean Q n P) (hrun : Reaches refusable start max P P') :
    Orderly refusable Clean Q n P' := by
  induction hrun with
  | refl => exact h
  | tail _ hstep ih => exact ih.step hstart hclean hidle hstep

/-- What the calls committed. -/
def Pool.units (P : Pool C W) : List (List W) := P.ended.flatMap (·.session.units) ++ P.links.flatMap Link.units

theorem Session.Sends.units {s s' : Session W} {st : Statement W} {r : Reply} {news : List (List W)}
    (h : s.Sends refusable st r s' news) : s'.units = s.units ++ news := by
  cases h with
  | executed | unanswered => rfl
  | refused | lost | broken => exact (List.append_nil _).symm

/-- **The log holds what the calls committed**, each commit once. -/
theorem Reaches.log_perm (hrun : Reaches refusable start max P P') (h : P.log.Perm P.units) :
    P'.log.Perm P'.units := by
  classical
  induction hrun with
  | refl => exact h
  | tail _ hstep ih =>
    rw [List.perm_iff_count] at ih ⊢
    intro ws
    specialize ih ws
    cases hstep with
    | connect => exact ih
    | send hlinks hsends =>
      simp only [Pool.units, hlinks, List.flatMap_append, List.flatMap_cons, Link.units, hsends.units,
        List.count_append] at ih ⊢
      omega
    | disconnect hlinks | take _ hlinks | ask _ hlinks | release hlinks _ | drop hlinks _ =>
      simp only [Pool.units, hlinks, List.flatMap_append, List.flatMap_cons, List.flatMap_nil, Link.units,
        Session.fresh_units, List.count_append, List.count_nil] at ih ⊢
      omega

end

section

variable {refusable : Statement W → Prop} {Q : Bool → Session W → Prop} {st : Statement W} {next : Reply → Code W}
  {b : Block W} {units : List (List W)} {acked : List W} {spoiled : Bool}

/-- A statement on a connection that is open: it is executed, it is refused, or the connection breaks. -/
theorem Code.ensures_send
    (hexecuted : ∀ b' news, b.execute st = some (b', news) →
      (next .ok).Ensures refusable Q ⟨some b', units ++ news, b.record st acked, spoiled⟩)
    (hrefused : refusable st →
      (next .error).Ensures refusable Q ⟨some (b.refuse st), units, acked, spoiled || b.spoils st⟩)
    (hlost : (next .error).Ensures refusable Q ⟨none, units, acked, spoiled⟩)
    (hunanswered : ∀ b' news, b.execute st = some (b', news) →
      (next .error).Ensures refusable Q ⟨none, units ++ news, acked, spoiled⟩) :
    (Code.send st next).Ensures refusable Q ⟨some b, units, acked, spoiled⟩ := by
  intro r s' news hsends
  cases hsends with
  | executed h => exact hexecuted _ _ h
  | refused h => exact hrefused h
  | lost => exact hlost
  | unanswered h => exact hunanswered _ _ h

/-- On a broken connection every statement is answered with an error. -/
theorem Code.ensures_broken (h : (next .error).Ensures refusable Q ⟨none, units, acked, spoiled⟩) :
    (Code.send st next).Ensures refusable Q ⟨none, units, acked, spoiled⟩ := by
  intro r s' news hsends
  cases hsends
  exact h

end

end OurDao.Pools
