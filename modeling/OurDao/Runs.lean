import Mathlib.Data.List.Basic
import Mathlib.Data.List.Induction
import Mathlib.Data.List.Infix

/-!
# Runs of a machine, event by event

A machine is a step function and a start; a run is a list of events. What every event of
a run keeps holds after each of its prefixes.
-/

namespace OurDao

namespace Runs

variable {σ ε : Type} {act : σ → ε → σ} {start : σ} {events past : List ε} {e first : ε}

theorem prefix_of_snoc (h : past ++ [e] <+: events) : past <+: events := (List.prefix_append past [e]).trans h

/-- What holds at the start and is kept by every event of a run holds all along it. -/
theorem all_along {P : σ → Prop} (hstart : P start)
    (hact : ∀ past e, past ++ [e] <+: events → P (past.foldl act start) → P (act (past.foldl act start) e))
    (hpast : past <+: events) : P (past.foldl act start) := by
  induction past using List.reverseRecOn with
  | nil => exact hstart
  | append_singleton past e ih =>
    rw [List.foldl_concat]
    exact hact past e hpast (ih (prefix_of_snoc hpast))

/-- What holds at one point of a run and is kept by every event after it holds at the end. -/
theorem ever_after {P : σ → Prop} (hpast : past <+: events) (hthere : P (past.foldl act start))
    (hact : ∀ later e, past <+: later → later ++ [e] <+: events → P (later.foldl act start) →
      P (act (later.foldl act start) e)) : P (events.foldl act start) := by
  obtain ⟨rest, rfl⟩ := hpast
  induction rest using List.reverseRecOn with
  | nil => rwa [List.append_nil]
  | append_singleton rest e ih =>
    rw [← List.append_assoc] at hact ⊢
    rw [List.foldl_concat]
    refine hact (past ++ rest) e (List.prefix_append past rest) List.prefix_rfl (ih fun later e' hlater hwithin => ?_)
    exact hact later e' hlater (hwithin.trans (List.prefix_append _ [e]))

theorem snoc_prefix_cons : past ++ [e] <+: first :: events ↔
    (past = [] ∧ e = first) ∨ ∃ rest, past = first :: rest ∧ rest ++ [e] <+: events := by
  cases past with
  | nil => simp
  | cons first' past => simp [eq_comm]

/-- The events of a run and what came before each of them, one after the other. -/
theorem forall_snoc_prefix_cons {P : List ε → ε → Prop} :
    (∀ past e, past ++ [e] <+: first :: events → P past e) ↔
      P [] first ∧ ∀ past e, past ++ [e] <+: events → P (first :: past) e := by
  constructor
  · exact fun h => ⟨h [] first (by simp), fun past e hpast => h (first :: past) e (by simpa using hpast)⟩
  · rintro ⟨hfirst, hrest⟩ past e hpast
    obtain ⟨rfl, rfl⟩ | ⟨rest, rfl, hrest'⟩ := snoc_prefix_cons.mp hpast
    · exact hfirst
    · exact hrest rest e hrest'

theorem forall_snoc_prefix_nil {P : List ε → ε → Prop} : ∀ past e, past ++ [e] <+: [] → P past e := by
  intro past e hpast
  simp at hpast

/-- Acting on a settled event changes nothing. -/
theorem foldl_settled {Settled : σ → ε → Prop} (hskip : ∀ s e, Settled s e → act s e = s)
    (h : ∀ e ∈ events, Settled start e) : events.foldl act start = start := by
  induction events with
  | nil => rfl
  | cons e events ih =>
    rw [List.foldl_cons, hskip start e (h e (by simp))]
    exact ih fun e' he' => h e' (by simp [he'])

/-- What has been acted on is settled, and stays so. -/
theorem settled_of_mem {Settled : σ → ε → Prop} (hsettle : ∀ s e, Settled (act s e) e)
    (hkeep : ∀ s e e', Settled s e → Settled (act s e') e) (he : e ∈ events) :
    Settled (events.foldl act start) e := by
  induction events using List.reverseRecOn with
  | nil => simp at he
  | append_singleton past last ih =>
    rw [List.foldl_concat]
    rcases List.mem_append.mp he with he | he
    · exact hkeep _ e last (ih he)
    · rw [List.mem_singleton.mp he]
      exact hsettle _ last

/-- A run that was broken off and goes through all its events again ends as if it had not been. -/
theorem resume {Settled : σ → ε → Prop} (hskip : ∀ s e, Settled s e → act s e = s)
    (hsettle : ∀ s e, Settled (act s e) e) (hkeep : ∀ s e e', Settled s e → Settled (act s e') e) (n : Nat) :
    events.foldl act ((events.take n).foldl act start) = events.foldl act start := by
  have hpast : (events.take n).foldl act ((events.take n).foldl act start) = (events.take n).foldl act start :=
    foldl_settled hskip fun e he => settled_of_mem hsettle hkeep he
  have hsplit : ∀ s, events.foldl act s = (events.drop n).foldl act ((events.take n).foldl act s) := by
    intro s
    rw [← List.foldl_append, List.take_append_drop]
  rw [hsplit ((events.take n).foldl act start), hpast, ← hsplit]

end Runs

end OurDao
