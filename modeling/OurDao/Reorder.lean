import Mathlib.Data.List.Perm.Basic
import Mathlib.Data.List.Nodup
import Mathlib.Data.Set.Basic
import Mathlib.Algebra.Group.Basic
import Mathlib.Data.Set.BooleanAlgebra
import Mathlib.Data.Set.Disjoint
import Mathlib.Order.CompletePartialOrder

/-!
# Reordering independent effects

An effect is local to a set of keys when it writes only under those keys, is
decided by what stands under them, and otherwise only adds to a running total that
must stay within bounds. Two effects with disjoint key sets can be exchanged, and a
sequence of effects may be rearranged into any order in which every exchanged pair
is independent: both orders succeed together and end in states that agree under
every key and in the total.
-/

namespace OurDao.Reorder

/-- How a state is looked at: an equivalence for every key, and a total. -/
structure View (σ K M : Type) [AddCommMonoid M] where
  agree : K → σ → σ → Prop
  refl : ∀ k s, agree k s s
  symm : ∀ {k s t}, agree k s t → agree k t s
  trans : ∀ {k s t u}, agree k s t → agree k t u → agree k s u
  total : σ → M
  fits : M → Prop
  fits_left : ∀ {a b}, fits (a + b) → fits a

variable {σ K M ε α β E : Type} [AddCommMonoid M] (V : View σ K M)

/-- The states a reader of `V` cannot tell apart. -/
def View.Same (s t : σ) : Prop := (∀ k, V.agree k s t) ∧ V.total s = V.total t

theorem View.Same.refl (s : σ) : V.Same s s := ⟨fun k => V.refl k s, rfl⟩

theorem View.Same.symm {V : View σ K M} {s t : σ} (h : V.Same s t) : V.Same t s :=
  ⟨fun k => V.symm (h.1 k), h.2.symm⟩

theorem View.Same.trans {V : View σ K M} {s t u : σ} (h : V.Same s t) (h' : V.Same t u) :
    V.Same s u := ⟨fun k => V.trans (h.1 k) (h'.1 k), h.2.trans h'.2⟩

/-- `m` writes only under keys of `A` and adds a fixed amount to the total; from any
state that agrees on `A` and has room for that amount it does the same there. -/
def Local (A : Set K) (m : StateT σ (Except ε) α) : Prop :=
  ∀ s a s', m s = .ok (a, s') → (∀ k ∉ A, V.agree k s s') ∧
    ∃ d, V.total s' = V.total s + d ∧ (V.fits (V.total s) → V.fits (V.total s')) ∧
      ∀ u, (∀ k ∈ A, V.agree k s u) → V.fits (V.total u + d) →
        ∃ u', m u = .ok (a, u') ∧ (∀ k ∈ A, V.agree k s' u') ∧ V.total u' = V.total u + d

variable {V} {A B : Set K}

theorem Local.pure (a : α) : Local V A (pure a : StateT σ (Except ε) α) := by
  intro s b s' h
  cases h
  exact ⟨fun k _ => V.refl k s, 0, by simp, id, fun u hu _ => ⟨u, rfl, hu, by simp⟩⟩

/-- A value computed without the state. -/
theorem Local.lift (x : Except ε α) :
    Local V A (fun s => x.map fun a => (a, s) : StateT σ (Except ε) α) := by
  cases x with
  | error e => intro s a s' h; cases h
  | ok a => exact Local.pure a

theorem Local.mono {m : StateT σ (Except ε) α} (h : Local V A m) (hAB : A ⊆ B) : Local V B m := by
  intro s a s' hs
  obtain ⟨frame, d, hd, hfit, hrep⟩ := h s a s' hs
  refine ⟨fun k hk => frame k fun hA => hk (hAB hA), d, hd, hfit, fun u hu hroom => ?_⟩
  obtain ⟨u', hm, hag, ht⟩ := hrep u (fun k hk => hu k (hAB hk)) hroom
  refine ⟨u', hm, fun k hk => ?_, ht⟩
  by_cases hA : k ∈ A
  · exact hag k hA
  · have hframe := (h u a u' hm).1 k hA
    exact V.trans (V.symm (frame k hA)) (V.trans (hu k hk) hframe)

theorem Local.bind {m : StateT σ (Except ε) α} {f : α → StateT σ (Except ε) β}
    (hm : Local V A m) (hf : ∀ a, Local V A (f a)) : Local V A (m >>= f) := by
  intro s b s' hs
  rcases hms : m s with e | ⟨a, s₁⟩
  · simp [Bind.bind, StateT.bind, hms, Except.bind] at hs
  have hfs : f a s₁ = .ok (b, s') := by
    simpa [Bind.bind, StateT.bind, hms, Except.bind] using hs
  obtain ⟨frame₁, d₁, hd₁, hfit₁, hrep₁⟩ := hm s a s₁ hms
  obtain ⟨frame₂, d₂, hd₂, hfit₂, hrep₂⟩ := hf a s₁ b s' hfs
  refine ⟨fun k hk => V.trans (frame₁ k hk) (frame₂ k hk), d₁ + d₂,
    by rw [hd₂, hd₁, add_assoc], hfit₂ ∘ hfit₁, fun u hu hroom => ?_⟩
  rw [← add_assoc] at hroom
  obtain ⟨u₁, hmu, hag₁, ht₁⟩ := hrep₁ u hu (V.fits_left hroom)
  obtain ⟨u', hfu, hag₂, ht₂⟩ := hrep₂ u₁ hag₁ (by rw [ht₁]; exact hroom)
  refine ⟨u', ?_, hag₂, by rw [ht₂, ht₁, add_assoc]⟩
  simp [Bind.bind, StateT.bind, hmu, Except.bind, hfu]

/-- A local effect cannot tell two states of one look apart. -/
theorem Local.congr {m : StateT σ (Except ε) α} (h : Local V A m) {s u s' : σ} {a : α}
    (hsu : V.Same s u) (hfit : V.fits (V.total s)) (hs : m s = .ok (a, s')) :
    ∃ u', m u = .ok (a, u') ∧ V.Same s' u' := by
  obtain ⟨-, d, hd, hfit', hrep⟩ := h.mono (Set.subset_univ A) s a s' hs
  obtain ⟨u', hm, hag, ht⟩ := hrep u (fun k _ => hsu.1 k) (by rw [← hsu.2, ← hd]; exact hfit' hfit)
  exact ⟨u', hm, fun k => hag k trivial, by rw [hd, ht, hsu.2]⟩

theorem Local.fits {m : StateT σ (Except ε) α} (h : Local V A m) {s s' : σ} {a : α}
    (hs : m s = .ok (a, s')) (hfit : V.fits (V.total s)) : V.fits (V.total s') := by
  obtain ⟨-, d, -, hfit', -⟩ := h s a s' hs
  exact hfit' hfit

/-- **Exchange.** Effects on disjoint keys run in either order with one result. -/
theorem Local.swap {f : StateT σ (Except ε) α} {g : StateT σ (Except ε) β} (hf : Local V A f)
    (hg : Local V B g) (hAB : Disjoint A B) {s s₁ s₂ : σ} {a : α} {b : β}
    (hfit : V.fits (V.total s)) (h₁ : f s = .ok (a, s₁)) (h₂ : g s₁ = .ok (b, s₂)) :
    ∃ t₁ t₂, g s = .ok (b, t₁) ∧ f t₁ = .ok (a, t₂) ∧ V.Same s₂ t₂ := by
  have hfit₂ := hg.fits h₂ (hf.fits h₁ hfit)
  obtain ⟨frame₁, d₁, hd₁, -, hrep₁⟩ := hf s a s₁ h₁
  obtain ⟨frame₂, d₂, hd₂, -, hrep₂⟩ := hg s₁ b s₂ h₂
  have hBA : ∀ k ∈ B, k ∉ A := fun k hB hA => Set.disjoint_left.mp hAB hA hB
  have hsum : V.total s₂ = V.total s + d₂ + d₁ := by rw [hd₂, hd₁, add_right_comm]
  obtain ⟨t₁, hgt, hag₁, ht₁⟩ := hrep₂ s (fun k hk => V.symm (frame₁ k (hBA k hk)))
    (V.fits_left (b := d₁) (by rw [← hsum]; exact hfit₂))
  have hframe₁ := (hg s b t₁ hgt).1
  obtain ⟨t₂, hft, hag₂, ht₂⟩ := hrep₁ t₁ (fun k hk => hframe₁ k fun hB => hBA k hB hk)
    (by rw [ht₁, ← hsum]; exact hfit₂)
  have hframe₂ := (hf t₁ a t₂ hft).1
  refine ⟨t₁, t₂, hgt, hft, fun k => ?_, by rw [ht₂, ht₁, hsum]⟩
  by_cases hA : k ∈ A
  · exact V.trans (V.symm (frame₂ k fun hB => hBA k hB hA)) (hag₂ k hA)
  · by_cases hB : k ∈ B
    · exact V.trans (hag₁ k hB) (hframe₂ k hA)
    · have hs : V.agree k s s₂ := V.trans (frame₁ k hA) (frame₂ k hB)
      exact V.trans (V.symm hs) (V.trans (hframe₁ k hB) (hframe₂ k hA))

/-- One step of a sequence of effects. -/
def step (apply : E → StateT σ (Except ε) α) (s : σ) (e : E) : Except ε σ :=
  (apply e s).map Prod.snd

theorem step_eq_ok {apply : E → StateT σ (Except ε) α} {s s' : σ} {e : E} :
    step apply s e = .ok s' ↔ ∃ a, apply e s = .ok (a, s') := by
  rcases h : apply e s with _ | ⟨_, _⟩ <;> simp [step, h, Except.map]

variable {apply : E → StateT σ (Except ε) α} {keys : E → Set K}

theorem foldlM_cons_ok {γ δ : Type} {f : γ → δ → Except ε γ} {s s' : γ} {e : δ} {es : List δ} :
    (e :: es).foldlM f s = .ok s' ↔ ∃ s₁, f s e = .ok s₁ ∧ es.foldlM f s₁ = .ok s' := by
  rw [List.foldlM_cons]
  rcases f s e with _ | s₁ <;> simp [bind, Except.bind]

theorem foldlM_append_ok {γ δ : Type} {f : γ → δ → Except ε γ} {s s' : γ} {es es' : List δ} :
    (es ++ es').foldlM f s = .ok s' ↔ ∃ s₁, es.foldlM f s = .ok s₁ ∧ es'.foldlM f s₁ = .ok s' := by
  rw [List.foldlM_append]
  rcases es.foldlM f s with _ | s₁ <;> simp [bind, Except.bind]

theorem foldlM_congr (h : ∀ e, Local V (keys e) (apply e)) {es : List E} {s u s' : σ}
    (hsu : V.Same s u) (hfit : V.fits (V.total s)) (hs : es.foldlM (step apply) s = .ok s') :
    ∃ u', es.foldlM (step apply) u = .ok u' ∧ V.Same s' u' := by
  induction es generalizing s u with
  | nil => cases hs; exact ⟨u, rfl, hsu⟩
  | cons e es ih =>
    obtain ⟨s₁, h₁, h₂⟩ := foldlM_cons_ok.mp hs
    obtain ⟨a, ha⟩ := step_eq_ok.mp h₁
    obtain ⟨u₁, hu₁, hsame⟩ := (h e).congr hsu hfit ha
    obtain ⟨u', hu', hsame'⟩ := ih hsame ((h e).fits ha hfit) h₂
    exact ⟨u', foldlM_cons_ok.mpr ⟨u₁, step_eq_ok.mpr ⟨a, hu₁⟩, hu'⟩, hsame'⟩

/-- Wherever `a` and then `b` succeed, `b` and then `a` do too, with one result to any reader. -/
def Exchange (V : View σ K M) (apply : E → StateT σ (Except ε) α) (a b : E) : Prop :=
  ∀ s s', V.fits (V.total s) → [a, b].foldlM (step apply) s = .ok s' →
    ∃ t, [b, a].foldlM (step apply) s = .ok t ∧ V.Same s' t

theorem foldlM_pair_ok {s s' : σ} {a b : E} : [a, b].foldlM (step apply) s = .ok s' ↔
    ∃ x s₁ y, apply a s = .ok (x, s₁) ∧ apply b s₁ = .ok (y, s') := by
  simp only [foldlM_cons_ok, step_eq_ok]
  constructor
  · rintro ⟨s₁, ⟨x, h₁⟩, s₂, ⟨y, h₂⟩, h⟩
    cases h
    exact ⟨x, s₁, y, h₁, h₂⟩
  · rintro ⟨x, s₁, y, h₁, h₂⟩
    exact ⟨s₁, ⟨x, h₁⟩, s', ⟨y, h₂⟩, rfl⟩

/-- Effects on disjoint keys can be exchanged. -/
theorem exchange_of_disjoint (h : ∀ e, Local V (keys e) (apply e)) {a b : E}
    (hab : Disjoint (keys a) (keys b)) : Exchange V apply a b := by
  intro s s' hfit hs
  obtain ⟨x, s₁, y, h₁, h₂⟩ := foldlM_pair_ok.mp hs
  obtain ⟨t₁, t₂, ht₁, ht₂, hsame⟩ := (h a).swap (h b) hab hfit h₁ h₂
  exact ⟨t₂, foldlM_pair_ok.mpr ⟨y, t₁, x, ht₁, ht₂⟩, hsame⟩

/-- One effect moved in front of the effects it can be exchanged with. -/
theorem foldlM_move (h : ∀ e, Local V (keys e) (apply e)) {before after : List E} {e : E} {s s' : σ}
    (hind : ∀ a ∈ before, Exchange V apply a e) (hfit : V.fits (V.total s))
    (hs : (before ++ e :: after).foldlM (step apply) s = .ok s') :
    ∃ u', (e :: (before ++ after)).foldlM (step apply) s = .ok u' ∧ V.Same s' u' := by
  induction before generalizing s with
  | nil => exact ⟨s', hs, View.Same.refl V s'⟩
  | cons a before ih =>
    obtain ⟨s₁, h₁, h₂⟩ := foldlM_cons_ok.mp hs
    obtain ⟨x, ha⟩ := step_eq_ok.mp h₁
    obtain ⟨u₁, hu₁, hsame₁⟩ :=
      ih (fun b hb => hind b (by simp [hb])) ((h a).fits ha hfit) h₂
    obtain ⟨s₂, h₃, h₄⟩ := foldlM_cons_ok.mp hu₁
    obtain ⟨y, he⟩ := step_eq_ok.mp h₃
    obtain ⟨t₂, ht, hsame₂⟩ := hind a (by simp) s s₂ hfit (foldlM_pair_ok.mpr ⟨x, s₁, y, ha, he⟩)
    obtain ⟨_, t₁, _, ht₁, ht₂⟩ := foldlM_pair_ok.mp ht
    have hfit₂ := (h e).fits he ((h a).fits ha hfit)
    obtain ⟨u', hu', hsame₃⟩ := foldlM_congr h hsame₂ hfit₂ h₄
    refine ⟨u', ?_, hsame₁.trans hsame₃⟩
    exact foldlM_cons_ok.mpr ⟨t₁, step_eq_ok.mpr ⟨_, ht₁⟩,
      foldlM_cons_ok.mpr ⟨t₂, step_eq_ok.mpr ⟨_, ht₂⟩, hu'⟩⟩

/-- **Reordering.** If every pair that the two orders put differently can be exchanged,
the second order succeeds whenever the first does, in the same state to any reader. -/
theorem foldlM_reorder (h : ∀ e, Local V (keys e) (apply e)) {es es' : List E} {s s' : σ}
    (hp : es.Perm es') (hfit : V.fits (V.total s))
    (hind : ∀ a b, [a, b].Sublist es → [b, a].Sublist es' → Exchange V apply a b)
    (hs : es.foldlM (step apply) s = .ok s') :
    ∃ u', es'.foldlM (step apply) s = .ok u' ∧ V.Same s' u' := by
  induction es' generalizing es s s' with
  | nil =>
    rw [hp.eq_nil] at hs
    exact ⟨s', hs, View.Same.refl V s'⟩
  | cons e rest ih =>
    obtain ⟨before, after, rfl⟩ := List.append_of_mem (hp.mem_iff.mpr (by simp : e ∈ e :: rest))
    have hrest : (before ++ after).Perm rest :=
      (List.perm_cons e).mp (List.perm_middle.symm.trans hp)
    -- whatever stands before `e` in the first order comes after it in the second
    have hbefore : ∀ a ∈ before, Exchange V apply a e := by
      intro a ha
      apply hind
      · exact (List.singleton_sublist.mpr ha).append (by simp)
      · exact (List.singleton_sublist.mpr (hrest.mem_iff.mp (by simp [ha]))).cons_cons e
    obtain ⟨u, hu, hsame⟩ := foldlM_move h hbefore hfit hs
    obtain ⟨s₁, h₁, h₂⟩ := foldlM_cons_ok.mp hu
    obtain ⟨x, he⟩ := step_eq_ok.mp h₁
    have hsub : (before ++ after).Sublist (before ++ e :: after) := by simp
    obtain ⟨u', hu', hsame'⟩ := ih hrest ((h e).fits he hfit)
      (fun a b hab hba => hind a b (hab.trans hsub) (hba.trans (by simp))) h₂
    exact ⟨u', foldlM_cons_ok.mpr ⟨s₁, h₁, hu'⟩, hsame.trans hsame'⟩

end OurDao.Reorder
