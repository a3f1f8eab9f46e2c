import Mathlib.Data.List.Basic

/-!
# Programs that may fail or stop at any awaited call

An operation reads and writes a world and ends in one of three ways: it returns,
it raises an error a caller can catch, or its process dies. A dead process leaves
the world as its last step left it, and nothing can catch that. The rules below
carry an assertion through sequencing, catching and iteration, with one
postcondition for all three endings, so that a crash is only another place where
the assertion has to hold.
-/

namespace OurDao.Faults

inductive Outcome (ε α : Type) where
  | done : α → Outcome ε α
  | raised : ε → Outcome ε α
  | crashed : Outcome ε α
  deriving DecidableEq, Repr

/-- A computation over worlds `ω` with catchable errors `ε`. -/
def Op (ω ε α : Type) : Type := ω → Outcome ε α × ω

namespace Op

variable {ω ε α β : Type}

def ret (a : α) : Op ω ε α := fun w => (.done a, w)

def raise (e : ε) : Op ω ε α := fun w => (.raised e, w)

/-- The process dies here. -/
def crash : Op ω ε α := fun w => (.crashed, w)

def andThen (m : Op ω ε α) (f : α → Op ω ε β) : Op ω ε β := fun w =>
  match m w with
  | (.done a, w') => f a w'
  | (.raised e, w') => (.raised e, w')
  | (.crashed, w') => (.crashed, w')

/-- Only a raised error is caught; a crash is not. -/
def handle (m : Op ω ε α) (h : ε → Op ω ε α) : Op ω ε α := fun w =>
  match m w with
  | (.done a, w') => (.done a, w')
  | (.raised e, w') => h e w'
  | (.crashed, w') => (.crashed, w')

instance : Monad (Op ω ε) where
  pure := ret
  bind := andThen

instance : MonadExceptOf ε (Op ω ε) where
  throw := raise
  tryCatch := handle

/-- Read the world. -/
def world : Op ω ε ω := fun w => (.done w, w)

/-- One step of the world that cannot fail. -/
def update (f : ω → ω) : Op ω ε Unit := fun w => (.done (), f w)

@[simp] theorem pure_run (a : α) (w : ω) : (pure a : Op ω ε α) w = (.done a, w) := rfl
@[simp] theorem throw_run (e : ε) (w : ω) : (throw e : Op ω ε α) w = (.raised e, w) := rfl
@[simp] theorem crash_run (w : ω) : (crash : Op ω ε α) w = (.crashed, w) := rfl
@[simp] theorem world_run (w : ω) : (world : Op ω ε ω) w = (.done w, w) := rfl
@[simp] theorem update_run (f : ω → ω) (w : ω) :
    (update f : Op ω ε Unit) w = (.done (), f w) := rfl

theorem bind_run (m : Op ω ε α) (f : α → Op ω ε β) (w : ω) :
    (m >>= f) w = match m w with
      | (.done a, w') => f a w'
      | (.raised e, w') => (.raised e, w')
      | (.crashed, w') => (.crashed, w') := rfl

theorem tryCatch_run (m : Op ω ε α) (h : ε → Op ω ε α) (w : ω) :
    (tryCatch m h) w = match m w with
      | (.done a, w') => (.done a, w')
      | (.raised e, w') => h e w'
      | (.crashed, w') => (.crashed, w') := rfl

theorem bind_done {m : Op ω ε α} {f : α → Op ω ε β} {w w' : ω} {a : α}
    (h : m w = (.done a, w')) : (m >>= f) w = f a w' := by simp [bind_run, h]

theorem bind_raised {m : Op ω ε α} {f : α → Op ω ε β} {w w' : ω} {e : ε}
    (h : m w = (.raised e, w')) : (m >>= f) w = (.raised e, w') := by simp [bind_run, h]

theorem bind_crashed {m : Op ω ε α} {f : α → Op ω ε β} {w w' : ω}
    (h : m w = (.crashed, w')) : (m >>= f) w = (.crashed, w') := by simp [bind_run, h]

theorem bind_assoc {γ : Type} (m : Op ω ε α) (f : α → Op ω ε β) (g : β → Op ω ε γ) :
    m >>= f >>= g = m >>= fun a => f a >>= g := by
  funext w
  simp only [bind_run]
  rcases m w with ⟨_ | _ | _, w₁⟩ <;> rfl

/-- What is done next sees only how a part ended. -/
theorem bind_congr_run {m m' : Op ω ε α} {f : α → Op ω ε β} {w w' : ω} (h : m w = m' w') :
    (m >>= f) w = (m' >>= f) w' := by rw [bind_run, bind_run, h]

/-- A sequence returns exactly when both of its parts do. -/
theorem bind_eq_done {m : Op ω ε α} {f : α → Op ω ε β} {w w' : ω} {b : β} :
    (m >>= f) w = (.done b, w') ↔ ∃ a w₁, m w = (.done a, w₁) ∧ f a w₁ = (.done b, w') := by
  rw [bind_run]
  rcases m w with ⟨_ | _ | _, w₁⟩ <;> simp

end Op

open Op

variable {ω ε α β : Type}

/-- Started where `P` holds, `m` ends, in whichever way, where `Q` holds. -/
def Ensures (P : ω → Prop) (m : Op ω ε α) (Q : Outcome ε α → ω → Prop) : Prop :=
  ∀ w, P w → Q (m w).1 (m w).2

theorem Ensures.mono {P P' : ω → Prop} {m : Op ω ε α} {Q Q' : Outcome ε α → ω → Prop}
    (h : Ensures P m Q) (hP : ∀ w, P' w → P w) (hQ : ∀ o w, Q o w → Q' o w) :
    Ensures P' m Q' := fun w hw => hQ _ _ (h w (hP w hw))

theorem Ensures.post {P : ω → Prop} {m : Op ω ε α} {Q Q' : Outcome ε α → ω → Prop}
    (h : Ensures P m Q) (hQ : ∀ o w, Q o w → Q' o w) : Ensures P m Q' :=
  h.mono (fun _ hw => hw) hQ

theorem Ensures.and {P P' : ω → Prop} {m : Op ω ε α} {Q Q' : Outcome ε α → ω → Prop}
    (h : Ensures P m Q) (h' : Ensures P' m Q') :
    Ensures (fun w => P w ∧ P' w) m fun o w => Q o w ∧ Q' o w :=
  fun w hw => ⟨h w hw.1, h' w hw.2⟩

theorem ensures_pure {P : ω → Prop} {a : α} {Q : Outcome ε α → ω → Prop}
    (h : ∀ w, P w → Q (.done a) w) : Ensures P (pure a : Op ω ε α) Q := h

theorem ensures_throw {P : ω → Prop} {e : ε} {Q : Outcome ε α → ω → Prop}
    (h : ∀ w, P w → Q (.raised e) w) : Ensures P (throw e : Op ω ε α) Q := h

theorem ensures_update {P : ω → Prop} {f : ω → ω} {Q : Outcome ε Unit → ω → Prop}
    (h : ∀ w, P w → Q (.done ()) (f w)) : Ensures P (update f) Q := h

/-- Sequencing: what the first part leaves on an early end must already be the
postcondition of the whole. -/
theorem Ensures.bind {P : ω → Prop} {m : Op ω ε α} {f : α → Op ω ε β}
    {R : Outcome ε α → ω → Prop} {Q : Outcome ε β → ω → Prop} (hm : Ensures P m R)
    (hf : ∀ a, Ensures (R (.done a)) (f a) Q) (he : ∀ e w, R (.raised e) w → Q (.raised e) w)
    (hc : ∀ w, R .crashed w → Q .crashed w) : Ensures P (m >>= f) Q := by
  intro w hw
  have h := hm w hw
  rw [bind_run]
  rcases hmw : m w with ⟨a | e | _, w'⟩ <;> rw [hmw] at h
  · exact hf a w' h
  · exact he e w' h
  · exact hc w' h

theorem Ensures.tryCatch {P : ω → Prop} {m : Op ω ε α} {handler : ε → Op ω ε α}
    {R Q : Outcome ε α → ω → Prop} (hm : Ensures P m R) (hd : ∀ a w, R (.done a) w → Q (.done a) w)
    (hh : ∀ e, Ensures (R (.raised e)) (handler e) Q) (hc : ∀ w, R .crashed w → Q .crashed w) :
    Ensures P (tryCatch m handler) Q := by
  intro w hw
  have h := hm w hw
  rw [tryCatch_run]
  rcases hmw : m w with ⟨a | e | _, w'⟩ <;> rw [hmw] at h
  · exact hd a w' h
  · exact hh e w' h
  · exact hc w' h

/-- A postcondition of normal returns only. -/
def OnDone (Q : α → ω → Prop) : Outcome ε α → ω → Prop
  | .done a, w => Q a w
  | _, _ => True

section

variable {P : ω → Prop} {Q : β → ω → Prop} {R : α → ω → Prop}

theorem ensures_true {m : Op ω ε α} : Ensures P m (OnDone fun _ _ => True) := fun w _ => by
  cases (m w).1 <;> trivial

theorem onDone_imp {Q' : β → ω → Prop} (h : ∀ b w, Q b w → Q' b w) (o : Outcome ε β) (w : ω) :
    OnDone Q o w → OnDone Q' o w := by
  cases o with
  | done b => exact h b w
  | raised e => exact id
  | crashed => exact id

theorem onDone_const {Q : ω → Prop} {w : ω} (o : Outcome ε β) (h : Q w) : OnDone (fun _ => Q) o w := by
  cases o with
  | done b => exact h
  | raised e => trivial
  | crashed => trivial

theorem Ensures.bind_done {m : Op ω ε α} {f : α → Op ω ε β} (hm : Ensures P m (OnDone R))
    (hf : ∀ a, Ensures (R a) (f a) (OnDone Q)) : Ensures P (m >>= f) (OnDone Q) :=
  hm.bind hf (fun _ _ _ => trivial) fun _ _ => trivial

/-- Sequencing under an assertion that holds however the first part ends. -/
theorem Ensures.bind_keeping {I : ω → Prop} {m : Op ω ε α} {f : α → Op ω ε β} {R : Outcome ε α → ω → Prop}
    (hm : Ensures P m R) (hI : ∀ o w, R o w → I w)
    (hf : ∀ a, Ensures (R (.done a)) (f a) fun o w => I w ∧ OnDone Q o w) :
    Ensures P (m >>= f) fun o w => I w ∧ OnDone Q o w :=
  hm.bind hf (fun _ _ h => ⟨hI _ _ h, trivial⟩) fun _ h => ⟨hI _ _ h, trivial⟩

theorem ensures_pure_done {b : β} (h : ∀ w, P w → Q b w) : Ensures P (pure b : Op ω ε β) (OnDone Q) := h

theorem ensures_throw_done {e : ε} : Ensures P (throw e : Op ω ε β) (OnDone Q) := fun _ _ => trivial

end

/-- Started where `P` holds, `m` returns with `Q`. -/
def Returns (P : ω → Prop) (m : Op ω ε α) (Q : α → ω → Prop) : Prop :=
  Ensures P m fun o w => ∃ a, o = .done a ∧ Q a w

section

variable {P : ω → Prop} {R : α → ω → Prop}

theorem returns_pure {Q : α → ω → Prop} {a : α} (h : ∀ w, P w → Q a w) :
    Returns P (pure a : Op ω ε α) Q := fun w hw => ⟨a, rfl, h w hw⟩

theorem returns_update {f : ω → ω} {Q : Unit → ω → Prop} (h : ∀ w, P w → Q () (f w)) :
    Returns P (update f : Op ω ε Unit) Q := fun w hw => ⟨(), rfl, h w hw⟩

theorem Returns.mono {P' : ω → Prop} {m : Op ω ε α} {Q Q' : α → ω → Prop} (h : Returns P m Q)
    (hP : ∀ w, P' w → P w) (hQ : ∀ a w, Q a w → Q' a w) : Returns P' m Q' :=
  Ensures.mono h hP fun _ w ⟨a, ho, h⟩ => ⟨a, ho, hQ a w h⟩

/-- A part that returns leaves only its result to go on from. -/
theorem Returns.bind_ensures {m : Op ω ε α} {f : α → Op ω ε β} {Q : Outcome ε β → ω → Prop}
    (hm : Returns P m R) (hf : ∀ a, Ensures (R a) (f a) Q) : Ensures P (m >>= f) Q := by
  refine Ensures.bind hm (fun a w h => ?_) (fun _ _ h => ?_) fun _ h => ?_
  · obtain ⟨a', ha, h⟩ := h
    cases ha
    exact hf a w h
  · obtain ⟨_, h, -⟩ := h
    cases h
  · obtain ⟨_, h, -⟩ := h
    cases h

theorem Returns.bind {m : Op ω ε α} {f : α → Op ω ε β} {Q : β → ω → Prop} (hm : Returns P m R)
    (hf : ∀ a, Returns (R a) (f a) Q) : Returns P (m >>= f) Q := hm.bind_ensures hf

theorem Returns.tryCatch {m : Op ω ε α} {handler : ε → Op ω ε α} (hm : Returns P m R) :
    Returns P (tryCatch m handler) R := by
  intro w hw
  obtain ⟨a, ho, h⟩ := hm w hw
  rw [tryCatch_run]
  rcases hmw : m w with ⟨o, w'⟩
  rw [hmw] at ho h
  cases ho
  exact ⟨a, rfl, h⟩

/-- A postcondition that excludes a crash: `Q` of a return, `R` of an error. -/
def OrRaises (Q : α → ω → Prop) (R : ε → ω → Prop) : Outcome ε α → ω → Prop
  | .done a, w => Q a w
  | .raised e, w => R e w
  | .crashed, _ => False

theorem Returns.orRaises {m : Op ω ε α} {Q : α → ω → Prop} {R : ε → ω → Prop} (h : Returns P m Q) :
    Ensures P m (OrRaises Q R) := by
  intro w hw
  obtain ⟨a, ho, h⟩ := h w hw
  rw [ho]
  exact h

/-- Every error is caught by a handler that returns. -/
theorem returns_tryCatch {m : Op ω ε α} {handler : ε → Op ω ε α} {Q : α → ω → Prop} {R : ε → ω → Prop}
    (hm : Ensures P m (OrRaises Q R)) (hh : ∀ e, Returns (R e) (handler e) Q) :
    Returns P (tryCatch m handler) Q :=
  Ensures.tryCatch hm (fun a _ h => ⟨a, rfl, h⟩) hh fun _ h => h.elim

/-- A loop whose rounds all return. -/
theorem returns_forM {body : α → Op ω ε Unit} {P : List α → ω → Prop} (xs : List α)
    (step : ∀ before x after, xs = before ++ x :: after →
      Returns (P before) (body x) fun _ => P (before ++ [x])) :
    Returns (P []) (forM xs body) fun _ => P xs := by
  suffices h : ∀ rest before, xs = before ++ rest →
      Returns (P before) (forM rest body) fun _ => P xs from h xs [] rfl
  intro rest
  induction rest with
  | nil => intro before hx; exact returns_pure fun w hw => by simpa [hx] using hw
  | cons x rest ih =>
    intro before hx
    rw [List.forM_cons]
    exact (step before x rest hx).bind fun _ => ih (before ++ [x]) (by simp [hx])

end

/-- `I` holds after every ending of `m` if it held before. -/
def Keeps (I : ω → Prop) (m : Op ω ε α) : Prop := Ensures I m fun _ => I

theorem Keeps.onDone {I : ω → Prop} {m : Op ω ε α} (h : Keeps I m) :
    Ensures I m (OnDone fun _ => I) := fun w hw => onDone_const _ (h w hw)

theorem Keeps.pure {I : ω → Prop} (a : α) : Keeps I (pure a : Op ω ε α) := fun _ h => h
theorem Keeps.throw {I : ω → Prop} (e : ε) : Keeps I (throw e : Op ω ε α) := fun _ h => h
theorem Keeps.crash {I : ω → Prop} : Keeps I (Op.crash : Op ω ε α) := fun _ h => h
theorem Keeps.world {I : ω → Prop} : Keeps I (Op.world : Op ω ε ω) := fun _ h => h

theorem Keeps.bind {I : ω → Prop} {m : Op ω ε α} {f : α → Op ω ε β} (hm : Keeps I m)
    (hf : ∀ a, Keeps I (f a)) : Keeps I (m >>= f) :=
  Ensures.bind hm hf (fun _ _ h => h) (fun _ h => h)

theorem Keeps.tryCatch {I : ω → Prop} {m : Op ω ε α} {handler : ε → Op ω ε α} (hm : Keeps I m)
    (hh : ∀ e, Keeps I (handler e)) : Keeps I (tryCatch m handler) :=
  Ensures.tryCatch hm (fun _ _ h => h) hh (fun _ h => h)

theorem Keeps.forM {I : ω → Prop} {body : α → Op ω ε Unit} (xs : List α)
    (h : ∀ x ∈ xs, Keeps I (body x)) : Keeps I (forM xs body) := by
  induction xs with
  | nil => exact Keeps.pure ()
  | cons x xs ih =>
    rw [List.forM_cons]
    exact (h x (by simp)).bind fun _ => ih fun y hy => h y (by simp [hy])

/-- A loop over a list: `P done` after the items `done`, and an early end of one
round is an end of the loop. -/
theorem ensures_forM {body : α → Op ω ε Unit} {P : List α → ω → Prop}
    {Q : Outcome ε Unit → ω → Prop} (xs : List α)
    (step : ∀ before x after, xs = before ++ x :: after →
      Ensures (P before) (body x) fun
        | .done _, w => P (before ++ [x]) w
        | .raised e, w => Q (.raised e) w
        | .crashed, w => Q .crashed w)
    (last : ∀ w, P xs w → Q (.done ()) w) : Ensures (P []) (forM xs body) Q := by
  suffices h : ∀ rest before, xs = before ++ rest → Ensures (P before) (forM rest body) Q from
    h xs [] rfl
  intro rest
  induction rest with
  | nil => intro before hx; exact ensures_pure fun w hw => last w (by simpa [hx] using hw)
  | cons x rest ih =>
    intro before hx
    rw [List.forM_cons]
    exact (step before x rest hx).bind (fun _ => ih (before ++ [x]) (by simp [hx]))
      (fun _ _ h => h) (fun _ h => h)

-- A transaction is a state transformer that may fail; its state is kept only when it
-- succeeds.

section

variable {σ γ δ : Type} {m : StateT σ (Except ε) γ} {f : γ → StateT σ (Except ε) δ} {s s' : σ}

theorem bind_eq_ok {b : δ} : (m >>= f) s = .ok (b, s') ↔
    ∃ a s₁, m s = .ok (a, s₁) ∧ f a s₁ = .ok (b, s') := by
  rcases h : m s with _ | ⟨_, _⟩ <;> simp [bind, StateT.bind, h, Except.bind]

theorem bind_of_ok {a : γ} (h : m s = .ok (a, s')) : (m >>= f) s = f a s' := by
  simp [bind, StateT.bind, h, Except.bind]

theorem bind_of_error {e : ε} (h : m s = .error e) : (m >>= f) s = .error e := by
  simp [bind, StateT.bind, h, Except.bind]

@[simp] theorem throw_bind_run (e : ε) : ((throw e : StateT σ (Except ε) γ) >>= f) s = .error e := rfl

end

end OurDao.Faults
