import Mathlib.Tactic.Common
import Templating.Effect

/-!
# Reasoning about actions

Four ways to speak of an action on a state.

* `Gives`: from every state of one kind it gives one result and a state of another kind.
* `Ensures`: the same where the result may be one of several, or a failure.
* `Simulates`: from related states two actions end alike, with related results in
  related states, or with the same failure.
* `Shrinks`: no run of it, failed ones included, raises a measure of the state, or loses a
  property of it (`Shrinks.keeps`); `Spends`: those that succeed with a result of one kind
  lower it.

Each is kept by sequencing and by loops; a loop whose turns lower a measure does not
depend on its bound (`Simulates.loop`).
-/

namespace Templating

variable {ε σ τ α β γ δ : Type}

theorem bind_apply (m : EStateM ε σ α) (f : α → EStateM ε σ β) (s : σ) :
    (m >>= f) s = match m s with
      | .ok a s' => f a s'
      | .error e s' => .error e s' := rfl

theorem pure_apply (a : α) (s : σ) : (pure a : EStateM ε σ α) s = .ok a s := rfl

theorem get_apply (s : σ) : (get : EStateM ε σ σ) s = .ok s s := rfl

theorem set_apply (s' s : σ) : (set s' : EStateM ε σ PUnit) s = .ok ⟨⟩ s' := rfl

theorem modify_apply (g : σ → σ) (s : σ) : (modify g : EStateM ε σ PUnit) s = .ok ⟨⟩ (g s) := rfl

theorem throw_apply (e : ε) (s : σ) : (throw e : EStateM ε σ α) s = .error e s := rfl

theorem if_apply (c : Prop) [Decidable c] (m n : EStateM ε σ α) (s : σ) :
    (if c then m else n) s = if c then m s else n s := by split <;> rfl

/-- An action that can only fail on a stream, as one that may fail in any way. -/
theorem onStream_apply (action : EStateM IoError σ α) (s : σ) :
    (liftM action : EStateM Error σ α) s = match action s with
      | .ok a s' => .ok a s'
      | .error e s' => .error (.io e) s' := by
  show EStateM.adaptExcept Error.io action s = _
  unfold EStateM.adaptExcept
  cases action s <;> rfl

theorem loop_succ (body : α → EStateM ε σ (Turn α β)) (spent : α → β) (bound : Nat) (start : α)
    (s : σ) :
    loop body spent (bound + 1) start s = match body start s with
      | .ok (.again next) s' => loop body spent bound next s'
      | .ok (.stop result) s' => .ok result s'
      | .error e s' => .error e s' := by
  rw [loop, bind_apply]
  cases body start s with
  | ok turn s' => cases turn <;> rfl
  | error e s' => rfl

namespace Turn

/-- The turn is not the last one. -/
def GoesOn : Turn α β → Prop
  | again _ => True
  | stop _ => False

/-- The turn is the last one, with a result of the kind `P`. -/
def Stops (P : β → Prop) : Turn α β → Prop
  | again _ => False
  | stop b => P b

end Turn

/-! ## Results from states of a kind -/

/-- From every state of the kind `P` the action gives `a` and leaves a state of the kind `Q`. -/
def Gives (P : σ → Prop) (m : EStateM ε σ α) (a : α) (Q : σ → Prop) : Prop :=
  ∀ s, P s → ∃ s', m s = .ok a s' ∧ Q s'

namespace Gives

variable {P Q S : σ → Prop} {m : EStateM ε σ α} {f : α → EStateM ε σ β} {a : α} {b : β}

theorem pure (h : ∀ s, P s → Q s) : Gives P (Pure.pure a : EStateM ε σ α) a Q :=
  fun s hs => ⟨s, rfl, h s hs⟩

theorem bind (hm : Gives P m a Q) (hf : Gives Q (f a) b S) : Gives P (m >>= f) b S := by
  intro s hs
  obtain ⟨s₁, h₁, hs₁⟩ := hm s hs
  obtain ⟨s₂, h₂, hs₂⟩ := hf s₁ hs₁
  exact ⟨s₂, by rw [bind_apply, h₁]; exact h₂, hs₂⟩

theorem onStream {m : EStateM IoError σ α} (h : Gives P m a Q) :
    Gives P (liftM m : EStateM Error σ α) a Q := by
  intro s hs
  obtain ⟨s', h', hs'⟩ := h s hs
  exact ⟨s', by rw [onStream_apply, h'], hs'⟩

/-- A turn that stops ends the loop. -/
theorem loop_stop {body : α → EStateM ε σ (Turn α β)} {spent : α → β} {n : Nat}
    (h : Gives P (body a) (.stop b) Q) : Gives P (loop body spent (n + 1) a) b Q := by
  intro s hs
  obtain ⟨s', h', hs'⟩ := h s hs
  exact ⟨s', by rw [loop_succ, h'], hs'⟩

/-- A turn that goes on hands over to the rest of the loop. -/
theorem loop_again {body : α → EStateM ε σ (Turn α β)} {spent : α → β} {n : Nat} {a' : α}
    (h : Gives P (body a) (.again a') Q) (hrest : Gives Q (loop body spent n a') b S) :
    Gives P (loop body spent (n + 1) a) b S := by
  intro s hs
  obtain ⟨s₁, h₁, hs₁⟩ := h s hs
  obtain ⟨s₂, h₂, hs₂⟩ := hrest s₁ hs₁
  exact ⟨s₂, by rw [loop_succ, h₁]; exact h₂, hs₂⟩

end Gives

/-! ## Results and failures of a kind -/

/-- From every state of the kind `P` the action succeeds with a result and a state of the kind
`Q`, or fails in a way of the kind `F`. -/
def Ensures (P : σ → Prop) (m : EStateM ε σ α) (Q : α → σ → Prop) (F : ε → Prop) : Prop :=
  ∀ s, P s → match m s with
    | .ok a s' => Q a s'
    | .error e _ => F e

namespace Ensures

variable {P : σ → Prop} {Q : α → σ → Prop} {R : β → σ → Prop} {F : ε → Prop}
  {m : EStateM ε σ α} {f : α → EStateM ε σ β}

theorem pure {a : α} (h : ∀ s, P s → Q a s) : Ensures P (Pure.pure a : EStateM ε σ α) Q F :=
  fun s hs => h s hs

theorem throw {e : ε} (h : F e) : Ensures P (MonadExcept.throw e : EStateM ε σ α) Q F :=
  fun _ _ => h

theorem bind (hm : Ensures P m Q F) (hf : ∀ a, Ensures (Q a) (f a) R F) :
    Ensures P (m >>= f) R F := by
  intro s hs
  have hstep := hm s hs
  rw [bind_apply]
  cases hx : m s with
  | ok a s' =>
    rw [hx] at hstep
    exact hf a s' hstep
  | error e s' =>
    rw [hx] at hstep
    exact hstep

theorem weaken {P' : σ → Prop} {Q' : α → σ → Prop} {F' : ε → Prop} (hm : Ensures P m Q F)
    (hP : ∀ s, P' s → P s) (hQ : ∀ a s, Q a s → Q' a s) (hF : ∀ e, F e → F' e) :
    Ensures P' m Q' F' := by
  intro s hs
  have hstep := hm s (hP s hs)
  cases hx : m s with
  | ok a s' =>
    rw [hx] at hstep
    exact hQ a s' hstep
  | error e s' =>
    rw [hx] at hstep
    exact hF e hstep

theorem strengthen {P' : σ → Prop} (hm : Ensures P m Q F) (hP : ∀ s, P' s → P s) :
    Ensures P' m Q F :=
  hm.weaken hP (fun _ _ hq => hq) (fun _ he => he)

/-- An action of which nothing has to be known. -/
theorem any (m : EStateM ε σ α) :
    Ensures (fun _ => True) m (fun _ _ => True) (fun _ => True) := by
  intro s _
  cases m s <;> trivial

/-- What follows a look at the state. -/
theorem get_bind {f : σ → EStateM ε σ β} (h : ∀ s, P s → Ensures (· = s) (f s) R F) :
    Ensures P (get >>= f) R F :=
  fun s hs => h s hs s rfl

theorem onStream {P : σ → Prop} {Q : α → σ → Prop} {m : EStateM IoError σ α}
    (h : Ensures P m Q (fun _ => True)) :
    Ensures P (liftM m : EStateM Error σ α) Q (fun _ => True) := by
  intro s hs
  have hstep := h s hs
  rw [onStream_apply]
  cases hx : m s with
  | ok a s' =>
    rw [hx] at hstep
    exact hstep
  | error e s' => trivial

/-- **What the turns of a loop keep**, where so many turns are left. -/
theorem loop {body : α → EStateM ε σ (Turn α β)} {spent : α → β} {I : Nat → α → σ → Prop}
    (hspent : ∀ a s, I 0 a s → R (spent a) s)
    (hbody : ∀ n a, Ensures (I (n + 1) a) (body a)
      (fun turn s => match turn with
        | .again a' => I n a' s
        | .stop b => R b s) F) :
    ∀ n a, Ensures (I n a) (Templating.loop body spent n a) R F := by
  intro n
  induction n with
  | zero => exact fun a => pure (hspent a)
  | succ n ih =>
    intro a
    refine (hbody n a).bind fun turn => ?_
    cases turn with
    | again a' => exact ih a'
    | stop b => exact pure fun _ hs => hs

end Ensures

/-! ## Measures that do not grow -/

/-- The state that an action leaves, whether it failed or not. -/
def stateOf : EStateM.Result ε σ α → σ
  | .ok _ s => s
  | .error _ s => s

/-- No outcome of the action has a greater measure than the state before it. -/
def Shrinks (μ : σ → Nat) (m : EStateM ε σ α) : Prop := ∀ s, μ (stateOf (m s)) ≤ μ s

namespace Shrinks

variable {μ : σ → Nat} {m : EStateM ε σ α} {f : α → EStateM ε σ β}

theorem pure (a : α) : Shrinks μ (Pure.pure a : EStateM ε σ α) := fun _ => Nat.le_refl _

theorem throw (e : ε) : Shrinks μ (MonadExcept.throw e : EStateM ε σ α) := fun _ => Nat.le_refl _

theorem of_ok (hm : Shrinks μ m) {s s' : σ} {a : α} (h : m s = .ok a s') : μ s' ≤ μ s := by
  have := hm s
  rw [h] at this
  exact this

theorem bind (hm : Shrinks μ m) (hf : ∀ a, Shrinks μ (f a)) : Shrinks μ (m >>= f) := by
  intro s
  have h := hm s
  rw [bind_apply]
  cases hx : m s with
  | ok a s' =>
    rw [hx] at h
    exact Nat.le_trans (hf a s') h
  | error e s' =>
    rw [hx] at h
    exact h

theorem get_bind {f : σ → EStateM ε σ β} (h : ∀ s, Shrinks μ (f s)) : Shrinks μ (get >>= f) :=
  fun s => h s s

theorem onStream {m : EStateM IoError σ α} (h : Shrinks μ m) :
    Shrinks μ (liftM m : EStateM Error σ α) := by
  intro s
  have hs := h s
  rw [onStream_apply]
  cases hx : m s <;> (rw [hx] at hs; exact hs)

theorem lift (x : Except ExpressionError α) : Shrinks μ (liftM x : EStateM Error σ α) := by
  cases x with
  | ok a => exact pure _
  | error cause => exact throw _

theorem loop {body : α → EStateM ε σ (Turn α β)} {spent : α → β}
    (hbody : ∀ a, Shrinks μ (body a)) (bound : Nat) :
    ∀ a, Shrinks μ (Templating.loop body spent bound a) := by
  induction bound with
  | zero => exact fun a => pure _
  | succ bound ih =>
    intro a
    refine bind (hbody a) fun turn => ?_
    cases turn with
    | again next => exact ih next
    | stop result => exact pure result

/-- A measure that lies below a bound stays there. -/
theorem ensures_lt (h : Shrinks μ m) (n : Nat) :
    Ensures (fun s => μ s < n) m (fun _ s => μ s < n) (fun _ => True) := by
  intro s hs
  have hle := h s
  cases hx : m s with
  | ok a s' =>
    rw [hx] at hle
    exact Nat.lt_of_le_of_lt hle hs
  | error e s' => trivial

end Shrinks

open Classical in
/-- A property of states as a measure, which is lowest where it holds. -/
noncomputable def lack (P : σ → Prop) (s : σ) : Nat := if P s then 0 else 1

theorem lack_le_lack {P : σ → Prop} {s s' : σ} : lack P s' ≤ lack P s ↔ (P s → P s') := by
  unfold lack
  by_cases hs : P s <;> by_cases hs' : P s' <;> simp [hs, hs']

/-- A property that no outcome of an action loses. -/
theorem Shrinks.keeps {P : σ → Prop} {m : EStateM ε σ α} (h : Shrinks (lack P) m) {s : σ}
    (hs : P s) : P (stateOf (m s)) :=
  lack_le_lack.1 (h s) hs

/-- Every success of the action with a result of the kind `P` lowers the measure. -/
def Spends (μ : σ → Nat) (P : α → Prop) (m : EStateM ε σ α) : Prop :=
  ∀ s a s', m s = .ok a s' → P a → μ s' < μ s

namespace Spends

variable {μ : σ → Nat} {m : EStateM ε σ α} {f : α → EStateM ε σ β} {P : α → Prop} {Q : β → Prop}

theorem pure {a : α} (h : ¬ P a) : Spends μ P (Pure.pure a : EStateM ε σ α) := by
  rintro s _ _ ⟨⟩ ha
  exact absurd ha h

theorem throw (e : ε) : Spends μ P (MonadExcept.throw e : EStateM ε σ α) := by
  rintro s a s' ⟨⟩

/-- What is ensured of the outcomes with a result of one kind, if they lower a measure. -/
theorem of_ensures (h : ∀ n, Ensures (fun s => μ s ≤ n) m (fun a s => P a → μ s < n)
    (fun _ => True)) : Spends μ P m := by
  intro s a s' hx ha
  have hstep := h (μ s) s (Nat.le_refl _)
  rw [hx] at hstep
  exact hstep ha

theorem weaken {P' : α → Prop} (hm : Spends μ P m) (h : ∀ a, P' a → P a) : Spends μ P' m :=
  fun s a s' hx ha => hm s a s' hx (h a ha)

/-- Where the first action has spent something, the rest need not. -/
theorem bind (hm : Shrinks μ m) (hs : Spends μ P m) (hyes : ∀ a, P a → Shrinks μ (f a))
    (hno : ∀ a, ¬ P a → Spends μ Q (f a)) : Spends μ Q (m >>= f) := by
  intro s b s' h hb
  rw [bind_apply] at h
  cases hx : m s with
  | error e s₁ => rw [hx] at h; cases h
  | ok a s₁ =>
    rw [hx] at h
    by_cases ha : P a
    · -- spent before, kept afterwards
      exact Nat.lt_of_le_of_lt ((hyes a ha).of_ok h) (hs s a s₁ hx ha)
    · exact Nat.lt_of_lt_of_le (hno a ha s₁ b s' h hb) (hm.of_ok hx)

theorem after (hm : Shrinks μ m) (hf : ∀ a, Spends μ Q (f a)) : Spends μ Q (m >>= f) :=
  bind (P := fun _ => False) hm (fun _ _ _ _ h => h.elim) (fun _ h => h.elim) fun a _ => hf a

/-- A loop whose last turn spends something has spent it. -/
theorem loop {body : α → EStateM ε σ (Turn α β)} {spent : α → β}
    (hm : ∀ a, Shrinks μ (body a)) (hs : ∀ a, Spends μ (Turn.Stops Q) (body a))
    (hspent : ∀ a, ¬ Q (spent a)) (bound : Nat) :
    ∀ a, Spends μ Q (Templating.loop body spent bound a) := by
  induction bound with
  | zero => exact fun a => pure (hspent a)
  | succ bound ih =>
    intro a
    refine bind (hm a) (hs a) ?_ ?_
    · rintro (next | result) hturn
      · exact hturn.elim
      · exact Shrinks.pure result
    · rintro (next | result) hturn
      · exact ih next
      · exact pure hturn

end Spends

/-! ## Two actions side by side -/

/-- Outcomes that agree: related results, or the same failure, in related states. -/
inductive Agree (R : σ → τ → Prop) (Q : α → β → Prop) :
    EStateM.Result ε σ α → EStateM.Result ε τ β → Prop
  | ok {a : α} {b : β} {s : σ} {t : τ} : Q a b → R s t → Agree R Q (.ok a s) (.ok b t)
  | error {e : ε} {s : σ} {t : τ} : R s t → Agree R Q (.error e s) (.error e t)

/-- From related states both actions have outcomes that agree. -/
def Simulates (R : σ → τ → Prop) (Q : α → β → Prop) (m : EStateM ε σ α) (n : EStateM ε τ β) :
    Prop :=
  ∀ s t, R s t → Agree R Q (m s) (n t)

/-- Turns that agree: both go on or both stop, with related values. -/
inductive Turn.Agree (P : α → γ → Prop) (Q : β → δ → Prop) : Turn α β → Turn γ δ → Prop
  | again {a : α} {c : γ} : P a c → Turn.Agree P Q (.again a) (.again c)
  | stop {b : β} {d : δ} : Q b d → Turn.Agree P Q (.stop b) (.stop d)

theorem Turn.Agree.again_left {P : α → γ → Prop} {Q : β → δ → Prop} {a : α} {turn : Turn γ δ}
    (h : Turn.Agree P Q (.again a) turn) : ∃ c, turn = .again c ∧ P a c := by
  cases h with
  | again h => exact ⟨_, rfl, h⟩

theorem Turn.Agree.stop_left {P : α → γ → Prop} {Q : β → δ → Prop} {b : β} {turn : Turn γ δ}
    (h : Turn.Agree P Q (.stop b) turn) : ∃ d, turn = .stop d ∧ Q b d := by
  cases h with
  | stop h => exact ⟨_, rfl, h⟩

theorem Agree.mono {R : σ → τ → Prop} {Q Q' : α → β → Prop} {x : EStateM.Result ε σ α}
    {y : EStateM.Result ε τ β} (h : Agree R Q x y) (hQ : ∀ a b, Q a b → Q' a b) :
    Agree R Q' x y := by
  cases h with
  | ok hq hr => exact .ok (hQ _ _ hq) hr
  | error hr => exact .error hr

/-- What follows two outcomes that agree. -/
theorem Agree.bind {R : σ → τ → Prop} {Q : α → β → Prop} {S : γ → δ → Prop} {m : EStateM ε σ α}
    {n : EStateM ε τ β} {f : α → EStateM ε σ γ} {g : β → EStateM ε τ δ} {s : σ} {t : τ}
    (h : Agree R Q (m s) (n t)) (hf : ∀ a b, Q a b → Simulates R S (f a) (g b)) :
    Agree R S ((m >>= f) s) ((n >>= g) t) := by
  rw [bind_apply, bind_apply]
  generalize m s = x at h ⊢
  generalize n t = y at h ⊢
  cases h with
  | ok hq hr => exact hf _ _ hq _ _ hr
  | error hr => exact .error hr

namespace Simulates

variable {R : σ → τ → Prop} {Q : α → β → Prop} {S : γ → δ → Prop}
  {m : EStateM ε σ α} {n : EStateM ε τ β} {f : α → EStateM ε σ γ} {g : β → EStateM ε τ δ}

theorem pure {a : α} {b : β} (h : Q a b) :
    Simulates R Q (Pure.pure a : EStateM ε σ α) (Pure.pure b : EStateM ε τ β) :=
  fun _ _ hr => .ok h hr

theorem throw (e : ε) :
    Simulates R Q (MonadExcept.throw e : EStateM ε σ α) (MonadExcept.throw e : EStateM ε τ β) :=
  fun _ _ hr => .error hr

theorem bind (hm : Simulates R Q m n) (hf : ∀ a b, Q a b → Simulates R S (f a) (g b)) :
    Simulates R S (m >>= f) (n >>= g) :=
  fun s t hr => (hm s t hr).bind hf

theorem mono {Q' : α → β → Prop} (hm : Simulates R Q m n) (hQ : ∀ a b, Q a b → Q' a b) :
    Simulates R Q' m n :=
  fun s t hr => (hm s t hr).mono hQ

/-- From the same state an action ends in one way. -/
theorem same (m : EStateM ε σ α) : Simulates Eq Eq m m := by
  rintro s _ rfl
  cases m s with
  | ok a s' => exact .ok rfl rfl
  | error e s' => exact .error rfl

/-- Turns that are equal agree. -/
theorem turns {m : EStateM ε σ (Turn α β)} {n : EStateM ε τ (Turn α β)} (h : Simulates R Eq m n) :
    Simulates R (Turn.Agree Eq Eq) m n := by
  refine h.mono ?_
  rintro (next | result) _ rfl
  · exact .again rfl
  · exact .stop rfl

theorem onStream {m : EStateM IoError σ α} {n : EStateM IoError τ β} (h : Simulates R Q m n) :
    Simulates R Q (liftM m : EStateM Error σ α) (liftM n : EStateM Error τ β) := by
  intro s t hr
  rw [onStream_apply, onStream_apply]
  have hagree := h s t hr
  generalize m s = x at hagree ⊢
  generalize n t = y at hagree ⊢
  cases hagree with
  | ok hq hr' => exact .ok hq hr'
  | error hr' => exact .error hr'

/-- What does not touch the state ends alike on all states. -/
theorem lift (x : Except ExpressionError α) :
    Simulates R Eq (liftM x : EStateM Error σ α) (liftM x : EStateM Error τ α) := by
  cases x with
  | ok a => exact pure rfl
  | error cause => exact throw _

/-- Both actions first look at their states. -/
theorem get_bind {f : σ → EStateM ε σ γ} {g : τ → EStateM ε τ δ}
    (h : ∀ s t, R s t → Agree R S (f s s) (g t t)) : Simulates R S (get >>= f) (get >>= g) :=
  fun s t hr => h s t hr

/-- One action that gives a result from each kind of states simulates itself on states
of the same kind. -/
theorem of_gives {κ : Type} {At : σ → κ → Prop} {At' : τ → κ → Prop} {n : EStateM ε τ α}
    (r : κ → α) (next : κ → κ) (hm : ∀ k, Gives (At · k) m (r k) (At · (next k)))
    (hn : ∀ k, Gives (At' · k) n (r k) (At' · (next k))) :
    Simulates (fun s t => ∃ k, At s k ∧ At' t k) Eq m n := by
  rintro s t ⟨k, hs, ht⟩
  obtain ⟨s', h, hs'⟩ := hm k s hs
  obtain ⟨t', h', ht'⟩ := hn k t ht
  rw [h, h']
  exact .ok rfl ⟨next k, hs', ht'⟩

variable {P : α → β → Prop} {body : α → EStateM ε σ (Turn α γ)} {body' : β → EStateM ε τ (Turn β δ)}
  {spent : α → γ} {spent' : β → δ}

/-- Loops with the same bound whose turns agree. -/
theorem loop_same (hbody : ∀ a b, P a b → Simulates R (Turn.Agree P S) (body a) (body' b))
    (hspent : ∀ a b, P a b → S (spent a) (spent' b)) (bound : Nat) :
    ∀ a b, P a b → Simulates R S (loop body spent bound a) (loop body' spent' bound b) := by
  induction bound with
  | zero => exact fun a b h => pure (hspent a b h)
  | succ bound ih =>
    intro a b h s t hr
    rw [loop_succ, loop_succ]
    have hagree := hbody a b h s t hr
    generalize body a s = x at hagree ⊢
    generalize body' b t = y at hagree ⊢
    cases hagree with
    | ok hturn hr' =>
      cases hturn with
      | again h' => exact ih _ _ h' _ _ hr'
      | stop h' => exact .ok h' hr'
    | error hr' => exact .error hr'

/-- **Loops whose turns agree** end alike whatever their bounds, where every turn that
goes on lowers a measure which the bounds exceed. -/
theorem loop {μ : σ → Nat} {ν : τ → Nat}
    (hbody : ∀ a b, P a b → Simulates R (Turn.Agree P S) (body a) (body' b))
    (hμ : ∀ a, Spends μ Turn.GoesOn (body a)) (hν : ∀ b, Spends ν Turn.GoesOn (body' b))
    (bound : Nat) :
    ∀ bound' a b s t, μ s < bound → ν t < bound' → P a b → R s t →
      Agree R S (Templating.loop body spent bound a s)
        (Templating.loop body' spent' bound' b t) := by
  induction bound with
  | zero => intro bound' a b s t hb; omega
  | succ bound ih =>
    intro bound' a b s t hb hb' hab hr
    obtain ⟨bound', rfl⟩ : ∃ k, bound' = k + 1 := ⟨bound' - 1, by omega⟩
    rw [loop_succ, loop_succ]
    have hagree := hbody a b hab s t hr
    generalize hx : body a s = x at hagree ⊢
    generalize hy : body' b t = y at hagree ⊢
    cases hagree with
    | ok hturn hr' =>
      cases hturn with
      | again h' =>
        -- both measures fall, so both bounds still exceed them
        have h₁ := hμ _ _ _ _ hx trivial
        have h₂ := hν _ _ _ _ hy trivial
        exact ih _ _ _ _ _ (by omega) (by omega) h' hr'
      | stop h' => exact .ok h' hr'
    | error hr' => exact .error hr'

end Simulates

end Templating
