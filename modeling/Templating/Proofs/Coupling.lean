import Templating.Proofs.Edits
import Templating.Proofs.Markers

/-!
# Runs that drift apart

Two runs over one input, of which one removes the blanks around markers and the other keeps
them. After a marker the second one is still before blanks that the first one has passed, and
its output has blanks that the first one has cut. They drift apart and meet again at the next
marker, so what holds of their states after a step depends on how the step has ended.

* `Couples`: two actions side by side, with a relation between their states for each result.
* `ink`: a text without its blanks, which is what both outputs have in common.
* `Session.Trails`: two runs before the places where they are, with outputs of the same ink.
* `WhitespacePolicy.couples_before`, `WhitespacePolicy.couples_after`: removing blanks against
  keeping them.
-/

namespace Templating

/-! ### Two actions with coupled states -/

section Coupling

variable {ε σ τ α β γ δ : Type}

/-- Outcomes that are coupled: results that go together in the states where they are, or the
same failure. -/
inductive Coupled (E : σ → τ → Prop) (Q : α → β → σ → τ → Prop) :
    EStateM.Result ε σ α → EStateM.Result ε τ β → Prop
  | ok {a : α} {b : β} {s : σ} {t : τ} : Q a b s t → Coupled E Q (.ok a s) (.ok b t)
  | error {e : ε} {s : σ} {t : τ} : E s t → Coupled E Q (.error e s) (.error e t)

/-- **Two actions side by side**: from states that go together their outcomes are coupled. -/
def Couples (P : σ → τ → Prop) (E : σ → τ → Prop) (m : EStateM ε σ α) (n : EStateM ε τ β)
    (Q : α → β → σ → τ → Prop) : Prop :=
  ∀ s t, P s t → Coupled E Q (m s) (n t)

/-- What holds of a turn: one thing if it goes on and another one if it stops. -/
def Turn.Holds (P : α → Prop) (Q : β → Prop) : Turn α β → Prop
  | again a => P a
  | stop b => Q b

namespace Couples

variable {P E : σ → τ → Prop} {Q : α → β → σ → τ → Prop} {R : γ → δ → σ → τ → Prop}
  {m : EStateM ε σ α} {n : EStateM ε τ β} {f : α → EStateM ε σ γ} {g : β → EStateM ε τ δ}

theorem pure {a : α} {b : β} (h : ∀ s t, P s t → Q a b s t) :
    Couples P E (Pure.pure a : EStateM ε σ α) (Pure.pure b : EStateM ε τ β) Q :=
  fun s t hst => .ok (h s t hst)

theorem throw {e : ε} (h : ∀ s t, P s t → E s t) :
    Couples P E (MonadExcept.throw e : EStateM ε σ α) (MonadExcept.throw e : EStateM ε τ β) Q :=
  fun s t hst => .error (h s t hst)

theorem bind (hm : Couples P E m n Q) (hf : ∀ a b, Couples (Q a b) E (f a) (g b) R) :
    Couples P E (m >>= f) (n >>= g) R := by
  intro s t hst
  have hcoupled := hm s t hst
  rw [bind_apply, bind_apply]
  generalize m s = x at hcoupled ⊢
  generalize n t = y at hcoupled ⊢
  cases hcoupled with
  | ok hq => exact hf _ _ _ _ hq
  | error he => exact .error he

/-- After equal results both go on with the same one. -/
theorem bind_same {m : EStateM ε σ α} {n : EStateM ε τ α} {Q : α → σ → τ → Prop}
    {f : α → EStateM ε σ γ} {g : α → EStateM ε τ δ}
    (hm : Couples P E m n fun a b s t => a = b ∧ Q a s t)
    (hf : ∀ a, Couples (Q a) E (f a) (g a) R) : Couples P E (m >>= f) (n >>= g) R := by
  refine bind hm fun a b => ?_
  rintro s t ⟨rfl, hq⟩
  exact hf a s t hq

theorem mono {P' : σ → τ → Prop} {Q' : α → β → σ → τ → Prop} (hm : Couples P E m n Q)
    (hP : ∀ s t, P' s t → P s t) (hQ : ∀ a b s t, Q a b s t → Q' a b s t) :
    Couples P' E m n Q' := by
  intro s t hst
  have hcoupled := hm s t (hP s t hst)
  generalize m s = x at hcoupled ⊢
  generalize n t = y at hcoupled ⊢
  cases hcoupled with
  | ok hq => exact .ok (hQ _ _ _ _ hq)
  | error he => exact .error he

/-- **Loops side by side** take the same turns, where a turn that goes on leads to states that
go together before the next one. What goes together may depend on how many turns are left. -/
theorem loop_left {body : α → EStateM ε σ (Turn α β)} {body' : α → EStateM ε τ (Turn α β)}
    {spent : α → β} {I : Nat → α → σ → τ → Prop} {S : β → σ → τ → Prop}
    (hbody : ∀ n a, Couples (I (n + 1) a) E (body a) (body' a) fun turn turn' s t =>
      turn = turn' ∧ turn.Holds (I n · s t) (S · s t))
    (hspent : ∀ a s t, I 0 a s t → S (spent a) s t) (bound : Nat) :
    ∀ a, Couples (I bound a) E (loop body spent bound a) (loop body' spent bound a)
      fun b b' s t => b = b' ∧ S b s t := by
  induction bound with
  | zero => exact fun a => pure fun s t hst => ⟨rfl, hspent a s t hst⟩
  | succ bound ih =>
    intro a s t hst
    have hturn := hbody bound a s t hst
    rw [loop_succ, loop_succ]
    generalize body a s = x at hturn ⊢
    generalize body' a t = y at hturn ⊢
    cases hturn with
    | error he => exact .error he
    | ok hq =>
      obtain ⟨rfl, hholds⟩ := hq
      rename_i turn s' t'
      cases turn with
      | again next => exact ih next _ _ hholds
      | stop result => exact .ok ⟨rfl, hholds⟩

theorem loop {body : α → EStateM ε σ (Turn α β)} {body' : α → EStateM ε τ (Turn α β)}
    {spent : α → β} {I : α → σ → τ → Prop} {S : β → σ → τ → Prop}
    (hbody : ∀ a, Couples (I a) E (body a) (body' a) fun turn turn' s t =>
      turn = turn' ∧ turn.Holds (I · s t) (S · s t))
    (hspent : ∀ a s t, I a s t → S (spent a) s t) (bound : Nat) :
    ∀ a, Couples (I a) E (loop body spent bound a) (loop body' spent bound a)
      fun b b' s t => b = b' ∧ S b s t :=
  loop_left (I := fun _ => I) (fun _ => hbody) hspent bound

end Couples

end Coupling

/-! ### Blanks -/

/-- A space or a tab, in UTF-8. -/
def isBlank (b : UInt8) : Bool := b == 32 || b == 9

/-- **The ink of a text**: all of its bytes but spaces and tabs. -/
def ink (bytes : Bytes) : Bytes := bytes.filter fun b => !isBlank b

/-- Two parts of a text with the same end, of which one begins with some more blanks. -/
def Drifts (k k' : Bytes) : Prop :=
  ∃ blanks : Bytes, (∀ b ∈ blanks, isBlank b = true) ∧ k = blanks ++ k'

section Blanks

variable {k k' : Bytes}

theorem Drifts.refl (k : Bytes) : Drifts k k := ⟨[], by simp, rfl⟩

theorem Drifts.cons {b : UInt8} (hb : isBlank b = true) (h : Drifts k k') : Drifts (b :: k) k' := by
  obtain ⟨blanks, hblanks, rfl⟩ := h
  exact ⟨b :: blanks, List.forall_mem_cons.2 ⟨hb, hblanks⟩, rfl⟩

/-- A text with some more blanks begins with one of them, or with the other text. -/
theorem Drifts.cases_cons {b : UInt8} {rest : Bytes} (h : Drifts (b :: rest) k') :
    k' = b :: rest ∨ isBlank b = true ∧ Drifts rest k' := by
  obtain ⟨blanks, hblanks, hk⟩ := h
  cases blanks with
  | nil => exact .inl hk.symm
  | cons first blanks =>
    obtain ⟨rfl, rfl⟩ := List.cons.inj hk
    obtain ⟨hb, hrest⟩ := List.forall_mem_cons.1 hblanks
    exact .inr ⟨hb, blanks, hrest, rfl⟩

theorem Drifts.eq_nil (h : Drifts [] k') : k' = [] := by
  obtain ⟨blanks, -, hk⟩ := h
  exact (List.append_eq_nil_iff.1 hk.symm).2

theorem ink_append (front back : Bytes) : ink (front ++ back) = ink front ++ ink back :=
  List.filter_append _ _

theorem ink_reverse (bytes : Bytes) : ink bytes.reverse = (ink bytes).reverse :=
  List.filter_reverse

theorem ink_blank {b : UInt8} (hb : isBlank b = true) : ink [b] = [] := by
  simp [ink, hb]

theorem Drifts.ink_eq (h : Drifts k k') : ink k = ink k' := by
  obtain ⟨blanks, hblanks, rfl⟩ := h
  have hnone : ink blanks = [] := List.filter_eq_nil_iff.2 fun b hb => by simp [hblanks b hb]
  rw [ink_append, hnone, List.nil_append]

end Blanks

namespace Glossary

variable (v : Variables) (format : String)

/-- The tokens for blanks in UTF-8 are single bytes. -/
theorem blank_of_match? {bytes : Bytes} {index length : Nat}
    (h : (make .utf8 v format).blanks.match? bytes = some (index, length)) :
    ∃ b rest, bytes = b :: rest ∧ isBlank b = true ∧ length = 1 := by
  have htokens : (make .utf8 v format).blanks = .ofList [[32], [9]] := rfl
  rw [htokens, TokenTable.match?_ofList, Option.map_eq_some_iff] at h
  obtain ⟨e, hlongest, hpair⟩ := h
  obtain ⟨hmem, -, ⟨rest, rfl⟩, -⟩ := longestMatch?_spec hlongest
  have hcases : e = ([32], 0) ∨ e = ([9], 1) := by simpa using hmem
  rcases hcases with rfl | rfl
  · exact ⟨32, rest, rfl, rfl, (Prod.mk.inj hpair).2.symm⟩
  · exact ⟨9, rest, rfl, rfl, (Prod.mk.inj hpair).2.symm⟩

theorem drifts_dropTokens (count : Nat) (k : Bytes) :
    Drifts k ((make .utf8 v format).blanks.dropTokens count k) := by
  induction count generalizing k with
  | zero => exact .refl k
  | succ count ih =>
    rw [TokenTable.dropTokens]
    cases hm : (make .utf8 v format).blanks.match? k with
    | none => exact .refl k
    | some found =>
      obtain ⟨index, length⟩ := found
      obtain ⟨b, rest, rfl, hb, rfl⟩ := blank_of_match? v format hm
      exact (ih rest).cons hb

theorem drifts_strip (tests : Nat) (reversed : Bytes) :
    Drifts reversed (Target.strip (make .utf8 v format).blanks tests reversed) := by
  have hentries : ∀ x ∈ (make .utf8 v format).blanks.entries, x.2 = [32] ∨ x.2 = [9] := by
    show ∀ x ∈ (TokenTable.ofList [[32], [9]]).entries, x.2 = [32] ∨ x.2 = [9]
    decide
  induction tests generalizing reversed with
  | zero => exact .refl reversed
  | succ tests ih =>
    cases hm : (make .utf8 v format).blanks.matchReversed? reversed with
    | none =>
      rw [Target.strip_of_none hm]
      exact .refl reversed
    | some length =>
      obtain ⟨⟨x, hx, ⟨rest, rfl⟩, rfl⟩, -⟩ := TokenTable.matchReversed?_eq_some.1 hm
      rw [Target.strip_of_match hm]
      rcases hentries x hx with hspace | htab
      · rw [hspace]
        exact (ih rest).cons rfl
      · rw [htab]
        exact (ih rest).cons rfl

end Glossary

/-- What is cut before a marker to trim an output is blank. -/
theorem WhitespacePolicy.ink_residue (v : Variables) (format : String) (text : Bytes) :
    ink (trim.residue (.make .utf8 v format) text) = ink text := by
  have hunit : (Glossary.make .utf8 v format).encoding.unitWidth ∣ text.length := Nat.one_dvd _
  have hdrifts := Glossary.drifts_strip v format text.length text.reverse
  rw [← Target.reverse_take_keptTrailing hunit] at hdrifts
  have hink := hdrifts.ink_eq
  rw [ink_reverse, ink_reverse] at hink
  exact (List.reverse_injective hink).symm

/-! ### Sessions -/

namespace Session

/-- **Two runs side by side**: one before some bytes and the other one before others, with
outputs of the same ink, of which the second one reaches up to the floor. -/
structure Trails (floor : Nat) (k k' : Bytes) (σ σ' : Session Memory) : Prop where
  window : σ.window.At k
  window' : σ'.window.At k'
  floor_le : floor ≤ σ'.target.toBytes.length
  ink_eq : ink σ.target.toBytes = ink σ'.target.toBytes

/-- Two runs with outputs of the same ink. -/
def SameInk (σ σ' : Session Memory) : Prop := ink σ.target.toBytes = ink σ'.target.toBytes

/-- Two runs at the same place. -/
def Together (floor : Nat) (σ σ' : Session Memory) : Prop := ∃ k, Trails floor k k σ σ'

/-- Two runs of which the first one may still be before some blanks. -/
def Apart (floor : Nat) (σ σ' : Session Memory) : Prop :=
  ∃ k k', Drifts k k' ∧ Trails floor k k' σ σ'

variable {α : Type} {floor : Nat} {k k' rest rest' : Bytes}

theorem Together.apart {σ σ' : Session Memory} (h : Together floor σ σ') : Apart floor σ σ' := by
  obtain ⟨k, htrails⟩ := h
  exact ⟨k, k, .refl k, htrails⟩

theorem Apart.sameInk {σ σ' : Session Memory} (h : Apart floor σ σ') : SameInk σ σ' := by
  obtain ⟨k, k', -, htrails⟩ := h
  exact htrails.ink_eq

theorem couples_onWindow {m n : EStateM IoError Window α} {a : α}
    (hm : Gives (Window.At · k) m a (Window.At · rest))
    (hn : Gives (Window.At · k') n a (Window.At · rest')) :
    Couples (Trails floor k k') SameInk (onWindow m) (onWindow n)
      fun x y σ σ' => x = a ∧ y = a ∧ Trails floor rest rest' σ σ' := by
  rintro ⟨w, t⟩ ⟨w', t'⟩ ⟨hw, hw', hfloor, hink⟩
  obtain ⟨w₁, hm, hw₁⟩ := hm w hw
  obtain ⟨w₂, hn, hw₂⟩ := hn w' hw'
  simp only [onWindow, scan_apply, onStream_apply, hm, hn]
  exact .ok ⟨rfl, rfl, hw₁, hw₂, hfloor, hink⟩

/-- What two runs before the same bytes read alike they leave alike. -/
theorem couples_scan {m : EStateM Error Window α} (hm : Simulates Window.Alike Eq m m) :
    Couples (Together floor) SameInk (scan m) (scan m)
      fun x y σ σ' => x = y ∧ Together floor σ σ' := by
  rintro ⟨w, t⟩ ⟨w', t'⟩ ⟨k, hw, hw', hfloor, hink⟩
  have hagree := hm w w' ⟨k, hw, hw'⟩
  rw [scan_apply, scan_apply]
  generalize m w = x at hagree ⊢
  generalize m w' = y at hagree ⊢
  cases hagree with
  | ok heq halike =>
    obtain ⟨rest, hrest, hrest'⟩ := halike
    exact .ok ⟨heq, rest, hrest, hrest', hfloor, hink⟩
  | error _ => exact .error hink

end Session

namespace WhitespacePolicy

variable {ctx : Context} {v : Variables} {format : String}

/-- **Before a marker** trimming cuts blanks of the output. -/
theorem couples_before (hg : ctx.glossary = .make .utf8 v format) :
    Couples (Session.Together ctx.floor) Session.SameInk
      (keep.before ctx : EStateM Error (Session Memory) Unit) (trim.before ctx)
      fun _ _ => Session.Together ctx.floor := by
  rintro σ ⟨w', t'⟩ ⟨k, hw, hw', hfloor, hink⟩
  have hsplit : t' = .ofBytes (t'.toBytes.take ctx.floor ++ t'.toBytes.drop ctx.floor) := by
    rw [List.take_append_drop, Memory.ofBytes_toBytes]
  have hbelow : (t'.toBytes.take ctx.floor).length = ctx.floor := List.length_take_of_le hfloor
  have hcut := before_apply ⟨.utf8, v, format, hg⟩ trim w' hbelow (t'.toBytes.drop ctx.floor)
  rw [← hsplit] at hcut
  have hkept : ink (t'.toBytes.take ctx.floor ++
      trim.residue ctx.glossary (t'.toBytes.drop ctx.floor)) = ink t'.toBytes := by
    rw [ink_append, hg, ink_residue, ← ink_append, List.take_append_drop]
  rw [hcut]
  refine .ok ⟨k, hw, hw', ?_, hink.trans hkept.symm⟩
  show ctx.floor ≤ (Memory.ofBytes _).toBytes.length
  rw [Memory.toBytes_ofBytes, List.length_append, hbelow]
  exact Nat.le_add_right _ _

/-- **After a marker** trimming passes blanks of the input. -/
theorem couples_after (hg : ctx.glossary = .make .utf8 v format) :
    Couples (Session.Together ctx.floor) Session.SameInk
      (keep.after ctx : EStateM Error (Session Memory) Unit) (trim.after ctx)
      fun _ _ => Session.Apart ctx.floor := by
  rintro σ ⟨w', t'⟩ ⟨k, hw, hw', hfloor, hink⟩
  have hlawful : ctx.glossary.blanks.Lawful := hg ▸ TokenTable.lawful_ofList _
  obtain ⟨w₁, hseek, hw₁⟩ := Window.gives_seekWhile hlawful k w' hw'
  have hdrifts : Drifts k (ctx.glossary.blanks.dropTokens k.length k) := by
    rw [hg]
    exact Glossary.drifts_dropTokens v format k.length k
  simp only [after, Session.onWindow, Session.scan_apply, onStream_apply, hseek]
  exact .ok ⟨k, _, hdrifts, hw, hw₁, hfloor, hink⟩

end WhitespacePolicy

end Templating
