import Templating.Expression.Vocabulary

/-!
# The grammar of conditions

A `Grammar` says which part each lexeme plays. The sentences over it are chains
of operands and binary operators, where an operand may stand in a group and
after unary operators. Its parses are the sentences read by precedence: the
right operand of an operator binds tighter than the operator and the left one
at least as tightly, so operators of one level group to the left. A `Term` is a
parse without its groups.

The parses are compared with a machine (`Grammar.step`) that reads a sentence
once: it holds the operators and groups that still wait for an operand, the
innermost first, and completes the operators that bind at least as tightly as
the next one (`reduce`).

* `Grammar.accept_of_parses`: the machine finds every parse, so there is at most
  one.
* `Grammar.accept_of_sentence`: it accepts every sentence.
* `Grammar.parses_of_accept`: what it accepts it parses.
* `Grammar.sentence_iff`: a list is a sentence iff it has a parse.
-/

namespace Templating

inductive Term where
  | operand (o : Operand)
  | unary (op : UnaryOperator) (e : Term)
  | binary (op : BinaryOperator) (left right : Term)

/-- **The value of a term.** Both operands of a binary operator are evaluated, the
left one first, and then the operator; the first failure is the result. -/
def Term.evaluate (c : Converter) (resolve : Nat → Value) : Term → Except ExpressionError Value
  | operand (.literal v) => pure v
  | operand (.reference slot) => pure (resolve slot)
  | unary op e => do
    let a ← e.evaluate c resolve
    op.apply c a
  | binary op left right => do
    let a ← left.evaluate c resolve
    let b ← right.evaluate c resolve
    op.apply c a b

/-- The part that a lexeme plays: an operator may stand between two operands, with
a level, and before one; one that may do neither stands nowhere. -/
inductive Part where
  | operand (o : Operand)
  | operator (between : Option (BinaryOperator × Nat)) (before : Option UnaryOperator)
  | opening
  | closing

def Grammar := Lexeme → Part

namespace Grammar

variable {G : Grammar} {x y : Lexeme} {xs ys zs : List Lexeme} {n l : Nat} {e t : Term}
  {op : BinaryOperator} {uop : UnaryOperator} {between : Option (BinaryOperator × Nat)}
  {before : Option UnaryOperator}

mutual

/-- An operand or a group, with any number of unary operators before it. -/
inductive Phrase (G : Grammar) : List Lexeme → Prop
  | operand {x : Lexeme} {o : Operand} (hx : G x = .operand o) : Phrase G [x]
  | unary {x : Lexeme} {xs : List Lexeme} {between : Option (BinaryOperator × Nat)}
      {op : UnaryOperator} (hx : G x = .operator between (some op)) (h : Phrase G xs) :
      Phrase G (x :: xs)
  | group {x y : Lexeme} {xs : List Lexeme} (hx : G x = .opening) (hy : G y = .closing)
      (h : Sentence G xs) : Phrase G (x :: (xs ++ [y]))

/-- Phrases with a binary operator between any two. -/
inductive Sentence (G : Grammar) : List Lexeme → Prop
  | phrase {xs : List Lexeme} (h : Phrase G xs) : Sentence G xs
  | chain {x : Lexeme} {xs ys : List Lexeme} {b : BinaryOperator × Nat}
      {before : Option UnaryOperator} (h : Sentence G xs)
      (hx : G x = .operator (some b) before) (h' : Phrase G ys) : Sentence G (xs ++ x :: ys)

end

mutual

/-- A phrase and what it says. -/
inductive Atom (G : Grammar) : List Lexeme → Term → Prop
  | operand {x : Lexeme} {o : Operand} (hx : G x = .operand o) : Atom G [x] (.operand o)
  | unary {x : Lexeme} {xs : List Lexeme} {e : Term} {between : Option (BinaryOperator × Nat)}
      {op : UnaryOperator} (hx : G x = .operator between (some op)) (h : Atom G xs e) :
      Atom G (x :: xs) (.unary op e)
  | group {x y : Lexeme} {xs : List Lexeme} {e : Term} (hx : G x = .opening)
      (hy : G y = .closing) (h : Parses G 0 xs e) : Atom G (x :: (xs ++ [y])) e

/-- **A sentence read by precedence**, as an operand of which every operator
outside groups has at least a given level. -/
inductive Parses (G : Grammar) : Nat → List Lexeme → Term → Prop
  | atom {n : Nat} {xs : List Lexeme} {e : Term} (h : Atom G xs e) : Parses G n xs e
  | binary {n l : Nat} {x : Lexeme} {xs ys : List Lexeme} {a b : Term} {op : BinaryOperator}
      {before : Option UnaryOperator} (hx : G x = .operator (some (op, l)) before) (hn : n ≤ l)
      (h : Parses G l xs a) (h' : Parses G (l + 1) ys b) :
      Parses G n (xs ++ x :: ys) (.binary op a b)

end

/-! ### The machine -/

/-- What waits for an operand: a group to close, or an operator with what stands
on its left. -/
inductive Frame where
  | group
  | unary (op : UnaryOperator)
  | binary (op : BinaryOperator) (level : Nat) (left : Term)

/-- The waiting frames, the innermost first, and the last complete operand if no
operand has to come next. -/
structure Stack where
  frames : List Frame
  focus : Option Term

/-- Completes the frames that bind at least as tightly as a level. -/
def reduce (level : Nat) : List Frame → Term → List Frame × Term
  | .unary op :: F, e => reduce level F (.unary op e)
  | .binary op l a :: F, e =>
    if level ≤ l then reduce level F (.binary op a e) else (.binary op l a :: F, e)
  | .group :: F, e => (.group :: F, e)
  | [], e => ([], e)

def step (G : Grammar) (σ : Stack) (x : Lexeme) : Option Stack :=
  match G x, σ.focus with
  | .operand o, none => some { σ with focus := some (.operand o) }
  | .operator _ (some op), none => some { σ with frames := .unary op :: σ.frames }
  | .opening, none => some { σ with frames := .group :: σ.frames }
  | .operator (some (op, l)) _, some e =>
    let (F, left) := reduce l σ.frames e
    some ⟨.binary op l left :: F, none⟩
  | .closing, some e =>
    match reduce 0 σ.frames e with
    | (.group :: F, inner) => some ⟨F, some inner⟩
    | _ => none
  | _, _ => none

def run (G : Grammar) (σ : Stack) (xs : List Lexeme) : Option Stack := xs.foldlM G.step σ

/-- The term of a stack that waits for nothing but the end. -/
def Stack.finish? (σ : Stack) : Option Term :=
  match σ.focus with
  | none => none
  | some e =>
    match reduce 0 σ.frames e with
    | ([], whole) => some whole
    | _ => none

def accept (G : Grammar) (xs : List Lexeme) : Option Term :=
  (G.run ⟨[], none⟩ xs).bind Stack.finish?

variable {σ σ' : Stack} {F F' : List Frame}

@[simp]
theorem run_nil : G.run σ [] = some σ := rfl

theorem run_cons : G.run σ (x :: xs) = (G.step σ x).bind (G.run · xs) := rfl

theorem run_append : G.run σ (xs ++ ys) = (G.run σ xs).bind (G.run · ys) := by
  simp only [run, List.foldlM_append]
  rfl

theorem run_cons_of (h : G.step σ x = some σ') : G.run σ (x :: xs) = G.run σ' xs := by
  rw [run_cons, h]
  rfl

theorem run_append_of (h : G.run σ xs = some σ') : G.run σ (xs ++ ys) = G.run σ' ys := by
  rw [run_append, h]
  rfl

theorem step_operand {o : Operand} (hx : G x = .operand o) :
    G.step ⟨F, none⟩ x = some ⟨F, some (.operand o)⟩ := by
  simp [step, hx]

theorem step_unary (hx : G x = .operator between (some uop)) :
    G.step ⟨F, none⟩ x = some ⟨.unary uop :: F, none⟩ := by
  simp [step, hx]

theorem step_opening (hx : G x = .opening) :
    G.step ⟨F, none⟩ x = some ⟨.group :: F, none⟩ := by
  simp [step, hx]

theorem step_binary (hx : G x = .operator (some (op, l)) before) :
    G.step ⟨F, some e⟩ x = some ⟨.binary op l (reduce l F e).2 :: (reduce l F e).1, none⟩ := by
  cases before <;> simp [step, hx]

theorem step_closing {inner : Term} (hx : G x = .closing)
    (h : reduce 0 F e = (.group :: F', inner)) :
    G.step ⟨F, some e⟩ x = some ⟨F', some inner⟩ := by
  simp [step, hx, h]

theorem step_nothing (hx : G x = .operator none none) : G.step σ x = none := by
  obtain ⟨F, focus⟩ := σ
  cases focus <;> simp [step, hx]

/-- The innermost frame is no operator that binds as tightly as a level. -/
def Blocked (n : Nat) : List Frame → Prop
  | .unary _ :: _ => False
  | .binary _ l _ :: _ => l < n
  | _ => True

theorem Blocked.mono (h : Blocked n F) (hl : n ≤ l) : Blocked l F := by
  match F with
  | [] | .group :: _ => trivial
  | .unary _ :: _ => exact h
  | .binary _ _ _ :: _ => exact Nat.lt_of_lt_of_le h hl

theorem Blocked.reduce_eq (h : Blocked n F) (e : Term) : reduce n F e = (F, e) := by
  match F with
  | [] | .group :: _ => rfl
  | .unary _ :: _ => exact h.elim
  | .binary _ l _ :: _ => exact if_neg (Nat.not_le.2 h)

theorem blocked_reduce (n : Nat) (F : List Frame) (e : Term) : Blocked n (reduce n F e).1 := by
  fun_induction reduce n F e with
  | case1 F op e ih => exact ih
  | case2 F op l a e hl ih => exact ih
  | case3 F op l a e hl => exact Nat.not_le.1 hl
  | case4 | case5 => trivial

/-! ### Every parse is found -/

/-- From some frames on, the machine reads `xs` as a term: it ends with that term as
the operand of any operator of a level up to `n`. -/
def Finds (G : Grammar) (F : List Frame) (xs : List Lexeme) (levels : Nat → Prop) (e : Term) :
    Prop :=
  ∃ F' t, G.run ⟨F, none⟩ xs = some ⟨F', some t⟩ ∧ ∀ l, levels l → reduce l F' t = reduce l F e

mutual

theorem Atom.found {xs : List Lexeme} {e : Term} :
    Atom G xs e → ∀ F, Finds G F xs (fun _ => True) e
  | .operand hx, F => ⟨F, _, run_cons_of (step_operand hx), fun _ _ => rfl⟩
  | @Atom.unary _ _ _ _ _ op hx h, F => by
    obtain ⟨F', t, hrun, hred⟩ := h.found (.unary op :: F)
    exact ⟨F', t, (run_cons_of (step_unary hx)).trans hrun, hred⟩
  | .group (e := e) hx hy h, F => by
    obtain ⟨F', t, hrun, hred⟩ := h.found (.group :: F) trivial
    have hclose := step_closing hy (hred 0 (Nat.le_refl 0))
    refine ⟨F, e, ?_, fun _ _ => rfl⟩
    rw [run_cons_of (step_opening hx), run_append_of hrun]
    exact run_cons_of hclose

theorem Parses.found {n : Nat} {xs : List Lexeme} {e : Term} :
    Parses G n xs e → ∀ F, Blocked n F → Finds G F xs (· ≤ n) e
  | .atom h, F, _ => by
    obtain ⟨F', t, hrun, hred⟩ := h.found F
    exact ⟨F', t, hrun, fun l _ => hred l trivial⟩
  | @Parses.binary _ _ l _ _ _ a b op _ hx hn h h', F, hF => by
    obtain ⟨F₁, t₁, hrun₁, hred₁⟩ := h.found F (hF.mono hn)
    have hleft : reduce l F₁ t₁ = (F, a) :=
      (hred₁ l (Nat.le_refl l)).trans ((hF.mono hn).reduce_eq a)
    obtain ⟨F₂, t₂, hrun₂, hred₂⟩ := h'.found (.binary op l a :: F) (Nat.lt_succ_self l)
    refine ⟨F₂, t₂, ?_, fun k hk => ?_⟩
    · rw [run_append_of hrun₁, run_cons_of (step_binary hx), hleft]
      exact hrun₂
    · rw [hred₂ k (by omega), reduce, if_pos (by omega)]

end

/-- **The machine finds every parse.** -/
theorem accept_of_parses (h : Parses G 0 xs e) : G.accept xs = some e := by
  obtain ⟨F, t, hrun, hred⟩ := h.found [] trivial
  simp [accept, hrun, Stack.finish?, hred 0 (Nat.le_refl 0), reduce]

/-! ### Every sentence is accepted -/

/-- The open groups of some frames. -/
def opened : List Frame → Nat
  | .group :: F => opened F + 1
  | _ :: F => opened F
  | [] => 0

theorem opened_reduce (n : Nat) (F : List Frame) (e : Term) :
    opened (reduce n F e).1 = opened F := by
  fun_induction reduce n F e with
  | case1 F op e ih => exact ih
  | case2 F op l a e hl ih => exact ih
  | case3 | case4 | case5 => rfl

/-- With an open group, completing every operator ends at the innermost one. -/
theorem reduce_of_opened {k : Nat} (h : opened F = k + 1) (e : Term) :
    ∃ F' inner, reduce 0 F e = (.group :: F', inner) ∧ opened F' = k := by
  have hblocked := blocked_reduce 0 F e
  have hopened := (opened_reduce 0 F e).trans h
  match hF : reduce 0 F e with
  | (.group :: F', inner) =>
    rw [hF] at hopened
    exact ⟨F', inner, rfl, Nat.succ.inj hopened⟩
  | ([], _) => simp [hF, opened] at hopened
  | (.unary _ :: _, _) => simp [hF, Blocked] at hblocked
  | (.binary _ _ _ :: _, _) => simp [hF, Blocked] at hblocked

theorem reduce_of_opened_zero (h : opened F = 0) (e : Term) :
    ∃ whole, reduce 0 F e = ([], whole) := by
  have hblocked := blocked_reduce 0 F e
  have hopened := (opened_reduce 0 F e).trans h
  match hF : reduce 0 F e with
  | ([], whole) => exact ⟨whole, rfl⟩
  | (.group :: _, _) => simp [hF, opened] at hopened
  | (.unary _ :: _, _) => simp [hF, Blocked] at hblocked
  | (.binary _ _ _ :: _, _) => simp [hF, Blocked] at hblocked

/-- From some frames on, the machine reads `xs` and leaves as many groups open. -/
def Reads (G : Grammar) (F : List Frame) (xs : List Lexeme) : Prop :=
  ∃ F' t, G.run ⟨F, none⟩ xs = some ⟨F', some t⟩ ∧ opened F' = opened F

mutual

theorem Phrase.read {xs : List Lexeme} : Phrase G xs → ∀ F, Reads G F xs
  | .operand hx, F => ⟨F, _, run_cons_of (step_operand hx), rfl⟩
  | @Phrase.unary _ _ _ _ op hx h, F => by
    obtain ⟨F', t, hrun, hopened⟩ := h.read (.unary op :: F)
    exact ⟨F', t, (run_cons_of (step_unary hx)).trans hrun, hopened⟩
  | .group hx hy h, F => by
    obtain ⟨F', t, hrun, hopened⟩ := h.read (.group :: F)
    obtain ⟨F'', inner, hred, hopened'⟩ := reduce_of_opened hopened t
    refine ⟨F'', inner, ?_, hopened'⟩
    rw [run_cons_of (step_opening hx), run_append_of hrun]
    exact run_cons_of (step_closing hy hred)

theorem Sentence.read {xs : List Lexeme} : Sentence G xs → ∀ F, Reads G F xs
  | .phrase h, F => h.read F
  | .chain (b := (op, l)) h hx h', F => by
    obtain ⟨F₁, t₁, hrun₁, hopened₁⟩ := h.read F
    obtain ⟨F₂, t₂, hrun₂, hopened₂⟩ := h'.read
      (.binary op l (reduce l F₁ t₁).2 :: (reduce l F₁ t₁).1)
    refine ⟨F₂, t₂, ?_, ?_⟩
    · rw [run_append_of hrun₁, run_cons_of (step_binary hx)]
      exact hrun₂
    · rw [hopened₂, ← hopened₁, ← opened_reduce l F₁ t₁]
      rfl

end

theorem accept_of_sentence (h : Sentence G xs) : ∃ e, G.accept xs = some e := by
  obtain ⟨F, t, hrun, hopened⟩ := h.read []
  obtain ⟨whole, hred⟩ := reduce_of_opened_zero hopened t
  exact ⟨whole, by simp [accept, hrun, Stack.finish?, hred]⟩

/-! ### What is accepted is parsed -/

/-- What the frames were read from: a left operand is a parse that nothing before it
can take as its own. -/
inductive Pending (G : Grammar) : List Frame → List Lexeme → Prop
  | empty : Pending G [] []
  | group {x : Lexeme} {xs : List Lexeme} {F : List Frame} (hx : G x = .opening)
      (h : Pending G F xs) : Pending G (.group :: F) (xs ++ [x])
  | unary {x : Lexeme} {xs : List Lexeme} {F : List Frame}
      {between : Option (BinaryOperator × Nat)} {op : UnaryOperator}
      (hx : G x = .operator between (some op)) (h : Pending G F xs) :
      Pending G (.unary op :: F) (xs ++ [x])
  | binary {x : Lexeme} {xs ys : List Lexeme} {F : List Frame} {a : Term}
      {op : BinaryOperator} {l : Nat} {before : Option UnaryOperator}
      (hx : G x = .operator (some (op, l)) before) (hF : Blocked l F) (h : Pending G F xs)
      (ha : Parses G l ys a) : Pending G (.binary op l a :: F) (xs ++ (ys ++ [x]))

/-- The operand that the innermost frame waits for. -/
def Takes (G : Grammar) (F : List Frame) (zs : List Lexeme) (e : Term) : Prop :=
  match F with
  | .unary _ :: _ => Atom G zs e
  | .binary _ l _ :: _ => Parses G (l + 1) zs e
  | _ => Parses G 0 zs e

theorem Parses.mono (h : Parses G l zs e) (hn : n ≤ l) : Parses G n zs e := by
  cases h with
  | atom h => exact .atom h
  | binary hx hl h h' => exact .binary hx (Nat.le_trans hn hl) h h'

theorem Atom.takes (h : Atom G zs e) (F : List Frame) : Takes G F zs e := by
  match F with
  | .unary _ :: _ => exact h
  | .binary _ _ _ :: _ => exact .atom h
  | [] | .group :: _ => exact .atom h

theorem Parses.takes (h : Parses G l zs e) (hF : Blocked l F) : Takes G F zs e := by
  match F with
  | .unary _ :: _ => exact hF.elim
  | .binary _ _ _ :: _ => exact h.mono hF
  | [] | .group :: _ => exact h.mono (Nat.zero_le l)

/-- Completing operators keeps what was read. -/
theorem Pending.reduce (hF : Pending G F xs) (ht : Takes G F zs t) (hl : Parses G l zs t) :
    ∃ ys zs', xs ++ zs = ys ++ zs' ∧ Pending G (reduce l F t).1 ys ∧
      Parses G l zs' (reduce l F t).2 := by
  induction hF generalizing zs t with
  | empty => exact ⟨[], zs, rfl, .empty, hl⟩
  | group hx h => exact ⟨_, zs, rfl, .group hx h, hl⟩
  | @unary x xs F _ op hx h ih =>
    have hatom : Atom G (x :: zs) (.unary op t) := .unary hx ht
    obtain ⟨ys, zs', heq, hpending, hparse⟩ := ih (hatom.takes F) (.atom hatom)
    exact ⟨ys, zs', by simpa using heq, hpending, hparse⟩
  | @binary x xs ys F a op k _ hx hblocked h ha ih =>
    by_cases hk : l ≤ k
    · have hwhole : Parses G k (ys ++ x :: zs) (.binary op a t) := .binary hx (Nat.le_refl k) ha ht
      obtain ⟨ys', zs', heq, hpending, hparse⟩ := ih (hwhole.takes hblocked) (hwhole.mono hk)
      rw [Grammar.reduce, if_pos hk]
      exact ⟨ys', zs', by simpa using heq, hpending, hparse⟩
    · rw [Grammar.reduce, if_neg hk]
      exact ⟨_, zs, rfl, .binary hx hblocked h ha, hl⟩

/-- What a stack was read from. -/
def Stack.From (G : Grammar) (σ : Stack) (xs : List Lexeme) : Prop :=
  match σ.focus with
  | none => Pending G σ.frames xs
  | some t => ∃ ys zs, xs = ys ++ zs ∧ Pending G σ.frames ys ∧ Atom G zs t

theorem Stack.From.reduce (h : Stack.From G ⟨F, some t⟩ xs) (l : Nat) :
    ∃ ys zs, xs = ys ++ zs ∧ Pending G (reduce l F t).1 ys ∧ Parses G l zs (reduce l F t).2 := by
  obtain ⟨ys, zs, rfl, hF, ht⟩ := h
  exact hF.reduce (ht.takes F) (.atom ht)

/-- **One lexeme**: what the machine then holds was read from one lexeme more. -/
theorem Stack.From.step (h : σ.From G xs) (hstep : G.step σ x = some σ') :
    σ'.From G (xs ++ [x]) := by
  obtain ⟨F, focus⟩ := σ
  unfold Grammar.step at hstep
  split at hstep
  case h_1 o hx hfocus =>
    obtain rfl : focus = none := hfocus
    cases hstep
    exact ⟨xs, [x], rfl, h, .operand hx⟩
  case h_2 between op hx hfocus =>
    obtain rfl : focus = none := hfocus
    cases hstep
    exact .unary hx h
  case h_3 hx hfocus =>
    obtain rfl : focus = none := hfocus
    cases hstep
    exact .group hx h
  case h_4 op l before e hx hfocus =>
    obtain rfl : focus = some e := hfocus
    cases hstep
    obtain ⟨ys, zs, rfl, hF, hparse⟩ := h.reduce l
    have hpending : Pending G _ (ys ++ (zs ++ [x])) :=
      .binary hx (blocked_reduce l F e) hF hparse
    simpa [Stack.From] using hpending
  case h_5 e hx hfocus =>
    obtain rfl : focus = some e := hfocus
    obtain ⟨ys, zs, rfl, hF, hparse⟩ := h.reduce 0
    split at hstep
    case h_1 F' inner hred =>
      cases hstep
      simp only [hred] at hF hparse
      cases hF with
      | group hopen hF' => exact ⟨_, _, by simp, hF', .group hopen hx hparse⟩
    case h_2 => cases hstep
  case h_6 => cases hstep

theorem Stack.From.run (h : σ.From G xs) (hrun : G.run σ ys = some σ') :
    σ'.From G (xs ++ ys) := by
  induction ys generalizing σ xs with
  | nil =>
    obtain rfl : σ = σ' := by simpa using hrun
    simpa using h
  | cons y ys ih =>
    rw [run_cons] at hrun
    obtain ⟨τ, hstep, hrest⟩ := Option.bind_eq_some_iff.1 hrun
    simpa using ih (h.step hstep) hrest

theorem parses_of_accept (h : G.accept xs = some e) : Parses G 0 xs e := by
  obtain ⟨σ, hrun, hfinish⟩ := Option.bind_eq_some_iff.1 h
  have hstart : Stack.From G ⟨[], none⟩ [] := Pending.empty
  have hfrom : σ.From G xs := hstart.run hrun
  obtain ⟨F, focus⟩ := σ
  unfold Stack.finish? at hfinish
  split at hfinish
  case h_1 => cases hfinish
  case h_2 t hfocus =>
    obtain rfl : focus = some t := hfocus
    obtain ⟨ys, zs, rfl, hF, hparse⟩ := hfrom.reduce 0
    split at hfinish
    case h_1 whole hred =>
      cases hfinish
      simp only [hred] at hF hparse
      cases hF
      exact hparse
    case h_2 => cases hfinish

/-- Whatever has been read leaves something to complete. -/
theorem eq_nil_of_run (h : G.run ⟨[], none⟩ xs = some ⟨[], none⟩) : xs = [] := by
  have hstart : Stack.From G ⟨[], none⟩ [] := Pending.empty
  have hfrom : Pending G [] xs := hstart.run h
  cases hfrom
  rfl

/-! ### Sentences and parses -/

theorem Sentence.append {xs ys : List Lexeme} {b : BinaryOperator × Nat} (h : Sentence G xs)
    (hx : G x = .operator (some b) before) : Sentence G ys → Sentence G (xs ++ x :: ys)
  | .phrase h' => .chain h hx h'
  | @Sentence.chain _ y zs ws _ _ h₁ hy h₂ => by
    simpa using Sentence.chain (h.append hx h₁) hy h₂

mutual

theorem Atom.phrase {xs : List Lexeme} {e : Term} : Atom G xs e → Phrase G xs
  | .operand hx => .operand hx
  | .unary hx h => .unary hx h.phrase
  | .group hx hy h => .group hx hy h.sentence

theorem Parses.sentence {n : Nat} {xs : List Lexeme} {e : Term} :
    Parses G n xs e → Sentence G xs
  | .atom h => .phrase h.phrase
  | .binary hx _ h h' => h.sentence.append hx h'.sentence

end

/-- **A list is a sentence iff it has a parse.** -/
theorem sentence_iff : Sentence G xs ↔ ∃ e, Parses G 0 xs e := by
  refine ⟨fun h => ?_, fun ⟨_, h⟩ => h.sentence⟩
  obtain ⟨e, he⟩ := accept_of_sentence h
  exact ⟨e, parses_of_accept he⟩

theorem accept_iff : G.accept xs = some e ↔ Parses G 0 xs e :=
  ⟨parses_of_accept, accept_of_parses⟩

end Grammar

end Templating
