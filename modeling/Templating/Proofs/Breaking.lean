import Templating.Proofs.Draining

/-!
# Agreement until one breaks

A source that fails gives the same bytes as one that goes on after them, up to the place where
it fails. Whatever is done with both of them goes the same way, until the first one breaks: what
has been read so far decides what is done so far. Bounds of loops differ, since they count the
bytes that are left, but no loop ends at its bound.

* `Concurs`: two runs of an action agree until the first breaks.
* `Window.Foreruns`: a window whose source fails, beside one whose source goes on.
* `Window.concurs_seekUntil`, `Window.concurs_seekWhile`: searches.
* `Evaluator.concurs_evaluate`: conditions.
* `Operation.concurs_handle`: tokens.
-/

namespace Templating

/-- Outcomes of which the first breaks, in a way of the kind `B`, or which agree. -/
inductive AgreeUntil {ε σ α : Type} (B : ε → Prop) (R : σ → σ → Prop) :
    EStateM.Result ε σ α → EStateM.Result ε σ α → Prop
  | broken {e : ε} {s : σ} {y : EStateM.Result ε σ α} : B e → AgreeUntil B R (.error e s) y
  | ok {a : α} {s t : σ} : R s t → AgreeUntil B R (.ok a s) (.ok a t)
  | error {e : ε} {s t : σ} : R s t → AgreeUntil B R (.error e s) (.error e t)

/-- What follows two outcomes that agree until the first breaks. -/
theorem AgreeUntil.bind {ε σ α β : Type} {B : ε → Prop} {R : σ → σ → Prop} {m n : EStateM ε σ α}
    {f : α → EStateM ε σ β} {s t : σ} (h : AgreeUntil B R (m s) (n t))
    (hf : ∀ a s' t', m s = .ok a s' → R s' t' → AgreeUntil B R (f a s') (f a t')) :
    AgreeUntil B R ((m >>= f) s) ((n >>= f) t) := by
  rw [bind_apply, bind_apply]
  generalize m s = x at h hf ⊢
  generalize n t = y at h ⊢
  cases h with
  | broken hb => exact .broken hb
  | ok hr => exact hf _ _ _ rfl hr
  | error hr => exact .error hr

/-- **Runs from related states agree until the first breaks.** -/
def Concurs {ε σ α : Type} (B : ε → Prop) (R : σ → σ → Prop) (m : EStateM ε σ α) : Prop :=
  ∀ s t, R s t → AgreeUntil B R (m s) (m t)

namespace Concurs

variable {ε σ α β : Type} {B : ε → Prop} {R : σ → σ → Prop} {m : EStateM ε σ α}
  {f : α → EStateM ε σ β}

theorem pure (a : α) : Concurs B R (Pure.pure a : EStateM ε σ α) := fun _ _ hr => .ok hr

theorem throw (e : ε) : Concurs B R (MonadExcept.throw e : EStateM ε σ α) := fun _ _ hr => .error hr

theorem modify {g : σ → σ} (h : ∀ s t, R s t → R (g s) (g t)) :
    Concurs B R (modify g : EStateM ε σ PUnit) :=
  fun s t hr => .ok (h s t hr)

/-- Both go on with a result that the action ensures. -/
theorem bind_of {V : α → Prop} (hm : Concurs B R m)
    (hv : Ensures (fun _ => True) m (fun a _ => V a) (fun _ => True))
    (hf : ∀ a, V a → Concurs B R (f a)) : Concurs B R (m >>= f) := by
  refine fun s t hr => (hm s t hr).bind fun a s' t' hx hr' => hf a ?_ s' t' hr'
  have hresult := hv s trivial
  rwa [hx] at hresult

theorem bind (hm : Concurs B R m) (hf : ∀ a, Concurs B R (f a)) : Concurs B R (m >>= f) :=
  bind_of hm (Ensures.any m) fun a _ => hf a

/-- What is done does not depend on what related states do not share. -/
theorem get_bind {f : σ → EStateM ε σ β} (hsame : ∀ s t, R s t → f s = f t)
    (hf : ∀ s, Concurs B R (f s)) : Concurs B R (get >>= f) := by
  intro s t hr
  show AgreeUntil B R (f s s) (f t t)
  rw [← hsame s t hr]
  exact hf s s t hr

theorem onStream {m : EStateM IoError σ α} (h : Concurs (· = .failed) R m) :
    Concurs (· = .io .failed) R (liftM m : EStateM Error σ α) := by
  intro s t hr
  have hstep := h s t hr
  rw [onStream_apply, onStream_apply]
  generalize m s = x at hstep ⊢
  generalize m t = y at hstep ⊢
  cases hstep with
  | broken hb => exact .broken (congrArg Error.io hb)
  | ok hr' => exact .ok hr'
  | error hr' => exact .error hr'

theorem lift {B : Error → Prop} (x : Except ExpressionError α) :
    Concurs B R (liftM x : EStateM Error σ α) := by
  cases x with
  | ok a => exact pure a
  | error cause => exact throw _

variable {body : α → EStateM ε σ (Turn α β)} {spent : α → β}

/-- Loops with the same bound. -/
theorem loop_same (hbody : ∀ a, Concurs B R (body a)) (bound : Nat) :
    ∀ a, Concurs B R (loop body spent bound a) := by
  induction bound with
  | zero => exact fun a => pure _
  | succ bound ih =>
    intro a
    refine bind (hbody a) fun turn => ?_
    cases turn with
    | again next => exact ih next
    | stop result => exact pure result

/-- Loops with bounds of their own, which exceed a measure that every turn that goes on lowers.
A turn may rely on what the turns before it keep on the first side. -/
theorem loop_of {μ : σ → Nat} {I : α → σ → Prop}
    (hbody : ∀ a s t, I a s → R s t → AgreeUntil B R (body a s) (body a t))
    (hkeeps : ∀ a s next s', I a s → body a s = .ok (.again next) s' → I next s')
    (hspends : ∀ a, Spends μ Turn.GoesOn (body a)) (n : Nat) :
    ∀ n' a s t, μ s < n → μ t < n' → I a s → R s t → AgreeUntil B R
      (Templating.loop body spent n a s) (Templating.loop body spent n' a t) := by
  induction n with
  | zero => intro n' a s t hs; omega
  | succ n ih =>
    intro n' a s t hs ht ha hr
    obtain ⟨n', rfl⟩ : ∃ k, n' = k + 1 := ⟨n' - 1, by omega⟩
    rw [loop_succ, loop_succ]
    have hstep := hbody a s t ha hr
    generalize hx : body a s = x at hstep ⊢
    generalize hy : body a t = y at hstep ⊢
    cases hstep with
    | broken hb => exact .broken hb
    | @ok turn s' t' hr' =>
      cases turn with
      | again next =>
        -- both measures fall, so both bounds still exceed them
        have h₁ := hspends _ _ _ _ hx trivial
        have h₂ := hspends _ _ _ _ hy trivial
        exact ih n' next s' t' (by omega) (by omega) (hkeeps a s next s' ha hx) hr'
      | stop result => exact .ok hr'
    | error hr' => exact .error hr'

/-- **A loop** whose bound counts what is left need not have the same bound on both sides. -/
theorem loop {μ : σ → Nat} {limit : σ → Nat} (hbody : ∀ a, Concurs B R (body a))
    (hspends : ∀ a, Spends μ Turn.GoesOn (body a)) (hlimit : ∀ s, μ s < limit s) (start : α) :
    Concurs B R (get >>= fun s => Templating.loop body spent (limit s) start) :=
  fun s t hr => loop_of (I := fun _ _ => True) (fun a s t _ => hbody a s t)
    (fun _ _ _ _ _ _ => trivial) hspends _ _ start s t (hlimit s) (hlimit t) trivial hr

end Concurs

/-! ## Windows -/

namespace Window

/-- **A window over a source that fails**, of which no end has been seen. -/
structure Doomed (w : Window) : Prop where
  fails : w.source.fails = true
  unended : w.exhausted = false
  room : 0 < w.capacity

variable {w w' : Window}

theorem Doomed.topped (h : w.Doomed) : w.topped.Doomed := by
  obtain ⟨-, -, hfails, hstatus⟩ := w.source.pull_spec (w.capacity - w.length)
  refine ⟨hfails.trans h.fails, ?_, h.room⟩
  simp only [Window.topped, hstatus, h.fails, Source.ending, if_true]
  split <;> rfl

theorem Doomed.of_fill (h : w.Doomed) : (stateOf (fill w)).Doomed := by
  rw [fill_eq]
  split
  · exact h
  · split <;> exact h.topped

/-- **A source that fails never ends.** -/
theorem descends_doomed : Descends (lack Doomed) where
  step _ _ := lack_le_lack.2 fun h => ⟨h.fails, h.unended, h.room⟩
  reserve _ _ := lack_le_lack.2 fun h =>
    ⟨h.fails, h.unended, Nat.lt_of_lt_of_le h.room (Nat.le_max_left _ _)⟩
  refillAhead w := lack_le_lack.2 fun h => by
    show (stateOf (refill w.ahead w)).Doomed
    rw [stateOf_refill]
    exact Doomed.of_fill ⟨h.fails, h.unended, h.room⟩
  renew w := lack_le_lack.2 fun h => by
    show (stateOf (refill .empty w)).Doomed
    rw [stateOf_refill]
    exact Doomed.of_fill ⟨h.fails, h.unended, h.room⟩

/-- The window with as many bytes of its source as it has room for. -/
def filled (w : Window) : Window :=
  { w with
    ahead := w.ahead.append (w.source.unread.bytes.take (w.capacity - w.length))
    source := (w.source.pull (w.capacity - w.length)).source }

/-- A source that has enough fills a window, whether it fails later or not. -/
theorem fill_of_le (hunended : w.exhausted = false)
    (hroom : w.capacity - w.length ≤ w.source.unread.bytes.length) : fill w = .ok () w.filled := by
  obtain ⟨hbytes, -, -, hstatus⟩ := w.source.pull_spec (w.capacity - w.length)
  rw [if_pos hroom] at hstatus
  have htopped : w.topped = w.filled := by
    simp only [topped, filled, hbytes, hstatus, hunended]
    rfl
  rw [fill_eq, hunended, hstatus, htopped]
  rfl

/-- A fill from a source that fails gets all that there is room for, or breaks. -/
theorem Doomed.fill_cases (h : w.Doomed) : (∃ w', fill w = .error .failed w') ∨
    w.capacity - w.length ≤ w.source.unread.bytes.length := by
  obtain ⟨-, -, -, hstatus⟩ := w.source.pull_spec (w.capacity - w.length)
  by_cases hroom : w.capacity - w.length ≤ w.source.unread.bytes.length
  · exact .inr hroom
  · rw [if_neg hroom, h.fails] at hstatus
    refine .inl ⟨w.topped, ?_⟩
    rw [fill_eq, h.unended, hstatus]
    rfl

/-- A window that is full shows something, unless all of it lies behind the cursor. -/
theorem isEmpty_filled (hbehind : w.behind = []) (hcapacity : 0 < w.capacity)
    (hroom : w.capacity - w.length ≤ w.source.unread.bytes.length) :
    w.filled.ahead.isEmpty = false := by
  have hpos : 0 < w.filled.ahead.bytes.length := by
    have hlength : w.length = w.ahead.bytes.length := by
      rw [length, hbehind, List.length_nil, Nat.zero_add, w.ahead.length_eq]
    simp only [filled, Tape.bytes_append, List.length_append, List.length_take_of_le hroom]
    omega
  rw [Tape.isEmpty_eq]
  exact decide_eq_false (List.length_pos_iff.1 hpos)

/-- A refill from a source that fails shows something, or breaks. -/
theorem Doomed.refill_ok (h : w.Doomed) {kept : Tape} {more : Bool}
    (hx : refill kept w = .ok more w') : more = true := by
  have hkept : ({ w with behind := [], ahead := kept } : Window).Doomed :=
    ⟨h.fails, h.unended, h.room⟩
  simp only [refill, bind_apply, modify_apply, get_apply, pure_apply] at hx
  rcases hkept.fill_cases with ⟨w₁, hfill⟩ | hroom
  · rw [hfill] at hx
    cases hx
  · rw [fill_of_le hkept.unended hroom] at hx
    have hshows := isEmpty_filled rfl hkept.room hroom
    cases hx
    rw [hshows]
    rfl

/-- **A window whose source fails, beside one whose source goes on**: all else is the same, and
the second source begins with what is left of the first. -/
inductive Foreruns (w : Window) : Window → Prop
  | mk (source : Source) : w.Doomed → w.source.unread.bytes <+: source.unread.bytes →
      Foreruns w { w with source := source }

theorem Foreruns.doomed {v : Window} (h : Foreruns w v) : w.Doomed := by
  obtain ⟨-, hdoomed, -⟩ := h
  exact hdoomed

theorem Foreruns.step {v : Window} (h : Foreruns w v) (count : Nat) :
    Foreruns (w.step count) (v.step count) := by
  obtain ⟨source, hdoomed, hbegins⟩ := h
  exact .mk source ⟨hdoomed.fails, hdoomed.unended, hdoomed.room⟩ hbegins

theorem Foreruns.reserve {v : Window} (h : Foreruns w v) (size : Nat) :
    Foreruns (w.reserve size) (v.reserve size) := by
  obtain ⟨source, hdoomed, hbegins⟩ := h
  exact .mk source (lack_le_lack.1 (descends_doomed.reserve w size) hdoomed) hbegins

/-- What fills one window from a source that fails later fills the other with the same. -/
theorem Foreruns.filled {v : Window} (h : Foreruns w v)
    (hroom : w.capacity - w.length ≤ w.source.unread.bytes.length) :
    fill v = .ok () v.filled ∧ Foreruns w.filled v.filled := by
  obtain ⟨source, hdoomed, hbegins⟩ := h
  refine ⟨fill_of_le hdoomed.unended (hroom.trans hbegins.length_le), ?_⟩
  obtain ⟨-, hrest, hfails, -⟩ := w.source.pull_spec (w.capacity - w.length)
  obtain ⟨-, hrest', -, -⟩ := source.pull_spec (w.capacity - w.length)
  have hsame : Window.filled { w with source := source } =
      { w.filled with source := (source.pull (w.capacity - w.length)).source } := by
    obtain ⟨more, hmore⟩ := hbegins
    have htake : source.unread.bytes.take (w.capacity - w.length) =
        w.source.unread.bytes.take (w.capacity - w.length) := by
      rw [← hmore, List.take_append_of_le_length hroom]
    exact congrArg (fun bytes => ({ w with
      ahead := w.ahead.append bytes
      source := (source.pull (w.capacity - w.length)).source } : Window)) htake
  rw [hsame]
  refine .mk _ ⟨hfails.trans hdoomed.fails, hdoomed.unended, hdoomed.room⟩ ?_
  show (w.source.pull (w.capacity - w.length)).source.unread.bytes <+: _
  rw [hrest, hrest']
  exact hbegins.drop _

/-! ### Reading more -/

theorem concurs_fill : Concurs (· = .failed) Foreruns fill := by
  intro w v h
  rcases h.doomed.fill_cases with ⟨w', hfill⟩ | hroom
  · rw [hfill]
    exact .broken rfl
  · obtain ⟨hfill, hfilled⟩ := h.filled hroom
    rw [fill_of_le h.doomed.unended hroom, hfill]
    exact .ok hfilled

theorem concurs_refill (kept : Tape) : Concurs (· = .failed) Foreruns (refill kept) := by
  refine Concurs.bind (Concurs.modify ?_) fun _ => concurs_fill.bind fun _ => ?_
  · rintro w _ ⟨source, hdoomed, hbegins⟩
    exact .mk source ⟨hdoomed.fails, hdoomed.unended, hdoomed.room⟩ hbegins
  · refine Concurs.get_bind ?_ fun _ => Concurs.pure _
    rintro w _ ⟨source, -, -⟩
    rfl

theorem concurs_refillAhead : Concurs (· = .failed) Foreruns refillAhead := by
  refine Concurs.get_bind ?_ fun w => concurs_refill w.ahead
  rintro w _ ⟨source, -, -⟩
  rfl

theorem concurs_ensure (needed : Nat) : Concurs (· = .failed) Foreruns (ensure needed) := by
  have hmore : Concurs (· = .failed) Foreruns (do
      modify (·.reserve needed)
      let _ ← refillAhead
      pure ()) :=
    (Concurs.modify fun w v h => h.reserve needed).bind fun _ =>
      concurs_refillAhead.bind fun _ => Concurs.pure _
  rintro w v h
  have hmore' := hmore w v h
  obtain ⟨source, hdoomed, hbegins⟩ := h
  simp only [ensure, bind_apply, get_apply, if_apply]
  show AgreeUntil _ _ _ (if (w.holds needed || w.exhausted) = true then _ else _)
  split
  · exact .ok (.mk source hdoomed hbegins)
  · exact hmore'

theorem concurs_peekToken (table : TokenTable) :
    Concurs (· = .failed) Foreruns (peekToken table) := by
  refine (concurs_ensure _).bind fun _ => Concurs.get_bind ?_ fun _ => Concurs.pure _
  rintro w _ ⟨source, -, -⟩
  rfl

theorem concurs_peekByte (offset : Nat) : Concurs (· = .failed) Foreruns (peekByte offset) := by
  refine (concurs_ensure _).bind fun _ => Concurs.get_bind ?_ fun _ => Concurs.pure _
  rintro w _ ⟨source, -, -⟩
  rfl

/-! ### Moving on -/

theorem concurs_advance (count : Nat) : Concurs (· = .failed) Foreruns (advance count) := by
  refine Concurs.loop_same (fun count => ?_) _ _
  have hturn : ∀ covered, Concurs (· = .failed) Foreruns (do
      modify (·.step covered)
      if count = covered then pure (.stop ())
      else if ← refillAhead then pure (.again (count - covered))
      else pure (.stop ()) : EStateM IoError Window (Turn Nat Unit)) := by
    intro covered
    refine (Concurs.modify fun w v h => h.step covered).bind fun _ => ?_
    split
    · exact Concurs.pure _
    · refine concurs_refillAhead.bind fun more => ?_
      split <;> exact Concurs.pure _
  rintro w _ ⟨source, hdoomed, hbegins⟩
  exact hturn (min count w.ahead.length) w _ (.mk source hdoomed hbegins)

variable {table : TokenTable}

theorem concurs_seekTurn (consume : Bool) (u : Unit) :
    Concurs (· = .failed) Foreruns (seekTurn table consume u) := by
  refine (concurs_ensure _).bind fun _ => ?_
  rintro w _ ⟨source, hdoomed, hbegins⟩
  have hrenew : Concurs (· = .failed) Foreruns (do
      if ← renew then pure (.again ()) else pure (.stop none) :
        EStateM IoError Window (Turn Unit (Option Nat))) := by
    refine (concurs_refill .empty).bind fun more => ?_
    split <;> exact Concurs.pure _
  have hforeruns : Foreruns w { w with source := source } := .mk source hdoomed hbegins
  simp only [bind_apply, get_apply, if_apply]
  split
  · simpa only [bind_apply, if_apply] using hrenew _ _ hforeruns
  · cases table.match? w.ahead.bytes with
    | some found =>
      cases consume with
      | true => exact .ok (hforeruns.step _)
      | false => exact .ok hforeruns
    | none => exact .ok (hforeruns.step 1)

/-- **Searches agree**: what a search finds it finds in what both sources give. -/
theorem concurs_seekUntil (consume : Bool) :
    Concurs (· = .failed) Foreruns (seekUntil table consume) :=
  Concurs.loop (concurs_seekTurn consume) (spends_seekTurn_search consume) searches_lt ()

theorem concurs_seekWhile (ht : table.Lawful) :
    Concurs (· = .failed) Foreruns (seekWhile table) := by
  refine Concurs.loop (fun u => ?_) (spends_skipTurn ht) (fun w => Nat.lt_succ_self _) ()
  refine (concurs_peekToken table).bind fun found => ?_
  cases found with
  | none => exact Concurs.pure _
  | some found => exact (Concurs.modify fun w v h => h.step _).bind fun _ => Concurs.pure _

end Window

/-! ## Reading a condition -/

section Reading

open Window (Foreruns)

theorem Scanner.concurs_peekBytes (count : Nat) : ∀ offset : Nat,
    Concurs (· = .io .failed) Foreruns (Scanner.peekBytes offset count) := by
  induction count with
  | zero => exact fun _ => Concurs.pure _
  | succ count ih =>
    intro offset
    refine (Window.concurs_peekByte offset).onStream.bind fun byte => ?_
    cases byte with
    | none => exact Concurs.pure _
    | some b => exact (ih (offset + 1)).bind fun _ => Concurs.pure _

theorem Scanner.concurs_take (count : Nat) :
    Concurs (· = .io .failed) Foreruns (Scanner.take count) :=
  (Scanner.concurs_peekBytes count 0).bind fun bytes =>
    (Window.concurs_advance bytes.length).onStream.bind fun _ => Concurs.pure _

namespace Lexicon

variable {lex : Lexicon}

theorem concurs_quotedUnit (text : Bytes) :
    Concurs (· = .io .failed) Foreruns (lex.quotedUnit text) := by
  refine (Scanner.concurs_take _).bind fun unit => ?_
  split <;> exact Concurs.pure _

theorem concurs_quotedTurn (quote : Nat) (text : Bytes) :
    Concurs (· = .io .failed) Foreruns (lex.quotedTurn quote text) := by
  refine (Window.concurs_peekToken lex.table).onStream.bind fun found => ?_
  cases found with
  | none => exact concurs_quotedUnit text
  | some found =>
    simp only
    split
    · exact (Window.concurs_advance _).onStream.bind fun _ => Concurs.pure _
    · split
      · exact Concurs.pure _
      · exact concurs_quotedUnit text

theorem concurs_readQuoted (ht : lex.table.Lawful) (quote : Nat) :
    Concurs (· = .io .failed) Foreruns (lex.readQuoted quote) := by
  refine Concurs.bind (Concurs.loop (concurs_quotedTurn quote)
    (lex.spends_quotedTurn_window ht quote) (fun w => Nat.lt_succ_self _) []) fun read => ?_
  simp only
  split
  · exact Concurs.pure _
  · exact Concurs.throw _

theorem concurs_wholeWord (p : Progress) (length : Nat) :
    Concurs (· = .io .failed) Foreruns (lex.wholeWord p length) := by
  unfold wholeWord
  split
  · exact ((Scanner.concurs_peekBytes _ length).bind fun _ => Concurs.pure _).bind
      fun _ => Concurs.pure _
  · exact Concurs.pure _

theorem concurs_turn (ht : lex.table.Lawful) (p : Progress) :
    Concurs (· = .io .failed) Foreruns (lex.turn p) := by
  refine (Window.concurs_peekToken lex.table).onStream.bind fun found => ?_
  cases found with
  | none =>
    refine (Scanner.concurs_take _).bind fun unit => ?_
    split <;> exact Concurs.pure _
  | some found =>
    have hadvance : ∀ next : Turn Progress Progress, Concurs (· = .io .failed) Foreruns
        (do Scanner.advance found.2; pure next : EStateM Error Window _) :=
      fun _ => (Window.concurs_advance _).onStream.bind fun _ => Concurs.pure _
    simp only
    cases lex.classify found.1 with
    | terminator => exact hadvance _
    | reference slot =>
      refine (concurs_wholeWord p found.2).bind fun whole => ?_
      cases whole with
      | true => exact hadvance _
      | false => exact (Scanner.concurs_take _).bind fun _ => Concurs.pure _
    | symbol index role =>
      cases role with
      | lineEnd => exact Concurs.pure _
      | separator => exact hadvance _
      | operator => exact hadvance _
      | quote =>
        exact (Window.concurs_advance _).onStream.bind fun _ =>
          (concurs_readQuoted ht index).bind fun _ => Concurs.pure _

/-- **Lexemes agree.** -/
theorem concurs_tokenize (ht : lex.table.Lawful) :
    Concurs (· = .io .failed) Foreruns (lex.tokenize : EStateM Error Window _) :=
  (Concurs.loop (concurs_turn ht) (lex.spends_turn_window ht)
    (fun _ => Nat.lt_succ_self _) _).bind fun _ => Concurs.pure _

end Lexicon

/-- **Conditions agree**, in what is read and in how they are decided. -/
theorem Evaluator.concurs_evaluate (e : Evaluator) (ht : e.lexicon.table.Lawful) :
    Concurs (· = .io .failed) Foreruns (e.evaluate : EStateM Error Window Bool) :=
  (Lexicon.concurs_tokenize ht).bind fun _ => Concurs.lift _

end Reading

/-! ## Sessions -/

namespace Session

variable {τ α : Type}

/-- Sessions over a source that fails and over one that goes on, with one target. -/
abbrev Foreruns (s t : Session τ) : Prop := Alike Window.Foreruns Eq s t

theorem concurs_scan {m : EStateM Error Window α}
    (h : Concurs (· = .io .failed) Window.Foreruns m) :
    Concurs (· = .io .failed) (Foreruns (τ := τ)) (scan m) := by
  rintro ⟨w, t⟩ ⟨v, t'⟩ ⟨hw, ht⟩
  obtain rfl : t = t' := ht
  have hstep := h w v hw
  rw [scan_apply, scan_apply]
  simp only
  generalize m w = x at hstep ⊢
  generalize m v = y at hstep ⊢
  cases hstep with
  | broken hb => exact .broken hb
  | ok hw' => exact .ok ⟨hw', rfl⟩
  | error hw' => exact .error ⟨hw', rfl⟩

theorem concurs_onWindow {m : EStateM IoError Window α}
    (h : Concurs (· = .failed) Window.Foreruns m) :
    Concurs (· = .io .failed) (Foreruns (τ := τ)) (onWindow m) :=
  concurs_scan h.onStream

/-- What is done with the target is done with the same one. -/
theorem concurs_onTarget (m : EStateM IoError τ α) :
    Concurs (· = .io .failed) Foreruns (onTarget m) := by
  rintro ⟨w, t⟩ ⟨v, t'⟩ ⟨hw, ht⟩
  obtain rfl : t = t' := ht
  rw [onTarget_apply, onTarget_apply]
  simp only
  cases m t with
  | ok a t' => exact .ok ⟨hw, rfl⟩
  | error e t' => exact .error ⟨hw, rfl⟩

theorem concurs_write [Target τ] (bytes : Bytes) :
    Concurs (· = .io .failed) (Foreruns (τ := τ)) (write bytes) :=
  (concurs_onTarget _).bind fun _ => Concurs.pure _

end Session

namespace WhitespacePolicy

variable {τ : Type} [Target τ] (policy : WhitespacePolicy) {ctx : Context}

theorem concurs_before : Concurs (· = .io .failed) (Session.Foreruns (τ := τ))
    (policy.before ctx) := by
  cases policy with
  | keep => exact Concurs.pure _
  | wholeLine => exact Session.concurs_onTarget _
  | trim => exact Session.concurs_onTarget _

omit [Target τ] in
theorem concurs_after (hg : ctx.glossary.Made) :
    Concurs (· = .io .failed) (Session.Foreruns (τ := τ)) (policy.after ctx) := by
  cases policy with
  | keep => exact Concurs.pure _
  | wholeLine =>
    exact Session.concurs_onWindow ((Window.concurs_seekUntil true).bind fun _ => Concurs.pure _)
  | trim =>
    obtain ⟨e, v, format, hmade⟩ := hg
    have hlawful : ctx.glossary.blanks.Lawful := hmade ▸ TokenTable.lawful_ofList _
    exact Session.concurs_onWindow (Window.concurs_seekWhile hlawful)

end WhitespacePolicy

/-! ## Operations -/

namespace Conditional

variable {τ : Type} {ctx : Context} {c : Conditional}
  (hg : ctx.glossary.Made) (hc : (Operation.conditional c).Ready)

section

include hc

theorem concurs_skip (sought : Sought) :
    Concurs (· = .failed) Window.Foreruns (c.skip sought) := by
  refine Concurs.loop (fun depth => ?_) (fun depth => ?_) (fun w => Nat.lt_succ_self _) 0
  · rw [skipTurn_eq]
    exact (Window.concurs_seekUntil true).bind fun _ => Concurs.pure _
  · exact (spends_skipTurn hc.1 depth).weaken (by rintro _ hturn rfl; exact hturn)

theorem concurs_resume (sought : Sought) (blocks : List Bool) :
    Concurs (· = .io .failed) (Session.Foreruns (τ := τ)) (c.resume sought blocks) := by
  rw [resume_eq]
  refine (Session.concurs_onWindow (concurs_skip hc sought)).bind fun marker => ?_
  cases marker with
  | some marker => exact Concurs.pure _
  | none =>
    simp only [resumed]
    cases c.unterminated blocks with
    | ok closed => exact Concurs.pure _
    | error cause => exact Concurs.throw _

include hg

theorem concurs_decideBranch (blocks : List Bool) :
    Concurs (· = .io .failed) (Session.Foreruns (τ := τ)) (c.decideBranch ctx blocks) := by
  refine (Session.concurs_scan (c.evaluator.concurs_evaluate hc.2)).bind fun holds => ?_
  refine (c.whitespace.concurs_after hg).bind fun _ => ?_
  cases holds with
  | true => exact Concurs.pure _
  | false => exact concurs_resume hc .branch blocks

omit hc in
theorem concurs_orphan (marker : Marker) (blocks : List Bool) :
    Concurs (· = .io .failed) (Session.Foreruns (τ := τ)) (c.orphan ctx marker blocks) := by
  unfold orphan
  split
  · exact Concurs.throw _
  · exact (c.whitespace.concurs_after hg).bind fun _ => Concurs.pure _

variable [Target τ]

theorem concurs_turn (at? : Marker × List Bool) :
    Concurs (· = .io .failed) (Session.Foreruns (τ := τ)) (c.turn ctx at?) := by
  rw [turn_eq]
  refine c.whitespace.concurs_before.bind fun _ => ?_
  cases course at?.1 at?.2 with
  | branch blocks => exact concurs_decideBranch hg hc blocks
  | leaveOut blocks => exact concurs_resume hc .block blocks
  | passOn blocks => exact (c.whitespace.concurs_after hg).bind fun _ => Concurs.pure _
  | orphan marker => exact concurs_orphan hg marker []

theorem concurs_handle (token : Nat) :
    Concurs (· = .io .failed) (Session.Foreruns (τ := τ)) (c.handle ctx token) := by
  unfold handle
  cases c.marker? token with
  | none => exact Concurs.pure _
  | some marker =>
    exact (Concurs.loop (concurs_turn hg hc) (c.spends_turn ctx hc.1)
      (fun σ => Nat.lt_succ_self _) _).bind fun _ => Concurs.pure _

end

end Conditional

theorem Region.concurs_handle {τ : Type} [Target τ] {ctx : Context} {r : Region}
    (hg : ctx.glossary.Made) (hr : (Operation.region r).Ready) (token : Nat) :
    Concurs (· = .io .failed) (Session.Foreruns (τ := τ)) (r.handle ctx token) := by
  have hskip : Concurs (· = .failed) Window.Foreruns r.skip := by
    refine Concurs.loop (fun depth => ?_) (r.spends_skipTurn hr) (fun w => Nat.lt_succ_self _) 0
    rw [skipTurn_eq]
    exact (Window.concurs_seekUntil true).bind fun _ => Concurs.pure _
  have hleave : Concurs (· = .failed) Window.Foreruns (r.leaveOut token) := by
    unfold leaveOut
    split
    · exact hskip
    · exact Concurs.pure _
  rw [handle_eq]
  refine r.whitespace.concurs_before.bind fun _ => ?_
  refine (Session.concurs_onWindow hleave).bind fun _ => ?_
  exact (r.whitespace.concurs_after hg).bind fun _ => Concurs.pure _

/-- **Handling a token** goes the same way on both sides, until the first source breaks. -/
theorem Operation.concurs_handle {τ : Type} [Target τ] {ctx : Context} {o : Operation}
    (hg : ctx.glossary.Made) (ho : o.Ready) (token : Nat) :
    Concurs (· = .io .failed) (Session.Foreruns (τ := τ)) (o.handle ctx token) := by
  cases o with
  | conditional c => exact (Conditional.concurs_handle hg ho token).bind fun _ => Concurs.pure _
  | region r => exact (r.concurs_handle hg ho token).bind fun _ => Concurs.pure _
  | replacement r => exact (Session.concurs_write _).bind fun _ => Concurs.pure _
  | expansion names =>
    refine Concurs.bind ?_ fun _ => Concurs.pure _
    simp only [expandVariable]
    split
    · exact Concurs.pure _
    · exact Session.concurs_write _

end Templating
