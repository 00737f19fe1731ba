import Templating.Proofs.FailingSource
import Templating.Proofs.Journal

/-!
# Byte-order marks

A run copies the byte-order mark of its source like any other text: nothing is written at its
start, the mark waits behind the cursor to be written, and a token that is handled before that
would cut an output in which it is not. The two never meet. What waits is written before a token is
handled and before the window is filled again, and from then on no cut goes below the mark.

* `Session.Spares`: an action that leaves the mark in the output.
* `Operation.spares_handle`: no operation takes it away.
* `RunState.Carries`: before every turn the mark has been written, or comes next.
* `RunPlan.couples_turn`, `RunPlan.couples_drive`: a turn keeps this, and a run ends with the mark
  in the output.
* `Processor.run_keeps_mark`: **the mark is never lost**, from the first write to the end of a run.
-/

namespace Templating

namespace Encoding

/-- What a mark tells the encoding of begins with that mark. -/
theorem take_mark {bytes : Bytes} {e : Encoding} (h : detect bytes = (e, e.mark.length)) :
    bytes.take e.mark.length = e.mark := by
  unfold detect at h
  split at h
  · rename_i found hfound
    obtain rfl : found = e := congrArg Prod.fst h
    have hbegins : found.mark.isPrefixOf bytes = true :=
      List.find?_some (p := fun e : Encoding => e.mark.isPrefixOf bytes) hfound
    exact (List.prefix_iff_eq_take.1 (List.isPrefixOf_iff_prefix.1 hbegins)).symm
  · -- without a mark the encoding is told by nothing
    cases e <;> cases h

end Encoding

namespace Window

variable {capacity : Nat} {source : Source} {w : Window}

/-- The first window shows the beginning of its source, which may fail later. -/
theorem first_ok (h : first capacity source = .ok w) :
    w.behind = [] ∧ w.ahead.bytes = source.unread.bytes.take (max capacity leastCapacity) := by
  simp only [first, EStateM.run, fill_eq, Bool.false_eq_true, if_false] at h
  split at h
  · rename_i hfill
    split at hfill
    · cases hfill
    · cases hfill
      cases h
      refine ⟨rfl, ?_⟩
      simp only [topped, Tape.bytes_append, (Source.pull_spec _ _).1]
      rfl
  · cases h

/-- The window after the mark has it behind. -/
theorem enter_ok {e : Encoding} {n : Nat} (h : enter capacity source = .ok (w, e, n)) :
    Encoding.detect source.unread.bytes = (e, n) ∧
      w.behind.reverse = source.unread.bytes.take n := by
  unfold enter at h
  obtain ⟨first, hfirst, hentered⟩ := bind_eq_ok.1 h
  obtain ⟨hbehind, hahead⟩ := first_ok hfirst
  have hroom : leastCapacity ≤ max capacity leastCapacity := le_max_right _ _
  have hdetect : Encoding.detect first.ahead.bytes = Encoding.detect source.unread.bytes := by
    rw [hahead, Encoding.detect_take _ hroom]
  have hlength := Encoding.detect_le first.ahead.bytes
  have hshown : first.ahead.bytes.length ≤ max capacity leastCapacity := by
    rw [hahead]
    exact List.length_take_le _ _
  generalize Encoding.detect first.ahead.bytes = found at hentered hdetect hlength
  cases hentered
  refine ⟨hdetect.symm, ?_⟩
  simp only [step, hbehind, List.append_nil, List.reverse_reverse, Tape.take]
  rw [hahead, List.take_take, Nat.min_eq_left (hlength.trans hshown)]

end Window

/-! ### Sessions -/

namespace Session

variable {τ α β : Type} {view : Target.View τ} {mark : Bytes}

/-- **A session over a journal beside the same one over its target**, of which all changes have
spared the mark. -/
abbrev Watched (view : Target.View τ) (mark : Bytes) (P : τ → Prop) :
    Session (Journal τ) → Session τ → Prop :=
  Alike Eq (Journal.Beside view mark P)

theorem Watched.mono {P P' : τ → Prop} {σ : Session (Journal τ)} {σ' : Session τ}
    (h : Watched view mark P σ σ') (hP : ∀ t, P t → P' t) : Watched view mark P' σ σ' :=
  ⟨h.1, h.2.mono (hP _)⟩

/-- What is done to the window only is done to both windows. -/
theorem watched_scan (P : τ → Prop) (m : EStateM Error Window α) :
    Couples (Watched view mark P) (Watched view mark fun _ => True) (scan m) (scan m)
      fun x y σ σ' => x = y ∧ Watched view mark P σ σ' := by
  rintro ⟨w, j⟩ ⟨_, t⟩ ⟨rfl, hbeside⟩
  rw [scan_apply, scan_apply]
  cases m w with
  | ok a w' => exact .ok ⟨rfl, rfl, hbeside⟩
  | error e w' => exact .error ⟨rfl, hbeside.mono fun _ => trivial⟩

theorem watched_onTarget {P Q : τ → Prop} {m : EStateM IoError (Journal τ) Unit}
    {n : EStateM IoError τ Unit}
    (h : Couples (Journal.Beside view mark P) (Journal.Beside view mark fun _ => True) m n
      fun _ _ => Journal.Beside view mark Q) :
    Couples (Watched view mark P) (Watched view mark fun _ => True) (onTarget m) (onTarget n)
      fun x y σ σ' => x = y ∧ Watched view mark Q σ σ' := by
  rintro ⟨w, j⟩ ⟨_, t⟩ ⟨rfl, hbeside⟩
  have hstep := h j t hbeside
  rw [onTarget_apply, onTarget_apply]
  dsimp only
  generalize m j = x at hstep ⊢
  generalize n t = y at hstep ⊢
  cases hstep with
  | ok hq => exact .ok ⟨rfl, rfl, hq⟩
  | error he => exact .error ⟨rfl, he⟩

/-- **An action that leaves the mark in the output**, over a journal and over its target. -/
abbrev Spares (view : Target.View τ) (mark : Bytes) (m : EStateM Error (Session (Journal τ)) α)
    (n : EStateM Error (Session τ) α) : Prop :=
  Couples (Watched view mark (view.Begins mark)) (Watched view mark fun _ => True) m n
    fun x y σ σ' => x = y ∧ Watched view mark (view.Begins mark) σ σ'

namespace Spares

theorem pure (a : α) : Spares view mark (Pure.pure a) (Pure.pure a) :=
  Couples.pure fun _ _ h => ⟨rfl, h⟩

theorem throw (e : Error) :
    Spares view mark (MonadExcept.throw e : EStateM Error (Session (Journal τ)) α)
      (MonadExcept.throw e : EStateM Error (Session τ) α) :=
  Couples.throw fun _ _ h => h.mono fun _ _ => trivial

theorem bind {m : EStateM Error (Session (Journal τ)) α} {n : EStateM Error (Session τ) α}
    {f : α → EStateM Error (Session (Journal τ)) β} {g : α → EStateM Error (Session τ) β}
    (hm : Spares view mark m n) (hf : ∀ a, Spares view mark (f a) (g a)) :
    Spares view mark (m >>= f) (n >>= g) :=
  Couples.bind_same hm hf

theorem scan (m : EStateM Error Window α) :
    Spares view mark (Session.scan m) (Session.scan m) :=
  watched_scan _ m

theorem loop {body : α → EStateM Error (Session (Journal τ)) (Turn α β)}
    {body' : α → EStateM Error (Session τ) (Turn α β)} {spent : α → β}
    (hbody : ∀ a, Spares view mark (body a) (body' a)) (bound : Nat) (a : α) :
    Spares view mark (Templating.loop body spent bound a)
      (Templating.loop body' spent bound a) := by
  refine Couples.loop (I := fun _ => Watched view mark (view.Begins mark))
    (S := fun _ => Watched view mark (view.Begins mark)) (fun a => ?_) (fun _ _ _ h => h) bound a
  refine (hbody a).mono (fun _ _ h => h) ?_
  rintro turn _ σ σ' ⟨rfl, h⟩
  cases turn <;> exact ⟨rfl, h⟩

end Spares

/-- Flushing moves nothing in the window. -/
theorem watched_flush [Target τ] {P : τ → Prop} (w : Window)
    (hP : Ensures P Target.flush (fun _ => P) fun _ => True) :
    Couples (fun σ σ' => σ.window = w ∧ Watched view mark P σ σ') (Watched view mark fun _ => True)
      flush flush fun x y σ σ' => x = y ∧ σ.window = w ∧ Watched view mark P σ σ' := by
  rintro ⟨_, j⟩ ⟨_, t⟩ ⟨rfl, rfl, hbeside⟩
  have hstep := Journal.couples_silently hP j t hbeside
  rw [flush, flush, onTarget_apply, onTarget_apply]
  dsimp only
  generalize (Target.flush : EStateM IoError τ Unit) t = y at hstep ⊢
  generalize hx : (Target.flush : EStateM IoError (Journal τ) Unit) j = x
  rw [show Journal.silently Target.flush j = x from hx] at hstep
  cases hstep with
  | ok hq => exact .ok ⟨rfl, rfl, rfl, hq.2⟩
  | error he => exact .error ⟨rfl, he⟩

variable [Target τ] (hview : view.Faithful)

include hview

/-- A write after which the output begins with the mark. -/
theorem watched_write {b bytes : Bytes} (hmark : mark <+: b ++ bytes) :
    Couples (Watched view mark (view.Holds b)) (Watched view mark fun _ => True)
      (write bytes) (write bytes)
      fun x y σ σ' => x = y ∧ Watched view mark (view.Begins mark) σ σ' :=
  (watched_onTarget (Journal.couples_write hview hmark)).bind_same fun _ => Spares.pure _

theorem spares_write (bytes : Bytes) : Spares view mark (write bytes) (write bytes) := by
  rintro σ σ' ⟨hwindow, htarget, hkeeps, b, hmark, hholds⟩
  have hgrown : mark <+: b ++ bytes := hmark.trans (List.prefix_append b bytes)
  exact watched_write hview hgrown σ σ' ⟨hwindow, htarget, hkeeps, hholds⟩

theorem spares_flush : Spares view mark flush flush := by
  have hkeeps : Ensures (view.Begins mark) Target.flush (fun _ => view.Begins mark)
      fun _ => True := by
    rintro t ⟨b, hmark, hholds⟩
    exact (hview.flush b).weaken (fun _ h => h) (fun _ _ h => ⟨b, hmark, h⟩) (fun _ h => h) t hholds
  rintro σ σ' h
  exact (watched_flush σ.window hkeeps).mono (fun _ _ h => h) (fun _ _ _ _ h => ⟨h.1, h.2.2⟩)
    σ σ' ⟨rfl, h⟩

end Session

/-! ### Operations -/

section Handling

variable {τ : Type} [Target τ] {view : Target.View τ} {mark : Bytes} {ctx : Context}

namespace WhitespacePolicy

/-- **Output before a marker** is removed down to the mark at most. -/
theorem spares_before (hview : view.Faithful) (hfloor : mark.length = ctx.floor)
    (policy : WhitespacePolicy) :
    Session.Spares view mark (policy.before ctx) (policy.before ctx) := by
  cases policy with
  | keep => exact .pure ()
  | wholeLine =>
    exact Session.watched_onTarget (Target.couples_cutBackTo hview hfloor false)
  | trim => exact Session.watched_onTarget (Target.couples_cutTrailing hview hfloor)

omit [Target τ] in
theorem spares_after (policy : WhitespacePolicy) :
    Session.Spares view mark (policy.after ctx) (policy.after ctx) := by
  cases policy with
  | keep => exact .pure ()
  | wholeLine => exact .scan _
  | trim => exact .scan _

end WhitespacePolicy

namespace Conditional

variable (c : Conditional)

omit [Target τ] in
theorem spares_resume (sought : Sought) (blocks : List Bool) :
    Session.Spares view mark (c.resume sought blocks) (c.resume sought blocks) := by
  rw [resume_eq, resume_eq]
  refine .bind (.scan _) fun marker => ?_
  cases marker with
  | some marker => exact .pure _
  | none =>
    simp only [resumed]
    cases c.unterminated blocks with
    | ok closed => exact .pure _
    | error cause => exact .throw _

omit [Target τ] in
theorem spares_decideBranch (blocks : List Bool) :
    Session.Spares view mark (c.decideBranch ctx blocks) (c.decideBranch ctx blocks) := by
  refine .bind (.scan _) fun holds => ?_
  refine .bind c.whitespace.spares_after fun _ => ?_
  cases holds with
  | true => exact .pure _
  | false => exact c.spares_resume .branch blocks

omit [Target τ] in
theorem spares_orphan (marker : Marker) (blocks : List Bool) :
    Session.Spares view mark (c.orphan ctx marker blocks) (c.orphan ctx marker blocks) := by
  unfold orphan
  split
  · exact .throw _
  · exact .bind c.whitespace.spares_after fun _ => .pure _

theorem spares_turn (hview : view.Faithful) (hfloor : mark.length = ctx.floor)
    (at? : Marker × List Bool) :
    Session.Spares view mark (c.turn ctx at?) (c.turn ctx at?) := by
  rw [turn_eq, turn_eq]
  refine .bind (c.whitespace.spares_before hview hfloor) fun _ => ?_
  cases course at?.1 at?.2 with
  | branch blocks => exact c.spares_decideBranch blocks
  | leaveOut blocks => exact c.spares_resume .block blocks
  | passOn blocks => exact .bind c.whitespace.spares_after fun _ => .pure _
  | orphan marker => exact c.spares_orphan marker []

theorem spares_handle (hview : view.Faithful) (hfloor : mark.length = ctx.floor) (token : Nat) :
    Session.Spares view mark (c.handle ctx token) (c.handle ctx token) := by
  unfold handle
  cases c.marker? token with
  | none => exact .pure _
  | some marker =>
    refine .bind ?_ fun _ => .pure _
    -- both loops have the window that is left as their bound
    rintro ⟨w, j⟩ ⟨_, t⟩ ⟨rfl, hbeside⟩
    exact Session.Spares.loop (c.spares_turn hview hfloor) _ _ _ _ ⟨rfl, hbeside⟩

end Conditional

theorem Region.spares_handle (hview : view.Faithful) (hfloor : mark.length = ctx.floor)
    (r : Region) (token : Nat) :
    Session.Spares view mark (r.handle ctx token) (r.handle ctx token) := by
  rw [handle_eq, handle_eq]
  refine .bind (r.whitespace.spares_before hview hfloor) fun _ => .bind (.scan _) fun _ => ?_
  exact .bind r.whitespace.spares_after fun _ => .pure _

/-- **No operation takes the mark away**, whichever its token and wherever it is handled. -/
theorem Operation.spares_handle (hview : view.Faithful) (hfloor : mark.length = ctx.floor)
    (token : Nat) (o : Operation) :
    Session.Spares view mark (o.handle ctx token) (o.handle ctx token) := by
  cases o with
  | conditional c => exact .bind (c.spares_handle hview hfloor token) fun _ => .pure _
  | region r => exact .bind (r.spares_handle hview hfloor token) fun _ => .pure _
  | replacement r => exact .bind (Session.spares_write hview _) fun _ => .pure _
  | expansion names =>
    refine .bind ?_ fun _ => .pure _
    simp only [expandVariable]
    split
    · exact .pure _
    · exact Session.spares_write hview _

end Handling

/-! ### Turns -/

/-- **What a run has before a turn**: an output with the mark, or none yet. Then the mark stands at
the start of the window, and all that is behind the cursor is still to be written. -/
inductive RunState.Carries {τ : Type} (view : Target.View τ) (mark : Bytes) (r : RunState)
    (σ : Session (Journal τ)) (σ' : Session τ) : Prop
  | written : Session.Watched view mark (view.Begins mark) σ σ' → Carries view mark r σ σ'
  | pending : Session.Watched view mark (view.Holds []) σ σ' →
      σ.window.behind.length ≤ r.pending → mark <+: σ.window.behind.reverse →
      Carries view mark r σ σ'

namespace RunState.Carries

variable {τ : Type} {view : Target.View τ} {mark : Bytes} {r : RunState} {σ : Session (Journal τ)}
  {σ' : Session τ}

theorem window (h : r.Carries view mark σ σ') : σ.window = σ'.window := by
  cases h with
  | written h => exact h.1
  | pending h => exact h.1

/-- What has been passed without a token is behind the cursor, and waits there. -/
theorem step {w : Window} {j : Journal τ} {t : τ} (h : r.Carries view mark ⟨w, j⟩ ⟨w, t⟩)
    (count : Nat) : ({ r with pending := r.pending + count } : RunState).Carries view mark
      ⟨w.step count, j⟩ ⟨w.step count, t⟩ := by
  cases h with
  | written h => exact .written ⟨rfl, h.2⟩
  | pending h hbehind hmark =>
    refine .pending ⟨rfl, h.2⟩ ?_ ?_
    · have hpassed : (w.ahead.take count).length ≤ count := List.length_take_le _ _
      have hbehind : w.behind.length ≤ r.pending := hbehind
      simp only [Window.step, List.length_append, List.length_reverse]
      omega
    · simp only [Window.step, List.reverse_append, List.reverse_reverse]
      exact hmark.trans (List.prefix_append _ _)

end RunState.Carries

namespace RunPlan

open Session (Watched Spares)

variable {τ : Type} [Target τ] {view : Target.View τ} {mark : Bytes} {p : RunPlan}
  (hview : view.Faithful)

section

include hview

/-- **Writing what is pending** brings the mark into the output, if it is not there yet. -/
theorem couples_writePending (r : RunState) :
    Couples (r.Carries view mark) (Watched view mark fun _ => True)
      (writePending r) (writePending r)
      fun x y σ σ' => x = y ∧ Watched view mark (view.Begins mark) σ σ' := by
  refine Couples.bind_same (Q := fun _ => Watched view mark (view.Begins mark)) ?_
    fun _ => Spares.pure _
  rintro ⟨w, j⟩ ⟨w', t⟩ h
  obtain rfl : w = w' := h.window
  simp only [Session.writeBehind, bind_apply, get_apply, if_apply]
  cases h with
  | written h =>
    by_cases hnone : r.pending = 0
    · simp only [if_pos hnone]
      exact .ok ⟨rfl, h⟩
    · simp only [if_neg hnone]
      exact Session.spares_write hview _ _ _ h
  | pending h hbehind hmark =>
    have hbehind : w.behind.length ≤ r.pending := hbehind
    by_cases hnone : r.pending = 0
    · -- nothing has been read, so the mark is empty
      have hnil : w.behind = [] := List.eq_nil_of_length_eq_zero (by omega)
      simp only [if_pos hnone]
      refine .ok ⟨rfl, h.mono fun t hholds => ⟨[], ?_, hholds⟩⟩
      simpa [hnil] using hmark
    · have hfirst : mark <+: [] ++ (w.behind.take r.pending).reverse := by
        rw [List.nil_append, List.take_of_length_le hbehind]
        exact hmark
      simp only [if_neg hnone]
      exact Session.watched_write hview hfirst _ _ h

theorem couples_lookAhead (r : RunState) :
    Couples (r.Carries view mark) (Watched view mark fun _ => True)
      (p.lookAhead r) (p.lookAhead r)
      fun x y σ σ' => x = y ∧ x.1.Carries view mark σ σ' ∧
        (x.2 = false → Watched view mark (view.Begins mark) σ σ') := by
  rintro ⟨w, j⟩ ⟨w', t⟩ h
  obtain rfl : w = w' := h.window
  simp only [lookAhead, bind_apply, get_apply, if_apply]
  split
  · refine (couples_writePending hview r).bind_same (fun r => ?_) _ _ h
    refine Couples.bind_same (Spares.scan _) fun more => ?_
    exact Couples.pure fun _ _ hwritten => ⟨rfl, .written hwritten, fun _ => hwritten⟩
  · exact .ok ⟨rfl, h, fun hover => absurd hover.symm Bool.false_ne_true⟩

variable (hfloor : mark.length = p.context.floor)

include hfloor

/-- **A token** is handled when the mark has been written. -/
theorem couples_handleMatch (r : RunState) (handler : Handler) (length : Nat) :
    Couples (r.Carries view mark) (Watched view mark fun _ => True)
      (p.handleMatch r handler length) (p.handleMatch r handler length)
      fun x y σ σ' => x = y ∧ Watched view mark (view.Begins mark) σ σ' := by
  refine (couples_writePending hview r).bind_same fun r => ?_
  refine Spares.bind (.scan _) fun _ => ?_
  split
  · exact Spares.pure _
  · exact Spares.bind (Operation.spares_handle hview hfloor _ _) fun _ => .pure _

theorem couples_consume (r : RunState) :
    Couples (r.Carries view mark) (Watched view mark fun _ => True)
      (p.consume r) (p.consume r) fun x y σ σ' => x = y ∧ x.Carries view mark σ σ' := by
  rintro ⟨w, j⟩ ⟨w', t⟩ h
  obtain rfl : w = w' := h.window
  simp only [consume, bind_apply, get_apply]
  cases p.dispatch.match? w.ahead.bytes with
  | some found =>
    refine (couples_handleMatch hview hfloor r found.1 found.2).mono (fun _ _ h => h) ?_ _ _ h
    exact fun _ _ _ _ hq => ⟨hq.1, .written hq.2⟩
  | none =>
    -- what is copied joins the mark behind the cursor, however much it is
    exact .ok ⟨rfl, h.step _⟩

omit hfloor in
theorem couples_flushIfDue (r : RunState) :
    Couples (r.Carries view mark) (Watched view mark fun _ => True)
      (p.flushIfDue r) (p.flushIfDue r) fun x y σ σ' => x = y ∧ x.Carries view mark σ σ' := by
  unfold flushIfDue
  split
  · -- a flush may come before the first write, where a threshold is met by no bytes
    rintro σ σ' (h | ⟨h, hbehind, hmark⟩)
    · refine (Session.spares_flush hview).bind_same (fun _ => ?_) _ _ h
      exact Couples.pure fun _ _ h => ⟨rfl, .written h⟩
    · refine (Session.watched_flush σ.window (hview.flush [])).bind_same (fun _ => ?_) _ _ ⟨rfl, h⟩
      refine Couples.pure ?_
      rintro τ τ' ⟨hsame, h⟩
      exact ⟨rfl, .pending h (hsame ▸ hbehind) (hsame ▸ hmark)⟩
  · exact Couples.pure fun _ _ h => ⟨rfl, h⟩

/-- **A turn** keeps what a run has, and the last one leaves the mark in the output. -/
theorem couples_turn (r : RunState) :
    Couples (r.Carries view mark) (Watched view mark fun _ => True) (p.turn r) (p.turn r)
      fun x y σ σ' => x = y ∧ x.Holds (·.Carries view mark σ σ')
        (fun _ => Watched view mark (view.Begins mark) σ σ') := by
  refine (couples_lookAhead hview r).bind_same fun x => ?_
  obtain ⟨r, more⟩ := x
  cases more with
  | false => exact Couples.pure fun _ _ h => ⟨rfl, h.2 rfl⟩
  | true =>
    rintro ⟨w, j⟩ ⟨w', t⟩ ⟨h, -⟩
    obtain rfl : w = w' := h.window
    simp only [bind_apply, get_apply, if_apply, Bool.not_true, Bool.false_eq_true, if_false]
    split
    · -- nothing is ahead, and filling the window again drops what is behind
      refine (couples_writePending hview r).bind_same (fun r => ?_) _ _ h
      refine Couples.bind_same (Spares.scan _) fun more => ?_
      cases more with
      | true => exact Couples.pure fun _ _ h => ⟨rfl, .written h⟩
      | false => exact Couples.pure fun _ _ h => ⟨rfl, h⟩
    · refine (couples_consume hview hfloor r).bind_same (fun r => ?_) _ _ h
      refine (couples_flushIfDue hview r).bind_same fun r => ?_
      exact Couples.pure fun _ _ h => ⟨rfl, h⟩

/-- A turn that goes on comes closer to the end of the source. -/
theorem couples_turn_searches (hd : p.dispatch.Lawful) (n : Nat) (r : RunState) :
    Couples (fun (σ : Session (Journal τ)) (σ' : Session τ) =>
        σ.window.searches < n + 1 ∧ r.Carries view mark σ σ')
      (Watched view mark fun _ => True) (p.turn r) (p.turn r)
      fun x y σ σ' => x = y ∧ x.Holds
        (fun r => σ.window.searches < n ∧ r.Carries view mark σ σ')
        (fun _ => Watched view mark (view.Begins mark) σ σ') := by
  rintro σ σ' ⟨hlt, h⟩
  have hstep := couples_turn hview hfloor r σ σ' h
  generalize hx : p.turn r σ = x at hstep ⊢
  generalize p.turn r σ' = y at hstep ⊢
  cases hstep with
  | error he => exact .error he
  | @ok turn _ σ₁ _ hq =>
    obtain ⟨rfl, hholds⟩ := hq
    cases turn with
    | stop r' => exact .ok ⟨rfl, hholds⟩
    | again r' =>
      have hless : σ₁.window.searches < σ.window.searches := spends_turn hd r σ _ σ₁ hx trivial
      exact .ok ⟨rfl, by omega, hholds⟩

/-- **A run** ends with the mark in the output. It does not end at the bound of its loop, where the
mark might still be pending. -/
theorem couples_drive (hd : p.dispatch.Lawful) (operations : List Operation) :
    Couples (fun σ σ' => (start operations σ.window).Carries view mark σ σ')
      (Watched view mark fun _ => True) (p.drive operations) (p.drive operations)
      fun x y σ σ' => x = y ∧ Watched view mark (view.Begins mark) σ σ' := by
  rintro ⟨w, j⟩ ⟨w', t⟩ h
  obtain rfl : w = w' := h.window
  refine (Couples.loop_left (I := fun n r σ σ' => σ.window.searches < n ∧ r.Carries view mark σ σ')
    (S := fun _ => Watched view mark (view.Begins mark)) (couples_turn_searches hview hfloor hd)
    ?_ _ _).bind_same (fun r => ?_) _ _ ⟨w.searches_lt, h⟩
  · rintro r σ σ' ⟨hlt, -⟩
    omega
  · have hfinish : Spares view mark (raise (finish r.operations))
        (raise (finish r.operations)) := by
      cases finish r.operations with
      | ok u => exact .pure u
      | error e => exact .throw e
    exact hfinish.bind fun _ => .bind (Session.spares_flush hview) fun _ => .pure _

end

end RunPlan

/-! ### Runs -/

namespace Processor

variable {τ : Type} {view : Target.View τ}

/-- What a run returns over a journal, for what it returns over the target. -/
theorem returned_of_coupled {mark : Bytes} {x : EStateM.Result Error (Session (Journal τ)) Bool}
    {y : EStateM.Result Error (Session τ) Bool}
    (h : Coupled (Session.Watched view mark fun _ => True)
      (fun a b σ σ' => a = b ∧ Session.Watched view mark (view.Begins mark) σ σ') x y) :
    ∃ changes, returned x = ((returned y).1, ⟨(returned y).2, changes⟩) ∧
      (∀ change ∈ changes, change.Keeps view mark) ∧
      ∀ modified, (returned y).1 = .ok modified → mark <+: view.bytes (returned y).2 := by
  cases h with
  | @ok modified _ σ σ' hq =>
    obtain ⟨rfl, -, htarget, hkeeps, bytes, hbegins, rfl, -⟩ := hq
    exact ⟨σ.target.changes, by rw [returned, returned, ← htarget], hkeeps, fun _ _ => hbegins⟩
  | @error cause σ σ' he =>
    obtain ⟨-, htarget, hkeeps, -⟩ := he
    refine ⟨σ.target.changes, by rw [returned, returned, ← htarget], hkeeps, ?_⟩
    rintro modified ⟨⟩

/-- **The byte-order mark is never lost.** Take any processor, any source that begins with a mark
and an empty target. The run over a journal of the target is the run over the target. After each of
its writes and cuts, be it a run that fails in the end, the target begins with the mark, and none of
the cuts has gone below it. The output of a run that succeeds begins with the mark. -/
theorem run_keeps_mark [Target τ] (p : Processor) (source : Source) {e : Encoding}
    (hmark : Encoding.detect source.unread.bytes = (e, e.mark.length)) (hview : view.Faithful)
    {target : τ} (hempty : view.Holds [] target) : ∃ changes,
      p.run source (Journal.start target) =
        ((p.run source target).1, ⟨(p.run source target).2, changes⟩) ∧
      (∀ change ∈ changes, change.Keeps view e.mark) ∧
      ∀ modified, (p.run source target).1 = .ok modified →
        e.mark <+: view.bytes (p.run source target).2 := by
  cases hwindow : Window.enter p.configuration.bufferSize source with
  | error cause =>
    have henter : ∀ {υ : Type} (u : υ), Session.enter p.configuration.bufferSize source p.bindings
        p.configuration.variableFormat u = .error cause := by
      intro υ u
      rw [Session.enter, hwindow]
      rfl
    simp only [run, henter]
    exact ⟨[], rfl, List.forall_mem_nil _, by rintro modified ⟨⟩⟩
  | ok entered =>
    obtain ⟨w, e', n⟩ := entered
    obtain ⟨hdetect, hbehind⟩ := Window.enter_ok hwindow
    obtain ⟨rfl, rfl⟩ : e = e' ∧ e.mark.length = n := Prod.mk.inj (hmark.symm.trans hdetect)
    have henter : ∀ {υ : Type} (u : υ), Session.enter p.configuration.bufferSize source p.bindings
        p.configuration.variableFormat u = .ok (⟨w, u⟩,
          ⟨.make e p.bindings p.configuration.variableFormat, e.mark.length⟩) := by
      intro υ u
      rw [Session.enter, hwindow]
      rfl
    cases hmade : p.materialize (.make e p.bindings p.configuration.variableFormat) with
    | error cause =>
      simp only [run, henter, hmade]
      exact ⟨[], rfl, List.forall_mem_nil _, by rintro modified ⟨⟩⟩
    | ok operations =>
      rw [run_entered (henter (Journal.start target)) hmade, run_entered (henter target) hmade]
      let plan : RunPlan :=
        p.plan ⟨.make e p.bindings p.configuration.variableFormat, e.mark.length⟩ operations
      -- the mark is behind the cursor and all of it is pending
      have hstart : e.mark <+: w.behind.reverse := by
        rw [hbehind, Encoding.take_mark hmark]
      exact returned_of_coupled (RunPlan.couples_drive (p := plan) hview rfl
        (Dispatch.lawful_ofSets _) operations
        ⟨w.reserve plan.dispatch.longest, .start target⟩ ⟨w.reserve plan.dispatch.longest, target⟩
        (.pending ⟨rfl, rfl, List.forall_mem_nil _, hempty⟩ le_rfl hstart))

/-- Markers on the first line and on a later one, in a stream that starts with a mark. -/
def markedLines : Source :=
  .ofBytes (Encoding.utf16le.mark ++ Encoding.utf16le.encode "x<y\na\nz>\nb")

theorem run_keeps_mark_first_line : ∃ p,
    make ⟨Configuration.defaultFormat, [.region ⟨"<", ">", true, true, false⟩], 1, 1⟩ (.ofList [])
        .standard ⟨⟨0, 0⟩, fun _ => 0⟩ = .ok p ∧
      Encoding.detect markedLines.unread.bytes = (.utf16le, Encoding.utf16le.mark.length) ∧
      Memory.view.Holds [] (.ofBytes []) ∧
      (p.run markedLines (Memory.ofBytes [])).2.toBytes =
        Encoding.utf16le.mark ++ Encoding.utf16le.encode "a\nb" ∧
      ∃ changes, p.run markedLines (Journal.start (Memory.ofBytes [])) =
          ((p.run markedLines (Memory.ofBytes [])).1,
            ⟨(p.run markedLines (Memory.ofBytes [])).2, changes⟩) ∧
        (∀ change ∈ changes, change.Keeps Memory.view Encoding.utf16le.mark) ∧
        changes.filterMap (fun change => match change with
          | .write _ => none
          | .cut size _ => some size) = [6, 2] := by
  have hmark : Encoding.detect markedLines.unread.bytes =
      (.utf16le, Encoding.utf16le.mark.length) := by decide +kernel
  have hempty : Memory.view.Holds [] (.ofBytes []) := ⟨rfl, trivial⟩
  refine ⟨_, rfl, hmark, hempty, by decide +kernel, ?_⟩
  obtain ⟨changes, hrun, hkeeps, -⟩ := run_keeps_mark _ markedLines hmark Memory.faithful hempty
  refine ⟨changes, hrun, hkeeps, ?_⟩
  have hchanges := congrArg (fun outcome => outcome.2.changes) hrun
  rw [← show _ = changes from hchanges]
  decide +kernel

end Processor

end Templating
