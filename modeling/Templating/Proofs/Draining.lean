import Templating.Proofs.Bounds

/-!
# Every turn takes something from its source

Each loop of a run has a bound on its turns, counted in bytes that are left. Whatever a source
gives and even if it fails, a turn that goes on leaves fewer bytes, or shows the first byte where
none was ahead. So no loop ever ends at its bound.

* `Window.searches`: what a search and a run count, and `Window.descends_searches`.
* `Window.spends_seekTurn_search`, `Window.spends_skipTurn`: turns of a search and of a passage.
* `Lexicon.spends_quotedTurn_window`, `Lexicon.spends_turn_window`: turns of reading a condition.
* `RunPlan.spends_turn`: turns of a run.
-/

namespace Templating

/-! ## Windows -/

theorem Tape.length_pos (t : Tape) (h : ¬ t.isEmpty = true) : 0 < t.length := by
  rw [t.length_eq]
  refine List.length_pos_iff.2 fun hnil => h ?_
  rw [isEmpty_eq, hnil]
  rfl

namespace Window

/-- What bounds the turns of a search: two for each byte that is left, and one to read more. -/
def searches (w : Window) : Nat := 2 * w.remaining + if w.ahead.length = 0 then 1 else 0

theorem searches_lt (w : Window) : w.searches < 2 * w.remaining + 2 := by
  unfold searches
  split <;> omega

/-- What is kept is still ahead after a refill, and its result tells whether anything is. -/
theorem refill_ok {kept : Tape} {w w' : Window} {more : Bool} (h : refill kept w = .ok more w') :
    w'.remaining = kept.length + w.source.unread.length ∧ kept.length ≤ w'.ahead.length ∧
      (more = true → 0 < w'.ahead.length) := by
  have hremaining := remaining_refill w kept
  rw [h] at hremaining
  have hfill : fill { w with behind := [], ahead := kept } = .ok () w' ∧
      more = !w'.ahead.isEmpty := by
    simp only [refill, bind_apply, modify_apply, get_apply, pure_apply] at h
    cases hx : fill { w with behind := [], ahead := kept } with
    | error e w₁ =>
      rw [hx] at h
      cases h
    | ok u w₁ =>
      rw [hx] at h
      cases h
      exact ⟨rfl, rfl⟩
  refine ⟨hremaining, ?_, ?_⟩
  · rw [fill_eq] at hfill
    have hfilled := hfill.1
    split at hfilled
    · cases hfilled
      exact le_rfl
    · split at hfilled
      · cases hfilled
      · cases hfilled
        exact Nat.le_add_right _ _
  · intro hmore
    have hne := hfill.2.symm.trans hmore
    exact w'.ahead.length_pos (by simpa using hne)

/-- A refill ahead leaves as much, and shows no less. -/
theorem refillAhead_ok {w w' : Window} {more : Bool} (h : refillAhead w = .ok more w') :
    w'.remaining = w.remaining ∧ w.ahead.length ≤ w'.ahead.length ∧
      (more = true → 0 < w'.ahead.length) :=
  refill_ok h

theorem searches_step_lt (w : Window) {count : Nat} (hpos : 0 < count)
    (hle : count ≤ w.ahead.length) : (w.step count).searches < w.searches := by
  have hstep := w.remaining_step_lt hpos hle
  unfold searches
  split <;> split <;> omega

theorem descends_searches : Descends searches where
  step w count := by
    rcases Nat.eq_zero_or_pos (min count w.ahead.length) with hzero | hpos
    · -- nothing is passed
      have hahead : (w.step count).ahead.length = w.ahead.length := by
        show w.ahead.length - count = _
        omega
      have hle := descends_remaining.step w count
      unfold searches
      rw [hahead]
      omega
    · have hremaining : (w.step count).remaining < w.remaining := by
        show w.ahead.length - count + w.source.unread.length <
          w.ahead.length + w.source.unread.length
        omega
      unfold searches
      split <;> split <;> omega
  reserve _ _ := le_rfl
  refillAhead w := by
    have hremaining := remaining_refill w w.ahead
    have hle : w.ahead.length ≤ (stateOf (refill w.ahead w)).ahead.length := by
      rw [stateOf_refill, fill_eq]
      split
      · exact le_rfl
      · split <;> exact Nat.le_add_right _ _
    have hwhole : w.remaining = w.ahead.length + w.source.unread.length := rfl
    show (stateOf (refill w.ahead w)).searches ≤ w.searches
    unfold searches
    split <;> split <;> omega
  renew w := by
    have hremaining := remaining_refill w .empty
    have hzero : (Tape.empty).length = 0 := rfl
    show (stateOf (refill .empty w)).searches ≤ w.searches
    unfold searches
    rw [hremaining, hzero]
    unfold remaining
    split <;> split <;> omega

variable {table : TokenTable}

/-- Where nothing is ahead, a window that is renewed shows something, or the source is over. -/
theorem searches_renew_lt {w w' : Window} (hempty : w.ahead.isEmpty = true)
    (h : renew w = .ok true w') : w'.searches < w.searches := by
  have hnil : w.ahead.bytes = [] := by simpa [Tape.isEmpty_eq] using hempty
  rw [renew_eq hnil] at h
  obtain ⟨hremaining, -, hmore⟩ := refillAhead_ok h
  have hpos := hmore rfl
  have hzero : w.ahead.length = 0 := by
    rw [w.ahead.length_eq, hnil]
    rfl
  unfold searches
  rw [if_pos hzero, if_neg (Nat.ne_of_gt hpos)]
  omega

/-- **A turn of a search** passes a byte, or shows the first one where none was ahead. -/
theorem spends_seekTurn_search (consume : Bool) (u : Unit) :
    Spends searches Turn.GoesOn (seekTurn table consume u) := by
  refine Spends.after (shrinks_ensure descends_searches _) fun _ => ?_
  intro w turn w' h hgoes
  simp only [bind_apply, get_apply, if_apply] at h
  by_cases hempty : w.ahead.isEmpty = true
  · rw [if_pos hempty] at h
    cases hx : renew w with
    | error e w₁ =>
      rw [hx] at h
      cases h
    | ok more w₁ =>
      rw [hx] at h
      cases more with
      | false =>
        cases h
        exact hgoes.elim
      | true =>
        cases h
        exact searches_renew_lt hempty hx
  · rw [if_neg hempty] at h
    cases hfound : table.match? w.ahead.bytes with
    | some found =>
      rw [hfound] at h
      cases h
      exact hgoes.elim
    | none =>
      rw [hfound] at h
      cases h
      exact w.searches_step_lt Nat.one_pos (w.ahead.length_pos hempty)

/-! ### What is seen -/

/-- At most so many bytes are left, and so many of them are ahead at least. -/
def Shows (left seen : Nat) (w : Window) : Prop := w.remaining ≤ left ∧ seen ≤ w.ahead.length

variable {left seen : Nat}

theorem ensures_ensure (needed : Nat) :
    Ensures (Shows left seen) (ensure needed) (fun _ => Shows left seen) (fun _ => True) := by
  rintro w ⟨hleft, hseen⟩
  simp only [ensure, bind_apply, get_apply, if_apply, set_apply, pure_apply]
  split
  · rename_i hx
    split at hx
    · cases hx
      exact ⟨hleft, hseen⟩
    · cases hrefill : refillAhead (w.reserve needed) with
      | error e w₁ =>
        rw [hrefill] at hx
        cases hx
      | ok more w₁ =>
        rw [hrefill] at hx
        cases hx
        obtain ⟨hremaining, hahead, -⟩ := refillAhead_ok hrefill
        exact ⟨hremaining.le.trans hleft, hseen.trans hahead⟩
  · trivial

/-- A token that is found is ahead. -/
theorem ensures_peekToken (ht : table.Lawful) :
    Ensures (Shows left 0) (peekToken table) (fun found w => Shows left 0 w ∧
      ∀ f ∈ found, 0 < f.2 ∧ f.2 ≤ w.ahead.length) (fun _ => True) := by
  refine (ensures_ensure _).bind fun _ => Ensures.get_bind fun w h => Ensures.pure ?_
  rintro w' ⟨rfl⟩
  refine ⟨h, fun f hf => ?_⟩
  rw [w.ahead.length_eq]
  exact ⟨ht.pos (v := f.1) hf, ht.le_text (v := f.1) hf⟩

theorem ensures_peekByte (offset : Nat) :
    Ensures (Shows left seen) (peekByte offset) (fun b w => Shows left seen w ∧
      (b.isSome = true → Shows left (offset + 1) w) ∧ (offset < seen → b.isSome = true))
      (fun _ => True) := by
  refine (ensures_ensure _).bind fun _ => Ensures.get_bind fun w h => Ensures.pure ?_
  rintro w' ⟨rfl⟩
  refine ⟨h, fun hsome => ⟨h.1, ?_⟩, fun hlt => ?_⟩
  · obtain ⟨b, hb⟩ := Option.isSome_iff_exists.1 hsome
    rw [w.ahead.length_eq]
    exact (List.getElem?_eq_some_iff.1 hb).1
  · have hlt' : offset < w.ahead.bytes.length := by
      rw [← w.ahead.length_eq]
      exact Nat.lt_of_lt_of_le hlt h.2
    rw [List.getElem?_eq_getElem hlt']
    rfl

/-- Bytes that are seen from the cursor on are ahead. -/
theorem ensures_peekBytes (count : Nat) : ∀ (offset : Nat) {seen : Nat},
    Ensures (Shows left seen) (Scanner.peekBytes offset count) (fun bytes w => Shows left seen w ∧
      (bytes ≠ [] → Shows left (offset + bytes.length) w) ∧
      (offset < seen → 0 < count → bytes ≠ [])) (fun _ => True) := by
  induction count with
  | zero =>
    intro offset seen
    exact Ensures.pure fun w h => ⟨h, fun hne => absurd rfl hne, fun _ hpos => nomatch hpos⟩
  | succ count ih =>
    intro offset seen
    refine (ensures_peekByte offset).onStream.bind fun byte => ?_
    cases byte with
    | none =>
      refine Ensures.pure fun w h => ⟨h.1, fun hne => absurd rfl hne, fun hlt => ?_⟩
      cases h.2.2 hlt
    | some b =>
      rintro w ⟨h, hshows, -⟩
      -- the bytes after this one are looked for with this one ahead
      have hseen := hshows rfl
      have hboth : Shows left (max seen (offset + 1)) w := ⟨h.1, max_le h.2 hseen.2⟩
      refine ((ih (offset + 1)).bind fun bytes => Ensures.pure fun w' h' => ?_) w hboth
      refine ⟨⟨h'.1.1, (le_max_left _ _).trans h'.1.2⟩, fun _ => ?_, fun _ _ => nofun⟩
      by_cases hnil : bytes = []
      · rw [hnil]
        exact ⟨h'.1.1, (le_max_right _ _).trans h'.1.2⟩
      · have hrest := (h'.2.1 hnil).2
        refine ⟨h'.1.1, ?_⟩
        rw [List.length_cons]
        omega

/-- A step over what is ahead leaves so much less. -/
theorem ensures_advance {count : Nat} (hcount : count ≤ seen) :
    Ensures (Shows left seen) (advance count) (fun _ w => w.remaining + count ≤ left)
      (fun _ => True) := by
  rintro w ⟨hleft, hseen⟩
  have hle : count ≤ w.ahead.length := hcount.trans hseen
  have hturn : advanceTurn count w = .ok (.stop ()) (w.step count) := by
    simp only [advanceTurn, bind_apply, get_apply, set_apply, Nat.min_eq_left hle, if_pos,
      pure_apply]
  have hadvance : advance count w = .ok () (w.step count) := by
    unfold advance
    rw [loop_succ, hturn]
  rw [hadvance]
  have hstep : (w.step count).remaining = w.ahead.length - count + w.source.unread.length := rfl
  have hremaining : w.remaining = w.ahead.length + w.source.unread.length := rfl
  show (w.step count).remaining + count ≤ left
  omega

/-- What is taken is left no more. -/
theorem ensures_take (count : Nat) :
    Ensures (Shows left seen) (Scanner.take count) (fun bytes w =>
      w.remaining + bytes.length ≤ left ∧ (0 < seen → 0 < count → bytes ≠ [])) (fun _ => True) := by
  refine (ensures_peekBytes count 0).bind fun bytes => ?_
  rintro w ⟨h, hshows, hne⟩
  have hbytes : Shows left bytes.length w := by
    by_cases hnil : bytes = []
    · rw [hnil]
      exact ⟨h.1, Nat.zero_le _⟩
    · exact Nat.zero_add bytes.length ▸ hshows hnil
  exact ((ensures_advance le_rfl).onStream.bind fun _ =>
    Ensures.pure fun w' h' => ⟨h', hne⟩) w hbytes

/-- **A turn of a passage** goes on past a token. -/
theorem spends_skipTurn (ht : table.Lawful) (u : Unit) :
    Spends remaining Turn.GoesOn (skipTurn table u) := by
  refine Spends.of_ensures fun n => ?_
  refine Ensures.strengthen ((ensures_peekToken ht).bind fun found => ?_)
    (fun w h => ⟨h, Nat.zero_le _⟩)
  cases found with
  | none => exact Ensures.pure fun _ _ => nofun
  | some found =>
    rintro w ⟨h, hfound⟩
    obtain ⟨hpos, hle⟩ := hfound found rfl
    exact fun _ => Nat.lt_of_lt_of_le (w.remaining_step_lt hpos hle) h.1

end Window

/-! ## Reading a condition -/

namespace Lexicon

open Window (Shows)

variable {lex : Lexicon} {n : Nat}

/-- What a turn of reading ensures: it goes on only with less left. -/
theorem ensures_quotedUnit_window {seen : Nat} (text : Bytes) :
    Ensures (Shows n seen) (lex.quotedUnit text) (fun turn w => turn.GoesOn → w.remaining < n)
      (fun _ => True) := by
  refine (Window.ensures_take _).bind fun unit => ?_
  split
  · exact Ensures.pure fun _ _ hgoes => hgoes.elim
  · rename_i hne
    refine Ensures.pure fun w h _ => ?_
    have hpos := List.length_pos_iff.2 (show unit ≠ [] from by simpa using hne)
    have hle := h.1
    omega

theorem spends_quotedTurn_window (ht : lex.table.Lawful) (quote : Nat) (text : Bytes) :
    Spends Window.remaining Turn.GoesOn (lex.quotedTurn quote text : EStateM Error Window _) := by
  refine Spends.of_ensures fun n => ?_
  refine Ensures.strengthen ((Window.ensures_peekToken ht).onStream.bind fun found => ?_)
    (fun w h => ⟨h, Nat.zero_le _⟩)
  have hunit : ∀ P : Window → Prop, (∀ w, P w → Shows n 0 w) →
      Ensures P (lex.quotedUnit text) (fun turn w => turn.GoesOn → w.remaining < n)
        (fun _ => True) := fun P hP =>
    (ensures_quotedUnit_window text).strengthen hP
  cases found with
  | none => exact hunit _ fun _ h => h.1
  | some found =>
    obtain ⟨index, length⟩ := found
    simp only
    split
    · refine Ensures.strengthen (P := fun _ => True) ?_ (fun _ _ => trivial)
      exact (Ensures.any _).bind fun _ => Ensures.pure fun _ _ hgoes => hgoes.elim
    · split
      · exact Ensures.pure fun _ _ hgoes => hgoes.elim
      · exact hunit _ fun _ h => h.1

/-- A token that is passed leaves less. -/
theorem ensures_passed {α : Type} {length : Nat} (hpos : 0 < length) (next : α) :
    Ensures (Shows n length) (do Scanner.advance length; pure next : EStateM Error Window α)
      (fun _ w => w.remaining < n) (fun _ => True) :=
  (Window.ensures_advance le_rfl).onStream.bind fun _ => Ensures.pure fun _ h => by omega

/-- **A turn of reading a condition** goes on past a token or a code unit. -/
theorem spends_turn_window (ht : lex.table.Lawful) (p : Progress) :
    Spends Window.remaining Turn.GoesOn (lex.turn p : EStateM Error Window _) := by
  refine Spends.of_ensures fun n => ?_
  refine Ensures.strengthen ((Window.ensures_peekToken ht).onStream.bind fun found => ?_)
    (fun w h => ⟨h, Nat.zero_le _⟩)
  cases found with
  | none =>
    refine Ensures.strengthen ((Window.ensures_take _).bind fun unit => ?_) (fun _ h => h.1)
    split
    · exact Ensures.pure fun _ _ hgoes => hgoes.elim
    · rename_i hne
      refine Ensures.pure fun w h _ => ?_
      have hpos := List.length_pos_iff.2 (show unit ≠ [] from by simpa using hne)
      have hle := h.1
      omega
  | some found =>
    obtain ⟨index, length⟩ := found
    rcases Nat.eq_zero_or_pos length with rfl | hpos
    · exact fun w h => absurd (h.2 _ rfl).1 (Nat.lt_irrefl 0)
    -- all of the token is ahead
    refine Ensures.strengthen (P := Shows n length) ?_ (fun w h => ⟨h.1.1, (h.2 _ rfl).2⟩)
    have hpassed : ∀ next : Turn Progress Progress, Ensures (Shows n length)
        (do Scanner.advance length; pure next : EStateM Error Window _)
        (fun turn w => turn.GoesOn → w.remaining < n) (fun _ => True) := fun next =>
      (ensures_passed hpos next).weaken (fun _ h => h) (fun _ _ h _ => h) (fun _ he => he)
    simp only
    cases lex.classify index with
    | terminator => exact hpassed _
    | reference slot =>
      have hwhole : Ensures (Shows n length) (lex.wholeWord p length : EStateM Error Window _)
          (fun _ => Shows n length) (fun _ => True) := by
        unfold wholeWord
        split
        · refine Ensures.bind (Q := fun _ => Shows n length) ?_ fun _ => Ensures.pure fun _ h => h
          exact (Window.ensures_peekBytes _ length).bind fun _ => Ensures.pure fun _ h => h.1
        · exact Ensures.pure fun _ h => h
      refine hwhole.bind fun whole => ?_
      cases whole with
      | true => exact hpassed _
      | false =>
        refine (Window.ensures_take length).bind fun bytes => Ensures.pure fun w h _ => ?_
        have hne := List.length_pos_iff.2 (h.2 hpos hpos)
        have hle := h.1
        omega
    | symbol index role =>
      cases role with
      | lineEnd => exact Ensures.pure fun _ _ hgoes => hgoes.elim
      | separator => exact hpassed _
      | operator => exact hpassed _
      | quote =>
        refine Ensures.bind (Q := fun _ w => w.remaining < n) ?_ fun _ => ?_
        · exact (Window.ensures_advance le_rfl).onStream.weaken (fun _ h => h)
            (fun _ _ h => by omega) (fun _ he => he)
        · have hread := lex.shrinks_readQuoted Window.descends_remaining.scanner index
          exact (hread.ensures_lt n).bind fun _ => Ensures.pure fun _ h _ => h

end Lexicon

/-! ## Turns of a run -/

namespace RunPlan

variable {τ : Type} [Target τ] {p : RunPlan} {n : Nat}

/-- Handling a token leaves less than before it. -/
theorem ensures_handleMatch_searches (r : RunState) (handler : Handler) {length : Nat}
    (hpos : 0 < length) :
    Ensures (fun σ => σ.window.searches ≤ n ∧ length ≤ σ.window.ahead.length)
      (p.handleMatch r handler length : EStateM Error (Session τ) _)
      (fun _ σ => σ.window.searches < n) (fun _ => True) := by
  refine (ensures_writePending (fun w => w.searches ≤ n ∧ length ≤ w.ahead.length) r).bind
    fun r₁ => ?_
  refine Ensures.bind (Q := fun _ σ => σ.window.searches < n) ?_ fun _ => ?_
  · rintro σ ⟨-, -, hle, hahead⟩
    exact Nat.lt_of_lt_of_le (σ.window.searches_step_lt hpos hahead) hle
  · split
    · exact Ensures.pure fun _ h => h
    · rename_i o _
      have hhandle := o.shrinks_handle (τ := τ) Window.descends_searches p.context handler.token
      exact (hhandle.ensures_lt n).bind fun _ => Ensures.pure fun _ h => h

/-- Where something is ahead, handling what is at the cursor passes some of it. -/
theorem ensures_consume_searches (hd : p.dispatch.Lawful) (r : RunState) :
    Ensures (fun σ => σ.window.searches ≤ n ∧ 0 < σ.window.ahead.length)
      (p.consume r : EStateM Error (Session τ) _) (fun _ σ => σ.window.searches < n)
      (fun _ => True) := by
  refine Ensures.get_bind fun σ h => ?_
  split
  · rename_i handler length hmatch
    have hpos : 0 < length := hd.pos (v := handler) hmatch
    have hle : length ≤ σ.window.ahead.length := by
      rw [σ.window.ahead.length_eq]
      exact hd.le_text (v := handler) hmatch
    refine (ensures_handleMatch_searches r handler hpos).strengthen ?_
    rintro _ rfl
    exact ⟨h.1, hle⟩
  · generalize hcount : (if p.isOver σ.window = true then σ.window.ahead.length else 1) = count
    have hpos : 0 < count ∧ count ≤ σ.window.ahead.length := by
      have hahead := h.2
      rw [← hcount]
      split <;> omega
    rintro _ ⟨rfl⟩
    exact Nat.lt_of_lt_of_le (σ.window.searches_step_lt hpos.1 hpos.2) h.1

theorem shrinks_writePending {μ : Window → Nat} (r : RunState) :
    Shrinks (Session.measure μ) (writePending r : EStateM Error (Session τ) _) :=
  (Session.shrinks_writeBehind _).bind fun _ => Shrinks.pure _

theorem shrinks_flushIfDue {μ : Window → Nat} (r : RunState) :
    Shrinks (Session.measure μ) (p.flushIfDue r : EStateM Error (Session τ) _) := by
  unfold flushIfDue
  split
  · exact (Session.shrinks_onTarget _).bind fun _ => Shrinks.pure _
  · exact Shrinks.pure _

theorem shrinks_lookAhead {μ : Window → Nat} (h : Window.Descends μ) (r : RunState) :
    Shrinks (Session.measure μ) (p.lookAhead r : EStateM Error (Session τ) _) := by
  refine Shrinks.get_bind fun σ => ?_
  split
  · exact (shrinks_writePending r).bind fun _ =>
      (Session.shrinks_onWindow h.refillAhead).bind fun _ => Shrinks.pure _
  · exact Shrinks.pure _

/-- **A turn of a run** passes something, or shows something where nothing was ahead. -/
theorem spends_turn (hd : p.dispatch.Lawful) (r : RunState) :
    Spends (Session.measure Window.searches) Turn.GoesOn
      (p.turn r : EStateM Error (Session τ) _) := by
  refine Spends.of_ensures fun n => ?_
  have hlook := shrinks_lookAhead (τ := τ) (p := p) Window.descends_searches r
  refine Ensures.strengthen ((hlook.ensures_lt (n + 1)).bind fun x => ?_)
    (fun _ => Nat.lt_succ_of_le)
  obtain ⟨r₁, more⟩ := x
  cases more with
  | false => exact Ensures.pure fun _ _ hgoes => hgoes.elim
  | true =>
    refine Ensures.get_bind fun σ h => ?_
    have hle : σ.window.searches ≤ n := Nat.lt_succ_iff.1 h
    split
    · rename_i hahead
      refine Ensures.strengthen ((ensures_writePending (· = σ.window) r₁).bind fun r₂ => ?_)
        (by rintro _ ⟨rfl⟩; rfl)
      rintro σ₁ ⟨-, -, hsame⟩
      have hrenewed : Ensures (fun σ₁ => σ₁.window = σ.window)
          (Session.onWindow Window.renew : EStateM Error (Session τ) Bool)
          (fun more σ₁ => more = true → σ₁.window.searches < σ.window.searches)
          (fun _ => True) := by
        rintro ⟨w, t⟩ hw
        obtain rfl : w = σ.window := hw
        rw [Session.onWindow, Session.scan_apply, onStream_apply]
        cases hx : Window.renew σ.window with
        | error e w' => trivial
        | ok more w' =>
          rintro rfl
          exact Window.searches_renew_lt hahead hx
      refine (hrenewed.bind fun more => ?_) σ₁ hsame
      cases more with
      | true => exact Ensures.pure fun _ hless _ => Nat.lt_of_lt_of_le (hless rfl) hle
      | false => exact Ensures.pure fun _ _ hgoes => hgoes.elim
    · rename_i hahead
      have hpos := σ.window.ahead.length_pos hahead
      refine Ensures.strengthen ((ensures_consume_searches (n := n) hd r₁).bind fun r₂ => ?_) ?_
      · have hflush := shrinks_flushIfDue (τ := τ) (p := p) (μ := Window.searches) r₂
        exact (hflush.ensures_lt n).bind fun _ => Ensures.pure fun _ h _ => h
      · rintro _ ⟨rfl⟩
        exact ⟨hle, hpos⟩

end RunPlan

end Templating
