import Templating.Proofs.Stage

/-!
# The loop of a run

The loop keeps a window that is refilled, bytes that are still to be written, and
shortcuts at the end of the input. A stage has none of these.

* `RunState.Represents`: the invariant that ties the state of the loop to a stage.
* `RunPlan.turn_spec`: what one turn does to the stage.
* `RunPlan.ends_drive`: the loop ends as its stage does.
-/

namespace Templating

namespace Session

theorem write_apply (bytes : Bytes) (σ : Session Memory) :
    write bytes σ = .ok bytes.length ⟨σ.window, .ofBytes (σ.target.toBytes ++ bytes)⟩ := by
  simp only [write, bind_apply, onTarget_apply, Memory.write_apply, pure_apply]

theorem writeBehind_apply (count : Nat) (σ : Session Memory) :
    ∃ written, writeBehind count σ = .ok written
      ⟨σ.window, .ofBytes (σ.target.toBytes ++ (σ.window.behind.take count).reverse)⟩ := by
  simp only [writeBehind, bind_apply, get_apply, if_apply, write_apply, pure_apply]
  split
  · rename_i hzero
    refine ⟨0, ?_⟩
    rw [hzero, List.take_zero, List.reverse_nil, List.append_nil, Memory.ofBytes_toBytes]
  · exact ⟨_, rfl⟩

end Session

namespace Operation

/-- Operations that handle tokens alike wherever their windows stand before the same rest. -/
abbrev Matches (ctx : Context) : Operation → Operation → Prop :=
  Twin (τ := Memory) (υ := Memory) Window.Alike Eq ctx ctx

/-- Operations that match in order. -/
abbrev Twins (ctx : Context) : List Operation → List Operation → Prop :=
  Paired (τ := Memory) (υ := Memory) Window.Alike Eq ctx ctx

/-- What an operation does at a window it does with the rest of the input in memory. -/
theorem handle_spec {ctx : Context} {o o' : Operation} (h : Matches ctx o o') {w : Window}
    {rest : Bytes} (hw : w.At rest) (token : Nat) (output : Bytes) :
    (∃ x y σ σ', o.handle ctx token (⟨w, .ofBytes output⟩ : Session Memory) = .ok x σ ∧
      o'.handle ctx token (⟨.whole rest, .ofBytes output⟩ : Session Memory) = .ok y σ' ∧
      Matches ctx x.1 y.1 ∧ σ.window.At σ'.window.rest ∧ σ'.window.rest.length ≤ rest.length ∧
      w.capacity ≤ σ.window.capacity ∧ σ.target = σ'.target) ∨
    ∃ e σ σ', o.handle ctx token (⟨w, .ofBytes output⟩ : Session Memory) = .error e σ ∧
      o'.handle ctx token (⟨.whole rest, .ofBytes output⟩ : Session Memory) = .error e σ' ∧
      σ.target = σ'.target := by
  have hagree := simulates_handle h token (⟨w, .ofBytes output⟩ : Session Memory)
    ⟨.whole rest, .ofBytes output⟩ ⟨⟨_, hw, Window.at_whole _⟩, rfl⟩
  have hcap := shrinks_handle (Window.descends_capacity w.capacity) ctx token o
    (⟨w, .ofBytes output⟩ : Session Memory)
  have hleft := shrinks_handle Window.descends_remaining ctx token o
    (⟨w, .ofBytes output⟩ : Session Memory)
  generalize hx : o.handle ctx token (⟨w, .ofBytes output⟩ : Session Memory) = x
    at hagree hcap hleft
  generalize hy : o'.handle ctx token (⟨.whole rest, .ofBytes output⟩ : Session Memory) = y
    at hagree
  cases hagree with
  | @ok x y σ σ' htwin halike =>
    obtain ⟨⟨left, hw₁, hw₂⟩, htarget⟩ := halike
    have hle : σ.window.remaining ≤ w.remaining := hleft
    have hgrown : w.capacity - σ.window.capacity ≤ w.capacity - w.capacity := hcap
    rw [hw₁.remaining, hw.remaining] at hle
    refine .inl ⟨x, y, σ, σ', rfl, rfl, htwin, ?_, ?_, by omega, htarget⟩
    · rwa [hw₂.rest_eq]
    · rwa [hw₂.rest_eq]
  | @error e σ σ' halike => exact .inr ⟨e, σ, σ', rfl, rfl, halike.2⟩

end Operation

theorem Session.onWindow_modify_apply {τ : Type} (f : Window → Window) (σ : Session τ) :
    (onWindow (modify f) : EStateM Error (Session τ) PUnit) σ = .ok ⟨⟩ ⟨f σ.window, σ.target⟩ := rfl

/-- **The invariant of a run**: the state of its loop stands for a stage. What is pending
lies behind the cursor, and the window is large enough for every token. -/
structure RunState.Represents (p : RunPlan) (r : RunState) (σ : Session Memory) (s : Stage) :
    Prop where
  operations : Operation.Twins p.context r.operations s.operations
  modified : r.modified = s.modified
  window : σ.window.At s.rest
  capacity : p.dispatch.longest ≤ σ.window.capacity
  pending : r.pending ≤ σ.window.behind.length
  output : σ.target.toBytes ++ (σ.window.behind.take r.pending).reverse = s.output

namespace RunPlan

variable {p : RunPlan} {r : RunState} {σ : Session Memory} {s : Stage}

theorem writePending_spec (h : r.Represents p σ s) : ∃ r',
    writePending r σ = .ok r' ⟨σ.window, .ofBytes s.output⟩ ∧ r'.operations = r.operations ∧
      r'.modified = r.modified ∧ r'.pending = 0 := by
  obtain ⟨written, hwrite⟩ := Session.writeBehind_apply r.pending σ
  rw [h.output] at hwrite
  refine ⟨{ r with pending := 0, unflushed := r.unflushed + written }, ?_, rfl, rfl, rfl⟩
  simp only [writePending, bind_apply, hwrite, pure_apply]

/-- Where nothing is pending the target holds all output. -/
theorem represents_of_written (hops : Operation.Twins p.context r.operations s.operations)
    (hmod : r.modified = s.modified) (hpending : r.pending = 0) (hw : σ.window.At s.rest)
    (hcap : p.dispatch.longest ≤ σ.window.capacity) (hout : σ.target.toBytes = s.output) :
    r.Represents p σ s where
  operations := hops
  modified := hmod
  window := hw
  capacity := hcap
  pending := hpending ▸ Nat.zero_le _
  output := by rw [hpending, List.take_zero, List.reverse_nil, List.append_nil, hout]

theorem lookAhead_spec (h : r.Represents p σ s) : ∃ r' σ' more,
    p.lookAhead r σ = .ok (r', more) σ' ∧ r'.Represents p σ' s ∧
      σ'.window.Sees p.dispatch.longest ∧ σ.window.ahead.length ≤ σ'.window.ahead.length ∧
      (more = false → s.rest = [] ∧ r'.pending = 0) := by
  simp only [lookAhead, bind_apply, get_apply, if_apply, pure_apply]
  split
  · obtain ⟨r', hwrite, hops, hmod, hpending⟩ := writePending_spec h
    obtain ⟨w', hrefill, hw', -, hcap, hle, hsees⟩ := Window.refillAhead_spec h.window
    refine ⟨r', ⟨w', .ofBytes s.output⟩, decide (s.rest ≠ []), ?_, ?_, ?_, hle, ?_⟩
    · simp only [hwrite, Session.onWindow, Session.scan_apply, onStream_apply, hrefill]
    · exact represents_of_written (hops ▸ h.operations) (hmod.trans h.modified) hpending hw'
        (hcap ▸ h.capacity) rfl
    · exact hsees.imp_left h.capacity.trans
    · intro hmore
      exact ⟨by simpa using hmore, hpending⟩
  · rename_i hneeds
    refine ⟨r, σ, true, rfl, h, ?_, le_rfl, by simp⟩
    simp only [needsMore, Window.holds, Bool.and_eq_true, Bool.not_eq_true', not_and,
      decide_eq_false_iff_not, not_not] at hneeds
    cases hexhausted : σ.window.exhausted with
    | true => exact .inr hexhausted
    | false => exact .inl (hneeds hexhausted)

/-- Where a step of the loop has led from a stage: to a later one, or to a failure. -/
def Advances (p : RunPlan) (s : Stage) : EStateM.Result Error (Session Memory) RunState → Prop
  | .ok r σ => ∃ s', r.Represents p σ s' ∧ s'.rest.length < s.rest.length ∧
      ∀ o, s'.Ends p.context p.dispatch o → s.Ends p.context p.dispatch o
  | .error e σ => s.Ends p.context p.dispatch (.error e, σ.target.toBytes)

/-- A token is handled as its stage has it. -/
theorem handleMatch_advances (hd : p.dispatch.Lawful) (h : r.Represents p σ s)
    (hsees : σ.window.Sees p.dispatch.longest) {handler : Handler} {length : Nat}
    (hm : p.dispatch.match? s.rest = some (handler, length)) :
    Advances p s (p.handleMatch r handler length σ) := by
  have hpos : 0 < length := hd.pos (v := handler) hm
  have htext : length ≤ s.rest.length := hd.le_text (v := handler) hm
  -- the window shows all of the token
  have hlen : length ≤ σ.window.ahead.length := by
    have hahead := h.window.match_eq hd hsees
    rw [σ.window.ahead.length_eq]
    exact hd.le_text (v := handler) (hahead.trans hm)
  have hne : s.rest ≠ [] := fun hnil => by rw [hnil, List.length_nil] at htext; omega
  have hstep := h.window.step hlen
  obtain ⟨r', hwrite, hops, hmod, hpending⟩ := writePending_spec h
  have htwins := h.operations.getElem? handler.operation
  cases hi : r.operations[handler.operation]? with
  | none =>
    rw [hi] at htwins
    have hi' : s.operations[handler.operation]? = none := by
      generalize s.operations[handler.operation]? = x at htwins ⊢
      cases htwins
      rfl
    simp only [handleMatch, bind_apply, hwrite, Session.onWindow_modify_apply, hops, hi, pure_apply]
    refine ⟨{ s with modified := true, rest := s.rest.drop length }, ?_, ?_, fun o ho => ?_⟩
    · exact represents_of_written h.operations rfl hpending hstep h.capacity rfl
    · rw [List.length_drop]
      omega
    · exact .handled hne hm (by simp only [Stage.handled, hi']) ho
  | some o =>
    rw [hi] at htwins
    obtain ⟨o', hi', ho⟩ : ∃ o', s.operations[handler.operation]? = some o' ∧
        Operation.Matches p.context o o' := by
      generalize s.operations[handler.operation]? = x at htwins ⊢
      cases htwins with
      | some ho => exact ⟨_, rfl, ho⟩
    -- the owner handles the token at the window as the stage has it
    simp only [handleMatch, bind_apply, hwrite, Session.onWindow_modify_apply, hops, hi]
    rcases Operation.handle_spec ho hstep handler.token s.output with
      ⟨x, y, σ₁, σ₂, hx, hy, htwin, hw, hle, hcap, htarget⟩ | ⟨e, σ₁, σ₂, hx, hy, htarget⟩
    · simp only [hx]
      refine ⟨⟨s.operations.set handler.operation y.1, true, σ₂.window.rest, σ₂.target.toBytes⟩,
        ?_, ?_, fun outcome hends => ?_⟩
      · exact represents_of_written (h.operations.set htwin handler.operation) rfl rfl hw
          (h.capacity.trans hcap) (congrArg Memory.toBytes htarget)
      · show σ₂.window.rest.length < s.rest.length
        rw [List.length_drop] at hle
        omega
      · exact .handled hne hm (by simp only [Stage.handled, hi', hy]) hends
    · simp only [hx]
      exact .failed hne hm (by simp only [Stage.handled, hi', hy, htarget])

/-- At the end of the input a window is over only where no token fits any more. -/
theorem match?_of_isOver (hd : p.dispatch.Lawful) {w : Window} {rest text : Bytes} (hw : w.At rest)
    (hover : p.isOver w = true) (hle : text.length ≤ rest.length) :
    p.dispatch.match? text = none := by
  cases hm : p.dispatch.match? text with
  | none => rfl
  | some found =>
    have hpos := hd.pos (v := found.1) hm
    have htext := hd.le_text (v := found.1) hm
    have hlongest := hd.le_longest (v := found.1) hm
    have hshortest := hd.shortest_le (v := found.1) hm
    simp only [isOver, Dispatch.isEmpty, Bool.or_eq_true, beq_iff_eq, Bool.and_eq_true,
      Bool.not_eq_true', Window.holds, decide_eq_false_iff_not] at hover
    rcases hover with hover | ⟨hended, hshort⟩
    · omega
    · rw [← hw.ahead_eq hended, ← w.ahead.length_eq] at hle
      omega

/-- Bytes at which no token begins become pending. -/
theorem represents_step (h : r.Represents p σ s) {count : Nat}
    (hcount : count ≤ σ.window.ahead.length) :
    RunState.Represents p { r with pending := r.pending + count }
      ⟨σ.window.step count, σ.target⟩
      { s with rest := s.rest.drop count, output := s.output ++ s.rest.take count } where
  operations := h.operations
  modified := h.modified
  window := h.window.step hcount
  capacity := h.capacity
  pending := by
    simp only [Window.step, Tape.take, List.length_append, List.length_reverse, List.length_take]
    have := h.pending
    rw [σ.window.ahead.length_eq] at hcount
    omega
  output := by
    have htake : σ.window.ahead.take count = s.rest.take count := by
      rw [Tape.take, h.window.ahead_take, List.take_take, Nat.min_eq_left hcount]
    have hlen : (s.rest.take count).reverse.length = count := by
      rw [← htake, Tape.take, List.length_reverse, List.length_take, ← σ.window.ahead.length_eq,
        Nat.min_eq_left hcount]
    have hbehind : ((s.rest.take count).reverse ++ σ.window.behind).take (r.pending + count) =
        (s.rest.take count).reverse ++ σ.window.behind.take r.pending := by
      rw [List.take_append, hlen, List.take_of_length_le (by omega), Nat.add_sub_cancel]
    show σ.target.toBytes ++ (((σ.window.ahead.take count).reverse ++ σ.window.behind).take
      (r.pending + count)).reverse = s.output ++ s.rest.take count
    rw [htake, hbehind, List.reverse_append, List.reverse_reverse, ← List.append_assoc, h.output]

theorem consume_advances (hd : p.dispatch.Lawful) (h : r.Represents p σ s)
    (hsees : σ.window.Sees p.dispatch.longest) (hahead : 0 < σ.window.ahead.length) :
    Advances p s (p.consume r σ) := by
  have hmatch : p.dispatch.match? σ.window.ahead.bytes = p.dispatch.match? s.rest :=
    h.window.match_eq hd hsees
  simp only [consume, bind_apply, get_apply, hmatch]
  cases hm : p.dispatch.match? s.rest with
  | some found => exact handleMatch_advances hd h hsees hm
  | none =>
    simp only [bind_apply, Session.onWindow_modify_apply, pure_apply]
    generalize hcount : (if p.isOver σ.window = true then σ.window.ahead.length else 1) = count
    have hle : count ≤ σ.window.ahead.length := by rw [← hcount]; split <;> omega
    have hpos : 0 < count := by rw [← hcount]; split <;> omega
    have hrest : σ.window.ahead.length ≤ s.rest.length := by
      rw [σ.window.ahead.length_eq]
      exact h.window.ahead_prefix.length_le
    refine ⟨_, represents_step h hle, ?_, fun o ho => ?_⟩
    · show (s.rest.drop count).length < s.rest.length
      rw [List.length_drop]
      omega
    · -- no token begins in what is passed: it is the end of the input, or one byte
      have hcopies := Stage.Ends.copies (s.rest.take count) (s.rest.drop count) s.output ?_ ho
      · rwa [List.take_append_drop] at hcopies
      · rintro suffix hne hsuffix
        have hsuffix_le := hsuffix.length_le
        rw [List.length_take] at hsuffix_le
        by_cases hover : p.isOver σ.window = true
        · refine match?_of_isOver hd h.window hover ?_
          rw [List.length_append, List.length_drop]
          omega
        · rw [if_neg hover] at hcount
          subst hcount
          have hwhole : suffix = s.rest.take 1 := by
            refine hsuffix.eq_of_length ?_
            have := List.length_pos_iff.2 hne
            rw [List.length_take]
            omega
          rw [hwhole, List.take_append_drop, hm]

/-- What the loop of a run leaves, as the end of the run. -/
def settled : EStateM.Result Error (Session Memory) RunState → Stage.Outcome
  | .ok r σ => (Stage.result r.operations r.modified, σ.target.toBytes)
  | .error e σ => (.error e, σ.target.toBytes)

/-- What bounds the turns of a run: two for each byte that is left, and one to read more. -/
def turnsLeft (σ : Session Memory) : Nat :=
  2 * σ.window.remaining + if σ.window.ahead.length = 0 then 1 else 0

theorem ends_of_nil (h : r.Represents p σ s) (hrest : s.rest = []) (hpending : r.pending = 0) :
    s.Ends p.context p.dispatch (settled (.ok r σ)) := by
  have hout : σ.target.toBytes = s.output := by
    rw [← h.output, hpending, List.take_zero, List.reverse_nil, List.append_nil]
  obtain ⟨operations, modified, rest, output⟩ := s
  cases hrest
  have hresult : Stage.result r.operations r.modified = Stage.result operations modified := by
    rw [Stage.result, Stage.result, h.operations.finish_eq, h.modified]
  rw [settled, hresult, hout]
  exact .ended

theorem flushIfDue_apply (r : RunState) (σ : Session Memory) : ∃ r', p.flushIfDue r σ = .ok r' σ ∧
    r'.operations = r.operations ∧ r'.modified = r.modified ∧ r'.pending = r.pending := by
  simp only [flushIfDue, bind_apply, if_apply, pure_apply]
  split
  · exact ⟨{ r with unflushed := 0 }, rfl, rfl, rfl, rfl⟩
  · exact ⟨r, rfl, rfl, rfl, rfl⟩

/-- **One turn of a run** leads to a later stage, or with fewer turns left to the same one,
or it ends the run as the stage ends. -/
theorem turn_spec (hd : p.dispatch.Lawful) (h : r.Represents p σ s) :
    match p.turn r σ with
    | .ok (.again r') σ' => ∃ s', r'.Represents p σ' s' ∧ turnsLeft σ' < turnsLeft σ ∧
        ∀ o, s'.Ends p.context p.dispatch o → s.Ends p.context p.dispatch o
    | .ok (.stop r') σ' => s.Ends p.context p.dispatch (settled (.ok r' σ'))
    | .error e σ' => s.Ends p.context p.dispatch (settled (.error e σ')) := by
  obtain ⟨r₁, σ₁, more, hlook, h₁, hsees, hahead, hmore⟩ := lookAhead_spec h
  have hleft : σ₁.window.remaining = σ.window.remaining :=
    h₁.window.remaining.trans h.window.remaining.symm
  simp only [turn, bind_apply, hlook, if_apply, get_apply, pure_apply]
  cases more with
  | false =>
    obtain ⟨hrest, hpending⟩ := hmore rfl
    exact ends_of_nil h₁ hrest hpending
  | true =>
    simp only [Bool.not_true, Bool.false_eq_true, if_false]
    by_cases hempty : σ₁.window.ahead.bytes = []
    · -- nothing is ahead: the window is renewed, or the source has ended
      rw [if_pos (by rw [Tape.isEmpty_eq]; exact decide_eq_true hempty)]
      obtain ⟨r₂, hwrite, hops, hmod, hpending⟩ := writePending_spec h₁
      obtain ⟨w', hrenew, hw', -, hcap, -, hfull⟩ := Window.refillAhead_spec h₁.window
      rw [← Window.renew_eq hempty] at hrenew
      simp only [hwrite, Session.onWindow, Session.scan_apply, onStream_apply, hrenew]
      have h₂ : r₂.Represents p ⟨w', .ofBytes s.output⟩ s :=
        represents_of_written (hops ▸ h₁.operations) (hmod.trans h₁.modified) hpending hw'
          (hcap ▸ h₁.capacity) rfl
      by_cases hrest : s.rest = []
      · simp only [hrest, ne_eq, not_true_eq_false, decide_false, Bool.false_eq_true, if_false]
        exact ends_of_nil h₂ hrest hpending
      · simp only [ne_eq, hrest, not_false_eq_true, decide_true, if_true]
        refine ⟨s, h₂, ?_, fun _ => id⟩
        -- the window shows something now, which the measure takes for progress
        have hne := hw'.ahead_ne_nil hfull h₁.window.room hrest
        have hpos : w'.ahead.length ≠ 0 := by
          rw [w'.ahead.length_eq]
          exact fun hzero => hne (List.length_eq_zero_iff.1 hzero)
        have hzero : σ.window.ahead.length = 0 := by
          have : σ₁.window.ahead.length = 0 := by rw [σ₁.window.ahead.length_eq, hempty]; rfl
          omega
        simp only [turnsLeft, hpos, hzero, if_true, if_false, hw'.remaining, h.window.remaining]
        omega
    · rw [if_neg (by rw [Tape.isEmpty_eq]; simpa using hempty)]
      have hpos : 0 < σ₁.window.ahead.length := by
        rw [σ₁.window.ahead.length_eq]
        exact List.length_pos_iff.2 hempty
      have hconsume := consume_advances hd h₁ hsees hpos
      cases hx : p.consume r₁ σ₁ with
      | error e σ₂ =>
        rw [hx] at hconsume
        exact hconsume
      | ok r₂ σ₂ =>
        rw [hx] at hconsume
        obtain ⟨s', h₂, hlt, hends⟩ := hconsume
        obtain ⟨r₃, hflush, hops, hmod, hpending⟩ := flushIfDue_apply (p := p) r₂ σ₂
        simp only [hflush]
        refine ⟨s', ⟨hops ▸ h₂.operations, hmod.trans h₂.modified, h₂.window, h₂.capacity,
          hpending ▸ h₂.pending, hpending ▸ h₂.output⟩, ?_, hends⟩
        simp only [turnsLeft, h₂.window.remaining, h.window.remaining]
        split <;> split <;> omega

/-- **The loop of a run** ends as its stage does, whatever window it has. -/
theorem ends_loop (hd : p.dispatch.Lawful) (bound : Nat) : ∀ {r : RunState} {σ : Session Memory}
    {s : Stage}, r.Represents p σ s → turnsLeft σ < bound →
      s.Ends p.context p.dispatch (settled (loop p.turn id bound r σ)) := by
  induction bound with
  | zero => intro r σ s _ hlt; omega
  | succ bound ih =>
    intro r σ s h hlt
    have hturn := turn_spec hd h
    rw [loop_succ]
    cases hx : p.turn r σ with
    | error e σ' => rw [hx] at hturn; exact hturn
    | ok turn σ' =>
      rw [hx] at hturn
      cases turn with
      | stop r' => exact hturn
      | again r' =>
        obtain ⟨s', h', hless, hends⟩ := hturn
        exact hends _ (ih h' (by omega))

/-- What a run leaves, as its end. -/
def outcome : EStateM.Result Error (Session Memory) Bool → Stage.Outcome
  | .ok modified σ => (.ok modified, σ.target.toBytes)
  | .error e σ => (.error e, σ.target.toBytes)

/-- **A run over a window** ends as its stage does. -/
theorem ends_drive (hd : p.dispatch.Lawful) {operations : List Operation} {s : Stage}
    (h : (start operations σ.window).Represents p σ s) :
    s.Ends p.context p.dispatch (outcome (p.drive operations σ)) := by
  have hends := ends_loop hd (2 * σ.window.remaining + 2) h
    (by simp only [turnsLeft]; split <;> omega)
  simp only [drive, bind_apply, get_apply]
  cases hx : loop p.turn id (2 * σ.window.remaining + 2) (start operations σ.window) σ with
  | error e σ' => rw [hx] at hends; exact hends
  | ok r σ' =>
    rw [hx] at hends
    simp only [settled, Stage.result] at hends
    cases hfinish : finish r.operations with
    | error e => rw [hfinish] at hends; simp only [hfinish]; exact hends
    | ok _ => rw [hfinish] at hends; simp only [hfinish]; exact hends

end RunPlan

end Templating
