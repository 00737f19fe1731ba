import Templating.Proofs.Residue

/-!
# What a run does to its output

A run looks back at its output only to cut it, and what it does next does not depend on what it
finds there. So its steps are a list of edits, the same whatever the output held before.

* `Operation.handle_text`: handling a token cuts the text written so far and appends to it.
* `Stage.next_text`: so does every step.
* `Stage.Edits`: the edits of a run, in order.
* `Stage.Edits.ends`: a run from any output replays them.
-/

namespace Templating

/-- What a step does to the text written so far: a policy cuts it, and bytes are appended. -/
structure Edit where
  policy : WhitespacePolicy
  appended : Bytes

namespace Edit

variable (g : Glossary)

def apply (edit : Edit) (text : Bytes) : Bytes := edit.policy.residue g text ++ edit.appended

def replay (edits : List Edit) (text : Bytes) : Bytes :=
  edits.foldl (fun text edit => edit.apply g text) text

theorem replay_cons (edit : Edit) (edits : List Edit) (text : Bytes) :
    replay g (edit :: edits) text = replay g edits (edit.apply g text) := rfl

theorem apply_keep (appended text : Bytes) :
    (Edit.mk .keep appended).apply g text = text ++ appended := by
  rw [apply, WhitespacePolicy.residue_keep]

theorem apply_cut (policy : WhitespacePolicy) (text : Bytes) :
    (Edit.mk policy []).apply g text = policy.residue g text :=
  List.append_nil _

end Edit

/-! ## Handling -/

namespace Memory

/-- Two targets with a text each, behind what lies below the floor. -/
def Hold (below below' text text' : Bytes) (t t' : Memory) : Prop :=
  t = .ofBytes (below ++ text) ∧ t' = .ofBytes (below' ++ text')

end Memory

variable {ctx : Context} {below below' : Bytes}

/-- What has been cut by a policy is not changed by another cut. -/
theorem WhitespacePolicy.simulates_before_cut (hg : ctx.glossary.Made) (policy : WhitespacePolicy)
    (hbelow : below.length = ctx.floor) (hbelow' : below'.length = ctx.floor)
    (text text' : Bytes) :
    Simulates (Session.Alike Eq (Memory.Hold below below' (policy.residue ctx.glossary text)
      (policy.residue ctx.glossary text'))) Eq (policy.before ctx) (policy.before ctx) := by
  rintro ⟨w, t⟩ ⟨w', t'⟩ ⟨rfl, rfl, rfl⟩
  rw [before_apply hg policy w hbelow, before_apply hg policy w hbelow', residue_residue hg,
    residue_residue hg]
  exact .ok rfl ⟨rfl, rfl, rfl⟩

theorem WhitespacePolicy.simulates_after_same (policy : WhitespacePolicy)
    {T : Memory → Memory → Prop} : Simulates (Session.Alike Eq T) Eq
      (policy.after ctx : EStateM Error (Session Memory) Unit) (policy.after ctx) := by
  cases policy with
  | keep => exact Simulates.pure rfl
  | wholeLine => exact Session.simulates_onWindow (Simulates.same _)
  | trim => exact Session.simulates_onWindow (Simulates.same _)

namespace Conditional

variable {c : Conditional}

theorem twin_same (hc : c.scan.Lawful) {T : Memory → Memory → Prop}
    (hbefore : Simulates (Session.Alike Eq T) Eq (c.whitespace.before ctx)
      (c.whitespace.before ctx)) : Twin Eq T ctx ctx c c where
  marker _ := rfl
  strict := rfl
  blocks := rfl
  lawful := hc
  lawful' := hc
  seek := Simulates.same _
  evaluate := Simulates.same _
  before := hbefore
  after := c.whitespace.simulates_after_same

/-- The first thing that handling a marker does is to cut the text. -/
theorem dispatch_cut (hg : ctx.glossary.Made) (c : Conditional) (marker : Marker) (w : Window)
    (hbelow : below.length = ctx.floor) (text : Bytes) :
    c.dispatch ctx marker (⟨w, .ofBytes (below ++ text)⟩ : Session Memory) =
      c.dispatch ctx marker
        ⟨w, .ofBytes (below ++ c.whitespace.residue ctx.glossary text)⟩ := by
  have hturn : c.turn ctx (marker, c.blocks) (⟨w, .ofBytes (below ++ text)⟩ : Session Memory) =
      c.turn ctx (marker, c.blocks)
        ⟨w, .ofBytes (below ++ c.whitespace.residue ctx.glossary text)⟩ := by
    have hbefore := WhitespacePolicy.before_apply hg c.whitespace w hbelow
    simp only [turn, bind_apply, hbefore, WhitespacePolicy.residue_residue hg]
  simp only [dispatch, bind_apply, get_apply]
  rw [loop_succ, loop_succ, hturn]

/-- **Handling a marker** cuts the text by the policy; nothing else depends on the text. -/
theorem dispatch_text (hg : ctx.glossary.Made) (hc : c.scan.Lawful) (marker : Marker) (w : Window)
    (hbelow : below.length = ctx.floor) (hbelow' : below'.length = ctx.floor)
    (text text' : Bytes) :
    Agree (Session.Alike Eq (Memory.Hold below below' (c.whitespace.residue ctx.glossary text)
        (c.whitespace.residue ctx.glossary text'))) Eq
      (c.dispatch ctx marker (⟨w, .ofBytes (below ++ text)⟩ : Session Memory))
      (c.dispatch ctx marker (⟨w, .ofBytes (below' ++ text')⟩ : Session Memory)) := by
  rw [dispatch_cut hg c marker w hbelow, dispatch_cut hg c marker w hbelow']
  exact (twin_same hc (c.whitespace.simulates_before_cut hg hbelow hbelow' text text')).dispatch
    marker _ _ ⟨rfl, rfl, rfl⟩

end Conditional

namespace Region

variable {r : Region}

theorem handle_cut (hg : ctx.glossary.Made) (r : Region) (token : Nat) (w : Window)
    (hbelow : below.length = ctx.floor) (text : Bytes) :
    r.handle ctx token (⟨w, .ofBytes (below ++ text)⟩ : Session Memory) =
      r.handle ctx token ⟨w, .ofBytes (below ++ r.whitespace.residue ctx.glossary text)⟩ := by
  have hbefore := WhitespacePolicy.before_apply hg r.whitespace w hbelow
  unfold handle
  rw [bind_apply, bind_apply, hbefore, hbefore, WhitespacePolicy.residue_residue hg]

/-- A region on two targets, as long as cuts keep them related. -/
theorem simulates_handle_same {T : Memory → Memory → Prop} (token : Nat)
    (hbefore : Simulates (Session.Alike Eq T) Eq (r.whitespace.before ctx)
      (r.whitespace.before ctx)) :
    Simulates (Session.Alike Eq T) (fun x y => x = y ∧ ∃ depth, x = { r with depth := depth })
      (r.handle ctx token) (r.handle ctx token) := by
  rw [handle_eq]
  refine hbefore.bind fun _ _ _ => ?_
  refine (Session.simulates_onWindow (Simulates.same _)).bind fun _ _ _ => ?_
  exact r.whitespace.simulates_after_same.bind fun _ _ _ => Simulates.pure ⟨rfl, _, rfl⟩

theorem handle_text (hg : ctx.glossary.Made) (r : Region) (token : Nat) (w : Window)
    (hbelow : below.length = ctx.floor) (hbelow' : below'.length = ctx.floor)
    (text text' : Bytes) :
    Agree (Session.Alike Eq (Memory.Hold below below' (r.whitespace.residue ctx.glossary text)
        (r.whitespace.residue ctx.glossary text')))
      (fun x y => x = y ∧ ∃ depth, x = { r with depth := depth })
      (r.handle ctx token (⟨w, .ofBytes (below ++ text)⟩ : Session Memory))
      (r.handle ctx token (⟨w, .ofBytes (below' ++ text')⟩ : Session Memory)) := by
  rw [handle_cut hg r token w hbelow, handle_cut hg r token w hbelow']
  exact simulates_handle_same token
    (r.whitespace.simulates_before_cut hg hbelow hbelow' text text') _ _ ⟨rfl, rfl, rfl⟩

end Region

namespace Operation

/-- The operation in the state in which it is made. -/
def fresh : Operation → Operation
  | conditional c => conditional { c with blocks := [] }
  | region r => region { r with depth := 0 }
  | replacement r => replacement r
  | expansion names => expansion names

/-- An operation that searches with lawful tables. -/
def Sound : Operation → Prop
  | conditional c => c.scan.Lawful
  | region r => r.markers.Lawful
  | replacement _ => True
  | expansion _ => True

/-- **What an operation does to the text** when it handles a token. -/
def edit (g : Glossary) (token : Nat) : Operation → Edit
  | conditional c => ⟨if (c.marker? token).isSome then c.whitespace else .keep, []⟩
  | region r => ⟨r.whitespace, []⟩
  | replacement r => ⟨.keep, r.text⟩
  | expansion _ =>
    ⟨.keep, if (g.resolve token).isNull then [] else expansionText g (g.resolve token)⟩

theorem sound_fresh (o : Operation) : o.fresh.Sound ↔ o.Sound := by cases o <;> exact Iff.rfl

theorem sound_of_matches {o o' : Operation} (h : Matches ctx o o') : o.Sound := by
  cases h with
  | conditional h => exact h.lawful
  | region h => exact h.lawful
  | replacement _ => exact trivial
  | expansion _ => exact trivial

/-- A text that is written goes to the end of both targets. -/
theorem write_text (w : Window) (text text' appended : Bytes) :
    Agree (Session.Alike Eq (Memory.Hold below below' (text ++ appended) (text' ++ appended))) Eq
      (Session.write appended (⟨w, .ofBytes (below ++ text)⟩ : Session Memory))
      (Session.write appended (⟨w, .ofBytes (below' ++ text')⟩ : Session Memory)) := by
  rw [Session.write_apply, Session.write_apply]
  refine .ok rfl ⟨rfl, ?_, ?_⟩ <;> rw [Memory.toBytes_ofBytes, List.append_assoc]

theorem expandVariable_text (w : Window) (text text' : Bytes) (slot : Nat) :
    Agree (Session.Alike Eq (Memory.Hold below below'
        (text ++ if (ctx.glossary.resolve slot).isNull then []
          else expansionText ctx.glossary (ctx.glossary.resolve slot))
        (text' ++ if (ctx.glossary.resolve slot).isNull then []
          else expansionText ctx.glossary (ctx.glossary.resolve slot)))) Eq
      (expandVariable ctx.glossary slot (⟨w, .ofBytes (below ++ text)⟩ : Session Memory))
      (expandVariable ctx.glossary slot (⟨w, .ofBytes (below' ++ text')⟩ : Session Memory)) := by
  unfold expandVariable
  split
  · rw [List.append_nil, List.append_nil]
    exact .ok rfl ⟨rfl, rfl, rfl⟩
  · exact write_text w text text' _

/-- **Handling a token edits the text.** What it does otherwise is the same for all targets. -/
theorem handle_text {o : Operation} (hg : ctx.glossary.Made) (ho : o.Sound) (token : Nat)
    (w : Window) (hbelow : below.length = ctx.floor) (hbelow' : below'.length = ctx.floor)
    (text text' : Bytes) :
    Agree (Session.Alike Eq (Memory.Hold below below' ((o.edit ctx.glossary token).apply
        ctx.glossary text) ((o.edit ctx.glossary token).apply ctx.glossary text')))
      (fun x y => x = y ∧ x.1.fresh = o.fresh)
      (o.handle ctx token (⟨w, .ofBytes (below ++ text)⟩ : Session Memory))
      (o.handle ctx token (⟨w, .ofBytes (below' ++ text')⟩ : Session Memory)) := by
  cases o with
  | conditional c =>
    cases hm : c.marker? token with
    | none =>
      have hstay : ∀ σ : Session Memory, (conditional c).handle ctx token σ =
          .ok (conditional c, 0) σ := by
        intro σ
        simp only [handle, Conditional.handle, hm, bind_apply, pure_apply]
      rw [hstay, hstay]
      refine .ok ⟨rfl, rfl⟩ ⟨rfl, ?_⟩
      simp only [edit, hm, Option.isSome_none, Bool.false_eq_true, if_false, Edit.apply_keep,
        List.append_nil]
      exact ⟨rfl, rfl⟩
    | some marker =>
      have hdispatch := Conditional.dispatch_text hg ho marker w hbelow hbelow' text text'
      simp only [edit, hm, Option.isSome_some, if_true, Edit.apply_cut]
      have hhandle : (conditional c).handle ctx token = (do
          let blocks ← c.dispatch ctx marker
          pure (conditional { c with blocks := blocks }, 0) :
            EStateM Error (Session Memory) (Operation × Nat)) := by
        simp only [handle, Conditional.handle, hm, bind_assoc, pure_bind]
      rw [hhandle]
      refine hdispatch.bind ?_
      rintro blocks _ rfl
      exact Simulates.pure ⟨rfl, rfl⟩
  | region r =>
    simp only [edit, Edit.apply_cut]
    refine (r.handle_text hg token w hbelow hbelow' text text').bind ?_
    rintro _ _ ⟨rfl, depth, rfl⟩
    exact Simulates.pure ⟨rfl, rfl⟩
  | replacement r =>
    simp only [edit, Edit.apply_keep]
    refine (write_text w text text' r.text).bind ?_
    rintro written _ rfl
    exact Simulates.pure ⟨rfl, rfl⟩
  | expansion names =>
    simp only [edit, Edit.apply_keep]
    refine (expandVariable_text w text text' token).bind ?_
    rintro written _ rfl
    exact Simulates.pure ⟨rfl, rfl⟩

/-- An operation that has handled a token is still the same one. -/
theorem map_fresh_set {operations : List Operation} {i : Nat} {o x : Operation}
    (h : operations[i]? = some o) (hx : x.fresh = o.fresh) :
    (operations.set i x).map fresh = operations.map fresh := by
  obtain ⟨hi, rfl⟩ := List.getElem?_eq_some_iff.1 h
  rw [List.map_set, hx, ← List.map_set, List.set_getElem_self]

end Operation

/-! ## Steps -/

namespace Stage

variable {d : Dispatch} {s : Stage}

/-- What the next step does to the text. -/
def edit (g : Glossary) (d : Dispatch) (s : Stage) : Edit :=
  match s.rest with
  | [] => ⟨.keep, []⟩
  | b :: rest =>
    match d.match? (b :: rest) with
    | none => ⟨.keep, [b]⟩
    | some (handler, _) =>
      (s.operations[handler.operation]?).elim ⟨.keep, []⟩ (·.edit g handler.token)

/-- **Every step edits the text.** Where the run goes from there is the same for all outputs. -/
theorem next_text (hg : ctx.glossary.Made) (hs : ∀ o ∈ s.operations, o.Sound)
    (hbelow : below.length = ctx.floor) (hbelow' : below'.length = ctx.floor)
    (text text' : Bytes) :
    Turn.Agree
      (fun s₁ s₂ => s₁.operations.map Operation.fresh = s.operations.map Operation.fresh ∧
        s₁.output = below ++ (s.edit ctx.glossary d).apply ctx.glossary text ∧
        s₂ = { s₁ with output := below' ++ (s.edit ctx.glossary d).apply ctx.glossary text' })
      (fun o o' => o.2 = below ++ (s.edit ctx.glossary d).apply ctx.glossary text ∧
        o' = (o.1, below' ++ (s.edit ctx.glossary d).apply ctx.glossary text'))
      (({ s with output := below ++ text } : Stage).next ctx d)
      (({ s with output := below' ++ text' } : Stage).next ctx d) := by
  obtain ⟨operations, modified, rest, output⟩ := s
  cases rest with
  | nil =>
    simp only [next, edit, Edit.apply_keep, List.append_nil]
    exact .stop ⟨rfl, rfl⟩
  | cons b rest =>
    cases hm : d.match? (b :: rest) with
    | none =>
      simp only [next, edit, hm, Edit.apply_keep, ← List.append_assoc]
      exact .again ⟨rfl, rfl, rfl⟩
    | some found =>
      obtain ⟨handler, length⟩ := found
      cases ho : operations[handler.operation]? with
      | none =>
        simp only [next, edit, hm, Stage.handled, ho, Option.elim_none, Edit.apply_keep,
          List.append_nil]
        exact .again ⟨rfl, rfl, rfl⟩
      | some o =>
        have hsound := hs o (List.mem_of_getElem? ho)
        have hhandle := Operation.handle_text hg hsound handler.token
          (.whole ((b :: rest).drop length)) hbelow hbelow' text text'
        simp only [next, edit, hm, Stage.handled, ho, Option.elim_some]
        generalize o.handle ctx handler.token (⟨.whole ((b :: rest).drop length),
          .ofBytes (below ++ text)⟩ : Session Memory) = x at hhandle ⊢
        generalize o.handle ctx handler.token (⟨.whole ((b :: rest).drop length),
          .ofBytes (below' ++ text')⟩ : Session Memory) = y at hhandle ⊢
        cases hhandle with
        | @ok x _ σ σ' hx halike =>
          obtain ⟨w, t⟩ := σ
          obtain ⟨w', t'⟩ := σ'
          obtain ⟨rfl, hfresh⟩ := hx
          obtain ⟨(rfl : w = w'), (rfl : t = _), (rfl : t' = _)⟩ := halike
          exact .again ⟨Operation.map_fresh_set ho hfresh, rfl, rfl⟩
        | @error e σ σ' halike =>
          obtain ⟨w, t⟩ := σ
          obtain ⟨w', t'⟩ := σ'
          obtain ⟨-, (rfl : t = _), (rfl : t' = _)⟩ := halike
          exact .stop ⟨rfl, rfl⟩

/-- A stage at which the operations search with lawful tables and the byte-order mark has been
written. -/
structure Sound (ctx : Context) (s : Stage) : Prop where
  operations : ∀ o ∈ s.operations, o.Sound
  floor_le : ctx.floor ≤ s.output.length

/-- The next step from a stage, and from the same one with another output. -/
theorem next_from (hg : ctx.glossary.Made) (hs : s.Sound ctx) (hbelow : below.length = ctx.floor)
    (text : Bytes) :
    Turn.Agree
      (fun s₁ s₂ => s₁.operations.map Operation.fresh = s.operations.map Operation.fresh ∧
        s₁.output = s.output.take ctx.floor ++
          (s.edit ctx.glossary d).apply ctx.glossary (s.output.drop ctx.floor) ∧
        s₂ = { s₁ with output := below ++ (s.edit ctx.glossary d).apply ctx.glossary text })
      (fun o o' => o.2 = s.output.take ctx.floor ++
          (s.edit ctx.glossary d).apply ctx.glossary (s.output.drop ctx.floor) ∧
        o' = (o.1, below ++ (s.edit ctx.glossary d).apply ctx.glossary text))
      (s.next ctx d) (({ s with output := below ++ text } : Stage).next ctx d) := by
  have hagree := next_text (d := d) hg hs.operations (List.length_take_of_le hs.floor_le) hbelow
    (s.output.drop ctx.floor) text
  rw [List.take_append_drop] at hagree
  exact hagree

theorem next_again (hg : ctx.glossary.Made) (hs : s.Sound ctx) {s' : Stage}
    (hn : s.next ctx d = .again s') :
    s'.operations.map Operation.fresh = s.operations.map Operation.fresh ∧
      s'.output = s.output.take ctx.floor ++
        (s.edit ctx.glossary d).apply ctx.glossary (s.output.drop ctx.floor) ∧
      ∀ below text : Bytes, below.length = ctx.floor →
        ({ s with output := below ++ text } : Stage).next ctx d = .again
          { s' with output := below ++ (s.edit ctx.glossary d).apply ctx.glossary text } := by
  have hfrom := fun (below text : Bytes) (hbelow : below.length = ctx.floor) =>
    (hn ▸ next_from (d := d) hg hs hbelow text).again_left
  obtain ⟨-, -, hfresh, houtput, -⟩ := hfrom _ [] (List.length_take_of_le hs.floor_le)
  refine ⟨hfresh, houtput, fun below text hbelow => ?_⟩
  obtain ⟨s₂, hnext, -, -, rfl⟩ := hfrom below text hbelow
  exact hnext

theorem next_stop (hg : ctx.glossary.Made) (hs : s.Sound ctx) {o : Outcome}
    (hn : s.next ctx d = .stop o) :
    o.2 = s.output.take ctx.floor ++
        (s.edit ctx.glossary d).apply ctx.glossary (s.output.drop ctx.floor) ∧
      ∀ below text : Bytes, below.length = ctx.floor →
        ({ s with output := below ++ text } : Stage).next ctx d =
          .stop (o.1, below ++ (s.edit ctx.glossary d).apply ctx.glossary text) := by
  have hfrom := fun (below text : Bytes) (hbelow : below.length = ctx.floor) =>
    (hn ▸ next_from (d := d) hg hs hbelow text).stop_left
  obtain ⟨-, -, houtput, -⟩ := hfrom _ [] (List.length_take_of_le hs.floor_le)
  refine ⟨houtput, fun below text hbelow => ?_⟩
  obtain ⟨o₂, hnext, -, rfl⟩ := hfrom below text hbelow
  exact hnext

/-- What holds of operations whatever blocks and regions are open holds after a step. -/
theorem forall_next {P : Operation → Prop} (hP : ∀ o, P o.fresh ↔ P o) (hg : ctx.glossary.Made)
    (hs : s.Sound ctx) {s' : Stage} (hn : s.next ctx d = .again s')
    (h : ∀ o ∈ s.operations, P o) : ∀ o ∈ s'.operations, P o := by
  obtain ⟨hfresh, -, -⟩ := next_again hg hs hn
  intro o ho
  have hmem : o.fresh ∈ s.operations.map Operation.fresh := hfresh ▸ List.mem_map_of_mem ho
  obtain ⟨o', ho', heq⟩ := List.mem_map.1 hmem
  rw [← hP, ← heq, hP]
  exact h o' ho'

theorem Sound.next (hg : ctx.glossary.Made) (hs : s.Sound ctx) {s' : Stage}
    (hn : s.next ctx d = .again s') : s'.Sound ctx := by
  refine ⟨forall_next Operation.sound_fresh hg hs hn hs.operations, ?_⟩
  obtain ⟨-, houtput, -⟩ := next_again hg hs hn
  rw [houtput, List.length_append, List.length_take_of_le hs.floor_le]
  exact Nat.le_add_right _ _

/-! ## Runs -/

/-- **The edits of a run** from a stage on, in order. -/
inductive Edits (ctx : Context) (d : Dispatch) : Stage → List Edit → Prop
  | stops {s : Stage} {o : Outcome} : s.next ctx d = .stop o →
      Edits ctx d s [s.edit ctx.glossary d]
  | goesOn {s s' : Stage} {edits : List Edit} : s.next ctx d = .again s' →
      Edits ctx d s' edits → Edits ctx d s (s.edit ctx.glossary d :: edits)

theorem Ends.exists_edits {o : Outcome} (h : s.Ends ctx d o) : ∃ edits, s.Edits ctx d edits := by
  induction h with
  | stops hn => exact ⟨_, .stops hn⟩
  | goesOn hn _ ih =>
    obtain ⟨edits, hedits⟩ := ih
    exact ⟨_, .goesOn hn hedits⟩

/-- **A run replays its edits**, on whatever text there is before. -/
theorem Edits.ends (hg : ctx.glossary.Made) {edits : List Edit} (h : s.Edits ctx d edits)
    (hs : s.Sound ctx) : ∃ result, ∀ below text : Bytes, below.length = ctx.floor →
      ({ s with output := below ++ text } : Stage).Ends ctx d
        (result, below ++ Edit.replay ctx.glossary edits text) := by
  induction h with
  | @stops s o hn =>
    exact ⟨o.1, fun below text hbelow => .stops ((next_stop hg hs hn).2 below text hbelow)⟩
  | @goesOn s s' edits hn hedits ih =>
    obtain ⟨-, -, hnext⟩ := next_again hg hs hn
    obtain ⟨result, hends⟩ := ih (hs.next hg hn)
    exact ⟨result, fun below text hbelow =>
      .goesOn (hnext below text hbelow) (hends below _ hbelow)⟩

/-- The stage of a run after the byte-order mark of its source. -/
def entered (bytes : Bytes) (operations : List Operation) : Stage :=
  ⟨operations, false, bytes.drop (Encoding.detect bytes).2, bytes.take (Encoding.detect bytes).2⟩

end Stage

theorem Processor.made_glossary (p : Processor) (bytes : Bytes) : (p.glossary bytes).Made :=
  ⟨_, _, _, rfl⟩

theorem Processor.sound_entered {p : Processor} {bytes : Bytes} {operations : List Operation}
    (h : p.materialize (p.glossary bytes) = .ok operations) :
    (Stage.entered bytes operations).Sound (p.context bytes) :=
  ⟨fun _ ho => Operation.sound_of_matches (matches_of_materialize h ho),
    (List.length_take_of_le (Encoding.detect_le bytes)).ge⟩

end Templating
