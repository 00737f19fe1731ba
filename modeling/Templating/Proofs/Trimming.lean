import Templating.Proofs.Coupling
import Templating.Proofs.Meaning
import Templating.Proofs.Passthrough
import Templating.Proofs.Regions
import Templating.Proofs.Transparency
import Templating.Proofs.Validity

/-!
# Trimming

A run that trims the blanks around its markers and one that keeps them find the same markers,
read the same conditions and leave out the same text, so their outputs have the same ink. What
they need for it is that no marker begins with a blank: then no marker stands where only one of
the two runs still looks, and where a marker has been found both are at the same place.

* `Conditional.couples_dispatch`, `Region.couples_handle`: handling a marker.
* `Stage.Ends.trimmed`: the runs from two stages that have drifted apart.
* `Processor.run_trimmed`: two runs over a source.
-/

namespace Templating

/-! ### Tokens that begin with no blank -/

/-- A token that does not begin with a blank. -/
def Solid (token : Bytes) : Prop := ∀ b ∈ token.head?, isBlank b = false

theorem Solid.not_at_blank {token rest : Bytes} {b : UInt8} (h : Solid token) (hne : token ≠ [])
    (hb : isBlank b = true) : ¬ token <+: b :: rest := by
  rintro ⟨more, hmore⟩
  obtain ⟨first, token, rfl⟩ := List.exists_cons_of_ne_nil hne
  obtain ⟨rfl, -⟩ := List.cons.inj hmore
  cases hb.symm.trans (h first rfl)

/-- Blanks before a text hide no marker. -/
theorem Drifts.places_eq {tokens : List (Bytes × Marker)} (hsolid : ∀ e ∈ tokens, Solid e.1)
    {k k' : Bytes} (h : Drifts k k') : places tokens k = places tokens k' := by
  obtain ⟨blanks, hblanks, rfl⟩ := h
  induction blanks with
  | nil => rfl
  | cons b blanks ih =>
    obtain ⟨hb, hrest⟩ := List.forall_mem_cons.1 hblanks
    have hnone : longestMatch? tokens (b :: (blanks ++ k')) = none :=
      longestMatch?_eq_none.2 fun e he hne => (hsolid e he).not_at_blank hne hb
    rw [List.cons_append, places_of_none hnone]
    exact ih hrest

/-! ### Conditional blocks -/

namespace Conditional

/-- The same blocks, with the blanks around markers removed. -/
def trimmed (c : Conditional) : Conditional := { c with whitespace := .trim }

variable {c : Conditional} {ctx : Context} {v : Variables} {format : String}

/-- What two runs have come to after a turn: they are at the same marker, or they go on apart. -/
def Settled (floor : Nat) (turn turn' : Turn (Marker × List Bool) (List Bool))
    (σ σ' : Session Memory) : Prop :=
  turn = turn' ∧
    turn.Holds (fun _ => Session.Together floor σ σ') (fun _ => Session.Apart floor σ σ')

/-- **After a branch that is left out** both runs are at the same marker, wherever they have
started to skip. -/
theorem couples_resume (hc : c.Keeps) (hsolid : ∀ e ∈ c.entries, Solid e.1) (floor : Nat)
    (sought : Sought) (blocks : List Bool) :
    Couples (Session.Apart floor) Session.SameInk (c.resume sought blocks)
      (c.trimmed.resume sought blocks) (Settled floor) := by
  rintro σ σ' ⟨k, k', hdrifts, htrails⟩
  have hplaces : places c.entries k' = places c.entries k := (hdrifts.places_eq hsolid).symm
  have hskip := gives_skip_places hc.scans sought k
  have hskip' := gives_skip_places (c := c.trimmed) hc.scans sought k'
  have hentries : c.trimmed.entries = c.entries := rfl
  rw [hentries, hplaces] at hskip'
  rw [resume_eq, resume_eq]
  refine (Session.couples_onWindow hskip hskip').bind (fun marker marker' => ?_) σ σ' htrails
  rintro τ τ' ⟨rfl, rfl, hafter⟩
  have hsame : c.trimmed.unterminated blocks = c.unterminated blocks := rfl
  cases skipTo sought 0 (places c.entries k) with
  | some found => exact .ok ⟨rfl, _, hafter⟩
  | none =>
    simp only [Option.map_none, resumed, hsame]
    cases c.unterminated blocks with
    | ok closed => exact .ok ⟨rfl, Session.Together.apart ⟨_, hafter⟩⟩
    | error cause => exact .error hafter.ink_eq

/-- Blanks after a marker. -/
theorem couples_passed (hc : c.Keeps) (hg : ctx.glossary = .make .utf8 v format)
    (blocks : List Bool) : Couples (Session.Together ctx.floor) Session.SameInk
      (do c.whitespace.after ctx; pure (.stop blocks) : EStateM Error (Session Memory) _)
      (do c.trimmed.whitespace.after ctx; pure (.stop blocks)) (Settled ctx.floor) := by
  rw [hc.keep]
  exact (WhitespacePolicy.couples_after hg).bind fun _ _ => Couples.pure fun _ _ hapart =>
    ⟨rfl, hapart⟩

/-- **A condition** is read by both runs at the same place. -/
theorem couples_decideBranch (hc : c.Keeps) (hsolid : ∀ e ∈ c.entries, Solid e.1)
    (hg : ctx.glossary = .make .utf8 v format) (blocks : List Bool) :
    Couples (Session.Together ctx.floor) Session.SameInk (c.decideBranch ctx blocks)
      (c.trimmed.decideBranch ctx blocks) (Settled ctx.floor) := by
  have hevaluate : Simulates Window.Alike Eq (c.evaluator.evaluate : EStateM Error Window Bool)
      c.evaluator.evaluate := c.evaluator.simulates_evaluate (Window.lockstep hc.lawful)
  refine (Session.couples_scan hevaluate).bind fun holds holds' => ?_
  rintro σ σ' ⟨rfl, htogether⟩
  have hafter := WhitespacePolicy.couples_after hg
  rw [← hc.keep] at hafter
  refine hafter.bind (fun _ _ => ?_) σ σ' htogether
  cases holds with
  | true => exact Couples.pure fun _ _ hapart => ⟨rfl, hapart⟩
  | false => exact couples_resume hc hsolid ctx.floor .branch blocks

theorem couples_orphan (hc : c.Keeps) (hg : ctx.glossary = .make .utf8 v format)
    (marker : Marker) (blocks : List Bool) : Couples (Session.Together ctx.floor) Session.SameInk
      (c.orphan ctx marker blocks) (c.trimmed.orphan ctx marker blocks) (Settled ctx.floor) := by
  unfold orphan
  have hstrict : c.trimmed.strict = c.strict := rfl
  rw [hstrict]
  split
  · exact Couples.throw fun _ _ htogether => htogether.apart.sameInk
  · exact couples_passed hc hg blocks

/-- **One marker** is handled by both runs. -/
theorem couples_turn (hc : c.Keeps) (hsolid : ∀ e ∈ c.entries, Solid e.1)
    (hg : ctx.glossary = .make .utf8 v format) (at? : Marker × List Bool) :
    Couples (Session.Together ctx.floor) Session.SameInk (c.turn ctx at?) (c.trimmed.turn ctx at?)
      (Settled ctx.floor) := by
  rw [turn_eq, turn_eq]
  have hbefore := WhitespacePolicy.couples_before hg
  rw [← hc.keep] at hbefore
  refine hbefore.bind fun _ _ => ?_
  cases course at?.1 at?.2 with
  | branch blocks => exact couples_decideBranch hc hsolid hg blocks
  | leaveOut blocks =>
    exact (couples_resume hc hsolid ctx.floor .block blocks).mono
      (fun _ _ htogether => htogether.apart) fun _ _ _ _ hsettled => hsettled
  | passOn blocks => exact couples_passed hc hg blocks
  | orphan marker => exact couples_orphan hc hg marker []

/-- **A marker is handled** by both runs with all that it leads to. -/
theorem couples_dispatch (hc : c.Keeps) (hsolid : ∀ e ∈ c.entries, Solid e.1)
    (hg : ctx.glossary = .make .utf8 v format) (marker : Marker) :
    Couples (Session.Together ctx.floor) Session.SameInk (c.dispatch ctx marker)
      (c.trimmed.dispatch ctx marker) fun blocks blocks' σ σ' =>
        blocks = blocks' ∧ Session.Apart ctx.floor σ σ' := by
  rintro σ σ' ⟨k, htrails⟩
  -- both loops have the same bound, since both runs have the same bytes before them
  have hremaining : σ'.window.remaining = σ.window.remaining :=
    htrails.window'.remaining.trans htrails.window.remaining.symm
  have hblocks : c.trimmed.blocks = c.blocks := rfl
  simp only [dispatch, bind_apply, get_apply, hremaining, hblocks]
  exact Couples.loop (couples_turn hc hsolid hg) (fun _ _ _ htogether => htogether.apart) _
    (marker, c.blocks) σ σ' ⟨k, htrails⟩

end Conditional

/-! ### Regions -/

namespace Region

/-- The same region, with the blanks around markers removed. -/
def trimmed (r : Region) : Region := { r with whitespace := .trim }

variable {r : Region} {ctx : Context} {v : Variables} {format : String}

theorem couples_leaveOut (hr : r.markers.Lawful) (hg : ctx.glossary = .make .utf8 v format)
    (token : Nat) : Couples (Session.Together ctx.floor) Session.SameInk
      (Session.onWindow (r.leaveOut token)) (Session.onWindow (r.trimmed.leaveOut token))
      fun _ _ => Session.Together ctx.floor := by
  have htwin : r.Twin Window.Alike (Eq : Memory → Memory → Prop) ctx ctx r := {
    toggle := rfl
    included := rfl
    depth := rfl
    lawful := hr
    lawful' := hr
    seek := Window.simulates_seekUntil hr true
    before := WhitespacePolicy.simulates_before _
    after := WhitespacePolicy.simulates_after _ (hg ▸ TokenTable.lawful_ofList _)
      (hg ▸ TokenTable.lawful_ofList _) }
  exact (Session.couples_scan (htwin.leaveOut token).onStream).mono (fun _ _ h => h)
    fun _ _ _ _ h => h.2

/-- **A marker is handled** by both runs. -/
theorem couples_handle (hkeep : r.whitespace = .keep) (hr : r.markers.Lawful)
    (hg : ctx.glossary = .make .utf8 v format) (token : Nat) :
    Couples (Session.Together ctx.floor) Session.SameInk (r.handle ctx token)
      (r.trimmed.handle ctx token) fun next next' σ σ' =>
        next' = next.trimmed ∧ next.whitespace = .keep ∧ next.markers.Lawful ∧
          Session.Apart ctx.floor σ σ' := by
  have hbefore := WhitespacePolicy.couples_before hg
  have hafter := WhitespacePolicy.couples_after hg
  rw [← hkeep] at hbefore hafter
  rw [handle_eq, handle_eq]
  refine hbefore.bind fun _ _ => (couples_leaveOut hr hg token).bind fun _ _ => ?_
  exact hafter.bind fun _ _ => Couples.pure fun _ _ hapart => ⟨rfl, hkeep, hr, hapart⟩

end Region

/-! ### Operations -/

namespace Operation

/-- An operation that keeps the blanks around its markers, and the one that trims them. -/
inductive Trims : Operation → Operation → Prop
  | conditional {c : Conditional} : c.Keeps → (∀ e ∈ c.entries, Solid e.1) →
      Trims (.conditional c) (.conditional c.trimmed)
  | region {r : Region} : r.whitespace = .keep → r.markers.Lawful →
      Trims (.region r) (.region r.trimmed)

variable {o o' : Operation} {ctx : Context} {v : Variables} {format : String}

theorem Trims.tokens_eq (h : o.Trims o') : o'.tokens = o.tokens := by
  cases h <;> rfl

theorem Trims.finish_eq (h : o.Trims o') : o'.finish = o.finish := by
  cases h <;> rfl

/-- **A token is handled** by both runs. -/
theorem Trims.couples_handle (h : o.Trims o') (hg : ctx.glossary = .make .utf8 v format)
    (token : Nat) : Couples (Session.Together ctx.floor) Session.SameInk (o.handle ctx token)
      (o'.handle ctx token) fun x y σ σ' => x.1.Trims y.1 ∧ Session.Apart ctx.floor σ σ' := by
  cases h with
  | @conditional c hc hsolid =>
    have hmarker : c.trimmed.marker? token = c.marker? token := rfl
    refine Couples.bind (Q := fun next next' σ σ' => next' = next.trimmed ∧ next.Keeps ∧
      (∀ e ∈ next.entries, Solid e.1) ∧ Session.Apart ctx.floor σ σ') ?_ fun next next' => ?_
    · unfold Conditional.handle
      rw [hmarker]
      cases c.marker? token with
      | none => exact Couples.pure fun _ _ htogether => ⟨rfl, hc, hsolid, htogether.apart⟩
      | some marker =>
        refine (Conditional.couples_dispatch hc hsolid hg marker).bind fun blocks blocks' => ?_
        refine Couples.pure ?_
        rintro σ σ' ⟨rfl, hapart⟩
        exact ⟨rfl, ⟨hc.scans, hc.keep, hc.lawful⟩, hsolid, hapart⟩
    · refine Couples.pure ?_
      rintro σ σ' ⟨rfl, hkeeps, hsolid', hapart⟩
      exact ⟨.conditional hkeeps hsolid', hapart⟩
  | @region r hkeep hlawful =>
    refine (Region.couples_handle hkeep hlawful hg token).bind fun next next' => ?_
    refine Couples.pure ?_
    rintro σ σ' ⟨rfl, hkeep', hlawful', hapart⟩
    exact ⟨.region hkeep' hlawful', hapart⟩

end Operation

/-! ### Stages -/

namespace Stage

variable {ctx : Context} {d : Dispatch} {v : Variables} {format : String} {s s' t : Stage}

/-- **Two stages that have drifted apart**: the first one keeps the blanks around markers, and
may still have some before it that the second one has trimmed. -/
structure Trails (floor : Nat) (s s' : Stage) : Prop where
  operations : ∃ o o', s.operations = [o] ∧ s'.operations = [o'] ∧ o.Trims o'
  modified : s.modified = s'.modified
  drifts : Drifts s.rest s'.rest
  floor_le : floor ≤ s'.output.length
  ink_eq : ink s.output = ink s'.output

/-- What two runs make of a token: stages that have drifted apart, or the same failure. -/
inductive TrailsAfter (floor : Nat) :
    Except (Error × Bytes) Stage → Except (Error × Bytes) Stage → Prop
  | ok {t t' : Stage} : t.Trails floor t' → TrailsAfter floor (.ok t) (.ok t')
  | error {e : Error} {output output' : Bytes} : ink output = ink output' →
      TrailsAfter floor (.error (e, output)) (.error (e, output'))

theorem Trails.handled (hg : ctx.glossary = .make .utf8 v format) (hs : s.Trails ctx.floor s')
    (hrest : s'.rest = s.rest) (handler : Handler) (length : Nat) :
    TrailsAfter ctx.floor (s.handled ctx handler length) (s'.handled ctx handler length) := by
  obtain ⟨o, o', hoperations, hoperations', htrims⟩ := hs.operations
  simp only [Stage.handled, hoperations, hoperations', hrest]
  obtain ⟨operation, token⟩ := handler
  cases operation with
  | succ i => exact .ok ⟨⟨o, o', rfl, rfl, htrims⟩, rfl, .refl _, hs.floor_le, hs.ink_eq⟩
  | zero =>
    have hcoupled := htrims.couples_handle hg token
      ⟨.whole (s.rest.drop length), .ofBytes s.output⟩
      ⟨.whole (s.rest.drop length), .ofBytes s'.output⟩
      ⟨_, Window.at_whole _, Window.at_whole _, hs.floor_le, hs.ink_eq⟩
    simp only [List.getElem?_cons_zero, List.set_cons_zero]
    generalize o.handle ctx token (⟨.whole (s.rest.drop length), .ofBytes s.output⟩ :
      Session Memory) = x at hcoupled ⊢
    generalize o'.handle ctx token (⟨.whole (s.rest.drop length), .ofBytes s'.output⟩ :
      Session Memory) = y at hcoupled ⊢
    cases hcoupled with
    | error hink => exact .error hink
    | @ok a b σ σ' hq =>
      obtain ⟨htrims', k, k', hdrifts, htrails⟩ := hq
      refine .ok ⟨⟨_, _, rfl, rfl, htrims'⟩, rfl, ?_, htrails.floor_le, htrails.ink_eq⟩
      show Drifts σ.window.rest σ'.window.rest
      rwa [htrails.window.rest_eq, htrails.window'.rest_eq]

/-- **One step of a run that keeps blanks** is a step of the one that trims them, or it copies a
blank that the other one has passed. -/
theorem Trails.next (hg : ctx.glossary = .make .utf8 v format)
    (hd : ∀ b rest, isBlank b = true → d.match? (b :: rest) = none)
    (hs : s.Trails ctx.floor s') :
    match s.next ctx d with
    | .again t => t.Trails ctx.floor s' ∨
        ∃ t', s'.next ctx d = .again t' ∧ t.Trails ctx.floor t'
    | .stop o => ∃ o', s'.next ctx d = .stop o' ∧ o.1 = o'.1 ∧ ink o.2 = ink o'.2 := by
  obtain ⟨o, o', hoperations, hoperations', htrims⟩ := hs.operations
  have hdrifts := hs.drifts
  cases hrest : s.rest with
  | nil =>
    rw [hrest] at hdrifts
    have hresult : result s.operations s.modified = result s'.operations s'.modified := by
      rw [result, result, RunPlan.finish, RunPlan.finish, hoperations, hoperations', hs.modified,
        List.forM_eq_forM, List.forM_cons, List.forM_cons, htrims.finish_eq]
    simp only [Stage.next, hrest, hdrifts.eq_nil]
    exact ⟨_, rfl, hresult, hs.ink_eq⟩
  | cons b rest =>
    rw [hrest] at hdrifts
    rcases hdrifts.cases_cons with hsame | ⟨hblank, hlater⟩
    · -- both runs are at the same place
      have hhandled := fun handler length => hs.handled hg (hsame.trans hrest.symm) handler length
      simp only [Stage.next, hrest, hsame]
      cases hm : d.match? (b :: rest) with
      | none =>
        refine .inr ⟨_, rfl, ⟨hs.operations, hs.modified, .refl rest, ?_, ?_⟩⟩
        · exact hs.floor_le.trans (by rw [List.length_append]; exact Nat.le_add_right _ _)
        · rw [ink_append, ink_append, hs.ink_eq]
      | some found =>
        obtain ⟨handler, length⟩ := found
        have hafter := hhandled handler length
        simp only
        generalize s.handled ctx handler length = x at hafter ⊢
        generalize s'.handled ctx handler length = y at hafter ⊢
        cases hafter with
        | ok htrails => exact .inr ⟨_, rfl, htrails⟩
        | error hink => exact ⟨_, rfl, rfl, hink⟩
    · -- a blank that the other run has passed
      simp only [Stage.next, hrest, hd b rest hblank]
      refine .inl ⟨hs.operations, hs.modified, hlater, hs.floor_le, ?_⟩
      rw [ink_append, ink_blank hblank, List.append_nil, hs.ink_eq]

/-- **From stages that have drifted apart** both runs end alike, with outputs of the same ink. -/
theorem Ends.trimmed (hg : ctx.glossary = .make .utf8 v format)
    (hd : ∀ b rest, isBlank b = true → d.match? (b :: rest) = none) {o : Outcome}
    (h : s.Ends ctx d o) (hs : s.Trails ctx.floor s') :
    ∃ o', s'.Ends ctx d o' ∧ o.1 = o'.1 ∧ ink o.2 = ink o'.2 := by
  induction h generalizing s' with
  | stops hn =>
    have hnext := hs.next hg hd
    rw [hn] at hnext
    obtain ⟨o', hn', hresult, hink⟩ := hnext
    exact ⟨o', .stops hn', hresult, hink⟩
  | goesOn hn _ ih =>
    have hnext := hs.next hg hd
    rw [hn] at hnext
    rcases hnext with hcopied | ⟨t', hn', hsame⟩
    · exact ih hcopied
    · obtain ⟨o', hends, hresult, hink⟩ := ih hsame
      exact ⟨o', .goesOn hn' hends, hresult, hink⟩

end Stage

/-! ### Runs -/

/-- A text that begins with neither a space nor a tab. -/
def Unspaced (text : String) : Prop := ∀ c ∈ text.toList.head?, c ≠ ' ' ∧ c ≠ '\t'

instance (text : String) : Decidable (Unspaced text) :=
  decidable_of_iff ((text.toList.head?.all fun c => c != ' ' && c != '\t') = true) <| by
    unfold Unspaced
    cases text.toList.head? <;> simp

theorem Unspaced.solid {text : String} (h : Unspaced text) : Solid (Encoding.utf8.encode text) := by
  intro b hb
  rw [Bool.eq_false_iff]
  intro hblank
  have hprefix : [b] <+: Encoding.utf8.text text.toList := by
    rw [← Encoding.encode_eq_text]
    obtain ⟨rest, hrest⟩ := List.head?_eq_some_iff.1 hb
    rw [hrest]
    exact ⟨rest, rfl⟩
  have hbytes : b = 32 ∨ b = 9 := by simpa [isBlank] using hblank
  rcases hbytes with rfl | rfl
  · exact Encoding.not_text_prefix (c := ' ') (fun hc => (h ' ' hc).1 rfl) .utf8 hprefix
  · exact Encoding.not_text_prefix (c := '\t') (fun hc => (h '\t' hc).2 rfl) .utf8 hprefix

namespace OperationSettings

/-- The same operation, where blanks around its markers are trimmed or not. -/
def withTrim (trim : Bool) : OperationSettings → OperationSettings
  | conditionals s => conditionals { s with trim := trim }
  | region s => region { s with trim := trim }
  | other => other

/-- Conditional blocks or a region that do not take whole lines, with markers that begin with
neither a space nor a tab. -/
def Spaced : OperationSettings → Prop
  | conditionals s => s.wholeLine = false ∧ ∀ m ∈ s.markers, Unspaced m.2
  | region s => s.wholeLine = false ∧ Unspaced s.start ∧ Unspaced s.stop
  | _ => False

theorem validate_withTrim (o : OperationSettings) (trim : Bool) :
    (o.withTrim trim).validate = o.validate := by
  cases o <;> rfl

theorem Spaced.kind_ne {o : OperationSettings} (h : o.Spaced) (trim : Bool) :
    (o.withTrim trim).kind ≠ .macros := by
  cases o with
  | conditionals | region => simp [withTrim, kind]
  | replacements | variableExpansion | macros => cases h

/-- **The operations of both settings**, where those for blanks are the only difference. -/
theorem Spaced.materialize {o : OperationSettings} (h : o.Spaced) (hvalid : o.validate = .ok ())
    (v : Variables) (format : String) (conv : Converter) : ∃ kept trimmed,
      (o.withTrim false).materialize (.make .utf8 v format) conv = .ok (some kept) ∧
        (o.withTrim true).materialize (.make .utf8 v format) conv = .ok (some trimmed) ∧
          kept.Trims trimmed ∧ ∀ token ∈ kept.tokens, Solid token := by
  cases o with
  | replacements | variableExpansion | macros => cases h
  | conditionals s =>
    obtain ⟨hline, hmarkers⟩ := h
    obtain ⟨dialect, hdialect⟩ := ConditionalSettings.exists_dialect hvalid
    obtain ⟨c, hmake, hkeeps, -, hentries, -⟩ := Conditional.keeps_of_make
      (s := { s with trim := false }) (.make .utf8 v format) conv hdialect hline rfl
    have htrimmed : Conditional.make { s with trim := true } (.make .utf8 v format) conv =
        .ok c.trimmed := by
      obtain ⟨dialect', hdialect', rfl⟩ := Conditional.make_ok hmake
      rw [Conditional.make_eq]
      have hname : Dialect.ofName ({ s with trim := true } : ConditionalSettings).evaluator =
        .ok dialect' := hdialect'
      have hpolicy : WhitespacePolicy.ofFlags s.wholeLine true = .trim := by
        rw [hline]
        rfl
      rw [hname, Conditional.trimmed, ← hpolicy]
      rfl
    have hsolid : ∀ e ∈ c.entries, Solid e.1 := by
      rw [hentries]
      intro e he
      obtain ⟨m, hm, rfl⟩ := List.mem_map.1 he
      exact (hmarkers m hm).solid
    refine ⟨.conditional c, .conditional c.trimmed, materialize_conditionals hmake,
      materialize_conditionals htrimmed, .conditional hkeeps hsolid, fun token htoken => ?_⟩
    obtain ⟨m, hm, rfl⟩ := List.mem_map.1 htoken
    exact hsolid _ (List.mem_map_of_mem hm)
  | region s =>
    obtain ⟨hline, hstart, hstop⟩ := h
    have hfollows := Region.follows_make (s := { s with trim := false }) hline rfl
      (.make .utf8 v format)
    have htrimmed : Region.make { s with trim := true } (.make .utf8 v format) =
        (Region.make { s with trim := false } (.make .utf8 v format)).trimmed := by
      simp only [Region.make, Region.trimmed, hline]
      rfl
    refine ⟨_, _, rfl, congrArg (fun r => Except.ok (some (Operation.region r))) htrimmed,
      .region hfollows.keeps (TokenTable.lawful_ofList _), ?_⟩
    intro token htoken
    have htexts : ∀ text ∈ (if s.start == s.stop then [s.start] else [s.start, s.stop]),
        Unspaced text := by
      split <;> simp [hstart, hstop]
    obtain ⟨text, htext, rfl⟩ := List.mem_map.1 htoken
    exact (htexts text htext).solid

end OperationSettings

namespace Processor

/-- **Trimming removes nothing but spaces and tabs.** Take a valid configuration whose only
operation is for conditional blocks or a region, does not take whole lines and has markers that
begin with neither a space nor a tab, and any input in UTF-8. The run that trims blanks and the
one that keeps them have the same result, be it an error or whether a marker was found, and
outputs that are the same but for spaces and tabs. -/
theorem run_trimmed (c : Configuration) (hvalid : c.validate = .ok ()) (o : OperationSettings)
    (hops : c.operations = [o]) (hspaced : o.Spaced) (v : Variables) (conv : Converter)
    (ambient : Ambient) (source : Source) (hsource : source.fails = false)
    (hutf8 : (Encoding.detect source.unread.bytes).1 = .utf8) : ∃ kept trimmed,
      make { c with operations := [o.withTrim false] } v conv ambient = .ok kept ∧
      make { c with operations := [o.withTrim true] } v conv ambient = .ok trimmed ∧
      (kept.run source (Memory.ofBytes [])).1 = (trimmed.run source (Memory.ofBytes [])).1 ∧
      ink (kept.run source (Memory.ofBytes [])).2.toBytes =
        ink (trimmed.run source (Memory.ofBytes [])).2.toBytes := by
  have hvalidates : ∀ trim, ({ c with operations := [o.withTrim trim] } : Configuration).validate =
      .ok () := by
    intro trim
    rw [Configuration.validate_eq_ok] at hvalid ⊢
    rw [hops] at hvalid
    obtain ⟨hbuffer, hflush, hformat, hoperations⟩ := hvalid
    refine ⟨hbuffer, hflush, hformat, List.forall_mem_singleton.2 ?_⟩
    rw [o.validate_withTrim]
    exact hoperations o List.mem_cons_self
  have hmakes : ∀ trim, make { c with operations := [o.withTrim trim] } v conv ambient =
      .ok ⟨{ c with operations := [o.withTrim trim] }, v, conv⟩ :=
    fun trim => make_singleton (hvalidates trim) rfl (hspaced.kind_ne trim)
  refine ⟨_, _, hmakes false, hmakes true, ?_⟩
  let keeping : Processor := ⟨{ c with operations := [o.withTrim false] }, v, conv⟩
  let trimming : Processor := ⟨{ c with operations := [o.withTrim true] }, v, conv⟩
  have hglossary : keeping.glossary source.unread.bytes = .make .utf8 v c.variableFormat := by
    rw [glossary, hutf8]
  have hglossary' : trimming.glossary source.unread.bytes = .make .utf8 v c.variableFormat := by
    rw [glossary, hutf8]
  have hvalid' : o.validate = .ok () :=
    (Configuration.validate_eq_ok.1 hvalid).2.2.2 o (hops ▸ List.mem_cons_self)
  obtain ⟨k, t, hk, ht, htrims, hsolid⟩ := hspaced.materialize hvalid' v c.variableFormat conv
  have hends := ends_run (p := keeping) hsource [] (materialize_singleton rfl (hglossary ▸ hk))
  have hends' := ends_run (p := trimming) hsource [] (materialize_singleton rfl (hglossary' ▸ ht))
  -- both runs begin at the same stage, after the mark
  have hblank : ∀ b rest, isBlank b = true →
      (Dispatch.ofSets ([k].map Operation.tokens)).match? (b :: rest) = none := by
    intro b rest hb
    rw [Dispatch.match?_eq_none, List.map_singleton, List.flatten_singleton]
    exact fun token htoken hne => (hsolid token htoken).not_at_blank hne hb
  have htrails : Stage.Trails (keeping.context source.unread.bytes).floor
      ⟨[k], false, source.unread.bytes.drop (Encoding.detect source.unread.bytes).2,
        [] ++ source.unread.bytes.take (Encoding.detect source.unread.bytes).2⟩
      ⟨[t], false, source.unread.bytes.drop (Encoding.detect source.unread.bytes).2,
        [] ++ source.unread.bytes.take (Encoding.detect source.unread.bytes).2⟩ := by
    refine ⟨⟨k, t, rfl, rfl, htrims⟩, rfl, .refl _, ?_, rfl⟩
    rw [List.nil_append, List.length_take_of_le (Encoding.detect_le _)]
    exact le_rfl
  obtain ⟨outcome, hsame, hresult, hink⟩ := hends.trimmed hglossary hblank htrails
  have htokens : [t].map Operation.tokens = [k].map Operation.tokens := by
    rw [List.map_singleton, List.map_singleton, htrims.tokens_eq]
  rw [htokens] at hends'
  obtain rfl := hsame.unique hends'
  exact ⟨hresult, hink⟩

/-- Blocks with blanks around their markers, of which a space ends a condition. -/
def spacedBlocks : OperationSettings :=
  .conditionals ⟨["#if"], ["#elif"], ["#else"], ["#endif"], false, false, "C++", [" "], false⟩

/-- A branch that is left out between blanks, and an `endif` that closes nothing. -/
def spacedText : Source :=
  .ofBytes (Encoding.utf8.encode "a \t#if A \tb #else\t c \t#endif d\t #endif\te")

theorem run_trimmed_blocks : spacedBlocks.Spaced ∧ ∃ kept trimmed,
    make ⟨Configuration.defaultFormat, [spacedBlocks.withTrim false], 1, 1⟩
        (.ofList [("A", .bool false)]) .standard ⟨⟨0, 0⟩, fun _ => 0⟩ = .ok kept ∧
      make ⟨Configuration.defaultFormat, [spacedBlocks.withTrim true], 1, 1⟩
        (.ofList [("A", .bool false)]) .standard ⟨⟨0, 0⟩, fun _ => 0⟩ = .ok trimmed ∧
      (kept.run spacedText (Memory.ofBytes [])).1 = (trimmed.run spacedText (Memory.ofBytes [])).1 ∧
      ink (kept.run spacedText (Memory.ofBytes [])).2.toBytes =
        ink (trimmed.run spacedText (Memory.ofBytes [])).2.toBytes ∧
      (trimmed.run spacedText (Memory.ofBytes [])).2.toBytes = Encoding.utf8.encode "acde" := by
  have hspaced : spacedBlocks.Spaced := by
    refine ⟨rfl, ?_⟩
    decide
  obtain ⟨kept, trimmed, hkept, htrimmed, hresult, hink⟩ := run_trimmed
    ⟨Configuration.defaultFormat, [spacedBlocks], 1, 1⟩ rfl spacedBlocks rfl hspaced
    (.ofList [("A", .bool false)]) .standard ⟨⟨0, 0⟩, fun _ => 0⟩ spacedText rfl
    (by decide +kernel)
  refine ⟨hspaced, kept, trimmed, hkept, htrimmed, hresult, hink, ?_⟩
  cases htrimmed
  decide +kernel

end Processor

end Templating
