import Templating.Proofs.Processing
import Templating.Proofs.Skipping
import Templating.Proofs.Validity

/-!
# The meaning of conditional documents

A run over a document with conditional blocks gives its meaning. Inside of a block the
run stands either in a branch that stays, with more of the document before it, or it
searches for the next branch within the handling of one marker; both are told by the
stages that follow.

* `Document.live`: over a document the run writes its meaning.
* `Branches.lands`: from a branch that does not stay, the loop over markers lands in the
  branch that does, or at the end of the block.
* `Branches.taken`: after a branch that stays, the rest of the block goes away.
* `Processor.run_document`: a whole run.
-/

namespace Templating

/-! ## Actions at known places -/

namespace Session

/-- A session before some bytes and after an output. -/
def At (σ : Session Memory) (rest output : Bytes) : Prop :=
  σ.window.At rest ∧ σ.target = .ofBytes output

variable {α : Type} {a : α} {bytes rest output : Bytes}

theorem gives_scan {m : EStateM Error Window α}
    (h : Gives (Window.At · bytes) m a (Window.At · rest)) :
    Gives (At · bytes output) (scan m) a (At · rest output) := by
  rintro σ ⟨hw, ht⟩
  obtain ⟨w, hm, hw'⟩ := h σ.window hw
  exact ⟨⟨w, σ.target⟩, by rw [scan_apply, hm], hw', ht⟩

theorem gives_onWindow {m : EStateM IoError Window α}
    (h : Gives (Window.At · bytes) m a (Window.At · rest)) :
    Gives (At · bytes output) (onWindow m) a (At · rest output) :=
  gives_scan h.onStream

end Session

/-- What a slice shows of a condition, a window shows too. -/
theorem Evaluator.gives_evaluate (e : Evaluator) (he : e.lexicon.table.Lawful)
    {condition k : Bytes} {holds : Bool} (h : verdict? e condition k = some holds) :
    Gives (Window.At · (condition ++ k)) e.evaluate holds (Window.At · k) := by
  intro w hw
  have hagree := e.simulates_evaluate (Slice.lockstep he) (Slice.ofBytes (condition ++ k)) w
    ⟨condition ++ k, rfl, hw⟩
  rw [verdict?] at h
  simp only [EStateM.run] at h
  generalize e.evaluate (Slice.ofBytes (condition ++ k)) = x at h hagree
  generalize e.evaluate w = y at hagree ⊢
  cases hagree with
  | @ok a b s w' heq halike =>
    obtain ⟨rest, hs, hw'⟩ := halike
    simp only at h
    split at h
    · rename_i hrest
      refine ⟨w', ?_, ?_⟩
      · rw [← heq, Option.some.inj h]
      · rwa [← hrest, hs]
    · cases h
  | error => cases h

namespace Conditional

/-- An operation as its settings make it, where blanks around markers stay. -/
structure Keeps (c : Conditional) : Prop where
  scans : c.Scans
  keep : c.whitespace = .keep
  lawful : c.evaluator.lexicon.table.Lawful

variable {c : Conditional} {ctx : Context} {sought : Sought} {blocks : List Bool}
  {bytes rest output condition k : Bytes} {found kind : Marker}

theorem gives_resume (hc : c.Scans) (h : SkipsTo c sought 0 bytes found rest) :
    Gives (Session.At · bytes output) (c.resume sought blocks) (.again (found, blocks))
      (Session.At · rest output) := by
  rw [resume_eq]
  exact (Session.gives_onWindow (gives_skip hc h)).bind (Gives.pure fun _ => id)

theorem gives_stay (hc : c.Keeps) (h : verdict? c.evaluator condition k = some true) :
    Gives (Session.At · (condition ++ k) output) (c.decideBranch ctx blocks)
      (.stop (take blocks)) (Session.At · k output) := by
  refine (Session.gives_scan (c.evaluator.gives_evaluate hc.lawful h)).bind ?_
  rw [hc.keep]
  exact Gives.pure fun _ => id

theorem gives_leave (hc : c.Keeps) (h : verdict? c.evaluator condition k = some false)
    (hskip : SkipsTo c .branch 0 k found rest) :
    Gives (Session.At · (condition ++ k) output) (c.decideBranch ctx blocks)
      (.again (found, blocks)) (Session.At · rest output) := by
  refine (Session.gives_scan (c.evaluator.gives_evaluate hc.lawful h)).bind ?_
  rw [hc.keep]
  exact gives_resume hc.scans hskip

theorem turn_opening (hc : c.Keeps) : (c.turn ctx (.opening, blocks) : EStateM Error
    (Session Memory) _) = c.decideBranch ctx (false :: blocks) := by
  simp only [turn, hc.keep, WhitespacePolicy.before, pure_bind]

theorem turn_alternative (hc : c.Keeps) : (c.turn ctx (.alternative, false :: blocks) : EStateM
    Error (Session Memory) _) = c.decideBranch ctx (false :: blocks) := by
  simp only [turn, hc.keep, WhitespacePolicy.before, pure_bind]

theorem turn_fallback (hc : c.Keeps) : (c.turn ctx (.fallback, false :: blocks) : EStateM
    Error (Session Memory) _) = pure (.stop (true :: blocks)) := by
  simp only [turn, hc.keep, WhitespacePolicy.before, WhitespacePolicy.after, pure_bind]

theorem turn_closing (hc : c.Keeps) (taken : Bool) : (c.turn ctx (.closing, taken :: blocks) :
    EStateM Error (Session Memory) _) = pure (.stop blocks) := by
  simp only [turn, hc.keep, WhitespacePolicy.before, WhitespacePolicy.after, pure_bind]

theorem turn_taken (hc : c.Keeps) (hkind : kind = .alternative ∨ kind = .fallback) :
    (c.turn ctx (kind, true :: blocks) : EStateM Error (Session Memory) _) =
      c.resume .block (true :: blocks) := by
  rcases hkind with rfl | rfl <;>
    simp only [turn, hc.keep, WhitespacePolicy.before, pure_bind]

/-- The loop over markers that `dispatch` runs. -/
def rounds (c : Conditional) (ctx : Context) (bound : Nat) (kind : Marker) (blocks : List Bool) :
    EStateM Error (Session Memory) (List Bool) :=
  loop (c.turn ctx) (·.2) bound (kind, blocks)

/-- A stage of a run whose only operation this is, inside of some blocks. -/
def stage (c : Conditional) (blocks : List Bool) (modified : Bool) (rest output : Bytes) : Stage :=
  ⟨[.conditional { c with blocks := blocks }], modified, rest, output⟩

/-- The dispatch of a run whose only operation this is. -/
def dispatcher (c : Conditional) : Dispatch := .ofSets [c.entries.map (·.1)]

/-- From a place of the loop over markers, a run ends so. -/
def Leads (c : Conditional) (ctx : Context) (kind : Marker) (blocks : List Bool)
    (rest output : Bytes) (o : Stage.Outcome) : Prop :=
  ∀ bound, rest.length < bound → ∃ blocks' rest' output',
    Gives (Session.At · rest output) (c.rounds ctx bound kind blocks) blocks'
      (Session.At · rest' output') ∧ (c.stage blocks' true rest' output').Ends ctx c.dispatcher o

variable {o : Stage.Outcome} {blocks' : List Bool} {output' : Bytes}

theorem Leads.stop (h : Gives (Session.At · bytes output) (c.turn ctx (kind, blocks))
      (.stop blocks') (Session.At · rest output'))
    (hrest : (c.stage blocks' true rest output').Ends ctx c.dispatcher o) :
    Leads c ctx kind blocks bytes output o := by
  intro bound hbound
  obtain ⟨bound, rfl⟩ : ∃ n, bound = n + 1 := ⟨bound - 1, by omega⟩
  exact ⟨blocks', rest, output', h.loop_stop, hrest⟩

theorem Leads.again (hlt : rest.length < bytes.length)
    (h : Gives (Session.At · bytes output) (c.turn ctx (kind, blocks))
      (.again (found, blocks')) (Session.At · rest output'))
    (hrest : Leads c ctx found blocks' rest output' o) :
    Leads c ctx kind blocks bytes output o := by
  intro bound hbound
  obtain ⟨bound, rfl⟩ : ∃ n, bound = n + 1 := ⟨bound - 1, by omega⟩
  obtain ⟨blocks'', rest', output'', hgives, hends⟩ := hrest bound (by omega)
  exact ⟨blocks'', rest', output'', h.loop_again hgives, hends⟩

/-- **A marker is handled** by the loop over markers, and the run goes on where this leads. -/
theorem Leads.ends (hmarker : Stands c.entries kind marker bytes)
    {modified : Bool} (h : Leads c ctx kind blocks bytes output o) :
    (c.stage blocks modified (marker ++ bytes) output).Ends ctx c.dispatcher o := by
  obtain ⟨blocks', rest', output', hgives, hends⟩ := h (bytes.length + 1) (Nat.lt_succ_self _)
  have howner := Dispatch.match?_owner [c.entries] (marker ++ bytes)
  have hlongest : longestMatch? [c.entries].flatten (marker ++ bytes) = some (marker, kind) := by
    rw [List.flatten_singleton]
    exact hmarker
  rw [hlongest] at howner
  obtain ⟨handler, set, hmatch, hset, htoken⟩ := howner
  -- there is one operation only, so it owns the marker
  obtain ⟨hoperation, rfl⟩ : handler.operation = 0 ∧ set = c.entries := by
    cases hi : handler.operation with
    | zero => rw [hi] at hset; exact ⟨rfl, (Option.some.inj hset).symm⟩
    | succ i => rw [hi] at hset; cases hset
  have hkind : c.marker? handler.token = some kind := by
    rw [entries, List.getElem?_map, Option.map_eq_some_iff] at htoken
    obtain ⟨m, hm, hpair⟩ := htoken
    rw [marker?, hm]
    exact congrArg some (Prod.mk.inj hpair).2
  have hne : marker ≠ [] := (longestMatch?_spec hmarker).2.1
  refine .handled ?_ hmatch ?_ hends
  · exact List.append_ne_nil_of_left_ne_nil hne _
  · obtain ⟨σ, hrun, hw, ht⟩ := hgives ⟨.whole bytes, .ofBytes output⟩ ⟨Window.at_whole _, rfl⟩
    have hdispatch : ({ c with blocks := blocks } : Conditional).dispatch ctx kind
        (⟨.whole bytes, .ofBytes output⟩ : Session Memory) = .ok blocks' σ := by
      have hleft : (Window.whole bytes).remaining + 1 = bytes.length + 1 := by
        rw [(Window.at_whole bytes).remaining]
      simp only [dispatch, bind_apply, get_apply, hleft]
      exact hrun
    have hhandle : (Operation.conditional { c with blocks := blocks }).handle ctx handler.token
        (⟨.whole bytes, .ofBytes output⟩ : Session Memory) =
          .ok (.conditional { c with blocks := blocks' }, 0) σ := by
      have htoken : ({ c with blocks := blocks } : Conditional).marker? handler.token = some kind :=
        hkind
      simp only [Operation.handle, Conditional.handle, htoken, bind_apply, hdispatch, pure_apply]
    simp only [Stage.handled, stage, hoperation, List.getElem?_cons_zero, List.drop_left, hhandle,
      List.set_cons_zero, hw.rest_eq, ht, Memory.toBytes_ofBytes]

end Conditional

/-! ## The run over a document -/

section Runs

open Conditional

variable {c : Conditional} {ctx : Context} {o : Stage.Outcome} (hc : c.Keeps)

include hc

/-- **After a branch that stays** the rest of its block goes away. -/
theorem Branches.taken (b : Branches) {k : Bytes} (hb : b.Placed c.entries k) {blocks : List Bool}
    {output : Bytes} (h : (c.stage blocks true k output).Ends ctx c.dispatcher o) :
    (c.stage (true :: blocks) true (b.before k) output).Ends ctx c.dispatcher o := by
  rw [b.before_eq]
  refine Leads.ends hb.stands ?_
  have hclose : Leads c ctx .closing (true :: blocks) k output o :=
    .stop (by rw [turn_closing hc]; exact Gives.pure fun _ => id) h
  by_cases hkind : b.kind = .closing
  · -- the branch was the last one
    cases b with
    | close marker => exact hclose
    | alternative => cases hkind
    | fallback => cases hkind
  · have hskip := b.skips_content hc.scans hb hkind
    refine .again (hskip.length_lt hc.scans) ?_ hclose
    rw [turn_taken hc (by cases b <;> simp_all [Branches.kind])]
    exact gives_resume hc.scans hskip

mutual

/-- **The live run**: over a document a run writes its meaning. -/
theorem Document.live : ∀ (d : Document) {k : Bytes}, d.Placed c.entries k → ∀ {meaning : Bytes},
    d.denote c.evaluator k = some meaning →
    ∀ {blocks : List Bool} {modified : Bool} {output : Bytes},
      (c.stage blocks (modified || d.hasBlock) k (output ++ meaning)).Ends ctx c.dispatcher o →
      (c.stage blocks modified (d.before k) output).Ends ctx c.dispatcher o
  | .empty, k, _, meaning, hm, blocks, modified, output, h => by
    rw [Document.denote] at hm
    cases hm
    rwa [Document.hasBlock, Bool.or_false, List.append_nil] at h
  | .text bytes rest, k, hd, meaning, hm, blocks, modified, output, h => by
    rw [Document.Placed] at hd
    rw [Document.denote, Option.bind_eq_bind, Option.bind_eq_some_iff] at hm
    obtain ⟨after, hafter, hmeaning⟩ := hm
    cases hmeaning
    rw [Document.before]
    refine Stage.Ends.copies bytes (rest.before k) output ?_ ?_
    · intro suffix hne hsuffix
      have howner := Dispatch.match?_owner [c.entries] (suffix ++ rest.before k)
      rwa [List.flatten_singleton, hd.1 suffix hne hsuffix] at howner
    · refine rest.live hd.2 hafter ?_
      rwa [List.append_assoc]
  | .block marker condition body others rest, k, hd, meaning, hm, blocks, modified, output, h => by
    rw [Document.Placed] at hd
    obtain ⟨hmarker, -, hbody, hothers, hrest⟩ := hd
    simp only [Document.denote, Option.bind_eq_bind, Option.bind_eq_some_iff] at hm
    obtain ⟨holds, hholds, inside, hinside, after, hafter, hmeaning⟩ := hm
    cases hmeaning
    rw [Document.hasBlock, Bool.or_true, ← List.append_assoc] at h
    -- whatever happens inside of the block, the run comes out before the rest
    have hgoes : (c.stage blocks true (rest.before k) (output ++ inside)).Ends ctx c.dispatcher o :=
      rest.live hrest hafter h
    rw [Document.before]
    refine Leads.ends hmarker ?_
    cases holds with
    | true =>
      rw [if_pos rfl] at hinside
      refine .stop (by rw [turn_opening hc]; exact gives_stay hc hholds) ?_
      exact body.live hbody hinside (others.taken hc hothers hgoes)
    | false =>
      rw [if_neg Bool.false_ne_true] at hinside
      have hskip := body.skips_branch hc.scans others hbody hothers
      refine .again ?_ (by rw [turn_opening hc]; exact gives_leave hc hholds hskip)
        (others.lands hothers hinside hgoes)
      exact (hskip.length_lt hc.scans).trans_le (by rw [List.length_append]; omega)

/-- **From a branch that does not stay** the loop over markers lands in the one that does, or
at the end of the block. -/
theorem Branches.lands : ∀ (b : Branches) {k : Bytes}, b.Placed c.entries k → ∀ {meaning : Bytes},
    b.denote c.evaluator k = some meaning → ∀ {blocks : List Bool} {output : Bytes},
      (c.stage blocks true k (output ++ meaning)).Ends ctx c.dispatcher o →
      Leads c ctx b.kind (false :: blocks) (b.content k) output o
  | .alternative marker condition body others, k, hb, meaning, hm, blocks, output, h => by
    rw [Branches.Placed] at hb
    obtain ⟨-, -, hbody, hothers⟩ := hb
    simp only [Branches.denote, Option.bind_eq_bind, Option.bind_eq_some_iff] at hm
    obtain ⟨holds, hholds, hmeaning⟩ := hm
    cases holds with
    | true =>
      rw [if_pos rfl] at hmeaning
      refine .stop (by rw [Branches.kind, turn_alternative hc]; exact gives_stay hc hholds) ?_
      exact body.live hbody hmeaning (others.taken hc hothers h)
    | false =>
      rw [if_neg Bool.false_ne_true] at hmeaning
      have hskip := body.skips_branch hc.scans others hbody hothers
      refine .again ?_ ?_ (others.lands hothers hmeaning h)
      · exact (hskip.length_lt hc.scans).trans_le
          (by rw [Branches.content, List.length_append]; omega)
      · rw [Branches.kind, turn_alternative hc]
        exact gives_leave hc hholds hskip
  | .fallback marker body last, k, hb, meaning, hm, blocks, output, h => by
    rw [Branches.Placed] at hb
    obtain ⟨-, hbody, hlast⟩ := hb
    rw [Branches.denote] at hm
    refine .stop (by rw [Branches.kind, turn_fallback hc]; exact Gives.pure fun _ => id) ?_
    refine body.live hbody hm ?_
    have hclose := Branches.taken hc (.close last) (by rwa [Branches.Placed]) h
    rwa [Branches.before] at hclose
  | .close marker, k, _, meaning, hm, blocks, output, h => by
    rw [Branches.denote] at hm
    cases hm
    rw [List.append_nil] at h
    exact .stop (by rw [Branches.kind, turn_closing hc]; exact Gives.pure fun _ => id) h

end

end Runs

/-- The tokens of the markers in an encoding, in the order of registration. -/
def ConditionalSettings.tokens (s : ConditionalSettings) (e : Encoding) : List (Bytes × Marker) :=
  s.markers.map fun m => (e.encode m.2, m.1)

/-- **An operation as its settings make it.** -/
theorem Conditional.exists_make {s : ConditionalSettings} (g : Glossary) (conv : Converter)
    {dialect : Dialect} (hdialect : Dialect.ofName s.evaluator = .ok dialect) : ∃ c : Conditional,
      Conditional.make s g conv = .ok c ∧ c.Scans ∧ c.blocks = [] ∧
        c.entries = s.tokens g.encoding ∧
        c.evaluator = Evaluator.make dialect g conv s.terminators ∧
        c.whitespace = .ofFlags s.wholeLine s.trim ∧ c.strict = s.strict := by
  have hmake : Conditional.make s g conv = .ok (.ofDialect dialect s g conv) := by
    rw [Conditional.make_eq, hdialect]
    rfl
  refine ⟨_, hmake, ?_, rfl, ?_, rfl, rfl, rfl⟩
  · simp only [Conditional.Scans, Conditional.entries, Conditional.ofDialect, List.map_map]
    rfl
  · simp only [Conditional.entries, Conditional.ofDialect, ConditionalSettings.tokens, List.map_map]
    rfl

theorem Conditional.keeps_of_make {s : ConditionalSettings} (g : Glossary) (conv : Converter)
    {dialect : Dialect} (hdialect : Dialect.ofName s.evaluator = .ok dialect)
    (hline : s.wholeLine = false) (htrim : s.trim = false) : ∃ c : Conditional,
      Conditional.make s g conv = .ok c ∧ c.Keeps ∧ c.blocks = [] ∧
        c.entries = s.tokens g.encoding ∧
        c.evaluator = Evaluator.make dialect g conv s.terminators := by
  obtain ⟨c, hmake, hscans, hblocks, hentries, hevaluator, hkeep, -⟩ :=
    Conditional.exists_make g conv hdialect
  refine ⟨c, hmake, ⟨hscans, ?_, ?_⟩, hblocks, hentries, hevaluator⟩
  · rw [hkeep, hline, htrim]
    rfl
  · rw [hevaluator]
    exact TokenTable.lawful_ofList _

/-- At the end of the input a run without open blocks succeeds, be it strict or not. -/
theorem Conditional.ends (c : Conditional) (ctx : Context) (hblocks : c.blocks = [])
    (modified : Bool) (output : Bytes) :
    (c.stage c.blocks modified [] output).Ends ctx c.dispatcher (.ok modified, output) := by
  have hresult : Stage.result [.conditional c] modified = .ok modified := by
    simp only [Stage.result, RunPlan.finish, List.forM_eq_forM, List.forM_cons, List.forM_nil,
      Operation.finish, Conditional.finish, hblocks]
    rfl
  rw [← hresult]
  exact .ended

/-- **A run whose only operation handles conditional blocks** ends as its stages do. -/
theorem Processor.run_conditional {p : Processor} {s : ConditionalSettings} {k : Conditional}
    (hops : p.configuration.operations = [.conditionals s]) {source : Source}
    (hsource : source.fails = false)
    (hmake : Conditional.make s (p.glossary source.unread.bytes) p.converter = .ok k)
    {o : Stage.Outcome}
    (h : (k.stage k.blocks false
      (source.unread.bytes.drop (Encoding.detect source.unread.bytes).2)
      (source.unread.bytes.take (Encoding.detect source.unread.bytes).2)).Ends
        (p.context source.unread.bytes) k.dispatcher o) :
    p.run source (Memory.ofBytes []) = (o.1, Memory.ofBytes o.2) := by
  have hmade := OperationSettings.materialize_conditionals hmake
  have hdispatcher : k.dispatcher = .ofSets ([Operation.conditional k].map Operation.tokens) := by
    simp only [Conditional.dispatcher, Conditional.entries, List.map_map, List.map_singleton,
      Operation.tokens, Conditional.tokens]
    rfl
  rw [hdispatcher] at h
  exact run_eq hsource (.ran (materialize_singleton hops hmade) h)

namespace Processor

/-- **The meaning of conditional documents.** Take a valid configuration whose only operation
handles conditional blocks and keeps blanks, and any document in the bytes after the
byte-order mark in which tokens match at the markers of its tree and nowhere else. If every
condition that is reached can be read, then the run succeeds, be it strict or not, and gives
the mark and the meaning of the document. -/
theorem run_document (c : Configuration) (hvalid : c.validate = .ok ()) (s : ConditionalSettings)
    (hops : c.operations = [.conditionals s]) (hline : s.wholeLine = false) (htrim : s.trim = false)
    (dialect : Dialect) (hdialect : Dialect.ofName s.evaluator = .ok dialect) (v : Variables)
    (conv : Converter) (ambient : Ambient) (source : Source) (hsource : source.fails = false)
    (d : Document)
    (hbytes : source.unread.bytes.drop (Encoding.detect source.unread.bytes).2 = d.before [])
    (hplaced : d.Placed (s.tokens (Encoding.detect source.unread.bytes).1) []) (meaning : Bytes)
    (hmeaning : d.denote (.make dialect
      (.make (Encoding.detect source.unread.bytes).1 v c.variableFormat) conv s.terminators) [] =
        some meaning) :
    (make c v conv ambient).map (·.run source (Memory.ofBytes [])) =
      .ok (.ok d.hasBlock,
        Memory.ofBytes
          (source.unread.bytes.take (Encoding.detect source.unread.bytes).2 ++ meaning)) := by
  let p : Processor := ⟨c, v, conv⟩
  obtain ⟨k, hk, hkeeps, hblocks, hentries, hevaluator⟩ :=
    Conditional.keeps_of_make (p.glossary source.unread.bytes) conv hdialect hline htrim
  -- the live run from the stage after the mark to the end of the input
  have hlive := d.live hkeeps (hentries ▸ hplaced) (hevaluator ▸ hmeaning)
    (k.ends (p.context source.unread.bytes) hblocks (false || d.hasBlock)
      (source.unread.bytes.take (Encoding.detect source.unread.bytes).2 ++ meaning))
  rw [← hbytes] at hlive
  rw [make_singleton hvalid hops nofun]
  exact congrArg Except.ok (run_conditional (p := p) hops hsource hk hlive)

/-- Two nested blocks; the outer one leaves its first branch, the inner one too. -/
def nested : Document :=
  let bytes := Encoding.utf8.encode
  .text (bytes "a") <| .block (bytes "<if ") (bytes "x>") (.text (bytes "b") .empty)
    (.alternative (bytes "<elif ") (bytes "y>")
      (.block (bytes "<if ") (bytes "x>") (.text (bytes "c") .empty)
        (.fallback (bytes "<else>") (.text (bytes "d") .empty) (bytes "<end>")) .empty)
      (.close (bytes "<end>"))) <| .text (bytes "e") .empty

theorem run_document_nested :
    (make ⟨Configuration.defaultFormat, [.conditionals
          ⟨["<if "], ["<elif "], ["<else>"], ["<end>"], false, false, "C++", [">"], true⟩], 1, 1⟩
        (.ofList [("x", .bool false), ("y", .bool true)]) .standard ⟨⟨0, 0⟩, fun _ => 0⟩).map
          (·.run (.ofBytes (nested.before [])) (Memory.ofBytes [])) =
      .ok (.ok true, Memory.ofBytes [97, 100, 101]) :=
  run_document _ rfl ⟨["<if "], ["<elif "], ["<else>"], ["<end>"], false, false, "C++", [">"], true⟩
    rfl rfl rfl .logical rfl _ _ _ (.ofBytes (nested.before [])) rfl nested rfl
    (by decide +kernel) [97, 100, 101] (by decide +kernel)

end Processor

end Templating
