import Templating.Proofs.Meaning
import Templating.Proofs.Pages

/-!
# The meaning of pages

A run over a page, where whole lines go away with their markers, gives the text lines that
the page shows. Each marker cuts the output back to the end of the line before it, and the
input goes on after the line of the marker; the output before a line is either empty or
ends with a line ending, so that what is cut is the indent of the marker and nothing else.

* `Conditional.ByLine`: what a run needs to know of its operation.
* `Page.live`: over a page the run writes what the page shows.
* `Sections.lands`, `Sections.taken`: before and after a branch that stays.
* `Processor.run_page`: a whole run.
-/

namespace Templating

open Line

/-! ## Handling a marker line -/

/-- An operation as its settings make it, where whole lines go away with their markers, in a
run over a text in UTF-8 after a byte-order mark. -/
structure Conditional.ByLine (c : Conditional) (ctx : Context) (mark : Bytes) : Prop where
  scans : c.Scans
  wholeLine : c.whitespace = .wholeLine
  inline : ∀ e ∈ c.entries, Inline e.1
  stops : c.evaluator.lexicon.StopsAtLines
  floor : ctx.floor = mark.length
  glossary : ∃ v format, ctx.glossary = .make .utf8 v format

namespace Conditional.ByLine

variable {c : Conditional} {ctx : Context} {mark out inner ending k bytes rest output : Bytes}
  {blocks : List Bool} {found kind : Marker} {m : MarkerLine} {o : Stage.Outcome}

/-- **Before a marker** the output is cut back to where the line of the marker begins. -/
theorem cuts (hc : c.ByLine ctx mark) (hout : Closed out) (hinner : Inline inner) :
    Gives (Session.At · bytes (mark ++ (out ++ inner))) (c.whitespace.before ctx) ()
      (Session.At · bytes (mark ++ out)) := by
  obtain ⟨v, format, hglossary⟩ := hc.glossary
  have hspells := Glossary.spells_lineEndings .utf8 v format
  have hcut := Target.cutBackTo_line hspells mark hout hinner
  rw [hc.wholeLine]
  rintro ⟨window, target⟩ ⟨hwindow, rfl⟩
  refine ⟨⟨window, .ofBytes (mark ++ out)⟩, ?_, hwindow, rfl⟩
  simp only [WhitespacePolicy.before, Session.cutBackTo, Session.onTarget_apply, hglossary,
    hc.floor]
  rw [show (Glossary.make .utf8 v format).encoding.unitWidth = 1 from rfl, hcut]

/-- Where a line begins there is nothing to cut. -/
theorem clean (hc : c.ByLine ctx mark) (hout : Closed out) :
    Gives (Session.At · bytes (mark ++ out)) (c.whitespace.before ctx) ()
      (Session.At · bytes (mark ++ out)) := by
  have hcut : Gives (Session.At · bytes (mark ++ (out ++ []))) (c.whitespace.before ctx) ()
      (Session.At · bytes (mark ++ out)) := hc.cuts hout inline_nil
  rwa [List.append_nil] at hcut

/-- **After a marker** the input goes on after the line of the marker. -/
theorem passes (hc : c.ByLine ctx mark) (hinner : Inline inner) (hends : EndsLine ending k) :
    Gives (Session.At · (inner ++ (ending ++ k)) output) (c.whitespace.after ctx) ()
      (Session.At · k output) := by
  obtain ⟨v, format, hglossary⟩ := hc.glossary
  have hseek := Window.gives_seekUntil (Glossary.lawful_lineEndings v format) true
    (inner ++ (ending ++ k))
  have hrest : (Glossary.make .utf8 v format).lineEndings.remainder true
      (inner ++ (ending ++ k)) = k := Glossary.remainder_line v format hinner hends
  rw [hrest, ← hglossary] at hseek
  rw [hc.wholeLine]
  exact Session.gives_onWindow (hseek.bind (Gives.pure fun _ => id))

theorem verdict (hc : c.ByLine ctx mark) (hends : EndsLine m.ending k) {holds : Bool}
    (h : c.evaluator.decision? m.rest = some holds) :
    Gives (Session.At · (m.after k) output) (Session.scan c.evaluator.evaluate) holds
      (Session.At · (m.ending ++ k) output) :=
  Session.gives_scan (c.evaluator.gives_evaluate hc.stops.lawful
    (Evaluator.verdict?_line hc.stops m.inline.2 hends.breaks h))

variable {blocks₀ : List Bool} (hturn : (c.turn ctx (kind, blocks₀) : EStateM Error
  (Session Memory) _) = (do c.whitespace.before ctx; c.decideBranch ctx (false :: blocks)))

include hturn

/-- A branch whose condition holds stays, and its first line is the next one. -/
theorem stays (hc : c.ByLine ctx mark) (hends : EndsLine m.ending k) (hout : Closed out)
    (hinner : Inline inner) (hholds : c.evaluator.decision? m.rest = some true)
    (h : (c.stage (true :: blocks) true k (mark ++ out)).Ends ctx c.dispatcher o) :
    Leads c ctx kind blocks₀ (m.after k) (mark ++ (out ++ inner)) o := by
  have hpass : Gives (Session.At · (m.ending ++ k) (mark ++ out)) (c.whitespace.after ctx) ()
      (Session.At · k (mark ++ out)) := hc.passes inline_nil hends
  have hdecide : Gives (Session.At · (m.after k) (mark ++ out))
      (c.decideBranch ctx (false :: blocks)) (.stop (true :: blocks))
      (Session.At · k (mark ++ out)) :=
    (hc.verdict hends hholds).bind (hpass.bind (Gives.pure fun _ => id))
  refine .stop ?_ h
  rw [hturn]
  exact (hc.cuts hout hinner).bind hdecide

/-- From a branch whose condition does not hold, the search for its end begins at its first
line. -/
theorem leaves (hc : c.ByLine ctx mark) (hends : EndsLine m.ending k) (hout : Closed out)
    (hinner : Inline inner) (hholds : c.evaluator.decision? m.rest = some false)
    (hskip : SkipsTo c .branch 0 k found rest)
    (h : Leads c ctx found (false :: blocks) rest (mark ++ out) o) :
    Leads c ctx kind blocks₀ (m.after k) (mark ++ (out ++ inner)) o := by
  have hpass : Gives (Session.At · (m.ending ++ k) (mark ++ out)) (c.whitespace.after ctx) ()
      (Session.At · k (mark ++ out)) := hc.passes inline_nil hends
  have hdecide : Gives (Session.At · (m.after k) (mark ++ out))
      (c.decideBranch ctx (false :: blocks)) (.again (found, false :: blocks))
      (Session.At · rest (mark ++ out)) :=
    (hc.verdict hends hholds).bind (hpass.bind (gives_resume hc.scans hskip))
  have hlt : rest.length < (m.after k).length :=
    (hskip.length_lt hc.scans).trans_le (m.length_le_after k)
  refine .again hlt ?_ h
  rw [hturn]
  exact (hc.cuts hout hinner).bind hdecide

omit hturn

/-- The last line of a block closes it. -/
theorem closes (hc : c.ByLine ctx mark) (hends : EndsLine m.ending k) (hout : Closed out)
    (hinner : Inline inner) (taken : Bool)
    (h : (c.stage blocks true k (mark ++ out)).Ends ctx c.dispatcher o) :
    Leads c ctx .closing (taken :: blocks) (m.after k) (mark ++ (out ++ inner)) o := by
  have hpass : Gives (Session.At · (m.after k) (mark ++ out)) (c.whitespace.after ctx) ()
      (Session.At · k (mark ++ out)) := hc.passes m.inline.2 hends
  exact .stop ((hc.cuts hout hinner).bind (hpass.bind (Gives.pure fun _ => id))) h

/-- **A run comes to the marker of a line**, and writes the indent before it. -/
theorem reaches (hm : m.Placed c.entries kind k) {modified : Bool}
    (h : Leads c ctx kind blocks (m.after k) (mark ++ (out ++ m.indent)) o) :
    (c.stage blocks modified (m.indent ++ (m.marker ++ m.after k)) (mark ++ out)).Ends ctx
      c.dispatcher o := by
  have hmarker : (c.stage blocks modified (m.marker ++ m.after k) (mark ++ (out ++ m.indent))).Ends
      ctx c.dispatcher o := Leads.ends hm.marker h
  refine Stage.Ends.copies m.indent (m.marker ++ m.after k) (mark ++ out) ?_ ?_
  · intro suffix hne hsuffix
    have howner := Dispatch.match?_owner [c.entries] (suffix ++ (m.marker ++ m.after k))
    rwa [List.flatten_singleton, hm.indent suffix hne hsuffix] at howner
  · rwa [List.append_assoc]

end Conditional.ByLine

/-! ## The run over a page -/

theorem closed_append_flatten {out : Bytes} {ls : List Bytes} (hout : Closed out)
    (hls : ∀ l ∈ ls, Ended l) : Closed (out ++ ls.flatten) := by
  induction ls generalizing out with
  | nil => rwa [List.flatten_nil, List.append_nil]
  | cons l ls ih =>
    have hl : Closed (out ++ l) := closed_append_line (hls l List.mem_cons_self) out
    rw [List.flatten_cons, ← List.append_assoc]
    exact ih hl fun l' hl' => hls l' (List.mem_cons_of_mem l hl')

section Runs

open Conditional

variable {c : Conditional} {ctx : Context} {mark : Bytes} {o : Stage.Outcome}
  (hc : c.ByLine ctx mark)

include hc

/-- **After a branch that stays** the rest of its block goes away. -/
theorem Sections.taken (b : Sections) {items : List Line} (hb : Laid c.entries (b.before items))
    {blocks : List Bool} {out : Bytes} (hout : Closed out)
    (h : (c.stage blocks true (joined items) (mark ++ out)).Ends ctx c.dispatcher o) :
    (c.stage (true :: blocks) true (joined (b.before items)) (mark ++ out)).Ends ctx
      c.dispatcher o := by
  by_cases hkind : b.kind = .closing
  · -- the branch was the last one
    cases b with
    | close last =>
      rw [Sections.before] at hb ⊢
      rw [joined_marked]
      exact ByLine.reaches (hb.marked hc.inline)
        (hc.closes (hb.endsLine hc.inline) hout last.inline.1 true h)
    | alternative | fallback => cases hkind
  · have hskip := b.skips_content hc.scans hc.inline hb hkind
    have hlast : EndsLine b.last.ending (joined items) := b.endsLine_last hc.inline hb
    rw [b.before_eq] at hb ⊢
    rw [joined_marked]
    refine ByLine.reaches (hb.marked hc.inline) ?_
    have hclose := hc.closes hlast hout inline_nil true h
    rw [List.append_nil] at hclose
    refine .again (hskip.length_lt hc.scans) ?_ hclose
    have hturn : (c.turn ctx (b.kind, true :: blocks) : EStateM Error (Session Memory) _) =
        (do c.whitespace.before ctx; c.resume .block (true :: blocks)) := by
      cases b with
      | close => exact absurd rfl hkind
      | alternative | fallback => rfl
    rw [hturn]
    exact (hc.cuts hout b.head.inline.1).bind (gives_resume hc.scans hskip)

mutual

/-- **The live run**: over a page a run writes what the page shows. -/
theorem Page.live : ∀ (d : Page) {items : List Line}, Laid c.entries (d.before items) →
    ∀ {shown : List Bytes}, d.shown c.evaluator = some shown →
    ∀ {blocks : List Bool} {modified : Bool} {out : Bytes}, (d.before items ≠ [] → Closed out) →
      (c.stage blocks (modified || d.hasBlock) (joined items) (mark ++ (out ++ shown.flatten))).Ends
        ctx c.dispatcher o →
      (c.stage blocks modified (joined (d.before items)) (mark ++ out)).Ends ctx c.dispatcher o
  | .empty, items, _, shown, hshown, blocks, modified, out, _, h => by
    rw [Page.shown] at hshown
    cases hshown
    rw [Page.before]
    rwa [Page.hasBlock, Bool.or_false, List.flatten_nil, List.append_nil] at h
  | .text line rest, items, hd, shown, hshown, blocks, modified, out, hout, h => by
    rw [Page.before] at hd hout ⊢
    rw [Page.shown, Option.bind_eq_bind, Option.bind_eq_some_iff] at hshown
    obtain ⟨after, hafter, hshown⟩ := hshown
    cases hshown
    rw [Page.hasBlock, List.flatten_cons, ← List.append_assoc out] at h
    have hclosed : rest.before items ≠ [] → Closed (out ++ line) := fun hne =>
      closed_append_line (hd.ended hne) out
    have hrest := rest.live hd.tail hafter hclosed h
    rw [joined_cons]
    refine Stage.Ends.copies line (joined (rest.before items)) (mark ++ out) ?_ ?_
    · intro suffix hne hsuffix
      have howner := Dispatch.match?_owner [c.entries] (suffix ++ joined (rest.before items))
      rwa [List.flatten_singleton, hd.unmarked_text hc.inline suffix hne hsuffix] at howner
    · rwa [List.append_assoc]
  | .block head body others rest, items, hd, shown, hshown, blocks, modified, out, hout, h => by
    rw [Page.before] at hd hout ⊢
    simp only [Page.shown, Option.bind_eq_bind, Option.bind_eq_some_iff] at hshown
    obtain ⟨holds, hholds, inside, hinside, after, hafter, hshown⟩ := hshown
    cases hshown
    rw [Page.hasBlock, Bool.or_true, List.flatten_append, ← List.append_assoc out] at h
    have hready : Closed out := hout (List.cons_ne_nil _ _)
    have hends := hd.endsLine hc.inline
    have hothers := body.laid hd.tail
    have hended : ∀ l ∈ inside, Ended l := by
      cases holds with
      | true => exact body.shown_ended hd.tail (others.before_ne_nil _) hinside
      | false => exact others.shown_ended hothers hinside
    have hafterwards : Closed (out ++ inside.flatten) := closed_append_flatten hready hended
    -- whatever happens inside of the block, the run comes out before the rest
    have hgoes : (c.stage blocks true (joined (rest.before items))
        (mark ++ (out ++ inside.flatten))).Ends ctx c.dispatcher o :=
      rest.live (others.laid hothers) hafter (fun _ => hafterwards) h
    rw [joined_marked]
    refine ByLine.reaches (hd.marked hc.inline) ?_
    cases holds with
    | true =>
      refine ByLine.stays rfl hc hends hready head.inline.1 hholds ?_
      exact body.live hd.tail hinside (fun _ => hready)
        (others.taken hc hothers hafterwards hgoes)
    | false =>
      have hskip := body.skips_branch hc.scans hc.inline others hd.tail
      exact ByLine.leaves rfl hc hends hready head.inline.1 hholds hskip
        (others.lands hothers hinside hready hgoes)

/-- **From a branch that does not stay** the loop over markers lands in the one that does, or
at the end of the block. -/
theorem Sections.lands : ∀ (b : Sections) {items : List Line}, Laid c.entries (b.before items) →
    ∀ {shown : List Bytes}, b.shown c.evaluator = some shown →
    ∀ {blocks : List Bool} {out : Bytes}, Closed out →
      (c.stage blocks true (joined items) (mark ++ (out ++ shown.flatten))).Ends ctx
        c.dispatcher o →
      Leads c ctx b.kind (false :: blocks) (b.head.after (joined (b.content items))) (mark ++ out) o
  | .alternative head body others, items, hb, shown, hshown, blocks, out, hout, h => by
    rw [Sections.before] at hb
    simp only [Sections.shown, Option.bind_eq_bind, Option.bind_eq_some_iff] at hshown
    obtain ⟨holds, hholds, hshown⟩ := hshown
    have hends := hb.endsLine hc.inline
    have hothers := body.laid hb.tail
    cases holds with
    | true =>
      have hended := body.shown_ended hb.tail (others.before_ne_nil _) hshown
      have htaken := others.taken hc hothers (closed_append_flatten hout hended) h
      have hbody : (c.stage (true :: blocks) true (joined (body.before (others.before items)))
          (mark ++ out)).Ends ctx c.dispatcher o := body.live hb.tail hshown (fun _ => hout) htaken
      have hstays : Leads c ctx .alternative (false :: blocks) _ (mark ++ (out ++ [])) o :=
        ByLine.stays rfl hc hends hout inline_nil hholds hbody
      rwa [List.append_nil] at hstays
    | false =>
      have hskip := body.skips_branch hc.scans hc.inline others hb.tail
      have hothers' := others.lands hothers hshown hout h
      have hleaves : Leads c ctx .alternative (false :: blocks) _ (mark ++ (out ++ [])) o :=
        ByLine.leaves rfl hc hends hout inline_nil hholds hskip hothers'
      rwa [List.append_nil] at hleaves
  | .fallback head body last, items, hb, shown, hshown, blocks, out, hout, h => by
    rw [Sections.before] at hb
    rw [Sections.shown] at hshown
    have hlast : Laid c.entries (Sections.before (.close last) items) := by
      rw [Sections.before]
      exact body.laid hb.tail
    have hended := body.shown_ended hb.tail (List.cons_ne_nil _ _) hshown
    have hclose := Sections.taken hc (.close last) hlast (closed_append_flatten hout hended) h
    rw [Sections.before] at hclose
    have hbody : (c.stage (true :: blocks) true
        (joined (body.before (.marked .closing last :: items))) (mark ++ out)).Ends ctx
          c.dispatcher o := body.live hb.tail hshown (fun _ => hout) hclose
    have hpass : Gives
        (Session.At · (head.after (joined (body.before (.marked .closing last :: items))))
          (mark ++ out))
        (c.whitespace.after ctx) ()
        (Session.At · (joined (body.before (.marked .closing last :: items))) (mark ++ out)) :=
      hc.passes head.inline.2 (hb.endsLine hc.inline)
    exact Leads.stop ((hc.clean hout).bind (hpass.bind (Gives.pure fun _ => id))) hbody
  | .close last, items, hb, shown, hshown, blocks, out, hout, h => by
    rw [Sections.before] at hb
    rw [Sections.shown] at hshown
    cases hshown
    rw [List.flatten_nil, List.append_nil] at h
    have hclose := hc.closes (hb.endsLine hc.inline) hout inline_nil false h
    rwa [List.append_nil] at hclose

end

end Runs

namespace Processor

/-- **The meaning of pages.** Take a valid configuration whose only operation handles
conditional blocks by whole lines and knows no terminators, where no marker and no name of a
variable has a line ending, and a text in UTF-8 that is cut into the lines of a page, within
which tokens match at the markers of the page and nowhere else. If every condition that is
reached can be decided, then the run succeeds and gives the byte-order mark and the text
lines that the page shows. -/
theorem run_page (c : Configuration) (hvalid : c.validate = .ok ()) (s : ConditionalSettings)
    (hops : c.operations = [.conditionals s]) (hline : s.wholeLine = true)
    (hterminators : s.terminators = []) (hmarkers : ∀ m ∈ s.markers, Unbroken m.2)
    (dialect : Dialect) (hdialect : Dialect.ofName s.evaluator = .ok dialect) (v : Variables)
    (hnames : ∀ name ∈ v.keys, Unbroken name) (conv : Converter) (ambient : Ambient)
    (source : Source) (hsource : source.fails = false)
    (hutf8 : (Encoding.detect source.unread.bytes).1 = .utf8) (d : Page)
    (hcut : lines (source.unread.bytes.drop (Encoding.detect source.unread.bytes).2) =
      (d.before []).map Line.bytes)
    (hplaced : ∀ line ∈ d.before [], line.Placed (s.tokens .utf8)) (shown : List Bytes)
    (hshown : d.shown (.make dialect (.make .utf8 v c.variableFormat) conv []) = some shown) :
    (make c v conv ambient).map (·.run source (Memory.ofBytes [])) =
      .ok (.ok d.hasBlock,
        Memory.ofBytes
          (source.unread.bytes.take (Encoding.detect source.unread.bytes).2 ++ shown.flatten)) := by
  let p : Processor := ⟨c, v, conv⟩
  let mark := source.unread.bytes.take (Encoding.detect source.unread.bytes).2
  have hglossary : p.glossary source.unread.bytes = .make .utf8 v c.variableFormat := by
    rw [glossary, hutf8]
  obtain ⟨k, hk, hscans, hblocks, hentries, hevaluator, hwhitespace, -⟩ :=
    Conditional.exists_make (p.glossary source.unread.bytes) conv hdialect
  rw [hglossary] at hentries
  rw [hglossary, hterminators] at hevaluator
  have htext : source.unread.bytes.drop (Encoding.detect source.unread.bytes).2 =
      joined (d.before []) := by
    rw [← lines_flatten (source.unread.bytes.drop _), hcut, joined]
  have hlaid : Laid k.entries (d.before []) := by
    refine ⟨?_, fun line hmem => ?_⟩
    · rw [← htext, hcut]
    · rw [hentries]
      exact hplaced line hmem
  have hbyline : k.ByLine (p.context source.unread.bytes) mark := by
    refine ⟨hscans, ?_, ?_, ?_, ?_, v, c.variableFormat, hglossary⟩
    · rw [hwhitespace, hline]
      rfl
    · intro e he
      rw [hentries] at he
      obtain ⟨m, hm, rfl⟩ := List.mem_map.1 he
      exact Encoding.inline_utf8 (hmarkers m hm)
    · rw [hevaluator]
      exact dialect.knowsLines.stopsAtLines hnames
    · show (Encoding.detect source.unread.bytes).2 = mark.length
      rw [List.length_take, Nat.min_eq_left (Encoding.detect_le _)]
  have hend : (k.stage k.blocks (false || d.hasBlock) (joined [])
      (mark ++ ([] ++ shown.flatten))).Ends (p.context source.unread.bytes) k.dispatcher
        (.ok d.hasBlock, mark ++ shown.flatten) := k.ends _ hblocks _ _
  have hlive := d.live hbyline hlaid (hevaluator ▸ hshown) (fun _ => .inl rfl) hend
  rw [List.append_nil, ← htext] at hlive
  rw [make_singleton hvalid hops nofun]
  exact congrArg Except.ok (run_conditional (p := p) hops hsource hk hlive)

/-- Two nested blocks; both leave their first branch, and the last line has no ending. -/
def page : Page :=
  let bytes := Encoding.utf8.encode
  .text (bytes "a\r\n") <| .block (.mk (bytes "  ") (bytes "#if ") (bytes "x") [10])
    (.text (bytes "b\n") .empty)
    (.alternative (.mk [] (bytes "#elif ") (bytes "y") [13])
      (.block (.mk (bytes "\t") (bytes "#if ") (bytes "x") [13, 10]) (.text (bytes "c\n") .empty)
        (.fallback (.mk [] (bytes "#else") (bytes " ") [10]) (.text (bytes "d\r") .empty)
          (.mk (bytes " ") (bytes "#endif") [] [10])) .empty)
      (.close (.mk [] (bytes "#endif") [] []))) .empty

theorem run_page_nested :
    (make ⟨Configuration.defaultFormat, [.conditionals
          ⟨["#if "], ["#elif "], ["#else"], ["#endif"], true, false, "C++", [], true⟩], 1, 1⟩
        (.ofList [("x", .bool false), ("y", .bool true)]) .standard ⟨⟨0, 0⟩, fun _ => 0⟩).map
          (·.run (.ofBytes (Encoding.utf8.mark ++ joined (page.before []))) (Memory.ofBytes [])) =
      .ok (.ok true, Memory.ofBytes (Encoding.utf8.mark ++ [97, 13, 10, 100, 13])) :=
  run_page _ rfl ⟨["#if "], ["#elif "], ["#else"], ["#endif"], true, false, "C++", [], true⟩
    rfl rfl rfl (by decide) .logical rfl _ (by decide) _ _
    (.ofBytes (Encoding.utf8.mark ++ joined (page.before []))) rfl rfl page (by decide +kernel)
    (by decide +kernel) [[97, 13, 10], [100, 13]] (by decide +kernel)

end Processor

end Templating
