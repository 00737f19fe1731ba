import Templating.Proofs.Transcription

/-!
# Transparency of encodings

A run over a text in UTF-16 or UTF-32, after its byte-order mark, and a run over the same
text in UTF-8 are the same run, told in two encodings. Both loops pass a text byte by
byte, though, and the one in the wider encoding may find a token off its code units: then
they part.

* `Stage.ends_text`: two runs over one text keep together.
* `Processor.Transparent`: the two runs fail alike, or succeed with the same text.
* `Processor.transparent_iff_aligned`: so it is where all tokens stand at whole code units.
-/

namespace Templating

/-! ## Dispatch -/

namespace Dispatch

/-- The tokens of several operations as characters, with their owners. -/
def spelled (sets : List (List String)) : List (List Char × Handler) :=
  sets.zipIdx.flatMap fun set => set.1.zipIdx.map fun t => (t.1.toList, ⟨set.2, t.2⟩)

theorem registered_spelled (e : Encoding) (sets : List (List String)) :
    registered (sets.map (·.map e.encode)) = (spelled sets).map fun x => (e.text x.1, x.2) := by
  simp only [registered, spelled, owned, List.zipIdx_map, List.flatMap_map, List.map_flatMap,
    List.map_map, Prod.map, Function.comp_def, id]
  rfl

/-- The dispatch of the tokens of several operations in an encoding. -/
def ofWords (e : Encoding) (sets : List (List String)) : Dispatch :=
  ofSets (sets.map (·.map e.encode))

variable {e : Encoding} {sets : List (List String)}

/-- **Before a character** a dispatch answers alike in all encodings. -/
theorem match?_ofWords (e : Encoding) (sets : List (List String)) (cs : List Char) :
    (ofWords e sets).match? (e.text cs) =
      (longestMatch? (spelled sets) cs).map fun x => (x.2, (e.text x.1).length) := by
  rw [ofWords, match?_ofSets, registered_spelled, longestMatch?_text, Option.map_map]
  rfl

theorem mem_flatten_of_mem_spelled {x : List Char × Handler} (h : x ∈ spelled sets) :
    ∃ t ∈ sets.flatten, x.1 = t.toList := by
  obtain ⟨set, hset, hx⟩ := List.mem_flatMap.1 h
  obtain ⟨t, ht, rfl⟩ := List.mem_map.1 hx
  exact ⟨t.1, List.mem_flatten.2 ⟨set.1, List.fst_mem_of_mem_zipIdx hset,
    List.fst_mem_of_mem_zipIdx ht⟩, rfl⟩

/-- Between two characters of a text a dispatch finds nothing, if no token stands there. -/
theorem match?_inside {c : Char} {cs : List Char} (h : e.Aligned sets.flatten (c :: cs))
    {skipped inside : Bytes} (hskipped : skipped ≠ []) (hinside : inside ≠ [])
    (hsplit : e.encodeChar c = skipped ++ inside) :
    (ofWords e sets).match? (inside ++ e.text cs) = none := by
  rw [ofWords, match?_ofSets, registered_spelled, longestMatch?_eq_none.2, Option.map_none]
  intro x hx hne
  obtain ⟨y, hy, rfl⟩ := List.mem_map.1 hx
  obtain ⟨t, ht, hchars⟩ := mem_flatten_of_mem_spelled hy
  rw [hchars] at hne ⊢
  refine h.not_prefix ht ?_ hskipped hinside hsplit
  rintro rfl
  exact hne rfl

end Dispatch

/-! ## Stages -/

namespace Stage

variable {e e' : Encoding} {ctx ctx' : Context} {mark mark' : Bytes} {whole : List Char}
  {operations operations' : List Operation} {modified : Bool} {output : Bytes}

/-- A character before which no token begins is copied as a whole. -/
theorem Ends.copies_char {sets : List (List String)} {c : Char} {cs : List Char}
    (h : e.Aligned sets.flatten (c :: cs))
    (hnone : longestMatch? (Dispatch.spelled sets) (c :: cs) = none) {o : Outcome}
    (hends : Ends ctx (.ofWords e sets)
      ⟨operations, modified, e.text cs, output ++ e.text [c]⟩ o) :
    Ends ctx (.ofWords e sets) ⟨operations, modified, e.text (c :: cs), output⟩ o := by
  rw [Encoding.text_cons, Encoding.text_nil, List.append_nil] at hends
  refine copies (e.encodeChar c) (e.text cs) output ?_ hends
  rintro suffix hne ⟨skipped, hsplit⟩
  by_cases hskipped : skipped = []
  · rw [hskipped, List.nil_append] at hsplit
    rw [hsplit, ← Encoding.text_cons, Dispatch.match?_ofWords, hnone, Option.map_none]
  · exact Dispatch.match?_inside h hskipped hne hsplit.symm

/-- What the owners of a token make of two stages with one text. -/
inductive Handled (e e' : Encoding) (ctx ctx' : Context) (mark mark' : Bytes)
    (whole post : List Char) :
    Except (Error × Bytes) Stage → Except (Error × Bytes) Stage → Prop
  | ok {os os' : List Operation} {cs kept : List Char} :
      Operation.Paired (Window.Level e e' whole) (Memory.Written e e' mark mark') ctx ctx' os os' →
      cs <:+ whole → (e.text cs).length ≤ (e.text post).length →
      Handled e e' ctx ctx' mark mark' whole post
        (.ok ⟨os, true, e.text cs, mark ++ e.text kept⟩)
        (.ok ⟨os', true, e'.text cs, mark' ++ e'.text kept⟩)
  | error (cause : Error) (kept : List Char) :
      Handled e e' ctx ctx' mark mark' whole post (.error (cause, mark ++ e.text kept))
        (.error (cause, mark' ++ e'.text kept))

/-- **A token is handled alike in two encodings.** -/
theorem handled_text (hops : Operation.Paired (Window.Level e e' whole)
      (Memory.Written e e' mark mark') ctx ctx' operations operations')
    (ks : List Char) {post : List Char} (hpost : post <:+ whole) (handler : Handler)
    (modified : Bool) (kept : List Char) :
    Handled e e' ctx ctx' mark mark' whole post
      (handled ctx ⟨operations, modified, e.text (ks ++ post), mark ++ e.text kept⟩ handler
        (e.text ks).length)
      (handled ctx' ⟨operations', modified, e'.text (ks ++ post), mark' ++ e'.text kept⟩ handler
        (e'.text ks).length) := by
  have hdrop : ∀ e : Encoding, (e.text (ks ++ post)).drop (e.text ks).length = e.text post := by
    intro e
    rw [Encoding.text_append, List.drop_left]
  have hrel := hops.getElem? handler.operation
  simp only [handled, hdrop]
  generalize operations[handler.operation]? = x at hrel ⊢
  generalize operations'[handler.operation]? = y at hrel ⊢
  cases hrel with
  | none => exact .ok hops hpost le_rfl
  | @some o o' ho =>
    have hagree := Operation.simulates_handle ho handler.token
      (⟨.whole (e.text post), .ofBytes (mark ++ e.text kept)⟩ : Session Memory)
      ⟨.whole (e'.text post), .ofBytes (mark' ++ e'.text kept)⟩
      ⟨⟨post, hpost, Window.at_whole _, Window.at_whole _⟩, kept, rfl, rfl⟩
    -- an operation may go on to any later character, but never back
    have hleft := Operation.shrinks_handle Window.descends_remaining ctx handler.token o
      (⟨.whole (e.text post), .ofBytes (mark ++ e.text kept)⟩ : Session Memory)
    generalize hx : o.handle ctx handler.token
      (⟨.whole (e.text post), .ofBytes (mark ++ e.text kept)⟩ : Session Memory) = x at hagree hleft
    generalize hy : o'.handle ctx' handler.token
      (⟨.whole (e'.text post), .ofBytes (mark' ++ e'.text kept)⟩ : Session Memory) = y at hagree
    cases hagree with
    | @ok x y σ σ' htwin halike =>
      obtain ⟨⟨cs, hcs, hw, hw'⟩, kept, ht, ht'⟩ := halike
      have hle : σ.window.remaining ≤ (Window.whole (e.text post)).remaining := hleft
      rw [hw.remaining, (Window.at_whole (e.text post)).remaining] at hle
      simp only [hx, hy, hw.rest_eq, hw'.rest_eq, ht, ht', Memory.toBytes_ofBytes]
      exact .ok (hops.set htwin handler.operation) hcs hle
    | @error cause σ σ' halike =>
      obtain ⟨-, kept, ht, ht'⟩ := halike
      simp only [hx, hy, ht, ht', Memory.toBytes_ofBytes]
      exact .error cause kept

/-- **Two runs over one text keep together**: from stages with one text on they end alike,
with the same result and with one text in both outputs. -/
theorem ends_text {sets : List (List String)} (h : e.Aligned sets.flatten whole)
    (h' : e'.Aligned sets.flatten whole) (cs : List Char) :
    ∀ {os os' : List Operation} (modified : Bool) (done : List Char), cs <:+ whole →
      Operation.Paired (Window.Level e e' whole) (Memory.Written e e' mark mark') ctx ctx' os os' →
      ∃ result kept,
        Ends ctx (.ofWords e sets) ⟨os, modified, e.text cs, mark ++ e.text done⟩
          (result, mark ++ e.text kept) ∧
        Ends ctx' (.ofWords e' sets) ⟨os', modified, e'.text cs, mark' ++ e'.text done⟩
          (result, mark' ++ e'.text kept) := by
  induction hn : (e.text cs).length using Nat.strong_induction_on generalizing cs with
  | _ n ih =>
    intro os os' modified done hcs hops
    cases hm : longestMatch? (Dispatch.spelled sets) cs with
    | none =>
      cases cs with
      | nil =>
        refine ⟨result os modified, done, .ended, ?_⟩
        rw [result, hops.finish_eq]
        exact .ended
      | cons c cs =>
        -- the character goes to both outputs
        have hpos := List.length_pos_iff.2 (e.encodeChar_ne_nil c)
        obtain ⟨result, kept, hends, hends'⟩ := ih (e.text cs).length
          (by rw [← hn, Encoding.text_cons, List.length_append]; omega) cs rfl modified
          (done ++ [c]) ((List.suffix_cons _ _).trans hcs) hops
        rw [Encoding.text_append, ← List.append_assoc] at hends hends'
        exact ⟨result, kept, .copies_char (h.suffix hcs) hm hends,
          .copies_char (h'.suffix hcs) hm hends'⟩
    | some found =>
      obtain ⟨ks, handler⟩ := found
      obtain ⟨hks, post, rfl⟩ : ks ≠ [] ∧ ks <+: cs :=
        ⟨(longestMatch?_spec hm).2.1, (longestMatch?_spec hm).2.2.1⟩
      have hmatch : ∀ e : Encoding, e.text (ks ++ post) ≠ [] ∧
          (Dispatch.ofWords e sets).match? (e.text (ks ++ post)) =
            some (handler, (e.text ks).length) := by
        intro e
        refine ⟨Encoding.text_eq_nil.not.2 (by simp [hks]), ?_⟩
        rw [Dispatch.match?_ofWords, hm]
        rfl
      have hhandled := handled_text hops ks ((List.suffix_append _ _).trans hcs) handler
        modified done
      generalize hx : handled ctx ⟨os, modified, e.text (ks ++ post), mark ++ e.text done⟩ handler
        (e.text ks).length = x at hhandled
      generalize hy : handled ctx' ⟨os', modified, e'.text (ks ++ post), mark' ++ e'.text done⟩
        handler (e'.text ks).length = y at hhandled
      cases hhandled with
      | @ok os₁ os₁' ds kept hops hds hle =>
        have hlt := hle.trans_lt (e.length_text_lt hks post)
        obtain ⟨result, kept, hends, hends'⟩ := ih _ (hn ▸ hlt) ds rfl true kept hds hops
        exact ⟨result, kept, .handled (hmatch e).1 (hmatch e).2 hx hends,
          .handled (hmatch e').1 (hmatch e').2 hy hends'⟩
      | error cause kept =>
        exact ⟨.error cause, kept, .failed (hmatch e).1 (hmatch e).2 hx,
          .failed (hmatch e').1 (hmatch e').2 hy⟩

end Stage

/-! ## Byte-order marks -/

namespace Encoding

/-- A text in UTF-8 does not begin with a byte that is no UTF-8. -/
theorem not_utf8_prefix {b : UInt8} (hb : 0xF8 ≤ b.toNat) (rest : Bytes) (cs : List Char) :
    ¬ b :: rest <+: utf8.text cs := by
  intro h
  have hmem : b ∈ utf8.text cs := h.subset List.mem_cons_self
  obtain ⟨c, -, hc⟩ := List.mem_flatMap.1 hmem
  have := toNat_of_mem_utf8 c b hc
  omega

variable {cs : List Char}

theorem not_text_prefix {c : Char} (h : cs.head? ≠ some c) (e : Encoding) :
    ¬ e.text [c] <+: e.text cs := by
  rw [text_prefix_iff]
  rintro ⟨rest, rfl⟩
  exact h rfl

/-- A mark is recognized before a text that does not begin with U+0000. -/
theorem detect_mark (e : Encoding) (h : cs.head? ≠ some '\x00') :
    detect (e.mark ++ e.text cs) = (e, e.mark.length) := by
  cases e with
  | utf8 => rfl
  | utf16le =>
    -- the mark of UTF-32 goes on with U+0000
    have hlonger : ([0, 0] : Bytes).isPrefixOf (utf16le.text cs) = false := by
      rw [Bool.eq_false_iff, ne_eq, List.isPrefixOf_iff_prefix]
      exact not_text_prefix h utf16le
    simp [detect, mark, hlonger]
  | utf16be => rfl
  | utf32le => rfl
  | utf32be => rfl

/-- A text in UTF-8 is recognized without a mark. -/
theorem detect_text (hmark : cs.head? ≠ some '\uFEFF') (hzero : cs.head? ≠ some '\x00') :
    detect (utf8.text cs) = (utf8, 0) := by
  have hnone : ∀ e : Encoding, e.mark.isPrefixOf (utf8.text cs) = false := by
    intro e
    rw [Bool.eq_false_iff, ne_eq, List.isPrefixOf_iff_prefix]
    cases e with
    | utf8 => exact not_text_prefix hmark utf8
    | utf16le => exact not_utf8_prefix (by decide) _ cs
    | utf16be => exact not_utf8_prefix (by decide) _ cs
    | utf32le => exact not_utf8_prefix (by decide) _ cs
    | utf32be =>
      intro h
      exact not_text_prefix hzero utf8 (List.IsPrefix.trans (by decide) h)
  simp [detect, hnone]

end Encoding

/-! ## Runs -/

namespace Processor

variable {p : Processor} {e e' : Encoding}

theorem processBytes_eq {input : Bytes} {o : Stage.Outcome} (h : p.Runs input o) :
    p.processBytes input = o.1.map fun modified => (o.2, modified) := by
  have hrun : p.run (.ofBytes input) (Memory.ofBytes []) = (o.1, Memory.ofBytes o.2) :=
    run_eq rfl h
  simp only [processBytes, hrun]
  cases o.1 <;> rfl

/-- The texts that a run searches its input for. -/
def searched (p : Processor) : List String :=
  p.configuration.operations.flatMap (·.searched p.bindings p.configuration.variableFormat)

section Marked

variable {mark : Bytes} {cs : List Char}
  (hdetect : Encoding.detect (mark ++ e.text cs) = (e, mark.length))

include hdetect

/-- A run over a text whose operations cannot be made. -/
theorem processBytes_rejected {cause : ConfigError}
    (h : p.configuration.operations.mapM
      (·.materialize (.make e p.bindings p.configuration.variableFormat) p.converter) =
        .error cause) : p.processBytes (mark ++ e.text cs) = .error (.config cause) := by
  refine processBytes_eq (o := (.error (.config cause), [])) (.rejected ?_)
  simp only [materialize, glossary, hdetect, h]
  rfl

/-- A run over a text, from the stage after its mark. -/
theorem processBytes_ran {made : List (Option Operation)} {o : Stage.Outcome}
    (h : p.configuration.operations.mapM
      (·.materialize (.make e p.bindings p.configuration.variableFormat) p.converter) = .ok made)
    (hends : Stage.Ends ⟨.make e p.bindings p.configuration.variableFormat, mark.length⟩
      (.ofSets ((made.filterMap id).map Operation.tokens))
      ⟨made.filterMap id, false, e.text cs, mark⟩ o) :
    p.processBytes (mark ++ e.text cs) = o.1.map fun modified => (o.2, modified) := by
  refine processBytes_eq (.ran (?_ : p.materialize _ = .ok (made.filterMap id)) ?_)
  · simp only [materialize, glossary, hdetect, h]
    rfl
  · rw [context, glossary, hdetect]
    simp only [List.drop_left, List.take_left]
    exact hends

end Marked

/-- **Runs over one text in two encodings** fail alike or give one text. -/
theorem processBytes_text (mark mark' : Bytes) {cs : List Char} (h : e.Aligned p.searched cs)
    (h' : e'.Aligned p.searched cs)
    (hdetect : Encoding.detect (mark ++ e.text cs) = (e, mark.length))
    (hdetect' : Encoding.detect (mark' ++ e'.text cs) = (e', mark'.length)) :
    ∃ r : Except Error (List Char × Bool),
      p.processBytes (mark ++ e.text cs) = r.map (fun x => (mark ++ e.text x.1, x.2)) ∧
        p.processBytes (mark' ++ e'.text cs) = r.map fun x => (mark' ++ e'.text x.1, x.2) := by
  have hsub : ∀ s ∈ p.configuration.operations,
      s.searched p.bindings p.configuration.variableFormat ⊆ p.searched :=
    fun s hs t ht => List.mem_flatMap.2 ⟨s, hs, ht⟩
  rcases Operation.mapM_text p.converter mark mark' (fun s hs => h.mono (hsub s hs))
    (fun s hs => h'.mono (hsub s hs)) with
    ⟨cause, hmade, hmade'⟩ | ⟨made, made', sets, hmade, hmade', hsets, hops⟩
  · exact ⟨.error (.config cause), processBytes_rejected hdetect hmade,
      processBytes_rejected hdetect' hmade'⟩
  · obtain ⟨result, kept, hends, hends'⟩ := Stage.ends_text (h.mono hsets) (h'.mono hsets) cs false
      [] List.suffix_rfl hops.paired
    rw [Dispatch.ofWords, ← hops.tokens, Encoding.text_nil, List.append_nil] at hends
    rw [Dispatch.ofWords, ← hops.tokens', Encoding.text_nil, List.append_nil] at hends'
    refine ⟨result.map fun modified => (kept, modified), ?_, ?_⟩
    · rw [processBytes_ran hdetect hmade hends]
      cases result <;> rfl
    · rw [processBytes_ran hdetect' hmade' hends']
      cases result <;> rfl

/-- **A text in an encoding and the text in UTF-8 have one outcome**: both runs fail with the
same error, or both succeed, one text is in both outputs, and both tell alike whether any token
has matched. -/
def Transparent (p : Processor) (e : Encoding) (s : String) : Prop :=
  ∃ r : Except Error (String × Bool),
    p.processBytes (Encoding.utf8.encode s) = r.map (fun x => (Encoding.utf8.encode x.1, x.2)) ∧
      p.processBytes (e.mark ++ e.encode s) = r.map fun x => (e.mark ++ e.encode x.1, x.2)

/-- **No token matches across two characters**: where the bytes of a text that is searched for
stand in those of the input, its characters stand there. -/
def MatchesWhole (p : Processor) (e : Encoding) (s : String) : Prop :=
  ∀ t ∈ p.searched, t ≠ "" → ∀ i, e.encode t <+: (e.encode s).drop i →
    ∃ pre post, s.toList = pre ++ post ∧ i = (e.text pre).length ∧ t.toList <+: post

/-- **Where an encoding is transparent.** For a text that begins neither with U+FEFF nor with
U+0000, the runs in the encoding and in UTF-8 have one outcome and no token matches across two
characters, exactly if no text that is searched for stands off the code units. -/
theorem transparent_iff_aligned (p : Processor) (e : Encoding) (s : String)
    (hmark : s.toList.head? ≠ some '\uFEFF') (hzero : s.toList.head? ≠ some '\x00') :
    p.Transparent e s ∧ p.MatchesWhole e s ↔ e.Aligned p.searched s.toList := by
  constructor
  · rintro ⟨-, hwhole⟩ t ht hne i hi
    obtain ⟨pre, post, -, rfl, -⟩ := hwhole t ht hne i hi
    exact e.unitWidth_dvd_text pre
  · intro h
    refine ⟨?_, fun t ht hne i hi => ?_⟩
    · -- in UTF-8 no token can stand off the units, and there is no mark
      obtain ⟨r, hutf8, hrun⟩ := processBytes_text [] e.mark
        (Encoding.aligned_utf8 p.searched s.toList) h (Encoding.detect_text hmark hzero)
        (e.detect_mark hzero)
      have hmap : ∀ (e : Encoding) (mark : Bytes),
          (r.map fun x => (String.ofList x.1, x.2)).map (fun x => (mark ++ e.encode x.1, x.2)) =
            r.map fun x => (mark ++ e.text x.1, x.2) := by
        intro e mark
        cases r with
        | error cause => rfl
        | ok x =>
          simp only [Except.map, Encoding.encode_eq_text, String.toList_ofList]
      refine ⟨r.map fun x => (String.ofList x.1, x.2), ?_, ?_⟩
      · exact hutf8.trans (hmap .utf8 []).symm
      · exact hrun.trans (hmap e e.mark).symm
    · exact Encoding.boundary (fun hnil => hne (toList_eq_nil.1 hnil)) (h t ht hne i hi) hi

/-- A token at the units of a text: its runs have one outcome. -/
theorem transparent_at_units :
    "aĀԁ".toList.head? ≠ some '\uFEFF' ∧ "aĀԁ".toList.head? ≠ some '\x00' ∧
      Transparent ⟨⟨Configuration.defaultFormat, [.replacements ⟨"Ā", "x"⟩], 1, 1⟩, .ofList [],
        .standard⟩ .utf16le "aĀԁ" :=
  have hmark : "aĀԁ".toList.head? ≠ some '\uFEFF' := by decide
  have hzero : "aĀԁ".toList.head? ≠ some '\x00' := by decide
  ⟨hmark, hzero, ((transparent_iff_aligned _ _ _ hmark hzero).2 (by decide)).1⟩

/-- **A token off the units of a text**: in UTF-16 the last byte of one character and the first
one of the next are taken for the token, and UTF-8 has no such bytes. -/
theorem not_transparent_off_units :
    "aԁ".toList.head? ≠ some '\uFEFF' ∧ "aԁ".toList.head? ≠ some '\x00' ∧
      ∃ p, make ⟨Configuration.defaultFormat, [.replacements ⟨"Ā", "x"⟩], 1, 1⟩ (.ofList [])
          .standard ⟨⟨0, 0⟩, fun _ => 0⟩ = .ok p ∧ ¬ p.Transparent .utf16le "aԁ" := by
  refine ⟨by decide, by decide, _, rfl, ?_⟩
  rintro ⟨r, hutf8, hrun⟩
  -- one run has matched a token, the other has not
  have hplain : r.map (fun x => (Encoding.utf8.encode x.1, x.2)) =
      .ok ([97, 212, 129], false) := by
    rw [← hutf8]
    rfl
  have hmarked : r.map (fun x => (Encoding.utf16le.mark ++ Encoding.utf16le.encode x.1, x.2)) =
      .ok ([255, 254, 97, 120, 0, 5], true) := by
    rw [← hrun]
    rfl
  cases r with
  | error cause => cases hplain
  | ok x =>
    have hflag : x.2 = false := congrArg Prod.snd (Except.ok.inj hplain)
    have hflag' : x.2 = true := congrArg Prod.snd (Except.ok.inj hmarked)
    rw [hflag] at hflag'
    cases hflag'

end Processor

end Templating
