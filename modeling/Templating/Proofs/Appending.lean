import Templating.Proofs.Edits

/-!
# Runs onto what stands there already

A run cuts its output back before some markers, but never below the floor, which is the length
of the byte-order mark of its source. Where the target held something before the run, that is not
where the output of the run begins, and a cut that leaves nothing of this output goes on into
what the target held.

* `Edit.replay_append`: edits of a text behind another one cut the other one's end at most.
* `Processor.Spares`: no cut of the run goes into what the target held.
* `Processor.run_onto`: there, and for whole code units only there, a run only appends.
* `Processor.spares_of_settled`: what ends as the policies of the operations leave a text.
-/

namespace Templating

/-! ## Edits behind a text -/

namespace Edit

variable {g : Glossary} {earlier : Bytes}

/-- No cut of some edits goes into what stands before the text that they are made for. -/
def Spared (g : Glossary) (earlier : Bytes) : List Edit → Bytes → Prop
  | [], _ => True
  | edit :: edits, text =>
    edit.policy.Spares g earlier text ∧ Spared g earlier edits (edit.apply g text)

theorem apply_of_spares {edit : Edit} {text : Bytes} (h : edit.policy.Spares g earlier text) :
    edit.apply g (earlier ++ text) = earlier ++ edit.apply g text := by
  rw [apply, h, List.append_assoc, apply]

theorem replay_of_spared {edits : List Edit} : ∀ {text : Bytes}, Spared g earlier edits text →
    replay g edits (earlier ++ text) = earlier ++ replay g edits text := by
  induction edits with
  | nil => exact fun _ => rfl
  | cons edit edits ih =>
    intro text h
    rw [replay_cons, replay_cons, apply_of_spares h.1, ih h.2]

/-- **An edit of a text behind whole code units** leaves the same behind what it leaves of these,
which is all of them only if the cut spares them. -/
theorem apply_append (hg : g.Made) (hunit : g.encoding.unitWidth ∣ earlier.length) (edit : Edit)
    (text : Bytes) : ∃ kept, kept <+: earlier ∧ g.encoding.unitWidth ∣ kept.length ∧
      edit.apply g (earlier ++ text) = kept ++ edit.apply g text ∧
      (kept = earlier → edit.policy.Spares g earlier text) := by
  by_cases hspares : edit.policy.Spares g earlier text
  · exact ⟨earlier, List.prefix_refl _, hunit, apply_of_spares hspares, fun _ => hspares⟩
  · -- nothing is left of the text, and not all of what stands before it
    rw [WhitespacePolicy.spares_iff hg hunit, not_or, not_not] at hspares
    obtain ⟨hnil, hcut⟩ := hspares
    refine ⟨edit.policy.residue g earlier, edit.policy.residue_prefix g earlier,
      WhitespacePolicy.dvd_residue hg hunit, ?_, fun hall => absurd hall hcut⟩
    rw [apply, apply, WhitespacePolicy.residue_append hg hunit, if_pos hnil, hnil, List.nil_append]

/-- **Edits of a text behind whole code units** leave the same behind what they leave of these. -/
theorem replay_append (hg : g.Made) (edits : List Edit) :
    ∀ {earlier : Bytes} (text : Bytes), g.encoding.unitWidth ∣ earlier.length →
      ∃ kept, kept <+: earlier ∧
        replay g edits (earlier ++ text) = kept ++ replay g edits text ∧
        (kept = earlier → Spared g earlier edits text) := by
  induction edits with
  | nil => exact fun {earlier} _ _ => ⟨earlier, List.prefix_refl _, rfl, fun _ => trivial⟩
  | cons edit edits ih =>
    intro earlier text hunit
    obtain ⟨once, honce, hunit', happly, hspares⟩ := edit.apply_append hg hunit text
    obtain ⟨kept, hkept, hreplay, hspared⟩ := ih (edit.apply g text) hunit'
    refine ⟨kept, hkept.trans honce, by rw [replay_cons, happly, hreplay, replay_cons], ?_⟩
    rintro rfl
    -- what is all there at the end has been there all the time
    obtain rfl : once = kept := honce.eq_of_length_le hkept.length_le
    exact ⟨hspares rfl, hspared rfl⟩

theorem spared_of_forall {edits : List Edit}
    (h : ∀ edit ∈ edits, ∀ text, edit.policy.Spares g earlier text) :
    ∀ text, Spared g earlier edits text := by
  induction edits with
  | nil => exact fun _ => trivial
  | cons edit edits ih =>
    exact fun text => ⟨h edit List.mem_cons_self text,
      ih (fun e he => h e (List.mem_cons_of_mem _ he)) _⟩

end Edit

/-! ## Policies of operations -/

/-- How an operation treats the blanks and lines around its tokens. -/
def OperationSettings.policy : OperationSettings → WhitespacePolicy
  | conditionals s => .ofFlags s.wholeLine s.trim
  | region s => .ofFlags s.wholeLine s.trim
  | replacements _ | variableExpansion | macros _ => .keep

namespace Operation

def policy : Operation → WhitespacePolicy
  | conditional c => c.whitespace
  | region r => r.whitespace
  | replacement _ | expansion _ => .keep

theorem policy_fresh (o : Operation) : o.fresh.policy = o.policy := by cases o <;> rfl

theorem policy_edit (o : Operation) (g : Glossary) (token : Nat) :
    (o.edit g token).policy = o.policy ∨ (o.edit g token).policy = .keep := by
  cases o with
  | conditional c =>
    simp only [edit, policy]
    split
    · exact Or.inl rfl
    · exact Or.inr rfl
  | region r => exact Or.inl rfl
  | replacement r => exact Or.inr rfl
  | expansion names => exact Or.inr rfl

theorem policy_of_materialize {s : OperationSettings} {g : Glossary} {conv : Converter}
    {o : Operation} (h : s.materialize g conv = .ok (some o)) : o.policy = s.policy := by
  cases OperationSettings.makes_of_materialize h <;> rfl

end Operation

namespace Stage

variable {ctx : Context} {d : Dispatch} {s : Stage} {P : WhitespacePolicy → Prop}

theorem policy_edit (hkeep : P .keep) (hops : ∀ o ∈ s.operations, P o.policy) :
    P (s.edit ctx.glossary d).policy := by
  unfold edit
  split
  · exact hkeep
  · split
    · exact hkeep
    · rename_i handler length hm
      cases ho : s.operations[handler.operation]? with
      | none => exact hkeep
      | some o =>
        rcases o.policy_edit ctx.glossary handler.token with hpolicy | hpolicy
        · exact hpolicy.symm ▸ hops o (List.mem_of_getElem? ho)
        · exact hpolicy.symm ▸ hkeep

/-- The cuts of a run are those of the policies of its operations. -/
theorem Edits.policies (hg : ctx.glossary.Made) {edits : List Edit} (h : s.Edits ctx d edits)
    (hs : s.Sound ctx) (hkeep : P .keep) (hops : ∀ o ∈ s.operations, P o.policy) :
    ∀ edit ∈ edits, P edit.policy := by
  induction h with
  | stops hn =>
    intro edit hedit
    obtain rfl := List.mem_singleton.1 hedit
    exact policy_edit hkeep hops
  | @goesOn s s' edits hn hedits ih =>
    have hpolicy : ∀ o : Operation, P o.fresh.policy ↔ P o.policy := fun o => by
      rw [o.policy_fresh]
    have hlater := ih (hs.next hg hn) (forall_next hpolicy hg hs hn hops)
    intro edit hedit
    rcases List.mem_cons.1 hedit with rfl | hedit
    · exact policy_edit hkeep hops
    · exact hlater edit hedit

end Stage

/-! ## Runs -/

namespace Processor

variable {p : Processor} {source : Source} {bytes earlier : Bytes} {operations : List Operation}
  {edits : List Edit}

/-- **A run only appends** to what a target holds: it has the same result as onto an empty
target, and leaves the same output behind that. -/
def Appends (p : Processor) (source : Source) (earlier : Bytes) : Prop :=
  (p.run source (Memory.ofBytes earlier)).1 = (p.run source (Memory.ofBytes [])).1 ∧
    (p.run source (Memory.ofBytes earlier)).2.toBytes =
      earlier ++ (p.run source (Memory.ofBytes [])).2.toBytes

/-- What a target holds when the byte-order mark of the source has been written to it. -/
def marked (bytes earlier : Bytes) : Bytes := earlier ++ bytes.take (Encoding.detect bytes).2

/-- What cuts can reach of that: all but as many bytes at its start as the mark has. -/
def exposed (bytes earlier : Bytes) : Bytes :=
  (marked bytes earlier).drop (Encoding.detect bytes).2

/-- **No cut of the run goes into what the target held**: each leaves of this and of the output
behind it what it leaves of the output alone. -/
def Spares (p : Processor) (bytes earlier : Bytes) : Prop :=
  ∀ (operations : List Operation) (edits : List Edit),
    p.materialize (p.glossary bytes) = .ok operations →
    (Stage.entered bytes operations).Edits (p.context bytes)
      (.ofSets (operations.map Operation.tokens)) edits →
    Edit.Spared (p.glossary bytes) (exposed bytes earlier) edits []

theorem length_mark_le (bytes earlier : Bytes) :
    (Encoding.detect bytes).2 ≤ (marked bytes earlier).length := by
  rw [marked, List.length_append, List.length_take_of_le (Encoding.detect_le bytes)]
  exact Nat.le_add_left _ _

theorem length_exposed (bytes earlier : Bytes) :
    (exposed bytes earlier).length = earlier.length := by
  rw [exposed, List.length_drop, marked, List.length_append,
    List.length_take_of_le (Encoding.detect_le bytes), Nat.add_sub_cancel]

theorem dvd_exposed (p : Processor) (hunit : (Encoding.detect bytes).1.unitWidth ∣ earlier.length) :
    (p.glossary bytes).encoding.unitWidth ∣ (exposed bytes earlier).length := by
  rw [length_exposed]
  exact hunit

theorem exposed_nil (bytes : Bytes) : exposed bytes [] = [] :=
  List.length_eq_zero_iff.1 (length_exposed bytes [])

theorem take_append_exposed (bytes earlier : Bytes) :
    (marked bytes earlier).take (Encoding.detect bytes).2 ++ exposed bytes earlier =
      marked bytes earlier :=
  List.take_append_drop _ _

/-- **Runs of a source onto any targets** replay the same edits on what these hold, and have the
same result. -/
theorem run_of_edits (hsource : source.fails = false)
    (hm : p.materialize (p.glossary source.unread.bytes) = .ok operations)
    (hedits : (Stage.entered source.unread.bytes operations).Edits
      (p.context source.unread.bytes) (.ofSets (operations.map Operation.tokens)) edits) :
    ∃ result, ∀ earlier, p.run source (Memory.ofBytes earlier) = (result, Memory.ofBytes
      ((marked source.unread.bytes earlier).take (Encoding.detect source.unread.bytes).2 ++
        Edit.replay (p.glossary source.unread.bytes) edits
          (exposed source.unread.bytes earlier))) := by
  obtain ⟨result, hends⟩ := hedits.ends (p.made_glossary _) (sound_entered hm)
  refine ⟨result, fun earlier => ?_⟩
  have hbelow : ((marked source.unread.bytes earlier).take
      (Encoding.detect source.unread.bytes).2).length = (p.context source.unread.bytes).floor :=
    List.length_take_of_le (length_mark_le source.unread.bytes earlier)
  have honto := hends _ (exposed source.unread.bytes earlier) hbelow
  rw [take_append_exposed] at honto
  have heq := (ends_run hsource earlier hm).unique honto
  obtain ⟨hresult, houtput⟩ := Prod.mk.inj heq
  exact Prod.ext hresult (congrArg Memory.ofBytes houtput)

theorem marked_nil (bytes : Bytes) : (marked bytes []).take (Encoding.detect bytes).2 =
    bytes.take (Encoding.detect bytes).2 := by
  rw [marked, List.nil_append, List.take_take, Nat.min_self]

/-- So a run appends if its edits leave alone what is exposed to them. -/
theorem appends_iff_replay (hsource : source.fails = false)
    (hm : p.materialize (p.glossary source.unread.bytes) = .ok operations)
    (hedits : (Stage.entered source.unread.bytes operations).Edits
      (p.context source.unread.bytes) (.ofSets (operations.map Operation.tokens)) edits) :
    p.Appends source earlier ↔
      Edit.replay (p.glossary source.unread.bytes) edits (exposed source.unread.bytes earlier) =
        exposed source.unread.bytes earlier ++
          Edit.replay (p.glossary source.unread.bytes) edits [] := by
  obtain ⟨result, hrun⟩ := run_of_edits hsource hm hedits
  have hsplit : ∀ output : Bytes,
      earlier ++ (source.unread.bytes.take (Encoding.detect source.unread.bytes).2 ++ output) =
        (marked source.unread.bytes earlier).take (Encoding.detect source.unread.bytes).2 ++
          (exposed source.unread.bytes earlier ++ output) := by
    intro output
    rw [← List.append_assoc, ← List.append_assoc, take_append_exposed, marked]
  rw [Appends, hrun earlier, hrun [], exposed_nil, marked_nil]
  simp only [Memory.toBytes_ofBytes, true_and]
  rw [hsplit, List.append_cancel_left_eq]

theorem exists_edits (hsource : source.fails = false)
    (hm : p.materialize (p.glossary source.unread.bytes) = .ok operations) :
    ∃ edits, (Stage.entered source.unread.bytes operations).Edits
      (p.context source.unread.bytes) (.ofSets (operations.map Operation.tokens)) edits :=
  (ends_run hsource [] hm).exists_edits

/-- Where no cut can go into what the target holds, none does. -/
theorem spares_of_policies (h : ∀ s ∈ p.configuration.operations, ∀ text,
    s.policy.Spares (p.glossary bytes) (exposed bytes earlier) text) : p.Spares bytes earlier := by
  intro operations edits hm hedits
  have hops : ∀ o ∈ operations, ∀ text,
      o.policy.Spares (p.glossary bytes) (exposed bytes earlier) text := by
    intro o ho
    obtain ⟨s, hs, hmade⟩ := mem_of_materialize hm ho
    rw [Operation.policy_of_materialize hmade]
    exact h s hs
  have hkeep : ∀ text,
      WhitespacePolicy.keep.Spares (p.glossary bytes) (exposed bytes earlier) text :=
    WhitespacePolicy.spares_keep _ _
  have hcuts := hedits.policies (P := fun policy => ∀ text,
    policy.Spares (p.glossary bytes) (exposed bytes earlier) text) (p.made_glossary _)
    (sound_entered hm) hkeep hops
  exact Edit.spared_of_forall hcuts []

/-- **What the policies of all operations leave as it is** is spared by every run: for policies
for lines what ends with a line ending, and for those for blanks what ends with no blank. -/
theorem spares_of_settled (hunit : (Encoding.detect bytes).1.unitWidth ∣ earlier.length)
    (h : ∀ s ∈ p.configuration.operations,
      s.policy.residue (p.glossary bytes) (exposed bytes earlier) = exposed bytes earlier) :
    p.Spares bytes earlier :=
  spares_of_policies fun s hs text =>
    (WhitespacePolicy.spares_iff (p.made_glossary _) (p.dvd_exposed hunit) text).2 (Or.inr (h s hs))

/-- **Runs onto what a target holds.** Whatever that is, a run has the same result as onto an
empty target. It only appends where no cut of it goes into what the target held, and if that is
made of whole code units it does so only there. -/
theorem run_onto (p : Processor) (bytes earlier : Bytes) (replies : List Reply) :
    (p.run ⟨.ofBytes bytes, replies, false⟩ (Memory.ofBytes earlier)).1 =
        (p.run ⟨.ofBytes bytes, replies, false⟩ (Memory.ofBytes [])).1 ∧
      (p.Spares bytes earlier → p.Appends ⟨.ofBytes bytes, replies, false⟩ earlier) ∧
      ((Encoding.detect bytes).1.unitWidth ∣ earlier.length →
        p.Appends ⟨.ofBytes bytes, replies, false⟩ earlier → p.Spares bytes earlier) := by
  set source : Source := ⟨.ofBytes bytes, replies, false⟩
  have hsource : source.fails = false := rfl
  refine ⟨?_, fun hspares => ?_, fun hunit happends operations edits hm hedits => ?_⟩
  · cases hm : p.materialize (p.glossary source.unread.bytes) with
    | error e => rw [run_of_rejected hsource _ hm, run_of_rejected hsource _ hm]
    | ok operations =>
      obtain ⟨edits, hedits⟩ := exists_edits hsource hm
      obtain ⟨result, hrun⟩ := run_of_edits hsource hm hedits
      rw [hrun earlier, hrun []]
  · cases hm : p.materialize (p.glossary source.unread.bytes) with
    | error e =>
      rw [Appends, run_of_rejected hsource _ hm, run_of_rejected hsource _ hm]
      exact ⟨rfl, (List.append_nil earlier).symm⟩
    | ok operations =>
      obtain ⟨edits, hedits⟩ := exists_edits hsource hm
      rw [appends_iff_replay hsource hm hedits]
      have hreplay := Edit.replay_of_spared (hspares operations edits hm hedits)
      rwa [List.append_nil] at hreplay
  · obtain ⟨kept, -, hreplay, hspared⟩ :=
      Edit.replay_append (p.made_glossary _) edits [] (p.dvd_exposed hunit)
    have hall := (appends_iff_replay hsource hm hedits).1 happends
    rw [List.append_nil] at hreplay
    exact hspared (List.append_cancel_right (hreplay.symm.trans hall))

/-- A line that has ended stays before a region whose markers go with their lines. -/
theorem run_onto_ended_line :
    let p : Processor := ⟨⟨Configuration.defaultFormat, [.region ⟨"[", "]", true, true, false⟩], 1,
      1⟩, .ofList [], .standard⟩
    let bytes := Encoding.utf8.encode "[\nx\n]\n"
    let earlier := Encoding.utf8.encode "a\n"
    p.Spares bytes earlier ∧ (Encoding.detect bytes).1.unitWidth ∣ earlier.length ∧
      p.Appends ⟨.ofBytes bytes, [], false⟩ earlier := by
  intro p bytes earlier
  have hunit : (Encoding.detect bytes).1.unitWidth ∣ earlier.length := by decide
  have hspares : p.Spares bytes earlier := spares_of_settled hunit (by decide +kernel)
  exact ⟨hspares, hunit, (run_onto p bytes earlier []).2.1 hspares⟩

/-- **A line that has not ended** goes with the line of the first marker, for which the search
for a line ending goes back to the floor. -/
theorem not_appends_open_line : ∃ p, make ⟨Configuration.defaultFormat,
      [.region ⟨"[", "]", true, true, false⟩], 1, 1⟩ (.ofList []) .standard
      ⟨⟨0, 0⟩, fun _ => 0⟩ = .ok p ∧
    ¬ p.Appends (.ofBytes (Encoding.utf8.encode "[\nx\n]\n")) (Encoding.utf8.encode "a") := by
  refine ⟨_, rfl, ?_⟩
  rintro ⟨-, houtput⟩
  revert houtput
  decide +kernel

end Processor

end Templating
