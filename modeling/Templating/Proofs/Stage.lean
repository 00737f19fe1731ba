import Templating.Processor
import Templating.Proofs.Handling

/-!
# Stages of a run

What a run does, told without a window: a `Stage` is the input that is left and the
output so far, and `Stage.Ends` says how the run goes on from there, byte by byte and
token by token.

* `Stage.handled`: the owner of a token handles it with all of the rest in memory.
* `Stage.Ends.unique`: a run ends in one way.
* `Stage.Ends.copies`: a stretch without tokens is copied.
-/

namespace Templating

/-! ## Everything in memory -/

namespace Window

/-- A window that holds a whole input. -/
def whole (bytes : Bytes) : Window := ⟨1, [], .ofBytes bytes, .ofBytes [], true⟩

/-- The bytes from the cursor to the end of the source. -/
def rest (w : Window) : Bytes := w.ahead.bytes ++ w.source.unread.bytes

theorem at_whole (bytes : Bytes) : (whole bytes).At bytes :=
  ⟨rfl, List.append_nil _, fun _ => rfl, Nat.one_pos⟩

theorem At.rest_eq {w : Window} {bytes : Bytes} (h : w.At bytes) : w.rest = bytes := h.whole

end Window

namespace Memory

@[simp]
theorem toBytes_ofBytes (bytes : Bytes) : (ofBytes bytes).toBytes = bytes := rfl

@[simp]
theorem ofBytes_toBytes (m : Memory) : ofBytes m.toBytes = m := rfl

theorem write_apply (bytes : Bytes) (m : Memory) :
    (Target.write bytes : EStateM IoError Memory Unit) m =
      .ok () (ofBytes (m.toBytes ++ bytes)) := by
  obtain ⟨content⟩ := m
  refine congrArg (EStateM.Result.ok ()) (congrArg Memory.mk (Array.ext' ?_))
  simp [toBytes]

theorem size_apply (m : Memory) :
    (Target.size : EStateM IoError Memory Nat) m = .ok m.toBytes.length m := rfl

end Memory

/-- Twins end alike at the end of the input. -/
theorem Operation.Paired.finish_eq {τ υ : Type} [Target τ] [Target υ]
    {W : Window → Window → Prop} {T : τ → υ → Prop} {ctx ctx' : Context}
    {os os' : List Operation} (h : Paired W T ctx ctx' os os') :
    RunPlan.finish os = RunPlan.finish os' := by
  induction h with
  | nil => rfl
  | cons ho _ ih =>
    simp only [RunPlan.finish, List.forM_eq_forM, List.forM_cons] at ih ⊢
    rw [Operation.finish_eq ho, ih]

/-! ## Stages -/

/-- How far a run has come: its operations, whether any token has matched, the input that
is left and all output so far. -/
structure Stage where
  operations : List Operation
  modified : Bool
  rest : Bytes
  output : Bytes

namespace Stage

/-- How a run ends: with its result, and with the output that it leaves. -/
abbrev Outcome := Except Error Bool × Bytes

/-- The result of a run at the end of its input. -/
def result (operations : List Operation) (modified : Bool) : Except Error Bool :=
  (RunPlan.finish operations).map fun _ => modified

/-- **What the owner of a token makes of a stage** at which the token stands. -/
def handled (ctx : Context) (s : Stage) (handler : Handler) (length : Nat) :
    Except (Error × Bytes) Stage :=
  match s.operations[handler.operation]? with
  | none => .ok { s with modified := true, rest := s.rest.drop length }
  | some operation =>
    match operation.handle ctx handler.token
        (⟨.whole (s.rest.drop length), .ofBytes s.output⟩ : Session Memory) with
    | .ok (operation, _) σ =>
      .ok ⟨s.operations.set handler.operation operation, true, σ.window.rest, σ.target.toBytes⟩
    | .error e σ => .error (e, σ.target.toBytes)

/-- What follows a stage: without a token a byte is copied, and a token is handled by its
owner. -/
def next (ctx : Context) (d : Dispatch) (s : Stage) : Turn Stage Outcome :=
  match s.rest with
  | [] => .stop (result s.operations s.modified, s.output)
  | b :: rest =>
    match d.match? (b :: rest) with
    | none => .again { s with rest := rest, output := s.output ++ [b] }
    | some (handler, length) =>
      match s.handled ctx handler length with
      | .ok s' => .again s'
      | .error (e, output) => .stop (.error e, output)

/-- **A run from a stage on** ends so. -/
inductive Ends (ctx : Context) (d : Dispatch) : Stage → Outcome → Prop
  | stops {s : Stage} {o : Outcome} : s.next ctx d = .stop o → Ends ctx d s o
  | goesOn {s s' : Stage} {o : Outcome} : s.next ctx d = .again s' → Ends ctx d s' o →
      Ends ctx d s o

namespace Ends

variable {ctx : Context} {d : Dispatch} {operations : List Operation} {modified : Bool}
  {rest output : Bytes} {s s' : Stage} {handler : Handler} {length : Nat} {o o' : Outcome}

/-- A run ends in one way. -/
theorem unique (h : Ends ctx d s o) (h' : Ends ctx d s o') : o = o' := by
  induction h with
  | stops hn =>
    cases h' with
    | stops hn' => exact Turn.stop.inj (hn.symm.trans hn')
    | goesOn hn' => cases hn.symm.trans hn'
  | goesOn hn _ ih =>
    cases h' with
    | stops hn' => cases hn.symm.trans hn'
    | goesOn hn' h' =>
      cases hn.symm.trans hn'
      exact ih h'

theorem ended :
    Ends ctx d ⟨operations, modified, [], output⟩ (result operations modified, output) :=
  .stops rfl

theorem copied {b : UInt8} (hnone : d.match? (b :: rest) = none)
    (h : Ends ctx d ⟨operations, modified, rest, output ++ [b]⟩ o) :
    Ends ctx d ⟨operations, modified, b :: rest, output⟩ o :=
  .goesOn (by simp only [next, hnone]) h

theorem handled (hne : s.rest ≠ []) (hm : d.match? s.rest = some (handler, length))
    (hs : s.handled ctx handler length = .ok s') (h : Ends ctx d s' o) : Ends ctx d s o := by
  refine .goesOn ?_ h
  obtain ⟨b, rest, hrest⟩ := List.exists_cons_of_ne_nil hne
  rw [hrest] at hm
  simp only [next, hrest, hm, hs]

theorem failed {e : Error} (hne : s.rest ≠ []) (hm : d.match? s.rest = some (handler, length))
    (hs : s.handled ctx handler length = .error (e, output)) : Ends ctx d s (.error e, output) := by
  refine .stops ?_
  obtain ⟨b, rest, hrest⟩ := List.exists_cons_of_ne_nil hne
  rw [hrest] at hm
  simp only [next, hrest, hm, hs]

/-- A stretch in which no token begins is copied. -/
theorem copies :
    ∀ (copied rest output : Bytes),
      (∀ suffix, suffix ≠ [] → suffix <:+ copied → d.match? (suffix ++ rest) = none) →
      Ends ctx d ⟨operations, modified, rest, output ++ copied⟩ o →
      Ends ctx d ⟨operations, modified, copied ++ rest, output⟩ o
  | [], rest, output, _, h => by rwa [List.append_nil] at h
  | b :: stretch, rest, output, hnone, h => by
    refine copied (hnone (b :: stretch) (List.cons_ne_nil _ _) (List.suffix_refl _)) ?_
    refine copies stretch rest (output ++ [b]) ?_ (by rwa [List.append_assoc])
    exact fun suffix hne hsuffix => hnone suffix hne (hsuffix.trans (List.suffix_cons _ _))

end Ends

end Stage

end Templating
