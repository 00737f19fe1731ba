import Templating.Proofs.Coupling
import Templating.Proofs.Faithful

/-!
# Journals of targets

A journal takes down what happens to a target: every write and every cut, with the target as it
is after them. Whatever is done over a journal goes as it goes over the target alone, so what the
journal of a run says is true of the run.

* `Journal`: a target with its changes; `Change.Keeps`: a change that spares a mark.
* `Target.couples_cutBackTo`, `Target.couples_cutTrailing`: **no cut goes below its floor**,
  whatever tokens it looks for.
-/

namespace Templating

/-- A target with bytes that begin with a mark. -/
def Target.View.Begins {τ : Type} (view : View τ) (mark : Bytes) (t : τ) : Prop :=
  ∃ bytes, mark <+: bytes ∧ view.Holds bytes t

/-! ### Changes -/

/-- What happens to the bytes of a target, with the target after it. -/
inductive Change (τ : Type) where
  | write (after : τ)
  | cut (size : Nat) (after : τ)

/-- **A change that spares a mark**: the target begins with it then, and no cut has gone into it. -/
def Change.Keeps {τ : Type} (view : Target.View τ) (mark : Bytes) : Change τ → Prop
  | write after => mark <+: view.bytes after
  | cut size after => mark.length ≤ size ∧ mark <+: view.bytes after

structure Journal (τ : Type) where
  target : τ
  /-- The changes of the target, the last one first. -/
  changes : List (Change τ)

namespace Journal

variable {τ α : Type}

/-- The journal of a target to which nothing has happened yet. -/
def start (target : τ) : Journal τ := ⟨target, []⟩

/-- An action on the target of which nothing is taken down. -/
def silently (m : EStateM IoError τ α) : EStateM IoError (Journal τ) α := fun j =>
  match m j.target with
  | .ok a t => .ok a { j with target := t }
  | .error e t => .error e { j with target := t }

/-- An action on the target that is taken down once it has succeeded. -/
def noting (change : τ → Change τ) (m : EStateM IoError τ Unit) :
    EStateM IoError (Journal τ) Unit := do
  silently m
  modify fun j => { j with changes := change j.target :: j.changes }

instance [Target τ] : Target (Journal τ) where
  size := silently Target.size
  readAt offset count := silently (Target.readAt offset count)
  write bytes := noting .write (Target.write bytes)
  truncate size := noting (.cut size) (Target.truncate size)
  flush := silently Target.flush

variable {view : Target.View τ} {mark : Bytes} {P : τ → Prop}

/-- **A journal beside its target**, of which all changes have spared a mark. -/
structure Beside (view : Target.View τ) (mark : Bytes) (P : τ → Prop) (j : Journal τ) (t : τ) :
    Prop where
  target : j.target = t
  keeps : ∀ change ∈ j.changes, change.Keeps view mark
  holds : P t

theorem Beside.mono {P' : τ → Prop} {j : Journal τ} {t : τ} (h : j.Beside view mark P t)
    (hP : P t → P' t) : j.Beside view mark P' t :=
  ⟨h.target, h.keeps, hP h.holds⟩

/-- What is done silently goes the same way over the journal. -/
theorem couples_silently {m : EStateM IoError τ α} {Q : α → τ → Prop}
    (h : Ensures P m Q fun _ => True) :
    Couples (Beside view mark P) (Beside view mark fun _ => True) (silently m) m
      fun a b j t => a = b ∧ j.Beside view mark (Q a) t := by
  rintro ⟨t, changes⟩ _ ⟨rfl, hkeeps, hholds⟩
  have hstep := h t hholds
  rw [silently]
  cases hx : m t with
  | ok a t' =>
    rw [hx] at hstep
    exact .ok ⟨rfl, rfl, hkeeps, hstep⟩
  | error e t' => exact .error ⟨rfl, hkeeps, trivial⟩

/-- What is taken down spares the mark, if the target does from then on. -/
theorem couples_noting {m : EStateM IoError τ Unit} {Q : τ → Prop} {change : τ → Change τ}
    (h : Ensures P m (fun _ => Q) fun _ => True) (hchange : ∀ t, Q t → (change t).Keeps view mark) :
    Couples (Beside view mark P) (Beside view mark fun _ => True) (noting change m) m
      fun _ _ => Beside view mark Q := by
  rintro ⟨t, changes⟩ _ ⟨rfl, hkeeps, hholds⟩
  have hstep := h t hholds
  rw [noting, bind_apply, silently]
  cases hx : m t with
  | ok a t' =>
    rw [hx] at hstep
    have hall : ∀ c ∈ change t' :: changes, c.Keeps view mark :=
      List.forall_mem_cons.2 ⟨hchange t' hstep, hkeeps⟩
    exact .ok ⟨rfl, hall, hstep⟩
  | error e t' => exact .error ⟨rfl, hkeeps, trivial⟩

variable [Target τ] {b : Bytes}

/-- A write after which the target begins with the mark. -/
theorem couples_write (hview : view.Faithful) {bytes : Bytes} (hmark : mark <+: b ++ bytes) :
    Couples (Beside view mark (view.Holds b)) (Beside view mark fun _ => True)
      (Target.write bytes) (Target.write bytes)
      fun _ _ => Journal.Beside view mark (view.Begins mark) := by
  refine couples_noting ?_ ?_
  · exact (hview.write b bytes).weaken (fun _ h => h) (fun _ _ h => ⟨_, hmark, h⟩) fun _ h => h
  · rintro t ⟨bytes, hbegins, rfl, -⟩
    exact hbegins

/-- A cut behind the mark. -/
theorem couples_truncate (hview : view.Faithful) (hmark : mark <+: b) {n : Nat}
    (hn : mark.length ≤ n) (hb : n ≤ b.length) :
    Couples (Beside view mark (view.Holds b)) (Beside view mark fun _ => True)
      (Target.truncate n) (Target.truncate n)
      fun _ _ => Journal.Beside view mark (view.Begins mark) := by
  refine couples_noting ?_ ?_
  · have hkept : mark <+: b.take n := List.prefix_take_iff.2 ⟨hmark, hn⟩
    exact (hview.truncate b n hb).weaken (fun _ h => h) (fun _ _ h => ⟨_, hkept, h⟩) fun _ h => h
  · rintro t ⟨bytes, hbegins, rfl, -⟩
    exact ⟨hn, hbegins⟩

end Journal

/-! ### Cuts -/

namespace Target

variable {τ : Type} [Target τ] {view : View τ} {mark b : Bytes} {table : TokenTable}
  {unit floor : Nat}

theorem couples_backTurn (hview : view.Faithful) (stop : Nat) :
    Couples (fun j t => stop ≤ b.length ∧ j.Beside view mark (view.Holds b) t)
      (Journal.Beside view mark fun _ => True)
      (backTurn table unit floor stop) (backTurn table unit floor stop)
      fun x y j t => x = y ∧ x.Holds
        (fun next => next ≤ b.length ∧ j.Beside view mark (view.Holds b) t)
        (fun found => (∀ distance length, found = some (distance, length) →
          length ≤ distance ∧ floor + distance ≤ b.length) ∧
            j.Beside view mark (view.Holds b) t) := by
  rintro j t ⟨hstop, hbeside⟩
  unfold backTurn
  by_cases hfloor : stop ≤ floor
  · simp only [if_pos hfloor]
    exact .ok ⟨rfl, nofun, hbeside⟩
  · simp only [if_neg hfloor]
    refine (Journal.couples_silently (hview.readAt b _ _)).bind_same (fun bytes => ?_) j t hbeside
    rintro j t ⟨htarget, hkeeps, rfl, hholds⟩
    -- what is read begins at the floor or after it
    have hlength : ((b.drop (max (max (stop - stretch) floor - (table.longest - 1)) floor)).take
        (stop - max (max (stop - stretch) floor - (table.longest - 1)) floor)).reverse.length ≤
          stop - floor := by
      rw [List.length_reverse, List.length_take]
      omega
    cases hfound : lastEnd? table unit _ (stop - floor) (stop - max (stop - stretch) floor) with
    | none => exact .ok ⟨rfl, by omega, htarget, hkeeps, hholds⟩
    | some found =>
      refine .ok ⟨rfl, ?_, htarget, hkeeps, hholds⟩
      rintro distance length ⟨⟩
      have hle := lastEnd?_le _ hlength hfound
      omega

/-- **Cutting back to a token** spares what lies below the floor. -/
theorem couples_cutBackTo (hview : view.Faithful) (hfloor : mark.length = floor) (consume : Bool) :
    Couples (Journal.Beside view mark (view.Begins mark)) (Journal.Beside view mark fun _ => True)
      (cutBackTo table unit floor consume) (cutBackTo table unit floor consume)
      fun _ _ => Journal.Beside view mark (view.Begins mark) := by
  rintro j t ⟨htarget, hkeeps, b, hmark, hholds⟩
  have hle := hmark.length_le
  refine (Journal.couples_silently (hview.size b)).bind_same (fun total => ?_) j t
    ⟨htarget, hkeeps, hholds⟩
  rintro j t ⟨htarget, hkeeps, rfl, hholds⟩
  have hnone : ∀ distance length : Nat, (none : Option (Nat × Nat)) = some (distance, length) →
      length ≤ distance ∧ floor + distance ≤ b.length := nofun
  refine (Couples.loop (couples_backTurn hview) (fun _ _ _ h => ⟨hnone, h.2⟩) _ _).bind_same
    (fun found => ?_) j t ⟨le_rfl, htarget, hkeeps, hholds⟩
  rintro j t ⟨hwithin, hbeside⟩
  cases found with
  | some found =>
    obtain ⟨distance, length⟩ := found
    have hbounds := hwithin distance length rfl
    refine Journal.couples_truncate hview hmark ?_ ?_ j t hbeside
    all_goals
      cases consume <;> simp only [if_true, if_false, Bool.false_eq_true] <;> omega
  | none =>
    simp only
    split
    · exact Journal.couples_truncate hview hmark hfloor.le (hfloor ▸ hle) j t hbeside
    · exact .ok (hbeside.mono fun h => ⟨b, hmark, h⟩)

theorem couples_stripTurn (hview : view.Faithful) (stop : Nat) :
    Couples (fun j t => (floor ≤ stop ∧ stop ≤ b.length) ∧ j.Beside view mark (view.Holds b) t)
      (Journal.Beside view mark fun _ => True)
      (stripTurn table floor stop) (stripTurn table floor stop)
      fun x y j t => x = y ∧ x.Holds
        (fun next => (floor ≤ next ∧ next ≤ b.length) ∧ j.Beside view mark (view.Holds b) t)
        (fun next => (floor ≤ next ∧ next ≤ b.length) ∧
          j.Beside view mark (view.Holds b) t) := by
  rintro j t ⟨hstop, hbeside⟩
  unfold stripTurn
  by_cases hfloor : stop ≤ floor
  · simp only [if_pos hfloor]
    exact .ok ⟨rfl, hstop, hbeside⟩
  · simp only [if_neg hfloor]
    refine (Journal.couples_silently (hview.readAt b _ _)).bind_same (fun bytes => ?_) j t hbeside
    rintro j t ⟨htarget, hkeeps, hbytes, hholds⟩
    have hread : bytes.length ≤ stop - max (stop - max stretch table.longest) floor := by
      rw [hbytes]
      exact List.length_take_le _ _
    -- tokens are stripped off what has been read
    have hkept : (strip table bytes.length bytes.reverse).length ≤ bytes.length :=
      (strip_suffix table _ _).length_le.trans_eq bytes.length_reverse
    split
    · exact .ok ⟨rfl, by omega, htarget, hkeeps, hholds⟩
    · exact .ok ⟨rfl, by omega, htarget, hkeeps, hholds⟩

/-- **Cutting trailing tokens** spares what lies below the floor. -/
theorem couples_cutTrailing (hview : view.Faithful) (hfloor : mark.length = floor) :
    Couples (Journal.Beside view mark (view.Begins mark)) (Journal.Beside view mark fun _ => True)
      (cutTrailing table unit floor) (cutTrailing table unit floor)
      fun _ _ => Journal.Beside view mark (view.Begins mark) := by
  rintro j t ⟨htarget, hkeeps, b, hmark, hholds⟩
  have hle := hmark.length_le
  refine (Journal.couples_silently (hview.size b)).bind_same (fun total => ?_) j t
    ⟨htarget, hkeeps, hholds⟩
  rintro j t ⟨htarget, hkeeps, rfl, hholds⟩
  have hsame : j.Beside view mark (view.Begins mark) t := ⟨htarget, hkeeps, b, hmark, hholds⟩
  split
  · exact .ok hsame
  · refine (Couples.loop (couples_stripTurn hview) (fun _ _ _ h => h) _ _).bind_same
      (fun stop => ?_) j t ⟨⟨hfloor ▸ hle, le_rfl⟩, htarget, hkeeps, hholds⟩
    rintro j t ⟨hwithin, hbeside⟩
    split
    · exact .ok (hbeside.mono fun h => ⟨b, hmark, h⟩)
    · exact Journal.couples_truncate hview hmark (hfloor ▸ hwithin.1) hwithin.2 j t hbeside

end Target

end Templating
