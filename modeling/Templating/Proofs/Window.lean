import Mathlib.Data.List.Basic
import Templating.Proofs.Matching
import Templating.Proofs.Simulation
import Templating.Window

/-!
# What a window shows

A window over a source that does not fail stands before the rest of the input
(`Window.At`). Every action on it gives what the same action would give on this rest,
wherever the window ends and however the source cuts its replies, and leaves the
window before a later rest.

* `Source.pull_spec`: a source gives the bytes that it is asked for.
* `Window.gives_peekToken`, `Window.gives_peekByte`: a look at the rest.
* `Window.gives_advance`, `Window.gives_seekUntil`, `Window.gives_seekWhile`: steps.
-/

namespace Templating

namespace Tape

theorem isEmpty_eq (t : Tape) : t.isEmpty = decide (t.bytes = []) := by
  unfold isEmpty
  cases t.bytes <;> rfl

end Tape

namespace Source

/-- What is left to take after the first `count` bytes, where these may be too few. -/
theorem take_append_take {l : Bytes} {count room : Nat} (h : count ≤ room) :
    l.take count ++ (l.drop count).take (room - (l.take count).length) = l.take room := by
  rw [List.length_take]
  rcases Nat.le_total l.length count with hl | hl
  · rw [List.drop_of_length_le hl, List.take_nil, List.append_nil, List.take_of_length_le hl,
      List.take_of_length_le (by omega)]
  · rw [Nat.min_eq_left hl, ← List.take_add, Nat.add_sub_cancel' h]

theorem drop_drop_take {l : Bytes} {count room : Nat} (h : count ≤ room) :
    (l.drop count).drop (room - (l.take count).length) = l.drop room := by
  rw [List.length_take, List.drop_drop]
  rcases Nat.le_total l.length count with hl | hl
  · rw [List.drop_of_length_le (by omega), List.drop_of_length_le (by omega)]
  · rw [Nat.min_eq_left hl, Nat.add_sub_cancel' h]

/-- What a source gives when it is asked for some bytes: as many, or all that are
left; which replies it takes to get them does not show. -/
theorem pullFrom_spec (fails : Bool) (replies : List Reply) :
    ∀ (room : Nat) (unread : Tape),
      (pullFrom fails room unread replies).bytes = unread.bytes.take room ∧
      (pullFrom fails room unread replies).source.unread.bytes = unread.bytes.drop room ∧
      (pullFrom fails room unread replies).source.fails = fails ∧
      (pullFrom fails room unread replies).status =
        if room ≤ unread.bytes.length then .enough else ending fails := by
  induction replies with
  | nil =>
    intro room unread
    simp only [pullFrom, unread.length_eq]
    split
    · exact ⟨rfl, rfl, rfl, rfl⟩
    · rename_i hroom
      have hle : unread.bytes.length ≤ room := by omega
      exact ⟨(List.take_of_length_le hle).symm, (List.drop_of_length_le hle).symm, rfl, rfl⟩
  | cons reply replies ih =>
    intro room unread
    unfold pullFrom
    split
    · rename_i hroom
      subst hroom
      exact ⟨rfl, rfl, rfl, rfl⟩
    · rename_i hroom
      cases reply with
      | interrupted => exact ih room unread
      | upTo size hsize =>
        simp only [Tape.isEmpty_eq, decide_eq_true_eq]
        split
        · rename_i hempty
          rw [hempty, if_neg (by simpa using hroom)]
          exact ⟨by simp, by simp [Tape.empty], rfl, rfl⟩
        · -- one reply, and then the rest of the bytes
          rename_i hempty
          have hmin : min size room ≤ room := Nat.min_le_right _ _
          have hpos : 0 < unread.bytes.length := List.length_pos_iff.2 hempty
          obtain ⟨hbytes, hrest, hfails, hstatus⟩ :=
            ih (room - (unread.take (min size room)).length) (unread.drop (min size room))
          refine ⟨?_, hrest.trans (drop_drop_take hmin), hfails, hstatus.trans ?_⟩
          · show _ ++ _ = _
            rw [hbytes]
            exact take_append_take hmin
          · simp only [Tape.take, Tape.bytes_drop, List.length_take, List.length_drop]
            congr 1
            simp only [eq_iff_iff]
            omega

/-- **What a source gives** does not depend on its replies. -/
theorem pull_spec (s : Source) (room : Nat) :
    (s.pull room).bytes = s.unread.bytes.take room ∧
      (s.pull room).source.unread.bytes = s.unread.bytes.drop room ∧
      (s.pull room).source.fails = s.fails ∧
      (s.pull room).status = if room ≤ s.unread.bytes.length then .enough else ending s.fails :=
  pullFrom_spec s.fails s.replies room s.unread

end Source

namespace Window

/-- **A window before the rest of an input**: its source does not fail, has ended only
if it has nothing left, and together with what is ahead holds exactly this rest. -/
structure At (w : Window) (rest : Bytes) : Prop where
  sound : w.source.fails = false
  whole : w.ahead.bytes ++ w.source.unread.bytes = rest
  ended : w.exhausted = true → w.source.unread.bytes = []
  room : 0 < w.capacity

/-- A window that sees some bytes ahead, or all there are. -/
def Sees (w : Window) (needed : Nat) : Prop := needed ≤ w.ahead.length ∨ w.exhausted = true

variable {w : Window} {rest : Bytes}

theorem At.remaining (h : w.At rest) : w.remaining = rest.length := by
  rw [Window.remaining, w.ahead.length_eq, w.source.unread.length_eq, ← h.whole,
    List.length_append]

theorem At.ahead_prefix (h : w.At rest) : w.ahead.bytes <+: rest := ⟨_, h.whole⟩

theorem At.ahead_eq (h : w.At rest) (hw : w.exhausted = true) : w.ahead.bytes = rest := by
  rw [← h.whole, h.ended hw, List.append_nil]

theorem At.ahead_take (h : w.At rest) : w.ahead.bytes = rest.take w.ahead.length := by
  rw [w.ahead.length_eq]
  exact List.prefix_iff_eq_take.1 h.ahead_prefix

/-- What is ahead answers like the whole rest, where enough of it is seen. -/
theorem At.match_eq {α : Type} {t : Trie α} {shortest longest : Nat} (h : w.At rest)
    (ht : t.Bounded shortest longest) (hs : w.Sees longest) :
    t.longest? w.ahead.bytes = t.longest? rest := by
  rcases hs with hs | hs
  · rw [h.ahead_take, ht.take rest hs]
  · rw [h.ahead_eq hs]

theorem At.step (h : w.At rest) {count : Nat} (hcount : count ≤ w.ahead.length) :
    (w.step count).At (rest.drop count) where
  sound := h.sound
  whole := by
    rw [← h.whole, List.drop_append_of_le_length (by rw [← w.ahead.length_eq]; exact hcount)]
    rfl
  ended := h.ended
  room := h.room

theorem At.reserve (h : w.At rest) (size : Nat) : (w.reserve size).At rest :=
  ⟨h.sound, h.whole, h.ended, lt_of_lt_of_le h.room (le_max_left _ _)⟩

/-- The window with what its source gives to fill it. -/
def topped (w : Window) : Window :=
  let pulled := w.source.pull (w.capacity - w.length)
  { w with
    ahead := w.ahead.append pulled.bytes
    source := pulled.source
    exhausted := pulled.status == PullStatus.ended }

theorem fill_eq (w : Window) :
    fill w = if w.exhausted then .ok () w
      else if (w.source.pull (w.capacity - w.length)).status == PullStatus.failed then
        .error .failed w.topped
      else .ok () w.topped := by
  simp only [fill, bind_apply, get_apply, set_apply, if_apply, pure_apply, throw_apply]
  rfl

theorem At.topped (h : w.At rest) : w.topped.At rest := by
  obtain ⟨hbytes, hrest, hfails, hstatus⟩ := w.source.pull_spec (w.capacity - w.length)
  refine ⟨hfails.trans h.sound, ?_, ?_, h.room⟩
  · simp only [Window.topped, Tape.bytes_append, hbytes, hrest, List.append_assoc,
      List.take_append_drop]
    exact h.whole
  · simp only [Window.topped, hstatus, h.sound, hrest, beq_iff_eq]
    split
    · simp
    · intro _
      exact List.drop_of_length_le (by omega)

/-- **Filling a window** changes nothing but how much of the rest it shows: after it,
the window is full or has seen the end of the source. -/
theorem fill_spec (h : w.At rest) : ∃ w', fill w = .ok () w' ∧ w'.At rest ∧
    w'.behind = w.behind ∧ w'.capacity = w.capacity ∧ w.ahead.length ≤ w'.ahead.length ∧
    (w'.exhausted = true ∨ w.capacity ≤ w'.length) := by
  rw [fill_eq]
  split
  · rename_i hended
    exact ⟨w, rfl, h, rfl, rfl, le_rfl, Or.inl hended⟩
  · obtain ⟨hbytes, -, -, hstatus⟩ := w.source.pull_spec (w.capacity - w.length)
    rw [h.sound] at hstatus
    -- a source that does not fail gives enough or ends
    rw [if_neg (by rw [hstatus]; split <;> simp [Source.ending])]
    refine ⟨w.topped, rfl, h.topped, rfl, rfl, Nat.le_add_right _ _, ?_⟩
    have hlen : w.topped.length =
        w.length + min (w.capacity - w.length) w.source.unread.bytes.length := by
      rw [← List.length_take, ← hbytes]
      exact (Nat.add_assoc _ _ _).symm
    rw [hlen]
    by_cases hroom : w.capacity - w.length ≤ w.source.unread.bytes.length
    · right; omega
    · left
      rw [if_neg hroom] at hstatus
      simp [Window.topped, hstatus, Source.ending]

/-- A window that sees at least one byte, if there is any. -/
theorem At.ahead_ne_nil (h : w.At rest) {needed : Nat} (hs : w.Sees needed) (hn : 0 < needed)
    (hrest : rest ≠ []) : w.ahead.bytes ≠ [] := by
  rcases hs with hs | hs
  · intro hempty
    rw [w.ahead.length_eq, hempty] at hs
    simp only [List.length_nil] at hs
    omega
  · rwa [h.ahead_eq hs]

theorem At.ahead_nil (h : w.At []) : w.ahead.bytes = [] := List.prefix_nil.1 h.ahead_prefix

/-- **A refill** drops what is behind. Its result tells whether anything is left. -/
theorem refillAhead_spec (h : w.At rest) :
    ∃ w', refillAhead w = .ok (decide (rest ≠ [])) w' ∧ w'.At rest ∧ w'.behind = [] ∧
      w'.capacity = w.capacity ∧ w.ahead.length ≤ w'.ahead.length ∧ w'.Sees w.capacity := by
  have h₀ : ({ w with behind := [] } : Window).At rest := ⟨h.sound, h.whole, h.ended, h.room⟩
  obtain ⟨w', hfill, hw', hbehind, hcap, hle, hfull⟩ := fill_spec h₀
  have hsees : w'.Sees w.capacity := by
    rcases hfull with hended | hfull
    · exact Or.inr hended
    · left
      rw [Window.length, hbehind] at hfull
      simpa using hfull
  have hresult : (!w'.ahead.isEmpty) = decide (rest ≠ []) := by
    rw [Tape.isEmpty_eq, ← decide_not, decide_eq_decide]
    constructor
    · rintro hne rfl
      exact hne hw'.ahead_nil
    · exact hw'.ahead_ne_nil hsees h.room
  refine ⟨w', ?_, hw', hbehind, hcap, hle, hsees⟩
  simp only [refillAhead, refill, bind_apply, get_apply, modify_apply, hfill, pure_apply, hresult]

/-- Where nothing is ahead, dropping all bytes is a refill. -/
theorem renew_eq (hw : w.ahead.bytes = []) : renew w = refillAhead w := by
  have hempty : w.ahead = .empty := Tape.ext hw
  simp only [renew, refillAhead, bind_apply, get_apply, hempty]

theorem ensure_spec (h : w.At rest) (needed : Nat) :
    ∃ w', ensure needed w = .ok () w' ∧ w'.At rest ∧ w.ahead.length ≤ w'.ahead.length ∧
      w'.Sees needed := by
  simp only [ensure, bind_apply, get_apply, if_apply, set_apply, pure_apply]
  split
  · rename_i hseen
    refine ⟨w, rfl, h, le_rfl, ?_⟩
    simpa [Sees, holds] using hseen
  · obtain ⟨w', hrefill, hw', -, -, hle, hsees⟩ := refillAhead_spec (h.reserve needed)
    refine ⟨w', ?_, hw', hle, ?_⟩
    · simp only [hrefill]
    · rcases hsees with hs | hs
      · left
        exact le_trans (le_max_right _ _) hs
      · exact Or.inr hs

/-! ## Looking ahead -/

/-- The token that a window shows at its cursor is the one that the rest begins with. -/
theorem peekToken_spec {table : TokenTable} (ht : table.Lawful) (h : w.At rest) :
    ∃ w', peekToken table w = .ok (table.match? rest) w' ∧ w'.At rest ∧
      w'.Sees table.longest := by
  obtain ⟨w', hensure, hw', -, hsees⟩ := ensure_spec h table.longest
  refine ⟨w', ?_, hw', hsees⟩
  simp only [peekToken, bind_apply, hensure, get_apply, pure_apply]
  rw [TokenTable.match?, hw'.match_eq ht hsees]
  rfl

theorem gives_peekToken {table : TokenTable} (ht : table.Lawful) (rest : Bytes) :
    Gives (At · rest) (peekToken table) (table.match? rest) (At · rest) := by
  intro w h
  obtain ⟨w', hpeek, hw', -⟩ := peekToken_spec ht h
  exact ⟨w', hpeek, hw'⟩

theorem gives_peekByte (offset : Nat) (rest : Bytes) :
    Gives (At · rest) (peekByte offset) rest[offset]? (At · rest) := by
  intro w h
  obtain ⟨w', hensure, hw', -, hsees⟩ := ensure_spec h (offset + 1)
  refine ⟨w', ?_, hw'⟩
  have hbyte : w'.ahead.bytes[offset]? = rest[offset]? := by
    rcases hsees with hs | hs
    · rw [hw'.ahead_take, List.getElem?_take_of_lt (by omega)]
    · rw [hw'.ahead_eq hs]
  simp only [peekByte, bind_apply, hensure, get_apply, pure_apply, hbyte]

/-! ## Moving on -/

/-- One stretch of a step: it covers all, or what is ahead, which is then followed by
what a refill shows. -/
theorem advanceTurn_spec (h : w.At rest) (count : Nat) :
    (count ≤ w.ahead.length ∧
      ∃ w', advanceTurn count w = .ok (.stop ()) w' ∧ w'.At (rest.drop count)) ∨
    (w.ahead.length < count ∧ rest.drop w.ahead.length = [] ∧
      ∃ w', advanceTurn count w = .ok (.stop ()) w' ∧ w'.At []) ∨
    (w.ahead.length < count ∧
      ∃ w', advanceTurn count w = .ok (.again (count - w.ahead.length)) w' ∧
        w'.At (rest.drop w.ahead.length) ∧ 0 < w'.ahead.length) := by
  by_cases hcov : count ≤ w.ahead.length
  · refine Or.inl ⟨hcov, w.step count, ?_, h.step hcov⟩
    simp only [advanceTurn, bind_apply, get_apply, set_apply, Nat.min_eq_left hcov, if_pos,
      pure_apply]
  · -- all that is ahead is passed, and a refill shows what follows it
    have hmin : min count w.ahead.length = w.ahead.length := by omega
    obtain ⟨w', hrefill, hw', -, -, -, hsees⟩ := refillAhead_spec (h.step le_rfl)
    have hturn : advanceTurn count w =
        if rest.drop w.ahead.length = [] then .ok (.stop ()) w'
        else .ok (.again (count - w.ahead.length)) w' := by
      have hne : count ≠ w.ahead.length := by omega
      simp only [advanceTurn, bind_apply, get_apply, set_apply, hmin, hne, if_false, hrefill]
      by_cases hrest : rest.drop w.ahead.length = [] <;> simp [hrest, pure_apply]
    right
    by_cases hrest : rest.drop w.ahead.length = []
    · exact Or.inl ⟨by omega, hrest, w', by rw [hturn, if_pos hrest], hrest ▸ hw'⟩
    · refine Or.inr ⟨by omega, w', by rw [hturn, if_neg hrest], hw', ?_⟩
      rw [w'.ahead.length_eq]
      exact List.length_pos_iff.2 (hw'.ahead_ne_nil hsees h.room hrest)

theorem gives_advance (count : Nat) (rest : Bytes) :
    Gives (At · rest) (advance count) () (At · (rest.drop count)) := by
  -- only the first stretch may cover nothing
  have main : ∀ bound count rest (w : Window), w.At rest → 0 < bound →
      count + (if w.ahead.length = 0 then 1 else 0) ≤ bound →
      ∃ w', loop advanceTurn (fun _ => ()) bound count w = .ok () w' ∧
        w'.At (rest.drop count) := by
    intro bound
    induction bound with
    | zero => intro count rest w _ hpos; omega
    | succ bound ih =>
      intro count rest w h _ hb
      rw [loop_succ]
      rcases advanceTurn_spec h count with ⟨-, w', hturn, hw'⟩ | ⟨hlt, hrest, w', hturn, hw'⟩ |
        ⟨hlt, w', hturn, hw', hahead⟩
      · exact ⟨w', by rw [hturn], hw'⟩
      · -- the input ends inside of the step
        have hnil : rest.drop count = [] := by
          rw [List.drop_eq_nil_iff] at hrest ⊢
          omega
        exact ⟨w', by rw [hturn], hnil ▸ hw'⟩
      · rw [hturn]
        have hdrop : (rest.drop w.ahead.length).drop (count - w.ahead.length) =
            rest.drop count := by
          rw [List.drop_drop]
          congr 1
          omega
        rw [← hdrop]
        apply ih _ _ _ hw' <;> split at hb <;> first | omega | (split <;> omega)
  intro w h
  exact main (count + 1) count rest w h (by omega) (by split <;> omega)

end Window

/-! ## Searching -/

namespace TokenTable

/-- The place of the first token: its number and length, if there is one, and what
lies from it on. -/
def find (t : TokenTable) : Bytes → Option (Nat × Nat) × Bytes
  | [] => (none, [])
  | b :: rest =>
    match t.match? (b :: rest) with
    | some found => (some found, b :: rest)
    | none => t.find rest

/-- What is left after the first token, or from it on when it is not consumed. -/
def remainder (t : TokenTable) (consume : Bool) (bytes : Bytes) : Bytes :=
  match (t.find bytes).1 with
  | some (_, length) => if consume then (t.find bytes).2.drop length else (t.find bytes).2
  | none => []

/-- What is left after the tokens that the bytes begin with, but at most so many. -/
def dropTokens (t : TokenTable) : Nat → Bytes → Bytes
  | 0, bytes => bytes
  | count + 1, bytes =>
    match t.match? bytes with
    | some (_, length) => t.dropTokens count (bytes.drop length)
    | none => bytes

variable {t : TokenTable}

theorem Lawful.match?_nil (ht : t.Lawful) : t.match? [] = none := by
  cases h : t.match? [] with
  | none => rfl
  | some found =>
    have hpos := ht.pos (v := found.1) (n := found.2) h
    have hle := ht.le_text (v := found.1) (n := found.2) h
    simp only [List.length_nil] at hle
    omega

theorem find_of_match {bytes : Bytes} {found : Nat × Nat} (ht : t.Lawful)
    (h : t.match? bytes = some found) : t.find bytes = (some found, bytes) := by
  cases bytes with
  | nil => rw [ht.match?_nil] at h; cases h
  | cons b rest => rw [find, h]

theorem find_of_no_match {b : UInt8} {rest : Bytes} (h : t.match? (b :: rest) = none) :
    t.find (b :: rest) = t.find rest := by
  rw [find, h]

theorem remainder_of_no_match {b : UInt8} {rest : Bytes} {consume : Bool}
    (h : t.match? (b :: rest) = none) :
    t.remainder consume (b :: rest) = t.remainder consume rest := by
  rw [remainder, remainder, find_of_no_match h]

end TokenTable

namespace Window

variable {table : TokenTable} {consume : Bool}

/-- One turn of a search: nothing is left, or nothing was ahead and now is, or the
cursor stands before a token, or it passes a byte. -/
theorem seekTurn_spec (consume : Bool) (ht : table.Lawful) (h : w.At rest) :
    (rest = [] ∧ ∃ w', seekTurn table consume () w = .ok (.stop none) w' ∧ w'.At []) ∨
    (rest ≠ [] ∧ w.ahead.length = 0 ∧
      ∃ w', seekTurn table consume () w = .ok (.again ()) w' ∧ w'.At rest ∧ 0 < w'.ahead.length) ∨
    (∃ found, table.match? rest = some found ∧
      ∃ w', seekTurn table consume () w = .ok (.stop (some found.1)) w' ∧
        w'.At (if consume then rest.drop found.2 else rest)) ∨
    (∃ b rest', rest = b :: rest' ∧ table.match? rest = none ∧
      ∃ w', seekTurn table consume () w = .ok (.again ()) w' ∧ w'.At rest') := by
  obtain ⟨w₁, hensure, hw₁, hle, hsees⟩ := ensure_spec h table.longest
  have hmatch : table.match? w₁.ahead.bytes = table.match? rest := hw₁.match_eq ht hsees
  by_cases hahead : w₁.ahead.bytes = []
  · -- with nothing ahead the turn renews the window, and ends if nothing comes
    obtain ⟨w₂, hrefill, hw₂, -, -, -, hsees₂⟩ := refillAhead_spec hw₁
    have hempty : w₁.ahead.isEmpty = true := by simp [Tape.isEmpty_eq, hahead]
    have hturn : seekTurn table consume () w =
        .ok (if rest ≠ [] then .again () else .stop none) w₂ := by
      simp only [seekTurn, bind_apply, hensure, get_apply, hempty, if_true, renew_eq hahead,
        hrefill]
      by_cases hrest : rest = [] <;> simp [hrest, pure_apply]
    by_cases hrest : rest = []
    · exact Or.inl ⟨hrest, w₂, by simp [hturn, hrest], hrest ▸ hw₂⟩
    · refine Or.inr (Or.inl ⟨hrest, ?_, w₂, by simp [hturn, hrest], hw₂, ?_⟩)
      · rw [w₁.ahead.length_eq, hahead, List.length_nil] at hle
        omega
      · rw [w₂.ahead.length_eq]
        exact List.length_pos_iff.2 (hw₂.ahead_ne_nil hsees₂ hw₁.room hrest)
  · have hempty : w₁.ahead.isEmpty = false := by simp [Tape.isEmpty_eq, hahead]
    have hrest : rest ≠ [] := by
      rintro rfl
      exact hahead hw₁.ahead_nil
    right; right
    cases hfound : table.match? rest with
    | some found =>
      have hlen : found.2 ≤ w₁.ahead.length := by
        rw [w₁.ahead.length_eq]
        exact ht.le_text (v := found.1) (hmatch.trans hfound)
      refine Or.inl ⟨found, rfl, if consume then w₁.step found.2 else w₁, ?_, ?_⟩
      · simp only [seekTurn, bind_apply, hensure, get_apply, set_apply, hempty,
          Bool.false_eq_true, if_false, hmatch, hfound, pure_apply]
      · cases consume
        · simpa using hw₁
        · simpa using hw₁.step hlen
    | none =>
      obtain ⟨b, rest', rfl⟩ : ∃ b rest', rest = b :: rest' := List.exists_cons_of_ne_nil hrest
      refine Or.inr ⟨b, rest', rfl, rfl, w₁.step 1, ?_, ?_⟩
      · simp only [seekTurn, bind_apply, hensure, get_apply, set_apply, hempty,
          Bool.false_eq_true, if_false, hmatch, hfound, pure_apply]
      · refine hw₁.step ?_
        rw [w₁.ahead.length_eq]
        exact List.length_pos_iff.2 hahead

/-- **A search** finds the first token of the rest. -/
theorem gives_seekUntil (ht : table.Lawful) (consume : Bool) (rest : Bytes) :
    Gives (At · rest) (seekUntil table consume) ((table.find rest).1.map (·.1))
      (At · (table.remainder consume rest)) := by
  -- a turn that passes no byte shows some, and the next one passes one
  have main : ∀ bound rest (w : Window), w.At rest →
      2 * rest.length + (if w.ahead.length = 0 then 1 else 0) < bound →
      ∃ w', loop (seekTurn table consume) (fun _ => none) bound () w =
          .ok ((table.find rest).1.map (·.1)) w' ∧ w'.At (table.remainder consume rest) := by
    intro bound
    induction bound with
    | zero => intro rest w _ hb; omega
    | succ bound ih =>
      intro rest w h hb
      rw [loop_succ]
      rcases seekTurn_spec consume ht h with ⟨rfl, w', hturn, hw'⟩ |
        ⟨-, hahead, w', hturn, hw', hpos⟩ | ⟨found, hfound, w', hturn, hw'⟩ |
        ⟨b, rest', rfl, hnone, w', hturn, hw'⟩
      · exact ⟨w', by rw [hturn]; rfl, hw'⟩
      · rw [hturn]
        apply ih rest w' hw'
        rw [if_pos hahead] at hb
        split <;> omega
      · have hfind := TokenTable.find_of_match ht hfound
        refine ⟨w', by rw [hturn, hfind]; rfl, ?_⟩
        rw [TokenTable.remainder, hfind]
        exact hw'
      · rw [hturn, TokenTable.find_of_no_match hnone, TokenTable.remainder_of_no_match hnone]
        apply ih rest' w' hw'
        rw [List.length_cons] at hb
        split at hb <;> split <;> omega
  intro w h
  simp only [seekUntil, bind_apply, get_apply, h.remaining]
  exact main _ rest w h (by split <;> omega)

/-- One turn of a passage over tokens. -/
theorem skipTurn_spec (ht : table.Lawful) (h : w.At rest) :
    (table.match? rest = none ∧ ∃ w', skipTurn table () w = .ok (.stop ()) w' ∧ w'.At rest) ∨
    (∃ found, table.match? rest = some found ∧
      ∃ w', skipTurn table () w = .ok (.again ()) w' ∧ w'.At (rest.drop found.2)) := by
  obtain ⟨w', hpeek, hw', hsees⟩ := peekToken_spec ht h
  have hmatch : table.match? w'.ahead.bytes = table.match? rest := hw'.match_eq ht hsees
  cases hfound : table.match? rest with
  | none =>
    refine Or.inl ⟨rfl, w', ?_, hw'⟩
    simp only [skipTurn, bind_apply, hpeek, hfound, pure_apply]
  | some found =>
    refine Or.inr ⟨found, rfl, w'.step found.2, ?_, hw'.step ?_⟩
    · simp only [skipTurn, bind_apply, hpeek, hfound, modify_apply, pure_apply]
    · rw [w'.ahead.length_eq]
      exact ht.le_text (v := found.1) (hmatch.trans hfound)

/-- **A passage over tokens** ends where none is at the cursor. -/
theorem gives_seekWhile (ht : table.Lawful) (rest : Bytes) :
    Gives (At · rest) (seekWhile table) () (At · (table.dropTokens rest.length rest)) := by
  -- each token takes a byte at least, so neither bound is met
  have main : ∀ bound count rest (w : Window), w.At rest → rest.length < bound →
      rest.length ≤ count →
      ∃ w', loop (skipTurn table) id bound () w = .ok () w' ∧
        w'.At (table.dropTokens count rest) := by
    intro bound
    induction bound with
    | zero => intro count rest w _ hb; omega
    | succ bound ih =>
      intro count rest w h hb hcount
      rw [loop_succ]
      rcases skipTurn_spec ht h with ⟨hnone, w', hturn, hw'⟩ | ⟨found, hfound, w', hturn, hw'⟩
      · have hstay : table.dropTokens count rest = rest := by
          cases count with
          | zero => rfl
          | succ count => rw [TokenTable.dropTokens, hnone]
        exact ⟨w', by rw [hturn], by rw [hstay]; exact hw'⟩
      · have hpos := ht.pos (v := found.1) hfound
        have hle := ht.le_text (v := found.1) hfound
        obtain ⟨count, rfl⟩ : ∃ k, count = k + 1 := ⟨count - 1, by omega⟩
        rw [hturn, TokenTable.dropTokens, hfound]
        exact ih count _ w' hw' (by rw [List.length_drop]; omega)
          (by rw [List.length_drop]; omega)
  intro w h
  simp only [seekWhile, bind_apply, get_apply, h.remaining]
  exact main _ _ rest w h (Nat.lt_succ_self _) le_rfl

/-! ## Measures of windows -/

theorem remaining_topped (w : Window) : w.topped.remaining = w.remaining := by
  obtain ⟨hbytes, hrest, -, -⟩ := w.source.pull_spec (w.capacity - w.length)
  simp only [remaining, topped, Tape.append, Tape.length_eq, hbytes, hrest, List.length_append,
    List.length_take, List.length_drop]
  omega

theorem remaining_fill (w : Window) : (stateOf (fill w)).remaining = w.remaining := by
  rw [fill_eq]
  split
  · rfl
  · split <;> exact w.remaining_topped

/-- A refill leaves what filling leaves of the bytes that are kept. -/
theorem stateOf_refill (w : Window) (kept : Tape) :
    stateOf (refill kept w) = stateOf (fill { w with behind := [], ahead := kept }) := by
  simp only [refill, bind_apply, modify_apply, get_apply, pure_apply]
  cases fill { w with behind := [], ahead := kept } <;> rfl

theorem remaining_refill (w : Window) (kept : Tape) :
    (stateOf (refill kept w)).remaining = kept.length + w.source.unread.length := by
  rw [stateOf_refill, remaining_fill]
  rfl

/-- A measure that no change of a window raises. -/
structure Descends (μ : Window → Nat) : Prop where
  step : ∀ (w : Window) (count : Nat), μ (w.step count) ≤ μ w
  reserve : ∀ (w : Window) (size : Nat), μ (w.reserve size) ≤ μ w
  refillAhead : Shrinks μ refillAhead
  renew : Shrinks μ renew

/-- No action moves back. -/
theorem descends_remaining : Descends remaining where
  step w count := by
    simp only [remaining, Window.step, Tape.drop]
    omega
  reserve _ _ := le_rfl
  refillAhead w := le_of_eq (remaining_refill w w.ahead)
  renew w := by
    show (stateOf (refill .empty w)).remaining ≤ _
    rw [remaining_refill]
    exact Nat.add_le_add_right (Nat.zero_le _) _

/-- A step over some bytes that are ahead leaves less. -/
theorem remaining_step_lt (w : Window) {count : Nat} (hpos : 0 < count)
    (hle : count ≤ w.ahead.length) : (w.step count).remaining < w.remaining := by
  simp only [remaining, step, Tape.drop]
  omega

theorem capacity_refill (w : Window) (kept : Tape) :
    (stateOf (refill kept w)).capacity = w.capacity := by
  rw [stateOf_refill, fill_eq]
  split
  · rfl
  · split <;> rfl

/-- Once a window is large enough for something it stays so. -/
theorem descends_capacity (size : Nat) : Descends fun w => size - w.capacity where
  step _ _ := le_rfl
  reserve _ _ := Nat.sub_le_sub_left (Nat.le_max_left _ _) size
  refillAhead w := le_of_eq (congrArg (size - ·) (capacity_refill w w.ahead))
  renew w := le_of_eq (congrArg (size - ·) (capacity_refill w .empty))

section

variable {μ : Window → Nat} (h : Descends μ)

include h

theorem shrinks_ensure (needed : Nat) : Shrinks μ (ensure needed) := by
  intro w
  simp only [ensure, bind_apply, get_apply, if_apply, set_apply, pure_apply]
  split
  · exact le_rfl
  · have hle := h.refillAhead (w.reserve needed)
    cases hx : refillAhead (w.reserve needed) <;>
      (rw [hx] at hle; exact le_trans hle (h.reserve w needed))

theorem shrinks_peekToken (table : TokenTable) : Shrinks μ (peekToken table) :=
  (shrinks_ensure h _).bind fun _ => fun _ => le_rfl

theorem shrinks_peekByte (offset : Nat) : Shrinks μ (peekByte offset) :=
  (shrinks_ensure h _).bind fun _ => fun _ => le_rfl

theorem shrinks_advanceTurn (count : Nat) : Shrinks μ (advanceTurn count) := by
  intro w
  simp only [advanceTurn, bind_apply, get_apply, set_apply, if_apply, pure_apply]
  have hstep := h.step w (min count w.ahead.length)
  split
  · exact hstep
  · have hle := h.refillAhead (w.step (min count w.ahead.length))
    cases hx : refillAhead (w.step (min count w.ahead.length)) with
    | ok more w' =>
      rw [hx] at hle
      cases more <;> exact le_trans hle hstep
    | error _ w' => rw [hx] at hle; exact le_trans hle hstep

theorem shrinks_advance (count : Nat) : Shrinks μ (advance count) :=
  Shrinks.loop (shrinks_advanceTurn h) _ _

theorem shrinks_seekTurn (table : TokenTable) (consume : Bool) (u : Unit) :
    Shrinks μ (seekTurn table consume u) := by
  refine (shrinks_ensure h _).bind fun _ => fun w => ?_
  simp only [bind_apply, get_apply, if_apply]
  split
  · exact h.renew.bind (fun more => by cases more <;> exact Shrinks.pure _) w
  · cases hfound : table.match? w.ahead.bytes with
    | some found =>
      simp only [bind_apply, set_apply, pure_apply]
      cases consume
      · exact le_rfl
      · exact h.step w _
    | none =>
      simp only [bind_apply, set_apply, pure_apply]
      exact h.step w _

theorem shrinks_seekUntil (table : TokenTable) (consume : Bool) :
    Shrinks μ (seekUntil table consume) := fun w =>
  Shrinks.loop (shrinks_seekTurn h table consume) (2 * w.remaining + 2) () w

theorem shrinks_skipTurn (table : TokenTable) (u : Unit) : Shrinks μ (skipTurn table u) := by
  refine (shrinks_peekToken h table).bind fun found => ?_
  cases found with
  | none => exact Shrinks.pure _
  | some found => exact fun w => h.step w _

theorem shrinks_seekWhile (table : TokenTable) : Shrinks μ (seekWhile table) := fun w =>
  Shrinks.loop (shrinks_skipTurn h table) (w.remaining + 1) () w

end

theorem spends_seekTurn {table : TokenTable} (ht : table.Lawful) (u : Unit) :
    Spends remaining (Turn.Stops (·.isSome = true)) (seekTurn table true u) := by
  refine Spends.after (shrinks_ensure descends_remaining _) fun _ => ?_
  intro w turn w' h hturn
  simp only [bind_apply, get_apply, if_apply] at h
  split at h
  · -- a turn that renews the window finds no token
    cases hx : renew w with
    | error e w₁ => rw [hx] at h; cases h
    | ok more w₁ =>
      rw [hx] at h
      cases more <;> cases h
      · cases hturn
      · exact hturn.elim
  · cases hfound : table.match? w.ahead.bytes with
    | none =>
      rw [hfound] at h
      cases h
      exact hturn.elim
    | some found =>
      rw [hfound] at h
      cases h
      refine w.remaining_step_lt (ht.pos (v := found.1) hfound) ?_
      rw [w.ahead.length_eq]
      exact ht.le_text (v := found.1) hfound

/-- A search that passes a token consumes some of what is left. -/
theorem spends_seekUntil {table : TokenTable} (ht : table.Lawful) :
    Spends remaining (·.isSome = true) (seekUntil table true) := fun w =>
  Spends.loop (shrinks_seekTurn descends_remaining table true) (spends_seekTurn ht)
    (fun _ => by simp) (2 * w.remaining + 2) () w

end Window

end Templating
