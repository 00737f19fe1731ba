import Templating.Proofs.Processing

/-!
# A window is a reader

A reader stands at an offset of some bytes. A window over a source with these bytes
answers every call as the reader does, and stands at the same offset afterwards, whatever
its capacity and however the source cuts its replies.

* `Reader.answer`: what a call gives at an offset, and where it moves.
* `Window.Stands`: the window holds the slice of the bytes that ends with the last one
  read, with its cursor at the offset.
* `Window.answer_perform`: one call, made to a window or to a reader.
* `Window.answers_calls`: any number of them, from the start of the source on.
-/

namespace Templating

namespace TokenTable

/-- The table to which entries are added one after the other. -/
def ofEntries (entries : List (Bytes × Nat)) : TokenTable :=
  entries.foldl (fun t e => t.add e.1 e.2) empty

theorem ofEntries_concat (entries : List (Bytes × Nat)) (e : Bytes × Nat) :
    ofEntries (entries ++ [e]) = (ofEntries entries).add e.1 e.2 := by
  rw [ofEntries, List.foldl_append]
  rfl

theorem lawful_ofEntries (entries : List (Bytes × Nat)) : (ofEntries entries).Lawful := by
  induction entries using List.reverseRecOn with
  | nil => exact lawful_empty
  | append_singleton entries e ih =>
    rw [ofEntries_concat]
    exact ih.add e.1 e.2

theorem match?_ofEntries (entries : List (Bytes × Nat)) (text : Bytes) :
    (ofEntries entries).match? text =
      (longestMatch? entries text).map fun e => (e.2, e.1.length) := by
  induction entries using List.reverseRecOn generalizing text with
  | nil => exact Trie.longest?_empty text
  | append_singleton entries e ih =>
    rw [ofEntries_concat]
    exact match?_add ih e.1 e.2 text

end TokenTable

/-! ## Calls -/

/-- A call to a window. Tokens come with their numbers, in the order in which a table
got them. -/
inductive Call where
  | ensure (needed : Nat)
  | reserve (size : Nat)
  /-- Drops the bytes before the cursor and reads more. -/
  | refill
  | peekToken (tokens : List (Bytes × Nat))
  | peekByte (offset : Nat)
  | advance (count : Nat)
  | seekUntil (tokens : List (Bytes × Nat)) (consume : Bool)
  | seekThrough (tokens : List (Bytes × Nat))
  | seekWhile (tokens : List (Bytes × Nat))

inductive Answer where
  | done
  /-- Whether there are any bytes from the cursor on. -/
  | more (any : Bool)
  /-- A token, by its number and length. -/
  | token (found : Option (Nat × Nat))
  | byte (b : Option UInt8)
  /-- The number of the token that a search has found. -/
  | found (index : Option Nat)
  deriving DecidableEq

def Call.perform : Call → EStateM IoError Window Answer
  | ensure needed => do
    Window.ensure needed
    pure .done
  | reserve size => do
    modify (·.reserve size)
    pure .done
  | refill => do
    let w ← get
    let any ← Window.refillFrom w.position
    pure (.more any)
  | peekToken tokens => do
    let found ← Window.peekToken (.ofEntries tokens)
    pure (.token found)
  | peekByte offset => do
    let b ← Window.peekByte offset
    pure (.byte b)
  | advance count => do
    Window.advance count
    pure .done
  | seekUntil tokens consume => do
    let index ← Window.seekUntil (.ofEntries tokens) consume
    pure (.found index)
  | seekThrough tokens => do
    let index ← Window.seekThrough (.ofEntries tokens)
    pure (.found index)
  | seekWhile tokens => do
    Window.seekWhile (.ofEntries tokens)
    pure .done

/-- An offset in some bytes. -/
structure Reader where
  bytes : Bytes
  offset : Nat
  deriving DecidableEq

namespace Reader

/-- At the start of a source, after its byte-order mark. -/
def start (bytes : Bytes) : Reader := ⟨bytes, (Encoding.detect bytes).2⟩

/-- The same bytes at another offset. -/
def goto (r : Reader) (offset : Nat) : Reader := { r with offset := offset }

/-- The longest token at the offset, with its number. -/
def token? (r : Reader) (tokens : List (Bytes × Nat)) : Option (Bytes × Nat) :=
  longestMatch? tokens (r.bytes.drop r.offset)

/-- The first offset from here on at which there is a token, and this token. -/
def next? (r : Reader) (tokens : List (Bytes × Nat)) : Option (Nat × Bytes × Nat) :=
  (List.range' r.offset (r.bytes.length - r.offset)).findSome? fun offset =>
    ((r.goto offset).token? tokens).map fun e => (offset, e)

theorem token?_bounds {r : Reader} {tokens : List (Bytes × Nat)} {e : Bytes × Nat}
    (h : r.token? tokens = some e) : 0 < e.1.length ∧ r.offset + e.1.length ≤ r.bytes.length := by
  obtain ⟨-, hne, hpre, -⟩ := longestMatch?_spec h
  have hpos := List.length_pos_iff.2 hne
  have hle := hpre.length_le
  rw [List.length_drop] at hle
  omega

/-- Past the tokens at the offset, for as long as there is one. -/
def past (tokens : List (Bytes × Nat)) (r : Reader) : Reader :=
  match _h : r.token? tokens with
  | none => r
  | some e => past tokens (r.goto (r.offset + e.1.length))
termination_by r.bytes.length - r.offset
decreasing_by
  have hbounds := token?_bounds _h
  simp only [goto]
  omega

/-- Where a search ends: at the token that it finds, or past it if that is consumed, or at
the end of the bytes. -/
def search (r : Reader) (tokens : List (Bytes × Nat)) (consume : Bool) : Answer × Reader :=
  match r.next? tokens with
  | none => (.found none, r.goto r.bytes.length)
  | some (offset, token, index) =>
    (.found (some index), r.goto (if consume then offset + token.length else offset))

/-- **What a call gives at an offset**, and where it moves. -/
def answer (r : Reader) : Call → Answer × Reader
  | .ensure _ => (.done, r)
  | .reserve _ => (.done, r)
  | .refill => (.more (decide (r.offset < r.bytes.length)), r)
  | .peekToken tokens => (.token ((r.token? tokens).map fun e => (e.2, e.1.length)), r)
  | .peekByte offset => (.byte r.bytes[r.offset + offset]?, r)
  | .advance count => (.done, r.goto (min (r.offset + count) r.bytes.length))
  | .seekUntil tokens consume => r.search tokens consume
  | .seekThrough tokens => r.search tokens true
  | .seekWhile tokens => (.done, r.past tokens)

/-- The answers to several calls, and where the last one has moved. -/
def answers (r : Reader) : List Call → List Answer × Reader
  | [] => ([], r)
  | call :: calls =>
    let (a, r) := r.answer call
    let (as, r) := r.answers calls
    (a :: as, r)

/-! ### The same on the bytes from the offset on -/

variable {r : Reader}

theorem match?_rest (r : Reader) (tokens : List (Bytes × Nat)) :
    (TokenTable.ofEntries tokens).match? (r.bytes.drop r.offset) =
      (r.token? tokens).map fun e => (e.2, e.1.length) :=
  TokenTable.match?_ofEntries tokens _

theorem goto_offset {r' : Reader} (h : r'.bytes = r.bytes) : r.goto r'.offset = r' := by
  rw [goto, ← h]

theorem bytes_search (r : Reader) (tokens : List (Bytes × Nat)) (consume : Bool) :
    (r.search tokens consume).2.bytes = r.bytes := by
  unfold search
  split <;> rfl

/-- The first token of the rest stands at the next offset that has one. -/
theorem find_rest (tokens : List (Bytes × Nat)) (bytes : Bytes) (count : Nat) :
    ∀ offset, offset + count = bytes.length →
      match (Reader.mk bytes offset).next? tokens with
      | none => (TokenTable.ofEntries tokens).find (bytes.drop offset) = (none, [])
      | some (place, token, index) =>
        (TokenTable.ofEntries tokens).find (bytes.drop offset) =
            (some (index, token.length), bytes.drop place) ∧
          place + token.length ≤ bytes.length := by
  induction count with
  | zero =>
    intro offset hoffset
    have hcount : bytes.length - offset = 0 := by omega
    have hrest : bytes.drop offset = [] := List.drop_of_length_le (by omega)
    simp only [next?, hcount, List.range'_zero, List.findSome?_nil, hrest, TokenTable.find]
  | succ count ih =>
    intro offset hoffset
    have hcount : bytes.length - offset = count + 1 := by omega
    have hlt : offset < bytes.length := by omega
    have hmatch := match?_rest ⟨bytes, offset⟩ tokens
    simp only [List.drop_eq_getElem_cons hlt] at hmatch ⊢
    simp only [next?, hcount, List.range'_succ, List.findSome?_cons, goto]
    cases htoken : (Reader.mk bytes offset).token? tokens with
    | some e =>
      rw [htoken] at hmatch
      simp only [Option.map_some, TokenTable.find, hmatch]
      exact ⟨(List.drop_eq_getElem_cons hlt).symm ▸ rfl, (token?_bounds htoken).2⟩
    | none =>
      rw [htoken, Option.map_none] at hmatch
      have hnext := ih (offset + 1) (by omega)
      have hcount' : bytes.length - (offset + 1) = count := by omega
      simp only [next?, hcount', goto] at hnext
      simp only [Option.map_none, TokenTable.find_of_no_match hmatch]
      exact hnext

/-- A search on the rest ends where the reader's does. -/
theorem search_rest (r : Reader) (tokens : List (Bytes × Nat)) (consume : Bool)
    (h : r.offset ≤ r.bytes.length) :
    (r.search tokens consume).1 = .found
        (((TokenTable.ofEntries tokens).find (r.bytes.drop r.offset)).1.map (·.1)) ∧
      (TokenTable.ofEntries tokens).remainder consume (r.bytes.drop r.offset) =
        r.bytes.drop (r.search tokens consume).2.offset ∧
      (r.search tokens consume).2.offset ≤ r.bytes.length := by
  obtain ⟨bytes, offset⟩ := r
  have hfind := find_rest tokens bytes (bytes.length - offset) offset (Nat.add_sub_cancel' h)
  unfold search
  cases hnext : (Reader.mk bytes offset).next? tokens with
  | none =>
    rw [hnext] at hfind
    simp only [TokenTable.remainder, hfind, goto, Option.map_none, List.drop_length, and_self,
      Nat.le_refl]
  | some found =>
    obtain ⟨place, token, index⟩ := found
    rw [hnext] at hfind
    obtain ⟨hfind, hle⟩ := hfind
    simp only [TokenTable.remainder, hfind, goto, Option.map_some, true_and]
    cases consume with
    | true => exact ⟨List.drop_drop, hle⟩
    | false => exact ⟨rfl, by simpa using Nat.le_of_add_right_le hle⟩

/-- What is left of the rest behind its tokens. -/
theorem dropTokens_rest (tokens : List (Bytes × Nat)) (r : Reader) :
    ∀ count, r.bytes.length - r.offset ≤ count → r.offset ≤ r.bytes.length →
      (TokenTable.ofEntries tokens).dropTokens count (r.bytes.drop r.offset) =
          r.bytes.drop (r.past tokens).offset ∧
        (r.past tokens).offset ≤ r.bytes.length ∧ (r.past tokens).bytes = r.bytes := by
  fun_induction past tokens r with
  | case1 r h =>
    intro count _ hle
    have hmatch := match?_rest r tokens
    rw [h, Option.map_none] at hmatch
    refine ⟨?_, hle, rfl⟩
    cases count with
    | zero => rfl
    | succ count => rw [TokenTable.dropTokens, hmatch]
  | case2 r e h ih =>
    intro count hcount _
    have hbounds := token?_bounds h
    have hmatch := match?_rest r tokens
    rw [h, Option.map_some] at hmatch
    obtain ⟨count, rfl⟩ : ∃ k, count = k + 1 := ⟨count - 1, by omega⟩
    rw [TokenTable.dropTokens, hmatch]
    simp only [List.drop_drop]
    exact ih count (by simp only [goto]; omega) hbounds.2

end Reader

/-! ## Windows over some bytes -/

namespace Window

variable {w : Window} {bytes : Bytes} {r : Reader}

/-- How many of the bytes have been read from the source. -/
def read (w : Window) (bytes : Bytes) : Nat := bytes.length - w.source.unread.length

/-- **A window stands at an offset of some bytes**: it holds the slice of them that ends
with the last one that has been read, no longer than its capacity, and its cursor is at
the offset. -/
structure Stands (w : Window) (r : Reader) : Prop where
  position_le : w.position ≤ w.length
  length_le : w.length ≤ w.capacity
  contents : w.contents = (r.bytes.take (w.read r.bytes)).drop (w.read r.bytes - w.length)
  unread : w.source.unread.bytes = r.bytes.drop (w.read r.bytes)
  offset : r.offset + w.length = w.read r.bytes + w.position
  ended : w.exhausted = true → w.read r.bytes = r.bytes.length
  sound : w.source.fails = false
  room : 0 < w.capacity

/-- A window that fits its capacity and slides over some bytes: some have passed, then come
those that it holds, and then those that are still to be read. -/
structure Slides (bytes : Bytes) (w : Window) : Prop where
  spans : ∃ passed, passed ++ (w.contents ++ w.source.unread.bytes) = bytes
  fits : w.length ≤ w.capacity

theorem length_contents (w : Window) : w.contents.length = w.length := by
  rw [contents, length, List.length_append, List.length_reverse, ← w.ahead.length_eq]

theorem contents_step (w : Window) (count : Nat) : (w.step count).contents = w.contents := by
  simp only [contents, step, Tape.take, Tape.bytes_drop, List.reverse_append,
    List.reverse_reverse, List.append_assoc, List.take_append_drop]

theorem Slides.step (h : w.Slides bytes) (count : Nat) : (w.step count).Slides bytes := by
  have hcontents := w.contents_step count
  refine ⟨hcontents ▸ h.spans, ?_⟩
  rw [← length_contents, hcontents, length_contents]
  exact h.fits

theorem Slides.reserve (h : w.Slides bytes) (size : Nat) : (w.reserve size).Slides bytes :=
  ⟨h.spans, le_trans h.fits (le_max_left _ _)⟩

theorem Slides.topped (h : w.Slides bytes) : w.topped.Slides bytes := by
  obtain ⟨hbytes, hrest, -, -⟩ := w.source.pull_spec (w.capacity - w.length)
  obtain ⟨passed, hspans⟩ := h.spans
  refine ⟨⟨passed, ?_⟩, ?_⟩
  · -- what has been pulled moves from the source into the window
    have hmoved : w.topped.contents ++ w.topped.source.unread.bytes =
        w.contents ++ w.source.unread.bytes := by
      simp only [contents, Window.topped, Tape.bytes_append, hbytes, hrest, List.append_assoc,
        List.take_append_drop]
    rw [hmoved, hspans]
  · have hfits := h.fits
    have hlen : w.topped.length = w.length + (w.source.pull (w.capacity - w.length)).bytes.length :=
      (Nat.add_assoc _ _ _).symm
    have hpulled : (w.source.pull (w.capacity - w.length)).bytes.length ≤
        w.capacity - w.length := by
      rw [hbytes]
      exact List.length_take_le _ _
    show w.topped.length ≤ w.capacity
    omega

theorem Slides.fill (h : w.Slides bytes) : (stateOf (fill w)).Slides bytes := by
  rw [fill_eq]
  split
  · exact h
  · split <;> exact h.topped

/-- A refill that keeps the end of a window. -/
theorem Slides.refill (h : w.Slides bytes) {kept : Tape} (hkept : kept.bytes <:+ w.contents) :
    (stateOf (refill kept w)).Slides bytes := by
  have hcut : ({ w with behind := [], ahead := kept } : Window).Slides bytes := by
    obtain ⟨passed, hspans⟩ := h.spans
    obtain ⟨dropped, hdropped⟩ := hkept
    refine ⟨⟨passed ++ dropped, ?_⟩, ?_⟩
    · rw [← hspans, ← hdropped]
      simp only [contents, List.reverse_nil, List.nil_append, List.append_assoc]
    · have hfits := h.fits
      have hle : kept.bytes.length ≤ w.contents.length := by
        rw [← hdropped, List.length_append]
        exact Nat.le_add_left _ _
      rw [length_contents, ← kept.length_eq] at hle
      show 0 + kept.length ≤ w.capacity
      omega
  rw [stateOf_refill]
  exact hcut.fill

/-- No change of a window takes it off its bytes. -/
theorem descends_slides (bytes : Bytes) : Descends (lack (Slides bytes)) where
  step _ count := lack_le_lack.2 fun h => h.step count
  reserve _ size := lack_le_lack.2 fun h => h.reserve size
  refillAhead _ := lack_le_lack.2 fun h => h.refill (List.suffix_append _ _)
  renew _ := lack_le_lack.2 fun h => h.refill List.nil_suffix

/-! ## Standing at an offset -/

/-- What has passed before a window that stands somewhere. -/
theorem Stands.spans (h : w.Stands r) : ∃ passed,
    passed ++ (w.contents ++ w.source.unread.bytes) = r.bytes ∧
      passed.length + w.position = r.offset := by
  have hread : w.read r.bytes ≤ r.bytes.length := Nat.sub_le _ _
  have hlen : w.length ≤ w.read r.bytes := by
    have hcontents := congrArg List.length h.contents
    rw [length_contents, List.length_drop, List.length_take] at hcontents
    omega
  refine ⟨(r.bytes.take (w.read r.bytes)).take (w.read r.bytes - w.length), ?_, ?_⟩
  · rw [← List.append_assoc, h.contents, List.take_append_drop, h.unread, List.take_append_drop]
  · have hoffset := h.offset
    rw [List.length_take, List.length_take]
    omega

theorem Stands.slides (h : w.Stands r) : w.Slides r.bytes := by
  obtain ⟨passed, hspans, -⟩ := h.spans
  exact ⟨⟨passed, hspans⟩, h.length_le⟩

theorem Stands.at_rest (h : w.Stands r) : w.At (r.bytes.drop r.offset) := by
  obtain ⟨passed, hspans, hoffset⟩ := h.spans
  refine ⟨h.sound, ?_, fun hended => ?_, h.room⟩
  · have hlen : (passed ++ w.behind.reverse).length = r.offset := by
      rw [List.length_append, List.length_reverse]
      exact hoffset
    rw [← hspans, ← hlen, Window.contents, List.append_assoc, ← List.append_assoc passed,
      List.drop_left]
  · rw [h.unread, h.ended hended, List.drop_length]

theorem Stands.offset_le (h : w.Stands r) : r.offset ≤ r.bytes.length := by
  have hposition := h.position_le
  have hoffset := h.offset
  have hread : w.read r.bytes ≤ r.bytes.length := Nat.sub_le _ _
  omega

/-- A window over some bytes, before their rest from an offset on, stands at this offset. -/
theorem Slides.stands (h : w.Slides bytes) {offset : Nat} (hw : w.At (bytes.drop offset))
    (hle : offset ≤ bytes.length) : w.Stands ⟨bytes, offset⟩ := by
  obtain ⟨passed, hspans⟩ := h.spans
  have hread : w.read bytes = (passed ++ w.contents).length := by
    rw [read, ← hspans, ← List.append_assoc, List.length_append, w.source.unread.length_eq,
      Nat.add_sub_cancel]
  have htake : bytes.take (w.read bytes) = passed ++ w.contents := by
    rw [hread, ← hspans, ← List.append_assoc, List.take_left]
  have hdrop : bytes.drop (w.read bytes) = w.source.unread.bytes := by
    rw [hread, ← hspans, ← List.append_assoc, List.drop_left]
  have hpassed : w.read bytes - w.length = passed.length := by
    rw [hread, List.length_append, length_contents, Nat.add_sub_cancel]
  have hlen : w.length = w.position + w.ahead.length := rfl
  have hrest := congrArg List.length hw.whole
  have hall := congrArg List.length hspans
  simp only [List.length_append, List.length_drop, ← w.ahead.length_eq, length_contents]
    at hrest hall hread
  refine ⟨by omega, h.fits, ?_, hdrop.symm, ?_, fun hended => ?_, hw.sound, hw.room⟩
  · rw [hpassed, htake, List.drop_left]
  · show offset + w.length = w.read bytes + w.position
    omega
  · rw [hw.ended hended, List.length_nil] at hall
    show w.read bytes = bytes.length
    omega

/-! ## Calls to a window -/

theorem refillFrom_position (w : Window) : refillFrom w.position w = refillAhead w := by
  have hkept : Tape.ofBytes (w.contents.drop w.position) = w.ahead := by
    refine Tape.ext ?_
    rw [Tape.bytes_ofBytes, contents, position, ← List.length_reverse, List.drop_left]
  simp only [refillFrom, refillAhead, bind_apply, get_apply, hkept]

/-- What is given at the rest of some bytes and stays on them is given at an offset. -/
theorem Stands.gives {α : Type} {m : EStateM IoError Window α} {a : α} {offset : Nat}
    (h : w.Stands r) (hm : Gives (At · (r.bytes.drop r.offset)) m a (At · (r.bytes.drop offset)))
    (hslides : Shrinks (lack (Slides r.bytes)) m) (hle : offset ≤ r.bytes.length) :
    ∃ w', m w = .ok a w' ∧ w'.Stands (r.goto offset) := by
  obtain ⟨w', hok, hw'⟩ := hm w h.at_rest
  have hkept := hslides.keeps h.slides
  rw [hok] at hkept
  exact ⟨w', hok, Slides.stands hkept hw' hle⟩

/-- A search from an offset on. -/
theorem Stands.seekUntil (h : w.Stands r) (tokens : List (Bytes × Nat)) (consume : Bool) :
    ∃ w', (do
        let index ← Window.seekUntil (.ofEntries tokens) consume
        pure (.found index) : EStateM IoError Window Answer) w =
          .ok (r.search tokens consume).1 w' ∧ w'.Stands (r.search tokens consume).2 := by
  obtain ⟨hfound, hrest, hoffset⟩ := r.search_rest tokens consume h.offset_le
  have hseek := gives_seekUntil (TokenTable.lawful_ofEntries tokens) consume
    (r.bytes.drop r.offset)
  rw [hrest] at hseek
  obtain ⟨w', hok, hw'⟩ := h.gives hseek
    (shrinks_seekUntil (descends_slides r.bytes) _ consume) hoffset
  rw [Reader.goto_offset (r.bytes_search tokens consume)] at hw'
  exact ⟨w', by simp only [bind_apply, hok, pure_apply, hfound], hw'⟩

/-- **One call**, made to a window or to a reader. -/
theorem answer_perform (h : w.Stands r) (call : Call) :
    ∃ w', call.perform w = .ok (r.answer call).1 w' ∧ w'.Stands (r.answer call).2 := by
  have hdescends := descends_slides r.bytes
  have hat := h.at_rest
  have hle := h.offset_le
  cases call with
  | ensure needed =>
    have hensure : Gives (At · (r.bytes.drop r.offset)) (ensure needed) ()
        (At · (r.bytes.drop r.offset)) := fun w hw => by
      obtain ⟨w', hok, hw', -⟩ := ensure_spec hw needed
      exact ⟨w', hok, hw'⟩
    obtain ⟨w', hok, hw'⟩ := h.gives hensure (shrinks_ensure hdescends needed) hle
    exact ⟨w', by simp only [Call.perform, bind_apply, hok, pure_apply, Reader.answer], hw'⟩
  | reserve size =>
    exact ⟨w.reserve size, rfl, (h.slides.reserve size).stands (h.at_rest.reserve size) hle⟩
  | refill =>
    have hrefill : Gives (At · (r.bytes.drop r.offset)) refillAhead
        (decide (r.bytes.drop r.offset ≠ [])) (At · (r.bytes.drop r.offset)) := fun w hw => by
      obtain ⟨w', hok, hw', -⟩ := refillAhead_spec hw
      exact ⟨w', hok, hw'⟩
    obtain ⟨w', hok, hw'⟩ := h.gives hrefill hdescends.refillAhead hle
    have hmore : decide (r.bytes.drop r.offset ≠ []) = decide (r.offset < r.bytes.length) := by
      rw [decide_eq_decide, ne_eq, List.drop_eq_nil_iff, not_le]
    rw [← refillFrom_position, hmore] at hok
    exact ⟨w', by simp only [Call.perform, bind_apply, get_apply, hok, pure_apply, Reader.answer],
      hw'⟩
  | peekToken tokens =>
    have htable := TokenTable.lawful_ofEntries tokens
    obtain ⟨w', hok, hw'⟩ := h.gives (gives_peekToken htable _) (shrinks_peekToken hdescends _) hle
    rw [r.match?_rest tokens] at hok
    exact ⟨w', by simp only [Call.perform, bind_apply, hok, pure_apply, Reader.answer], hw'⟩
  | peekByte offset =>
    obtain ⟨w', hok, hw'⟩ := h.gives (gives_peekByte offset _) (shrinks_peekByte hdescends _) hle
    rw [List.getElem?_drop] at hok
    exact ⟨w', by simp only [Call.perform, bind_apply, hok, pure_apply, Reader.answer], hw'⟩
  | advance count =>
    have hrest : (r.bytes.drop r.offset).drop count =
        r.bytes.drop (min (r.offset + count) r.bytes.length) := by
      rw [List.drop_drop]
      rcases Nat.le_total (r.offset + count) r.bytes.length with hin | hout
      · rw [Nat.min_eq_left hin]
      · rw [Nat.min_eq_right hout, List.drop_length, List.drop_of_length_le hout]
    have hadvance := gives_advance count (r.bytes.drop r.offset)
    rw [hrest] at hadvance
    obtain ⟨w', hok, hw'⟩ := h.gives hadvance (shrinks_advance hdescends _) (Nat.min_le_right _ _)
    exact ⟨w', by simp only [Call.perform, bind_apply, hok, pure_apply, Reader.answer], hw'⟩
  | seekUntil tokens consume => exact h.seekUntil tokens consume
  | seekThrough tokens => exact h.seekUntil tokens true
  | seekWhile tokens =>
    obtain ⟨hrest, hpast, hbytes⟩ := Reader.dropTokens_rest tokens r _
      (List.length_drop (i := r.offset) (l := r.bytes)).ge hle
    have hseek := gives_seekWhile (TokenTable.lawful_ofEntries tokens) (r.bytes.drop r.offset)
    rw [hrest] at hseek
    obtain ⟨w', hok, hw'⟩ := h.gives hseek (shrinks_seekWhile hdescends _) hpast
    rw [Reader.goto_offset hbytes] at hw'
    exact ⟨w', by simp only [Call.perform, bind_apply, hok, pure_apply, Reader.answer], hw'⟩

/-- A window that has just entered a source stands after the byte-order mark. -/
theorem stands_enter (source : Source) (hsource : source.fails = false) (capacity : Nat) : ∃ w,
    enter capacity source = .ok (w, Encoding.detect source.unread.bytes) ∧
      w.Stands (.start source.unread.bytes) := by
  obtain ⟨w, henter, hw, -⟩ := enter_spec hsource capacity
  refine ⟨w, henter, Slides.stands ?_ hw (Encoding.detect_le _)⟩
  have hblank : (⟨max capacity leastCapacity, [], .empty, source, false⟩ : Window).Slides
      source.unread.bytes := ⟨⟨[], rfl⟩, Nat.zero_le _⟩
  have hfill := hblank.fill
  simp only [enter, first, EStateM.run] at henter
  cases hx : fill ⟨max capacity leastCapacity, [], .empty, source, false⟩ with
  | error e w₀ => rw [hx] at henter; cases henter
  | ok _ w₀ =>
    rw [hx] at henter hfill
    have hwindow : w₀.step (Encoding.detect w₀.ahead.bytes).2 = w :=
      congrArg Prod.fst (Except.ok.inj henter)
    exact hwindow ▸ hfill.step _

/-- Calls one after the other, from wherever a window stands. -/
theorem answers_mapM (calls : List Call) : ∀ {w : Window} {r : Reader}, w.Stands r →
    ∃ w', (calls.mapM Call.perform) w = .ok (r.answers calls).1 w' ∧
      w'.Stands (r.answers calls).2 := by
  induction calls with
  | nil => intro w r h; exact ⟨w, rfl, h⟩
  | cons call calls ih =>
    intro w r h
    obtain ⟨w₁, hcall, h₁⟩ := answer_perform h call
    obtain ⟨w₂, hrest, h₂⟩ := ih h₁
    refine ⟨w₂, ?_, h₂⟩
    rw [List.mapM_cons]
    simp only [bind_apply, hcall, hrest, pure_apply, Reader.answers]

/-- **A window refines a reader**: over a source with some bytes, which cuts its replies in any
way, a window of any capacity gives the answers that the offset in these bytes has to any
calls, and stands where the reader does before and after them. -/
theorem answers_calls (bytes : Bytes) (replies : List Reply) (capacity : Nat)
    (calls : List Call) : ∃ w w',
      enter capacity ⟨.ofBytes bytes, replies, false⟩ = .ok (w, Encoding.detect bytes) ∧
      w.Stands (.start bytes) ∧
      (calls.mapM Call.perform) w = .ok ((Reader.start bytes).answers calls).1 w' ∧
      w'.Stands ((Reader.start bytes).answers calls).2 := by
  obtain ⟨w, henter, h⟩ := stands_enter ⟨.ofBytes bytes, replies, false⟩ rfl capacity
  obtain ⟨w', hperform, h'⟩ := answers_mapM calls h
  exact ⟨w, w', henter, h, hperform, h'⟩

end Window

end Templating
