import Templating.Proofs.Lockstep
import Templating.Proofs.Occurrence

/-!
# Scanning encoded texts

A scanner reads an encoded text unit by unit, so the same text takes more turns in one
encoding than in another. Turns that pass the units of a character one by one come together
again at the next character (`loop_char`), and a quoted text is read to the same end in all
encodings.

* `Scanner.Shows`: a scanner answers from the bytes that it stands before.
* `Scanner.Level`: two scanners before one text in two encodings.
* `Lexicon.simulates_readQuoted_text`: they read a quoted text alike.
-/

namespace Templating

theorem Agree.weaken {ε σ τ α β : Type} {R R' : σ → τ → Prop} {Q : α → β → Prop}
    {x : EStateM.Result ε σ α} {y : EStateM.Result ε τ β} (h : Agree R Q x y)
    (hR : ∀ s t, R s t → R' s t) : Agree R' Q x y := by
  cases h with
  | ok hq hr => exact .ok hq (hR _ _ hr)
  | error hr => exact .error (hR _ _ hr)

theorem Encoding.isEmpty_unitBytes (e : Encoding) (u : Nat) : (e.unitBytes u).isEmpty = false := by
  have hpos := e.unitWidth_pos
  rw [← e.length_unitBytes u] at hpos
  rw [List.isEmpty_eq_false_iff]
  exact List.length_pos_iff.1 hpos

/-- Turns that pass the units of a character one by one pass all of it. -/
theorem loop_units {ε σ α β : Type} {At : σ → Bytes → Prop} {body : α → EStateM ε σ (Turn α β)}
    (spent : α → β) (extend : Bytes → α → α) (e : Encoding) (hnil : ∀ a, extend [] a = a)
    (happend : ∀ a x y, extend y (extend x a) = extend (x ++ y) a) {rest : Bytes} :
    ∀ us : List Nat,
      (∀ a u us', u :: us' <:+ us →
        Gives (At · (e.unitBytes u ++ (us'.flatMap e.unitBytes ++ rest))) (body a)
          (.again (extend (e.unitBytes u) a)) (At · (us'.flatMap e.unitBytes ++ rest))) →
      ∀ (n : Nat) (a : α) (s : σ), At s (us.flatMap e.unitBytes ++ rest) → ∃ s', At s' rest ∧
        loop body spent (us.length + n) a s =
          loop body spent n (extend (us.flatMap e.unitBytes) a) s'
  | [], _, n, a, s, hs => ⟨s, hs, by rw [List.length_nil, Nat.zero_add, List.flatMap_nil, hnil]⟩
  | u :: us, hbody, n, a, s, hs => by
    rw [List.flatMap_cons, List.append_assoc] at hs
    obtain ⟨s₁, hturn, hs₁⟩ := hbody a u us List.suffix_rfl s hs
    obtain ⟨s₂, hs₂, hloop⟩ := loop_units spent extend e hnil happend us
      (fun a u us' hsuffix => hbody a u us' (hsuffix.trans (List.suffix_cons _ _))) n
      (extend (e.unitBytes u) a) s₁ hs₁
    refine ⟨s₂, hs₂, ?_⟩
    rw [List.length_cons, Nat.add_right_comm, loop_succ, hturn, List.flatMap_cons, ← happend]
    exact hloop

/-- Turns that pass a character unit by unit, with their bound. -/
theorem loop_char {ε σ α β : Type} {At : σ → Bytes → Prop} {body : α → EStateM ε σ (Turn α β)}
    (spent : α → β) (extend : Bytes → α → α) (e : Encoding) (hnil : ∀ a, extend [] a = a)
    (happend : ∀ a x y, extend y (extend x a) = extend (x ++ y) a) {c : Char} {cs : List Char}
    (hbody : ∀ a u us, u :: us <:+ e.units c →
      Gives (At · (e.unitBytes u ++ (us.flatMap e.unitBytes ++ e.text cs))) (body a)
        (.again (extend (e.unitBytes u) a)) (At · (us.flatMap e.unitBytes ++ e.text cs)))
    {b : Nat} (hb : (e.text (c :: cs)).length < b) (a : α) {s : σ} (hs : At s (e.text (c :: cs))) :
    ∃ b' s', (e.text cs).length < b' ∧ At s' (e.text cs) ∧
      loop body spent b a s = loop body spent b' (extend (e.encodeChar c) a) s' := by
  have hwidth := e.unitWidth_pos
  rw [Encoding.text_cons, Encoding.encodeChar_eq_units] at hb hs
  -- one turn for each unit, and the bound counts bytes
  have hunits : (e.units c).length ≤ ((e.units c).flatMap e.unitBytes).length := by
    rw [e.length_units]
    exact Nat.le_mul_of_pos_left _ hwidth
  rw [List.length_append] at hb
  obtain ⟨s', hs', hloop⟩ := loop_units spent extend e hnil happend (e.units c) hbody
    (b - (e.units c).length) a s hs
  rw [Nat.add_sub_cancel' (by omega), ← Encoding.encodeChar_eq_units] at hloop
  exact ⟨_, s', by omega, hs', hloop⟩

namespace Scanner

/-- **Two scanners before one text in two encodings**, somewhere in a given text. -/
def Level {σ τ : Type} (At : σ → Bytes → Prop) (At' : τ → Bytes → Prop) (e e' : Encoding)
    (cs : List Char) (s : σ) (t : τ) : Prop :=
  ∃ ds, ds <:+ cs ∧ At s (e.text ds) ∧ At' t (e'.text ds)

theorem Level.mono {σ τ : Type} {At : σ → Bytes → Prop} {At' : τ → Bytes → Prop}
    {e e' : Encoding} {cs ds : List Char} (hds : ds <:+ cs) (s : σ) (t : τ)
    (h : Level At At' e e' ds s t) :
    Level At At' e e' cs s t := by
  obtain ⟨rest, hrest, hs, ht⟩ := h
  exact ⟨rest, hrest.trans hds, hs, ht⟩

variable {σ : Type} [Scanner σ]

/-- **A scanner over bytes** answers from the bytes that it stands before. -/
structure Shows (At : σ → Bytes → Prop) : Prop where
  peekToken : ∀ {table : TokenTable}, table.Lawful → ∀ rest : Bytes,
    Gives (At · rest) (Scanner.peekToken table) (table.match? rest) (At · rest)
  peekByte : ∀ (offset : Nat) (rest : Bytes),
    Gives (At · rest) (Scanner.peekByte offset) rest[offset]? (At · rest)
  advance : ∀ (count : Nat) (rest : Bytes),
    Gives (At · rest) (Scanner.advance count) () (At · (rest.drop count))
  remaining : ∀ (s : σ) (rest : Bytes), At s rest → Scanner.remaining s = rest.length

section

variable {At : σ → Bytes → Prop} (h : Shows At)

include h

theorem Shows.peekBytes (count : Nat) : ∀ (offset : Nat) (rest : Bytes),
    Gives (At · rest) (Scanner.peekBytes offset count) ((rest.drop offset).take count)
      (At · rest) := by
  induction count with
  | zero => exact fun offset rest => Gives.pure fun _ => id
  | succ count ih =>
    intro offset rest
    refine (h.peekByte offset rest).bind ?_
    cases hbyte : rest[offset]? with
    | none =>
      rw [List.drop_of_length_le (List.getElem?_eq_none_iff.1 hbyte)]
      exact Gives.pure fun _ => id
    | some b =>
      obtain ⟨hlt, hb⟩ := List.getElem?_eq_some_iff.1 hbyte
      rw [List.drop_eq_getElem_cons hlt, hb]
      exact (ih (offset + 1) rest).bind (Gives.pure fun _ => id)

theorem Shows.take (count : Nat) (rest : Bytes) :
    Gives (At · rest) (Scanner.take count) (rest.take count) (At · (rest.drop count)) := by
  have hdrop : rest.drop (rest.take count).length = rest.drop count := by
    rw [List.length_take]
    rcases Nat.le_total count rest.length with hle | hle
    · rw [Nat.min_eq_left hle]
    · rw [Nat.min_eq_right hle, List.drop_length, List.drop_of_length_le hle]
  have hadvance := h.advance (rest.take count).length rest
  rw [hdrop] at hadvance
  exact (h.peekBytes count 0 rest).bind (hadvance.bind (Gives.pure fun _ => id))

/-- Passing the front of some bytes. -/
theorem Shows.advance_front (front rest : Bytes) :
    Gives (At · (front ++ rest)) (Scanner.advance front.length : EStateM Error σ Unit) ()
      (At · rest) := by
  have hadvance := h.advance front.length (front ++ rest)
  rwa [List.drop_left] at hadvance

/-- Taking the front of some bytes, as far as a count goes. -/
theorem Shows.take_front {count : Nat} {front rest : Bytes}
    (hfront : (front ++ rest).take count = front) :
    Gives (At · (front ++ rest)) (Scanner.take count) front (At · rest) := by
  have hdrop : (front ++ rest).drop count = rest := by
    have hall := List.take_append_drop count (front ++ rest)
    rw [hfront] at hall
    exact List.append_cancel_left hall
  have htake := h.take count (front ++ rest)
  rwa [hfront, hdrop] at htake

theorem Shows.take_nil (count : Nat) :
    Gives (At · []) (Scanner.take count) [] (At · []) :=
  h.take_front (show (([] : Bytes) ++ []).take count = [] from List.take_nil)

/-- Taking one unit. -/
theorem Shows.takeUnit (e : Encoding) (u : Nat) (rest : Bytes) :
    Gives (At · (e.unitBytes u ++ rest)) (Scanner.take e.unitWidth) (e.unitBytes u)
      (At · rest) :=
  h.take_front (by rw [← e.length_unitBytes u, List.take_left])

/-- A loop has as many turns as there are bytes, and one more. -/
theorem Shows.loop_apply {α β : Type} (body : α → EStateM Error σ (Turn α β)) (spent : α → β)
    (start : α) {s : σ} {rest : Bytes} (hs : At s rest) :
    Scanner.loop body spent start s = Templating.loop body spent (rest.length + 1) start s := by
  rw [Scanner.loop, bind_apply, get_apply, ← h.remaining s rest hs]

end

end Scanner

namespace Lexicon

/-- Lexicons of the same tokens, each in its encoding. -/
structure Alike (lex lex' : Lexicon) (tokens : List String) : Prop where
  table : lex.table = .words lex.encoding tokens
  table' : lex'.table = .words lex'.encoding tokens
  roles : lex.roles = lex'.roles
  names : lex.names = lex'.names

variable {σ τ : Type} [Scanner σ] [Scanner τ] {At : σ → Bytes → Prop} {At' : τ → Bytes → Prop}
  {lex lex' : Lexicon} {tokens : List String}

open Scanner (Shows Level)

/-- More bytes after those that have been read, which are kept in reverse. -/
def readOn (bytes text : Bytes) : Bytes := bytes.reverse ++ text

theorem readOn_nil (text : Bytes) : readOn [] text = text := rfl

theorem readOn_append (text x y : Bytes) : readOn y (readOn x text) = readOn (x ++ y) text := by
  rw [readOn, readOn, readOn, List.reverse_append, List.append_assoc]

theorem readOn_text (e : Encoding) (ks q : List Char) :
    readOn (e.text ks) (e.text q).reverse = (e.text (q ++ ks)).reverse := by
  rw [readOn, Encoding.text_append, List.reverse_append]

theorem readOn_encodeChar (e : Encoding) (c : Char) (q : List Char) :
    readOn (e.encodeChar c) (e.text q).reverse = (e.text (q ++ [c])).reverse := by
  rw [← readOn_text, Encoding.text_cons, Encoding.text_nil, List.append_nil]

/-! ## Quoted texts -/

section

variable (hs : Shows At) (lex)

include hs

theorem gives_quotedUnit (text : Bytes) (u : Nat) (rest : Bytes) :
    Gives (At · (lex.encoding.unitBytes u ++ rest)) (lex.quotedUnit text)
      (.again ((lex.encoding.unitBytes u).reverse ++ text)) (At · rest) := by
  refine (hs.takeUnit lex.encoding u rest).bind ?_
  rw [lex.encoding.isEmpty_unitBytes]
  exact Gives.pure fun _ => id

/-- A unit of a quoted text is read where no token ends the text. -/
theorem gives_quotedTurn (htable : lex.table.Lawful) (quote : Nat) (text : Bytes) (u : Nat)
    (rest : Bytes)
    (hpass : ∀ found ∈ lex.table.match? (lex.encoding.unitBytes u ++ rest),
      found.1 ≠ quote ∧ lex.roles[found.1]? ≠ some .lineEnd) :
    Gives (At · (lex.encoding.unitBytes u ++ rest)) (lex.quotedTurn quote text)
      (.again ((lex.encoding.unitBytes u).reverse ++ text)) (At · rest) := by
  refine (hs.peekToken htable _).bind ?_
  cases hfound : lex.table.match? (lex.encoding.unitBytes u ++ rest) with
  | none => exact lex.gives_quotedUnit hs text u rest
  | some found =>
    -- a token inside a quoted text is text
    obtain ⟨hquote, hrole⟩ := hpass found hfound
    simp only [if_neg hquote, if_neg hrole]
    exact lex.gives_quotedUnit hs text u rest

end

/-- How a quoted text ends here, if it does: whether its quote is closed, and what follows. -/
def quotedEnd? (roles : List Role) (tokens : List String) (quote : Nat) (cs : List Char) :
    Option (Bool × List Char) :=
  if cs.isEmpty then some (false, [])
  else
    match wordAt? tokens cs with
    | none => none
    | some (ks, index) =>
      if index = quote then some (true, cs.drop ks.length)
      else if roles[index]? = some .lineEnd then some (false, cs)
      else none

theorem quotedEnd?_suffix {roles : List Role} {quote : Nat} {cs ds : List Char} {closed : Bool}
    (h : quotedEnd? roles tokens quote cs = some (closed, ds)) : ds <:+ cs := by
  unfold quotedEnd? at h
  split at h
  · cases h
    exact List.nil_suffix
  · cases hword : wordAt? tokens cs with
    | none => rw [hword] at h; cases h
    | some word =>
      rw [hword] at h
      simp only at h
      split at h
      · cases h
        exact List.drop_suffix _ _
      · split at h
        · cases h
          exact List.suffix_rfl
        · cases h

section

variable (hs : Shows At) (htable : lex.table = .words lex.encoding tokens)

include hs htable

/-- A quoted text ends where its characters say so. -/
theorem gives_quotedTurn_stop {quote : Nat} {cs ds : List Char} {closed : Bool}
    (h : quotedEnd? lex.roles tokens quote cs = some (closed, ds)) (text : Bytes) :
    Gives (At · (lex.encoding.text cs)) (lex.quotedTurn quote text) (.stop (text, closed))
      (At · (lex.encoding.text ds)) := by
  have hlawful : lex.table.Lawful := htable ▸ TokenTable.lawful_words _ _
  have hmatch := TokenTable.match?_text tokens lex.encoding cs
  rw [← htable] at hmatch
  refine (hs.peekToken hlawful _).bind ?_
  unfold quotedEnd? at h
  split at h
  · rename_i hempty
    cases h
    obtain rfl := List.isEmpty_iff.1 hempty
    rw [Encoding.text_nil, hlawful.match?_nil]
    exact (hs.take_nil lex.encoding.unitWidth).bind (Gives.pure fun _ => id)
  · cases hword : wordAt? tokens cs with
    | none => rw [hword] at h; cases h
    | some word =>
      obtain ⟨ks, index⟩ := word
      obtain ⟨-, post, rfl⟩ := wordAt?_spec hword
      rw [hword] at h hmatch
      rw [hmatch]
      simp only [Option.map_some] at h ⊢
      split at h
      · rename_i hquote
        cases h
        rw [if_pos hquote, List.drop_left, Encoding.text_append]
        exact (hs.advance_front _ _).bind (Gives.pure fun _ => id)
      · rename_i hquote
        split at h
        · rename_i hrole
          cases h
          rw [if_neg hquote, if_pos hrole]
          exact Gives.pure fun _ => id
        · cases h

/-- A quoted text that does not end goes on with a character. -/
theorem gives_quotedTurn_again {quote : Nat} {c : Char} {cs : List Char}
    (h : quotedEnd? lex.roles tokens quote (c :: cs) = none) (text : Bytes) (u : Nat)
    (us : List Nat) (hsuffix : u :: us <:+ lex.encoding.units c) :
    Gives (At · (lex.encoding.unitBytes u ++
        (us.flatMap lex.encoding.unitBytes ++ lex.encoding.text cs))) (lex.quotedTurn quote text)
      (.again ((lex.encoding.unitBytes u).reverse ++ text))
      (At · (us.flatMap lex.encoding.unitBytes ++ lex.encoding.text cs)) := by
  have hlawful : lex.table.Lawful := htable ▸ TokenTable.lawful_words _ _
  refine lex.gives_quotedTurn hs hlawful quote text u _ fun found hfound => ?_
  -- what stands before a unit of the character stands before its first one
  rw [htable] at hfound
  have hfirst := TokenTable.match?_units hsuffix cs hfound
  rw [TokenTable.match?_text] at hfirst
  unfold quotedEnd? at h
  cases hword : wordAt? tokens (c :: cs) with
  | none => rw [hword] at hfirst; cases hfirst
  | some word =>
    rw [hword] at hfirst h
    cases hfirst
    simp only [List.isEmpty_cons, Bool.false_eq_true, if_false] at h
    constructor
    · intro hquote
      rw [if_pos hquote] at h
      cases h
    · intro hrole
      rw [if_pos hrole] at h
      split at h <;> cases h

end

/-- What has been read of a quoted text, in two encodings. -/
def QuotedAlike (e e' : Encoding) (x y : Bytes × Bool) : Prop :=
  x.2 = y.2 ∧ ∃ q : List Char, x.1 = (e.text q).reverse ∧ y.1 = (e'.text q).reverse

section

variable (hs : Shows At) (ht : Shows At') (h : lex.Alike lex' tokens)

include hs ht h

theorem agree_quotedEnd {quote : Nat} {cs : List Char} {found : Bool × List Char}
    (hend : quotedEnd? lex.roles tokens quote cs = some found) {b b' : Nat} {s : σ} {t : τ}
    (hb : (lex.encoding.text cs).length < b) (hb' : (lex'.encoding.text cs).length < b')
    (hs' : At s (lex.encoding.text cs)) (ht' : At' t (lex'.encoding.text cs)) (q : List Char) :
    Agree (Level At At' lex.encoding lex'.encoding cs) (QuotedAlike lex.encoding lex'.encoding)
      (loop (lex.quotedTurn quote) (·, false) b (lex.encoding.text q).reverse s)
      (loop (lex'.quotedTurn quote) (·, false) b' (lex'.encoding.text q).reverse t) := by
  obtain ⟨closed, ds⟩ := found
  obtain ⟨b, rfl⟩ : ∃ k, b = k + 1 := ⟨b - 1, by omega⟩
  obtain ⟨b', rfl⟩ : ∃ k, b' = k + 1 := ⟨b' - 1, by omega⟩
  obtain ⟨s₁, hturn, hs₁⟩ := gives_quotedTurn_stop hs h.table hend _ s hs'
  obtain ⟨t₁, hturn', ht₁⟩ := gives_quotedTurn_stop ht h.table' (h.roles ▸ hend) _ t ht'
  rw [loop_succ, loop_succ, hturn, hturn']
  exact .ok ⟨rfl, q, rfl, rfl⟩ ⟨ds, quotedEnd?_suffix hend, hs₁, ht₁⟩

/-- **Quoted texts are read alike**: both scanners come to the same character, with the same
text. -/
theorem agree_quoted (quote : Nat) : ∀ (cs q : List Char) (b b' : Nat) (s : σ) (t : τ),
    (lex.encoding.text cs).length < b → (lex'.encoding.text cs).length < b' →
    At s (lex.encoding.text cs) → At' t (lex'.encoding.text cs) →
      Agree (Level At At' lex.encoding lex'.encoding cs) (QuotedAlike lex.encoding lex'.encoding)
        (loop (lex.quotedTurn quote) (·, false) b (lex.encoding.text q).reverse s)
        (loop (lex'.quotedTurn quote) (·, false) b' (lex'.encoding.text q).reverse t) := by
  intro cs
  induction cs with
  | nil =>
    intro q b b' s t hb hb' hs' ht'
    exact agree_quotedEnd hs ht h rfl hb hb' hs' ht' q
  | cons c cs ih =>
    intro q b b' s t hb hb' hs' ht'
    cases hend : quotedEnd? lex.roles tokens quote (c :: cs) with
    | some found => exact agree_quotedEnd hs ht h hend hb hb' hs' ht' q
    | none =>
      -- the loops meet again at the next character
      obtain ⟨b₁, s₁, hb₁, hs₁, hloop⟩ := loop_char (·, false) readOn lex.encoding
        readOn_nil readOn_append (gives_quotedTurn_again hs h.table hend) hb
        (lex.encoding.text q).reverse hs'
      obtain ⟨b₂, t₁, hb₂, ht₁, hloop'⟩ := loop_char (·, false) readOn lex'.encoding
        readOn_nil readOn_append (gives_quotedTurn_again ht h.table' (h.roles ▸ hend))
        hb' (lex'.encoding.text q).reverse ht'
      rw [hloop, hloop', readOn_encodeChar, readOn_encodeChar]
      exact (ih (q ++ [c]) b₁ b₂ s₁ t₁ hb₁ hb₂ hs₁ ht₁).weaken (Level.mono (List.suffix_cons _ _))

theorem simulates_readQuoted_text (quote : Nat) (cs : List Char) :
    Simulates (Level At At' lex.encoding lex'.encoding cs) Eq (lex.readQuoted quote)
      (lex'.readQuoted quote) := by
  have hloop : Simulates (Level At At' lex.encoding lex'.encoding cs)
      (QuotedAlike lex.encoding lex'.encoding)
      (Scanner.loop (lex.quotedTurn quote) (·, false) [])
      (Scanner.loop (lex'.quotedTurn quote) (·, false) []) := by
    refine Simulates.get_bind ?_
    rintro s t ⟨ds, hds, hs', ht'⟩
    rw [hs.remaining _ _ hs', ht.remaining _ _ ht']
    exact (agree_quoted hs ht h quote ds [] _ _ s t (Nat.lt_succ_self _) (Nat.lt_succ_self _) hs'
      ht').weaken (Level.mono hds)
  refine hloop.bind ?_
  -- both have read one text, which both decode
  rintro ⟨x, closed⟩ ⟨y, _⟩ ⟨rfl, q, rfl, rfl⟩
  simp only [List.reverse_reverse, Encoding.decode_text]
  split
  · exact Simulates.pure rfl
  · exact Simulates.throw _

end

end Lexicon

end Templating
