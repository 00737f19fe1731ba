import Templating.Proofs.Encoding

/-!
# Code units

A character is written in one or more code units, and which of them begins a character can
be told from its value. So an encoded text begins in another one, a whole number of units
after its start, only where a character begins (`Encoding.boundary`). Off these places it may
stand anywhere, which is why the two have to be told apart.

* `Encoding.spells_units`: the units of a character.
* `Encoding.boundary`: occurrences at whole units are occurrences of characters.
* `Encoding.text_suffix_iff`: one text ends with another as their characters do.
-/

namespace Templating

namespace Encoding

theorem unitWidth_pos (e : Encoding) : 0 < e.unitWidth := by cases e <;> decide

/-- The code units of a character. -/
def units : Encoding → Char → List Nat
  | utf8, c => (String.utf8EncodeChar c).map UInt8.toNat
  | utf16le, c | utf16be, c => (units16 c).map UInt16.toNat
  | utf32le, c | utf32be, c => [c.toNat]

/-- The bytes of a code unit. -/
def unitBytes : Encoding → Nat → Bytes
  | utf8, u => [UInt8.ofNat u]
  | utf16le, u => [low16 (UInt16.ofNat u), high16 (UInt16.ofNat u)]
  | utf16be, u => [high16 (UInt16.ofNat u), low16 (UInt16.ofNat u)]
  | utf32le, u => bytes32 u
  | utf32be, u => (bytes32 u).reverse

/-- The units that go on with a character and never begin one. -/
def continues : Encoding → Nat → Bool
  | utf8, u => 0x80 ≤ u && u ≤ 0xBF
  | utf16le, u | utf16be, u => 0xDC00 ≤ u && u < 0xE000
  | _, _ => false

theorem encodeChar_eq_units (e : Encoding) (c : Char) :
    e.encodeChar c = (e.units c).flatMap e.unitBytes := by
  cases e with
  | utf8 =>
    have hbyte : ∀ b : UInt8, unitBytes utf8 b.toNat = [b] := fun b => by
      rw [unitBytes, UInt8.ofNat_toNat]
    rw [units, List.flatMap_map]
    simp only [hbyte, encodeChar, List.flatMap_singleton']
  | utf16le => simp only [encodeChar, units, List.flatMap_map, unitBytes, UInt16.ofNat_toNat]
  | utf16be => simp only [encodeChar, units, List.flatMap_map, unitBytes, UInt16.ofNat_toNat]
  | utf32le => rfl
  | utf32be => rfl

theorem length_unitBytes (e : Encoding) (u : Nat) : (e.unitBytes u).length = e.unitWidth := by
  cases e <;> rfl

theorem length_units (e : Encoding) (us : List Nat) :
    (us.flatMap e.unitBytes).length = e.unitWidth * us.length := by
  induction us with
  | nil => rfl
  | cons u us ih =>
    rw [List.flatMap_cons, List.length_append, length_unitBytes, ih, List.length_cons, Nat.mul_succ,
      Nat.add_comm]

/-- The units of a character are read back from their bytes. -/
theorem codeUnit?_unitBytes {e : Encoding} {c : Char} {u : Nat} (hu : u ∈ e.units c)
    (rest : Bytes) : codeUnit? e (e.unitBytes u ++ rest) = some u := by
  have hvalid := isValidChar_toNat c
  cases e with
  | utf8 =>
    obtain ⟨b, -, rfl⟩ := List.mem_map.1 hu
    rw [unitBytes, UInt8.ofNat_toNat]
    rfl
  | utf16le =>
    obtain ⟨v, -, rfl⟩ := List.mem_map.1 hu
    simp only [unitBytes, UInt16.ofNat_toNat, List.cons_append, codeUnit?, join2_bytes]
  | utf16be =>
    obtain ⟨v, -, rfl⟩ := List.mem_map.1 hu
    simp only [unitBytes, UInt16.ofNat_toNat, List.cons_append, codeUnit?, join2_bytes]
  | utf32le =>
    obtain rfl : u = c.toNat := List.mem_singleton.1 hu
    simp only [unitBytes, bytes32, List.cons_append, codeUnit?,
      join4_bytes (show c.toNat < 0x110000 by omega)]
  | utf32be =>
    obtain rfl : u = c.toNat := List.mem_singleton.1 hu
    simp only [unitBytes, bytes32, List.reverse_cons, List.reverse_nil, List.cons_append,
      List.nil_append, codeUnit?, join4_bytes (show c.toNat < 0x110000 by omega)]

/-- A list of units that begins a character and goes on with it; the first unit is the code
point where one of them is ASCII. -/
def Spells (e : Encoding) (c : Char) (us : List Nat) : Prop :=
  ∃ u rest, us = u :: rest ∧ e.continues u = false ∧ (u = c.toNat ∨ 0x80 ≤ u ∧ 0x80 ≤ c.toNat) ∧
    ∀ v ∈ rest, e.continues v = true

theorem spells_units16 (c : Char) : Spells utf16le c ((units16 c).map UInt16.toNat) := by
  have hvalid := isValidChar_toNat c
  simp only [units16]
  split
  · -- no character is a surrogate, so one unit alone never goes on
    rename_i hlow
    refine ⟨_, [], rfl, ?_, Or.inl (toNat_unit hlow), by simp⟩
    simp only [toNat_unit hlow, continues, Bool.and_eq_false_iff, decide_eq_false_iff_not]
    omega
  · have hfirst : (UInt16.ofNat (0xD800 + (c.toNat - 0x10000) / 0x400)).toNat =
        0xD800 + (c.toNat - 0x10000) / 0x400 := toNat_unit (by omega)
    have hsecond : (UInt16.ofNat (0xDC00 + (c.toNat - 0x10000) % 0x400)).toNat =
        0xDC00 + (c.toNat - 0x10000) % 0x400 := toNat_unit (by omega)
    refine ⟨_, [_], rfl, ?_, Or.inr (by omega), ?_⟩
    · simp only [hfirst, continues, Bool.and_eq_false_iff, decide_eq_false_iff_not]
      omega
    · simp only [List.mem_singleton, forall_eq, hsecond, continues, Bool.and_eq_true,
        decide_eq_true_eq]
      omega

theorem spells_utf8 (c : Char) : Spells utf8 c ((String.utf8EncodeChar c).map UInt8.toNat) := by
  have hvalid := isValidChar_toNat c
  have hn : c.val.toNat = c.toNat := rfl
  -- lead bytes, and the bytes after them, whatever the length of the character
  have hlead : ∀ m, 0xC0 ≤ m → m < 256 → continues utf8 (UInt8.ofNat m).toNat = false := by
    intro m hm hlt
    simp only [toNat_byte hlt, continues, Bool.and_eq_false_iff, decide_eq_false_iff_not]
    omega
  have hcont : ∀ m, continues utf8 (UInt8.ofNat (m % 0x40 + 0x80)).toNat = true := by
    intro m
    simp only [toNat_byte (show m % 0x40 + 0x80 < 256 by omega), continues, Bool.and_eq_true,
      decide_eq_true_eq]
    omega
  have hhigh : ∀ m, 0xC0 ≤ m → m < 256 → 0x80 ≤ c.toNat →
      ((UInt8.ofNat m).toNat = c.toNat ∨ 0x80 ≤ (UInt8.ofNat m).toNat ∧ 0x80 ≤ c.toNat) := by
    intro m hm hlt hc
    rw [toNat_byte hlt]
    omega
  simp only [String.utf8EncodeChar, hn]
  split
  · refine ⟨_, [], rfl, ?_, Or.inl (toNat_byte (by omega)), by simp⟩
    simp only [toNat_byte (show c.toNat < 256 by omega), continues, Bool.and_eq_false_iff,
      decide_eq_false_iff_not]
    omega
  · split
    · refine ⟨_, _, rfl, hlead _ (by omega) (by omega),
        hhigh _ (by omega) (by omega) (by omega), ?_⟩
      simp only [List.map_cons, List.map_nil, List.forall_mem_cons, hcont, true_and]
      simp
    · split
      · refine ⟨_, _, rfl, hlead _ (by omega) (by omega),
          hhigh _ (by omega) (by omega) (by omega), ?_⟩
        simp only [List.map_cons, List.map_nil, List.forall_mem_cons, hcont, true_and]
        simp
      · refine ⟨_, _, rfl, hlead _ (by omega) (by omega),
          hhigh _ (by omega) (by omega) (by omega), ?_⟩
        simp only [List.map_cons, List.map_nil, List.forall_mem_cons, hcont, true_and]
        simp

/-- **The bytes of a character in UTF-8**: the code point alone if that is ASCII, and else bytes
that are not; no byte is above the lead bytes. -/
theorem toNat_of_mem_utf8 (c : Char) : ∀ b ∈ utf8.encodeChar c,
    b.toNat = c.toNat ∧ b.toNat < 0x80 ∨ 0x80 ≤ b.toNat ∧ b.toNat < 0xF8 := by
  have hvalid := isValidChar_toNat c
  have hn : c.val.toNat = c.toNat := rfl
  simp only [encodeChar, String.utf8EncodeChar, hn]
  split_ifs <;>
    simp only [List.mem_cons, List.not_mem_nil, or_false, forall_eq_or_imp, forall_eq,
      UInt8.toNat_ofNat'] <;> omega

theorem spells_units (e : Encoding) (c : Char) : e.Spells c (e.units c) := by
  cases e with
  | utf8 => exact spells_utf8 c
  | utf16le => exact spells_units16 c
  | utf16be => exact spells_units16 c
  | utf32le => exact ⟨_, [], rfl, rfl, Or.inl rfl, by simp⟩
  | utf32be => exact ⟨_, [], rfl, rfl, Or.inl rfl, by simp⟩

theorem codeUnit?_take (e : Encoding) (bytes : Bytes) :
    codeUnit? e (bytes.take e.unitWidth) = codeUnit? e bytes := by
  rcases bytes with _ | ⟨a, _ | ⟨b, _ | ⟨c, _ | ⟨d, rest⟩⟩⟩⟩ <;> cases e <;> rfl

theorem unitWidth_dvd_text (e : Encoding) (cs : List Char) : e.unitWidth ∣ (e.text cs).length := by
  induction cs with
  | nil => exact Nat.dvd_zero _
  | cons c cs ih =>
    rw [text_cons, List.length_append, encodeChar_eq_units, length_units]
    exact Nat.dvd_add (Nat.dvd_mul_right _ _) ih

theorem encodeChar_ne_nil (e : Encoding) (c : Char) : e.encodeChar c ≠ [] := by
  obtain ⟨u, us, hunits, -⟩ := e.spells_units c
  intro hnil
  have hlen := congrArg List.length hnil
  rw [encodeChar_eq_units, length_units, hunits, List.length_cons, Nat.mul_succ] at hlen
  have := e.unitWidth_pos
  simp only [List.length_nil] at hlen
  omega

theorem text_eq_nil {e : Encoding} {cs : List Char} : e.text cs = [] ↔ cs = [] := by
  cases cs with
  | nil => simp
  | cons c cs => simp [text_cons, encodeChar_ne_nil]

/-- A text that goes on after other characters is longer. -/
theorem length_text_lt (e : Encoding) {ks : List Char} (h : ks ≠ []) (cs : List Char) :
    (e.text cs).length < (e.text (ks ++ cs)).length := by
  have hpos := List.length_pos_iff.2 ((text_eq_nil (e := e)).not.2 h)
  rw [text_append, List.length_append]
  omega

/-- A text begins with a unit that begins a character. -/
theorem codeUnit?_text (e : Encoding) (c : Char) (cs : List Char) (rest : Bytes) : ∃ u,
    codeUnit? e (e.text (c :: cs) ++ rest) = some u ∧ e.continues u = false ∧
      (u = c.toNat ∨ 0x80 ≤ u ∧ 0x80 ≤ c.toNat) := by
  obtain ⟨u, us, hunits, hfirst, hvalue, -⟩ := e.spells_units c
  refine ⟨u, ?_, hfirst, hvalue⟩
  rw [text_cons, encodeChar_eq_units, hunits, List.flatMap_cons, List.append_assoc,
    List.append_assoc]
  exact codeUnit?_unitBytes (hunits ▸ List.mem_cons_self) _

/-- **Inside a character no text begins**, at a whole number of units. -/
theorem not_prefix_inside {e : Encoding} {c : Char} {us : List Nat} (hus : us ≠ [])
    (hsuffix : us <:+ e.units c) (hne : us ≠ e.units c) {ks : List Char} (hks : ks ≠ [])
    (rest : Bytes) : ¬ e.text ks <+: us.flatMap e.unitBytes ++ rest := by
  obtain ⟨u, us', hunits, -, -, hcont⟩ := e.spells_units c
  obtain ⟨v, vs, rfl⟩ := List.exists_cons_of_ne_nil hus
  obtain ⟨k, ks', rfl⟩ := List.exists_cons_of_ne_nil hks
  -- the first of the units that are left is not the first of the character
  have hv : v ∈ us' := by
    rw [hunits] at hsuffix hne
    rcases List.suffix_cons_iff.1 hsuffix with heq | hsuffix
    · exact absurd heq hne
    · exact hsuffix.subset List.mem_cons_self
  rintro ⟨tail, htail⟩
  obtain ⟨w, hw, hbegins, -⟩ := e.codeUnit?_text k ks' tail
  rw [htail, List.flatMap_cons, List.append_assoc,
    codeUnit?_unitBytes (hsuffix.subset List.mem_cons_self)] at hw
  cases hw
  rw [hcont v hv] at hbegins
  cases hbegins

/-- Where a text that is not empty stands, so many whole units after the start of another one, a
character begins, whatever comes after them both. -/
theorem boundary_before {e : Encoding} {ks : List Char} (hks : ks ≠ []) {cs : List Char} {p : Nat}
    {rest : Bytes} (hdvd : e.unitWidth ∣ p) (hp : p ≤ (e.text cs).length)
    (h : e.text ks <+: (e.text cs).drop p ++ rest) :
    ∃ pre post, cs = pre ++ post ∧ p = (e.text pre).length := by
  induction cs generalizing p with
  | nil => exact ⟨[], [], rfl, Nat.le_zero.1 hp⟩
  | cons c cs ih =>
    rw [text_cons] at h
    rw [text_cons, List.length_append] at hp
    rcases Nat.eq_zero_or_pos p with rfl | hpos
    · exact ⟨[], c :: cs, rfl, rfl⟩
    rcases Nat.lt_or_ge p (e.encodeChar c).length with hlt | hge
    · -- off its first unit a character is not a beginning
      obtain ⟨i, rfl⟩ := hdvd
      rw [encodeChar_eq_units, length_units] at hlt
      have hi : i < (e.units c).length := Nat.lt_of_mul_lt_mul_left hlt
      obtain ⟨us, vs, hsplit, rfl⟩ : ∃ us vs, e.units c = us ++ vs ∧ us.length = i :=
        ⟨_, _, (List.take_append_drop i _).symm, List.length_take_of_le hi.le⟩
      rw [encodeChar_eq_units, hsplit, List.flatMap_append, List.append_assoc, ← length_units,
        List.drop_left, List.append_assoc] at h
      refine absurd h (not_prefix_inside ?_ ⟨us, hsplit.symm⟩ ?_ hks _)
      · rintro rfl
        rw [hsplit, List.append_nil] at hi
        exact absurd hi (Nat.lt_irrefl _)
      · rintro heq
        rw [hsplit, List.self_eq_append_left] at heq
        rw [heq, List.length_nil, Nat.mul_zero] at hpos
        exact absurd hpos (Nat.lt_irrefl _)
    · rw [List.drop_append, List.drop_of_length_le hge, List.nil_append] at h
      have hrest : e.unitWidth ∣ p - (e.encodeChar c).length := by
        refine Nat.dvd_sub hdvd ?_
        rw [encodeChar_eq_units, length_units]
        exact Nat.dvd_mul_right _ _
      obtain ⟨pre, post, rfl, hpre⟩ := ih hrest (by omega) h
      -- past the character the place is one in the rest of the text
      refine ⟨c :: pre, post, rfl, ?_⟩
      rw [text_cons, List.length_append]
      omega

/-- **Occurrences at whole units are occurrences of characters.** Where a text that is not
empty stands in another one, so many whole units after its start, a character begins. -/
theorem boundary {e : Encoding} {ks : List Char} (hks : ks ≠ []) {cs : List Char} {p : Nat}
    (hdvd : e.unitWidth ∣ p) (h : e.text ks <+: (e.text cs).drop p) :
    ∃ pre post, cs = pre ++ post ∧ p = (e.text pre).length ∧ ks <+: post := by
  have hp : p ≤ (e.text cs).length := by
    by_contra hlt
    rw [List.drop_of_length_le (by omega), List.prefix_nil, text_eq_nil] at h
    exact hks h
  obtain ⟨pre, post, rfl, rfl⟩ := boundary_before hks hdvd hp (h.trans (List.prefix_append _ []))
  rw [text_append, List.drop_left, text_prefix_iff] at h
  exact ⟨pre, post, rfl, rfl, h⟩

/-- Where a text that is not empty ends in another one, so many whole units after its start, a
character ends. -/
theorem boundary_end {e : Encoding} {ks : List Char} (hks : ks ≠ []) {cs : List Char} {p : Nat}
    (hdvd : e.unitWidth ∣ p) (hp : p ≤ (e.text cs).length) (h : e.text ks <:+ (e.text cs).take p) :
    ∃ pre, pre <+: cs ∧ p = (e.text pre).length := by
  obtain ⟨before, hbefore⟩ := h
  have hlen : before.length + (e.text ks).length = p := by
    rw [← List.length_append, hbefore, List.length_take_of_le hp]
  -- seen from its start it is an occurrence at whole units, too
  have hstart : e.text ks <+: (e.text cs).drop before.length := by
    refine ⟨(e.text cs).drop p, ?_⟩
    conv_rhs =>
      rw [← List.take_append_drop p (e.text cs), ← hbefore, List.append_assoc, List.drop_left]
  have hunit : e.unitWidth ∣ before.length :=
    (Nat.dvd_add_left (e.unitWidth_dvd_text ks)).1 (hlen ▸ hdvd)
  obtain ⟨pre, post, rfl, hpre, rest, rfl⟩ := boundary hks hunit hstart
  refine ⟨pre ++ ks, ⟨rest, List.append_assoc ..⟩, ?_⟩
  rw [text_append, List.length_append, ← hpre, hlen]

/-- **One text ends with another as their characters do.** -/
theorem text_suffix_iff (e : Encoding) {ks cs : List Char} :
    e.text ks <:+ e.text cs ↔ ks <:+ cs := by
  constructor
  · intro h
    by_cases hks : ks = []
    · subst hks
      exact List.nil_suffix
    · -- where the end begins a character begins, and the rest of the text is this end
      have hdrop := List.suffix_iff_eq_drop.1 h
      have hdvd := Nat.dvd_sub (e.unitWidth_dvd_text cs) (e.unitWidth_dvd_text ks)
      have hpre : e.text ks <+: (e.text cs).drop ((e.text cs).length - (e.text ks).length) :=
        ⟨[], by rw [List.append_nil, ← hdrop]⟩
      obtain ⟨pre, post, rfl, hp, -⟩ := boundary hks hdvd hpre
      rw [hp, text_append, List.drop_left] at hdrop
      rw [e.text_injective hdrop]
      exact List.suffix_append _ _
  · rintro ⟨pre, rfl⟩
    rw [text_append]
    exact List.suffix_append _ _

end Encoding

end Templating
