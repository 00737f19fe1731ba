import Mathlib.Data.List.Infix
import Mathlib.Tactic.Common
import Templating.Encoding

/-!
# Decoding what was encoded

Every encoding writes a text character by character, and the characters can be taken
off again one by one (`Encoding.decode_cons`), whatever follows them.

* `Encoding.text`: the bytes of a list of characters.
* `Encoding.decode_text`: decoding gives the characters back.
* `Encoding.text_prefix_iff`: one text begins with another as their characters do.
-/

namespace Templating

namespace Encoding

/-! ## The bytes of a character -/

theorem isValidChar_toNat (c : Char) :
    c.toNat < 0xD800 ∨ 0xDFFF < c.toNat ∧ c.toNat < 0x110000 := c.valid

theorem scalar_toNat {c : Char} {n : Nat} (h : n = c.toNat) : scalar n = c := by
  subst h
  have hvalid : c.toNat.isValidChar := c.valid
  rw [scalar, if_pos hvalid, Char.ofNat_toNat]

theorem toNat_byte {n : Nat} (h : n < 256) : (UInt8.ofNat n).toNat = n :=
  UInt8.toNat_ofNat_of_lt' h

theorem announced_byte {n : Nat} (h : n < 256) : announced (UInt8.ofNat n) =
    if n < 0x80 then 1 else if n < 0xC2 then 0 else if n < 0xE0 then 2
    else if n < 0xF0 then 3 else if n < 0xF5 then 4 else 0 := by
  simp only [announced, UInt8.lt_iff_toNat_lt, toNat_byte h]
  rfl

theorem isContinuation_byte {n : Nat} (h : n < 256) :
    isContinuation (UInt8.ofNat n) = decide (0x80 ≤ n ∧ n ≤ 0xBF) := by
  simp only [isContinuation, UInt8.le_iff_toNat_le, toNat_byte h, Bool.decide_and]
  rfl

theorem mayFollow_byte {lead n : Nat} (hl : lead < 256) (h : n < 256) :
    mayFollow (UInt8.ofNat lead) (UInt8.ofNat n) =
      if lead = 0xE0 then decide (0xA0 ≤ n ∧ n ≤ 0xBF)
      else if lead = 0xED then decide (0x80 ≤ n ∧ n ≤ 0x9F)
      else if lead = 0xF0 then decide (0x90 ≤ n ∧ n ≤ 0xBF)
      else if lead = 0xF4 then decide (0x80 ≤ n ∧ n ≤ 0x8F)
      else decide (0x80 ≤ n ∧ n ≤ 0xBF) := by
  simp only [mayFollow, isContinuation_byte h, UInt8.le_iff_toNat_le, toNat_byte h,
    Bool.decide_and, beq_iff_eq, ← UInt8.toNat_inj, toNat_byte hl]
  rfl

theorem payload_byte {n : Nat} (h : n < 256) : payload (UInt8.ofNat n) = n % 64 := by
  rw [payload, toNat_byte h]

theorem firstUtf8_two {n : Nat} (hlow : 0x80 ≤ n) (hhigh : n < 0x800) (rest : Bytes) :
    firstUtf8 (UInt8.ofNat (n / 64 % 0x20 + 0xC0)) (UInt8.ofNat (n % 0x40 + 0x80) :: rest) =
      (scalar n, 2) := by
  have hlead : announced (UInt8.ofNat (n / 64 % 0x20 + 0xC0)) = 2 := by
    rw [announced_byte (by omega), if_neg (by omega), if_neg (by omega), if_pos (by omega)]
  have hnext : isContinuation (UInt8.ofNat (n % 0x40 + 0x80)) = true := by
    rw [isContinuation_byte (by omega)]
    simp only [decide_eq_true_eq]
    omega
  have hvalue : (n / 64 % 0x20 + 0xC0) % 32 * 64 + (n % 0x40 + 0x80) % 64 = n := by omega
  simp only [firstUtf8, hlead, hnext, if_true,
    toNat_byte (show n / 64 % 0x20 + 0xC0 < 256 by omega),
    payload_byte (show n % 0x40 + 0x80 < 256 by omega), hvalue]

theorem firstUtf8_three {n : Nat} (hlow : 0x800 ≤ n) (hhigh : n < 0x10000)
    (hvalid : n < 0xD800 ∨ 0xDFFF < n) (rest : Bytes) :
    firstUtf8 (UInt8.ofNat (n / 4096 % 0x10 + 0xE0))
        (UInt8.ofNat (n / 64 % 0x40 + 0x80) :: UInt8.ofNat (n % 0x40 + 0x80) :: rest) =
      (scalar n, 3) := by
  have hlead : announced (UInt8.ofNat (n / 4096 % 0x10 + 0xE0)) = 3 := by
    rw [announced_byte (by omega), if_neg (by omega), if_neg (by omega), if_neg (by omega),
      if_pos (by omega)]
  have hsecond : mayFollow (UInt8.ofNat (n / 4096 % 0x10 + 0xE0))
      (UInt8.ofNat (n / 64 % 0x40 + 0x80)) = true := by
    rw [mayFollow_byte (by omega) (by omega)]
    -- each lead byte narrows its second byte: no overlong forms and no surrogates
    split_ifs <;> simp only [decide_eq_true_eq] <;> omega
  have hthird : isContinuation (UInt8.ofNat (n % 0x40 + 0x80)) = true := by
    rw [isContinuation_byte (by omega)]
    simp only [decide_eq_true_eq]
    omega
  have hvalue : ((n / 4096 % 0x10 + 0xE0) % 16 * 64 + (n / 64 % 0x40 + 0x80) % 64) * 64 +
      (n % 0x40 + 0x80) % 64 = n := by omega
  simp only [firstUtf8, hlead, hsecond, hthird, if_true,
    toNat_byte (show n / 4096 % 0x10 + 0xE0 < 256 by omega),
    payload_byte (show n / 64 % 0x40 + 0x80 < 256 by omega),
    payload_byte (show n % 0x40 + 0x80 < 256 by omega), hvalue]

theorem firstUtf8_four {n : Nat} (hlow : 0x10000 ≤ n) (hhigh : n < 0x110000) (rest : Bytes) :
    firstUtf8 (UInt8.ofNat (n / 262144 % 0x08 + 0xF0))
        (UInt8.ofNat (n / 4096 % 0x40 + 0x80) :: UInt8.ofNat (n / 64 % 0x40 + 0x80) ::
          UInt8.ofNat (n % 0x40 + 0x80) :: rest) =
      (scalar n, 4) := by
  have hlead : announced (UInt8.ofNat (n / 262144 % 0x08 + 0xF0)) = 4 := by
    rw [announced_byte (by omega), if_neg (by omega), if_neg (by omega), if_neg (by omega),
      if_neg (by omega), if_pos (by omega)]
  have hsecond : mayFollow (UInt8.ofNat (n / 262144 % 0x08 + 0xF0))
      (UInt8.ofNat (n / 4096 % 0x40 + 0x80)) = true := by
    rw [mayFollow_byte (by omega) (by omega)]
    split_ifs <;> simp only [decide_eq_true_eq] <;> omega
  -- the last two bytes are alike
  have hcontinues : ∀ m : Nat, isContinuation (UInt8.ofNat (m % 0x40 + 0x80)) = true := by
    intro m
    rw [isContinuation_byte (by omega)]
    simp only [decide_eq_true_eq]
    omega
  have hvalue : (((n / 262144 % 0x08 + 0xF0) % 8 * 64 + (n / 4096 % 0x40 + 0x80) % 64) * 64 +
      (n / 64 % 0x40 + 0x80) % 64) * 64 + (n % 0x40 + 0x80) % 64 = n := by omega
  simp only [firstUtf8, hlead, hsecond, hcontinues, if_true,
    toNat_byte (show n / 262144 % 0x08 + 0xF0 < 256 by omega),
    payload_byte (show n / 4096 % 0x40 + 0x80 < 256 by omega),
    payload_byte (show n / 64 % 0x40 + 0x80 < 256 by omega),
    payload_byte (show n % 0x40 + 0x80 < 256 by omega), hvalue]

theorem decodeUtf8_cons (c : Char) (rest : Bytes) :
    decodeUtf8 (String.utf8EncodeChar c ++ rest) = c :: decodeUtf8 rest := by
  have hvalid := isValidChar_toNat c
  have hn : c.val.toNat = c.toNat := rfl
  have hc : scalar c.toNat = c := scalar_toNat rfl
  unfold String.utf8EncodeChar
  simp only [hn]
  -- as many cases as there are lengths of a character
  split
  · rename_i h
    have hlead := announced_byte (n := c.toNat) (by omega)
    rw [if_pos (by omega)] at hlead
    rw [List.singleton_append, decodeUtf8]
    simp only [firstUtf8, hlead, toNat_byte (show c.toNat < 256 by omega), Char.ofNat_toNat]
    rfl
  · split
    · rw [List.cons_append, List.singleton_append, decodeUtf8,
        firstUtf8_two (by omega) (by omega)]
      simp only [hc, List.drop_succ_cons, List.drop_zero]
    · split
      · simp only [List.cons_append, List.nil_append]
        rw [decodeUtf8, firstUtf8_three (by omega) (by omega) (by omega)]
        simp only [hc, List.drop_succ_cons, List.drop_zero]
      · simp only [List.cons_append, List.nil_append]
        rw [decodeUtf8, firstUtf8_four (by omega) (by omega)]
        simp only [hc, List.drop_succ_cons, List.drop_zero]

theorem toNat_unit {n : Nat} (h : n < 0x10000) : (UInt16.ofNat n).toNat = n :=
  UInt16.toNat_ofNat_of_lt' h

theorem join2_bytes (u : UInt16) : join2 (high16 u) (low16 u) = u.toNat := by
  have hu : u.toNat < 0x10000 := u.toNat_lt
  rw [join2, high16, low16, toNat_byte (by omega), toNat_byte (by omega)]
  omega

theorem join4_bytes {n : Nat} (h : n < 0x110000) :
    join4 (UInt8.ofNat (n / 16777216)) (UInt8.ofNat (n / 65536 % 256)) (UInt8.ofNat (n / 256 % 256))
      (UInt8.ofNat (n % 256)) = n := by
  simp only [join4, join2, toNat_byte (show n / 16777216 < 256 by omega),
    toNat_byte (show n / 65536 % 256 < 256 by omega),
    toNat_byte (show n / 256 % 256 < 256 by omega), toNat_byte (show n % 256 < 256 by omega)]
  omega

theorem ofUnits16_cons {u : Nat} (h : u < 0xD800 ∨ 0xDC00 ≤ u) (us : List Nat) :
    ofUnits16 (u :: us) = scalar u :: ofUnits16 us := by
  cases us with
  | nil => rfl
  | cons v us => rw [ofUnits16, if_neg (by omega)]

/-- The units of a character, read back. -/
theorem ofUnits16_append (c : Char) (us : List Nat) :
    ofUnits16 ((units16 c).map UInt16.toNat ++ us) = c :: ofUnits16 us := by
  have hvalid := isValidChar_toNat c
  simp only [units16]
  split
  · -- one unit, which is no high surrogate
    rename_i hlow
    rw [List.map_singleton, List.singleton_append, toNat_unit hlow,
      ofUnits16_cons (by omega), scalar_toNat rfl]
  · simp only [List.map_cons, List.map_nil, List.cons_append, List.nil_append,
      toNat_unit (show 0xD800 + (c.toNat - 0x10000) / 0x400 < 0x10000 by omega),
      toNat_unit (show 0xDC00 + (c.toNat - 0x10000) % 0x400 < 0x10000 by omega)]
    rw [ofUnits16, if_pos (by omega), scalar_toNat (c := c) (by omega)]

theorem pairs_units {join : UInt8 → UInt8 → Nat} {split : UInt16 → Bytes}
    (h : ∀ u rest, pairs join (split u ++ rest) = u.toNat :: pairs join rest) (us : List UInt16)
    (rest : Bytes) :
    pairs join (us.flatMap split ++ rest) = us.map UInt16.toNat ++ pairs join rest := by
  induction us with
  | nil => rfl
  | cons u us ih => rw [List.flatMap_cons, List.append_assoc, h, ih]; rfl

/-- **Decoding takes off one character**, whatever follows it. -/
theorem decode_cons (e : Encoding) (c : Char) (rest : Bytes) :
    (e.decode (e.encodeChar c ++ rest)).toList = c :: (e.decode rest).toList := by
  simp only [decode, String.toList_ofList]
  have hvalid := isValidChar_toNat c
  cases e with
  | utf8 => exact decodeUtf8_cons c rest
  | utf16le =>
    simp only [encodeChar]
    rw [pairs_units (fun u rest => ?_), ofUnits16_append]
    simp only [List.cons_append, List.nil_append, pairs, join2_bytes]
  | utf16be =>
    simp only [encodeChar]
    rw [pairs_units (fun u rest => ?_), ofUnits16_append]
    simp only [List.cons_append, List.nil_append, pairs, join2_bytes]
  | utf32le =>
    simp only [encodeChar, bytes32, List.cons_append, List.nil_append, quads,
      join4_bytes (show c.toNat < 0x110000 by omega), scalar_toNat (c := c) rfl]
  | utf32be =>
    simp only [encodeChar, bytes32, List.reverse_cons, List.reverse_nil, List.cons_append,
      List.nil_append, quads, join4_bytes (show c.toNat < 0x110000 by omega),
      scalar_toNat (c := c) rfl]

/-! ## Texts -/

/-- The bytes of a list of characters. -/
def text (e : Encoding) (cs : List Char) : Bytes := cs.flatMap e.encodeChar

theorem encode_eq_text (e : Encoding) (s : String) : e.encode s = e.text s.toList := rfl

@[simp]
theorem text_nil (e : Encoding) : e.text [] = [] := rfl

theorem text_cons (e : Encoding) (c : Char) (cs : List Char) :
    e.text (c :: cs) = e.encodeChar c ++ e.text cs := rfl

theorem text_append (e : Encoding) (cs ds : List Char) :
    e.text (cs ++ ds) = e.text cs ++ e.text ds := List.flatMap_append

theorem decode_append (e : Encoding) (cs : List Char) (rest : Bytes) :
    (e.decode (e.text cs ++ rest)).toList = cs ++ (e.decode rest).toList := by
  induction cs with
  | nil => rfl
  | cons c cs ih => rw [text_cons, List.append_assoc, decode_cons, ih, List.cons_append]

/-- **Decoding gives the characters back.** -/
theorem decode_text (e : Encoding) (cs : List Char) : e.decode (e.text cs) = String.ofList cs := by
  have hnil : (e.decode []).toList = [] := by
    cases e <;> simp [decode, decodeUtf8, pairs, ofUnits16, quads]
  have h := e.decode_append cs []
  rw [List.append_nil, hnil, List.append_nil] at h
  rw [← String.ofList_toList (s := e.decode (e.text cs)), h]

theorem text_injective (e : Encoding) : Function.Injective e.text := by
  intro cs ds h
  have hdecode := e.decode_text ds
  rw [← h, decode_text] at hdecode
  exact String.ofList_injective hdecode

/-- **One text begins with another as their characters do.** -/
theorem text_prefix_iff (e : Encoding) {cs ds : List Char} :
    e.text cs <+: e.text ds ↔ cs <+: ds := by
  constructor
  · rintro ⟨rest, h⟩
    have hdecode := e.decode_append cs rest
    rw [h, decode_text, String.toList_ofList] at hdecode
    -- the characters left are what the rest is decoded to
    exact ⟨_, hdecode.symm⟩
  · rintro ⟨rest, rfl⟩
    rw [text_append]
    exact List.prefix_append _ _

end Encoding

end Templating
