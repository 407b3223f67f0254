import ActionLookup.Json.Text
import ActionLookup.Proofs.Json.Grammar

namespace ActionLookup.Json

variable {c : Char} {piece digits tail text rest : List Char} {mode : Mode} {n : Nat}

theorem hexDigit?_of_mem {p : Char × Nat} (h : p ∈ hexDigits) : hexDigit? p.1 = some p.2 := by
  have hall : (hexDigits.all fun p => hexDigit? p.1 == some p.2) = true := by decide
  simpa using List.all_eq_true.mp hall p h

theorem simpleEscape?_of_mem {p : Char × Char} (h : p ∈ shortEscapes) : simpleEscape? p.1 = some p.2 := by
  have hall : (shortEscapes.all fun p => simpleEscape? p.1 == some p.2) = true := by decide
  simpa using List.all_eq_true.mp hall p h

theorem length_le_byteCount (cs : List Char) : cs.length ≤ Text.byteCount cs := by
  induction cs with
  | nil => exact Nat.le_refl 0
  | cons c rest ih =>
    have hsize := c.utf8Size_pos
    simp only [List.length_cons, Text.byteCount]
    omega

theorem SpellsUnit.length_eq (h : SpellsUnit n digits) : digits.length = 4 := by
  obtain ⟨_, _, _, _, _, _, _, _, _, rfl⟩ := h
  rfl

theorem codeUnit_append (h : SpellsUnit n digits) (tail : List Char) :
    codeUnit (digits ++ tail) = .ok n := by
  have hlong : ¬ Text.byteCount (digits ++ tail) < 4 := by
    have hbytes := length_le_byteCount (digits ++ tail)
    have hdigits := h.length_eq
    simp only [List.length_append] at hbytes
    omega
  obtain ⟨a, ha, b, hb, c, hc, d, hd, rfl, rfl⟩ := h
  unfold codeUnit
  rw [if_neg hlong]
  simp only [List.cons_append, hexValue, hexDigit?_of_mem ha, hexDigit?_of_mem hb,
    hexDigit?_of_mem hc, hexDigit?_of_mem hd]

theorem stringTail_taken (h : piece.length = n) (tail : List Char) :
    stringTail mode n (piece ++ tail) = stringTail mode 0 tail := by
  induction piece generalizing n with
  | nil =>
    obtain rfl : n = 0 := h.symm
    rfl
  | cons c rest ih =>
    obtain rfl : n = rest.length + 1 := h.symm
    exact ih rfl

theorem stringTail_quote (mode : Mode) (rest : List Char) :
    stringTail mode 0 ('"' :: rest) = .ok ([], rest) := rfl

theorem stringTail_plain (h : IsPlain c) (htail : stringTail mode 0 tail = .ok (text, rest)) :
    stringTail mode 0 (c :: tail) = .ok (c :: text, rest) := by
  obtain ⟨hprintable, hquote, hbackslash⟩ := h
  simp [stringTail, hquote, hbackslash, Nat.not_lt.mpr hprintable, htail]

theorem stringTail_escape {meant escape : List Char}
    (hescape : escapeSequence mode (escape ++ tail) = .ok (meant, escape.length))
    (htail : stringTail mode 0 tail = .ok (text, rest)) :
    stringTail mode 0 ('\\' :: (escape ++ tail)) = .ok (meant ++ text, rest) := by
  simp [stringTail, hescape, stringTail_taken, htail]

theorem escapeSequence_short {letter : Char} (h : (letter, c) ∈ shortEscapes) (tail : List Char) :
    escapeSequence mode ([letter] ++ tail) = .ok ([c], 1) := by
  simp [escapeSequence, simpleEscape?_of_mem h]

theorem escapeSequence_unit {escape meant : List Char}
    (h : unicodeEscape mode (escape ++ tail) = .ok (meant, escape.length)) :
    escapeSequence mode ('u' :: escape ++ tail) = .ok (meant, escape.length + 1) := by
  have hlong : simpleEscape? 'u' = none := rfl
  simp [escapeSequence, hlong, h]

theorem toNat_lt_or_gt (c : Char) : c.toNat < 0xD800 ∨ 0xDFFF < c.toNat ∧ c.toNat < 0x110000 := c.valid

theorem isLeading_toNat (c : Char) : isLeading c.toNat = false := by
  have hvalid := toNat_lt_or_gt c
  simp only [isLeading, Bool.and_eq_false_iff, decide_eq_false_iff_not]
  omega

theorem isTrailing_toNat (c : Char) : isTrailing c.toNat = false := by
  have hvalid := toNat_lt_or_gt c
  simp only [isTrailing, Bool.and_eq_false_iff, decide_eq_false_iff_not]
  omega

theorem unicodeEscape_unit (h : SpellsUnit c.toNat digits) (tail : List Char) :
    unicodeEscape .kept (digits ++ tail) = .ok ([c], digits.length) := by
  simp [unicodeEscape, codeUnit_append h, isLeading_toNat, isTrailing_toNat, h.length_eq, Char.ofNat_toNat]

theorem unicodeEscape_skipped (h : SpellsUnit n digits) (tail : List Char) :
    unicodeEscape .skipped (digits ++ tail) = .ok ([], digits.length) := by
  simp [unicodeEscape, codeUnit_append h, h.length_eq]

theorem trailingUnit_append (h : SpellsUnit n digits) (htrailing : isTrailing n = true) (tail : List Char) :
    trailingUnit ('\\' :: 'u' :: (digits ++ tail)) = .ok n := by
  simp [trailingUnit, codeUnit_append h, htrailing]

theorem pairChar_halves (hc : 0x10000 ≤ c.toNat) :
    pairChar (0xD800 + (c.toNat - 0x10000) / 0x400) (0xDC00 + (c.toNat - 0x10000) % 0x400) = c := by
  have hsum : (0xD800 + (c.toNat - 0x10000) / 0x400 - 0xD800) * 0x400 +
      (0xDC00 + (c.toNat - 0x10000) % 0x400 - 0xDC00) + 0x10000 = c.toNat := by omega
  rw [pairChar, hsum, Char.ofNat_toNat]

theorem unicodeEscape_pair {high low : List Char} (hc : 0x10000 ≤ c.toNat)
    (hhigh : SpellsUnit (0xD800 + (c.toNat - 0x10000) / 0x400) high)
    (hlow : SpellsUnit (0xDC00 + (c.toNat - 0x10000) % 0x400) low) (tail : List Char) :
    unicodeEscape .kept ((high ++ '\\' :: 'u' :: low) ++ tail) =
      .ok ([c], (high ++ '\\' :: 'u' :: low).length) := by
  have hvalid := toNat_lt_or_gt c
  have hhalf : (c.toNat - 0x10000) / 0x400 < 0x400 := by omega
  have hrest : (c.toNat - 0x10000) % 0x400 < 0x400 := Nat.mod_lt _ (by decide)
  have hleading : isLeading (0xD800 + (c.toNat - 0x10000) / 0x400) = true := by
    simp only [isLeading, Bool.and_eq_true, decide_eq_true_iff]
    omega
  have hnottrailing : isTrailing (0xD800 + (c.toNat - 0x10000) / 0x400) = false := by
    simp only [isTrailing, Bool.and_eq_false_iff, decide_eq_false_iff_not]
    omega
  have htrailing : isTrailing (0xDC00 + (c.toNat - 0x10000) % 0x400) = true := by
    simp only [isTrailing, Bool.and_eq_true, decide_eq_true_iff]
    omega
  have hdrop : (high ++ ('\\' :: 'u' :: (low ++ tail))).drop 4 = '\\' :: 'u' :: (low ++ tail) := by
    rw [← hhigh.length_eq, List.drop_left]
  simp only [List.append_assoc, List.cons_append, unicodeEscape, codeUnit_append hhigh, hnottrailing,
    hleading, hdrop, trailingUnit_append hlow htrailing, pairChar_halves hc, Bool.false_eq_true, if_false,
    if_true, List.length_append, List.length_cons, hhigh.length_eq, hlow.length_eq]

theorem stringTail_spells (h : Spells c piece) (htail : stringTail .kept 0 tail = .ok (text, rest)) :
    stringTail .kept 0 (piece ++ tail) = .ok (c :: text, rest) := by
  cases h with
  | plain hplain => exact stringTail_plain hplain htail
  | short hshort => exact stringTail_escape (escapeSequence_short hshort tail) htail
  | unit hunit => exact stringTail_escape (escapeSequence_unit (unicodeEscape_unit hunit tail)) htail
  | pair hc hhigh hlow =>
    exact stringTail_escape (escapeSequence_unit (unicodeEscape_pair hc hhigh hlow tail)) htail

theorem stringTail_isPiece (h : IsPiece piece) (htail : stringTail .skipped 0 tail = .ok (text, rest)) :
    ∃ passed, stringTail .skipped 0 (piece ++ tail) = .ok (passed, rest) := by
  cases h with
  | plain hplain => exact ⟨_, stringTail_plain hplain htail⟩
  | short hshort => exact ⟨_, stringTail_escape (escapeSequence_short hshort tail) htail⟩
  | unit hunit =>
    exact ⟨_, stringTail_escape (escapeSequence_unit (unicodeEscape_skipped hunit tail)) htail⟩

theorem stringTail_pieces {pieces : List (List Char)} (h : List.Forall₂ Spells text pieces)
    (rest : List Char) : stringTail .kept 0 (pieces.flatten ++ '"' :: rest) = .ok (text, rest) := by
  induction h with
  | nil => exact stringTail_quote _ rest
  | cons hpiece _ ih =>
    rw [List.flatten_cons, List.append_assoc]
    exact stringTail_spells hpiece ih

theorem readString_append {s : String} {cs : List Char} (h : SpellsString s cs) (rest : List Char) :
    ∃ inside, cs = '"' :: inside ∧ readString (inside ++ rest) = .ok (s, rest) := by
  obtain ⟨pieces, hpieces, rfl⟩ := h
  refine ⟨pieces.flatten ++ ['"'], rfl, ?_⟩
  simp [readString, stringTail_pieces hpieces]

theorem skipString_append {cs : List Char} (h : IsString cs) (rest : List Char) :
    ∃ inside, cs = '"' :: inside ∧ skipString (inside ++ rest) = .ok rest := by
  obtain ⟨pieces, hpieces, rfl⟩ := h
  refine ⟨pieces.flatten ++ ['"'], rfl, ?_⟩
  have hpassed : ∃ passed, stringTail .skipped 0 (pieces.flatten ++ '"' :: rest) = .ok (passed, rest) := by
    induction pieces with
    | nil => exact ⟨_, stringTail_quote _ rest⟩
    | cons piece pieces ih =>
      obtain ⟨hpiece, hmore⟩ := List.forall_mem_cons.mp hpieces
      obtain ⟨passed, htail⟩ := ih hmore
      rw [List.flatten_cons, List.append_assoc]
      exact stringTail_isPiece hpiece htail
  obtain ⟨passed, hpassed⟩ := hpassed
  simp [skipString, hpassed]

end ActionLookup.Json
