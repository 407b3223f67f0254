import ActionLookup.Proofs.Json.Strings

namespace ActionLookup.Json

variable {c : Char} {cs rest text meant : List Char} {mode : Mode} {n taken : Nat}

theorem toNat_le_of_le {d : Char} (h : c ≤ d) : c.toNat ≤ d.toNat := UInt32.le_iff_toNat_le.mp h

theorem mem_hexDigits (h : hexDigit? c = some n) : (c, n) ∈ hexDigits := by
  have hsmall : c.toNat ≤ 'f'.toNat := by
    unfold hexDigit? at h
    split at h
    · rename_i hc
      exact Nat.le_trans (toNat_le_of_le hc.2) (by decide)
    split at h
    · rename_i hc
      exact toNat_le_of_le hc.2
    split at h
    · rename_i hc
      exact Nat.le_trans (toNat_le_of_le hc.2) (by decide)
    · exact nomatch h
  have hall : ((List.range ('f'.toNat + 1)).all fun k =>
      (hexDigit? (Char.ofNat k)).all fun n => decide ((Char.ofNat k, n) ∈ hexDigits)) = true := by
    decide
  have hc := List.all_eq_true.mp hall c.toNat (List.mem_range.mpr (Nat.lt_succ_of_le hsmall))
  rw [Char.ofNat_toNat, h] at hc
  simpa using hc

theorem mem_shortEscapes {letter : Char} (h : simpleEscape? letter = some c) :
    (letter, c) ∈ shortEscapes := by
  unfold simpleEscape? at h
  split at h <;> simp only [Option.some.injEq, reduceCtorEq] at h <;> subst h <;> decide

theorem spellsUnit_of_codeUnit (h : codeUnit cs = .ok n) : SpellsUnit n (cs.take 4) := by
  unfold codeUnit at h
  split at h
  · exact nomatch h
  split at h
  · rename_i a b c d more
    split at h
    · rename_i k hvalue
      obtain rfl := Except.ok.inj h
      unfold hexValue at hvalue
      split at hvalue
      · rename_i ha hb hc hd
        obtain rfl := Option.some.inj hvalue
        exact ⟨_, mem_hexDigits ha, _, mem_hexDigits hb, _, mem_hexDigits hc, _, mem_hexDigits hd, rfl, rfl⟩
      · exact nomatch hvalue
    · exact nomatch h
  · exact nomatch h

theorem SpellsUnit.lt {digits : List Char} (h : SpellsUnit n digits) : n < 0x10000 := by
  have hall : (hexDigits.all fun p => decide (p.2 < 16)) = true := by decide
  obtain ⟨a, ha, b, hb, c, hc, d, hd, rfl, -⟩ := h
  have hvalue : ∀ p ∈ hexDigits, p.2 < 16 := fun p hp => by simpa using List.all_eq_true.mp hall p hp
  have ha := hvalue a ha
  have hb := hvalue b hb
  have hc := hvalue c hc
  have hd := hvalue d hd
  omega

theorem isLeading_iff : isLeading n = true ↔ 0xD800 ≤ n ∧ n ≤ 0xDBFF := by
  simp [isLeading]

theorem isTrailing_iff : isTrailing n = true ↔ 0xDC00 ≤ n ∧ n ≤ 0xDFFF := by
  simp [isTrailing]

theorem toNat_ofNat_of_valid (h : n < 0xD800 ∨ 0xDFFF < n ∧ n < 0x110000) : (Char.ofNat n).toNat = n := by
  have hvalid : n.isValidChar := h
  rw [Char.ofNat, dif_pos hvalid]
  rfl

theorem trailingUnit_eq_ok (h : trailingUnit cs = .ok n) :
    ∃ low, cs = '\\' :: 'u' :: low ∧ codeUnit low = .ok n ∧ isTrailing n = true := by
  unfold trailingUnit at h
  split at h
  · exact nomatch h
  · exact nomatch h
  · rename_i low
    split at h
    · exact nomatch h
    · rename_i k hunit
      split at h
      · rename_i htrailing
        obtain rfl := Except.ok.inj h
        exact ⟨low, rfl, hunit, htrailing⟩
      · exact nomatch h
  · exact nomatch h
  · exact nomatch h

theorem spells_pair {high low : List Char} {k : Nat} (hhigh : SpellsUnit n high) (hlow : SpellsUnit k low)
    (hleading : isLeading n = true) (htrailing : isTrailing k = true) :
    Spells (pairChar n k) ('\\' :: 'u' :: high ++ '\\' :: 'u' :: low) := by
  have hn := isLeading_iff.mp hleading
  have hk := isTrailing_iff.mp htrailing
  have hchar : (pairChar n k).toNat = (n - 0xD800) * 0x400 + (k - 0xDC00) + 0x10000 :=
    toNat_ofNat_of_valid (by omega)
  refine .pair ?_ ?_ ?_
  · omega
  · rw [hchar]
    convert hhigh using 1
    omega
  · rw [hchar]
    convert hlow using 1
    omega

theorem spells_of_unicodeEscape (h : unicodeEscape .kept cs = .ok (meant, n)) :
    ∃ c, meant = [c] ∧ Spells c ('\\' :: 'u' :: cs.take n) := by
  unfold unicodeEscape at h
  cases hunit : codeUnit cs with
  | error f => simp [hunit] at h
  | ok k =>
    have hdigits := spellsUnit_of_codeUnit hunit
    simp only [hunit] at h
    cases htrailing : isTrailing k with
    | true => simp [htrailing] at h
    | false =>
      cases hleading : isLeading k with
      | false =>
        simp only [htrailing, hleading, Bool.false_eq_true, if_false, Except.ok.injEq, Prod.mk.injEq] at h
        obtain ⟨rfl, rfl⟩ := h
        have hlow := hdigits.lt
        have hvalid : k < 0xD800 ∨ 0xDFFF < k ∧ k < 0x110000 := by
          simp only [isLeading, isTrailing, Bool.and_eq_false_iff, decide_eq_false_iff_not] at hleading htrailing
          omega
        refine ⟨Char.ofNat k, rfl, .unit ?_⟩
        rw [toNat_ofNat_of_valid hvalid]
        exact hdigits
      | true =>
        simp only [htrailing, hleading, Bool.false_eq_true, if_false, if_true] at h
        cases hpair : trailingUnit (cs.drop 4) with
        | error f => simp [hpair] at h
        | ok m =>
          simp only [hpair, Except.ok.injEq, Prod.mk.injEq] at h
          obtain ⟨rfl, rfl⟩ := h
          obtain ⟨low, hdrop, hlow, hsecond⟩ := trailingUnit_eq_ok hpair
          refine ⟨pairChar k m, rfl, ?_⟩
          have htake : cs.take 10 = cs.take 4 ++ '\\' :: 'u' :: low.take 4 := by
            rw [show 10 = 4 + 6 from rfl, List.take_add, hdrop]
            rfl
          rw [htake]
          exact spells_pair hdigits (spellsUnit_of_codeUnit hlow) hleading hsecond

theorem spells_of_escapeSequence (h : escapeSequence .kept cs = .ok (meant, n)) :
    ∃ c, meant = [c] ∧ Spells c ('\\' :: cs.take n) := by
  unfold escapeSequence at h
  split at h
  · exact nomatch h
  rename_i letter more
  split at h
  · rename_i c hshort
    obtain ⟨rfl, rfl⟩ := Prod.mk.inj (Except.ok.inj h)
    exact ⟨c, rfl, .short (mem_shortEscapes hshort)⟩
  split at h
  · rename_i hletter
    subst hletter
    cases hunicode : unicodeEscape .kept more with
    | error f => simp [hunicode] at h
    | ok p =>
      obtain ⟨ds, k⟩ := p
      simp only [hunicode, Except.ok.injEq, Prod.mk.injEq] at h
      obtain ⟨rfl, rfl⟩ := h
      exact spells_of_unicodeEscape hunicode
  · exact nomatch h

theorem isPiece_of_escapeSequence (h : escapeSequence .skipped cs = .ok (meant, n)) :
    IsPiece ('\\' :: cs.take n) := by
  unfold escapeSequence at h
  split at h
  · exact nomatch h
  rename_i letter more
  split at h
  · rename_i c hshort
    obtain ⟨rfl, rfl⟩ := Prod.mk.inj (Except.ok.inj h)
    exact .short (mem_shortEscapes hshort)
  split at h
  · rename_i hletter
    subst hletter
    unfold unicodeEscape at h
    cases hunit : codeUnit more with
    | error f => simp [hunit] at h
    | ok k =>
      simp only [hunit, Except.ok.injEq, Prod.mk.injEq] at h
      obtain ⟨rfl, rfl⟩ := h
      exact .unit (spellsUnit_of_codeUnit hunit)
  · exact nomatch h

theorem pieces_of_stringTail {P : List Char → List Char → Prop} (hplain : ∀ c, IsPlain c → P [c] [c])
    (hescape : ∀ {cs meant n}, escapeSequence mode cs = .ok (meant, n) → P meant ('\\' :: cs.take n))
    (h : stringTail mode taken cs = .ok (text, rest)) :
    ∃ meants pieces, List.Forall₂ P meants pieces ∧ text = meants.flatten ∧
      cs.drop taken = pieces.flatten ++ '"' :: rest := by
  -- The walk stands in front of the next piece, or inside an escape of which `taken` characters are left.
  induction cs generalizing taken text with
  | nil =>
    simp [stringTail] at h
  | cons c tail ih =>
    cases taken with
    | succ taken => exact ih h
    | zero =>
      unfold stringTail at h
      by_cases hquote : c = '"'
      · subst hquote
        simp only [if_true, Except.ok.injEq, Prod.mk.injEq] at h
        obtain ⟨rfl, rfl⟩ := h
        exact ⟨[], [], .nil, rfl, rfl⟩
      by_cases hbackslash : c = '\\'
      · subst hbackslash
        simp only [if_neg hquote, if_true] at h
        cases hsequence : escapeSequence mode tail with
        | error f => simp [hsequence] at h
        | ok p =>
          obtain ⟨meant, n⟩ := p
          simp only [hsequence] at h
          cases htail : stringTail mode n tail with
          | error f => simp [htail] at h
          | ok q =>
            obtain ⟨more, behind⟩ := q
            simp only [htail, Except.ok.injEq, Prod.mk.injEq] at h
            obtain ⟨rfl, rfl⟩ := h
            obtain ⟨meants, pieces, hpieces, rfl, hdrop⟩ := ih htail
            refine ⟨meant :: meants, _ :: pieces, .cons (hescape hsequence) hpieces, rfl, ?_⟩
            rw [List.flatten_cons, List.cons_append, List.cons_append, List.append_assoc, ← hdrop,
              List.take_append_drop]
            rfl
      simp only [if_neg hquote, if_neg hbackslash] at h
      by_cases hcontrol : c.toNat < 0x20
      · simp [hcontrol] at h
      · cases htail : stringTail mode 0 tail with
        | error f => simp [hcontrol, htail] at h
        | ok q =>
          obtain ⟨more, behind⟩ := q
          simp only [if_neg hcontrol, htail, Except.ok.injEq, Prod.mk.injEq] at h
          obtain ⟨rfl, rfl⟩ := h
          obtain ⟨meants, pieces, hpieces, rfl, hdrop⟩ := ih htail
          have hc : IsPlain c := ⟨Nat.le_of_not_lt hcontrol, hquote, hbackslash⟩
          refine ⟨[c] :: meants, [c] :: pieces, .cons (hplain c hc) hpieces, rfl, ?_⟩
          exact congrArg (List.cons c) hdrop

theorem spellsString_of_readString {s : String} (h : readString cs = .ok (s, rest)) :
    ∃ inside, SpellsString s ('"' :: inside) ∧ cs = inside ++ rest := by
  unfold readString at h
  cases htail : stringTail .kept 0 cs with
  | error f => simp [htail] at h
  | ok p =>
    obtain ⟨text, behind⟩ := p
    simp only [htail, Except.ok.injEq, Prod.mk.injEq] at h
    obtain ⟨rfl, rfl⟩ := h
    obtain ⟨meants, pieces, hpieces, rfl, hcs⟩ :=
      pieces_of_stringTail (P := fun meant piece => ∃ c, meant = [c] ∧ Spells c piece)
        (fun c hc => ⟨c, rfl, .plain hc⟩) spells_of_escapeSequence htail
    refine ⟨pieces.flatten ++ ['"'], ⟨pieces, ?_, rfl⟩, by simpa using hcs⟩
    rw [String.toList_ofList]
    clear htail hcs
    induction hpieces with
    | nil => exact .nil
    | cons hpiece _ ih =>
      obtain ⟨c, rfl, hspells⟩ := hpiece
      exact .cons hspells ih

theorem isString_of_skipString (h : skipString cs = .ok rest) :
    ∃ inside, IsString ('"' :: inside) ∧ cs = inside ++ rest := by
  unfold skipString at h
  cases htail : stringTail .skipped 0 cs with
  | error f => simp [htail] at h
  | ok p =>
    obtain ⟨text, behind⟩ := p
    simp only [htail, Except.ok.injEq] at h
    subst h
    obtain ⟨meants, pieces, hpieces, -, hcs⟩ :=
      pieces_of_stringTail (P := fun _ piece => IsPiece piece) (fun c hc => .plain hc)
        isPiece_of_escapeSequence htail
    refine ⟨pieces.flatten ++ ['"'], ⟨pieces, ?_, rfl⟩, by simpa using hcs⟩
    clear htail hcs
    induction hpieces with
    | nil => exact nofun
    | cons hpiece _ ih => exact List.forall_mem_cons.mpr ⟨hpiece, ih⟩

end ActionLookup.Json
