import ActionLookup.Proofs.Schema.Acceptance
import ActionLookup.Proofs.Text.Avoidance

/-!
The name of the field, which is made from the checked name of the schema by lowering it. Lowering
keeps letters, digits and underscores, but the capital I with a dot leaves its dot as a mark, and a mark
is neither; so exactly the names with this letter give a field that is no identifier
(`holder_isIdentifier_iff`).
-/

namespace ActionLookup

open Text

namespace Name

theorem identifierChars_iff {cs : List Char} :
    identifierChars cs = true ↔
      (∃ c, cs.head? = some c ∧ starts c = true) ∧ ∀ c ∈ cs, continues c = true := by
  cases cs with
  | nil => simp [identifierChars]
  | cons c cs =>
    simp only [identifierChars, Bool.and_eq_true, List.all_eq_true, List.head?_cons, Option.some.injEq,
      exists_eq_left', List.forall_mem_cons]
    exact ⟨fun h => ⟨h.1, continues_of_starts h.1, h.2⟩, fun h => ⟨h.1, h.2.2⟩⟩

theorem starts_of_isAlphabetic {c : Char} (h : isAlphabetic c = true) : starts c = true := by
  rw [starts, h, Bool.or_true]

end Name

/-! ### Small letters -/

/-- How many ranges of letters end in front of a small letter for certain, which need not be looked through. -/
def skipped (n : Nat) : Nat := if n < 0x1D00 then 0 else if n < 0xA640 then 275 else 351

def lowersToLetters (r : CapitalRun) : Bool :=
  ((alphabeticRanges.drop (skipped r.image)).find? fun letters => Nat.ble r.image letters.2).any fun letters =>
    decide (letters.1 ≤ r.image) && decide (r.smallOf r.last ≤ letters.2) &&
      (decide (letters.2 < 0xD800) || decide (0xDFFF < letters.1) && decide (letters.2 < 0x110000))

theorem isAlphabetic_ofNat {n : Nat} (h : alphabeticRanges.contains n = true) (hvalid : n.isValidChar) :
    isAlphabetic (Char.ofNat n) = true := by
  have hnat : (Char.ofNat n).toNat = n := by
    rw [Char.ofNat, dif_pos hvalid]
    rfl
  rw [isAlphabetic, hnat, h]

theorem isAlphabetic_smallOf {r : CapitalRun} (hr : r ∈ capitalRuns) {n : Nat} (h : r.contains n = true) :
    isAlphabetic (Char.ofNat (r.smallOf n)) = true := by
  have hall : capitalRuns.all lowersToLetters = true := by decide +kernel
  have hrun := List.all_eq_true.mp hall r hr
  obtain ⟨letters, hletters, hbounds⟩ := (Option.any_eq_true ..).mp hrun
  have hmem := List.mem_of_mem_drop (List.mem_of_find?_eq_some hletters)
  simp only [Bool.and_eq_true, Bool.or_eq_true, decide_eq_true_eq] at hbounds
  rw [CapitalRun.smallOf] at hbounds
  simp only [CapitalRun.contains, Bool.and_eq_true, decide_eq_true_eq] at h
  have hin : letters.1 ≤ r.smallOf n ∧ r.smallOf n ≤ letters.2 := by
    rw [CapitalRun.smallOf]
    omega
  refine isAlphabetic_ofNat ((RangeTable.contains_iff ascending_alphabeticRanges).mpr ⟨letters, hmem, hin⟩) ?_
  unfold Nat.isValidChar
  omega

/-- The capital I with a dot, the only letter that is lowered to more than one character. -/
def dottedI : Char := '\u0130'

def dotAbove : Char := '\u0307'

theorem lowerChar_dottedI : lowerChar dottedI = ['i', dotAbove] := rfl

theorem lowerChar_of_ne {c : Char} (h : c ≠ dottedI) :
    lowerChar c = [c] ∨ ∃ d, lowerChar c = [d] ∧ isAlphabetic d = true := by
  have hplain : lowerChar c = [Char.ofNat (smallCode capitalRuns c.toNat)] := if_neg h
  rw [hplain]
  rcases smallCode_eq capitalRuns c.toNat with hsame | ⟨r, hr, hcontains, hsmall⟩
  · rw [hsame, Char.ofNat_toNat]
    exact .inl rfl
  · rw [hsmall]
    exact .inr ⟨_, rfl, isAlphabetic_smallOf hr hcontains⟩

theorem continues_of_mem_lowerChar {c d : Char} (hc : Name.continues c = true) (hdotted : c ≠ dottedI)
    (h : d ∈ lowerChar c) : Name.continues d = true := by
  rcases lowerChar_of_ne hdotted with hsame | ⟨small, hsmall, hletter⟩
  · rw [hsame, List.mem_singleton] at h
    rwa [h]
  · rw [hsmall, List.mem_singleton] at h
    rw [h]
    exact Name.continues_of_starts (Name.starts_of_isAlphabetic hletter)

theorem head?_lowerBetween (before : List Char) {c : Char} (after : List Char) (h : Name.starts c = true) :
    ∃ d, (lowerBetween before c after).head? = some d ∧ Name.starts d = true := by
  rw [lowerBetween]
  split
  · split
    · exact ⟨_, rfl, by decide⟩
    · exact ⟨_, rfl, by decide⟩
  · by_cases hdotted : c = dottedI
    · rw [hdotted, lowerChar_dottedI]
      exact ⟨_, rfl, by decide⟩
    · rcases lowerChar_of_ne hdotted with hsame | ⟨d, hd, hletter⟩
      · exact ⟨c, by rw [hsame]; rfl, h⟩
      · exact ⟨d, by rw [hd]; rfl, Name.starts_of_isAlphabetic hletter⟩

theorem dotAbove_mem_lowerAfter {before cs : List Char} (h : dottedI ∈ cs) :
    dotAbove ∈ lowerAfter before cs := by
  induction cs generalizing before with
  | nil => cases h
  | cons c cs ih =>
    refine List.mem_append.mpr ((List.mem_cons.mp h).imp (fun hc => ?_) ih)
    rw [← hc, lowerBetween, if_neg (by decide), lowerChar_dottedI]
    exact List.mem_cons_of_mem _ (List.mem_singleton_self _)

theorem identifierChars_lower_iff {cs : List Char} (h : Name.identifierChars cs = true) :
    Name.identifierChars (lower cs) = true ↔ dottedI ∉ cs := by
  obtain ⟨⟨c, hhead, hstarts⟩, hall⟩ := Name.identifierChars_iff.mp h
  constructor
  · intro hlowered hmem
    have hmark := (Name.identifierChars_iff.mp hlowered).2 dotAbove (dotAbove_mem_lowerAfter hmem)
    exact absurd hmark (by decide)
  · intro hdotted
    refine Name.identifierChars_iff.mpr ⟨?_, fun d hd => ?_⟩
    · cases cs with
      | nil => cases hhead
      | cons first after =>
        obtain rfl := Option.some.inj hhead
        obtain ⟨d, hd, hsmall⟩ := head?_lowerBetween [] after hstarts
        exact ⟨d, by rw [lower, lowerAfter, List.head?_append, hd]; rfl, hsmall⟩
    · rcases mem_lowerAfter hd with ⟨c, hc, hdc⟩ | hsigma
      · exact continues_of_mem_lowerChar (hall c hc) (fun heq => hdotted (heq ▸ hc)) hdc
      · have hsigmas : ['\u03C2', '\u03C3'].all Name.continues = true := by decide
        exact List.all_eq_true.mp hsigmas d hsigma

/-! ### The field of an accepted schema -/

namespace Schema

theorem holder_isIdentifier_iff {s : Schema} (h : s.validate = .ok ()) :
    Name.isIdentifier s.holder = true ↔ dottedI ∉ s.name.toList := by
  have hname := (validate_eq_ok_iff.mp h).name
  rw [holder, Name.isIdentifier, Name.lowercase, String.toList_ofList, identifierChars_lower_iff hname,
    Name.toList_strip, List.mem_filter, and_iff_left (by decide)]

/-- Two sigmas, of which one ends the word, a capital of Cherokee and a Roman numeral. -/
def manyCapitals : Schema := ⟨"_\u03A3\u13A0 \u2167\u03A3", [⟨"On \u0130", [⟨"Go", .boolean⟩]⟩]⟩

theorem holder_isIdentifier_manyCapitals :
    manyCapitals.validate = .ok () ∧ manyCapitals.holder = "_\u03C3\uAB70\u2177\u03C2" ∧
      Name.isIdentifier manyCapitals.holder = true := by
  have hvalid : manyCapitals.validate = .ok () :=
    validate_eq_ok_iff.mpr (problem?_eq_none_iff.mp (by decide +kernel))
  exact ⟨hvalid, by decide, (holder_isIdentifier_iff hvalid).mpr (by decide)⟩

def dottedSchema : Schema := ⟨"\u0130", []⟩

theorem holder_not_isIdentifier_dotted :
    dottedSchema.validate = .ok () ∧ Name.isIdentifier dottedSchema.holder = false := by
  exact ⟨validate_eq_ok_iff.mpr (problem?_eq_none_iff.mp (by decide)), by decide⟩

end Schema

end ActionLookup
