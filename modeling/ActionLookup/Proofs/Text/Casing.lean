import ActionLookup.Proofs.Text.Avoidance

namespace ActionLookup

open Text

theorem isUpper_iff {c : Char} : c.isUpper = true ↔ 0x41 ≤ c.toNat ∧ c.toNat ≤ 0x5A := by
  change decide ('A'.val ≤ c.val ∧ c.val ≤ 'Z'.val) = true ↔ _
  rw [decide_eq_true_iff, UInt32.le_iff_toNat_le, UInt32.le_iff_toNat_le]
  rfl

def capitals : List Char := (List.range' 0x41 26).map Char.ofNat

theorem mem_capitals {c : Char} (h : c.isUpper = true) : c ∈ capitals := by
  obtain ⟨hlow, hhigh⟩ := isUpper_iff.mp h
  exact List.mem_map.mpr ⟨c.toNat, List.mem_range'_1.mpr ⟨hlow, by omega⟩, Char.ofNat_toNat c⟩

theorem lowerChar_of_isUpper {c : Char} (h : c.isUpper = true) : lowerChar c = [c.toLower] := by
  have hall : capitals.all (fun c => lowerChar c == [c.toLower]) = true := by decide
  simpa using List.all_eq_true.mp hall c (mem_capitals h)

theorem not_isUpper_of_isLowered {c : Char} (h : isLowered c = true) : c.isUpper = false := by
  have hall : loweredRanges.all (fun r => decide (r.2 < 0x41) || decide (0x5A < r.1)) = true := by
    decide
  obtain ⟨r, hr, hc⟩ := List.any_eq_true.mp h
  have hapart := List.all_eq_true.mp hall r hr
  simp only [Bool.and_eq_true, decide_eq_true_eq] at hc
  simp only [Bool.or_eq_true, decide_eq_true_eq] at hapart
  refine Bool.eq_false_iff.mpr fun hupper => ?_
  have hbounds := isUpper_iff.mp hupper
  omega

theorem not_isUpper_of_mem_lowerChar {c d : Char} (h : d ∈ lowerChar c) : d.isUpper = false := by
  cases hc : c.isUpper with
  | true =>
      have hall : capitals.all (fun c => (lowerChar c).all fun d => !d.isUpper) = true := by decide
      have hsmall := List.all_eq_true.mp (List.all_eq_true.mp hall c (mem_capitals hc)) d h
      rwa [Bool.not_eq_true'] at hsmall
  | false =>
      rcases mem_lowerChar h with rfl | hlow
      · exact hc
      · exact not_isUpper_of_isLowered hlow

theorem not_isUpper_of_mem_lowercase {name : String} {d : Char} (h : d ∈ (Name.lowercase name).toList) :
    d.isUpper = false := by
  rw [Name.lowercase, String.toList_ofList] at h
  rcases mem_lowerAfter h with ⟨c, -, hd⟩ | hd
  · exact not_isUpper_of_mem_lowerChar hd
  · have hsigmas : ['\u03C2', '\u03C3'].all (fun c => !c.isUpper) = true := by decide
    simpa using List.all_eq_true.mp hsigmas d hd

/-- No character but itself and its capital is lowered to it; a k is also the small letter of the kelvin. -/
def plain (c : Char) : Bool := decide (0 < c.toNat) && decide (c.toNat < 0x80) && c != 'k'

theorem plain_iff {c : Char} : plain c = true ↔ 0 < c.toNat ∧ c.toNat < 0x80 ∧ c ≠ 'k' := by
  simp [plain, and_assoc]

theorem not_plain_of_smallOf {r : CapitalRun} (hr : r ∈ capitalRuns.tail) {n : Nat}
    (hc : r.contains n = true) : plain (Char.ofNat (r.smallOf n)) = false ∧ 0x80 ≤ n := by
  have hall : capitalRuns.tail.all (fun r => decide (0x80 ≤ r.first) &&
      (decide (0x80 ≤ r.image) || decide (r.image = 0x6B) && decide (r.first = r.last))) = true := by
    decide
  have hrun := List.all_eq_true.mp hall r hr
  simp only [CapitalRun.contains, Bool.and_eq_true, decide_eq_true_eq] at hc
  simp only [Bool.and_eq_true, Bool.or_eq_true, decide_eq_true_eq] at hrun
  refine ⟨Bool.eq_false_iff.mpr fun hplain => ?_, by omega⟩
  obtain ⟨hpos, hlow, hk⟩ := plain_iff.mp hplain
  have hnat : (Char.ofNat (r.smallOf n)).toNat = r.smallOf n := by
    rcases toNat_ofNat (r.smallOf n) with h | h
    · exact h
    · omega
  rw [hnat, CapitalRun.smallOf] at hlow
  rcases hrun.2 with himage | ⟨himage, hone⟩
  · omega
  · have hsmall : r.smallOf n = 0x6B := by
      rw [CapitalRun.smallOf]
      omega
    exact hk (by rw [hsmall])

theorem lowerChar_eq_iff {c d : Char} (h : plain d = true) : lowerChar c = [d] ↔ c.toLower = d := by
  cases hc : c.isUpper with
  | true => rw [lowerChar_of_isUpper hc, List.cons.injEq, and_iff_left rfl]
  | false =>
      have hsame : c.toLower = c := dif_neg (of_decide_eq_false hc)
      rw [hsame, lowerChar]
      split
      · rename_i hdotted
        subst hdotted
        simpa using fun hd => absurd (hd ▸ h) (by decide)
      · rw [List.cons.injEq, and_iff_left rfl]
        rcases smallCode_eq capitalRuns c.toNat with hsmall | ⟨r, hr, hcontains, hsmall⟩
        · rw [hsmall, Char.ofNat_toNat]
        · have htail : r ∈ capitalRuns.tail := by
            rcases List.mem_cons.mp hr with rfl | hr
            · simp only [CapitalRun.contains, Bool.and_eq_true, decide_eq_true_eq] at hcontains
              rw [isUpper_iff.mpr hcontains.1] at hc
              exact absurd hc.symm Bool.false_ne_true
            · exact hr
          obtain ⟨hnot, hwide⟩ := not_plain_of_smallOf htail hcontains
          rw [hsmall]
          constructor
          · rintro rfl
            rw [hnot] at h
            exact absurd h Bool.false_ne_true
          · rintro rfl
            have hbound := (plain_iff.mp h).2.1
            omega

def special : List Char := ['\u0130', '\u03A3']

theorem exists_not_plain_of_special (before : List Char) {c : Char} (h : c ∈ special) (after : List Char) :
    ∃ d ∈ lowerBetween before c after, plain d = false := by
  simp only [special, List.mem_cons, List.not_mem_nil, or_false] at h
  rcases h with rfl | rfl
  · exact ⟨'\u0307', by simp [lowerBetween, lowerChar], by decide⟩
  · rw [lowerBetween, if_pos rfl]
    split
    · exact ⟨_, List.mem_singleton_self _, by decide⟩
    · exact ⟨_, List.mem_singleton_self _, by decide⟩

theorem append_ne_of_not_plain {word cs ds : List Char} (h : word.all plain = true) {c : Char}
    (hc : c ∈ cs) (hnot : plain c = false) : cs ++ ds ≠ word := by
  rintro rfl
  rw [List.all_eq_true.mp h c (List.mem_append_left _ hc)] at hnot
  exact absurd hnot.symm Bool.false_ne_true

theorem lowerBetween_of_not_special {before after : List Char} {c : Char} (h : c ∉ special) :
    ∃ small, lowerBetween before c after = [small] ∧ lowerChar c = [small] := by
  simp only [special, List.mem_cons, List.not_mem_nil, or_false, not_or] at h
  rw [lowerBetween, if_neg h.2, lowerChar, if_neg h.1]
  exact ⟨_, rfl, rfl⟩

theorem lowerAfter_eq_iff {before cs word : List Char} (h : word.all plain = true) :
    lowerAfter before cs = word ↔ cs.map Char.toLower = word := by
  induction cs generalizing before word with
  | nil => rfl
  | cons c cs ih =>
      rw [lowerAfter, List.map_cons]
      by_cases hc : c ∈ special
      -- Neither side can be a word of plain characters.
      · obtain ⟨d, hd, hnot⟩ := exists_not_plain_of_special before hc cs
        have hsame : special.all (fun c => !plain c.toLower) = true := by decide
        have hlower : plain c.toLower = false := by simpa using List.all_eq_true.mp hsame c hc
        exact iff_of_false (append_ne_of_not_plain h hd hnot)
          (append_ne_of_not_plain h (List.mem_singleton_self _) hlower)
      obtain ⟨small, hbetween, hsmall⟩ := lowerBetween_of_not_special hc
      rw [hbetween, List.singleton_append]
      cases word with
      | nil => simp
      | cons d word =>
          simp only [List.all_cons, Bool.and_eq_true] at h
          have hchar := lowerChar_eq_iff (c := c) h.1
          rw [hsmall, List.cons.injEq, and_iff_left rfl] at hchar
          rw [List.cons.injEq, List.cons.injEq, hchar, ih h.2]

theorem lowercase_eq_iff {name word : String} (h : word.toList.all plain = true) :
    Name.lowercase name = word ↔ name.toLower = word := by
  have hlower : name.toLower.toList = name.toList.map Char.toLower := String.toList_map
  rw [← String.toList_inj, ← String.toList_inj, Name.lowercase, String.toList_ofList, hlower]
  exact lowerAfter_eq_iff h

end ActionLookup
