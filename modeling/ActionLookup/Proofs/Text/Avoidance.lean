import ActionLookup.Accessor.Draft
import ActionLookup.Text.Quoted

namespace ActionLookup

open Text

def blanks : List Char := [' ', '\n', '\r', '\t']

def foreign : List Char := blanks ++ ['"', '\x7b', '\x7d', '(', ')']

def newLines : List Char := ['\n', '\r', '\u0085', '\u2028', '\u2029']

def separators : List Char := '\t' :: newLines

def Avoids (forbidden : List Char) (text : String) : Prop := ∀ c ∈ text.toList, c ∉ forbidden

namespace Avoids

variable {forbidden : List Char}

@[simp] theorem append_iff {a b : String} :
    Avoids forbidden (a ++ b) ↔ Avoids forbidden a ∧ Avoids forbidden b := by
  simp [Avoids, or_imp, forall_and]

theorem mono {more : List Char} (h : forbidden ⊆ more) {text : String} (ha : Avoids more text) :
    Avoids forbidden text := fun c hc hf => ha c hc (h hf)

theorem identifier (h : forbidden.all (fun c => !Name.continues c) = true) {name : String}
    (hn : Name.isIdentifier name = true) : Avoids forbidden name := by
  intro c hc hf
  have hcont := Name.continues_of_mem_identifier hn c hc
  have hnot := List.all_eq_true.mp h c hf
  rw [hcont] at hnot
  exact Bool.false_ne_true hnot

theorem of_isIdentifier {name : String} (hn : Name.isIdentifier name = true) : Avoids foreign name :=
  identifier (by decide) hn

theorem separators_of_isIdentifier {name : String} (hn : Name.isIdentifier name = true) :
    Avoids separators name :=
  identifier (by decide +kernel) hn

theorem stripped (h : forbidden.all isBlank = true) (name : String) :
    Avoids forbidden (Name.strip name) := by
  intro c hc hf
  have hblank := Name.not_isBlank_of_mem_strip hc
  rw [List.all_eq_true.mp h c hf] at hblank
  exact Bool.false_ne_true hblank.symm

theorem strip (name : String) : Avoids blanks (Name.strip name) := stripped (by decide) name

theorem tabs (h : '\t' ∉ forbidden) (depth : Nat) : Avoids forbidden (tabs depth) := by
  intro c hc hf
  have htab : c = '\t' := by
    simp only [Text.tabs, String.toList_ofList] at hc
    exact List.eq_of_mem_replicate hc
  exact h (htab ▸ hf)

end Avoids

theorem escape_eq (c : Char) :
    (∃ d ∈ ['\\', '"', 'n', 'r', 't'], escape c = ['\\', d]) ∨
      (c ∉ ['\\', '"', '\n', '\r', '\t'] ∧ escape c = [c]) := by
  unfold escape
  split
  · exact .inl ⟨'\\', by decide, rfl⟩
  split
  · exact .inl ⟨'"', by decide, rfl⟩
  split
  · exact .inl ⟨'n', by decide, rfl⟩
  split
  · exact .inl ⟨'r', by decide, rfl⟩
  split
  · exact .inl ⟨'t', by decide, rfl⟩
  · rename_i hback hquote hline hreturn htab
    exact .inr ⟨by simp [hback, hquote, hline, hreturn, htab], rfl⟩

theorem not_mem_escape {c d : Char} (h : d ∈ ['\n', '\r', '\t']) : d ∉ escape c := by
  intro hd
  rcases escape_eq c with ⟨letter, hletter, hc⟩ | ⟨hplain, hc⟩
  · have hletters : d ∈ ['\\', '"', 'n', 'r', 't'] := by
      rw [hc] at hd
      rcases List.mem_cons.mp hd with rfl | hd
      · exact List.mem_cons_self ..
      · exact List.mem_singleton.mp hd ▸ hletter
    revert hletters
    simp only [List.mem_cons, List.not_mem_nil, or_false] at h
    rcases h with rfl | rfl | rfl <;> decide
  · rw [hc, List.mem_singleton] at hd
    exact hplain (hd ▸ List.mem_cons_of_mem _ (List.mem_cons_of_mem _ h))

theorem Avoids.quote {forbidden : List Char} (h : forbidden ⊆ ['\n', '\r', '\t']) (name : String) :
    Avoids forbidden (quote name) := by
  intro c hc hf
  simp only [Text.quote, quoteChars, String.toList_ofList, List.cons_append, List.mem_cons,
    List.mem_append, List.mem_flatMap, List.not_mem_nil, or_false] at hc
  rcases hc with rfl | ⟨d, _, hd⟩ | rfl
  · exact absurd (h hf) (by decide)
  · exact not_mem_escape (h hf) hd
  · exact absurd (h hf) (by decide)

/-- What lowering may bring in: small letters, the dot of a capital I, the two small sigmas. -/
def loweredRanges : RangeTable :=
  (0x0000, 0x0000) :: (0x0069, 0x0069) :: (0x0307, 0x0307) :: (0x03C2, 0x03C3) ::
    capitalRuns.map fun r => (r.image, r.smallOf r.last)

def isLowered (c : Char) : Bool :=
  loweredRanges.any fun r => decide (r.1 ≤ c.toNat) && decide (c.toNat ≤ r.2)

theorem toNat_ofNat (n : Nat) : (Char.ofNat n).toNat = n ∨ (Char.ofNat n).toNat = 0 := by
  by_cases hv : n.isValidChar
  · rw [Char.ofNat, dif_pos hv]
    exact .inl rfl
  · rw [Char.ofNat, dif_neg hv]
    exact .inr rfl

theorem isLowered_of_smallOf {r : CapitalRun} (hr : r ∈ capitalRuns) {n : Nat}
    (hc : r.contains n = true) : isLowered (Char.ofNat (r.smallOf n)) = true := by
  simp only [CapitalRun.contains, Bool.and_eq_true, decide_eq_true_eq] at hc
  unfold isLowered
  rcases toNat_ofNat (r.smallOf n) with hnat | hnat
  · refine List.any_eq_true.mpr ⟨(r.image, r.smallOf r.last), ?_, ?_⟩
    · exact List.mem_cons_of_mem _ (List.mem_cons_of_mem _ (List.mem_cons_of_mem _
        (List.mem_cons_of_mem _ (List.mem_map_of_mem hr))))
    · have hlow : r.image ≤ r.smallOf n := Nat.le_add_right ..
      have hhigh : r.smallOf n ≤ r.smallOf r.last :=
        Nat.add_le_add_left (Nat.sub_le_sub_right hc.1.2 _) _
      simp [hnat, hlow, hhigh]
  · exact List.any_eq_true.mpr ⟨(0, 0), List.mem_cons_self .., by simp [hnat]⟩

theorem mem_lowerChar {c d : Char} (h : d ∈ lowerChar c) : d = c ∨ isLowered d = true := by
  unfold lowerChar at h
  split at h
  · simp only [List.mem_cons, List.not_mem_nil, or_false] at h
    rcases h with rfl | rfl <;> exact .inr (by decide)
  · rw [List.mem_singleton] at h
    subst h
    rcases smallCode_eq capitalRuns c.toNat with h | ⟨r, hr, hc, h⟩
    · exact .inl (by rw [h, Char.ofNat_toNat])
    · exact .inr (h ▸ isLowered_of_smallOf hr hc)

theorem mem_lowerAfter {before cs : List Char} {d : Char} (h : d ∈ lowerAfter before cs) :
    (∃ c ∈ cs, d ∈ lowerChar c) ∨ d ∈ ['\u03C2', '\u03C3'] := by
  induction cs generalizing before with
  | nil => simp [lowerAfter] at h
  | cons c cs ih =>
      rcases List.mem_append.mp h with h | h
      · unfold lowerBetween at h
        split at h
        · rw [List.mem_singleton] at h
          subst h
          exact .inr (by split <;> decide)
        · exact .inl ⟨c, List.mem_cons_self .., h⟩
      · exact (ih h).imp_left fun ⟨e, he, hd⟩ => ⟨e, List.mem_cons_of_mem _ he, hd⟩

theorem Avoids.lowercase {forbidden : List Char} (h : forbidden.all (fun c => !isLowered c) = true)
    {name : String} (hn : Avoids forbidden name) : Avoids forbidden (Name.lowercase name) := by
  intro d hd hf
  have hnot : isLowered d = false := by simpa using List.all_eq_true.mp h d hf
  rw [Name.lowercase, String.toList_ofList] at hd
  rcases mem_lowerAfter hd with ⟨c, hc, hd⟩ | hd
  · rcases mem_lowerChar hd with rfl | hlow
    · exact hn d hc hf
    · rw [hlow] at hnot
      exact absurd hnot.symm Bool.false_ne_true
  · have hsigmas : ['\u03C2', '\u03C3'].all isLowered = true := by decide
    rw [List.all_eq_true.mp hsigmas d hd] at hnot
    exact absurd hnot.symm Bool.false_ne_true

end ActionLookup
