import ActionLookup.Proofs.Text.Avoidance

namespace ActionLookup.Text

/-- A text as it is written between quotes, and the text that is meant. -/
inductive Spelling : List Char → List Char → Prop
  | nil : Spelling [] []
  | plain {c : Char} {written meant : List Char} : c ≠ '"' → c ≠ '\\' → Spelling written meant →
      Spelling (c :: written) (c :: meant)
  | escaped {c d : Char} {written meant : List Char} : unescape c = some d →
      Spelling written meant → Spelling ('\\' :: c :: written) (d :: meant)

theorem readQuotedTail_of_spelling {written meant : List Char} (h : Spelling written meant)
    (rest : List Char) : readQuotedTail (written ++ '"' :: rest) = some (meant, rest) := by
  induction h with
  | nil => simp [readQuotedTail]
  | plain hquote hback _ ih =>
      rw [List.cons_append, readQuotedTail, ih]
      · rfl
      · exact hquote
      · intro _ _ hc
        exact absurd hc hback
      · intro hc
        exact absurd hc hback
  | escaped hd _ ih => simp [readQuotedTail, hd, ih]

theorem spelling_of_readQuotedTail {text meant rest : List Char}
    (h : readQuotedTail text = some (meant, rest)) :
    ∃ written, Spelling written meant ∧ text = written ++ '"' :: rest := by
  fun_induction readQuotedTail text generalizing meant rest with
  | case1 => cases h
  | case2 tail =>
      cases h
      exact ⟨[], .nil, rfl⟩
  | case3 c tail d inner after hread hd ih =>
      cases h
      obtain ⟨written, hspelling, htail⟩ := ih hread
      exact ⟨'\\' :: c :: written, .escaped hd hspelling, by rw [htail]; rfl⟩
  | case4 c tail hnone ih => cases h
  | case5 => cases h
  | case6 c tail hquote hpair hlone ih =>
      -- A backslash with a character behind it, or with none, was a case of its own.
      have hback : c ≠ '\\' := by
        intro hc
        cases tail with
        | nil => exact hlone hc rfl
        | cons d tail => exact hpair d tail hc rfl
      obtain ⟨⟨inner, after⟩, hread, hboth⟩ := Option.map_eq_some_iff.mp h
      cases hboth
      obtain ⟨written, hspelling, htail⟩ := ih hread
      exact ⟨c :: written, .plain hquote hback hspelling, by rw [htail]; rfl⟩

def readText (text : String) : Option (String × String) :=
  (readQuoted text.toList).map fun (meant, rest) => (String.ofList meant, String.ofList rest)

theorem readQuoted_eq_some_iff {text meant rest : List Char} :
    readQuoted text = some (meant, rest) ↔
      ∃ written, Spelling written meant ∧ text = '"' :: (written ++ '"' :: rest) := by
  constructor
  · intro h
    unfold readQuoted at h
    split at h
    · obtain ⟨written, hspelling, rfl⟩ := spelling_of_readQuotedTail h
      exact ⟨written, hspelling, rfl⟩
    · cases h
  · rintro ⟨written, hspelling, rfl⟩
    exact readQuotedTail_of_spelling hspelling rest

theorem readText_eq_some_iff {text meant rest : String} :
    readText text = some (meant, rest) ↔
      ∃ written, Spelling written meant.toList ∧
        text.toList = '"' :: (written ++ '"' :: rest.toList) := by
  rw [← readQuoted_eq_some_iff, readText, Option.map_eq_some_iff]
  constructor
  · rintro ⟨⟨inner, after⟩, hread, hboth⟩
    obtain ⟨rfl, rfl⟩ := Prod.mk.inj hboth
    simpa only [String.toList_ofList] using hread
  · intro hread
    exact ⟨_, hread, by simp only [String.ofList_toList]⟩

theorem readText_quote (name rest : String) : readText (quote name ++ rest) = some (name, rest) := by
  simp only [readText, quote, String.toList_append, String.toList_ofList, read_quote, Option.map_some,
    String.ofList_toList]

theorem eq_of_isPrefix_quote {name other : String}
    (h : (quote name).toList <+: (quote other).toList) : name = other := by
  obtain ⟨rest, hrest⟩ := h
  have hboth : quote name ++ String.ofList rest = quote other ++ "" := by
    apply String.toList_inj.mp
    simpa using hrest
  have hread := readText_quote name (String.ofList rest)
  rw [hboth, readText_quote] at hread
  exact (Prod.mk.inj (Option.some.inj hread)).1.symm

theorem quote_delimits :
    (∀ text meant rest : String, readText text = some (meant, rest) ↔
      ∃ written, Spelling written meant.toList ∧
        text.toList = '"' :: (written ++ '"' :: rest.toList)) ∧
    (∀ name rest : String, readText (quote name ++ rest) = some (name, rest)) ∧
    (∀ name other : String, quote name = quote other → name = other) ∧
    (∀ name other : String, (quote name).toList <+: (quote other).toList →
      quote name = quote other) ∧
    ∀ name : String, Avoids ['\n', '\r', '\t'] (quote name) := by
  refine ⟨fun _ _ _ => readText_eq_some_iff, readText_quote, fun _ _ => quote_injective,
    fun name other h => ?_, Avoids.quote (List.Subset.refl _)⟩
  rw [eq_of_isPrefix_quote h]

end ActionLookup.Text
