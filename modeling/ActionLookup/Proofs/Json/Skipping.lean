import ActionLookup.Proofs.Json.Strings

/-!
Any value is passed over, however deep, and exactly its own text: what is left starts where the
value ends. Only a number needs to be told where it ends.
-/

namespace ActionLookup.Json

variable {c : Char} {gap key value cs rest : List Char} {fuel : Nat}

theorem isGap_iff : isGap c = true ↔ c ∈ [' ', '\t', '\n', '\r'] := by
  simp only [isGap, Bool.or_eq_true, beq_iff_eq, List.mem_cons, List.not_mem_nil, or_false]
  tauto

theorem Gap.nil : Gap [] := nofun

theorem dropGap_append (h : Gap gap) (rest : List Char) : dropGap (gap ++ rest) = dropGap rest := by
  induction gap with
  | nil => rfl
  | cons c gap ih =>
    obtain ⟨hc, hgap⟩ := List.forall_mem_cons.mp h
    rw [List.cons_append, dropGap, List.dropWhile_cons_of_pos (isGap_iff.mpr hc)]
    exact ih hgap

theorem dropGap_cons (h : Gap gap) (hc : isGap c = false) (rest : List Char) :
    dropGap (gap ++ c :: rest) = c :: rest := by
  rw [dropGap_append h, dropGap, List.dropWhile_cons_of_neg (by simp [hc])]

/-- What may stand behind a value: the end, a gap, a comma or a closing bracket. -/
def Ends (rest : List Char) : Prop :=
  ∀ c more, rest = c :: more → c ∈ [' ', '\t', '\n', '\r', ',', ']', '\x7d']

theorem ends_cons (h : c ∈ [' ', '\t', '\n', '\r', ',', ']', '\x7d']) (rest : List Char) :
    Ends (c :: rest) := by
  rintro _ _ ⟨⟩
  exact h

theorem Gap.ends_append (hgap : Gap gap) (h : Ends rest) : Ends (gap ++ rest) := by
  cases gap with
  | nil => exact h
  | cons c gap =>
    have hc := hgap c List.mem_cons_self
    refine ends_cons ?_ _
    simp only [List.mem_cons] at hc ⊢
    tauto

theorem Gap.ends_items {items : List (List Char)} {closing : Char} (hgap : Gap gap)
    (hclosing : closing ∈ [']', '\x7d']) (rest : List Char) :
    Ends (gap ++ (items.flatMap (',' :: ·) ++ closing :: rest)) := by
  refine hgap.ends_append ?_
  cases items with
  | nil =>
    refine ends_cons ?_ rest
    simp only [List.mem_cons] at hclosing ⊢
    tauto
  | cons item items => exact ends_cons (by simp) _

/-! ### Numbers -/

theorem isDigit_of_mem (h : c ∈ digits) : isDigit c = true := by
  have hall : (digits.all isDigit) = true := by decide
  exact List.all_eq_true.mp hall c h

theorem mem_digits (hlow : '0'.toNat ≤ c.toNat) (hhigh : c.toNat ≤ '9'.toNat) : c ∈ digits := by
  have hall : ((List.range ('9'.toNat + 1)).all fun n =>
      decide (n < '0'.toNat) || decide (Char.ofNat n ∈ digits)) = true := by decide
  have hc := List.all_eq_true.mp hall c.toNat (List.mem_range.mpr (Nat.lt_succ_of_le hhigh))
  rw [decide_eq_false (Nat.not_lt.mpr hlow), Bool.false_or, Char.ofNat_toNat] at hc
  exact of_decide_eq_true hc

theorem Ends.startsWithDigit (h : Ends rest) : startsWithDigit rest = false := by
  cases rest with
  | nil => rfl
  | cons c more =>
    have hall : ([' ', '\t', '\n', '\r', ',', ']', '\x7d'].all fun c => !isDigit c) = true := by decide
    simpa [Json.startsWithDigit] using List.all_eq_true.mp hall c (h c more rfl)

theorem dropDigits_append (h : AreDigits cs) (hrest : startsWithDigit rest = false) :
    dropDigits (cs ++ rest) = rest := by
  induction cs with
  | nil =>
    cases rest with
    | nil => rfl
    | cons c more => exact List.dropWhile_cons_of_neg (by simpa [startsWithDigit] using hrest)
  | cons c cs ih =>
    obtain ⟨hc, hcs⟩ := List.forall_mem_cons.mp h
    rw [List.cons_append, dropDigits, List.dropWhile_cons_of_pos (isDigit_of_mem hc)]
    exact ih hcs

theorem skipDigits1_append (hc : c ∈ digits) (h : AreDigits cs) (hrest : startsWithDigit rest = false) :
    skipDigits1 (c :: (cs ++ rest)) = .ok rest := by
  have hall : AreDigits (c :: cs) := List.forall_mem_cons.mpr ⟨hc, h⟩
  rw [skipDigits1, if_pos (show startsWithDigit (c :: (cs ++ rest)) = true from isDigit_of_mem hc)]
  exact congrArg Except.ok (dropDigits_append hall hrest)

theorem exponentSign_append {sign : List Char} (hsign : sign ∈ [[], ['+'], ['-']]) (hc : c ∈ digits)
    (rest : List Char) : (exponentSign (sign ++ c :: rest)).2 = c :: rest := by
  simp only [List.mem_cons, List.not_mem_nil, or_false] at hsign
  rcases hsign with rfl | rfl | rfl
  · have hdigit := isDigit_of_mem hc
    unfold exponentSign
    split
    · rename_i hplus
      obtain rfl := (List.cons.inj hplus).1
      exact absurd hdigit (by decide)
    · rename_i hminus
      obtain rfl := (List.cons.inj hminus).1
      exact absurd hdigit (by decide)
    · rfl
  · rfl
  · rfl

theorem skipExponent_append {exponent : List Char} (h : IsExponent exponent) (hrest : Ends rest) :
    skipExponent (exponent ++ rest) = .ok rest := by
  cases h with
  | absent =>
    cases rest with
    | nil => rfl
    | cons c more =>
      have hc := hrest c more rfl
      simp only [List.mem_cons, List.not_mem_nil, or_false] at hc
      rcases hc with rfl | rfl | rfl | rfl | rfl | rfl | rfl <;> rfl
  | present he hsign hc hmore =>
    simp only [List.mem_cons, List.not_mem_nil, or_false] at he
    have hdone := skipDigits1_append hc hmore hrest.startsWithDigit
    rcases he with rfl | rfl <;>
      simpa only [List.cons_append, List.append_assoc, skipExponent, exponentSign_append hsign hc] using hdone

theorem IsExponent.startsWithDigit {exponent : List Char} (h : IsExponent exponent) (hrest : Ends rest) :
    startsWithDigit (exponent ++ rest) = false := by
  cases h with
  | absent => exact hrest.startsWithDigit
  | present he =>
    simp only [List.mem_cons, List.not_mem_nil, or_false] at he
    rcases he with rfl | rfl <;> rfl

theorem skipAfterInteger_of_ne (h : ∀ more, cs ≠ '.' :: more) : skipAfterInteger cs = skipExponent cs := by
  unfold skipAfterInteger
  split
  · exact absurd rfl (h _)
  · rfl

theorem skipAfterInteger_append {fraction exponent : List Char} (hfraction : IsFraction fraction)
    (hexponent : IsExponent exponent) (hrest : Ends rest) :
    skipAfterInteger (fraction ++ (exponent ++ rest)) = .ok rest := by
  have hdone := skipExponent_append hexponent hrest
  cases hfraction with
  | absent =>
    rw [List.nil_append, skipAfterInteger_of_ne, hdone]
    intro more hpoint
    cases hexponent with
    | absent => exact absurd (hrest '.' more hpoint) (by decide)
    | present he =>
      obtain rfl := (List.cons.inj hpoint).1
      exact absurd he (by decide)
  | present hc hmore =>
    simp only [List.cons_append, skipAfterInteger,
      skipDigits1_append hc hmore (hexponent.startsWithDigit hrest), hdone]

theorem startsWithDigit_after_whole {fraction exponent : List Char} (hfraction : IsFraction fraction)
    (hexponent : IsExponent exponent) (hrest : Ends rest) :
    startsWithDigit (fraction ++ (exponent ++ rest)) = false := by
  cases hfraction with
  | absent => exact hexponent.startsWithDigit hrest
  | present => rfl

theorem digit?_of_mem_nonzeroDigits (h : c ∈ nonzeroDigits) : ∃ n, digit? c = some (n + 1) := by
  simp only [nonzeroDigits, List.mem_cons, List.not_mem_nil, or_false] at h
  rcases h with rfl | rfl | rfl | rfl | rfl | rfl | rfl | rfl | rfl <;> exact ⟨_, rfl⟩

theorem skipNumber_append {whole fraction exponent : List Char} (hwhole : IsWhole whole)
    (hfraction : IsFraction fraction) (hexponent : IsExponent exponent) (hrest : Ends rest) :
    skipNumber (whole ++ (fraction ++ (exponent ++ rest))) = .ok rest := by
  have hstop := startsWithDigit_after_whole hfraction hexponent hrest
  have hdone := skipAfterInteger_append hfraction hexponent hrest
  cases hwhole with
  | zero =>
    have hzero : digit? '0' = some 0 := rfl
    simp [skipNumber, hzero, hstop, hdone]
  | @positive c more hc hmore =>
    obtain ⟨n, hn⟩ := digit?_of_mem_nonzeroDigits hc
    simp only [List.cons_append, skipNumber, hn]
    rw [dropDigits_append hmore hstop, hdone]

/-! ### Values -/

theorem readWord_append (word rest : List Char) : readWord word (word ++ rest) = .ok rest := by
  induction word with
  | nil => rfl
  | cons c word ih =>
    rw [List.cons_append, readWord, if_pos rfl, ih]

theorem readColon_append (h : Gap gap) (rest : List Char) : readColon (gap ++ ':' :: rest) = .ok rest := by
  rw [readColon, dropGap_cons h rfl]
  rfl

theorem skipKey_append {after : List Char} (hgap : Gap gap) (hkey : IsString key) (hafter : Gap after)
    (rest : List Char) : skipKey (gap ++ (key ++ (after ++ ':' :: rest))) = .ok rest := by
  obtain ⟨inside, rfl, hinside⟩ := skipString_append hkey (after ++ ':' :: rest)
  rw [List.cons_append, skipKey, dropGap_cons hgap rfl]
  simp only [hinside, readColon_append hafter]

theorem skipValue_gap (h : Gap gap) (cs : List Char) :
    skipValue (fuel + 1) (gap ++ cs) = skipValue (fuel + 1) cs := by
  rw [skipValue, skipValue, dropGap_append h]

theorem skipElements_gap (h : Gap gap) (cs : List Char) :
    skipElements (fuel + 1) (gap ++ cs) = skipElements (fuel + 1) cs := by
  rw [skipElements, skipElements, dropGap_append h]

theorem skipMembers_gap (h : Gap gap) (cs : List Char) :
    skipMembers (fuel + 1) (gap ++ cs) = skipMembers (fuel + 1) cs := by
  rw [skipMembers, skipMembers, dropGap_append h]

theorem skipElements_comma {tail : List Char} (h : skipValue fuel cs = .ok tail) :
    skipElements (fuel + 1) (',' :: cs) = skipElements fuel tail := by
  have hopen : dropGap (',' :: cs) = ',' :: cs := rfl
  rw [skipElements, hopen]
  simp only [h]

theorem skipMembers_comma {named tail : List Char} (hkey : skipKey cs = .ok named)
    (h : skipValue fuel named = .ok tail) :
    skipMembers (fuel + 1) (',' :: cs) = skipMembers fuel tail := by
  have hopen : dropGap (',' :: cs) = ',' :: cs := rfl
  rw [skipMembers, hopen]
  simp only [hkey, h]

def Skips (value : List Char) : Prop :=
  ∀ (fuel : Nat) {gap rest : List Char}, value.length < fuel → Gap gap → Ends rest →
    skipValue fuel (gap ++ (value ++ rest)) = .ok rest

theorem skips_literal (h : value ∈ literals) : Skips value := by
  intro fuel gap rest hfuel hgap _
  obtain ⟨fuel, rfl⟩ := Nat.exists_eq_add_one.mpr (Nat.zero_lt_of_lt hfuel)
  simp only [literals, List.mem_cons, List.not_mem_nil, or_false] at h
  rw [skipValue_gap hgap]
  rcases h with rfl | rfl | rfl <;> exact readWord_append _ rest

theorem skips_string (h : IsString value) : Skips value := by
  intro fuel gap rest hfuel hgap _
  obtain ⟨fuel, rfl⟩ := Nat.exists_eq_add_one.mpr (Nat.zero_lt_of_lt hfuel)
  obtain ⟨inside, rfl, hinside⟩ := skipString_append h rest
  rw [skipValue_gap hgap]
  exact hinside

theorem skipValue_digit (hgap : Gap gap) (hc : c ∈ digits) (rest : List Char) :
    skipValue (fuel + 1) (gap ++ c :: rest) = skipNumber (c :: rest) := by
  simp only [digits, nonzeroDigits, List.mem_cons, List.not_mem_nil, or_false] at hc
  rw [skipValue_gap hgap]
  rcases hc with rfl | rfl | rfl | rfl | rfl | rfl | rfl | rfl | rfl | rfl <;> rfl

theorem IsWhole.head {whole : List Char} (h : IsWhole whole) :
    ∃ c more, whole = c :: more ∧ c ∈ digits := by
  cases h with
  | zero => exact ⟨_, _, rfl, List.mem_cons_self⟩
  | positive hc => exact ⟨_, _, rfl, List.mem_cons_of_mem _ hc⟩

theorem skips_number (h : IsNumber value) : Skips value := by
  obtain ⟨sign, whole, fraction, exponent, hsign, hwhole, hfraction, hexponent, rfl⟩ := h
  intro fuel gap rest hfuel hgap hrest
  obtain ⟨fuel, rfl⟩ := Nat.exists_eq_add_one.mpr (Nat.zero_lt_of_lt hfuel)
  have hdone := skipNumber_append hwhole hfraction hexponent hrest
  simp only [List.mem_cons, List.not_mem_nil, or_false] at hsign
  simp only [List.append_assoc]
  rcases hsign with rfl | rfl
  · obtain ⟨c, more, rfl, hc⟩ := hwhole.head
    simpa only [List.nil_append, List.cons_append, skipValue_digit hgap hc] using hdone
  · rw [skipValue_gap hgap]
    exact hdone

theorem Enclosed.head {α : Type} {opening closing : Char} {W : α → List Char → Prop} {as : List α}
    (h : Enclosed opening closing W as cs) : ∃ more, cs = opening :: more := by
  cases h with
  | empty => exact ⟨_, rfl⟩
  | items => exact ⟨_, rfl⟩

theorem opens_of_mem_digits (h : c ∈ digits) : isGap c = false ∧ c ≠ ']' := by
  have hall : (digits.all fun c => !isGap c && c != ']') = true := by decide
  simpa using List.all_eq_true.mp hall c h

/-- Neither a gap nor the end of a list can be taken for the start of the value. -/
def Opens (value : List Char) : Prop := ∃ c more, value = c :: more ∧ isGap c = false ∧ c ≠ ']'

theorem IsValue.opens (h : IsValue value) : Opens value := by
  cases h with
  | literal hword =>
    simp only [literals, List.mem_cons, List.not_mem_nil, or_false] at hword
    rcases hword with rfl | rfl | rfl <;> exact ⟨_, _, rfl, rfl, by decide⟩
  | number hnumber =>
    obtain ⟨sign, whole, fraction, exponent, hsign, hwhole, _, _, rfl⟩ := hnumber
    simp only [List.mem_cons, List.not_mem_nil, or_false] at hsign
    rcases hsign with rfl | rfl
    · obtain ⟨c, more, rfl, hc⟩ := hwhole.head
      exact ⟨c, _, rfl, opens_of_mem_digits hc⟩
    · exact ⟨'-', _, rfl, rfl, by decide⟩
  | string hstring =>
    obtain ⟨pieces, _, rfl⟩ := hstring
    exact ⟨'"', _, rfl, rfl, by decide⟩
  | array _ henclosed =>
    obtain ⟨more, rfl⟩ := henclosed.head
    exact ⟨'[', more, rfl, rfl, by decide⟩
  | object _ _ henclosed =>
    obtain ⟨more, rfl⟩ := henclosed.head
    exact ⟨'\x7b', more, rfl, rfl, by decide⟩

theorem skipElements_items {values items : List (List Char)} (hskips : ∀ value ∈ values, Skips value)
    (h : List.Forall₂ (Padded Eq) values items) (hgap : Gap gap)
    (hfuel : (gap ++ items.flatMap (',' :: ·)).length < fuel) :
    skipElements fuel (gap ++ (items.flatMap (',' :: ·) ++ ']' :: rest)) = .ok rest := by
  -- The gap behind an item is what stands in front of the next comma.
  induction h generalizing fuel gap with
  | nil =>
    obtain ⟨fuel, rfl⟩ := Nat.exists_eq_add_one.mpr (Nat.zero_lt_of_lt hfuel)
    rw [List.flatMap_nil, List.nil_append, skipElements_gap hgap]
    rfl
  | @cons value item values items hitem _ ih =>
    obtain ⟨hskip, hmore⟩ := List.forall_mem_cons.mp hskips
    obtain ⟨before, _, after, hbefore, rfl, hafter, rfl⟩ := hitem
    simp only [List.flatMap_cons, List.cons_append, List.append_assoc, List.length_append,
      List.length_cons] at hfuel ⊢
    obtain ⟨fuel, rfl⟩ := Nat.exists_eq_add_one.mpr (Nat.zero_lt_of_lt hfuel)
    have hends : Ends (after ++ (items.flatMap (',' :: ·) ++ ']' :: rest)) :=
      hafter.ends_items (by simp) rest
    rw [skipElements_gap hgap, skipElements_comma (hskip fuel (by omega) hbefore hends)]
    exact ih hmore hafter (by simp only [List.length_append]; omega)

theorem skipMembers_items {members : List (List Char × List Char)} {items : List (List Char)}
    (hkeys : ∀ member ∈ members, IsString member.1) (hskips : ∀ member ∈ members, Skips member.2)
    (h : List.Forall₂ (Keyed Eq) members items) (hgap : Gap gap)
    (hfuel : (gap ++ items.flatMap (',' :: ·)).length < fuel) :
    skipMembers fuel (gap ++ (items.flatMap (',' :: ·) ++ '\x7d' :: rest)) = .ok rest := by
  induction h generalizing fuel gap with
  | nil =>
    obtain ⟨fuel, rfl⟩ := Nat.exists_eq_add_one.mpr (Nat.zero_lt_of_lt hfuel)
    rw [List.flatMap_nil, List.nil_append, skipMembers_gap hgap]
    rfl
  | @cons member item members items hitem _ ih =>
    obtain ⟨hkey, hmorekeys⟩ := List.forall_mem_cons.mp hkeys
    obtain ⟨hskip, hmore⟩ := List.forall_mem_cons.mp hskips
    obtain ⟨_, _, ⟨before, _, between, hbefore, rfl, hbetween, rfl⟩,
      ⟨lead, _, after, hlead, rfl, hafter, rfl⟩, rfl⟩ := hitem
    simp only [List.flatMap_cons, List.cons_append, List.append_assoc, List.length_append,
      List.length_cons] at hfuel ⊢
    obtain ⟨fuel, rfl⟩ := Nat.exists_eq_add_one.mpr (Nat.zero_lt_of_lt hfuel)
    have hends : Ends (after ++ (items.flatMap (',' :: ·) ++ '\x7d' :: rest)) :=
      hafter.ends_items (by simp) rest
    have hnamed := skipKey_append hbefore hkey hbetween
      (lead ++ (member.2 ++ (after ++ (items.flatMap (',' :: ·) ++ '\x7d' :: rest))))
    rw [skipMembers_gap hgap, skipMembers_comma hnamed (hskip fuel (by omega) hlead hends)]
    exact ih hmorekeys hmore hafter (by simp only [List.length_append]; omega)

theorem skipValue_array {inside more tail : List Char} (hgap : Gap gap) (hopen : dropGap inside = c :: more)
    (hc : c ≠ ']') (hfirst : skipValue fuel (c :: more) = .ok tail)
    (hothers : skipElements fuel tail = .ok rest) :
    skipValue (fuel + 1) (gap ++ '[' :: inside) = .ok rest := by
  rw [skipValue, dropGap_cons hgap rfl]
  simp only [hopen]
  split
  · rename_i hnil
    exact nomatch hnil
  · rename_i hclose
    exact absurd (List.cons.inj hclose).1 hc
  · rw [hfirst]
    exact hothers

theorem skipValue_object {inside more named tail : List Char} (hgap : Gap gap)
    (hopen : dropGap inside = '"' :: more) (hkey : skipKey ('"' :: more) = .ok named)
    (hfirst : skipValue fuel named = .ok tail) (hothers : skipMembers fuel tail = .ok rest) :
    skipValue (fuel + 1) (gap ++ '\x7b' :: inside) = .ok rest := by
  rw [skipValue, dropGap_cons hgap rfl]
  simp only [hopen]
  split
  · rename_i hnil
    exact nomatch hnil
  · rename_i hclose
    exact absurd (List.cons.inj hclose).1 (by decide)
  · simp only [hkey, hfirst]
    exact hothers

theorem skips_array {values : List (List Char)} (hvalues : ∀ value ∈ values, IsValue value)
    (hskips : ∀ value ∈ values, Skips value) (h : Enclosed '[' ']' (Padded Eq) values cs) : Skips cs := by
  intro fuel gap rest hfuel hgap _
  obtain ⟨fuel, rfl⟩ := Nat.exists_eq_add_one.mpr (Nat.zero_lt_of_lt hfuel)
  cases h with
  | empty hinner =>
    simp only [List.cons_append, List.append_assoc, List.nil_append]
    rw [skipValue, dropGap_cons hgap rfl]
    simp only [dropGap_cons hinner (show isGap ']' = false from rfl)]
  | @items value values item items hitem hitems =>
    obtain ⟨hvalue, _⟩ := List.forall_mem_cons.mp hvalues
    obtain ⟨hskip, hmore⟩ := List.forall_mem_cons.mp hskips
    obtain ⟨before, _, after, hbefore, rfl, hafter, rfl⟩ := hitem
    simp only [List.cons_append, List.append_assoc, List.nil_append, List.length_append,
      List.length_cons] at hfuel ⊢
    have hends : Ends (after ++ (items.flatMap (',' :: ·) ++ ']' :: rest)) :=
      hafter.ends_items (by simp) rest
    have hfirst := hskip fuel (by omega) Gap.nil hends
    obtain ⟨c, inside, rfl, hc, hopen⟩ := hvalue.opens
    refine skipValue_array hgap (dropGap_cons hbefore hc _) hopen hfirst ?_
    exact skipElements_items hmore hitems hafter (by simp only [List.length_append]; omega)

theorem skips_object {members : List (List Char × List Char)}
    (hkeys : ∀ member ∈ members, IsString member.1) (hskips : ∀ member ∈ members, Skips member.2)
    (h : Enclosed '\x7b' '\x7d' (Keyed Eq) members cs) : Skips cs := by
  intro fuel gap rest hfuel hgap _
  obtain ⟨fuel, rfl⟩ := Nat.exists_eq_add_one.mpr (Nat.zero_lt_of_lt hfuel)
  cases h with
  | empty hinner =>
    simp only [List.cons_append, List.append_assoc, List.nil_append]
    rw [skipValue, dropGap_cons hgap rfl]
    simp only [dropGap_cons hinner (show isGap '\x7d' = false from rfl)]
  | @items member members item items hitem hitems =>
    obtain ⟨hkey, hmorekeys⟩ := List.forall_mem_cons.mp hkeys
    obtain ⟨hskip, hmore⟩ := List.forall_mem_cons.mp hskips
    obtain ⟨_, _, ⟨before, key, between, hbefore, rfl, hbetween, rfl⟩,
      ⟨lead, _, after, hlead, rfl, hafter, rfl⟩, rfl⟩ := hitem
    simp only [List.cons_append, List.append_assoc, List.nil_append, List.length_append,
      List.length_cons] at hfuel ⊢
    have hends : Ends (after ++ (items.flatMap (',' :: ·) ++ '\x7d' :: rest)) :=
      hafter.ends_items (by simp) rest
    have hfirst := hskip fuel (by omega) hlead hends
    have hnamed := skipKey_append Gap.nil hkey hbetween
      (lead ++ (member.2 ++ (after ++ (items.flatMap (',' :: ·) ++ '\x7d' :: rest))))
    obtain ⟨more, hquoted⟩ : ∃ more, member.1 = '"' :: more := by
      obtain ⟨pieces, -, hpieces⟩ := hkey
      exact ⟨_, hpieces⟩
    rw [hquoted, List.nil_append, List.cons_append] at hnamed
    rw [hquoted, List.cons_append]
    refine skipValue_object hgap (dropGap_cons hbefore rfl _) hnamed hfirst ?_
    exact skipMembers_items hmorekeys hmore hitems hafter (by simp only [List.length_append]; omega)

theorem skips_of_isValue (h : IsValue value) : Skips value := by
  induction h with
  | literal hword => exact skips_literal hword
  | number hnumber => exact skips_number hnumber
  | string hstring => exact skips_string hstring
  | array hvalues henclosed ih => exact skips_array hvalues ih henclosed
  | object hkeys _ henclosed ih => exact skips_object hkeys ih henclosed

end ActionLookup.Json
