import Mathlib.Data.List.TakeWhile
import ActionLookup.Proofs.Json.Skipping
import ActionLookup.Proofs.Json.Accepted.Strings

namespace ActionLookup.Json

variable {α κ : Type} {c closing : Char} {cs rest : List Char} {n fuel : Nat}

theorem exists_gap {more : List Char} (h : dropGap cs = more) : ∃ gap, Gap gap ∧ cs = gap ++ more := by
  refine ⟨cs.takeWhile isGap, fun c hc => isGap_iff.mp (List.mem_takeWhile_imp hc), ?_⟩
  rw [← h]
  exact List.takeWhile_append_dropWhile.symm

/-! ### Numbers -/

theorem mem_digits_of_digit? (h : digit? c = some n) : c ∈ digits := by
  unfold digit? at h
  split at h
  · rename_i hc
    exact mem_digits (toNat_le_of_le hc.1) (toNat_le_of_le hc.2)
  · exact nomatch h

theorem mem_digits_of_isDigit (h : isDigit c = true) : c ∈ digits := by
  obtain ⟨n, hn⟩ := Option.isSome_iff_exists.mp h
  exact mem_digits_of_digit? hn

theorem eq_zero_of_digit? (h : digit? c = some 0) : c = '0' := by
  rcases List.mem_cons.mp (mem_digits_of_digit? h) with hzero | hnonzero
  · exact hzero
  · obtain ⟨n, hn⟩ := digit?_of_mem_nonzeroDigits hnonzero
    exact nomatch hn.symm.trans h

theorem mem_nonzeroDigits_of_digit? (h : digit? c = some n) (hn : n ≠ 0) : c ∈ nonzeroDigits := by
  rcases List.mem_cons.mp (mem_digits_of_digit? h) with rfl | hnonzero
  · exact absurd (Option.some.inj h).symm hn
  · exact hnonzero

theorem exists_digits (cs : List Char) : ∃ more, AreDigits more ∧ cs = more ++ dropDigits cs :=
  ⟨cs.takeWhile isDigit, fun _ hc => mem_digits_of_isDigit (List.mem_takeWhile_imp hc),
    List.takeWhile_append_dropWhile.symm⟩

theorem skipDigits1_eq_ok (h : skipDigits1 cs = .ok rest) :
    ∃ c more, c ∈ digits ∧ AreDigits more ∧ cs = c :: (more ++ rest) := by
  unfold skipDigits1 at h
  split at h
  · rename_i hstart
    obtain rfl := Except.ok.inj h
    cases cs with
    | nil => exact nomatch hstart
    | cons c cs =>
      have hdrop : dropDigits (c :: cs) = dropDigits cs := List.dropWhile_cons_of_pos hstart
      obtain ⟨more, hmore, hcs⟩ := exists_digits cs
      refine ⟨c, more, mem_digits_of_isDigit hstart, hmore, ?_⟩
      rw [hdrop, ← hcs]
  · exact nomatch h

theorem exists_sign (cs : List Char) :
    ∃ sign, sign ∈ [[], ['+'], ['-']] ∧ cs = sign ++ (exponentSign cs).2 := by
  unfold exponentSign
  split
  · exact ⟨['+'], by decide, rfl⟩
  · exact ⟨['-'], by decide, rfl⟩
  · exact ⟨[], by decide, rfl⟩

theorem isExponent_of_mark {e : Char} (he : e ∈ ['e', 'E']) (h : skipDigits1 (exponentSign cs).2 = .ok rest) :
    ∃ exponent, IsExponent exponent ∧ e :: cs = exponent ++ rest := by
  obtain ⟨sign, hsign, hcs⟩ := exists_sign cs
  obtain ⟨c, more, hc, hmore, hdigits⟩ := skipDigits1_eq_ok h
  refine ⟨_, .present he hsign hc hmore, ?_⟩
  rw [hcs, hdigits]
  simp

theorem isExponent_of_skipExponent (h : skipExponent cs = .ok rest) :
    ∃ exponent, IsExponent exponent ∧ cs = exponent ++ rest := by
  unfold skipExponent at h
  split at h
  · exact isExponent_of_mark (by decide) h
  · exact isExponent_of_mark (by decide) h
  · obtain rfl := Except.ok.inj h
    exact ⟨[], .absent, rfl⟩

theorem skipAfterInteger_eq_ok (h : skipAfterInteger cs = .ok rest) :
    ∃ fraction exponent, IsFraction fraction ∧ IsExponent exponent ∧ cs = fraction ++ (exponent ++ rest) := by
  unfold skipAfterInteger at h
  split at h
  · rename_i tail
    cases hdigits : skipDigits1 tail with
    | error f => simp [hdigits] at h
    | ok behind =>
      rw [hdigits] at h
      obtain ⟨c, more, hc, hmore, rfl⟩ := skipDigits1_eq_ok hdigits
      obtain ⟨exponent, hexponent, rfl⟩ := isExponent_of_skipExponent h
      exact ⟨_, exponent, .present hc hmore, hexponent, by simp⟩
  · obtain ⟨exponent, hexponent, rfl⟩ := isExponent_of_skipExponent h
    exact ⟨[], exponent, .absent, hexponent, rfl⟩

theorem isNumber_of_skipNumber (sign : List Char) (hsign : sign ∈ [[], ['-']])
    (h : skipNumber cs = .ok rest) : ∃ number, IsNumber (sign ++ number) ∧ cs = number ++ rest := by
  unfold skipNumber at h
  split at h
  · exact nomatch h
  rename_i c tail
  split at h
  · exact nomatch h
  · rename_i hzero
    split at h
    · exact nomatch h
    obtain rfl := eq_zero_of_digit? hzero
    obtain ⟨fraction, exponent, hfraction, hexponent, rfl⟩ := skipAfterInteger_eq_ok h
    exact ⟨_, ⟨sign, _, fraction, exponent, hsign, .zero, hfraction, hexponent, rfl⟩, by simp⟩
  · rename_i n hdigit hnonzero
    have hc := mem_nonzeroDigits_of_digit? hnonzero (by rintro rfl; exact hdigit rfl)
    obtain ⟨more, hmore, hdigits⟩ := exists_digits tail
    obtain ⟨fraction, exponent, hfraction, hexponent, hrest⟩ := skipAfterInteger_eq_ok h
    refine ⟨_, ⟨sign, _, fraction, exponent, hsign, .positive hc hmore, hfraction, hexponent, rfl⟩, ?_⟩
    rw [hdigits, hrest]
    simp

/-! ### Words, colons and keys -/

theorem readWord_eq_ok {word : List Char} (h : readWord word cs = .ok rest) : cs = word ++ rest := by
  induction word generalizing cs with
  | nil => exact Except.ok.inj h
  | cons letter word ih =>
    cases cs with
    | nil => cases h
    | cons c cs =>
      unfold readWord at h
      split at h
      · rename_i hc
        rw [hc, ih h]
        rfl
      · cases h

theorem readColon_eq_ok (h : readColon cs = .ok rest) : ∃ gap, Gap gap ∧ cs = gap ++ ':' :: rest := by
  unfold readColon at h
  split at h
  · exact nomatch h
  · rename_i hcolon
    obtain rfl := Except.ok.inj h
    exact exists_gap hcolon
  · exact nomatch h

theorem skipKey_behind_gap {gap : List Char} (hgap : Gap gap) (cs : List Char) :
    skipKey (gap ++ cs) = skipKey cs := by
  simp only [skipKey, dropGap_append hgap]

theorem skipKey_eq_ok (h : skipKey cs = .ok rest) :
    ∃ gap key after, Gap gap ∧ IsString key ∧ Gap after ∧ cs = gap ++ (key ++ (after ++ ':' :: rest)) := by
  unfold skipKey at h
  split at h
  · exact nomatch h
  · rename_i inside hquote
    cases hkey : skipString inside with
    | error f => simp [hkey] at h
    | ok behind =>
      rw [hkey] at h
      obtain ⟨gap, hgap, rfl⟩ := exists_gap hquote
      obtain ⟨key, hstring, rfl⟩ := isString_of_skipString hkey
      obtain ⟨after, hafter, rfl⟩ := readColon_eq_ok h
      exact ⟨gap, _, after, hgap, hstring, hafter, rfl⟩
  · exact nomatch h

/-! ### Lists and objects -/

def Starts (W : α → List Char → Prop) (a : α) (head : List Char) : Prop :=
  ∀ after, Gap after → W a (head ++ after)

theorem starts_padded {W : α → List Char → Prop} {a : α} {gap value : List Char} (hgap : Gap gap)
    (h : W a value) : Starts (Padded W) a (gap ++ value) := by
  intro after hafter
  exact ⟨gap, value, after, hgap, h, hafter, List.append_assoc gap value after⟩

theorem starts_keyed {K : κ → List Char → Prop} {member : κ × List Char} {gap key between lead : List Char}
    (hgap : Gap gap) (hkey : K member.1 key) (hbetween : Gap between) (hlead : Gap lead) :
    Starts (Keyed K) member (gap ++ (key ++ (between ++ ':' :: (lead ++ member.2)))) := by
  intro after hafter
  refine ⟨_, _, ⟨gap, key, between, hgap, hkey, hbetween, rfl⟩,
    ⟨lead, _, after, hlead, rfl, hafter, rfl⟩, ?_⟩
  simp

def Lead : Bool → List Char → Prop
  | true, pre => pre = []
  | false, pre => ∃ gap, Gap gap ∧ pre = gap ++ [',']

theorem lead_first : Lead true [] := rfl

/-- What is due of a list or an object: from its first item on, or else from behind an item. -/
inductive Due (closing : Char) (W : α → List Char → Prop) : Bool → List α → List Char → Prop
  | close {first : Bool} {gap : List Char} : Gap gap → Due closing W first [] (gap ++ [closing])
  | item {first : Bool} {a : α} {as : List α} {pre head tail : List Char} : Lead first pre →
      Starts W a head → Due closing W false as tail → Due closing W first (a :: as) (pre ++ (head ++ tail))

theorem Due.items {W : α → List Char → Prop} {first : Bool} {as : List α} (h : Due closing W first as cs)
    (hlater : first = false) :
    ∃ gap items, Gap gap ∧ List.Forall₂ W as items ∧ cs = gap ++ (items.flatMap (',' :: ·) ++ [closing]) := by
  induction h with
  | close hgap => exact ⟨_, [], hgap, .nil, rfl⟩
  | item hlead hstart _ ih =>
    subst hlater
    obtain ⟨gap, hgap, rfl⟩ := hlead
    -- The gap in front of what is due behind an item is the item's own.
    obtain ⟨after, items, hafter, hitems, rfl⟩ := ih rfl
    exact ⟨gap, _ :: items, hgap, .cons (hstart after hafter) hitems, by simp⟩

theorem Due.enclosed {W : α → List Char → Prop} {as : List α} (opening : Char)
    (h : Due closing W true as cs) : Enclosed opening closing W as (opening :: cs) := by
  cases h with
  | close hgap => exact .empty hgap
  | item hlead hstart hdue =>
    obtain rfl := hlead
    obtain ⟨gap, items, hgap, hitems, rfl⟩ := hdue.items rfl
    have henclosed : Enclosed opening closing W _ _ := .items (hstart gap hgap) hitems
    simpa using henclosed

/-! ### Values -/

def PassesValue (cs rest : List Char) : Prop := ∃ gap value, Gap gap ∧ IsValue value ∧ cs = gap ++ (value ++ rest)

def PassesElements (first : Bool) (cs rest : List Char) : Prop :=
  ∃ values due, (∀ value ∈ values, IsValue value) ∧ Due ']' (Padded Eq) first values due ∧ cs = due ++ rest

def PassesMembers (first : Bool) (cs rest : List Char) : Prop :=
  ∃ members due, (∀ member ∈ members, IsString member.1) ∧ (∀ member ∈ members, IsValue member.2) ∧
    Due '\x7d' (Keyed Eq) first members due ∧ cs = due ++ rest

section

variable {first : Bool} {gap pre named tail : List Char}

theorem passesValue_of_isValue {value : List Char} (hgap : Gap gap) (h : IsValue value) (rest : List Char) :
    PassesValue (gap ++ (value ++ rest)) rest :=
  ⟨gap, value, hgap, h, rfl⟩

theorem PassesValue.behind_gap (h : PassesValue cs rest) (hgap : Gap gap) : PassesValue (gap ++ cs) rest := by
  obtain ⟨inner, value, hinner, hvalue, rfl⟩ := h
  refine ⟨gap ++ inner, value, ?_, hvalue, (List.append_assoc gap inner _).symm⟩
  exact List.forall_mem_append.mpr ⟨hgap, hinner⟩

theorem passesElements_close (first : Bool) (hgap : Gap gap) (rest : List Char) :
    PassesElements first (gap ++ ']' :: rest) rest :=
  ⟨[], _, nofun, .close hgap, by simp⟩

theorem PassesElements.cons (h : PassesElements false tail rest) (hlead : Lead first pre)
    (hvalue : PassesValue cs tail) : PassesElements first (pre ++ cs) rest := by
  obtain ⟨gap, value, hgap, hisvalue, rfl⟩ := hvalue
  obtain ⟨values, due, hvalues, hdue, rfl⟩ := h
  refine ⟨_, _, List.forall_mem_cons.mpr ⟨hisvalue, hvalues⟩, .item hlead (starts_padded hgap rfl) hdue, ?_⟩
  simp

theorem PassesElements.value (h : PassesElements true cs rest) (hgap : Gap gap) :
    PassesValue (gap ++ '[' :: cs) rest := by
  obtain ⟨values, due, hvalues, hdue, rfl⟩ := h
  exact passesValue_of_isValue hgap (.array hvalues (hdue.enclosed '[')) rest

theorem passesMembers_close (first : Bool) (hgap : Gap gap) (rest : List Char) :
    PassesMembers first (gap ++ '\x7d' :: rest) rest :=
  ⟨[], _, nofun, nofun, .close hgap, by simp⟩

theorem PassesMembers.cons (h : PassesMembers false tail rest) (hlead : Lead first pre)
    (hkey : skipKey cs = .ok named) (hvalue : PassesValue named tail) :
    PassesMembers first (pre ++ cs) rest := by
  obtain ⟨gap, key, between, hgap, hstring, hbetween, rfl⟩ := skipKey_eq_ok hkey
  obtain ⟨lead, value, hlead', hisvalue, rfl⟩ := hvalue
  obtain ⟨members, due, hkeys, hvalues, hdue, rfl⟩ := h
  refine ⟨(key, value) :: members, _, List.forall_mem_cons.mpr ⟨hstring, hkeys⟩,
    List.forall_mem_cons.mpr ⟨hisvalue, hvalues⟩,
    .item hlead (starts_keyed hgap rfl hbetween hlead') hdue, ?_⟩
  simp

theorem PassesMembers.value (h : PassesMembers true cs rest) (hgap : Gap gap) :
    PassesValue (gap ++ '\x7b' :: cs) rest := by
  obtain ⟨members, due, hkeys, hvalues, hdue, rfl⟩ := h
  exact passesValue_of_isValue hgap (.object hkeys hvalues (hdue.enclosed '\x7b')) rest

end

structure SkipsSoundly (fuel : Nat) : Prop where
  value : ∀ {cs rest : List Char}, skipValue fuel cs = .ok rest → PassesValue cs rest
  elements : ∀ {cs rest : List Char}, skipElements fuel cs = .ok rest → PassesElements false cs rest
  members : ∀ {cs rest : List Char}, skipMembers fuel cs = .ok rest → PassesMembers false cs rest

namespace SkipsSoundly

theorem elements_succ (h : SkipsSoundly fuel) (hskip : skipElements (fuel + 1) cs = .ok rest) :
    PassesElements false cs rest := by
  unfold skipElements at hskip
  split at hskip
  · exact nomatch hskip
  · rename_i hclose
    obtain rfl := Except.ok.inj hskip
    obtain ⟨gap, hgap, rfl⟩ := exists_gap hclose
    exact passesElements_close false hgap _
  · rename_i tail hcomma
    obtain ⟨gap, hgap, rfl⟩ := exists_gap hcomma
    cases hvalue : skipValue fuel tail with
    | error f => simp [hvalue] at hskip
    | ok behind =>
      rw [hvalue] at hskip
      rw [List.append_cons]
      exact (h.elements hskip).cons ⟨gap, hgap, rfl⟩ (h.value hvalue)
  · exact nomatch hskip

theorem members_succ (h : SkipsSoundly fuel) (hskip : skipMembers (fuel + 1) cs = .ok rest) :
    PassesMembers false cs rest := by
  unfold skipMembers at hskip
  split at hskip
  · exact nomatch hskip
  · rename_i hclose
    obtain rfl := Except.ok.inj hskip
    obtain ⟨gap, hgap, rfl⟩ := exists_gap hclose
    exact passesMembers_close false hgap _
  · rename_i tail hcomma
    obtain ⟨gap, hgap, rfl⟩ := exists_gap hcomma
    cases hkey : skipKey tail with
    | error f => simp [hkey] at hskip
    | ok named =>
      cases hvalue : skipValue fuel named with
      | error f => simp [hkey, hvalue] at hskip
      | ok behind =>
        simp only [hkey, hvalue] at hskip
        rw [List.append_cons]
        exact (h.members hskip).cons ⟨gap, hgap, rfl⟩ hkey (h.value hvalue)
  · exact nomatch hskip

theorem passesValue_word {word : List Char} {c : Char} (hword : c :: word ∈ literals) {gap tail : List Char}
    (hgap : Gap gap) (h : readWord word tail = .ok rest) : PassesValue (gap ++ c :: tail) rest := by
  obtain rfl := readWord_eq_ok h
  exact passesValue_of_isValue hgap (.literal hword) rest

theorem elements_of_first (h : SkipsSoundly fuel) {tail : List Char}
    (hfirst : skipValue fuel (dropGap cs) = .ok tail) (hothers : skipElements fuel tail = .ok rest) :
    PassesElements true cs rest := by
  obtain ⟨gap, hgap, hcs⟩ := exists_gap (show dropGap cs = dropGap cs from rfl)
  have hpassed : PassesValue cs tail := by
    rw [hcs]
    exact (h.value hfirst).behind_gap hgap
  exact (h.elements hothers).cons lead_first hpassed

theorem members_of_first (h : SkipsSoundly fuel) {named tail : List Char}
    (hkey : skipKey (dropGap cs) = .ok named) (hfirst : skipValue fuel named = .ok tail)
    (hothers : skipMembers fuel tail = .ok rest) : PassesMembers true cs rest := by
  obtain ⟨gap, hgap, hcs⟩ := exists_gap (show dropGap cs = dropGap cs from rfl)
  rw [← skipKey_behind_gap hgap, ← hcs] at hkey
  exact (h.members hothers).cons lead_first hkey (h.value hfirst)

theorem value_succ (h : SkipsSoundly fuel) (hskip : skipValue (fuel + 1) cs = .ok rest) :
    PassesValue cs rest := by
  unfold skipValue at hskip
  split at hskip
  case h_1 => cases hskip
  case h_2 inside hopen =>
    obtain ⟨gap, hgap, rfl⟩ := exists_gap hopen
    obtain ⟨string, hstring, rfl⟩ := isString_of_skipString hskip
    exact passesValue_of_isValue hgap (.string hstring) rest
  case h_3 tail hopen =>
    obtain ⟨gap, hgap, rfl⟩ := exists_gap hopen
    exact passesValue_word (by decide) hgap hskip
  case h_4 tail hopen =>
    obtain ⟨gap, hgap, rfl⟩ := exists_gap hopen
    exact passesValue_word (by decide) hgap hskip
  case h_5 tail hopen =>
    obtain ⟨gap, hgap, rfl⟩ := exists_gap hopen
    exact passesValue_word (by decide) hgap hskip
  case h_6 tail hopen =>
    obtain ⟨gap, hgap, rfl⟩ := exists_gap hopen
    obtain ⟨number, hnumber, rfl⟩ := isNumber_of_skipNumber ['-'] (by decide) hskip
    exact passesValue_of_isValue hgap (.number hnumber) rest
  case h_7 inside hopen =>
    obtain ⟨gap, hgap, rfl⟩ := exists_gap hopen
    refine PassesElements.value ?_ hgap
    split at hskip
    · cases hskip
    · rename_i hclose
      obtain rfl := Except.ok.inj hskip
      obtain ⟨inner, hinner, rfl⟩ := exists_gap hclose
      exact passesElements_close true hinner _
    · cases hvalue : skipValue fuel (dropGap inside) with
      | error f => simp [hvalue] at hskip
      | ok tail =>
        simp only [hvalue] at hskip
        exact h.elements_of_first hvalue hskip
  case h_8 inside hopen =>
    obtain ⟨gap, hgap, rfl⟩ := exists_gap hopen
    refine PassesMembers.value ?_ hgap
    split at hskip
    · cases hskip
    · rename_i hclose
      obtain rfl := Except.ok.inj hskip
      obtain ⟨inner, hinner, rfl⟩ := exists_gap hclose
      exact passesMembers_close true hinner _
    · cases hkey : skipKey (dropGap inside) with
      | error f => simp [hkey] at hskip
      | ok named =>
        cases hvalue : skipValue fuel named with
        | error f => simp [hkey, hvalue] at hskip
        | ok tail =>
          simp only [hkey, hvalue] at hskip
          exact h.members_of_first hkey hvalue hskip
  case h_9 c tail _ _ _ _ _ _ _ hopen =>
    obtain ⟨gap, hgap, rfl⟩ := exists_gap hopen
    split at hskip
    · obtain ⟨number, hnumber, hcs⟩ := isNumber_of_skipNumber [] (by decide) hskip
      rw [hcs]
      exact passesValue_of_isValue hgap (.number hnumber) rest
    · cases hskip

end SkipsSoundly

theorem skipsSoundly (fuel : Nat) : SkipsSoundly fuel := by
  induction fuel with
  | zero => exact ⟨nofun, nofun, nofun⟩
  | succ fuel ih => exact ⟨ih.value_succ, ih.elements_succ, ih.members_succ⟩

end ActionLookup.Json
