import ActionLookup.Json.Record
import ActionLookup.Proofs.Json.Skipping

namespace ActionLookup.Json

variable {α σ : Type} {c : Char} {gap before value inside cs rest tail : List Char} {limit fuel : Nat}

structure Reads (reader : Reader α) (value : List Char) (a : α) : Prop where
  opens : Opens value
  read : ∀ {gap rest : List Char}, Gap gap → reader (gap ++ (value ++ rest)) = .ok (a, rest)

theorem reads_optional {o : Option String} (h : WritesOptional o (some value)) :
    Reads readOptional value o := by
  cases h with
  | null =>
    refine ⟨⟨_, _, rfl, rfl, by decide⟩, fun {gap rest} hgap => ?_⟩
    rw [List.cons_append, readOptional, dropGap_cons hgap rfl]
    simp only [readWord_append]
  | @string s _ hstring =>
    refine ⟨?_, fun {gap rest} hgap => ?_⟩
    · obtain ⟨inside, rfl, -⟩ := readString_append hstring []
      exact ⟨_, _, rfl, rfl, by decide⟩
    · obtain ⟨inside, rfl, hinside⟩ := readString_append hstring rest
      rw [List.cons_append, readOptional, dropGap_cons hgap rfl]
      simp only [hinside]

theorem WritesOptional.eq_none {o : Option String} (h : WritesOptional o none) : o = none := by
  cases h
  rfl

theorem WritesList.eq_nil {W : α → List Char → Prop} {as : List α} (h : WritesList W as none) :
    as = [] := by
  cases h
  rfl

/-! ### Lists -/

theorem nextElement_first (hgap : Gap gap) (h : Opens value) (rest : List Char) :
    nextElement true (gap ++ (value ++ rest)) = .ok (.item (value ++ rest)) := by
  obtain ⟨c, more, rfl, hc, hopen⟩ := h
  rw [List.cons_append]
  simp [nextElement, dropGap_cons hgap hc]

theorem nextElement_other (hgap : Gap gap) (hbefore : Gap before) (h : Opens value) (rest : List Char) :
    nextElement false (gap ++ ',' :: (before ++ (value ++ rest))) = .ok (.item (value ++ rest)) := by
  have hcomma : isGap ',' = false := rfl
  obtain ⟨c, more, rfl, hc, hopen⟩ := h
  rw [List.cons_append]
  simp [nextElement, dropGap_cons hgap hcomma, dropGap_cons hbefore hc, hopen]

theorem nextElement_close (first : Bool) (hgap : Gap gap) (rest : List Char) :
    nextElement first (gap ++ ']' :: rest) = .ok (.close rest) := by
  rw [nextElement, dropGap_cons hgap rfl]
  rfl

theorem readElements_of_item {element : Reader α} {first : Bool} {done : List α} {a : α}
    (hnext : nextElement first cs = .ok (.item (value ++ tail))) (h : Reads element value a) :
    readElements element (fuel + 1) first done cs = readElements element fuel false (a :: done) tail := by
  have hread : element (value ++ tail) = .ok (a, tail) := h.read Gap.nil
  simp only [readElements, hnext, hread]

/-- Whatever is written like this, and is not too long, is read back. -/
def ReadsBelow (limit : Nat) (reader : Reader α) (W : α → List Char → Prop) : Prop :=
  ∀ {a : α} {value : List Char}, W a value → value.length < limit → Reads reader value a

theorem readElements_items {element : Reader α} {W : α → List Char → Prop} {as done : List α}
    {items : List (List Char)} (helement : ReadsBelow limit element W)
    (h : List.Forall₂ (Padded W) as items) (hgap : Gap gap)
    (hfuel : (gap ++ items.flatMap (',' :: ·)).length < fuel) (hlimit : fuel ≤ limit) :
    readElements element fuel false done (gap ++ (items.flatMap (',' :: ·) ++ ']' :: rest)) =
      .ok (done.reverse ++ as, rest) := by
  induction h generalizing fuel gap done with
  | nil =>
    obtain ⟨fuel, rfl⟩ := Nat.exists_eq_add_one.mpr (Nat.zero_lt_of_lt hfuel)
    simp only [List.flatMap_nil, List.nil_append, readElements, nextElement_close false hgap,
      List.append_nil]
  | @cons a item as items hitem _ ih =>
    obtain ⟨before, value, after, hbefore, hvalue, hafter, rfl⟩ := hitem
    simp only [List.flatMap_cons, List.cons_append, List.append_assoc, List.length_append,
      List.length_cons] at hfuel ⊢
    obtain ⟨fuel, rfl⟩ := Nat.exists_eq_add_one.mpr (Nat.zero_lt_of_lt hfuel)
    have hreads := helement hvalue (by omega)
    rw [readElements_of_item (nextElement_other hgap hbefore hreads.opens _) hreads,
      ih hafter (by simp only [List.length_append]; omega) (by omega)]
    simp

theorem reads_enclosed {element : Reader α} {W : α → List Char → Prop} {as : List α}
    (helement : ReadsBelow limit element W) (h : Enclosed '[' ']' (Padded W) as cs)
    (hlimit : cs.length < limit) : Reads (readList limit element) cs as := by
  obtain ⟨fuel, rfl⟩ := Nat.exists_eq_add_one.mpr (Nat.zero_lt_of_lt hlimit)
  refine ⟨?_, fun {gap rest} hgap => ?_⟩
  · obtain ⟨more, rfl⟩ := h.head
    exact ⟨'[', more, rfl, rfl, by decide⟩
  cases h with
  | empty hinner =>
    simp only [List.cons_append, List.append_assoc, List.nil_append]
    rw [readList, dropGap_cons hgap rfl]
    simp only [readElements, nextElement_close true hinner, List.reverse_nil]
  | @items a as item items hitem hitems =>
    obtain ⟨before, value, after, hbefore, hvalue, hafter, rfl⟩ := hitem
    simp only [List.cons_append, List.append_assoc, List.nil_append, List.length_append,
      List.length_cons] at hlimit ⊢
    have hreads := helement hvalue (by omega)
    rw [readList, dropGap_cons hgap rfl]
    show readElements element (fuel + 1) true [] _ = _
    rw [readElements_of_item (nextElement_first hbefore hreads.opens _) hreads,
      readElements_items helement hitems hafter (by simp only [List.length_append]; omega) (by omega)]
    rfl

theorem reads_list {element : Reader α} {W : α → List Char → Prop} {as : List α}
    (helement : ReadsBelow limit element W) (h : WritesList W as (some value))
    (hlimit : value.length < limit) : Reads (readList limit element) value as := by
  cases h with
  | written henclosed => exact reads_enclosed helement henclosed hlimit

/-! ### Records -/

theorem nextKey_first (hgap : Gap gap) (inside : List Char) :
    nextKey true (gap ++ '"' :: inside) = .ok (.item inside) := by
  rw [nextKey, dropGap_cons hgap rfl]
  rfl

theorem nextKey_other (hgap : Gap gap) (hbefore : Gap before) (inside : List Char) :
    nextKey false (gap ++ ',' :: (before ++ '"' :: inside)) = .ok (.item inside) := by
  have hquote : isGap '"' = false := rfl
  have hcomma : isGap ',' = false := rfl
  simp [nextKey, dropGap_cons hgap hcomma, dropGap_cons hbefore hquote]

theorem nextKey_close (first : Bool) (hgap : Gap gap) (rest : List Char) :
    nextKey first (gap ++ '\x7d' :: rest) = .ok (.close rest) := by
  rw [nextKey, dropGap_cons hgap rfl]
  rfl

/-- What reading this member comes to: a known key is given its part, another one changes nothing. -/
structure Settles (fields : List (FieldReader σ)) (take : String → σ → σ) (member : String × List Char) :
    Prop where
  known : ∀ field ∈ fields, field.key = member.1 → Reads field.read member.2 (take member.1)
  other : member.1 ∉ fields.map FieldReader.key → IsValue member.2 ∧ take member.1 = id

section

variable {fields : List (FieldReader σ)} {take : String → σ → σ} {member : String × List Char}
  {seen : List String} {first : Bool} {record empty : σ}

theorem readMembers_of_member {between lead : List Char}
    (hnext : nextKey first cs = .ok (.item (inside ++ (between ++ ':' :: (lead ++ (member.2 ++ tail))))))
    (hkey : readString (inside ++ (between ++ ':' :: (lead ++ (member.2 ++ tail)))) =
      .ok (member.1, between ++ ':' :: (lead ++ (member.2 ++ tail))))
    (hbetween : Gap between) (hlead : Gap lead) (hends : Ends tail) (hfuel : member.2.length < fuel)
    (hseen : member.1 ∉ seen) (h : Settles fields take member) :
    ∃ now, (∀ key ∈ now, key ∈ seen ∨ key = member.1 ∧ key ∈ fields.map FieldReader.key) ∧
      readMembers fields (fuel + 1) first seen record cs =
        readMembers fields fuel false now (take member.1 record) tail := by
  cases hfind : fields.find? fun field => field.key == member.1 with
  | none =>
    have hunknown : member.1 ∉ fields.map FieldReader.key := by
      simpa [List.find?_eq_none] using hfind
    obtain ⟨hvalue, hsame⟩ := h.other hunknown
    have hskip := skips_of_isValue hvalue fuel hfuel hlead hends
    refine ⟨seen, fun key hmem => .inl hmem, ?_⟩
    simp only [readMembers, hnext, hkey, hfind, readColon_append hbetween, hskip, hsame, id]
  | some field =>
    have hmem := List.mem_of_find?_eq_some hfind
    have hname : field.key = member.1 := by simpa using List.find?_some hfind
    have hread : field.read (lead ++ (member.2 ++ tail)) = .ok (take member.1, tail) :=
      (h.known field hmem hname).read hlead
    refine ⟨member.1 :: seen, ?_, ?_⟩
    · intro key hmemnow
      rcases List.mem_cons.mp hmemnow with rfl | hold
      · exact .inr ⟨rfl, List.mem_map.mpr ⟨field, hmem, hname⟩⟩
      · exact .inl hold
    · simp only [readMembers, hnext, hkey, hfind, if_neg hseen, readColon_append hbetween, hread]

theorem fresh_of_once {known now : List String} {members : List (String × List Char)}
    (honce : (((member :: members).map Prod.fst).filter (· ∈ known)).Nodup)
    (hfresh : ∀ key ∈ seen, key ∉ (member :: members).map Prod.fst)
    (hnow : ∀ key ∈ now, key ∈ seen ∨ key = member.1 ∧ key ∈ known) :
    ∀ key ∈ now, key ∉ members.map Prod.fst := by
  intro key hmem hlater
  rcases hnow key hmem with hold | ⟨rfl, hknown⟩
  · exact hfresh key hold (List.mem_cons_of_mem _ hlater)
  · rw [List.map_cons, List.filter_cons_of_pos (by simpa using hknown)] at honce
    exact (List.nodup_cons.mp honce).1 (List.mem_filter.mpr ⟨hlater, by simpa using hknown⟩)

theorem readMembers_step {pre item : List Char} {items : List (List Char)}
    (hnext : ∀ {before inside : List Char}, Gap before →
      nextKey first (pre ++ (before ++ '"' :: inside)) = .ok (.item inside))
    (hitem : Keyed SpellsString member item) (hfuel : item.length < fuel) (hseen : member.1 ∉ seen)
    (h : Settles fields take member) :
    ∃ now after, Gap after ∧ after.length ≤ item.length ∧
      (∀ key ∈ now, key ∈ seen ∨ key = member.1 ∧ key ∈ fields.map FieldReader.key) ∧
      readMembers fields (fuel + 1) first seen record
          (pre ++ (item ++ (items.flatMap (',' :: ·) ++ '\x7d' :: rest))) =
        readMembers fields fuel false now (take member.1 record)
          (after ++ (items.flatMap (',' :: ·) ++ '\x7d' :: rest)) := by
  obtain ⟨_, _, ⟨before, _, between, hbefore, hspelled, hbetween, rfl⟩,
    ⟨lead, _, after, hlead, rfl, hafter, rfl⟩, rfl⟩ := hitem
  obtain ⟨inside, rfl, hkey⟩ := readString_append hspelled
    (between ++ ':' :: (lead ++ (member.2 ++ (after ++ (items.flatMap (',' :: ·) ++ '\x7d' :: rest)))))
  simp only [List.cons_append, List.append_assoc, List.length_append, List.length_cons] at hfuel ⊢
  have hends : Ends (after ++ (items.flatMap (',' :: ·) ++ '\x7d' :: rest)) :=
    hafter.ends_items (by simp) rest
  have hshort : member.2.length < fuel := by omega
  obtain ⟨now, hnow, hstep⟩ := readMembers_of_member (hnext hbefore) hkey hbetween hlead hends hshort hseen h
  exact ⟨now, after, hafter, by omega, hnow, hstep⟩

theorem readMembers_items {members : List (String × List Char)} {items : List (List Char)}
    (hsettles : ∀ member ∈ members, Settles fields take member)
    (honce : ((members.map Prod.fst).filter (· ∈ fields.map FieldReader.key)).Nodup)
    (hfresh : ∀ key ∈ seen, key ∉ members.map Prod.fst)
    (h : List.Forall₂ (Keyed SpellsString) members items) (hgap : Gap gap)
    (hfuel : (gap ++ items.flatMap (',' :: ·)).length < fuel) :
    readMembers fields fuel false seen record (gap ++ (items.flatMap (',' :: ·) ++ '\x7d' :: rest)) =
      .ok (members.foldl (fun record member => take member.1 record) record, rest) := by
  -- A key that was seen is not met again: only known keys are noted, and they stand once.
  induction h generalizing fuel gap seen record with
  | nil =>
    obtain ⟨fuel, rfl⟩ := Nat.exists_eq_add_one.mpr (Nat.zero_lt_of_lt hfuel)
    simp only [List.flatMap_nil, List.nil_append, readMembers, nextKey_close false hgap, List.foldl_nil]
  | @cons member item members items hitem _ ih =>
    obtain ⟨hsettle, hmore⟩ := List.forall_mem_cons.mp hsettles
    have hunseen : member.1 ∉ seen := fun hmem => hfresh _ hmem List.mem_cons_self
    simp only [List.flatMap_cons, List.cons_append, List.append_assoc, List.length_append,
      List.length_cons] at hfuel ⊢
    obtain ⟨fuel, rfl⟩ := Nat.exists_eq_add_one.mpr (Nat.zero_lt_of_lt hfuel)
    have hnext : ∀ {before inside : List Char}, Gap before →
        nextKey false ((gap ++ [',']) ++ (before ++ '"' :: inside)) = .ok (.item inside) := by
      intro before inside hbefore
      simpa using nextKey_other hgap hbefore inside
    have hshort : item.length < fuel := by omega
    obtain ⟨now, after, hafter, hlength, hnow, hstep⟩ := readMembers_step hnext hitem hshort hunseen hsettle
    rw [List.append_assoc, List.singleton_append] at hstep
    rw [hstep, List.foldl_cons]
    refine ih hmore ?_ (fresh_of_once honce hfresh hnow) hafter (by simp only [List.length_append]; omega)
    exact honce.sublist ((List.sublist_cons_self _ _).filter _)

theorem lookup_eq_some_of_mem {known : List String} {members : List (String × List Char)}
    (honce : ((members.map Prod.fst).filter (· ∈ known)).Nodup) (hmem : member ∈ members)
    (hknown : member.1 ∈ known) : members.lookup member.1 = some member.2 := by
  induction members with
  | nil => exact absurd hmem List.not_mem_nil
  | cons first members ih =>
    have hlater := honce.sublist ((List.sublist_cons_self first.1 (members.map Prod.fst)).filter _)
    rcases List.mem_cons.mp hmem with rfl | hmem
    · exact List.lookup_cons_self
    · have hne : (member.1 == first.1) = false := by
        rw [beq_eq_false_iff_ne]
        intro heq
        rw [List.map_cons, List.filter_cons_of_pos (by simpa [← heq] using hknown), ← heq] at honce
        refine (List.nodup_cons.mp honce).1 (List.mem_filter.mpr ⟨?_, by simpa using hknown⟩)
        exact List.mem_map_of_mem hmem
      rw [List.lookup_cons, hne]
      exact ih hlater hmem

theorem Padded.length_le {value item : List Char} (h : Padded Eq value item) : value.length ≤ item.length := by
  obtain ⟨_, _, _, -, rfl, -, rfl⟩ := h
  simp only [List.length_append]
  omega

theorem Keyed.length_le {κ : Type} {K : κ → List Char → Prop} {member : κ × List Char} {item : List Char}
    (h : Keyed K member item) : member.2.length ≤ item.length := by
  obtain ⟨_, _, -, hvalue, rfl⟩ := h
  have hlength := hvalue.length_le
  simp only [List.length_append, List.length_cons]
  omega

theorem length_le_of_items {W : α → List Char → Prop} {size : α → Nat} {as : List α} {a : α}
    {items : List (List Char)} (hsize : ∀ a item, W a item → size a ≤ item.length)
    (h : List.Forall₂ W as items) (hmem : a ∈ as) : size a ≤ (items.flatMap (',' :: ·)).length := by
  induction h with
  | nil => exact absurd hmem List.not_mem_nil
  | @cons first item as items hitem _ ih =>
    simp only [List.flatMap_cons, List.length_append, List.length_cons]
    rcases List.mem_cons.mp hmem with rfl | hmem
    · have hfirst := hsize _ _ hitem
      omega
    · have hlater := ih hmem
      omega

theorem Enclosed.length_lt {W : α → List Char → Prop} {size : α → Nat} {opening closing : Char} {as : List α}
    {a : α} (h : Enclosed opening closing W as cs) (hsize : ∀ a item, W a item → size a ≤ item.length)
    (hmem : a ∈ as) : size a < cs.length := by
  cases h with
  | empty => exact absurd hmem List.not_mem_nil
  | @items first as item items hitem hitems =>
    simp only [List.length_append, List.length_cons]
    rcases List.mem_cons.mp hmem with rfl | hmem
    · have hfirst := hsize _ _ hitem
      omega
    · have hlater := length_le_of_items hsize hitems hmem
      omega

namespace WritesRecord

variable {known : List String} {members : List (String × List Char)}

theorem once (h : WritesRecord known members cs) (hknown : known.Nodup) :
    ((members.map Prod.fst).filter (· ∈ known)).Nodup := by
  cases h with
  | object hobject => exact hobject.once
  | list hkeys => exact (hknown.sublist hkeys.sublist).filter _

theorem others (h : WritesRecord known members cs) (hmem : member ∈ members) (hunknown : member.1 ∉ known) :
    IsValue member.2 := by
  cases h with
  | object hobject => exact hobject.others member hmem hunknown
  | list hkeys => exact absurd (hkeys.subset (List.mem_map_of_mem hmem)) hunknown

theorem length_lt (h : WritesRecord known members cs) (hmem : member ∈ members) :
    member.2.length < cs.length := by
  cases h with
  | object hobject => exact hobject.written.length_lt (fun _ _ => Keyed.length_le) hmem
  | list _ henclosed => exact henclosed.length_lt (fun _ _ => Padded.length_le) (List.mem_map_of_mem hmem)

theorem lookup_eq_some (h : WritesRecord known members cs) (hknown : known.Nodup) (hmem : member ∈ members)
    (hkey : member.1 ∈ known) : members.lookup member.1 = some member.2 :=
  lookup_eq_some_of_mem (h.once hknown) hmem hkey

theorem opens (h : WritesRecord known members cs) : Opens cs := by
  cases h with
  | object hobject =>
    obtain ⟨more, rfl⟩ := hobject.written.head
    exact ⟨'\x7b', more, rfl, rfl, by decide⟩
  | list _ henclosed =>
    obtain ⟨more, rfl⟩ := henclosed.head
    exact ⟨'[', more, rfl, rfl, by decide⟩

end WritesRecord

theorem settles_of_writesRecord {members : List (String × List Char)}
    (hknown : ∀ field ∈ fields, ∀ value, members.lookup field.key = some value →
      value.length < limit → Reads field.read value (take field.key))
    (hother : ∀ key, key ∉ fields.map FieldReader.key → take key = id)
    (honce : (fields.map FieldReader.key).Nodup)
    (h : WritesRecord (fields.map FieldReader.key) members cs) (hlimit : cs.length < limit) :
    ∀ member ∈ members, Settles fields take member := by
  intro member hmem
  refine ⟨fun field hfield hkey => ?_, fun hunknown => ⟨h.others hmem hunknown, hother _ hunknown⟩⟩
  have hlookup := h.lookup_eq_some honce hmem (List.mem_map.mpr ⟨field, hfield, hkey⟩)
  rw [← hkey] at hlookup ⊢
  exact hknown field hfield _ hlookup (Nat.lt_trans (h.length_lt hmem) hlimit)

theorem readRecord_object {members : List (String × List Char)} {name : String}
    (hsettles : ∀ member ∈ members, Settles fields take member)
    (honce : ((members.map Prod.fst).filter (· ∈ fields.map FieldReader.key)).Nodup)
    (h : Enclosed '\x7b' '\x7d' (Keyed SpellsString) members cs) (hgap : Gap gap) (hlimit : cs.length < limit) :
    readRecord limit name fields empty (gap ++ (cs ++ rest)) =
      .ok (members.foldl (fun record member => take member.1 record) empty, rest) := by
  obtain ⟨fuel, rfl⟩ := Nat.exists_eq_add_one.mpr (Nat.zero_lt_of_lt hlimit)
  cases h with
  | empty hinner =>
    simp only [List.cons_append, List.append_assoc, List.nil_append]
    rw [readRecord, dropGap_cons hgap rfl]
    simp only [readMembers, nextKey_close true hinner, List.foldl_nil]
  | @items member members item items hitem hitems =>
    obtain ⟨hsettle, hmore⟩ := List.forall_mem_cons.mp hsettles
    simp only [List.cons_append, List.append_assoc, List.nil_append, List.length_append,
      List.length_cons] at hlimit ⊢
    have hnext : ∀ {before inside : List Char}, Gap before →
        nextKey true ([] ++ (before ++ '"' :: inside)) = .ok (.item inside) :=
      fun hbefore => nextKey_first hbefore _
    have hshort : item.length < fuel := by omega
    obtain ⟨now, after, hafter, hlength, hnow, hstep⟩ :=
      readMembers_step hnext hitem hshort List.not_mem_nil hsettle
    rw [readRecord, dropGap_cons hgap rfl]
    show readMembers fields (fuel + 1) true [] empty _ = _
    rw [List.nil_append] at hstep
    rw [hstep, List.foldl_cons]
    have hfresh : ∀ key ∈ ([] : List String), key ∉ (member :: members).map Prod.fst := by simp
    refine readMembers_items hmore ?_ (fresh_of_once honce hfresh hnow) hitems hafter
      (by simp only [List.length_append]; omega)
    exact honce.sublist ((List.sublist_cons_self _ _).filter _)

theorem readFields_of_item {field : FieldReader σ} {later : List (FieldReader σ)}
    (hnext : nextElement first cs = .ok (.item (value ++ tail))) (h : Reads field.read value (take field.key)) :
    readFields (field :: later) first record cs = readFields later false (take field.key record) tail := by
  have hread : field.read (value ++ tail) = .ok (take field.key, tail) := h.read Gap.nil
  simp only [readFields, hnext, hread]

theorem readFields_close (later : List (FieldReader σ)) (first : Bool) (record : σ) (hgap : Gap gap)
    (rest : List Char) : readFields later first record (gap ++ ']' :: rest) = .ok (record, rest) := by
  cases later with
  | nil =>
    rw [readFields, closeFields, dropGap_cons hgap rfl]
    rfl
  | cons field later => simp only [readFields, nextElement_close first hgap]

theorem readFields_items {later : List (FieldReader σ)} {members : List (String × List Char)}
    {items : List (List Char)} (hlater : ∀ field ∈ later, field ∈ fields)
    (hsettles : ∀ member ∈ members, Settles fields take member)
    (hkeys : members.map Prod.fst <+: later.map FieldReader.key)
    (h : List.Forall₂ (Padded Eq) (members.map Prod.snd) items) (hgap : Gap gap) :
    readFields later false record (gap ++ (items.flatMap (',' :: ·) ++ ']' :: rest)) =
      .ok (members.foldl (fun record member => take member.1 record) record, rest) := by
  induction members generalizing later items gap record with
  | nil =>
    cases h
    exact readFields_close later false record hgap rest
  | cons member members ih =>
    cases later with
    | nil => exact absurd (List.prefix_nil.mp hkeys) (List.cons_ne_nil _ _)
    | cons field later =>
      obtain ⟨hkey, hkeys⟩ := List.cons_prefix_cons.mp hkeys
      obtain ⟨hfield, hlater⟩ := List.forall_mem_cons.mp hlater
      obtain ⟨hsettle, hmore⟩ := List.forall_mem_cons.mp hsettles
      rw [List.map_cons] at h
      cases h with
      | @cons _ item _ items hitem hitems =>
        obtain ⟨before, _, after, hbefore, rfl, hafter, rfl⟩ := hitem
        have hreads := hsettle.known field hfield hkey.symm
        rw [hkey] at hreads
        simp only [List.flatMap_cons, List.cons_append, List.append_assoc]
        rw [readFields_of_item (nextElement_other hgap hbefore hreads.opens _) hreads,
          ih hlater hmore hkeys hitems hafter, List.foldl_cons, hkey]

theorem readRecord_list {members : List (String × List Char)} {name : String}
    (hsettles : ∀ member ∈ members, Settles fields take member)
    (hkeys : members.map Prod.fst <+: fields.map FieldReader.key)
    (h : Enclosed '[' ']' (Padded Eq) (members.map Prod.snd) cs) (hgap : Gap gap) :
    readRecord limit name fields empty (gap ++ (cs ++ rest)) =
      .ok (members.foldl (fun record member => take member.1 record) empty, rest) := by
  cases members with
  | nil =>
    cases h with
    | empty hinner =>
      simp only [List.cons_append, List.append_assoc, List.nil_append]
      rw [readRecord, dropGap_cons hgap rfl]
      exact readFields_close fields true empty hinner rest
  | cons member members =>
    cases fields with
    | nil => exact absurd (List.prefix_nil.mp hkeys) (List.cons_ne_nil _ _)
    | cons field later =>
      obtain ⟨hkey, hkeys⟩ := List.cons_prefix_cons.mp hkeys
      obtain ⟨hsettle, hmore⟩ := List.forall_mem_cons.mp hsettles
      have hreads := hsettle.known field List.mem_cons_self hkey.symm
      rw [hkey] at hreads
      rw [List.map_cons] at h
      cases h with
      | @items _ _ item items hitem hitems =>
        obtain ⟨before, _, after, hbefore, rfl, hafter, rfl⟩ := hitem
        simp only [List.cons_append, List.append_assoc, List.nil_append]
        rw [readRecord, dropGap_cons hgap rfl]
        show readFields (field :: later) true empty _ = _
        rw [readFields_of_item (nextElement_first hbefore hreads.opens _) hreads,
          readFields_items (fun _ => List.mem_cons_of_mem field) hmore hkeys hitems hafter, List.foldl_cons, hkey]

theorem reads_record {members : List (String × List Char)} {name : String} {done : σ}
    (take : String → σ → σ)
    (hknown : ∀ field ∈ fields, ∀ value, members.lookup field.key = some value →
      value.length < limit → Reads field.read value (take field.key))
    (hother : ∀ key, key ∉ fields.map FieldReader.key → take key = id)
    (hdone : members.foldl (fun record member => take member.1 record) empty = done)
    (honce : (fields.map FieldReader.key).Nodup)
    (h : WritesRecord (fields.map FieldReader.key) members cs) (hlimit : cs.length < limit) :
    Reads (readRecord limit name fields empty) cs done := by
  subst hdone
  have hsettles := settles_of_writesRecord hknown hother honce h hlimit
  refine ⟨h.opens, fun {gap rest} hgap => ?_⟩
  cases h with
  | object hobject => exact readRecord_object hsettles hobject.once hobject.written hgap hlimit
  | list hkeys henclosed => exact readRecord_list hsettles hkeys henclosed hgap

theorem part_foldl {β : Type} (part : σ → β) {key : String} {b : β}
    (htake : ∀ now record, part (take now record) = if now = key then b else part record)
    (members : List (String × List Char)) (habsent : members.lookup key = none → part record = b) :
    part (members.foldl (fun record member => take member.1 record) record) = b := by
  induction members generalizing record with
  | nil => exact habsent rfl
  | cons member members ih =>
    refine ih fun hlater => ?_
    rw [htake]
    split
    · rfl
    · rename_i hne
      refine habsent ?_
      rw [List.lookup_cons, beq_eq_false_iff_ne.mpr (Ne.symm hne)]
      exact hlater

end

theorem readWhole_append {reader : Reader α} {a : α} {after : List Char} (h : Reads reader value a)
    (hgap : Gap gap) (hafter : Gap after) : readWhole reader (gap ++ (value ++ after)) = .ok a := by
  have hrest : dropGap after = dropGap [] := by simpa using dropGap_append hafter []
  simp only [readWhole, h.read hgap, hrest]
  rfl

end ActionLookup.Json
