import Mathlib.Data.List.Nodup
import ActionLookup.Json.Record
import ActionLookup.Proofs.Json.Accepted.Values

namespace ActionLookup.Json

variable {α σ : Type} {cs rest : List Char} {fuel : Nat} {first : Bool}

/-- Whatever the reader gives back stands in the text. -/
def Takes (reader : Reader α) (W : α → List Char → Prop) : Prop :=
  ∀ ⦃a : α⦄ ⦃cs rest : List Char⦄, reader cs = .ok (a, rest) →
    ∃ gap value, Gap gap ∧ W a value ∧ cs = gap ++ (value ++ rest)

theorem Takes.imp {reader : Reader α} {W U : α → List Char → Prop} (h : Takes reader W)
    (hW : ∀ a value, W a value → U a value) : Takes reader U := by
  intro a cs rest hread
  obtain ⟨gap, value, hgap, hvalue, rfl⟩ := h hread
  exact ⟨gap, value, hgap, hW a value hvalue, rfl⟩

theorem takes_optional : Takes readOptional fun o value => WritesOptional o (some value) := by
  intro o cs rest h
  unfold readOptional at h
  split at h
  · rename_i tail hopen
    obtain ⟨gap, hgap, rfl⟩ := exists_gap hopen
    cases hword : readWord ['u', 'l', 'l'] tail with
    | error f => simp [hword] at h
    | ok behind =>
      simp only [hword, Except.ok.injEq, Prod.mk.injEq] at h
      obtain ⟨rfl, rfl⟩ := h
      obtain rfl := readWord_eq_ok hword
      exact ⟨gap, _, hgap, .null, rfl⟩
  · rename_i inside hopen
    obtain ⟨gap, hgap, rfl⟩ := exists_gap hopen
    cases hstring : readString inside with
    | error f => simp [hstring] at h
    | ok p =>
      obtain ⟨s, behind⟩ := p
      simp only [hstring, Except.ok.injEq, Prod.mk.injEq] at h
      obtain ⟨rfl, rfl⟩ := h
      obtain ⟨inside, hspelled, rfl⟩ := spellsString_of_readString hstring
      exact ⟨gap, _, hgap, .string hspelled, rfl⟩
  · exact nomatch h

/-! ### Lists -/

theorem nextElement_eq_close (h : nextElement first cs = .ok (.close rest)) :
    ∃ gap, Gap gap ∧ cs = gap ++ ']' :: rest := by
  unfold nextElement at h
  split at h
  · exact nomatch h
  · rename_i hclose
    obtain rfl := Next.close.inj (Except.ok.inj h)
    exact exists_gap hclose
  · split at h
    · exact nomatch h
    split at h
    · split at h <;> exact nomatch h
    · exact nomatch h

theorem nextElement_eq_item (h : nextElement first cs = .ok (.item rest)) :
    ∃ pre gap, Lead first pre ∧ Gap gap ∧ cs = pre ++ (gap ++ rest) := by
  unfold nextElement at h
  split at h
  · exact nomatch h
  · exact nomatch h
  · rename_i hopen
    obtain ⟨gap, hgap, rfl⟩ := exists_gap hopen
    split at h
    · rename_i hfirst
      subst hfirst
      obtain rfl := Next.item.inj (Except.ok.inj h)
      exact ⟨[], gap, lead_first, hgap, rfl⟩
    split at h
    · rename_i hlater hcomma
      rw [Bool.not_eq_true] at hlater
      subst hlater hcomma
      split at h
      · exact nomatch h
      · exact nomatch h
      · obtain rfl := Next.item.inj (Except.ok.inj h)
        obtain ⟨before, hbefore, hcs⟩ := exists_gap rfl
        exact ⟨_, before, ⟨gap, hgap, rfl⟩, hbefore, by rw [← hcs, ← List.append_cons]⟩
    · exact nomatch h

theorem due_of_readElements {element : Reader α} {W : α → List Char → Prop} {done all : List α}
    (helement : Takes element W) (h : readElements element fuel first done cs = .ok (all, rest)) :
    ∃ as due, all = done.reverse ++ as ∧ Due ']' (Padded W) first as due ∧ cs = due ++ rest := by
  induction fuel generalizing first done cs with
  | zero => exact nomatch h
  | succ fuel ih =>
    cases hnext : nextElement first cs with
    | error f => simp [readElements, hnext] at h
    | ok next =>
      cases next with
      | close behind =>
        simp only [readElements, hnext, Except.ok.injEq, Prod.mk.injEq] at h
        obtain ⟨rfl, rfl⟩ := h
        obtain ⟨gap, hgap, rfl⟩ := nextElement_eq_close hnext
        exact ⟨[], _, (List.append_nil _).symm, .close hgap, by simp⟩
      | item behind =>
        cases hitem : element behind with
        | error f => simp [readElements, hnext, hitem] at h
        | ok p =>
          obtain ⟨a, tail⟩ := p
          simp only [readElements, hnext, hitem] at h
          obtain ⟨as, due, rfl, hdue, rfl⟩ := ih h
          obtain ⟨pre, gap, hlead, hgap, rfl⟩ := nextElement_eq_item hnext
          obtain ⟨before, value, hbefore, hvalue, rfl⟩ := helement hitem
          have hinner : Gap (gap ++ before) := List.forall_mem_append.mpr ⟨hgap, hbefore⟩
          exact ⟨a :: as, _, by simp, .item hlead (starts_padded hinner hvalue) hdue, by simp⟩

theorem takes_list {element : Reader α} {W : α → List Char → Prop} (helement : Takes element W) (fuel : Nat) :
    Takes (readList fuel element) fun as value => WritesList W as (some value) := by
  intro as cs rest h
  unfold readList at h
  split at h
  · rename_i inside hopen
    obtain ⟨gap, hgap, rfl⟩ := exists_gap hopen
    obtain ⟨as, due, rfl, hdue, rfl⟩ := due_of_readElements helement h
    exact ⟨gap, _, hgap, .written (hdue.enclosed '['), rfl⟩
  · exact nomatch h

/-! ### Records -/

theorem nextKey_eq_close (h : nextKey first cs = .ok (.close rest)) :
    ∃ gap, Gap gap ∧ cs = gap ++ '\x7d' :: rest := by
  unfold nextKey at h
  split at h
  · exact nomatch h
  · rename_i hclose
    obtain rfl := Next.close.inj (Except.ok.inj h)
    exact exists_gap hclose
  · split at h
    · split at h <;> exact nomatch h
    split at h
    · split at h <;> exact nomatch h
    · exact nomatch h

theorem nextKey_eq_item (h : nextKey first cs = .ok (.item rest)) :
    ∃ pre gap, Lead first pre ∧ Gap gap ∧ cs = pre ++ (gap ++ '"' :: rest) := by
  unfold nextKey at h
  split at h
  · exact nomatch h
  · exact nomatch h
  · rename_i hopen
    obtain ⟨gap, hgap, rfl⟩ := exists_gap hopen
    split at h
    · rename_i hfirst
      split at h
      · rename_i hquote
        subst hfirst hquote
        obtain rfl := Next.item.inj (Except.ok.inj h)
        exact ⟨[], gap, lead_first, hgap, rfl⟩
      · exact nomatch h
    split at h
    · rename_i hlater hcomma
      rw [Bool.not_eq_true] at hlater
      subst hlater hcomma
      split at h
      · exact nomatch h
      · rename_i hquote
        obtain rfl := Next.item.inj (Except.ok.inj h)
        obtain ⟨before, hbefore, rfl⟩ := exists_gap hquote
        exact ⟨_, before, ⟨gap, hgap, rfl⟩, hbefore, by rw [← List.append_cons]⟩
      · exact nomatch h
      · exact nomatch h
    · exact nomatch h

structure Keeps (fields : List (FieldReader σ)) (Kept : List (String × List Char) → σ → Prop) : Prop where
  known : ∀ field ∈ fields, Takes field.read fun update value => ∀ {members record},
    field.key ∉ members.map Prod.fst → Kept members record →
      Kept (members ++ [(field.key, value)]) (update record)
  other : ∀ {key value members record}, key ∉ fields.map FieldReader.key → Kept members record →
    Kept (members ++ [(key, value)]) record

section

variable {fields : List (FieldReader σ)} {Kept : List (String × List Char) → σ → Prop}
  {done : List (String × List Char)} {inside : List Char} {seen : List String} {record final : σ}

theorem closeFields_eq_ok (h : closeFields record cs = .ok (final, rest)) :
    final = record ∧ ∃ gap, Gap gap ∧ cs = gap ++ ']' :: rest := by
  unfold closeFields at h
  split at h
  · exact nomatch h
  · rename_i hclose
    obtain ⟨rfl, rfl⟩ := Prod.mk.inj (Except.ok.inj h)
    exact ⟨rfl, exists_gap hclose⟩
  · split at h <;> exact nomatch h
  · exact nomatch h

theorem due_of_readFields {later : List (FieldReader σ)} (hkeeps : Keeps fields Kept)
    (hlater : ∀ field ∈ later, field ∈ fields)
    (honce : (done.map Prod.fst ++ later.map FieldReader.key).Nodup) (hkept : Kept done record)
    (h : readFields later first record cs = .ok (final, rest)) :
    ∃ members due, members.map Prod.fst <+: later.map FieldReader.key ∧
      Due ']' (Padded Eq) first (members.map Prod.snd) due ∧ Kept (done ++ members) final ∧
      cs = due ++ rest := by
  -- The keys of what is done and of the fields to come stay apart, so that every field is a new one.
  induction later generalizing first done record cs with
  | nil =>
    obtain ⟨rfl, gap, hgap, rfl⟩ := closeFields_eq_ok h
    exact ⟨[], _, List.prefix_rfl, .close hgap, by simpa using hkept, by simp⟩
  | cons field later ih =>
    cases hnext : nextElement first cs with
    | error f => simp [readFields, hnext] at h
    | ok next =>
      cases next with
      | close behind =>
        simp only [readFields, hnext, Except.ok.injEq, Prod.mk.injEq] at h
        obtain ⟨rfl, rfl⟩ := h
        obtain ⟨gap, hgap, rfl⟩ := nextElement_eq_close hnext
        exact ⟨[], _, List.nil_prefix, .close hgap, by simpa using hkept, by simp⟩
      | item behind =>
        cases hitem : field.read behind with
        | error f => simp [readFields, hnext, hitem] at h
        | ok p =>
          obtain ⟨update, tail⟩ := p
          simp only [readFields, hnext, hitem] at h
          obtain ⟨hfield, hmore⟩ := List.forall_mem_cons.mp hlater
          obtain ⟨pre, gap, hlead, hgap, rfl⟩ := nextElement_eq_item hnext
          obtain ⟨before, value, hbefore, hvalue, rfl⟩ := hkeeps.known field hfield hitem
          have hnew : field.key ∉ done.map Prod.fst := fun hold =>
            List.disjoint_of_nodup_append honce hold List.mem_cons_self
          have honce : ((done ++ [(field.key, value)]).map Prod.fst ++ later.map FieldReader.key).Nodup := by
            simpa using honce
          obtain ⟨members, due, hkeys, hdue, hfinal, rfl⟩ := ih hmore honce (hvalue hnew hkept) h
          have hinner : Gap (gap ++ before) := List.forall_mem_append.mpr ⟨hgap, hbefore⟩
          exact ⟨(field.key, value) :: members, _, List.cons_prefix_cons.mpr ⟨rfl, hkeys⟩,
            .item hlead (starts_padded hinner rfl) hdue, by simpa using hfinal, by simp⟩

structure ReadSoFar (fields : List (FieldReader σ)) (Kept : List (String × List Char) → σ → Prop)
    (done : List (String × List Char)) (seen : List String) (record : σ) : Prop where
  kept : Kept done record
  once : ((done.map Prod.fst).filter (· ∈ fields.map FieldReader.key)).Nodup
  others : ∀ member ∈ done, member.1 ∉ fields.map FieldReader.key → IsValue member.2
  noted : ∀ key ∈ done.map Prod.fst, key ∈ fields.map FieldReader.key → key ∈ seen

namespace ReadSoFar

theorem start (h : Kept [] record) : ReadSoFar fields Kept [] [] record where
  kept := h
  once := List.nodup_nil
  others := nofun
  noted := nofun

theorem snoc_other (h : ReadSoFar fields Kept done seen record) (hkeeps : Keeps fields Kept) {key : String}
    {value : List Char} (hkey : key ∉ fields.map FieldReader.key) (hvalue : IsValue value) :
    ReadSoFar fields Kept (done ++ [(key, value)]) seen record where
  kept := hkeeps.other hkey h.kept
  once := by
    have hskip : [key].filter (· ∈ fields.map FieldReader.key) = [] := List.filter_cons_of_neg (by simpa using hkey)
    rw [List.map_append, List.filter_append, List.map_singleton, hskip, List.append_nil]
    exact h.once
  others := by
    refine List.forall_mem_append.mpr ⟨h.others, ?_⟩
    intro member hmem _
    rw [List.mem_singleton.mp hmem]
    exact hvalue
  noted := by
    intro now hmem hknown
    rw [List.map_append, List.mem_append] at hmem
    rcases hmem with hold | hsame
    · exact h.noted now hold hknown
    · rw [List.mem_singleton.mp hsame] at hknown
      exact absurd hknown hkey

theorem snoc_known (h : ReadSoFar fields Kept done seen record) {key : String} {value : List Char}
    {update : σ → σ} (hkey : key ∈ fields.map FieldReader.key) (hseen : key ∉ seen)
    (hupdate : ∀ {members record}, key ∉ members.map Prod.fst → Kept members record →
      Kept (members ++ [(key, value)]) (update record)) :
    ReadSoFar fields Kept (done ++ [(key, value)]) (key :: seen) (update record) := by
  have hnew : key ∉ done.map Prod.fst := fun hmem => hseen (h.noted key hmem hkey)
  refine ⟨hupdate hnew h.kept, ?once, ?others, ?noted⟩
  case once =>
    have htake : [key].filter (· ∈ fields.map FieldReader.key) = [key] :=
      List.filter_cons_of_pos (by simpa using hkey)
    rw [List.map_append, List.filter_append, List.map_singleton, htake]
    refine List.nodup_append'.mpr ⟨h.once, List.nodup_singleton key, ?_⟩
    rw [List.disjoint_singleton]
    exact fun hmem => hnew (List.mem_of_mem_filter hmem)
  case others =>
    refine List.forall_mem_append.mpr ⟨h.others, ?_⟩
    intro member hmem hunknown
    rw [List.mem_singleton.mp hmem] at hunknown
    exact absurd hkey hunknown
  case noted =>
    intro now hmem hknown
    rw [List.map_append, List.mem_append] at hmem
    rcases hmem with hold | hsame
    · exact List.mem_cons_of_mem _ (h.noted now hold hknown)
    · rw [List.mem_singleton.mp hsame]
      exact List.mem_cons_self

end ReadSoFar

theorem readSoFar_of_member (hkeeps : Keeps fields Kept) (hdone : ReadSoFar fields Kept done seen record)
    (hnext : nextKey first cs = .ok (.item inside))
    (h : readMembers fields (fuel + 1) first seen record cs = .ok (final, rest)) :
    ∃ pre member head tail now next, Lead first pre ∧ Starts (Keyed SpellsString) member head ∧
      cs = pre ++ (head ++ tail) ∧ ReadSoFar fields Kept (done ++ [member]) now next ∧
      readMembers fields fuel false now next tail = .ok (final, rest) := by
  obtain ⟨pre, gap, hlead, hgap, rfl⟩ := nextKey_eq_item hnext
  cases hkey : readString inside with
  | error f => simp [readMembers, hnext, hkey] at h
  | ok p =>
    obtain ⟨key, behind⟩ := p
    obtain ⟨spelled, hspelled, rfl⟩ := spellsString_of_readString hkey
    cases hfind : fields.find? fun field => field.key == key with
    | none =>
      have hunknown : key ∉ fields.map FieldReader.key := by simpa [List.find?_eq_none] using hfind
      cases hcolon : readColon behind with
      | error f => simp [readMembers, hnext, hkey, hfind, hcolon] at h
      | ok named =>
        cases hvalue : skipValue fuel named with
        | error f => simp [readMembers, hnext, hkey, hfind, hcolon, hvalue] at h
        | ok tail =>
          simp only [readMembers, hnext, hkey, hfind, hcolon, hvalue] at h
          obtain ⟨between, hbetween, rfl⟩ := readColon_eq_ok hcolon
          obtain ⟨lead, value, hlead', hisvalue, rfl⟩ := (skipsSoundly fuel).value hvalue
          exact ⟨pre, (key, value), _, tail, seen, record, hlead, starts_keyed hgap hspelled hbetween hlead',
            by simp, hdone.snoc_other hkeeps hunknown hisvalue, h⟩
    | some field =>
      have hmem := List.mem_of_find?_eq_some hfind
      have hname : field.key = key := by simpa using List.find?_some hfind
      by_cases hseen : key ∈ seen
      · simp [readMembers, hnext, hkey, hfind, hseen] at h
      cases hcolon : readColon behind with
      | error f => simp [readMembers, hnext, hkey, hfind, hseen, hcolon] at h
      | ok named =>
        cases hvalue : field.read named with
        | error f => simp [readMembers, hnext, hkey, hfind, hseen, hcolon, hvalue] at h
        | ok p =>
          obtain ⟨update, tail⟩ := p
          simp only [readMembers, hnext, hkey, hfind, if_neg hseen, hcolon, hvalue] at h
          obtain ⟨between, hbetween, rfl⟩ := readColon_eq_ok hcolon
          obtain ⟨lead, value, hlead', hupdate, rfl⟩ := hkeeps.known field hmem hvalue
          subst hname
          exact ⟨pre, (field.key, value), _, tail, _, _, hlead, starts_keyed hgap hspelled hbetween hlead',
            by simp, hdone.snoc_known (List.mem_map_of_mem hmem) hseen hupdate, h⟩

theorem due_of_readMembers (hkeeps : Keeps fields Kept) (hdone : ReadSoFar fields Kept done seen record)
    (h : readMembers fields fuel first seen record cs = .ok (final, rest)) :
    ∃ members due now, Due '\x7d' (Keyed SpellsString) first members due ∧
      ReadSoFar fields Kept (done ++ members) now final ∧ cs = due ++ rest := by
  induction fuel generalizing first done seen record cs with
  | zero => exact nomatch h
  | succ fuel ih =>
    cases hnext : nextKey first cs with
    | error f => simp [readMembers, hnext] at h
    | ok next =>
      cases next with
      | close behind =>
        simp only [readMembers, hnext, Except.ok.injEq, Prod.mk.injEq] at h
        obtain ⟨rfl, rfl⟩ := h
        obtain ⟨gap, hgap, rfl⟩ := nextKey_eq_close hnext
        exact ⟨[], _, seen, .close hgap, by simpa using hdone, by simp⟩
      | item inside =>
        obtain ⟨pre, member, head, tail, now, next, hlead, hstart, rfl, hmember, hmore⟩ :=
          readSoFar_of_member hkeeps hdone hnext h
        obtain ⟨members, due, now, hdue, hall, rfl⟩ := ih hmember hmore
        exact ⟨member :: members, _, now, .item hlead hstart hdue, by simpa using hall, by simp⟩

theorem takes_record {empty : σ} (hkeeps : Keeps fields Kept) (hempty : Kept [] empty)
    (honce : (fields.map FieldReader.key).Nodup) (fuel : Nat) (name : String) :
    Takes (readRecord fuel name fields empty) fun record value =>
      ∃ members, WritesRecord (fields.map FieldReader.key) members value ∧ Kept members record := by
  intro record cs rest h
  unfold readRecord at h
  split at h
  · rename_i inside hopen
    obtain ⟨gap, hgap, rfl⟩ := exists_gap hopen
    have hnone : (([] : List (String × List Char)).map Prod.fst ++ fields.map FieldReader.key).Nodup := honce
    obtain ⟨members, due, hkeys, hdue, hkept, rfl⟩ := due_of_readFields hkeeps (fun _ => id) hnone hempty h
    exact ⟨gap, _, hgap, ⟨members, .list hkeys (hdue.enclosed '['), hkept⟩, rfl⟩
  · rename_i inside hopen
    obtain ⟨gap, hgap, rfl⟩ := exists_gap hopen
    obtain ⟨members, due, now, hdue, hall, rfl⟩ := due_of_readMembers hkeeps (.start hempty) h
    exact ⟨gap, _, hgap, ⟨members, .object ⟨hall.once, hall.others, hdue.enclosed '\x7b'⟩, hall.kept⟩, rfl⟩
  · exact nomatch h

end

theorem Takes.whole {reader : Reader α} {W : α → List Char → Prop} {a : α} (h : Takes reader W)
    (hread : readWhole reader cs = .ok a) : Padded W a cs := by
  unfold readWhole at hread
  cases hreader : reader cs with
  | error f => simp [hreader] at hread
  | ok p =>
    obtain ⟨b, behind⟩ := p
    simp only [hreader] at hread
    split at hread
    · rename_i hend
      obtain rfl := Except.ok.inj hread
      obtain ⟨before, value, hbefore, hvalue, rfl⟩ := h hreader
      obtain ⟨after, hafter, rfl⟩ := exists_gap hend
      rw [List.append_nil]
      exact ⟨before, value, after, hbefore, hvalue, hafter, rfl⟩
    · exact nomatch hread

end ActionLookup.Json
