import ActionLookup.Proofs.Json.Records

namespace ActionLookup.Json

variable {α β : Type} {c opening closing : Char} {cs piece : List Char} {as : List α}
  {W : α → List Char → Prop} {V : β → List Char → Prop} {P : β → Prop}

/-! ### Strings -/

theorem Spells.exists_pieces (h : Spells c piece) :
    ∃ pieces : List (List Char), (∀ part ∈ pieces, IsPiece part) ∧ piece = pieces.flatten := by
  cases h with
  | plain hplain => exact ⟨[_], List.forall_mem_singleton.mpr (.plain hplain), by simp⟩
  | short hshort => exact ⟨[_], List.forall_mem_singleton.mpr (.short hshort), by simp⟩
  | unit hunit => exact ⟨[_], List.forall_mem_singleton.mpr (.unit hunit), by simp⟩
  | pair _ hhigh hlow =>
    -- Two pieces: it does not matter here that together they spell one character.
    exact ⟨[_, _], List.forall_mem_cons.mpr ⟨.unit hhigh, List.forall_mem_singleton.mpr (.unit hlow)⟩, by simp⟩

theorem exists_pieces {text : List Char} {spelled : List (List Char)} (h : List.Forall₂ Spells text spelled) :
    ∃ pieces : List (List Char), (∀ part ∈ pieces, IsPiece part) ∧ spelled.flatten = pieces.flatten := by
  induction h with
  | nil => exact ⟨[], nofun, rfl⟩
  | cons hpiece _ ih =>
    obtain ⟨pieces, hpieces, hflatten⟩ := ih
    obtain ⟨first, hfirst, rfl⟩ := hpiece.exists_pieces
    exact ⟨first ++ pieces, List.forall_mem_append.mpr ⟨hfirst, hpieces⟩, by simp [hflatten]⟩

theorem SpellsString.isString {s : String} (h : SpellsString s cs) : IsString cs := by
  obtain ⟨spelled, hspelled, rfl⟩ := h
  obtain ⟨pieces, hpieces, hflatten⟩ := exists_pieces hspelled
  exact ⟨pieces, hpieces, by rw [hflatten]⟩

theorem WritesOptional.isValue {o : Option String} (h : WritesOptional o (some cs)) : IsValue cs := by
  cases h with
  | null => exact .literal (by decide)
  | string hstring => exact .string hstring.isString

/-! ### Lists and records -/

theorem Padded.imp {U : α → List Char → Prop} (hW : ∀ a value, W a value → U a value) {a : α} {item : List Char}
    (h : Padded W a item) : Padded U a item := by
  obtain ⟨before, value, after, hbefore, hvalue, hafter, rfl⟩ := h
  exact ⟨before, value, after, hbefore, hW a value hvalue, hafter, rfl⟩

theorem WritesList.imp {U : α → List Char → Prop} (hW : ∀ a value, W a value → U a value)
    {written : Option (List Char)} (h : WritesList W as written) : WritesList U as written := by
  cases h with
  | omitted => exact .omitted
  | written henclosed =>
    refine .written ?_
    cases henclosed with
    | empty hgap => exact .empty hgap
    | items hitem hitems => exact .items (hitem.imp hW) (hitems.imp fun _ _ => Padded.imp hW)

theorem exists_forall₂ {items : List (List Char)}
    (hitem : ∀ a ∈ as, ∀ item, W a item → ∃ b, P b ∧ V b item) (h : List.Forall₂ W as items) :
    ∃ bs, (∀ b ∈ bs, P b) ∧ List.Forall₂ V bs items := by
  induction h with
  | nil => exact ⟨[], nofun, .nil⟩
  | cons hfirst _ ih =>
    obtain ⟨hitem, hmore⟩ := List.forall_mem_cons.mp hitem
    obtain ⟨b, hb, hfirst⟩ := hitem _ hfirst
    obtain ⟨bs, hbs, hitems⟩ := ih hmore
    exact ⟨b :: bs, List.forall_mem_cons.mpr ⟨hb, hbs⟩, .cons hfirst hitems⟩

theorem Enclosed.exists_enclosed (hitem : ∀ a ∈ as, ∀ item, W a item → ∃ b, P b ∧ V b item)
    (h : Enclosed opening closing W as cs) : ∃ bs, (∀ b ∈ bs, P b) ∧ Enclosed opening closing V bs cs := by
  cases h with
  | empty hgap => exact ⟨[], nofun, .empty hgap⟩
  | items hfirst hitems =>
    obtain ⟨hitem, hmore⟩ := List.forall_mem_cons.mp hitem
    obtain ⟨b, hb, hfirst⟩ := hitem _ hfirst
    obtain ⟨bs, hbs, hitems⟩ := exists_forall₂ hmore hitems
    exact ⟨b :: bs, List.forall_mem_cons.mpr ⟨hb, hbs⟩, .items hfirst hitems⟩

theorem WritesList.isValue (hW : ∀ a value, W a value → IsValue value) (h : WritesList W as (some cs)) :
    IsValue cs := by
  cases h with
  | written henclosed =>
    have hitem : ∀ a ∈ as, ∀ item, Padded W a item → ∃ value, IsValue value ∧ Padded Eq value item := by
      rintro a - _ ⟨before, value, after, hbefore, hvalue, hafter, rfl⟩
      exact ⟨value, hW a value hvalue, before, value, after, hbefore, rfl, hafter, rfl⟩
    obtain ⟨values, hvalues, henclosed⟩ := henclosed.exists_enclosed hitem
    exact .array hvalues henclosed

theorem WritesRecord.isValue {known : List String} {members : List (String × List Char)} (honce : known.Nodup)
    (hknown : ∀ key ∈ known, ∀ value, members.lookup key = some value → IsValue value)
    (h : WritesRecord known members cs) : IsValue cs := by
  have hvalues : ∀ member ∈ members, IsValue member.2 := by
    intro member hmem
    by_cases hkey : member.1 ∈ known
    · exact hknown member.1 hkey member.2 (h.lookup_eq_some honce hmem hkey)
    · exact h.others hmem hkey
  cases h with
  | object hobject =>
    have hitem : ∀ member ∈ members, ∀ item, Keyed SpellsString member item →
        ∃ m : List Char × List Char, (IsString m.1 ∧ IsValue m.2) ∧ Keyed Eq m item := by
      rintro member hmem _ ⟨_, value, ⟨before, key, after, hbefore, hkey, hafter, rfl⟩, hvalue, rfl⟩
      exact ⟨(key, member.2), ⟨hkey.isString, hvalues member hmem⟩, _, value,
        ⟨before, key, after, hbefore, rfl, hafter, rfl⟩, hvalue, rfl⟩
    obtain ⟨parts, hparts, henclosed⟩ := hobject.written.exists_enclosed hitem
    exact .object (fun part hpart => (hparts part hpart).1) (fun part hpart => (hparts part hpart).2) henclosed
  | list _ henclosed =>
    refine .array ?_ henclosed
    intro value hvalue
    obtain ⟨member, hmem, rfl⟩ := List.mem_map.mp hvalue
    exact hvalues member hmem

end ActionLookup.Json
