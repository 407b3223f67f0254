import ActionLookup.Asset.Document
import ActionLookup.Proofs.Json.Accepted.Records
import ActionLookup.Proofs.Json.Values

/-!
Records by their parts. If each part is read as it is written, and the parts are put one by one and
make up the record, then the record is read as it is written, and nothing else is read as a record.
-/

namespace ActionLookup.Asset

open Json

/-- The type of the part, how it is read and put, and what its member says of it. -/
structure Part (σ : Type) where
  {α : Type}
  key : String
  reader : Reader α
  get : σ → α
  put : α → σ → σ
  Writes : α → Option (List Char) → Prop

variable {α σ : Type} {parts : List (Part σ)} {members : List (String × List Char)} {record empty : σ}

def Part.fieldReader (p : Part σ) : FieldReader σ := field p.key p.reader p.put

def Part.Says (p : Part σ) (members : List (String × List Char)) (record : σ) : Prop :=
  p.Writes (p.get record) (members.lookup p.key)

def Says (parts : List (Part σ)) (members : List (String × List Char)) (record : σ) : Prop :=
  ∀ p ∈ parts, p.Says members record

def DenotesRecord (parts : List (Part σ)) (record : σ) (cs : List Char) : Prop :=
  ∃ members, WritesRecord (parts.map Part.key) members cs ∧ Says parts members record

structure Composes (parts : List (Part σ)) (empty : σ) : Prop where
  once : (parts.map Part.key).Nodup
  get_put : ∀ p ∈ parts, ∀ a record, p.get (p.put a record) = a
  apart : ∀ p ∈ parts, ∀ q ∈ parts, q.key ≠ p.key → ∀ a record, q.get (p.put a record) = q.get record
  ext : ∀ {a b}, (∀ p ∈ parts, p.get a = p.get b) → a = b
  absent : ∀ p ∈ parts, ∀ a, p.Writes a none ↔ a = p.get empty

def take (parts : List (Part σ)) (record : σ) (key : String) : σ → σ :=
  match parts.find? fun p => p.key == key with
  | none => id
  | some p => p.put (p.get record)

theorem map_key_fieldReader (parts : List (Part σ)) :
    (parts.map Part.fieldReader).map FieldReader.key = parts.map Part.key :=
  List.map_map

section Reading

variable {limit : Nat}

theorem reads_field {key : String} {reader : Reader α} {put : α → σ → σ} {take : String → σ → σ} {a : α}
    {value : List Char} (htake : take key = put a) (h : Reads reader value a) :
    Reads (field key reader put).read value (take key) := by
  refine ⟨h.opens, fun {gap rest} hgap => ?_⟩
  simp only [field, h.read hgap, htake]

theorem take_of_not_mem {key : String} (h : key ∉ parts.map Part.key) : take parts record key = id := by
  have hnone : (parts.find? fun p => p.key == key) = none := by
    rw [List.find?_eq_none]
    intro p hp
    simpa using fun heq : p.key = key => h (heq ▸ List.mem_map_of_mem hp)
  rw [take, hnone]

theorem Composes.take_key (h : Composes parts empty) {p : Part σ} (hp : p ∈ parts) :
    take parts record p.key = p.put (p.get record) := by
  cases hfind : parts.find? fun q => q.key == p.key with
  | none => exact absurd hp (by simpa using fun hmem => List.find?_eq_none.mp hfind p hmem (beq_self_eq_true _))
  | some q =>
      have hkey : q.key = p.key := by simpa using List.find?_some hfind
      obtain rfl := List.inj_on_of_nodup_map h.once (List.mem_of_find?_eq_some hfind) hp hkey
      rw [take, hfind]

theorem Composes.get_take (h : Composes parts empty) {p : Part σ} (hp : p ∈ parts) (key : String) (other : σ) :
    p.get (take parts record key other) = if key = p.key then p.get record else p.get other := by
  by_cases hmem : key ∈ parts.map Part.key
  · obtain ⟨q, hq, rfl⟩ := List.mem_map.mp hmem
    rw [h.take_key hq]
    split
    · rename_i hkey
      obtain rfl := List.inj_on_of_nodup_map h.once hq hp hkey
      exact h.get_put q hq ..
    · rename_i hkey
      exact h.apart q hq p hp (Ne.symm hkey) ..
  · have hne : key ≠ p.key := fun heq => hmem (heq ▸ List.mem_map_of_mem hp)
    rw [take_of_not_mem hmem, if_neg hne]
    rfl

theorem Composes.readsBelow (h : Composes parts empty)
    (hreads : ∀ p ∈ parts, ReadsBelow limit p.reader fun a value => p.Writes a (some value)) (name : String) :
    ReadsBelow limit (readRecord limit name (parts.map Part.fieldReader) empty) (DenotesRecord parts) := by
  rintro record cs ⟨members, hrecord, hsaid⟩ hlimit
  rw [← map_key_fieldReader] at hrecord
  have honce := map_key_fieldReader parts ▸ h.once
  refine reads_record (take parts record) ?known ?other ?done honce hrecord hlimit
  case known =>
    intro reader hreader value hvalue hshort
    obtain ⟨p, hp, rfl⟩ := List.mem_map.mp hreader
    have hwrites : p.Writes (p.get record) (members.lookup p.key) := hsaid p hp
    rw [show members.lookup p.key = some value from hvalue] at hwrites
    exact reads_field (h.take_key hp) (hreads p hp hwrites hshort)
  case other =>
    intro key hkey
    rw [map_key_fieldReader] at hkey
    exact take_of_not_mem hkey
  case done =>
    -- Every key sets its own part and no other, so their order does not matter.
    refine h.ext fun p hp => part_foldl p.get (h.get_take hp) members fun hnone => ?_
    have hwrites : p.Writes (p.get record) (members.lookup p.key) := hsaid p hp
    rw [hnone] at hwrites
    exact ((h.absent p hp _).mp hwrites).symm

end Reading

section Acceptance

variable {key other : String} {value : List Char}

theorem lookup_snoc_self (h : key ∉ members.map Prod.fst) :
    (members ++ [(key, value)]).lookup key = some value := by
  have habsent : members.lookup key = none := by
    rw [List.lookup_eq_none_iff]
    intro member hmem
    have hne : key ≠ member.1 := fun heq => h (heq ▸ List.mem_map_of_mem hmem)
    simpa using hne
  rw [List.lookup_append, habsent, Option.none_or, List.lookup_cons_self]

theorem lookup_snoc_of_ne (h : other ≠ key) :
    (members ++ [(key, value)]).lookup other = members.lookup other := by
  have hlast : [(key, value)].lookup other = none := by
    rw [List.lookup_cons, beq_eq_false_iff_ne.mpr h]
    rfl
  rw [List.lookup_append, hlast, Option.or_none]

theorem takes_field {reader : Reader α} {put : α → σ → σ} {W : α → List Char → Prop} (h : Takes reader W) :
    Takes (field key reader put).read fun update value => ∃ a, update = put a ∧ W a value := by
  intro update cs rest hread
  cases hreader : reader cs with
  | error f => simp [field, hreader] at hread
  | ok p =>
    obtain ⟨a, behind⟩ := p
    simp only [field, hreader, Except.ok.injEq, Prod.mk.injEq] at hread
    obtain ⟨rfl, rfl⟩ := hread
    obtain ⟨gap, value, hgap, hvalue, rfl⟩ := h hreader
    exact ⟨gap, value, hgap, ⟨a, rfl, hvalue⟩, rfl⟩

theorem Composes.keeps (h : Composes parts empty)
    (htakes : ∀ p ∈ parts, Takes p.reader fun a value => p.Writes a (some value)) :
    Keeps (parts.map Part.fieldReader) (Says parts) where
  known := by
    intro reader hreader
    obtain ⟨p, hp, rfl⟩ := List.mem_map.mp hreader
    refine (takes_field (htakes p hp)).imp ?_
    rintro _ value ⟨a, rfl, hwrites⟩ members record hnew hsaid q hq
    unfold Part.Says
    by_cases hkey : q.key = p.key
    · obtain rfl := List.inj_on_of_nodup_map h.once hq hp hkey
      rw [h.get_put q hq]
      exact (lookup_snoc_self hnew).symm ▸ hwrites
    · rw [h.apart p hp q hq hkey]
      exact (lookup_snoc_of_ne hkey).symm ▸ hsaid q hq
  other := by
    intro key value members record hkey hsaid p hp
    rw [map_key_fieldReader] at hkey
    have hne : p.key ≠ key := fun heq => hkey (heq ▸ List.mem_map_of_mem hp)
    unfold Part.Says
    rw [lookup_snoc_of_ne hne]
    exact hsaid p hp

theorem Composes.takes (h : Composes parts empty)
    (htakes : ∀ p ∈ parts, Takes p.reader fun a value => p.Writes a (some value)) (fuel : Nat) (name : String) :
    Takes (readRecord fuel name (parts.map Part.fieldReader) empty) (DenotesRecord parts) := by
  have hempty : Says parts [] empty := fun p hp => (h.absent p hp _).mpr rfl
  have honce := map_key_fieldReader parts ▸ h.once
  have hrecord := takes_record (h.keeps htakes) hempty honce fuel name
  rwa [map_key_fieldReader] at hrecord

end Acceptance

theorem Composes.isValue (h : Composes parts empty) {cs : List Char}
    (hvalue : ∀ p ∈ parts, ∀ a value, p.Writes a (some value) → IsValue value)
    (hdenotes : DenotesRecord parts record cs) : IsValue cs := by
  obtain ⟨members, hrecord, hsaid⟩ := hdenotes
  refine hrecord.isValue h.once fun key hkey value hlookup => ?_
  obtain ⟨p, hp, rfl⟩ := List.mem_map.mp hkey
  have hwrites : p.Writes (p.get record) (members.lookup p.key) := hsaid p hp
  rw [hlookup] at hwrites
  exact hvalue p hp _ value hwrites

end ActionLookup.Asset
