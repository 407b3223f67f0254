import ActionLookup.Proofs.Asset.Parts

namespace ActionLookup.Asset

open Json

def Action.SaidBy (action : Action) (members : List (String × List Char)) : Prop :=
  WritesOptional action.name (members.lookup "name") ∧
    WritesOptional action.actionType (members.lookup "type") ∧
    WritesOptional action.expectedControlType (members.lookup "expectedControlType")

def DenotesAction (action : Action) (cs : List Char) : Prop :=
  ∃ members, WritesRecord ["name", "type", "expectedControlType"] members cs ∧ action.SaidBy members

def ActionMap.SaidBy (map : ActionMap) (members : List (String × List Char)) : Prop :=
  WritesOptional map.name (members.lookup "name") ∧
    WritesList DenotesAction map.actions (members.lookup "actions")

def DenotesMap (map : ActionMap) (cs : List Char) : Prop :=
  ∃ members, WritesRecord ["name", "actions"] members cs ∧ map.SaidBy members

def Document.SaidBy (document : Document) (members : List (String × List Char)) : Prop :=
  WritesOptional document.name (members.lookup "name") ∧
    WritesList DenotesMap document.maps (members.lookup "maps")

def DenotesDocument (document : Document) (cs : List Char) : Prop :=
  ∃ members, WritesRecord ["name", "maps"] members cs ∧ document.SaidBy members

/-- The text is one value with gaps around it, and that value is the document. -/
def Document.DenotedBy (document : Document) (text : String) : Prop :=
  Padded DenotesDocument document text.toList

variable {limit : Nat}

theorem writesOptional_none_iff {o : Option String} : WritesOptional o none ↔ o = none :=
  ⟨WritesOptional.eq_none, fun h => h ▸ .omitted⟩

theorem writesList_none_iff {α : Type} {W : α → List Char → Prop} {as : List α} :
    WritesList W as none ↔ as = [] :=
  ⟨WritesList.eq_nil, fun h => h ▸ .omitted⟩

/-! ### The parts of the records -/

def actionParts : List (Part Action) := [
  ⟨"name", readOptional, Action.name, fun name action => { action with name }, WritesOptional⟩,
  ⟨"type", readOptional, Action.actionType, fun actionType action => { action with actionType },
    WritesOptional⟩,
  ⟨"expectedControlType", readOptional, Action.expectedControlType,
    fun expectedControlType action => { action with expectedControlType }, WritesOptional⟩]

def mapParts (limit : Nat) : List (Part ActionMap) := [
  ⟨"name", readOptional, ActionMap.name, fun name map => { map with name }, WritesOptional⟩,
  ⟨"actions", readList limit (readAction limit), ActionMap.actions,
    fun actions map => { map with actions }, WritesList DenotesAction⟩]

def documentParts (limit : Nat) : List (Part Document) := [
  ⟨"name", readOptional, Document.name, fun name document => { document with name }, WritesOptional⟩,
  ⟨"maps", readList limit (readMap limit), Document.maps, fun maps document => { document with maps },
    WritesList DenotesMap⟩]

theorem denotesRecord_action : DenotesRecord actionParts = DenotesAction := by
  funext action cs
  simp [DenotesRecord, DenotesAction, Says, actionParts, Part.Says, Action.SaidBy]

theorem denotesRecord_map (limit : Nat) : DenotesRecord (mapParts limit) = DenotesMap := by
  funext map cs
  simp [DenotesRecord, DenotesMap, Says, mapParts, Part.Says, ActionMap.SaidBy]

theorem denotesRecord_document (limit : Nat) : DenotesRecord (documentParts limit) = DenotesDocument := by
  funext document cs
  simp [DenotesRecord, DenotesDocument, Says, documentParts, Part.Says, Document.SaidBy]

theorem composes_action : Composes actionParts .empty where
  once := by decide
  get_put := by simp [actionParts]
  apart := by simp [actionParts]
  ext {a b} := by
    obtain ⟨_, _, _⟩ := a
    obtain ⟨_, _, _⟩ := b
    simp [actionParts]
  absent := by simp [actionParts, Action.empty, writesOptional_none_iff]

theorem composes_map (limit : Nat) : Composes (mapParts limit) .empty where
  once := show ["name", "actions"].Nodup by decide
  get_put := by simp [mapParts]
  apart := by simp [mapParts]
  ext {a b} := by
    obtain ⟨_, _⟩ := a
    obtain ⟨_, _⟩ := b
    simp [mapParts]
  absent := by simp [mapParts, ActionMap.empty, writesOptional_none_iff, writesList_none_iff]

theorem composes_document (limit : Nat) : Composes (documentParts limit) .empty where
  once := show ["name", "maps"].Nodup by decide
  get_put := by simp [documentParts]
  apart := by simp [documentParts]
  ext {a b} := by
    obtain ⟨_, _⟩ := a
    obtain ⟨_, _⟩ := b
    simp [documentParts]
  absent := by simp [documentParts, Document.empty, writesOptional_none_iff, writesList_none_iff]

theorem readsBelow_optional (limit : Nat) :
    ReadsBelow limit readOptional fun o value => WritesOptional o (some value) :=
  fun h _ => reads_optional h

theorem readsBelow_list {α : Type} {element : Reader α} {W : α → List Char → Prop}
    (h : ReadsBelow limit element W) :
    ReadsBelow limit (readList limit element) fun as value => WritesList W as (some value) :=
  fun hwrites hlimit => reads_list h hwrites hlimit

theorem readsBelow_action (limit : Nat) : ReadsBelow limit (readAction limit) DenotesAction := by
  have hparts : ∀ p ∈ actionParts, ReadsBelow limit p.reader fun a value => p.Writes a (some value) := by
    simp only [actionParts, List.forall_mem_cons]
    exact ⟨readsBelow_optional limit, readsBelow_optional limit, readsBelow_optional limit, List.forall_mem_nil _⟩
  intro action cs hdenotes hlimit
  rw [← denotesRecord_action] at hdenotes
  exact composes_action.readsBelow hparts "ActionEntry" hdenotes hlimit

theorem readsBelow_map (limit : Nat) : ReadsBelow limit (readMap limit) DenotesMap := by
  have hparts : ∀ p ∈ mapParts limit, ReadsBelow limit p.reader fun a value => p.Writes a (some value) := by
    simp only [mapParts, List.forall_mem_cons]
    exact ⟨readsBelow_optional limit, readsBelow_list (readsBelow_action limit), List.forall_mem_nil _⟩
  intro map cs hdenotes hlimit
  rw [← denotesRecord_map limit] at hdenotes
  exact (composes_map limit).readsBelow hparts "MapEntry" hdenotes hlimit

theorem readsBelow_document (limit : Nat) : ReadsBelow limit (readDocument limit) DenotesDocument := by
  have hparts : ∀ p ∈ documentParts limit,
      ReadsBelow limit p.reader fun a value => p.Writes a (some value) := by
    simp only [documentParts, List.forall_mem_cons]
    exact ⟨readsBelow_optional limit, readsBelow_list (readsBelow_map limit), List.forall_mem_nil _⟩
  intro document cs hdenotes hlimit
  rw [← denotesRecord_document limit] at hdenotes
  exact (composes_document limit).readsBelow hparts "AssetEntry" hdenotes hlimit

theorem ofJson_of_denotedBy {document : Document} {text : String} (h : document.DenotedBy text) :
    Document.ofJson text = .ok document := by
  obtain ⟨before, value, after, hbefore, hvalue, hafter, htext⟩ := h
  have hlength : value.length < text.length + 1 := by
    rw [← String.length_toList, htext]
    simp only [List.length_append]
    omega
  rw [Document.ofJson, htext]
  exact readWhole_append (readsBelow_document _ hvalue hlength) hbefore hafter

theorem Document.DenotedBy.unique {document other : Document} {text : String} (h : document.DenotedBy text)
    (hother : other.DenotedBy text) : other = document :=
  Except.ok.inj ((ofJson_of_denotedBy hother).symm.trans (ofJson_of_denotedBy h))

/-! ### A value of the grammar -/

theorem DenotesAction.isValue {action : Action} {cs : List Char} (h : DenotesAction action cs) : IsValue cs := by
  refine composes_action.isValue ?_ (denotesRecord_action ▸ h)
  simp only [actionParts, List.forall_mem_cons]
  exact ⟨fun _ _ => WritesOptional.isValue, fun _ _ => WritesOptional.isValue,
    fun _ _ => WritesOptional.isValue, List.forall_mem_nil _⟩

theorem DenotesMap.isValue {map : ActionMap} {cs : List Char} (h : DenotesMap map cs) : IsValue cs := by
  refine (composes_map 0).isValue ?_ (denotesRecord_map 0 ▸ h)
  simp only [mapParts, List.forall_mem_cons]
  exact ⟨fun _ _ => WritesOptional.isValue, fun _ _ => WritesList.isValue fun _ _ => DenotesAction.isValue, List.forall_mem_nil _⟩

theorem DenotesDocument.isValue {document : Document} {cs : List Char} (h : DenotesDocument document cs) :
    IsValue cs := by
  refine (composes_document 0).isValue ?_ (denotesRecord_document 0 ▸ h)
  simp only [documentParts, List.forall_mem_cons]
  exact ⟨fun _ _ => WritesOptional.isValue, fun _ _ => WritesList.isValue fun _ _ => DenotesMap.isValue, List.forall_mem_nil _⟩

end ActionLookup.Asset
