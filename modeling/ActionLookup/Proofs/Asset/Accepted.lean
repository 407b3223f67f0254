import ActionLookup.Proofs.Asset.Decoding
import ActionLookup.Proofs.Asset.Denoted
import ActionLookup.Proofs.Json.Accepted.Records

/-!
Assets are accepted and nothing else is. A text that is no fault is one value with gaps around it; the
value denotes a document, as an object or as a list at every level, and the outcome is the one that
this document decodes to (`schemaOfJson_accepts_assets`).
-/

namespace ActionLookup.Asset

open Json

theorem takes_action (limit : Nat) : Takes (readAction limit) DenotesAction := by
  have hparts : ∀ p ∈ actionParts, Takes p.reader fun a value => p.Writes a (some value) := by
    simp only [actionParts, List.forall_mem_cons]
    exact ⟨takes_optional, takes_optional, takes_optional, List.forall_mem_nil _⟩
  rw [← denotesRecord_action]
  exact composes_action.takes hparts limit "ActionEntry"

theorem takes_map (limit : Nat) : Takes (readMap limit) DenotesMap := by
  have hparts : ∀ p ∈ mapParts limit, Takes p.reader fun a value => p.Writes a (some value) := by
    simp only [mapParts, List.forall_mem_cons]
    exact ⟨takes_optional, takes_list (takes_action limit) limit, List.forall_mem_nil _⟩
  rw [← denotesRecord_map limit]
  exact (composes_map limit).takes hparts limit "MapEntry"

theorem takes_document (limit : Nat) : Takes (readDocument limit) DenotesDocument := by
  have hparts : ∀ p ∈ documentParts limit, Takes p.reader fun a value => p.Writes a (some value) := by
    simp only [documentParts, List.forall_mem_cons]
    exact ⟨takes_optional, takes_list (takes_map limit) limit, List.forall_mem_nil _⟩
  rw [← denotesRecord_document limit]
  exact (composes_document limit).takes hparts limit "AssetEntry"

theorem Document.ofJson_eq_ok_iff {document : Document} {text : String} :
    Document.ofJson text = .ok document ↔ document.DenotedBy text :=
  ⟨fun h => (takes_document _).whole h, ofJson_of_denotedBy⟩

theorem schemaOfJson_of_denotedBy {document : Document} {text : String} (h : document.DenotedBy text)
    (fallback : Option String) : schemaOfJson text fallback = document.decode fallback := by
  simp only [schemaOfJson, ofJson_of_denotedBy h]

theorem exists_denotedBy_iff {text : String} {fallback : Option String} :
    (∀ fault, (schemaOfJson text fallback).result ≠ .error (.json fault)) ↔
      ∃ document : Document, document.DenotedBy text := by
  constructor
  · intro h
    cases hread : Document.ofJson text with
    | error fault =>
      refine absurd ?_ (h (fault.located text))
      simp only [schemaOfJson, hread]
      rfl
    | ok document => exact ⟨document, Document.ofJson_eq_ok_iff.mp hread⟩
  · rintro ⟨document, hdenoted⟩ fault hfault
    rw [schemaOfJson_of_denotedBy hdenoted] at hfault
    obtain ⟨element, hmissing⟩ := Document.eq_missingField_of_decode hfault
    cases hmissing

theorem schemaOfJson_accepts_assets (text : String) (fallback : Option String) :
    ((∀ fault, (schemaOfJson text fallback).result ≠ .error (.json fault)) ↔
      ∃ document, Padded (fun document value => IsValue value ∧ DenotesDocument document value) document
        text.toList) ∧
    ∀ document : Document, document.DenotedBy text →
      schemaOfJson text fallback = document.decode fallback ∧
        ∀ other : Document, other.DenotedBy text → other = document := by
  refine ⟨exists_denotedBy_iff.trans (exists_congr fun document => ⟨?_, ?_⟩), fun document h => ⟨?_, ?_⟩⟩
  · exact Padded.imp fun _ _ hvalue => ⟨hvalue.isValue, hvalue⟩
  · exact Padded.imp fun _ _ hvalue => hvalue.2
  · exact schemaOfJson_of_denotedBy h fallback
  · exact fun other hother => h.unique hother

/-- Lists for records, the second map an object with a key that is not known. -/
def listedText : String :=
  "\n[\"Pad\", [[\"Air\",[[\"Go\",\"Button\"]]],\x7b\"x\":[1e2],\"name\":\"Foot\"\x7d]]"

def listedDocument : Document :=
  ⟨some "Pad", [⟨some "Air", [⟨some "Go", some "Button", none⟩]⟩, ⟨some "Foot", []⟩]⟩

theorem schemaOfJson_accepts_listed :
    (schemaOfJson listedText none).result = .ok ⟨"Pad", [⟨"Air", [⟨"Go", .boolean⟩]⟩, ⟨"Foot", []⟩]⟩ ∧
      Padded (fun document value => IsValue value ∧ DenotesDocument document value) listedDocument
        listedText.toList := by
  have hread : Document.ofJson listedText = .ok listedDocument := by decide
  obtain ⟨haccepts, hdecodes⟩ := schemaOfJson_accepts_assets listedText none
  obtain ⟨hsame, hunique⟩ := hdecodes listedDocument (Document.ofJson_eq_ok_iff.mp hread)
  have hresult : (schemaOfJson listedText none).result =
      .ok ⟨"Pad", [⟨"Air", [⟨"Go", .boolean⟩]⟩, ⟨"Foot", []⟩]⟩ := by
    rw [hsame]
    rfl
  have hfine : ∀ fault, (schemaOfJson listedText none).result ≠ .error (.json fault) := by
    intro fault hfault
    rw [hresult] at hfault
    cases hfault
  obtain ⟨document, hdocument⟩ := haccepts.mp hfine
  obtain rfl := hunique document (hdocument.imp fun _ _ hvalue => hvalue.2)
  exact ⟨hresult, hdocument⟩

end ActionLookup.Asset
