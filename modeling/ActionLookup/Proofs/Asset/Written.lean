import ActionLookup.Asset.Decode
import ActionLookup.Proofs.Asset.Denoted

namespace ActionLookup.Asset

open Json

def WritesAction (action : Action) (cs : List Char) : Prop :=
  ∃ members, WritesObject ["name", "type", "expectedControlType"] members cs ∧
    WritesOptional action.name (members.lookup "name") ∧
    WritesOptional action.actionType (members.lookup "type") ∧
    WritesOptional action.expectedControlType (members.lookup "expectedControlType")

def WritesMap (map : ActionMap) (cs : List Char) : Prop :=
  ∃ members, WritesObject ["name", "actions"] members cs ∧
    WritesOptional map.name (members.lookup "name") ∧
    WritesList WritesAction map.actions (members.lookup "actions")

def WritesDocument (document : Document) (cs : List Char) : Prop :=
  ∃ members, WritesObject ["name", "maps"] members cs ∧
    WritesOptional document.name (members.lookup "name") ∧
    WritesList WritesMap document.maps (members.lookup "maps")

def Document.WrittenBy (document : Document) (text : String) : Prop :=
  Padded WritesDocument document text.toList

theorem WritesAction.denotes {action : Action} {cs : List Char} (h : WritesAction action cs) :
    DenotesAction action cs := by
  obtain ⟨members, hobject, hparts⟩ := h
  exact ⟨members, .object hobject, hparts⟩

theorem WritesMap.denotes {map : ActionMap} {cs : List Char} (h : WritesMap map cs) : DenotesMap map cs := by
  obtain ⟨members, hobject, hname, hactions⟩ := h
  exact ⟨members, .object hobject, hname, hactions.imp fun _ _ => WritesAction.denotes⟩

theorem WritesDocument.denotes {document : Document} {cs : List Char} (h : WritesDocument document cs) :
    DenotesDocument document cs := by
  obtain ⟨members, hobject, hname, hmaps⟩ := h
  exact ⟨members, .object hobject, hname, hmaps.imp fun _ _ => WritesMap.denotes⟩

theorem ofJson_of_writtenBy {document : Document} {text : String} (h : document.WrittenBy text) :
    Document.ofJson text = .ok document :=
  ofJson_of_denotedBy (Padded.imp (fun _ _ => WritesDocument.denotes) h)

theorem schemaOfJson_of_writtenBy {document : Document} {text : String} (h : document.WrittenBy text)
    (fallback : Option String) : schemaOfJson text fallback = document.decode fallback := by
  simp only [schemaOfJson, ofJson_of_writtenBy h]

def quoted (pieces : List (List Char)) : List Char := '"' :: pieces.flatten ++ ['"']

def plainly (s : String) : List Char := quoted (s.toList.map ([·]))

theorem spellsString_plainly {s : String} (h : (s.toList.all fun c => decide (IsPlain c)) = true) :
    SpellsString s (plainly s) := by
  refine ⟨_, ?_, rfl⟩
  rw [List.forall₂_map_right_iff, List.forall₂_same]
  exact fun c hc => .plain (by simpa using List.all_eq_true.mp h c hc)

def enclose (opening closing : Char) : List (List Char) → List Char
  | [] => [opening, closing]
  | item :: items => opening :: (item ++ (items.flatMap (',' :: ·) ++ [closing]))

theorem enclosed_enclose {opening closing : Char} {W : α → List Char → Prop} {as : List α}
    {items : List (List Char)} (h : List.Forall₂ W as items) :
    Enclosed opening closing W as (enclose opening closing items) := by
  cases h with
  | nil => exact .empty Gap.nil
  | cons hitem hitems => exact .items hitem hitems

theorem padded_bare {W : α → List Char → Prop} {a : α} {value : List Char} (h : W a value) :
    Padded W a value :=
  ⟨[], value, [], Gap.nil, h, Gap.nil, (List.append_nil value).symm⟩

theorem keyed_bare {key : String} {spelled value : List Char} (h : SpellsString key spelled) :
    Keyed SpellsString (key, value) (spelled ++ ':' :: value) :=
  ⟨spelled, value, padded_bare h, padded_bare rfl, rfl⟩

def goAction : Action := ⟨some "Go", some "Button", none⟩

def footMap : ActionMap := ⟨some "🎮", [goAction]⟩

def padDocument : Document := ⟨some "Pad", [footMap, ⟨some "Air", []⟩]⟩

def goText : List Char :=
  enclose '\x7b' '\x7d' [
    plainly "type" ++ ':' :: plainly "Button",
    plainly "expectedControlType" ++ ':' :: "null".toList,
    plainly "name" ++ ':' :: quoted [['G'], "\\u006f".toList]]

def footText : List Char :=
  enclose '\x7b' '\x7d' [
    plainly "actions" ++ ':' :: enclose '[' ']' [goText],
    plainly "name" ++ ':' :: quoted ["\\ud83c\\udfae".toList]]

def airText : List Char :=
  enclose '\x7b' '\x7d' [plainly "name" ++ ':' :: plainly "Air"]

def extraText : List Char := enclose '[' ']' ["-1.5e3".toList]

def bodyText : List Char :=
  enclose '\x7b' '\x7d' [
    plainly "extra" ++ ':' :: extraText,
    plainly "maps" ++ ':' :: enclose '[' ']' [footText, airText],
    plainly "extra" ++ ':' :: "null".toList,
    plainly "name" ++ ':' :: plainly "Pad"]

def padText : String :=
  "\x7b\"extra\":[-1.5e3],\"maps\":[" ++
  "\x7b\"actions\":[\x7b\"type\":\"Button\",\"expectedControlType\":null,\"name\":\"G\\u006f\"\x7d]," ++
  "\"name\":\"\\ud83c\\udfae\"\x7d,\x7b\"name\":\"Air\"\x7d],\"extra\":null,\"name\":\"Pad\"\x7d\n"

theorem writesAction_go : WritesAction goAction goText := by
  have hname : SpellsString "Go" (quoted [['G'], "\\u006f".toList]) := by
    refine ⟨_, .cons (.plain (by decide)) (.cons (.unit ?_) .nil), rfl⟩
    exact ⟨('0', 0), by decide, ('0', 0), by decide, ('6', 6), by decide, ('f', 15), by decide, rfl, rfl⟩
  refine ⟨_, ⟨?_, ?_, enclosed_enclose (.cons (keyed_bare (spellsString_plainly rfl))
    (.cons (keyed_bare (spellsString_plainly rfl))
      (.cons (keyed_bare (spellsString_plainly rfl)) .nil)))⟩,
    .string hname, .string (spellsString_plainly rfl), .null⟩
  · decide
  · simp

theorem writesMap_foot : WritesMap footMap footText := by
  have hhigh : SpellsUnit 0xD83C ['d', '8', '3', 'c'] :=
    ⟨('d', 13), by decide, ('8', 8), by decide, ('3', 3), by decide, ('c', 12), by decide, rfl, rfl⟩
  have hlow : SpellsUnit 0xDFAE ['d', 'f', 'a', 'e'] :=
    ⟨('d', 13), by decide, ('f', 15), by decide, ('a', 10), by decide, ('e', 14), by decide, rfl, rfl⟩
  have hname : SpellsString "🎮" (quoted ["\\ud83c\\udfae".toList]) :=
    ⟨_, .cons (.pair (by decide) hhigh hlow) .nil, rfl⟩
  refine ⟨_, ⟨?_, ?_, enclosed_enclose (.cons (keyed_bare (spellsString_plainly rfl))
    (.cons (keyed_bare (spellsString_plainly rfl)) .nil))⟩,
    .string hname, .written (enclosed_enclose (.cons (padded_bare writesAction_go) .nil))⟩
  · decide
  · simp

theorem writesMap_air : WritesMap ⟨some "Air", []⟩ airText := by
  refine ⟨_, ⟨?_, ?_, enclosed_enclose (.cons (keyed_bare (spellsString_plainly rfl)) .nil)⟩,
    .string (spellsString_plainly rfl), .omitted⟩
  · decide
  · simp

theorem isValue_extra : IsValue extraText := by
  have hnumber : IsNumber "-1.5e3".toList :=
    ⟨['-'], ['1'], ['.', '5'], ['e', '3'], by decide, .positive (by decide) nofun,
      .present (by decide) nofun, .present (by decide) (List.mem_cons_self) (by decide) nofun, rfl⟩
  refine .array ?_ (enclosed_enclose (.cons (padded_bare rfl) .nil))
  simpa using IsValue.number hnumber

theorem writesDocument_body : WritesDocument padDocument bodyText := by
  refine ⟨_, ⟨?_, ?_, enclosed_enclose (.cons (keyed_bare (spellsString_plainly rfl))
    (.cons (keyed_bare (spellsString_plainly rfl))
      (.cons (keyed_bare (spellsString_plainly rfl))
        (.cons (keyed_bare (spellsString_plainly rfl)) .nil))))⟩,
    .string (spellsString_plainly rfl),
    .written (enclosed_enclose (.cons (padded_bare writesMap_foot) (.cons (padded_bare writesMap_air) .nil)))⟩
  · decide
  · have hnull : IsValue "null".toList := .literal (by decide)
    simpa using ⟨isValue_extra, hnull⟩

theorem schemaOfJson_pad :
    padDocument.WrittenBy padText ∧
      (schemaOfJson padText none).result = .ok ⟨"Pad", [⟨"🎮", [⟨"Go", .boolean⟩]⟩, ⟨"Air", []⟩]⟩ := by
  have hwritten : padDocument.WrittenBy padText :=
    ⟨[], bodyText, ['\n'], Gap.nil, writesDocument_body, by simp [Gap], by decide +kernel⟩
  exact ⟨hwritten, (congrArg Report.result (schemaOfJson_of_writtenBy hwritten none)).trans rfl⟩

end ActionLookup.Asset
