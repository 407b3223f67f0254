import Mathlib.Data.List.Forall2
import ActionLookup.Asset.Decode
import ActionLookup.Proofs.Schema.FirstProblem

namespace ActionLookup.Asset

open Text

/-- The expected control type decides; without one only a button is read. -/
def Action.Gives (action : Action) : ValueType → Prop
  | .boolean => action.expectedControlType = some "Button" ∨
      (action.expectedControlType = none ∨ action.expectedControlType = some "") ∧
        action.actionType = some "Button"
  | .vector2 => action.expectedControlType = some "Vector2"

instance (action : Action) : (t : ValueType) → Decidable (action.Gives t)
  | .boolean => inferInstanceAs (Decidable (_ ∨ _ ∧ _))
  | .vector2 => inferInstanceAs (Decidable (_ = _))

def Action.isRead (action : Action) : Bool := ValueType.all.any fun t => action.Gives t

structure ActionMap.Gives (map : ActionMap) (g : Group) : Prop where
  name : map.name = some g.name
  bindings : List.Forall₂ (fun action b => action.name = some b.name ∧ action.Gives b.valueType)
    (map.actions.filter Action.isRead) g.bindings

def isVisible (name : String) : Bool := name.toList.any fun c => !isBlank c

/-- An asset's own name comes before the one it falls back to. -/
inductive Document.Names (document : Document) (fallback : Option String) : String → Prop where
  | own {name : String} : document.name = some name → isVisible name = true → document.Names fallback name
  | fallback {name : String} : document.name.any isVisible = false → fallback = some name →
      document.Names fallback name

structure Document.Gives (document : Document) (fallback : Option String) (schema : Schema) : Prop where
  name : document.Names fallback schema.name
  groups : List.Forall₂ ActionMap.Gives document.maps schema.groups

/-- Nothing lacks a name, not even an action that is passed over. -/
structure Document.Complete (document : Document) (fallback : Option String) : Prop where
  name : document.name.any isVisible = true ∨ fallback.isSome = true
  maps : ∀ map ∈ document.maps, map.name.isSome = true
  actions : ∀ map ∈ document.maps, ∀ action ∈ map.actions, action.name.isSome = true

theorem getD_eq_iff {text : Option String} {word : String} (h : word ≠ "") :
    text.getD "" = word ↔ text = some word := by
  cases text with
  | none => simpa using h.symm
  | some text => simp

theorem Action.expected_eq_empty_iff {action : Action} :
    action.expected = "" ↔ action.expectedControlType = none ∨ action.expectedControlType = some "" := by
  unfold Action.expected
  cases action.expectedControlType <;> simp

theorem Action.valueType_eq_some_iff {action : Action} {t : ValueType} :
    action.valueType = some t ↔ action.Gives t := by
  have hbutton : action.expected = "Button" ↔ action.expectedControlType = some "Button" :=
    getD_eq_iff (by decide)
  have hvector : action.expected = "Vector2" ↔ action.expectedControlType = some "Vector2" :=
    getD_eq_iff (by decide)
  have hpressed : action.actionType.getD "" = "Button" ↔ action.actionType = some "Button" :=
    getD_eq_iff (by decide)
  simp only [valueType, ValueType.ofControlType, hbutton, hvector, hpressed, expected_eq_empty_iff]
  by_cases hb : action.expectedControlType = some "Button"
  · cases t <;> simp [Gives, hb]
  by_cases hv : action.expectedControlType = some "Vector2"
  · cases t <;> simp [Gives, hv]
  · cases t <;> simp [Gives, hb, hv]

theorem Action.isRead_eq (action : Action) : action.isRead = action.valueType.isSome := by
  rw [Bool.eq_iff_iff, Option.isSome_iff_exists, isRead, List.any_eq_true]
  simp only [decide_eq_true_eq, valueType_eq_some_iff]
  exact ⟨fun ⟨t, _, h⟩ => ⟨t, h⟩, fun ⟨t, h⟩ => ⟨t, t.mem_all, h⟩⟩

theorem Action.gives_binding_iff {action : Action} {name : String} {t : ValueType}
    (hname : action.name = some name) (htype : action.valueType = some t) {b : Binding} :
    (action.name = some b.name ∧ action.Gives b.valueType) ↔ b = ⟨name, t⟩ := by
  obtain ⟨other, u⟩ := b
  rw [← valueType_eq_some_iff, hname, htype]
  simp [eq_comm]

theorem decodeActions_eq_ok_iff {mapName : String} {index : Nat} {actions : List Action}
    {bs : List Binding} :
    (decodeActions mapName index actions).result = .ok bs ↔
      (∀ action ∈ actions, action.name.isSome = true) ∧
        List.Forall₂ (fun action b => action.name = some b.name ∧ action.Gives b.valueType)
          (actions.filter Action.isRead) bs := by
  induction actions generalizing index bs with
  | nil =>
      constructor
      · intro h
        obtain rfl := Except.ok.inj h
        exact ⟨by simp, .nil⟩
      · rintro ⟨_, h⟩
        cases h
        rfl
  | cons action rest ih =>
      rw [decodeActions, List.forall_mem_cons, List.filter_cons, action.isRead_eq]
      cases hname : action.name with
      | none => simp [Report.fail]
      | some name =>
          cases htype : action.valueType with
          | none => simp [Report.result_andThen_eq_ok, Report.tell, ih]
          | some t =>
              simp only [Report.bind_eq, Report.pure_eq, Report.result_andThen_eq_ok, ih]
              simp only [Option.isSome_some, if_true, true_and, List.forall₂_cons_left_iff,
                Action.gives_binding_iff hname htype, Report.ok]
              constructor
              · rintro ⟨cs, ⟨hnamed, hcs⟩, hbs⟩
                exact ⟨hnamed, _, cs, rfl, hcs, (Except.ok.inj hbs).symm⟩
              · rintro ⟨hnamed, _, cs, rfl, hcs, rfl⟩
                exact ⟨cs, ⟨hnamed, hcs⟩, rfl⟩

theorem decodeMaps_eq_ok_iff {index : Nat} {maps : List ActionMap} {gs : List Group} :
    (decodeMaps index maps).result = .ok gs ↔
      (∀ map ∈ maps, map.name.isSome = true) ∧
        (∀ map ∈ maps, ∀ action ∈ map.actions, action.name.isSome = true) ∧
          List.Forall₂ ActionMap.Gives maps gs := by
  induction maps generalizing index gs with
  | nil =>
      constructor
      · intro h
        obtain rfl := Except.ok.inj h
        exact ⟨by simp, by simp, .nil⟩
      · rintro ⟨_, _, h⟩
        cases h
        rfl
  | cons map rest ih =>
      rw [decodeMaps, List.forall_mem_cons, List.forall_mem_cons]
      cases hname : map.name with
      | none => simp [Report.fail]
      | some name =>
          simp only [Report.bind_eq, Report.pure_eq, Report.result_andThen_eq_ok, ih,
            decodeActions_eq_ok_iff, Option.isSome_some, true_and, List.forall₂_cons_left_iff, Report.ok]
          constructor
          · rintro ⟨bs, ⟨hactions, hbs⟩, gs', ⟨hmaps, hrest, hgs⟩, hok⟩
            exact ⟨hmaps, ⟨hactions, hrest⟩, ⟨name, bs⟩, gs', ⟨hname, hbs⟩, hgs, (Except.ok.inj hok).symm⟩
          · rintro ⟨hmaps, ⟨hactions, hrest⟩, ⟨name', bs⟩, gs', ⟨hname', hbs⟩, hgs, rfl⟩
            obtain rfl : name = name' := Option.some.inj (hname.symm.trans hname')
            exact ⟨bs, ⟨hactions, hbs⟩, gs', ⟨hmaps, hrest, hgs⟩, rfl⟩

def ActionMap.title (map : ActionMap) : String := map.name.getD ""

def ActionMap.actionDemand (map : ActionMap) (p : Action × Nat) : Demand AssetProblem :=
  ⟨p.1.name.isSome, .missingField s!"action #{p.2} of map '{map.title}'" "name"⟩

def mapDemands (p : ActionMap × Nat) : List (Demand AssetProblem) :=
  ⟨p.1.name.isSome, .missingField s!"action map #{p.2}" "name"⟩ :: p.1.actions.zipIdx.map p.1.actionDemand

def Document.demands (document : Document) (fallback : Option String) : List (Demand AssetProblem) :=
  ⟨document.name.any isVisible || fallback.isSome, .missingField "asset" "name"⟩ ::
    document.maps.zipIdx.flatMap mapDemands

theorem decodeActions_eq_error_iff {map : ActionMap} {mapName : String} (hmap : map.name = some mapName)
    {index : Nat} {actions : List Action} {p : AssetProblem} :
    (decodeActions mapName index actions).result = .error p ↔
      ((actions.zipIdx index).map map.actionDemand).findSome? Demand.problem? = some p := by
  induction actions generalizing index with
  | nil => simp [decodeActions, Report.ok]
  | cons action rest ih =>
      rw [decodeActions, List.zipIdx_cons, List.map_cons, Demand.findSome?_cons]
      cases hname : action.name with
      | none => simp [ActionMap.actionDemand, ActionMap.title, hname, hmap, actionElement, Report.fail]
      | some name =>
          have hmet : (map.actionDemand (action, index)).met = true := by rw [ActionMap.actionDemand, hname]; rfl
          rw [if_pos hmet, ← ih]
          cases action.valueType with
          | none => simp [Report.result_andThen_eq_error, Report.tell]
          | some t => simp [Report.result_andThen_eq_error, Report.ok]

theorem decodeMaps_eq_error_iff {index : Nat} {maps : List ActionMap} {p : AssetProblem} :
    (decodeMaps index maps).result = .error p ↔
      ((maps.zipIdx index).flatMap mapDemands).findSome? Demand.problem? = some p := by
  -- A map's own actions come before the maps behind it, so how its actions went decides.
  induction maps generalizing index with
  | nil => simp [decodeMaps, Report.ok]
  | cons map rest ih =>
      rw [decodeMaps, List.zipIdx_cons, List.flatMap_cons, mapDemands, List.cons_append, Demand.findSome?_cons]
      cases hname : map.name with
      | none => simp [mapElement, Report.fail]
      | some name =>
          have hactions : ∀ q, (decodeActions name 0 map.actions).result = .error q ↔
              (map.actions.zipIdx.map map.actionDemand).findSome? Demand.problem? = some q :=
            fun q => decodeActions_eq_error_iff hname
          rw [if_pos Option.isSome_some, List.findSome?_append, Option.or_eq_some_iff, ← ih]
          simp only [Report.bind_eq, Report.pure_eq, Report.result_andThen_eq_error]
          cases hresult : (decodeActions name 0 map.actions).result with
          | error q =>
              rw [(hactions q).mp hresult]
              simp
          | ok bs =>
              have hnone : (map.actions.zipIdx.map map.actionDemand).findSome? Demand.problem? = none := by
                cases hfirst : (map.actions.zipIdx.map map.actionDemand).findSome? Demand.problem? with
                | none => rfl
                | some q => simp [(hactions q).mpr hfirst] at hresult
              rw [hnone]
              simp [Report.ok]

theorem isBlankText_eq (name : String) : Name.isBlankText name = !isVisible name := by
  simp [Name.isBlankText, isVisible, List.all_eq_not_any_not]

theorem Document.schemaName_eq_some_iff {document : Document} {fallback : Option String} {name : String} :
    document.schemaName fallback = some name ↔ document.Names fallback name := by
  unfold schemaName
  constructor
  · intro h
    cases hname : document.name with
    | none =>
        rw [hname] at h
        exact .fallback (by rw [hname]; rfl) h
    | some own =>
        simp only [hname] at h
        split at h
        · rename_i hblank
          refine .fallback ?_ h
          rw [hname]
          simpa [isBlankText_eq] using hblank
        · rename_i hvisible
          obtain rfl := Option.some.inj h
          exact .own hname (by simpa [isBlankText_eq] using hvisible)
  · intro h
    cases h with
    | own hname hvisible => simp [hname, isBlankText_eq, hvisible]
    | fallback hname hfallback =>
        cases hown : document.name with
        | none => exact hfallback
        | some own =>
            have hblank : Name.isBlankText own = true := by
              rw [hown] at hname
              simpa [isBlankText_eq] using hname
            simpa [hblank] using hfallback

theorem Document.isSome_schemaName (document : Document) (fallback : Option String) :
    (document.schemaName fallback).isSome = (document.name.any isVisible || fallback.isSome) := by
  unfold schemaName
  cases document.name with
  | none => rfl
  | some own => cases h : isVisible own <;> simp [isBlankText_eq, h]

theorem Document.decode_eq_ok_iff {document : Document} {fallback : Option String} {schema : Schema} :
    (document.decode fallback).result = .ok schema ↔
      document.Complete fallback ∧ document.Gives fallback schema := by
  have hgiven := document.isSome_schemaName fallback
  unfold decode
  cases hname : document.schemaName fallback with
  | none =>
      rw [hname] at hgiven
      refine ⟨nofun, fun ⟨hcomplete, _⟩ => ?_⟩
      have hor : (document.name.any isVisible || fallback.isSome) = true := by simpa using hcomplete.name
      exact nomatch hgiven.trans hor
  | some name =>
      rw [hname] at hgiven
      simp only [Report.bind_eq, Report.pure_eq, Report.result_andThen_eq_ok, decodeMaps_eq_ok_iff]
      constructor
      · rintro ⟨gs, ⟨hmaps, hactions, hgs⟩, _, _, hok⟩
        obtain rfl := Except.ok.inj hok
        exact ⟨⟨by simpa using hgiven.symm, hmaps, hactions⟩, schemaName_eq_some_iff.mp hname, hgs⟩
      · rintro ⟨hcomplete, hgives⟩
        have hsame : name = schema.name :=
          Option.some.inj (hname.symm.trans (schemaName_eq_some_iff.mpr hgives.name))
        subst hsame
        exact ⟨schema.groups, ⟨hcomplete.maps, hcomplete.actions, hgives.groups⟩, (), rfl, rfl⟩

theorem Document.decode_eq_error_iff {document : Document} {fallback : Option String} {p : AssetProblem} :
    (document.decode fallback).result = .error p ↔ Demand.FirstUnmet (document.demands fallback) p := by
  have hgiven := document.isSome_schemaName fallback
  rw [← Demand.findSome?_eq_some_iff, demands, Demand.findSome?_cons, ← hgiven]
  unfold decode
  cases document.schemaName fallback with
  | none => simp [Report.fail]
  | some name => simp [Report.result_andThen_eq_error, decodeMaps_eq_error_iff, Report.tell, Report.ok]

theorem Document.eq_missingField_of_decode {document : Document} {fallback : Option String} {p : AssetProblem}
    (h : (document.decode fallback).result = .error p) : ∃ element, p = .missingField element "name" := by
  obtain ⟨d, hd, -, rfl⟩ := (decode_eq_error_iff.mp h).exists_mem
  rcases List.mem_cons.mp hd with rfl | hd
  · exact ⟨_, rfl⟩
  obtain ⟨map, -, hd⟩ := List.mem_flatMap.mp hd
  rcases List.mem_cons.mp hd with rfl | hd
  · exact ⟨_, rfl⟩
  obtain ⟨action, -, rfl⟩ := List.mem_map.mp hd
  exact ⟨_, rfl⟩

theorem Document.Complete.met {document : Document} {fallback : Option String}
    (h : document.Complete fallback) : ∀ d ∈ document.demands fallback, d.met = true := by
  intro d hd
  rcases List.mem_cons.mp hd with rfl | hd
  · simpa using h.name
  · obtain ⟨p, hp, hd⟩ := List.mem_flatMap.mp hd
    have hmap := List.fst_mem_of_mem_zipIdx hp
    rcases List.mem_cons.mp hd with rfl | hd
    · exact h.maps p.1 hmap
    · obtain ⟨q, hq, rfl⟩ := List.mem_map.mp hd
      exact h.actions p.1 hmap q.1 (List.fst_mem_of_mem_zipIdx hq)

theorem Document.Complete.exists_decode {document : Document} {fallback : Option String}
    (h : document.Complete fallback) : ∃ schema, (document.decode fallback).result = .ok schema := by
  cases hresult : (document.decode fallback).result with
  | ok schema => exact ⟨schema, rfl⟩
  | error p =>
      obtain ⟨d, hd, hunmet, _⟩ := (decode_eq_error_iff.mp hresult).exists_mem
      exact nomatch (h.met d hd).symm.trans hunmet

theorem strip_ne_empty {name : String} (h : isVisible name = true) : Name.strip name ≠ "" := by
  intro hempty
  obtain ⟨c, hc, hvisible⟩ := List.any_eq_true.mp h
  have hmem : c ∈ (Name.strip name).toList := by
    rw [Name.toList_strip, List.mem_filter]
    exact ⟨hc, hvisible⟩
  rw [hempty] at hmem
  exact nomatch hmem

theorem Document.decode_settles (document : Document) (fallback : Option String) :
    ((∃ schema, (document.decode fallback).result = .ok schema) ↔ document.Complete fallback) ∧
      (∀ schema, (document.decode fallback).result = .ok schema ↔
        document.Complete fallback ∧ document.Gives fallback schema) ∧
      (∀ p, (document.decode fallback).result = .error p ↔
        Demand.FirstUnmet (document.demands fallback) p) ∧
      ∀ schema, (document.decode none).result = .ok schema →
        Name.strip schema.name ≠ "" ∧ ∀ place, schema.validate ≠ .error (.emptyName "schema" place) := by
  refine ⟨⟨fun ⟨_, h⟩ => (decode_eq_ok_iff.mp h).1, Complete.exists_decode⟩, fun _ => decode_eq_ok_iff,
    fun _ => decode_eq_error_iff, fun schema h => ?_⟩
  have hvisible : isVisible schema.name = true := by
    cases (decode_eq_ok_iff.mp h).2.name with
    | own _ hvisible => exact hvisible
    | fallback _ hnone => exact nomatch hnone
  have hstrip := strip_ne_empty hvisible
  exact ⟨hstrip, Schema.validate_ne_emptyName hstrip⟩

end ActionLookup.Asset
