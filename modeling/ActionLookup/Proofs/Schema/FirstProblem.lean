import ActionLookup.Proofs.Schema.Acceptance

/-!
What a schema has to meet, as a row of demands in document order: three for every name. `validate` reports
the first of them that is not met, and reports nothing exactly of the valid schemas (`validate_reports_first`).
-/

namespace ActionLookup

/-- Something that has to hold, and what is reported where it does not. -/
structure Demand (β : Type) where
  met : Bool
  problem : β

namespace Demand

variable {β : Type}

def problem? (d : Demand β) : Option β := if d.met then none else some d.problem

def FirstUnmet (row : List (Demand β)) (p : β) : Prop :=
  ∃ before d after, row = before ++ d :: after ∧ (∀ e ∈ before, e.met = true) ∧ d.met = false ∧ d.problem = p

theorem problem?_eq (d : Demand β) : d.problem? = if d.met then none else some d.problem := rfl

theorem problem?_eq_none_iff (d : Demand β) : d.problem? = none ↔ d.met = true := by
  simp [problem?_eq]

theorem problem?_eq_some_iff (d : Demand β) (p : β) : d.problem? = some p ↔ d.met = false ∧ d.problem = p := by
  simp [problem?_eq]

theorem findSome?_cons (d : Demand β) (row : List (Demand β)) :
    (d :: row).findSome? problem? = if d.met then row.findSome? problem? else some d.problem := by
  rw [List.findSome?_cons, problem?_eq]
  cases d.met <;> rfl

theorem findSome?_eq_none_iff {row : List (Demand β)} :
    row.findSome? problem? = none ↔ ∀ d ∈ row, d.met = true := by
  simp only [List.findSome?_eq_none_iff, problem?_eq_none_iff]

theorem findSome?_eq_some_iff {row : List (Demand β)} {p : β} :
    row.findSome? problem? = some p ↔ FirstUnmet row p := by
  simp only [List.findSome?_eq_some_iff, problem?_eq_none_iff, problem?_eq_some_iff, FirstUnmet]
  constructor
  · rintro ⟨before, d, after, hrow, hd, hbefore⟩
    exact ⟨before, d, after, hrow, hbefore, hd⟩
  · rintro ⟨before, d, after, hrow, hbefore, hd⟩
    exact ⟨before, d, after, hrow, hd, hbefore⟩

theorem FirstUnmet.exists_mem {row : List (Demand β)} {p : β} (h : FirstUnmet row p) :
    ∃ d ∈ row, d.met = false ∧ d.problem = p := by
  obtain ⟨before, d, after, rfl, _, hd⟩ := h
  exact ⟨d, List.mem_append_right _ (List.mem_cons_self ..), hd⟩

end Demand

/-- A name leaves something when it is stripped, what it leaves is an identifier, and no earlier name is equal. -/
def nameDemands (kind place scope : String) (earlier : List String) (name : String) :
    List (Demand SchemaProblem) :=
  [⟨Name.strip name ≠ "", .emptyName kind place⟩,
    ⟨Name.isIdentifier (Name.strip name), .invalidIdentifier kind name scope⟩,
    ⟨name ∉ earlier, .duplicate kind name scope⟩]

def Group.bindingDemands (g : Group) (p : Binding × Nat) : List (Demand SchemaProblem) :=
  nameDemands "binding" s!"group '{g.name}' (binding #{p.2})" s!"group '{g.name}'"
    ((g.bindings.take p.2).map Binding.name) p.1.name

namespace Schema

def groupDemands (s : Schema) (p : Group × Nat) : List (Demand SchemaProblem) :=
  nameDemands "group" s!"schema '{s.name}' (group #{p.2})" s!"schema '{s.name}'"
      ((s.groups.take p.2).map Group.name) p.1.name
    ++ p.1.bindings.zipIdx.flatMap p.1.bindingDemands

def demands (s : Schema) : List (Demand SchemaProblem) :=
  nameDemands "schema" "asset" "asset" [] s.name ++ s.groups.zipIdx.flatMap s.groupDemands

end Schema

theorem nameProblem_eq_findSome? (kind place scope : String) (earlier : List String) (name : String) :
    nameProblem kind place scope earlier name =
      (nameDemands kind place scope earlier name).findSome? Demand.problem? := by
  unfold nameProblem nameDemands
  by_cases hempty : Name.strip name = ""
  · simp [Demand.problem?_eq, hempty]
  by_cases hvalid : Name.isIdentifier (Name.strip name) = true
  · by_cases hearlier : name ∈ earlier <;> simp [Demand.problem?_eq, hempty, hvalid, hearlier]
  · simp [Demand.problem?_eq, hempty, hvalid]

theorem bindingProblem_cons (groupName : String) (index : Nat) (earlier : List String) (b : Binding)
    (rest : List Binding) :
    bindingProblem groupName index earlier (b :: rest) =
      (nameProblem "binding" (bindingPlace groupName index) (groupScope groupName) earlier b.name).or
        (bindingProblem groupName (index + 1) (b.name :: earlier) rest) := by
  rw [bindingProblem]
  cases nameProblem "binding" (bindingPlace groupName index) (groupScope groupName) earlier b.name <;> rfl

theorem groupProblem_cons (schemaName : String) (index : Nat) (earlier : List String) (g : Group)
    (rest : List Group) :
    groupProblem schemaName index earlier (g :: rest) =
      (nameProblem "group" (groupPlace schemaName index) (schemaScope schemaName) earlier g.name).or
        ((bindingProblem g.name 0 [] g.bindings).or
          (groupProblem schemaName (index + 1) (g.name :: earlier) rest)) := by
  rw [groupProblem]
  cases nameProblem "group" (groupPlace schemaName index) (schemaScope schemaName) earlier g.name with
  | some problem => rfl
  | none => cases bindingProblem g.name 0 [] g.bindings <;> rfl

theorem Schema.problem?_eq (s : Schema) :
    s.problem? = (nameProblem "schema" "asset" "asset" [] s.name).or (groupProblem s.name 0 [] s.groups) := by
  rw [problem?]
  cases nameProblem "schema" "asset" "asset" [] s.name <;> rfl

theorem groupPlace_eq (schemaName : String) (index : Nat) :
    groupPlace schemaName index = s!"schema '{schemaName}' (group #{index})" := by
  have hjoined : "' (group #" = "'" ++ " (group #" := rfl
  simp only [groupPlace, schemaScope, toString, hjoined, String.append_assoc]

theorem bindingPlace_eq (groupName : String) (index : Nat) :
    bindingPlace groupName index = s!"group '{groupName}' (binding #{index})" := by
  have hjoined : "' (binding #" = "'" ++ " (binding #" := rfl
  simp only [bindingPlace, groupScope, toString, hjoined, String.append_assoc]

def Remembers (seen names : List String) : Prop := ∀ name, name ∈ seen ↔ name ∈ names

theorem Remembers.next {seen names : List String} (h : Remembers seen names) (name : String) :
    Remembers (name :: seen) (names ++ [name]) := by
  intro other
  rw [List.mem_cons, List.mem_append, List.mem_singleton, h other, or_comm]

theorem Remembers.nameProblem_eq {seen names : List String} (h : Remembers seen names)
    (kind place scope name : String) :
    nameProblem kind place scope seen name = nameProblem kind place scope names name := by
  simp only [nameProblem, h name]

theorem bindingProblem_eq_findSome? {g : Group} {before rest : List Binding} {seen : List String}
    (hg : g.bindings = before ++ rest) (hseen : Remembers seen (before.map Binding.name)) :
    bindingProblem g.name before.length seen rest =
      ((rest.zipIdx before.length).flatMap g.bindingDemands).findSome? Demand.problem? := by
  -- On what is still ahead of the walk; the demands count what is behind it by `take`.
  induction rest generalizing before seen with
  | nil => rfl
  | cons b rest ih =>
      have htake : g.bindings.take before.length = before := by rw [hg, List.take_left]
      have hnext : bindingProblem g.name (before ++ [b]).length (b.name :: seen) rest =
          ((rest.zipIdx (before ++ [b]).length).flatMap g.bindingDemands).findSome? Demand.problem? :=
        ih (by simp [hg]) (by simpa using hseen.next b.name)
      rw [List.length_append, List.length_singleton] at hnext
      rw [bindingProblem_cons, hseen.nameProblem_eq, bindingPlace_eq, nameProblem_eq_findSome?, hnext,
        List.zipIdx_cons, List.flatMap_cons, List.findSome?_append, Group.bindingDemands, htake]
      rfl

theorem groupProblem_eq_findSome? {s : Schema} {before rest : List Group} {seen : List String}
    (hs : s.groups = before ++ rest) (hseen : Remembers seen (before.map Group.name)) :
    groupProblem s.name before.length seen rest =
      ((rest.zipIdx before.length).flatMap s.groupDemands).findSome? Demand.problem? := by
  induction rest generalizing before seen with
  | nil => rfl
  | cons g rest ih =>
      have htake : s.groups.take before.length = before := by rw [hs, List.take_left]
      have hbindings : bindingProblem g.name 0 [] g.bindings =
          (g.bindings.zipIdx.flatMap g.bindingDemands).findSome? Demand.problem? :=
        @bindingProblem_eq_findSome? g [] g.bindings [] rfl fun _ => Iff.rfl
      have hnext : groupProblem s.name (before ++ [g]).length (g.name :: seen) rest =
          ((rest.zipIdx (before ++ [g]).length).flatMap s.groupDemands).findSome? Demand.problem? :=
        ih (by simp [hs]) (by simpa using hseen.next g.name)
      rw [List.length_append, List.length_singleton] at hnext
      rw [groupProblem_cons, hseen.nameProblem_eq, groupPlace_eq, nameProblem_eq_findSome?, hbindings, hnext,
        List.zipIdx_cons, List.flatMap_cons, Schema.groupDemands, htake, List.findSome?_append,
        List.findSome?_append, Option.or_assoc]
      rfl

theorem Schema.problem?_eq_findSome? (s : Schema) : s.problem? = s.demands.findSome? Demand.problem? := by
  have hgroups : groupProblem s.name 0 [] s.groups =
      (s.groups.zipIdx.flatMap s.groupDemands).findSome? Demand.problem? :=
    @groupProblem_eq_findSome? s [] s.groups [] rfl fun _ => Iff.rfl
  rw [s.problem?_eq, demands, List.findSome?_append, hgroups, nameProblem_eq_findSome?]

theorem Schema.validate_eq_error_iff {s : Schema} {p : SchemaProblem} :
    s.validate = .error p ↔ Demand.FirstUnmet s.demands p := by
  rw [← Demand.findSome?_eq_some_iff, ← s.problem?_eq_findSome?, validate]
  cases s.problem? <;> simp

theorem Schema.validate_reports_first (s : Schema) :
    (s.validate = .ok () ↔ s.Valid) ∧ ∀ p, s.validate = .error p ↔ Demand.FirstUnmet s.demands p :=
  ⟨validate_eq_ok_iff, fun _ => validate_eq_error_iff⟩

example : Schema.problem? ⟨"Pad", [⟨"Foot", [⟨"Go", .vector2⟩, ⟨"Go", .boolean⟩]⟩, ⟨" ", []⟩]⟩ =
    some (.duplicate "binding" "Go" "group 'Foot'") := by decide

theorem Schema.mem_nameDemands {s : Schema} {d : Demand SchemaProblem} (h : d ∈ s.demands) :
    ∃ kind place scope earlier name, d ∈ nameDemands kind place scope earlier name ∧
      (kind = "schema" → name = s.name) := by
  rcases List.mem_append.mp h with h | h
  · exact ⟨_, _, _, _, _, h, fun _ => rfl⟩
  · obtain ⟨p, _, h⟩ := List.mem_flatMap.mp h
    rcases List.mem_append.mp h with h | h
    · exact ⟨_, _, _, _, _, h, fun hkind => absurd hkind (by decide)⟩
    · obtain ⟨q, _, h⟩ := List.mem_flatMap.mp h
      exact ⟨_, _, _, _, _, h, fun hkind => absurd hkind (by decide)⟩

theorem Schema.validate_eq_error_cases {s : Schema} {p : SchemaProblem} (h : s.validate = .error p) :
    (∃ kind place, p = .emptyName kind place ∧ (kind = "schema" → Name.strip s.name = "")) ∨
      (∃ kind name scope, p = .invalidIdentifier kind name scope) ∨
        ∃ kind name scope, p = .duplicate kind name scope := by
  obtain ⟨d, hd, hunmet, rfl⟩ := (validate_eq_error_iff.mp h).exists_mem
  obtain ⟨kind, place, scope, _, name, hd, hname⟩ := mem_nameDemands hd
  simp only [nameDemands, List.mem_cons, List.not_mem_nil, or_false] at hd
  rcases hd with rfl | rfl | rfl
  · have hempty : Name.strip name = "" := by simpa using hunmet
    exact .inl ⟨kind, place, rfl, fun hkind => hname hkind ▸ hempty⟩
  · exact .inr (.inl ⟨kind, name, scope, rfl⟩)
  · exact .inr (.inr ⟨kind, name, scope, rfl⟩)

theorem Schema.validate_ne_emptyName {s : Schema} (h : Name.strip s.name ≠ "") (place : String) :
    s.validate ≠ .error (.emptyName "schema" place) := by
  intro hrefused
  rcases validate_eq_error_cases hrefused with ⟨kind, _, hp, hempty⟩ | ⟨_, _, _, hp⟩ | ⟨_, _, _, hp⟩
  · exact h (hempty (SchemaProblem.emptyName.inj hp).1.symm)
  · exact nomatch hp
  · exact nomatch hp

theorem Schema.validate_ne_asset (s : Schema) (problem : AssetProblem) : s.validate ≠ .error (.asset problem) := by
  intro hrefused
  rcases validate_eq_error_cases hrefused with ⟨_, _, hp, _⟩ | ⟨_, _, _, hp⟩ | ⟨_, _, _, hp⟩ <;>
    exact nomatch hp

end ActionLookup
