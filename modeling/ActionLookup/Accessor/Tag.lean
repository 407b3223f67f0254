import ActionLookup.Schema.Basic

/-!
The four accessors: one for each value type, with and without the group's name. A pattern picks
some of them.
-/

namespace ActionLookup

/-- A qualified accessor looks for the group before the binding. -/
structure Tag where
  valueType : ValueType
  qualified : Bool
  deriving DecidableEq, Repr

namespace Tag

def all : List Tag := ValueType.all.flatMap fun t => [⟨t, true⟩, ⟨t, false⟩]

def nth (i : Fin 4) : Tag := all.get i

theorem mem_all (tag : Tag) : tag ∈ all := by
  obtain ⟨t, q⟩ := tag
  cases t <;> cases q <;> decide

theorem nodup_all : all.Nodup := by decide

end Tag

/-- What is left open matches anything. -/
structure TagPattern where
  valueType : Option ValueType
  qualified : Option Bool
  deriving DecidableEq, Repr

namespace TagPattern

def all : TagPattern := ⟨none, none⟩

def ofQualified (qualified : Bool) : TagPattern := ⟨none, some qualified⟩

def ofType (t : ValueType) : TagPattern := ⟨some t, none⟩

def exact (tag : Tag) : TagPattern := ⟨some tag.valueType, some tag.qualified⟩

def covers (pattern : TagPattern) (tag : Tag) : Bool :=
  pattern.valueType.all (fun t => t == tag.valueType)
    && pattern.qualified.all (fun q => q == tag.qualified)

@[simp] theorem covers_all (tag : Tag) : all.covers tag = true := rfl

@[simp] theorem covers_ofQualified (q : Bool) (tag : Tag) :
    (ofQualified q).covers tag = (q == tag.qualified) := by
  simp [ofQualified, covers]

@[simp] theorem covers_ofType (t : ValueType) (tag : Tag) :
    (ofType t).covers tag = (t == tag.valueType) := by
  simp [ofType, covers]

@[simp] theorem covers_exact (a b : Tag) : (exact a).covers b = (a == b) := by
  obtain ⟨t, q⟩ := a
  obtain ⟨u, r⟩ := b
  cases t <;> cases u <;> cases q <;> cases r <;> rfl

end TagPattern

structure PerTag (α : Type) where
  vectorQualified : α
  vectorUnqualified : α
  booleanQualified : α
  booleanUnqualified : α
  deriving DecidableEq, Repr

namespace PerTag

variable {α β : Type}

def get (p : PerTag α) : Tag → α
  | ⟨.vector2, true⟩ => p.vectorQualified
  | ⟨.vector2, false⟩ => p.vectorUnqualified
  | ⟨.boolean, true⟩ => p.booleanQualified
  | ⟨.boolean, false⟩ => p.booleanUnqualified

def ofFunction (f : Tag → α) : PerTag α :=
  ⟨f ⟨.vector2, true⟩, f ⟨.vector2, false⟩, f ⟨.boolean, true⟩, f ⟨.boolean, false⟩⟩

def map (f : Tag → α → β) (p : PerTag α) : PerTag β :=
  ⟨f ⟨.vector2, true⟩ p.vectorQualified, f ⟨.vector2, false⟩ p.vectorUnqualified,
    f ⟨.boolean, true⟩ p.booleanQualified, f ⟨.boolean, false⟩ p.booleanUnqualified⟩

def toList (p : PerTag α) : List α :=
  [p.vectorQualified, p.vectorUnqualified, p.booleanQualified, p.booleanUnqualified]

@[simp] theorem get_ofFunction (f : Tag → α) (tag : Tag) : (ofFunction f).get tag = f tag := by
  obtain ⟨t, q⟩ := tag
  cases t <;> cases q <;> rfl

@[simp] theorem get_map (f : Tag → α → β) (p : PerTag α) (tag : Tag) :
    (p.map f).get tag = f tag (p.get tag) := by
  obtain ⟨t, q⟩ := tag
  cases t <;> cases q <;> rfl

theorem toList_eq_map (p : PerTag α) : p.toList = Tag.all.map p.get := rfl

theorem ext_get {p q : PerTag α} (h : ∀ tag, p.get tag = q.get tag) : p = q := by
  obtain ⟨p1, p2, p3, p4⟩ := p
  obtain ⟨q1, q2, q3, q4⟩ := q
  have h1 := h ⟨.vector2, true⟩
  have h2 := h ⟨.vector2, false⟩
  have h3 := h ⟨.boolean, true⟩
  have h4 := h ⟨.boolean, false⟩
  simp only [get] at h1 h2 h3 h4
  subst h1 h2 h3 h4
  rfl

end PerTag

end ActionLookup
