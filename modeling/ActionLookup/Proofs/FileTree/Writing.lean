import Mathlib.Data.List.Basic
import ActionLookup.FileTree.Access

namespace ActionLookup.FileTree

def HoldsFile (t : FileTree) (cwd : Location) (p : Path) (content : ByteArray) : Prop :=
  ∃ loc, t.locate cwd p = .ok loc ∧ t.get? loc = some (.file content)

variable {t t' : FileTree} {cwd loc next dir : Location} {name piece : String} {p : Path}
  {content : ByteArray} {text : String}

theorem locate_eq_ok_iff :
    t.locate cwd p = .ok loc ↔ refusal? p = none ∧ t.walk (origin cwd p) p.body = .ok loc := by
  unfold locate
  cases refusal? p <;> simp

theorem readBytes_eq_ok_iff : t.readBytes cwd p = .ok content ↔ t.HoldsFile cwd p content := by
  unfold readBytes HoldsFile
  cases t.locate cwd p with
  | error cause => simp
  | ok loc =>
    cases h : t.get? loc with
    | none => simp [h]
    | some node => cases node <;> simp [h]

theorem fromUTF8?_eq_some_iff {bytes : ByteArray} :
    String.fromUTF8? bytes = some text ↔ bytes = text.toUTF8 := by
  unfold String.fromUTF8?
  constructor
  · intro h
    split at h
    · rw [← Option.some.inj h]
      rfl
    · exact nomatch h
  · rintro rfl
    exact dif_pos text.isValidUTF8

theorem readText_eq_ok_iff : t.readText cwd p = .ok text ↔ t.HoldsFile cwd p text.toUTF8 := by
  rw [← readBytes_eq_ok_iff]
  unfold readText
  cases t.readBytes cwd p with
  | error cause => simp
  | ok bytes =>
    rw [Except.ok.injEq, ← fromUTF8?_eq_some_iff]
    cases h : String.fromUTF8? bytes <;> simp [h]

theorem walk_append {front back : List String} (h : t.walk loc front = .ok next) :
    t.walk loc (front ++ back) = t.walk next back := by
  induction front generalizing loc with
  | nil =>
    obtain rfl : loc = next := Except.ok.inj h
    rfl
  | cons piece front ih =>
    simp only [walk, List.cons_append] at h ⊢
    cases hone : t.walkOne loc piece with
    | error cause => simp [hone] at h
    | ok mid =>
      simp only [hone] at h ⊢
      exact ih h

/-- Directories stay directories, and nothing goes away. -/
def Within (t t' : FileTree) : Prop :=
  ∀ loc, (t.get? loc = some .directory → t'.get? loc = some .directory) ∧
    (t.get? loc ≠ none → t'.get? loc ≠ none)

namespace Within

theorem refl (t : FileTree) : t.Within t := fun _ => ⟨id, id⟩

theorem trans {t'' : FileTree} (h : t.Within t') (h' : t'.Within t'') : t.Within t'' :=
  fun loc => ⟨fun hdir => (h' loc).1 ((h loc).1 hdir), fun hthere => (h' loc).2 ((h loc).2 hthere)⟩

theorem isDirectory (h : t.Within t') (hdir : t.isDirectory loc = true) : t'.isDirectory loc = true := by
  simp only [FileTree.isDirectory, beq_iff_eq] at hdir ⊢
  exact (h loc).1 hdir

theorem walkOne (h : t.Within t') (hone : t.walkOne loc piece = .ok next) :
    t'.walkOne loc piece = .ok next := by
  unfold FileTree.walkOne at hone ⊢
  cases hdir : t.isDirectory loc with
  | false => simp [hdir] at hone
  | true =>
    simp only [hdir, h.isDirectory hdir, Bool.not_true, Bool.false_eq_true, if_false] at hone ⊢
    by_cases hidle : Path.isIdle piece = true
    · simpa only [if_pos hidle] using hone
    by_cases hup : piece = ".."
    · simpa only [if_neg hidle, if_pos hup] using hone
    by_cases hlong : nameBytes < piece.utf8ByteSize
    · simp only [if_neg hidle, if_neg hup, if_pos hlong] at hone
      exact nomatch hone
    simp only [if_neg hidle, if_neg hup, if_neg hlong] at hone ⊢
    cases hthere : t.get? (loc ++ [piece]) with
    | none => simp [hthere] at hone
    | some node =>
      have hstill : t'.get? (loc ++ [piece]) ≠ none := (h _).2 (by simp [hthere])
      simp only [hthere, Option.isNone_some, Bool.false_eq_true, if_false] at hone
      rw [if_neg (by simpa using hstill)]
      exact hone

theorem walk (h : t.Within t') {body : List String} (hwalk : t.walk loc body = .ok next) :
    t'.walk loc body = .ok next := by
  induction body generalizing loc with
  | nil => exact hwalk
  | cons piece body ih =>
    unfold FileTree.walk at hwalk ⊢
    cases hone : t.walkOne loc piece with
    | error cause => simp [hone] at hwalk
    | ok mid =>
      simp only [hone] at hwalk
      simp only [h.walkOne hone]
      exact ih hwalk

theorem locate (h : t.Within t') (hloc : t.locate cwd p = .ok loc) : t'.locate cwd p = .ok loc := by
  obtain ⟨hfine, hwalk⟩ := locate_eq_ok_iff.mp hloc
  exact locate_eq_ok_iff.mpr ⟨hfine, h.walk hwalk⟩

end Within

theorem within_put {node : Node} {hd : t.get? dir = some .directory}
    {hn : t.get? (dir ++ [name]) ≠ some .directory} : t.Within (t.put dir name node hd hn) := by
  intro loc
  by_cases he : loc = dir ++ [name]
  · subst he
    exact ⟨fun hdir => absurd hdir hn, fun _ => by simp [get?_put_self]⟩
  · rw [get?_put_of_ne _ _ _ _ _ _ he]
    exact ⟨id, id⟩

theorem site_eq_some {body : List String} (h : t.site cwd p body = .ok (dir, some name)) :
    refusal? p = none ∧ t.walk (origin cwd p) body.dropLast = .ok dir ∧ body.getLast? = some name ∧
      Path.isIdle name = false ∧ name ≠ ".." ∧ name.utf8ByteSize ≤ nameBytes := by
  unfold site at h
  split at h
  · exact nomatch h
  rename_i hfine
  split at h
  · exact nomatch h
  rename_i loc hwalk
  split at h
  · exact nomatch h
  split at h
  · simp at h
  rename_i last hlast
  split at h
  · simp at h
  rename_i hproper
  split at h
  · exact nomatch h
  rename_i hshort
  simp only [Except.ok.injEq, Prod.mk.injEq, Option.some.injEq] at h
  obtain ⟨rfl, rfl⟩ := h
  simp only [not_or, Bool.not_eq_true] at hproper
  exact ⟨hfine, hwalk, hlast, hproper.1, hproper.2, Nat.le_of_not_lt hshort⟩

theorem walkOne_put_self {node : Node} {hd : t.get? dir = some .directory}
    {hn : t.get? (dir ++ [name]) ≠ some .directory} (hidle : Path.isIdle name = false)
    (hup : name ≠ "..") (hshort : name.utf8ByteSize ≤ nameBytes) :
    (t.put dir name node hd hn).walkOne dir name = .ok (dir ++ [name]) := by
  have hdir : (t.put dir name node hd hn).isDirectory dir = true :=
    within_put.isDirectory (by simp [isDirectory, hd])
  simp [walkOne, hdir, hidle, hup, Nat.not_lt.mpr hshort, get?_put_self]

theorem writeFile_eq_ok (h : t.writeFile cwd p content = .ok t') :
    ∃ dir name hd hn, t.site cwd p p.body = .ok (dir, some name) ∧
      t' = t.put dir name (.file content) hd hn := by
  unfold writeFile at h
  split at h
  · exact nomatch h
  · exact nomatch h
  rename_i dir name hsite
  split at h
  · rename_i hd
    split at h
    · exact nomatch h
    · rename_i hn
      exact ⟨dir, name, hd, hn, hsite, (Except.ok.inj h).symm⟩
  · exact nomatch h

theorem locate_writeFile (h : t.writeFile cwd p content = .ok t') :
    t.Within t' ∧ ∃ loc, t'.locate cwd p = .ok loc ∧ t'.get? loc = some (.file content) ∧
      ∀ other ≠ loc, t'.get? other = t.get? other := by
  obtain ⟨dir, name, hd, hn, hsite, rfl⟩ := writeFile_eq_ok h
  obtain ⟨hfine, hwalk, hlast, hidle, hup, hshort⟩ := site_eq_some hsite
  obtain ⟨front, hfront⟩ := List.getLast?_eq_some_iff.mp hlast
  rw [hfront, List.dropLast_concat] at hwalk
  refine ⟨within_put, dir ++ [name], locate_eq_ok_iff.mpr ⟨hfine, ?_⟩, get?_put_self ..,
    fun other hother => get?_put_of_ne _ _ _ _ _ _ hother⟩
  rw [hfront, walk_append (within_put.walk hwalk)]
  simp only [walk, walkOne_put_self hidle hup hshort]

theorem holdsFile_writeFile (h : t.writeFile cwd p content = .ok t') : t'.HoldsFile cwd p content := by
  obtain ⟨-, loc, hloc, hfile, -⟩ := locate_writeFile h
  exact ⟨loc, hloc, hfile⟩

end ActionLookup.FileTree
