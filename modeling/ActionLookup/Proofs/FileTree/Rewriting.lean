import ActionLookup.Proofs.FileTree.Delivery

namespace ActionLookup

open FileTree

theorem Text.isPrefix_join_concat (separator : Char) (front : List (List Char)) {piece other : List Char}
    (h : piece <+: other) : join separator (front ++ [piece]) <+: join separator (front ++ [other]) := by
  by_cases hfront : front = []
  · rw [hfront]
    exact h
  · rw [join_append separator hfront (List.cons_ne_nil _ _), join_append separator hfront (List.cons_ne_nil _ _)]
    exact (List.prefix_append_right_inj _).mpr (List.cons_prefix_cons.mpr ⟨rfl, h⟩)

theorem Path.isPrefix_text_child (dir : Path) (name : String) :
    dir.text.toList <+: (dir.child name).text.toList := by
  by_cases hslash : dir.body.getLast? = some ""
  · obtain ⟨front, hfront⟩ := List.getLast?_eq_some_iff.mp hslash
    have hchild : (dir.child name).body = front ++ [name] := by simp [child, hfront]
    have hbody : dir.bodyText.toList <+: (dir.child name).bodyText.toList := by
      simp only [bodyText, hchild, hfront, String.toList_ofList, List.map_append, List.map_cons, List.map_nil]
      exact Text.isPrefix_join_concat '/' _ (by simp)
    unfold text
    rw [anchor_child]
    cases dir.anchor with
    | root => simpa using hbody
    | here => simpa [hchild, hfront] using hbody
    | bare => exact hbody
  · have hchild : (dir.child name).body = dir.body ++ [name] := by rw [child, if_neg hslash]
    exact isPrefix_text (anchor_child dir name).symm ⟨[name], hchild.symm⟩

namespace FileTree

variable {t t' : FileTree} {cwd loc next dir : Location} {name piece : String} {p : Path}
  {front : List String} {content : ByteArray}

/-! ### The same tree -/

/-- The same node at every location, however often its entry was put there. -/
def Alike (t t' : FileTree) : Prop := ∀ loc, t.get? loc = t'.get? loc

namespace Alike

theorem symm (h : t.Alike t') : t'.Alike t := fun loc => (h loc).symm

theorem within (h : t.Alike t') : t.Within t' := by
  intro loc
  rw [h loc]
  exact ⟨id, id⟩

theorem holdsFile (h : t.Alike t') (hfile : t.HoldsFile cwd p content) : t'.HoldsFile cwd p content := by
  obtain ⟨loc, hloc, hnode⟩ := hfile
  exact ⟨loc, h.within.locate hloc, (h loc).symm.trans hnode⟩

end Alike

/-! ### A directory that is there -/

theorem walk_concat_eq_ok (h : t.walk loc (front ++ [piece]) = .ok next) :
    ∃ mid, t.walk loc front = .ok mid ∧ t.walkOne mid piece = .ok next := by
  obtain ⟨mid, hfront, hlast⟩ := walk_append_eq_ok h
  refine ⟨mid, hfront, ?_⟩
  simp only [walk] at hlast
  cases hone : t.walkOne mid piece with
  | error cause => simp [hone] at hlast
  | ok next => simpa [hone] using hlast

theorem walkOne_eq_ok (h : t.walkOne loc piece = .ok next) :
    (Path.isIdle piece = true ∧ next = loc) ∨ (piece = ".." ∧ next = loc.dropLast) ∨
      (Path.isIdle piece = false ∧ piece ≠ ".." ∧ piece.utf8ByteSize ≤ nameBytes ∧
        t.get? (loc ++ [piece]) ≠ none ∧ next = loc ++ [piece]) := by
  have hdir := isDirectory_of_walkOne h
  simp only [walkOne, hdir, Bool.not_true, Bool.false_eq_true, if_false] at h
  split at h
  · rename_i hidle
    exact .inl ⟨hidle, (Except.ok.inj h).symm⟩
  split at h
  · rename_i hup
    exact .inr (.inl ⟨hup, (Except.ok.inj h).symm⟩)
  split at h
  · cases h
  rename_i hidle hup hlong
  split at h
  · cases h
  rename_i hthere
  exact .inr (.inr ⟨by simpa using hidle, hup, Nat.le_of_not_lt hlong, by simpa using hthere,
    (Except.ok.inj h).symm⟩)

theorem walk_dropSlashes (h : t.walk loc p.body = .ok next) (hdir : t.isDirectory next = true) :
    t.walk loc (dropSlashes p.body) = .ok next := by
  obtain ⟨slashes, hslashes, hbody⟩ := exists_slashes p.body
  rw [hbody] at h
  obtain ⟨mid, hfront, hback⟩ := walk_append_eq_ok h
  cases slashes with
  | nil =>
    obtain rfl : mid = next := Except.ok.inj hback
    exact hfront
  | cons piece slashes =>
    have hstay := walk_slashes (isDirectory_of_walk hback (List.cons_ne_nil _ _)) hslashes
    rw [hfront, ← hback, hstay]

theorem site_concat (hfine : refusal? p = none) (hfront : t.walk (origin cwd p) front = .ok dir)
    (hdir : t.isDirectory dir = true) :
    t.site cwd p (front ++ [name]) =
      if Path.isIdle name ∨ name = ".." then .ok (dir, none)
      else if nameBytes < name.utf8ByteSize then .error .nameTooLong
      else .ok (dir, some name) := by
  simp [site, hfine, hfront, hdir]

theorem makeDirectory_of_isFolder (h : t.isFolder cwd p = true) :
    t.makeDirectory cwd p = .error .exists := by
  obtain ⟨hfine, loc, hwalk, hdir⟩ := isFolder_iff.mp h
  have hbare := walk_dropSlashes hwalk hdir
  unfold makeDirectory
  rcases List.eq_nil_or_concat' (dropSlashes p.body) with hnil | ⟨front, name, hfront⟩
  · rw [hnil] at hbare ⊢
    obtain rfl : origin cwd p = loc := Except.ok.inj hbare
    have hsite : t.site cwd p [] = .ok (origin cwd p, none) := by simp [site, hfine, walk, hdir]
    rw [hsite]
  · rw [hfront] at hbare ⊢
    obtain ⟨mid, hmid, hlast⟩ := walk_concat_eq_ok hbare
    have hmidDir := isDirectory_of_walkOne hlast
    rw [site_concat hfine hmid hmidDir]
    rcases walkOne_eq_ok hlast with ⟨hidle, -⟩ | ⟨rfl, -⟩ | ⟨hidle, hup, hshort, hthere, rfl⟩
    · simp [hidle]
    · simp
    · have hmidNode : t.get? mid = some .directory := by simpa [isDirectory] using hmidDir
      simp [hidle, hup, Nat.not_lt.mpr hshort, hmidNode, hthere]

theorem makeDirectories_of_reaches (h : t.Reaches cwd p) : t.makeDirectories cwd p = (t, .ok ()) := by
  unfold makeDirectories Path.ancestry
  by_cases hempty : p.text = ""
  · rw [chain_of_empty hempty]
    rfl
  · have hfolder : t.isFolder cwd p = true := h.resolve_left hempty
    have hmake := makeDirectory_of_isFolder hfolder
    obtain ⟨parents, hchain, -⟩ := @chain_of_ne p (p.body.length + 1) hempty
    rw [hchain, makeChain_of_ne (by rw [hmake]; nofun), attempt, hmake]
    simp only [forgive, hfolder, if_true]

theorem reaches_of_locate_child {dir : Path} (h : t.locate cwd (dir.child name) = .ok loc) :
    t.Reaches cwd dir := by
  by_cases hempty : dir.text = ""
  · exact .inl hempty
  obtain ⟨front, slashes, hchild, hbody, hslashes⟩ := Path.child_body dir name
  obtain ⟨hfine, hwalk⟩ := locate_eq_ok_iff.mp h
  rw [hchild, Path.origin_child] at hwalk
  obtain ⟨mid, hfront, hlast⟩ := walk_concat_eq_ok hwalk
  have hdir := isDirectory_of_walkOne hlast
  refine .inr (isFolder_iff.mpr ⟨?_, mid, ?_, hdir⟩)
  · exact refusal?_of_isPrefix hfine (Path.isPrefix_text_child dir name) hempty
  · rw [hbody, walk_append hfront, walk_slashes hdir hslashes]

/-! ### A file that is there -/

theorem isDirectory_dropLast (h : t.isDirectory loc = true) : t.isDirectory loc.dropLast = true := by
  rcases List.eq_nil_or_concat' loc with rfl | ⟨front, name, rfl⟩
  · exact h
  · have hthere : t.get? (front ++ [name]) ≠ none := by
      intro hnone
      simp [isDirectory, hnone] at h
    rw [List.dropLast_concat, isDirectory, show t.get? front = some .directory from t.parents_hold _ _ hthere]
    rfl

theorem walk_to_file (h : t.walk loc (front ++ [name]) = .ok next) (hfile : t.isDirectory next = false) :
    ∃ dir, t.walk loc front = .ok dir ∧ t.isDirectory dir = true ∧ Path.isIdle name = false ∧
      name ≠ ".." ∧ name.utf8ByteSize ≤ nameBytes ∧ next = dir ++ [name] := by
  obtain ⟨dir, hfront, hlast⟩ := walk_concat_eq_ok h
  have hdir := isDirectory_of_walkOne hlast
  rcases walkOne_eq_ok hlast with ⟨-, rfl⟩ | ⟨-, rfl⟩ | ⟨hidle, hup, hshort, -, rfl⟩
  · rw [hdir] at hfile
    exact absurd hfile (by decide)
  · rw [isDirectory_dropLast hdir] at hfile
    exact absurd hfile (by decide)
  · exact ⟨dir, hfront, hdir, hidle, hup, hshort, rfl⟩

theorem getLast?_of_locate_child {dir : Path} (h : t.locate cwd (dir.child name) = .ok loc)
    (hfile : t.isDirectory loc = false) : loc.getLast? = some name := by
  obtain ⟨front, -, hchild, -, -⟩ := Path.child_body dir name
  obtain ⟨-, hwalk⟩ := locate_eq_ok_iff.mp h
  rw [hchild] at hwalk
  obtain ⟨dir, -, -, -, -, -, rfl⟩ := walk_to_file hwalk hfile
  exact List.getLast?_concat

theorem writeFile_of_locate (h : t.locate cwd p = .ok loc) (hbody : p.body = front ++ [name])
    (hfile : t.isDirectory loc = false) (content : ByteArray) :
    ∃ t', t.writeFile cwd p content = .ok t' ∧ t'.get? loc = some (.file content) ∧
      ∀ other ≠ loc, t'.get? other = t.get? other := by
  obtain ⟨hfine, hwalk⟩ := locate_eq_ok_iff.mp h
  rw [hbody] at hwalk
  obtain ⟨dir, hfront, hdir, hidle, hup, hshort, rfl⟩ := walk_to_file hwalk hfile
  have hsite : t.site cwd p p.body = .ok (dir, some name) := by
    rw [hbody, site_concat hfine hfront hdir]
    simp [hidle, hup, Nat.not_lt.mpr hshort]
  have hnode : t.get? dir = some .directory := by simpa [isDirectory] using hdir
  have hfree : t.get? (dir ++ [name]) ≠ some .directory := by simpa [isDirectory] using hfile
  refine ⟨t.put dir name (.file content) hnode hfree, ?_, get?_put_self .., fun other hother =>
    get?_put_of_ne _ _ _ _ _ _ hother⟩
  simp only [writeFile, hsite]
  rw [dif_pos hnode, dif_neg hfree]

end FileTree

end ActionLookup
