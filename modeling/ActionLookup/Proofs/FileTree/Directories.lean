import Mathlib.Data.List.DropRight
import ActionLookup.Proofs.FileTree.Writing

/-!
Making a directory with the parents that it needs. What was there stays as it is, what is new is a
directory that the path comes by, also where something fails halfway (`grows_makeDirectories`); and
the directory is there afterwards exactly if nothing fails (`makeDirectories_eq_ok_iff`).
-/

namespace ActionLookup

open FileTree

namespace Text

theorem isPrefix_join (separator : Char) (front back : List (List Char)) :
    join separator front <+: join separator (front ++ back) := by
  by_cases hfront : front = []
  · exact hfront ▸ List.nil_prefix
  by_cases hback : back = []
  · simp [hback]
  · rw [join_append separator hfront hback]
    exact List.prefix_append _ _

end Text

namespace Path

variable {p q : Path}

theorem isPrefix_bodyText (h : q.body <+: p.body) : q.bodyText.toList <+: p.bodyText.toList := by
  obtain ⟨back, hback⟩ := h
  simp only [bodyText, String.toList_ofList, ← hback, List.map_append]
  exact Text.isPrefix_join '/' _ _

theorem isPrefix_text (hanchor : q.anchor = p.anchor) (h : q.body <+: p.body) :
    q.text.toList <+: p.text.toList := by
  have hbody := isPrefix_bodyText h
  unfold text
  rw [hanchor]
  cases p.anchor with
  | root => simpa using hbody
  | bare => exact hbody
  | here =>
    by_cases hp : p.body = []
    · have hq : q.body = [] := List.prefix_nil.mp (hp ▸ h)
      simp [hp, hq]
    · by_cases hq : q.body = []
      · simp [hp, hq]
      · simpa [hp, hq] using hbody

theorem isPrefix_dropIdleEnd (body : List String) : dropIdleEnd body <+: body :=
  List.rdropWhile_prefix _ _

theorem parent?_eq_some (h : p.parent? = some q) (hq : q.text ≠ "") :
    q.anchor = p.anchor ∧ ∃ back, back ≠ [] ∧ p.body = q.body ++ back := by
  unfold parent? at h
  split at h
  · split at h
    · exact nomatch h
    · obtain rfl := Option.some.inj h
      exact absurd rfl hq
    · exact nomatch h
  · rename_i hkept
    obtain rfl := Option.some.inj h
    refine ⟨rfl, ?_⟩
    have hlast := List.dropLast_prefix (dropIdleEnd p.body)
    obtain ⟨back, hback⟩ := ((isPrefix_dropIdleEnd _).trans hlast).trans (isPrefix_dropIdleEnd p.body)
    refine ⟨back, ?_, hback.symm⟩
    rintro rfl
    have hshort := (isPrefix_dropIdleEnd (dropIdleEnd p.body).dropLast).length_le
    have hall := (isPrefix_dropIdleEnd p.body).length_le
    have hpos := List.length_pos_iff.mpr hkept
    have hlength := congrArg List.length hback
    simp only [List.length_append, List.length_nil, List.length_dropLast] at hlength hshort
    omega

end Path

namespace FileTree

variable {t t' t'' : FileTree} {cwd loc next dir : Location} {name piece : String} {p q : Path}
  {front back body : List String} {cause : Cause}

theorem refusal?_eq_none_iff :
    refusal? p = none ↔ '\x00' ∉ p.text.toList ∧ p.text ≠ "" ∧ p.text.utf8ByteSize < pathBytes := by
  unfold refusal?
  split
  · rename_i hnul
    simpa using fun h : '\x00' ∉ p.text.toList => absurd hnul (by simpa using h)
  split
  · rename_i hempty
    simp [hempty]
  split
  · rename_i hlong
    simpa using fun _ _ => hlong
  · rename_i hnul hempty hlong
    simpa using ⟨by simpa using hnul, hempty, Nat.lt_of_not_le hlong⟩

theorem refusal?_of_isPrefix (h : refusal? p = none) (hshorter : q.text.toList <+: p.text.toList)
    (hq : q.text ≠ "") : refusal? q = none := by
  obtain ⟨hnul, -, hlong⟩ := refusal?_eq_none_iff.mp h
  refine refusal?_eq_none_iff.mpr ⟨fun hmem => hnul (hshorter.subset hmem), hq, ?_⟩
  obtain ⟨rest, hrest⟩ := hshorter
  have htext : p.text = q.text ++ String.ofList rest := by
    rw [← String.toList_inj, String.toList_append, String.toList_ofList, hrest]
  rw [htext, String.utf8ByteSize_append] at hlong
  omega

theorem isDirectory_of_walkOne (h : t.walkOne loc piece = .ok next) : t.isDirectory loc = true := by
  unfold walkOne at h
  cases hdir : t.isDirectory loc with
  | true => rfl
  | false => simp [hdir] at h

theorem walk_append_eq_ok (h : t.walk loc (front ++ back) = .ok next) :
    ∃ mid, t.walk loc front = .ok mid ∧ t.walk mid back = .ok next := by
  induction front generalizing loc with
  | nil => exact ⟨loc, rfl, h⟩
  | cons piece front ih =>
    simp only [List.cons_append, walk] at h ⊢
    cases hone : t.walkOne loc piece with
    | error cause => simp [hone] at h
    | ok mid =>
      simp only [hone] at h ⊢
      exact ih h

theorem isDirectory_of_walk (h : t.walk loc body = .ok next) (hbody : body ≠ []) :
    t.isDirectory loc = true := by
  cases body with
  | nil => exact absurd rfl hbody
  | cons piece body =>
    simp only [walk] at h
    cases hone : t.walkOne loc piece with
    | error cause => simp [hone] at h
    | ok mid => exact isDirectory_of_walkOne hone

theorem isFolder_iff : t.isFolder cwd p = true ↔
    refusal? p = none ∧ ∃ loc, t.walk (origin cwd p) p.body = .ok loc ∧ t.isDirectory loc = true := by
  unfold isFolder locate
  cases refusal? p with
  | some cause => simp
  | none => cases t.walk (origin cwd p) p.body <;> simp

/-- The empty path stands for the working directory, which nobody makes. -/
def Reaches (t : FileTree) (cwd : Location) (p : Path) : Prop := p.text = "" ∨ t.isFolder cwd p = true

theorem reaches_parent (h : t.isFolder cwd p = true) (hparent : p.parent? = some q) : t.Reaches cwd q := by
  by_cases hq : q.text = ""
  · exact .inl hq
  · obtain ⟨hanchor, back, hback, hbody⟩ := Path.parent?_eq_some hparent hq
    obtain ⟨hfine, loc, hwalk, -⟩ := isFolder_iff.mp h
    have hshorter := Path.isPrefix_text hanchor ⟨back, hbody.symm⟩
    have horigin : origin cwd q = origin cwd p := by rw [origin, origin, hanchor]
    rw [hbody] at hwalk
    obtain ⟨mid, hfront, hrest⟩ := walk_append_eq_ok hwalk
    refine .inr (isFolder_iff.mpr ⟨refusal?_of_isPrefix hfine hshorter hq, mid, ?_, ?_⟩)
    · rw [horigin, hfront]
    · exact isDirectory_of_walk hrest hback

/-! ### What is new -/

def Passes (t : FileTree) (cwd : Location) (p : Path) (loc : Location) : Prop :=
  ∃ front, front <+: p.body ∧ t.walk (origin cwd p) front = .ok loc

/-- Nothing has changed here, or it is a new directory that the path comes by. -/
def GrownAt (cwd : Location) (p : Path) (t t' : FileTree) (loc : Location) : Prop :=
  t'.get? loc = t.get? loc ∨
    t.get? loc = none ∧ t'.get? loc = some .directory ∧ t'.Passes cwd p loc

def Grown (cwd : Location) (p : Path) (t t' : FileTree) : Prop := ∀ loc, GrownAt cwd p t t' loc

theorem Passes.mono (h : t.Passes cwd p loc) (hin : t.Within t') : t'.Passes cwd p loc := by
  obtain ⟨front, hfront, hwalk⟩ := h
  exact ⟨front, hfront, hin.walk hwalk⟩

theorem Grown.within (h : Grown cwd p t t') : t.Within t' := by
  intro loc
  rcases h loc with hsame | ⟨hnone, -, -⟩
  · rw [hsame]
    exact ⟨id, id⟩
  · simp [hnone]

theorem Grown.refl (t : FileTree) : Grown cwd p t t := fun _ => .inl rfl

theorem Grown.trans (h : Grown cwd p t t') (h' : Grown cwd p t' t'') : Grown cwd p t t'' := by
  intro loc
  rcases h loc with hsame | ⟨hnone, hdir, hpasses⟩
  · rcases h' loc with hsame' | ⟨hnone', hnew⟩
    · exact .inl (hsame'.trans hsame)
    · exact .inr ⟨hsame.symm.trans hnone', hnew⟩
  · exact .inr ⟨hnone, (h'.within loc).1 hdir, hpasses.mono h'.within⟩

theorem Grown.of_parent (h : Grown cwd q t t') (hanchor : q.anchor = p.anchor) (hbody : q.body <+: p.body) :
    Grown cwd p t t' := by
  intro loc
  rcases h loc with hsame | ⟨hnone, hdir, front, hfront, hwalk⟩
  · exact .inl hsame
  · have horigin : origin cwd q = origin cwd p := by rw [origin, origin, hanchor]
    exact .inr ⟨hnone, hdir, front, hfront.trans hbody, horigin ▸ hwalk⟩

/-! ### One directory -/

theorem isPrefix_dropSlashes (body : List String) : dropSlashes body <+: body :=
  List.rdropWhile_prefix _ _

theorem walk_slashes (h : t.isDirectory loc = true) (hback : ∀ piece ∈ back, piece = "") :
    t.walk loc back = .ok loc := by
  induction back with
  | nil => rfl
  | cons piece back ih =>
    obtain ⟨rfl, hmore⟩ := List.forall_mem_cons.mp hback
    have hone : t.walkOne loc "" = .ok loc := by simp [walkOne, h, Path.isIdle]
    simp only [walk, hone]
    exact ih hmore

theorem exists_slashes (body : List String) :
    ∃ slashes, (∀ piece ∈ slashes, piece = "") ∧ body = dropSlashes body ++ slashes := by
  refine ⟨body.rtakeWhile fun piece => piece == "", fun piece hpiece => ?_, ?_⟩
  · simpa using List.mem_rtakeWhile_imp hpiece
  · exact List.rdropWhile_append_rtakeWhile.symm

theorem makeDirectory_eq_ok (h : t.makeDirectory cwd p = .ok t') :
    ∃ dir name hd hn, t.site cwd p (dropSlashes p.body) = .ok (dir, some name) ∧
      t.get? (dir ++ [name]) = none ∧ t' = t.put dir name .directory hd hn := by
  unfold makeDirectory at h
  split at h
  · cases h
  · cases h
  rename_i dir name hsite
  split at h
  · rename_i hd
    split at h
    · rename_i hnone
      exact ⟨dir, name, hd, by simp [hnone], hsite, hnone, (Except.ok.inj h).symm⟩
    · cases h
  · cases h

theorem walk_makeDirectory (h : t.makeDirectory cwd p = .ok t') :
    refusal? p = none ∧ ∃ dir name, t.get? (dir ++ [name]) = none ∧
      t'.get? (dir ++ [name]) = some .directory ∧ (∀ loc ≠ dir ++ [name], t'.get? loc = t.get? loc) ∧
      t'.walk (origin cwd p) (dropSlashes p.body) = .ok (dir ++ [name]) := by
  obtain ⟨dir, name, hd, hn, hsite, hnone, rfl⟩ := makeDirectory_eq_ok h
  obtain ⟨hfine, hwalk, hlast, hidle, hup, hshort⟩ := site_eq_some hsite
  refine ⟨hfine, dir, name, hnone, get?_put_self .., fun loc hloc => get?_put_of_ne _ _ _ _ _ _ hloc, ?_⟩
  obtain ⟨front, hfront⟩ := List.getLast?_eq_some_iff.mp hlast
  rw [hfront, List.dropLast_concat] at hwalk
  rw [hfront, walk_append (within_put.walk hwalk)]
  simp only [walk, walkOne_put_self hidle hup hshort]

theorem grown_makeDirectory (h : t.makeDirectory cwd p = .ok t') : Grown cwd p t t' := by
  obtain ⟨-, dir, name, hnone, hnew, hsame, hwalk⟩ := walk_makeDirectory h
  intro loc
  by_cases hloc : loc = dir ++ [name]
  · subst hloc
    exact .inr ⟨hnone, hnew, _, isPrefix_dropSlashes _, hwalk⟩
  · exact .inl (hsame loc hloc)

theorem isFolder_makeDirectory (h : t.makeDirectory cwd p = .ok t') : t'.isFolder cwd p = true := by
  obtain ⟨hfine, dir, name, -, hnew, -, hwalk⟩ := walk_makeDirectory h
  obtain ⟨slashes, hslashes, hbody⟩ := exists_slashes p.body
  have hdir : t'.isDirectory (dir ++ [name]) = true := by simp [isDirectory, hnew]
  refine isFolder_iff.mpr ⟨hfine, dir ++ [name], ?_, hdir⟩
  rw [hbody, walk_append hwalk, walk_slashes hdir hslashes]

/-! ### A directory and its parents -/

def attempt (t : FileTree) (cwd : Location) (p : Path) : FileTree × Except Cause Unit :=
  match t.makeDirectory cwd p with
  | .ok t => (t, .ok ())
  | .error cause => t.forgive cwd p cause

theorem grown_attempt (t : FileTree) (cwd : Location) (p : Path) : Grown cwd p t (t.attempt cwd p).1 := by
  unfold attempt
  cases hmake : t.makeDirectory cwd p with
  | ok t' => exact grown_makeDirectory hmake
  | error cause =>
    unfold forgive
    cases t.isFolder cwd p <;> exact .refl t

theorem attempt_eq_ok_iff :
    (t.attempt cwd p).2 = .ok () ↔ (t.attempt cwd p).1.isFolder cwd p = true := by
  unfold attempt
  cases hmake : t.makeDirectory cwd p with
  | ok t' => simp [isFolder_makeDirectory hmake]
  | error cause =>
    unfold forgive
    cases hfolder : t.isFolder cwd p <;> simp [hfolder]

section Chain

variable {parents : List Path} {fuel : Nat}

theorem makeChain_of_ne (h : t.makeDirectory cwd p ≠ .error .noEntry) :
    t.makeChain cwd (p :: parents) = t.attempt cwd p := by
  unfold makeChain attempt
  cases hmake : t.makeDirectory cwd p with
  | ok t' => rfl
  | error cause =>
    cases cause with
    | noEntry => exact absurd hmake h
    | _ => rfl

theorem makeChain_of_error (h : t.makeDirectory cwd p = .error .noEntry)
    (hparents : t.makeChain cwd parents = (t', .error cause)) :
    t.makeChain cwd (p :: parents) = (t', .error cause) := by
  rw [makeChain, h, hparents]

theorem makeChain_of_ok (h : t.makeDirectory cwd p = .error .noEntry)
    (hparents : t.makeChain cwd parents = (t', .ok ())) :
    t.makeChain cwd (p :: parents) = t'.attempt cwd p := by
  rw [makeChain, h, hparents]
  rfl

theorem chain_of_empty (h : p.text = "") : Path.chain fuel p = [] := by
  cases fuel with
  | zero => rfl
  | succ fuel => rw [Path.chain, if_pos h]

theorem chain_of_ne (h : p.text ≠ "") :
    ∃ parents, Path.chain (fuel + 1) p = p :: parents ∧
      (parents = [] ∨ ∃ q, p.parent? = some q ∧ parents = Path.chain fuel q) := by
  rw [Path.chain, if_neg h]
  cases hparent : p.parent? with
  | none => exact ⟨[], rfl, .inl rfl⟩
  | some q => exact ⟨Path.chain fuel q, rfl, .inr ⟨q, rfl, rfl⟩⟩

structure Settles (t : FileTree) (cwd : Location) (p : Path) (result : FileTree × Except Cause Unit) :
    Prop where
  grown : Grown cwd p t result.1
  missing : result.2 ≠ .ok () → ¬ result.1.Reaches cwd p

theorem settles_attempt (hp : p.text ≠ "") (h : Grown cwd p t t') : Settles t cwd p (t'.attempt cwd p) := by
  refine ⟨h.trans (grown_attempt t' cwd p), ?_⟩
  rintro hfailed (hempty | hfolder)
  · exact hp hempty
  · exact hfailed (attempt_eq_ok_iff.mpr hfolder)

theorem Settles.of_parent {result : FileTree × Except Cause Unit} (h : Settles t cwd q result)
    (hparent : p.parent? = some q) (hp : p.text ≠ "") (hq : q.text ≠ "") : Settles t cwd p result := by
  obtain ⟨hanchor, back, -, hbody⟩ := Path.parent?_eq_some hparent hq
  refine ⟨h.grown.of_parent hanchor ⟨back, hbody.symm⟩, ?_⟩
  rintro hfailed (hempty | hfolder)
  · exact hp hempty
  · exact h.missing hfailed (reaches_parent hfolder hparent)

theorem settles_nil (t : FileTree) (cwd : Location) (p : Path) : Settles t cwd p (t.makeChain cwd []) :=
  ⟨.refl t, fun hfailed => absurd rfl hfailed⟩

theorem settles_chain (fuel : Nat) : Settles t cwd p (t.makeChain cwd (Path.chain fuel p)) := by
  induction fuel generalizing t p with
  | zero => exact settles_nil t cwd p
  | succ fuel ih =>
    by_cases hp : p.text = ""
    · rw [chain_of_empty hp]
      exact settles_nil t cwd p
    obtain ⟨parents, hchain, hparents⟩ := @chain_of_ne p fuel hp
    rw [hchain]
    have habove : Settles t cwd p (t.makeChain cwd parents) := by
      rcases hparents with rfl | ⟨q, hparent, rfl⟩
      · exact settles_nil t cwd p
      by_cases hq : q.text = ""
      · rw [chain_of_empty hq]
        exact settles_nil t cwd p
      · exact ih.of_parent hparent hp hq
    by_cases hmake : t.makeDirectory cwd p = .error .noEntry
    · rcases hresult : t.makeChain cwd parents with ⟨t', _ | _⟩
      · rw [makeChain_of_error hmake hresult, ← hresult]
        exact habove
      · rw [makeChain_of_ok hmake hresult]
        rw [hresult] at habove
        exact settles_attempt hp habove.grown
    · rw [makeChain_of_ne hmake]
      exact settles_attempt hp (.refl t)

end Chain

theorem grown_makeDirectories (t : FileTree) (cwd : Location) (p : Path) :
    Grown cwd p t (t.makeDirectories cwd p).1 :=
  (settles_chain _).grown

theorem makeDirectories_eq_ok_iff :
    (t.makeDirectories cwd p).2 = .ok () ↔ (t.makeDirectories cwd p).1.Reaches cwd p := by
  constructor
  · intro h
    by_cases hp : p.text = ""
    · exact .inl hp
    obtain ⟨parents, hchain, -⟩ := @chain_of_ne p (p.body.length + 1) hp
    simp only [makeDirectories, Path.ancestry, hchain] at h ⊢
    by_cases hmake : t.makeDirectory cwd p = .error .noEntry
    · rcases hresult : t.makeChain cwd parents with ⟨t', _ | _⟩
      · rw [makeChain_of_error hmake hresult] at h
        exact nomatch h
      · rw [makeChain_of_ok hmake hresult] at h ⊢
        exact .inr (attempt_eq_ok_iff.mp h)
    · rw [makeChain_of_ne hmake] at h ⊢
      exact .inr (attempt_eq_ok_iff.mp h)
  · intro h
    by_contra hfailed
    exact (settles_chain _).missing hfailed h

end FileTree

end ActionLookup
