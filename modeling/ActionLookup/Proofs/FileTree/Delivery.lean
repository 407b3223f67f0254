import ActionLookup.Delivery
import ActionLookup.Proofs.FileTree.Directories
import ActionLookup.Proofs.Generation.Success
import ActionLookup.Proofs.Text.Avoidance

/-!
Generated classes on disk: a class that is saved is a file right in its directory, one that is not
saved says which of the two was in the way, and either way nothing else is touched but for new
directories on the way (`writeTo_touches_only_file`).
-/

namespace ActionLookup

open FileTree

theorem Path.child_body (dir : Path) (name : String) :
    ∃ front slashes, (dir.child name).body = front ++ [name] ∧ dir.body = front ++ slashes ∧
      ∀ piece ∈ slashes, piece = "" := by
  unfold child
  by_cases hslash : dir.body.getLast? = some ""
  · obtain ⟨front, hfront⟩ := List.getLast?_eq_some_iff.mp hslash
    refine ⟨front, [""], ?_, hfront, by simp⟩
    simp [hfront]
  · exact ⟨dir.body, [], by rw [if_neg hslash], by simp, by simp⟩

theorem Path.anchor_child (dir : Path) (name : String) : (dir.child name).anchor = dir.anchor := by
  unfold child
  split <;> rfl

theorem Path.origin_child (cwd : Location) (dir : Path) (name : String) :
    origin cwd (dir.child name) = origin cwd dir := by
  rw [origin, origin, anchor_child]

theorem Path.ofText_of_not_mem {name : String} (hslash : '/' ∉ name.toList) (hdot : name ≠ ".") :
    Path.ofText name = ⟨.bare, [name]⟩ := by
  rw [ofText, Text.pieces_of_not_mem hslash]
  simp [hdot]

theorem Path.body_of_text_eq_empty {dir : Path} (h : dir.text = "") :
    dir.anchor = .bare ∧ (dir.body = [] ∨ dir.body = [""]) := by
  obtain ⟨anchor, body⟩ := dir
  have htext := congrArg String.toList h
  cases anchor with
  | root => simp [text] at htext
  | here =>
      simp only [text] at htext
      split at htext <;> simp at htext
  | bare =>
      refine ⟨rfl, ?_⟩
      rcases body with _ | ⟨piece, _ | ⟨next, rest⟩⟩
      · exact .inl rfl
      · exact .inr (by simpa [text, bodyText, Text.join] using htext)
      · simp [text, bodyText, Text.join] at htext

theorem Path.text_components {p : Path} (h : p.anchor ≠ .root) :
    p.text.toList = Text.join '/' (p.components.map String.toList) := by
  obtain ⟨anchor, body⟩ := p
  cases anchor with
  | root => exact absurd rfl h
  | here => cases body <;> simp [text, components, bodyText, Text.join]
  | bare => cases body <;> simp [text, components, bodyText, Text.join]

theorem Path.join_push {body more : List String} (hbody : body ≠ []) (hmore : more ≠ []) :
    Text.join '/' (((if body.getLast? = some "" then body.dropLast else body) ++ more).map String.toList) =
      Text.join '/' (body.map String.toList) ++ (if body.getLast? = some "" then [] else ['/']) ++
        Text.join '/' (more.map String.toList) := by
  have hlater : more.map String.toList ≠ [] := by simpa using hmore
  split
  · rename_i hslash
    obtain ⟨front, rfl⟩ := List.getLast?_eq_some_iff.mp hslash
    by_cases hfront : front = []
    · simp [hfront, Text.join]
    · have hnames : front.map String.toList ≠ [] := by simpa using hfront
      simp [Text.join_append '/' hnames hlater, Text.join_append '/' hnames (List.cons_ne_nil [] []), Text.join]
  · have hnames : body.map String.toList ≠ [] := by simpa using hbody
    simp [Text.join_append '/' hnames hlater]

/-- The texts are put side by side, with a slash in between where there is none. -/
theorem Path.text_push {dir p : Path} (hdir : dir.text ≠ "") (hrooted : dir.anchor = .root → dir.body ≠ [])
    (hp : p.anchor ≠ .root) :
    (dir.push p).text = dir.text ++ (if dir.body.getLast? = some "" then "" else "/") ++ p.text := by
  obtain ⟨anchor, body⟩ := dir
  have hcomponents : p.components ≠ [] := by
    unfold components
    split
    · exact List.cons_ne_nil _ _
    · split
      · exact List.cons_ne_nil _ _
      · assumption
  have hpush : Path.push ⟨anchor, body⟩ p =
      ⟨anchor, (if body.getLast? = some "" then body.dropLast else body) ++ p.components⟩ := by
    simp only [push, hp, hdir, or_self, if_false]
    split <;> rfl
  apply String.toList_inj.mp
  rw [hpush, String.toList_append, String.toList_append, text_components hp]
  by_cases hbody : body = []
  · subst hbody
    cases anchor with
    | root => exact absurd rfl (hrooted rfl)
    | here => simp [text, bodyText, hcomponents]
    | bare => exact absurd rfl hdir
  · have hjoined := join_push hbody hcomponents
    rw [List.map_append, List.append_assoc] at hjoined
    cases anchor with
    | root => simp [text, bodyText, hjoined, apply_ite String.toList]
    | here => simp [text, bodyText, hbody, hcomponents, hjoined, apply_ite String.toList]
    | bare => simp [text, bodyText, hjoined, apply_ite String.toList]

theorem Path.push_name (dir : Path) (name : String) : dir.push ⟨.bare, [name]⟩ = dir.child name := by
  unfold push child
  by_cases hempty : dir.text = ""
  · obtain ⟨anchor, body⟩ := dir
    obtain ⟨rfl, rfl | rfl⟩ := Path.body_of_text_eq_empty hempty <;> simp [hempty]
  · simp [hempty, components]

theorem Settings.Usable.ofText_fileName {s : Settings} (h : s.Usable) :
    Path.ofText s.fileName = ⟨.bare, [s.fileName]⟩ := by
  have hname : Avoids ['/'] s.className := Avoids.identifier (by decide) h.className
  have hending : Avoids ['/'] ".cs" := by simp [Avoids]
  refine Path.ofText_of_not_mem (fun hmem => ?_) fun hdot => ?_
  · exact Avoids.append_iff.mpr ⟨hname, hending⟩ '/' hmem (List.mem_singleton.mpr rfl)
  · have hlength := congrArg String.length hdot
    rw [fileName, String.length_append] at hlength
    change s.className.length + 3 = 1 at hlength
    omega

namespace Module

variable {m : Module} {t after : FileTree} {cwd : Location} {dir : Path}
  {report : Report GenerationProblem Path}

theorem writeTo_cases (h : m.writeTo t cwd dir = (after, report)) :
    (∃ cause, (t.makeDirectories cwd dir).2 = .error cause ∧ after = (t.makeDirectories cwd dir).1 ∧
      report = .fail (.write dir.text cause)) ∨
    (t.makeDirectories cwd dir).2 = .ok () ∧
      ((∃ cause, after = (t.makeDirectories cwd dir).1 ∧
        report = .fail (.write (m.fileIn dir).text cause)) ∨
      (t.makeDirectories cwd dir).1.writeFile cwd (m.fileIn dir) m.source.toUTF8 = .ok after ∧
        report = ⟨[.wrote (m.fileIn dir).text], .ok (m.fileIn dir)⟩) := by
  unfold writeTo at h
  rcases hmade : t.makeDirectories cwd dir with ⟨made, cause | done⟩
  · rw [hmade] at h
    obtain ⟨rfl, rfl⟩ := Prod.mk.inj h
    exact .inl ⟨cause, rfl, rfl, rfl⟩
  · rw [hmade] at h
    refine .inr ⟨rfl, ?_⟩
    cases hwrite : made.writeFile cwd (m.fileIn dir) m.source.toUTF8 with
    | error cause =>
      simp only [hwrite] at h
      obtain ⟨rfl, rfl⟩ := Prod.mk.inj h
      exact .inl ⟨cause, rfl, rfl⟩
    | ok written =>
      simp only [hwrite] at h
      obtain ⟨rfl, rfl⟩ := Prod.mk.inj h
      exact .inr ⟨rfl, rfl⟩

theorem writeFile_fileIn {made : FileTree} {content : ByteArray}
    (h : made.writeFile cwd (m.fileIn dir) content = .ok after) :
    made.Within after ∧ ∃ loc, after.walk (origin cwd dir) dir.body = .ok loc ∧
      after.get? (loc ++ [m.fileName]) = some (.file content) ∧
      ∀ other ≠ loc ++ [m.fileName], after.get? other = made.get? other := by
  obtain ⟨loc, name, hd, hn, hsite, rfl⟩ := writeFile_eq_ok h
  obtain ⟨-, hwalk, hlast, -⟩ := site_eq_some hsite
  obtain ⟨front, slashes, hchild, hbody, hslashes⟩ := Path.child_body dir m.fileName
  rw [fileIn, hchild, List.dropLast_concat, Path.origin_child] at hwalk
  rw [fileIn, hchild, List.getLast?_concat] at hlast
  obtain rfl := Option.some.inj hlast
  have hwithin : made.Within (made.put loc m.fileName (.file content) hd hn) := within_put
  have hdir := hwithin.isDirectory (show made.isDirectory loc = true by simp [isDirectory, hd])
  refine ⟨hwithin, loc, ?_, get?_put_self .., fun other hother => get?_put_of_ne _ _ _ _ _ _ hother⟩
  rw [hbody, walk_append (hwithin.walk hwalk), walk_slashes hdir hslashes]

theorem fileIn_eq_push (schema : Schema) {settings : Settings} (h : settings.Usable) (dir : Path) :
    (Generation.moduleFor schema settings).fileIn dir = dir.push (.ofText settings.fileName) := by
  rw [h.ofText_fileName, Path.push_name, fileIn, Generation.moduleFor]

theorem writeTo_touches_only_file {schema : Schema} {settings : Settings}
    (h : (Generation.generate schema settings).result = .ok m) (t : FileTree) (cwd : Location) (dir : Path) :
    m.fileIn dir = dir.push (.ofText (settings.className ++ ".cs")) ∧
    (∀ p, (m.writeTo t cwd dir).2.result = .ok p →
      p = m.fileIn dir ∧ ∃ loc, (m.writeTo t cwd dir).1.walk (origin cwd dir) dir.body = .ok loc ∧
        (m.writeTo t cwd dir).1.get? (loc ++ [settings.className ++ ".cs"]) = some (.file m.source.toUTF8) ∧
        ∀ other ≠ loc ++ [settings.className ++ ".cs"], GrownAt cwd dir t (m.writeTo t cwd dir).1 other) ∧
    (∀ problem, (m.writeTo t cwd dir).2.result = .error problem →
      (∀ other, GrownAt cwd dir t (m.writeTo t cwd dir).1 other) ∧ ∃ cause,
        (problem = .write dir.text cause ∧ ¬ (m.writeTo t cwd dir).1.Reaches cwd dir ∨
          problem = .write (m.fileIn dir).text cause ∧ (m.writeTo t cwd dir).1.Reaches cwd dir)) := by
  obtain ⟨hadmits, rfl⟩ := Generation.generate_eq_ok_iff.mp h
  refine ⟨fileIn_eq_push schema (Settings.problem?_eq_none_iff.mp hadmits.usable) dir, ?_⟩
  have hgrown := grown_makeDirectories t cwd dir
  generalize hwrite : Module.writeTo _ t cwd dir = saved
  obtain ⟨after, report⟩ := saved
  rcases writeTo_cases hwrite with ⟨cause, hmade, rfl, rfl⟩ | ⟨hmade, ⟨cause, rfl, rfl⟩ | ⟨hwritten, rfl⟩⟩
  · refine ⟨nofun, fun problem hproblem => ⟨hgrown, cause, .inl ⟨(Except.error.inj hproblem).symm, ?_⟩⟩⟩
    rw [← makeDirectories_eq_ok_iff, hmade]
    exact nofun
  · refine ⟨nofun, fun problem hproblem => ⟨hgrown, cause, .inr ⟨(Except.error.inj hproblem).symm, ?_⟩⟩⟩
    exact makeDirectories_eq_ok_iff.mp hmade
  · refine ⟨fun p hp => ⟨(Except.ok.inj hp).symm, ?_⟩, nofun⟩
    obtain ⟨hwithin, loc, hwalk, hfile, hsame⟩ := writeFile_fileIn hwritten
    refine ⟨loc, hwalk, hfile, fun other hother => ?_⟩
    rw [GrownAt, hsame other hother]
    exact (hgrown other).imp_right fun ⟨hnone, hdir, hpasses⟩ => ⟨hnone, hdir, hpasses.mono hwithin⟩

def spareModule : Module := Generation.moduleFor ⟨"Spare", []⟩ .default

def detour : Path := Path.ofText "out/../gen//"

theorem get?_empty_root : FileTree.empty.get? [] = some .directory := rfl

def blockedTree : FileTree := FileTree.empty.put [] "out" (.file "".toUTF8) get?_empty_root (by decide)

theorem writeTo_touches_only_file_detour :
    spareModule.fileIn detour = detour.push (.ofText (Settings.default.className ++ ".cs")) ∧
      (spareModule.writeTo .empty [] detour).1.get? ["gen", "InputManager.cs"] =
        some (.file spareModule.source.toUTF8) ∧
      GrownAt [] detour .empty (spareModule.writeTo .empty [] detour).1 ["out"] ∧
      (spareModule.writeTo blockedTree [] detour).2.result = .error (.write detour.text .notDirectory) ∧
      ¬ (spareModule.writeTo blockedTree [] detour).1.Reaches [] detour ∧
      GrownAt [] detour blockedTree (spareModule.writeTo blockedTree [] detour).1 ["out"] := by
  have hgenerated : (Generation.generate ⟨"Spare", []⟩ .default).result = .ok spareModule :=
    Generation.generate_eq_ok_iff.mpr ⟨⟨by decide, by decide, fun _ => by decide, nofun⟩, rfl⟩
  have hsaved : (spareModule.writeTo .empty [] detour).2.result = .ok (spareModule.fileIn detour) := by
    decide
  have hblocked : (spareModule.writeTo blockedTree [] detour).2.result =
      .error (.write detour.text .notDirectory) := by decide
  obtain ⟨hpath, hwritten, -⟩ := writeTo_touches_only_file hgenerated .empty [] detour
  obtain ⟨-, loc, hwalk, hfile, hothers⟩ := hwritten _ hsaved
  have hthere : (spareModule.writeTo .empty [] detour).1.walk (origin [] detour) detour.body = .ok ["gen"] := by
    decide
  obtain rfl : loc = ["gen"] := Except.ok.inj (hwalk.symm.trans hthere)
  obtain ⟨hsame, cause, hcause⟩ := (writeTo_touches_only_file hgenerated blockedTree [] detour).2.2 _ hblocked
  refine ⟨hpath, hfile, hothers ["out"] (by decide), hblocked, ?_, hsame ["out"]⟩
  rcases hcause with ⟨-, hmissing⟩ | ⟨hpath, -⟩
  · exact hmissing
  · exact absurd (GenerationProblem.write.inj hpath).1 (by decide)

end Module

end ActionLookup
