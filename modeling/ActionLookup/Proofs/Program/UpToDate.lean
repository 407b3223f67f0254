import ActionLookup.Proofs.FileTree.Rewriting
import ActionLookup.Proofs.Program.Modes

/-!
Asking whether a class is up to date, and writing it. It is up to date exactly where writing it succeeds
and leaves every file and directory as it is, and so after every write; only asking changes nothing
(`isUpToDate_iff_writeTo_alike`).
-/

namespace ActionLookup

open FileTree

namespace Module

variable {m : Module} {t : FileTree} {cwd : Location} {dir p : Path}

theorem writeTo_of_holdsFile (h : t.HoldsFile cwd (m.fileIn dir) m.source.toUTF8) :
    (m.writeTo t cwd dir).2.result = .ok (m.fileIn dir) ∧ (m.writeTo t cwd dir).1.Alike t := by
  obtain ⟨loc, hloc, hfile⟩ := h
  have hmade := makeDirectories_of_reaches (reaches_of_locate_child hloc)
  obtain ⟨front, -, hchild, -, -⟩ := Path.child_body dir m.fileName
  have hnot : t.isDirectory loc = false := by simp [isDirectory, hfile]
  obtain ⟨written, hwrite, hnode, hothers⟩ := writeFile_of_locate hloc hchild hnot m.source.toUTF8
  have hsaved : m.writeTo t cwd dir = (written, ⟨[.wrote (m.fileIn dir).text], .ok (m.fileIn dir)⟩) := by
    simp only [writeTo, hmade, hwrite]
  rw [hsaved]
  refine ⟨rfl, fun other => ?_⟩
  by_cases hother : other = loc
  · rw [hother, hnode, hfile]
  · exact hothers other hother

theorem holdsFile_of_writeTo (h : (m.writeTo t cwd dir).2.result = .ok p) :
    (m.writeTo t cwd dir).1.HoldsFile cwd (m.fileIn dir) m.source.toUTF8 := by
  rcases hsaved : m.writeTo t cwd dir with ⟨after, events, result⟩
  rw [hsaved] at h
  obtain rfl : result = .ok p := h
  exact holdsFile_writeTo hsaved

theorem isUpToDate_iff_writeTo_alike (m : Module) (t : FileTree) (cwd : Location) (dir : Path) :
    (m.isUpToDate t cwd dir = .ok true ↔
      (∃ p, (m.writeTo t cwd dir).2.result = .ok p) ∧ (m.writeTo t cwd dir).1.Alike t) ∧
    (∀ p, (m.writeTo t cwd dir).2.result = .ok p →
      m.isUpToDate (m.writeTo t cwd dir).1 cwd dir = .ok true ∧
        (∃ q, (m.writeTo (m.writeTo t cwd dir).1 cwd dir).2.result = .ok q) ∧
        (m.writeTo (m.writeTo t cwd dir).1 cwd dir).1.Alike (m.writeTo t cwd dir).1) ∧
    ∀ events, (Run.compare m t cwd dir events).tree = t ∧
      ((Run.compare m t cwd dir events).exitCode = 0 ↔ m.isUpToDate t cwd dir = .ok true) := by
  refine ⟨?_, fun p hp => ?_, fun events => ⟨Run.tree_compare, ?_⟩⟩
  · rw [isUpToDate_eq_true_iff]
    constructor
    · intro hheld
      obtain ⟨hresult, halike⟩ := writeTo_of_holdsFile hheld
      exact ⟨⟨_, hresult⟩, halike⟩
    · rintro ⟨⟨p, hp⟩, halike⟩
      exact halike.holdsFile (holdsFile_of_writeTo hp)
  · have hheld := holdsFile_of_writeTo hp
    obtain ⟨hresult, halike⟩ := writeTo_of_holdsFile hheld
    exact ⟨isUpToDate_eq_true_iff.mpr hheld, ⟨_, hresult⟩, halike⟩
  · exact Run.exitCode_compare.trans isUpToDate_eq_true_iff.symm

theorem isUpToDate_iff_writeTo_alike_detour :
    spareModule.isUpToDate .empty [] detour = .ok false ∧
      spareModule.isUpToDate (spareModule.writeTo .empty [] detour).1 [] detour = .ok true ∧
      (spareModule.writeTo (spareModule.writeTo .empty [] detour).1 [] detour).1.Alike
        (spareModule.writeTo .empty [] detour).1 ∧
      ¬ (spareModule.writeTo .empty [] detour).1.Alike .empty := by
  have hsaved : (spareModule.writeTo .empty [] detour).2.result = .ok (spareModule.fileIn detour) := by
    decide
  have hmissing : spareModule.isUpToDate .empty [] detour = .ok false := by decide
  obtain ⟨hfirst, hafter, -⟩ := isUpToDate_iff_writeTo_alike spareModule .empty [] detour
  obtain ⟨hfresh, -, hsame⟩ := hafter _ hsaved
  refine ⟨hmissing, hfresh, hsame, fun halike => ?_⟩
  have hpresent := hfirst.mpr ⟨⟨_, hsaved⟩, halike⟩
  rw [hmissing] at hpresent
  exact absurd (Except.ok.inj hpresent) (by decide)

end Module

end ActionLookup
