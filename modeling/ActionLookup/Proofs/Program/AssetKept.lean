import ActionLookup.Proofs.Asset.Accepted
import ActionLookup.Proofs.Program.UpToDate

/-!
The asset that a run reads, after the run. It is lost exactly if the class was saved over it, since a
source text is no asset; only then does a comparison right after saving fail (`asset_kept_iff`).
-/

namespace ActionLookup

open FileTree

/-! ### A source text is no asset -/

namespace Asset

open Json

theorem head_of_denotesDocument {document : Document} {cs : List Char} (h : DenotesDocument document cs) :
    ∃ c ∈ ['[', '\x7b'], ∃ more, cs = c :: more := by
  obtain ⟨members, hrecord, -⟩ := h
  cases hrecord with
  | object hobject =>
    obtain ⟨more, hmore⟩ := hobject.written.head
    exact ⟨'\x7b', by decide, more, hmore⟩
  | list _ hlist =>
    obtain ⟨more, hmore⟩ := hlist.head
    exact ⟨'[', by decide, more, hmore⟩

theorem head_of_denotedBy {document : Document} {text : String} (h : document.DenotedBy text) :
    ∃ c ∈ [' ', '\t', '\n', '\r', '[', '\x7b'], text.toList.head? = some c := by
  obtain ⟨before, value, after, hbefore, hvalue, -, htext⟩ := h
  cases before with
  | nil =>
    obtain ⟨c, hc, more, rfl⟩ := head_of_denotesDocument hvalue
    exact ⟨c, List.mem_append_right [' ', '\t', '\n', '\r'] hc, by rw [htext]; rfl⟩
  | cons c before =>
    exact ⟨c, List.mem_append_left ['[', '\x7b'] (hbefore c (List.mem_cons_self ..)), by rw [htext]; rfl⟩

end Asset

theorem Generation.head?_source (schema : Schema) (settings : Settings) :
    (moduleFor schema settings).source.toList.head? = some 'u' := by
  obtain ⟨lines, hlines⟩ : ∃ lines, Module.opening schema settings = "using System;" :: lines := ⟨_, rfl⟩
  have hstart : (moduleFor schema settings).source = "using System;" ++ (settings.lineEnding.text ++
      (Module.concat (lines.map (Module.closed settings.lineEnding)) ++
        (Module.concat ((bodies schema settings).toList.map (Module.closed settings.lineEnding)) ++
          Module.concat ((Module.closing settings).map (Module.closed settings.lineEnding))))) := by
    simp only [moduleFor, Module.render, hlines, List.map_cons, Module.concat_cons, Module.closed,
      String.append_assoc]
  rw [hstart, String.toList_append]
  rfl

theorem Asset.schemaOfJson_source_ne_ok (schema : Schema) (settings : Settings) (fallback : Option String)
    (loaded : Schema) :
    (schemaOfJson (Generation.moduleFor schema settings).source fallback).result ≠ .ok loaded := by
  intro hloaded
  obtain ⟨document, hdenoted⟩ := exists_denotedBy_iff.mp fun fault hfault => by
    rw [hloaded] at hfault
    cases hfault
  obtain ⟨c, hc, hhead⟩ := head_of_denotedBy hdenoted
  rw [Generation.head?_source] at hhead
  obtain rfl := Option.some.inj hhead
  exact absurd hc (by decide)

/-! ### What a run leaves -/

namespace FileTree

variable {t t' : FileTree} {cwd loc : Location} {p q : Path} {content other : ByteArray}

theorem HoldsFile.unique (h : t.HoldsFile cwd p content) (hother : t.HoldsFile cwd p other) :
    content = other := by
  obtain ⟨loc, hloc, hnode⟩ := h
  obtain ⟨loc', hloc', hnode'⟩ := hother
  obtain rfl : loc = loc' := Except.ok.inj (hloc.symm.trans hloc')
  exact Node.file.inj (Option.some.inj (hnode.symm.trans hnode'))

theorem HoldsFile.isFile (h : t.HoldsFile cwd p content) : t.isFile cwd p = true := by
  obtain ⟨loc, hloc, hnode⟩ := h
  simp [FileTree.isFile, hloc, isDirectory, hnode]

theorem GrownAt.file (h : GrownAt cwd p t t' loc) (hfile : t.get? loc = some (.file content)) :
    t'.get? loc = some (.file content) := by
  rcases h with hsame | ⟨hnone, -, -⟩
  · rw [hsame, hfile]
  · rw [hnone] at hfile
    cases hfile

theorem Grown.holdsFile (h : Grown cwd p t t') (hfile : t.HoldsFile cwd q content) :
    t'.HoldsFile cwd q content := by
  obtain ⟨loc, hloc, hnode⟩ := hfile
  exact ⟨loc, h.within.locate hloc, (h loc).file hnode⟩

end FileTree

namespace CommandLine

def outputFile (c : CommandLine) : Path := c.outputDir.child c.settings.fileName

end CommandLine

namespace Run

variable {c : CommandLine} {t : FileTree} {cwd : Location} {m : Module} {dir : Path}
  {events : List Event} {content : ByteArray}

/-- The class is where its path leads to, and all else that is new are directories on the way. -/
def Saved (t after : FileTree) (cwd : Location) (m : Module) (dir : Path) : Prop :=
  t.Within after ∧ ∃ loc, after.locate cwd (m.fileIn dir) = .ok loc ∧
    after.get? loc = some (.file m.source.toUTF8) ∧ ∀ other ≠ loc, GrownAt cwd dir t after other

theorem save_cases (m : Module) (t : FileTree) (cwd : Location) (dir : Path) (events : List Event) :
    ((save m t cwd dir events).exitCode = 1 ∧ Grown cwd dir t (save m t cwd dir events).tree) ∨
      ((save m t cwd dir events).exitCode = 0 ∧ Saved t (save m t cwd dir events).tree cwd m dir) := by
  have hgrown := grown_makeDirectories t cwd dir
  unfold save
  generalize hwrite : m.writeTo t cwd dir = saved
  obtain ⟨after, report⟩ := saved
  rcases Module.writeTo_cases hwrite with ⟨_, -, rfl, rfl⟩ | ⟨-, ⟨_, rfl, rfl⟩ | ⟨hwritten, rfl⟩⟩
  · exact .inl ⟨rfl, hgrown⟩
  · exact .inl ⟨rfl, hgrown⟩
  · obtain ⟨hwithin, loc, hloc, hnode, hothers⟩ := locate_writeFile hwritten
    refine .inr ⟨rfl, fun other => ?_, loc, hloc, hnode, fun other hother => ?_⟩
    · exact ⟨fun hdir => (hwithin other).1 ((hgrown.within other).1 hdir),
        fun hthere => (hwithin other).2 ((hgrown.within other).2 hthere)⟩
    · rw [GrownAt, hothers other hother]
      exact (hgrown other).imp_right fun hnew => ⟨hnew.1, hnew.2.1, hnew.2.2.mono hwithin⟩

theorem makes_iff : Makes c t cwd m ↔ ∃ text schema, t.HoldsFile cwd c.asset text.toUTF8 ∧
    (Asset.schemaOfJson text c.asset.stem?).result = .ok schema ∧
      (Generation.generate schema c.settings).result = .ok m := by
  unfold Makes Asset.schemaOfFile
  constructor
  · rintro ⟨-, schema, hschema, hgenerated⟩
    cases htext : t.readText cwd c.asset with
    | error cause =>
      rw [htext] at hschema
      cases hschema
    | ok text =>
      rw [htext] at hschema
      exact ⟨text, schema, readText_eq_ok_iff.mp htext, hschema, hgenerated⟩
  · rintro ⟨text, schema, hheld, hschema, hgenerated⟩
    refine ⟨hheld.isFile, schema, ?_, hgenerated⟩
    rw [readText_eq_ok_iff.mpr hheld]
    exact hschema

theorem not_makes_of_source {schema : Schema} {settings : Settings}
    (h : t.HoldsFile cwd c.asset (Generation.moduleFor schema settings).source.toUTF8) :
    ¬ Makes c t cwd m := by
  intro hmakes
  obtain ⟨text, loaded, hheld, hloaded, -⟩ := makes_iff.mp hmakes
  have hbytes := fromUTF8?_eq_some_iff.mpr (h.unique hheld)
  rw [fromUTF8?_eq_some_iff.mpr rfl] at hbytes
  obtain rfl := Option.some.inj hbytes
  exact Asset.schemaOfJson_source_ne_ok schema settings _ loaded hloaded

theorem Makes.eq_moduleFor (h : Makes c t cwd m) : ∃ schema, m = Generation.moduleFor schema c.settings := by
  obtain ⟨-, schema, -, hgenerated⟩ := h
  exact ⟨schema, (Generation.generate_eq_ok_iff.mp hgenerated).2⟩

theorem Makes.fileIn (h : Makes c t cwd m) : m.fileIn c.outputDir = c.outputFile := by
  obtain ⟨schema, rfl⟩ := h.eq_moduleFor
  rfl

def Saves (c : CommandLine) (t : FileTree) (cwd : Location) : Prop :=
  c.stdout = false ∧ c.check = false ∧ (ofCommandLine c t cwd).exitCode = 0

/-- The class goes to the place where the asset is. -/
structure Overwrites (c : CommandLine) (t : FileTree) (cwd : Location) : Prop where
  saves : Saves c t cwd
  aliased : (ofCommandLine c t cwd).tree.locate cwd c.outputFile =
    (ofCommandLine c t cwd).tree.locate cwd c.asset

theorem saved_or_grown (c : CommandLine) (t : FileTree) (cwd : Location) :
    (Saves c t cwd ∧ ∃ m, Makes c t cwd m ∧ Saved t (ofCommandLine c t cwd).tree cwd m c.outputDir) ∨
      (¬ Saves c t cwd ∧ Grown cwd c.outputDir t (ofCommandLine c t cwd).tree) := by
  cases hresult : (moduleOf c t cwd).result with
  | error f =>
    unfold Saves
    rw [ofCommandLine_of_error hresult]
    exact .inr ⟨fun hsaves => Nat.one_ne_zero hsaves.2.2, .refl t⟩
  | ok m =>
    unfold Saves
    rw [ofCommandLine_of_ok hresult]
    cases hstdout : c.stdout with
    | true => exact .inr ⟨fun hsaves => Bool.noConfusion hsaves.1, .refl t⟩
    | false =>
      cases hcheck : c.check with
      | true =>
        simp only [Bool.false_eq_true, if_false, if_true, tree_compare]
        exact .inr ⟨fun hsaves => Bool.noConfusion hsaves.2.1, .refl t⟩
      | false =>
        simp only [Bool.false_eq_true, if_false]
        rcases save_cases m t cwd c.outputDir (moduleOf c t cwd).events with ⟨hcode, hgrown⟩ | ⟨hcode, hsaved⟩
        · exact .inr ⟨fun hsaves => Nat.one_ne_zero (hcode.symm.trans hsaves.2.2), hgrown⟩
        · exact .inl ⟨⟨trivial, trivial, hcode⟩, m, moduleOf_eq_ok_iff.mp hresult, hsaved⟩

theorem Saves.saved (h : Saves c t cwd) :
    ∃ m, Makes c t cwd m ∧ Saved t (ofCommandLine c t cwd).tree cwd m c.outputDir := by
  rcases saved_or_grown c t cwd with ⟨-, hsaved⟩ | ⟨hnot, -⟩
  · exact hsaved
  · exact absurd h hnot

theorem Overwrites.holdsFile (h : Overwrites c t cwd) :
    ∃ m, Makes c t cwd m ∧ (ofCommandLine c t cwd).tree.HoldsFile cwd c.asset m.source.toUTF8 := by
  obtain ⟨m, hmakes, -, loc, hloc, hnode, -⟩ := h.saves.saved
  rw [hmakes.fileIn] at hloc
  exact ⟨m, hmakes, loc, h.aliased.symm.trans hloc, hnode⟩

theorem holdsFile_asset (h : t.HoldsFile cwd c.asset content) (hnot : ¬ Overwrites c t cwd) :
    (ofCommandLine c t cwd).tree.HoldsFile cwd c.asset content := by
  rcases saved_or_grown c t cwd with ⟨hsaves, m, hmakes, hwithin, loc, hloc, -, hothers⟩ | ⟨-, hgrown⟩
  · obtain ⟨place, hplace, hnode⟩ := h
    have hafter := hwithin.locate hplace
    refine ⟨place, hafter, (hothers place ?_).file hnode⟩
    rintro rfl
    rw [hmakes.fileIn] at hloc
    exact hnot ⟨hsaves, hloc.trans hafter.symm⟩
  · exact hgrown.holdsFile h

theorem exitCode_comparing (hstdout : c.stdout = false) :
    (ofCommandLine c.comparing t cwd).exitCode = 0 ↔
      ∃ m, Makes c t cwd m ∧ t.HoldsFile cwd c.outputFile m.source.toUTF8 := by
  have hmode : c.comparing.stdout = false := hstdout
  cases hresult : (moduleOf c t cwd).result with
  | error f =>
    rw [ofCommandLine_of_error ((moduleOf_comparing c t cwd).symm ▸ hresult)]
    constructor
    · exact fun hcode => absurd hcode Nat.one_ne_zero
    · rintro ⟨m, hmakes, -⟩
      rw [moduleOf_eq_ok_iff.mpr hmakes] at hresult
      cases hresult
  | ok m =>
    have hmakes := moduleOf_eq_ok_iff.mp hresult
    rw [ofCommandLine_of_ok ((moduleOf_comparing c t cwd).symm ▸ hresult), hmode]
    refine exitCode_compare.trans ?_
    rw [show m.fileIn c.comparing.outputDir = c.outputFile from hmakes.fileIn]
    constructor
    · exact fun hheld => ⟨m, hmakes, hheld⟩
    · rintro ⟨other, hother, hheld⟩
      rw [moduleOf_eq_ok_iff.mpr hother] at hresult
      obtain rfl := Except.ok.inj hresult
      exact hheld

theorem Overwrites.not_holdsFile (h : Overwrites c t cwd) (hheld : t.HoldsFile cwd c.asset content) :
    ¬ (ofCommandLine c t cwd).tree.HoldsFile cwd c.asset content := by
  intro hkept
  obtain ⟨m, hmakes, hsource⟩ := h.holdsFile
  obtain ⟨schema, rfl⟩ := hmakes.eq_moduleFor
  rw [hkept.unique hsource] at hheld
  exact not_makes_of_source hheld hmakes

theorem Overwrites.exitCode_comparing (h : Overwrites c t cwd) :
    (ofCommandLine c.comparing (ofCommandLine c t cwd).tree cwd).exitCode ≠ 0 := by
  intro hcode
  obtain ⟨m, hmakes, -⟩ := (Run.exitCode_comparing h.saves.1).mp hcode
  obtain ⟨before, hbefore, hsource⟩ := h.holdsFile
  obtain ⟨schema, rfl⟩ := hbefore.eq_moduleFor
  exact not_makes_of_source hsource hmakes

theorem Saves.exitCode_comparing (h : Saves c t cwd) (hnot : ¬ Overwrites c t cwd) :
    (ofCommandLine c.comparing (ofCommandLine c t cwd).tree cwd).exitCode = 0 := by
  obtain ⟨m, hmakes, -, loc, hloc, hnode, -⟩ := h.saved
  obtain ⟨text, schema, hheld, hloaded⟩ := makes_iff.mp hmakes
  rw [hmakes.fileIn] at hloc
  have hagain : Makes c (ofCommandLine c t cwd).tree cwd m :=
    makes_iff.mpr ⟨text, schema, holdsFile_asset hheld hnot, hloaded⟩
  exact (Run.exitCode_comparing h.1).mpr ⟨m, hagain, loc, hloc, hnode⟩

theorem Overwrites.getLast?_eq {place : Location} (h : Overwrites c t cwd)
    (hplace : t.locate cwd c.asset = .ok place) : place.getLast? = some c.settings.fileName := by
  obtain ⟨m, hmakes, hwithin, loc, hloc, hnode, -⟩ := h.saves.saved
  have hsame : loc = place := by
    have hoverwritten := h.aliased.trans (hwithin.locate hplace)
    rw [← hmakes.fileIn, hloc] at hoverwritten
    exact Except.ok.inj hoverwritten
  obtain ⟨schema, rfl⟩ := hmakes.eq_moduleFor
  rw [← hsame]
  exact getLast?_of_locate_child hloc (by simp [isDirectory, hnode])

theorem asset_kept_iff (c : CommandLine) (t : FileTree) (cwd : Location) :
    (∀ content, t.HoldsFile cwd c.asset content →
      ((ofCommandLine c t cwd).tree.HoldsFile cwd c.asset content ↔ ¬ Overwrites c t cwd)) ∧
    (Saves c t cwd →
      ((ofCommandLine c.comparing (ofCommandLine c t cwd).tree cwd).exitCode = 0 ↔ ¬ Overwrites c t cwd)) ∧
    (Overwrites c t cwd →
      (∀ loc, t.locate cwd c.asset = .ok loc → loc.getLast? = some c.settings.fileName) ∧
        ∃ m, Makes c t cwd m ∧ (ofCommandLine c t cwd).tree.HoldsFile cwd c.asset m.source.toUTF8) := by
  refine ⟨fun content hheld => ⟨fun hkept hlost => ?_, holdsFile_asset hheld⟩, fun hsaves => ?_, ?_⟩
  · exact hlost.not_holdsFile hheld hkept
  · exact ⟨fun hcode hlost => hlost.exitCode_comparing hcode, hsaves.exitCode_comparing⟩
  · exact fun hlost => ⟨fun _ hplace => hlost.getLast?_eq hplace, hlost.holdsFile⟩

/-- The class goes right beside the asset, by way of a directory that is new. -/
def besideLine : CommandLine := { padLine with outDir := some (Path.ofText "new/..") }

def padText : String := "\x7b\"maps\":[]\x7d"

theorem asset_kept_iff_beside :
    padTree.HoldsFile [] besideLine.asset padText.toUTF8 ∧ Saves besideLine padTree [] ∧
      (ofCommandLine besideLine padTree []).tree.HoldsFile [] besideLine.asset padText.toUTF8 ∧
      (ofCommandLine besideLine padTree []).tree.get? ["InputManager.cs"] ≠ none ∧
      (ofCommandLine besideLine.comparing (ofCommandLine besideLine padTree []).tree []).exitCode = 0 := by
  have hplace : padTree.locate [] besideLine.asset = .ok ["Pad.inputactions"] := by decide
  have hheld : padTree.HoldsFile [] besideLine.asset padText.toUTF8 :=
    readText_eq_ok_iff.mp (by decide)
  obtain ⟨hcode, hnew⟩ : (ofCommandLine besideLine padTree []).exitCode = 0 ∧
      (ofCommandLine besideLine padTree []).tree.get? ["InputManager.cs"] ≠ none := by decide
  have hsaves : Saves besideLine padTree [] := ⟨rfl, rfl, hcode⟩
  have hnames : besideLine.settings.fileName ≠ "Pad.inputactions" := by decide
  obtain ⟨hkept, hcompared, hname⟩ := asset_kept_iff besideLine padTree []
  have hnot : ¬ Overwrites besideLine padTree [] := fun hlost =>
    hnames (Option.some.inj ((hname hlost).1 _ hplace)).symm
  exact ⟨hheld, hsaves, (hkept _ hheld).mpr hnot, hnew, (hcompared hsaves).mpr hnot⟩

def likeClassText : String := "\x7b\"name\":\"Pad\",\"maps\":[]\x7d"

def likeClassTree : FileTree :=
  FileTree.empty.put [] "InputManager.cs" (.file likeClassText.toUTF8) Module.get?_empty_root (by decide)

def likeClassLine : CommandLine := { padLine with asset := Path.ofText "InputManager.cs" }

theorem asset_lost_likeClass :
    likeClassTree.HoldsFile [] likeClassLine.asset likeClassText.toUTF8 ∧
      Saves likeClassLine likeClassTree [] ∧
      ¬ (ofCommandLine likeClassLine likeClassTree []).tree.HoldsFile [] likeClassLine.asset
        likeClassText.toUTF8 ∧
      (ofCommandLine likeClassLine.comparing
        (ofCommandLine likeClassLine likeClassTree []).tree []).exitCode ≠ 0 := by
  have hheld : likeClassTree.HoldsFile [] likeClassLine.asset likeClassText.toUTF8 :=
    readText_eq_ok_iff.mp (by decide)
  obtain ⟨hcode, haliased⟩ : (ofCommandLine likeClassLine likeClassTree []).exitCode = 0 ∧
      (ofCommandLine likeClassLine likeClassTree []).tree.locate [] likeClassLine.outputFile =
        (ofCommandLine likeClassLine likeClassTree []).tree.locate [] likeClassLine.asset := by
    decide
  have hsaves : Saves likeClassLine likeClassTree [] := ⟨rfl, rfl, hcode⟩
  have hlost : Overwrites likeClassLine likeClassTree [] := ⟨hsaves, haliased⟩
  exact ⟨hheld, hsaves, hlost.not_holdsFile hheld, hlost.exitCode_comparing⟩

end Run

end ActionLookup
