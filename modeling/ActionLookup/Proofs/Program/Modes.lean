import ActionLookup.Program.Run
import ActionLookup.Proofs.FileTree.Writing
import ActionLookup.Proofs.Generation.Success

namespace ActionLookup

open FileTree

namespace Report

variable {ε ε' α : Type}

theorem result_mapError_eq_ok {f : ε → ε'} {r : Report ε α} {a : α} :
    (r.mapError f).result = .ok a ↔ r.result = .ok a := by
  unfold mapError
  cases r.result <;> simp

end Report

theorem Module.isUpToDate_eq_true_iff {m : Module} {t : FileTree} {cwd : Location} {dir : Path} :
    m.isUpToDate t cwd dir = .ok true ↔ t.HoldsFile cwd (m.fileIn dir) m.source.toUTF8 := by
  rw [← readText_eq_ok_iff]
  unfold isUpToDate
  cases t.readText cwd (m.fileIn dir) with
  | ok text => simp
  | error cause => cases cause <;> simp

theorem Module.holdsFile_writeTo {m : Module} {t t' : FileTree} {cwd : Location} {dir p : Path}
    {events : List Event} (h : m.writeTo t cwd dir = (t', ⟨events, .ok p⟩)) :
    t'.HoldsFile cwd (m.fileIn dir) m.source.toUTF8 := by
  unfold writeTo at h
  split at h
  · simp [Report.fail] at h
  · split at h
    · simp [Report.fail] at h
    · rename_i made _ written hwrite
      obtain rfl : written = t' := congrArg Prod.fst h
      exact holdsFile_writeFile hwrite

namespace Run

variable {c : CommandLine} {t : FileTree} {cwd : Location} {m : Module} {dir : Path}
  {events : List Event}

/-- The asset is a file, it loads, and this is what is generated from it. -/
def Makes (c : CommandLine) (t : FileTree) (cwd : Location) (m : Module) : Prop :=
  t.isFile cwd c.asset = true ∧ ∃ schema,
    (Asset.schemaOfFile t cwd c.asset).result = .ok schema ∧
      (Generation.generate schema c.settings).result = .ok m

theorem moduleOf_eq_ok_iff : (moduleOf c t cwd).result = .ok m ↔ Makes c t cwd m := by
  unfold moduleOf Makes
  cases t.isFile cwd c.asset with
  | false => simp [Report.fail]
  | true =>
    simp only [Bool.not_true, Bool.false_eq_true, if_false, Report.bind_eq,
      Report.result_andThen_eq_ok, Report.result_mapError_eq_ok, true_and]

theorem tree_compare : (compare m t cwd dir events).tree = t := by
  unfold compare
  split <;> rfl

theorem exitCode_compare :
    (compare m t cwd dir events).exitCode = 0 ↔ t.HoldsFile cwd (m.fileIn dir) m.source.toUTF8 := by
  rw [← Module.isUpToDate_eq_true_iff]
  unfold compare
  cases m.isUpToDate t cwd dir with
  | error p => simp [failed, failure]
  | ok same => cases same <;> simp [success, failure]

theorem holdsFile_save (h : (save m t cwd dir events).exitCode = 0) :
    (save m t cwd dir events).tree.HoldsFile cwd (m.fileIn dir) m.source.toUTF8 := by
  unfold save at h ⊢
  split at h
  · simp [failed, failure] at h
  · rename_i hwrite
    exact Module.holdsFile_writeTo hwrite

theorem ofCommandLine_of_error {f : Failure} (h : (moduleOf c t cwd).result = .error f) :
    ofCommandLine c t cwd = failed t (moduleOf c t cwd).events f := by
  unfold ofCommandLine
  rcases hreport : moduleOf c t cwd with ⟨events, result⟩
  obtain rfl : result = .error f := by simpa [hreport] using h
  rfl

theorem ofCommandLine_of_ok (h : (moduleOf c t cwd).result = .ok m) :
    ofCommandLine c t cwd =
      if c.stdout then print m t (moduleOf c t cwd).events
      else if c.check then compare m t cwd c.outputDir (moduleOf c t cwd).events
      else save m t cwd c.outputDir (moduleOf c t cwd).events := by
  unfold ofCommandLine
  rcases hreport : moduleOf c t cwd with ⟨events, result⟩
  obtain rfl : result = .ok m := by simpa [hreport] using h
  rfl

/-- What a run comes to that fails before there is anything to print, compare or save. -/
def Refuses (r : Run) (t : FileTree) : Prop :=
  r.exitCode = 1 ∧ r.tree = t ∧ r.stdout = "" ∧
    ∃ (events : List Event) (message : String),
      r.notices = events.map .event ++ [.own ("Error: " ++ message)]

theorem refuses_failed (t : FileTree) (events : List Event) (f : Failure) :
    (failed t events f).Refuses t := by
  refine ⟨rfl, rfl, rfl, events, f.message, ?_⟩
  simp [failed, toString]

end Run

namespace CommandLine

def printing (c : CommandLine) : CommandLine := { c with stdout := true }

def comparing (c : CommandLine) : CommandLine := { c with check := true }

end CommandLine

namespace Run

theorem moduleOf_printing (c : CommandLine) (t : FileTree) (cwd : Location) :
    moduleOf c.printing t cwd = moduleOf c t cwd := rfl

theorem moduleOf_comparing (c : CommandLine) (t : FileTree) (cwd : Location) :
    moduleOf c.comparing t cwd = moduleOf c t cwd := rfl

theorem modes_agree (c : CommandLine) (t : FileTree) (cwd : Location)
    (hstdout : c.stdout = false) (hcheck : c.check = false) :
    (ofCommandLine c.printing t cwd).tree = t ∧
    (ofCommandLine c.comparing t cwd).tree = t ∧
    ((¬ ∃ m, Makes c t cwd m) →
      (ofCommandLine c t cwd).Refuses t ∧
      ofCommandLine c.printing t cwd = ofCommandLine c t cwd ∧
      ofCommandLine c.comparing t cwd = ofCommandLine c t cwd) ∧
    ∀ m, Makes c t cwd m →
      (ofCommandLine c.printing t cwd).exitCode = 0 ∧
      (ofCommandLine c.printing t cwd).stdout = m.source ∧
      ((ofCommandLine c.comparing t cwd).exitCode = 0 ↔
        t.HoldsFile cwd (m.fileIn c.outputDir) m.source.toUTF8) ∧
      ((ofCommandLine c t cwd).exitCode = 0 →
        (ofCommandLine c t cwd).tree.HoldsFile cwd (m.fileIn c.outputDir) m.source.toUTF8) := by
  have hprinting := moduleOf_printing c t cwd
  have hcomparing := moduleOf_comparing c t cwd
  cases hresult : (moduleOf c t cwd).result with
  | error f =>
    rw [ofCommandLine_of_error hresult, ofCommandLine_of_error (hprinting ▸ hresult),
      ofCommandLine_of_error (hcomparing ▸ hresult), hprinting, hcomparing]
    refine ⟨rfl, rfl, fun _ => ⟨refuses_failed .., rfl, rfl⟩, fun m hm => ?_⟩
    have hok := moduleOf_eq_ok_iff.mpr hm
    rw [hresult] at hok
    exact nomatch hok
  | ok made =>
    have hplain : ofCommandLine c t cwd = save made t cwd c.outputDir (moduleOf c t cwd).events := by
      rw [ofCommandLine_of_ok hresult, hstdout, hcheck]
      rfl
    have hprinted : ofCommandLine c.printing t cwd = print made t (moduleOf c t cwd).events := by
      rw [ofCommandLine_of_ok (hprinting ▸ hresult), hprinting]
      rfl
    have hcompared : ofCommandLine c.comparing t cwd =
        compare made t cwd c.outputDir (moduleOf c t cwd).events := by
      have hmode : c.comparing.stdout = false := hstdout
      rw [ofCommandLine_of_ok (hcomparing ▸ hresult), hcomparing, hmode]
      rfl
    rw [hplain, hprinted, hcompared]
    refine ⟨rfl, tree_compare, fun hnone => absurd ⟨made, moduleOf_eq_ok_iff.mp hresult⟩ hnone, ?_⟩
    intro m hm
    obtain rfl : made = m := by
      rw [moduleOf_eq_ok_iff.mpr hm] at hresult
      exact (Except.ok.inj hresult).symm
    exact ⟨rfl, rfl, exitCode_compare, holdsFile_save⟩

def padTree : FileTree :=
  FileTree.empty.put [] "Pad.inputactions" (.file "\x7b\"maps\":[]\x7d".toUTF8) rfl (by decide)

def padLine : CommandLine where
  asset := Path.ofText "Pad.inputactions"
  outDir := none
  className := "InputManager"
  enclosing := none
  vectorFunction := "GetVector"
  buttonFunction := "GetButton"
  crlf := false
  duplicates := .firstWins
  noValidate := false
  stdout := false
  check := false
  verbose := 0

def padSchema : Schema := ⟨"Pad", []⟩

def savedTree : FileTree := (ofCommandLine padLine padTree []).tree

theorem generate_pad : (Generation.generate padSchema padLine.settings).result =
    .ok (Generation.moduleFor padSchema padLine.settings) :=
  Generation.generate_eq_ok_iff.mpr
    ⟨⟨by decide, by decide, fun _ => by decide, nofun⟩, rfl⟩

theorem makes_pad : Makes padLine padTree [] (Generation.moduleFor padSchema padLine.settings) :=
  ⟨by decide, padSchema, by decide, generate_pad⟩

theorem makes_pad_saved :
    Makes padLine savedTree [] (Generation.moduleFor padSchema padLine.settings) :=
  ⟨by decide, padSchema, by decide, generate_pad⟩

theorem modes_agree_pad :
    (ofCommandLine padLine.printing padTree []).stdout =
        (Generation.moduleFor padSchema padLine.settings).source ∧
      (ofCommandLine padLine.comparing padTree []).exitCode = 1 ∧
      (ofCommandLine padLine padTree []).exitCode = 0 ∧
      (ofCommandLine padLine.comparing savedTree []).exitCode = 0 ∧
      ofCommandLine padLine.comparing .empty [] = ofCommandLine padLine .empty [] := by
  have hsaves : (ofCommandLine padLine padTree []).exitCode = 0 := by decide
  have hstale : (ofCommandLine padLine.comparing padTree []).exitCode = 1 := by decide
  obtain ⟨-, -, -, hbefore⟩ := modes_agree padLine padTree [] rfl rfl
  obtain ⟨-, -, -, hafter⟩ := modes_agree padLine savedTree [] rfl rfl
  obtain ⟨-, -, hmissing, -⟩ := modes_agree padLine .empty [] rfl rfl
  have hheld := (hbefore _ makes_pad).2.2.2 hsaves
  rw [← savedTree] at hheld
  refine ⟨(hbefore _ makes_pad).2.1, hstale, hsaves, (hafter _ makes_pad_saved).2.2.1.mpr hheld,
    (hmissing ?_).2.2⟩
  rintro ⟨m, hfile, -⟩
  exact absurd hfile (by decide)

end Run

end ActionLookup
