import ActionLookup.Proofs.CommandLine.Reading

namespace ActionLookup.CommandLine

/-- What a line of arguments is to ask for. One output at most is asked for. -/
structure Request where
  asset : String
  outDir : Option String
  className : String
  enclosing : Option String
  vectorFunction : String
  buttonFunction : String
  crlf : Bool
  duplicates : DuplicatePolicy
  noValidate : Bool
  stdout : Bool
  check : Bool
  verbosity : Nat
  asset_ne : asset ≠ ""
  outDir_ne : outDir ≠ some ""
  one_mode : (stdout && check) = false

def policyText : DuplicatePolicy → String
  | .firstWins => "first-wins"
  | .reject => "reject"

def leftOut : Opt → Option String
  | .outDir => none
  | .className => some "InputManager"
  | .enclosing => none
  | .vectorFunction => some "GetVector2"
  | .buttonFunction => some "GetButton"
  | .duplicates => some "first-wins"

namespace Request

def value (r : Request) : Opt → Option String
  | .outDir => r.outDir
  | .className => some r.className
  | .enclosing => r.enclosing
  | .vectorFunction => some r.vectorFunction
  | .buttonFunction => some r.buttonFunction
  | .duplicates => some (policyText r.duplicates)

def times (r : Request) : Flag → Nat
  | .crlf => r.crlf.toNat
  | .noValidate => r.noValidate.toNat
  | .stdout => r.stdout.toNat
  | .check => r.check.toNat
  | .verbose => r.verbosity
  | .help => 0
  | .version => 0

/-- Everything that is asked for is said once, in any order; what is left out is so by default. -/
structure SaidBy (r : Request) (items : List Item) : Prop where
  asset : assetsIn items = [r.asset]
  opts : ∀ o, valuesIn o items = (r.value o).toList ∨
    (valuesIn o items = [] ∧ r.value o = leftOut o)
  flags : ∀ f, timesIn f items = r.times f

def WrittenAs (r : Request) (args : List String) : Prop := ∃ items, r.SaidBy items ∧ Writes items args

def commandLine (r : Request) : CommandLine where
  asset := Path.ofText r.asset
  outDir := r.outDir.map Path.ofText
  className := r.className
  enclosing := r.enclosing
  vectorFunction := r.vectorFunction
  buttonFunction := r.buttonFunction
  crlf := r.crlf
  duplicates := r.duplicates
  noValidate := r.noValidate
  stdout := r.stdout
  check := r.check
  verbose := min r.verbosity 255

theorem eq_of_append_cons_eq_singleton {α : Type} {xs ys : List α} {a b : α}
    (h : xs ++ a :: ys = [b]) : xs = [] ∧ a = b := by
  rcases List.append_eq_singleton_iff.mp h with ⟨hnil, hcons⟩ | ⟨_, hcons⟩
  · exact ⟨hnil, (List.cons.inj hcons).1⟩
  · exact absurd hcons (List.cons_ne_nil a ys)

section SaidBy

variable {r : Request} {before after : List Item}

theorem asset_of_saidBy {text : String} (h : r.SaidBy (before ++ .asset text :: after)) :
    assetsIn before = [] ∧ text = r.asset := by
  have hasset := h.asset
  rw [assetsIn_append, assetsIn_cons, assetsIn_asset, List.singleton_append] at hasset
  exact eq_of_append_cons_eq_singleton hasset

theorem value_of_saidBy {o : Opt} {value : String} (h : r.SaidBy (before ++ .opt o value :: after)) :
    valuesIn o before = [] ∧ r.value o = some value := by
  have hvalues := h.opts o
  rw [valuesIn_append, valuesIn_cons, valuesIn_opt, if_pos rfl, List.singleton_append] at hvalues
  rcases hvalues with hvalues | ⟨hvalues, _⟩
  · cases hr : r.value o with
    | none => simp [hr] at hvalues
    | some other =>
        rw [hr] at hvalues
        obtain ⟨hnone, rfl⟩ := eq_of_append_cons_eq_singleton hvalues
        exact ⟨hnone, rfl⟩
  · simp at hvalues

theorem times_of_saidBy {f : Flag} (h : r.SaidBy (before ++ .flag f :: after)) :
    timesIn f before + 1 ≤ r.times f := by
  have htimes := h.flags f
  rw [timesIn_append, timesIn_cons, timesIn_flag, if_pos rfl] at htimes
  omega

theorem readable_of_value {r : Request} {o : Opt} {value : String} (h : r.value o = some value) :
    Readable o value := by
  cases o with
  | outDir =>
      rintro rfl
      exact r.outDir_ne h
  | duplicates =>
      cases h
      cases r.duplicates
      · exact .inl rfl
      · exact .inr rfl
  | className => trivial
  | enclosing => trivial
  | vectorFunction => trivial
  | buttonFunction => trivial

theorem eq_zero_of_succ_le_toNat {n : Nat} {b : Bool} (h : n + 1 ≤ b.toNat) : n = 0 := by
  have hone : b.toNat ≤ 1 := Bool.toNat_le b
  omega

theorem fits_flag {f : Flag} (h : timesIn f before + 1 ≤ r.times f) : Fits before (.flag f) := by
  cases f with
  | verbose => trivial
  | help => exact absurd h (Nat.not_succ_le_zero _)
  | version => exact absurd h (Nat.not_succ_le_zero _)
  | crlf => exact @eq_zero_of_succ_le_toNat _ r.crlf h
  | noValidate => exact @eq_zero_of_succ_le_toNat _ r.noValidate h
  | stdout => exact @eq_zero_of_succ_le_toNat _ r.stdout h
  | check => exact @eq_zero_of_succ_le_toNat _ r.check h

end SaidBy

theorem fits_of_saidBy {r : Request} {items : List Item} (h : r.SaidBy items) : FitsAll [] items := by
  rintro before item after rfl
  rw [List.nil_append]
  cases item with
  | asset text =>
      obtain ⟨hnone, htext⟩ := asset_of_saidBy h
      exact ⟨hnone, htext ▸ r.asset_ne⟩
  | opt o value =>
      obtain ⟨hnone, hvalue⟩ := value_of_saidBy h
      exact ⟨hnone, readable_of_value hvalue⟩
  | flag f => exact fits_flag (times_of_saidBy h)

section Given

variable {r : Request} {items : List Item}

theorem head?_valuesIn (h : r.SaidBy items) (o : Opt) :
    (valuesIn o items).head? = r.value o ∨
      ((valuesIn o items).head? = none ∧ r.value o = leftOut o) := by
  rcases h.opts o with hvalues | ⟨hvalues, hdefault⟩
  · left
    rw [hvalues]
    cases r.value o <;> rfl
  · right
    rw [hvalues]
    exact ⟨rfl, hdefault⟩

theorem head?_valuesIn_of_none (h : r.SaidBy items) {o : Opt} (hnone : leftOut o = none) :
    (valuesIn o items).head? = r.value o := by
  rcases head?_valuesIn h o with hvalue | ⟨hvalue, hdefault⟩
  · exact hvalue
  · rw [hvalue, hdefault, hnone]

theorem getD_valuesIn (h : r.SaidBy items) {o : Opt} {value default : String}
    (hvalue : r.value o = some value) (hdefault : leftOut o = some default) :
    (valuesIn o items).head?.getD default = value := by
  rcases head?_valuesIn h o with hhead | ⟨hhead, hleft⟩
  · rw [hhead, hvalue, Option.getD_some]
  · rw [hhead, Option.getD_none]
    exact Option.some.inj (hdefault.symm.trans (hleft.symm.trans hvalue))

theorem policyOf_policyText (policy : DuplicatePolicy) : policyOf (policyText policy) = policy := by
  cases policy <;> rfl

theorem duplicates_givenBy (h : r.SaidBy items) :
    (givenBy items).duplicates.getD .firstWins = r.duplicates := by
  have hvalue : (valuesIn .duplicates items).head?.getD "first-wins" = policyText r.duplicates :=
    getD_valuesIn h rfl rfl
  rw [← policyOf_policyText r.duplicates, ← hvalue]
  simp only [givenBy]
  cases (valuesIn .duplicates items).head? <;> rfl

theorem timesIn_ne_zero (h : r.SaidBy items) {f : Flag} {b : Bool} (hb : r.times f = b.toNat) :
    (timesIn f items != 0) = b := by
  rw [h.flags, hb]
  cases b <;> rfl

theorem ofGiven_givenBy (h : r.SaidBy items) : ofGiven (givenBy items) = .ok r.commandLine := by
  have hstdout : (givenBy items).stdout = r.stdout := timesIn_ne_zero h rfl
  have hcheck : (givenBy items).check = r.check := timesIn_ne_zero h rfl
  have hcrlf : (givenBy items).crlf = r.crlf := timesIn_ne_zero h rfl
  have hnoValidate : (givenBy items).noValidate = r.noValidate := timesIn_ne_zero h rfl
  have hasset : (givenBy items).asset = some (Path.ofText r.asset) := by
    simp only [givenBy, h.asset]
    rfl
  have houtDir : (givenBy items).outDir = r.outDir.map Path.ofText :=
    congrArg (Option.map Path.ofText) (head?_valuesIn_of_none h (o := .outDir) rfl)
  have henclosing : (givenBy items).enclosing = r.enclosing :=
    head?_valuesIn_of_none h (o := .enclosing) rfl
  have hclassName : (givenBy items).className.getD Settings.default.className = r.className :=
    getD_valuesIn h (o := .className) rfl rfl
  have hvector : (givenBy items).vectorFunction.getD Settings.default.vectorFunction =
      r.vectorFunction := getD_valuesIn h (o := .vectorFunction) rfl rfl
  have hbutton : (givenBy items).buttonFunction.getD Settings.default.buttonFunction =
      r.buttonFunction := getD_valuesIn h (o := .buttonFunction) rfl rfl
  have hduplicates : (givenBy items).duplicates.getD Settings.default.duplicates = r.duplicates :=
    duplicates_givenBy h
  have hverbose : (givenBy items).verbose = min r.verbosity 255 :=
    congrArg (min · 255) (h.flags .verbose)
  simp only [ofGiven, hstdout, hcheck, r.one_mode, hasset, houtDir, hclassName, henclosing, hvector,
    hbutton, hcrlf, hduplicates, hnoValidate, hverbose, Bool.false_eq_true, if_false]
  rfl

end Given

structure Configures (r : Request) (s : Settings) : Prop where
  className : s.className = r.className
  enclosing : s.enclosing = r.enclosing
  vectorFunction : s.vectorFunction = r.vectorFunction
  buttonFunction : s.buttonFunction = r.buttonFunction
  lineEnding : s.lineEnding = .crlf ↔ r.crlf = true
  duplicates : s.duplicates = r.duplicates
  validates : s.validates = true ↔ r.noValidate = false

theorem configures_commandLine (r : Request) : r.Configures r.commandLine.settings where
  className := rfl
  enclosing := rfl
  vectorFunction := rfl
  buttonFunction := rfl
  lineEnding := by
    change (if r.crlf then LineEnding.crlf else .lf) = .crlf ↔ _
    cases r.crlf <;> simp
  duplicates := rfl
  validates := iff_of_eq (Bool.not_eq_true' r.noValidate)

theorem ofArguments_written {r : Request} {args : List String} (h : r.WrittenAs args) :
    ofArguments args = .ok r.commandLine ∧ r.Configures r.commandLine.settings ∧
      r.commandLine.asset.text = r.asset ∧ r.commandLine.outDir.map Path.text = r.outDir := by
  obtain ⟨items, hsaid, hwrites⟩ := h
  obtain ⟨after, hread, hafter⟩ :=
    Reading.readAll_of_writes hwrites Reading.holds_start rfl (fits_of_saidBy hsaid)
  rw [List.nil_append] at hafter
  refine ⟨?_, r.configures_commandLine, Path.text_ofText r.asset, ?_⟩
  · simp only [ofArguments, hread, hafter.settle, ofGiven_givenBy hsaid]
  · cases hdir : r.outDir with
    | none => simp [commandLine, hdir]
    | some dir => simp [commandLine, hdir, Path.text_ofText]

def crowdedRequest : Request where
  asset := "-pad"
  outDir := some "-"
  className := "A=B"
  enclosing := none
  vectorFunction := "GetVector2"
  buttonFunction := ""
  crlf := true
  duplicates := .reject
  noValidate := false
  stdout := false
  check := true
  verbosity := 3
  asset_ne := by decide
  outDir_ne := by decide
  one_mode := rfl

def crowdedItems : List Item := [
  .opt .duplicates "reject", .flag .verbose, .flag .verbose, .opt .outDir "-", .opt .className "A=B",
  .flag .check, .opt .buttonFunction "", .flag .crlf, .flag .verbose, .asset "-pad"]

def crowdedArguments : List String := [
  "--duplicates", "reject", "-vvo", "-", "--class-name=A=B", "--check", "--button-fn=", "--crlf",
  "--verbose", "--", "-pad"]

theorem saidBy_crowded : crowdedRequest.SaidBy crowdedItems where
  asset := by decide
  opts o := by cases o <;> decide
  flags f := by cases f <;> decide

theorem writes_crowded : Writes crowdedItems crowdedArguments := by
  have hduplicates := @Spells.apart .duplicates "reject" (.inr (by decide))
  have hout := @Spells.clusterOut 2 "-" (.inl rfl)
  have hclass := Spells.joined .className "A=B"
  have hbutton := Spells.joined .buttonFunction ""
  exact .cons hduplicates (.cons hout (.cons hclass (.cons (.flag .check) (.cons hbutton
    (.cons (.flag .crlf) (.cons (.flag .verbose) (.escaped "-pad")))))))

theorem ofArguments_written_crowded :
    crowdedRequest.WrittenAs crowdedArguments ∧
      ofArguments crowdedArguments = .ok crowdedRequest.commandLine ∧
      crowdedRequest.Configures crowdedRequest.commandLine.settings ∧
      crowdedRequest.commandLine.asset.text = crowdedRequest.asset ∧
      crowdedRequest.commandLine.outDir.map Path.text = crowdedRequest.outDir := by
  have hwritten : crowdedRequest.WrittenAs crowdedArguments :=
    ⟨crowdedItems, saidBy_crowded, writes_crowded⟩
  exact ⟨hwritten, ofArguments_written hwritten⟩

end Request

end ActionLookup.CommandLine
