import ActionLookup.Proofs.CommandLine.Spelling

namespace ActionLookup.CommandLine

namespace Item

def asset? : Item → Option String
  | .asset text => some text
  | _ => none

def value? (o : Opt) : Item → Option String
  | .opt p value => if p = o then some value else none
  | _ => none

end Item

def assetsIn (items : List Item) : List String := items.filterMap Item.asset?

def valuesIn (o : Opt) (items : List Item) : List String := items.filterMap (Item.value? o)

def timesIn (f : Flag) (items : List Item) : Nat := items.count (.flag f)

def policyOf (text : String) : DuplicatePolicy := if text = "reject" then .reject else .firstWins

def givenBy (items : List Item) : Given where
  asset := (assetsIn items).head?.map Path.ofText
  outDir := (valuesIn .outDir items).head?.map Path.ofText
  className := (valuesIn .className items).head?
  enclosing := (valuesIn .enclosing items).head?
  vectorFunction := (valuesIn .vectorFunction items).head?
  buttonFunction := (valuesIn .buttonFunction items).head?
  duplicates := (valuesIn .duplicates items).head?.map policyOf
  crlf := timesIn .crlf items != 0
  noValidate := timesIn .noValidate items != 0
  stdout := timesIn .stdout items != 0
  check := timesIn .check items != 0
  verbose := min (timesIn .verbose items) 255

def Readable : Opt → String → Prop
  | .outDir, value => value ≠ ""
  | .duplicates, value => value = "first-wins" ∨ value = "reject"
  | _, _ => True

/-- What may be said after some items: nothing twice, but how much to tell. -/
def Fits (done : List Item) : Item → Prop
  | .asset text => assetsIn done = [] ∧ text ≠ ""
  | .opt o value => valuesIn o done = [] ∧ Readable o value
  | .flag .verbose => True
  | .flag .help => False
  | .flag .version => False
  | .flag f => timesIn f done = 0

section Items

variable {done : List Item}

@[simp] theorem assetsIn_append (xs ys : List Item) : assetsIn (xs ++ ys) = assetsIn xs ++ assetsIn ys :=
  List.filterMap_append

theorem assetsIn_cons (item : Item) (items : List Item) :
    assetsIn (item :: items) = assetsIn [item] ++ assetsIn items :=
  assetsIn_append [item] items

@[simp] theorem assetsIn_asset (text : String) : assetsIn [.asset text] = [text] := rfl

@[simp] theorem assetsIn_opt (o : Opt) (value : String) : assetsIn [.opt o value] = [] := rfl

@[simp] theorem assetsIn_flag (f : Flag) : assetsIn [.flag f] = [] := rfl

@[simp] theorem valuesIn_append (o : Opt) (xs ys : List Item) :
    valuesIn o (xs ++ ys) = valuesIn o xs ++ valuesIn o ys :=
  List.filterMap_append

theorem valuesIn_cons (o : Opt) (item : Item) (items : List Item) :
    valuesIn o (item :: items) = valuesIn o [item] ++ valuesIn o items :=
  valuesIn_append o [item] items

@[simp] theorem valuesIn_asset (o : Opt) (text : String) : valuesIn o [.asset text] = [] := rfl

@[simp] theorem valuesIn_opt (o p : Opt) (value : String) :
    valuesIn o [.opt p value] = if p = o then [value] else [] := by
  by_cases h : p = o <;> simp [valuesIn, Item.value?, h]

@[simp] theorem valuesIn_flag (o : Opt) (f : Flag) : valuesIn o [.flag f] = [] := rfl

@[simp] theorem timesIn_append (f : Flag) (xs ys : List Item) :
    timesIn f (xs ++ ys) = timesIn f xs + timesIn f ys :=
  List.count_append

theorem timesIn_cons (f : Flag) (item : Item) (items : List Item) :
    timesIn f (item :: items) = timesIn f [item] + timesIn f items :=
  timesIn_append f [item] items

@[simp] theorem timesIn_asset (f : Flag) (text : String) : timesIn f [.asset text] = 0 := rfl

@[simp] theorem timesIn_opt (f : Flag) (o : Opt) (value : String) : timesIn f [.opt o value] = 0 := rfl

@[simp] theorem timesIn_flag (f g : Flag) : timesIn f [.flag g] = if g = f then 1 else 0 := by
  by_cases h : g = f <;> simp [timesIn, h]

theorem pathOf_of_ne {text : String} (h : text ≠ "") : pathOf text = .ok (Path.ofText text) := by
  rw [pathOf, if_neg h]

theorem duplicatesOf_of_readable {text : String} (h : Readable .duplicates text) :
    duplicatesOf text = .ok (policyOf text) := by
  rcases h with rfl | rfl <;> rfl

theorem setOpt_givenBy {o : Opt} {value : String} (h : Fits done (.opt o value)) :
    (givenBy done).setOpt o value = .ok (givenBy (done ++ [.opt o value])) := by
  obtain ⟨hnone, hvalue⟩ := h
  cases o with
  | outDir => simp [Given.setOpt, givenBy, once, hnone, pathOf_of_ne hvalue, Except.map]
  | duplicates => simp [Given.setOpt, givenBy, once, hnone, duplicatesOf_of_readable hvalue, Except.map]
  | className => simp [Given.setOpt, givenBy, once, hnone, Except.map]
  | enclosing => simp [Given.setOpt, givenBy, once, hnone, Except.map]
  | vectorFunction => simp [Given.setOpt, givenBy, once, hnone, Except.map]
  | buttonFunction => simp [Given.setOpt, givenBy, once, hnone, Except.map]

theorem setFlag_givenBy {f : Flag} (h : Fits done (.flag f)) :
    (givenBy done).setFlag f = .ok (givenBy (done ++ [.flag f])) := by
  cases f with
  | verbose =>
      have hmin : min (min (timesIn .verbose done) 255 + 1) 255 = min (timesIn .verbose done + 1) 255 := by
        omega
      simp [Given.setFlag, givenBy, hmin]
  | help => exact h.elim
  | version => exact h.elim
  | crlf =>
      have hnone : timesIn .crlf done = 0 := h
      simp [Given.setFlag, givenBy, hnone]
  | noValidate =>
      have hnone : timesIn .noValidate done = 0 := h
      simp [Given.setFlag, givenBy, hnone]
  | stdout =>
      have hnone : timesIn .stdout done = 0 := h
      simp [Given.setFlag, givenBy, hnone]
  | check =>
      have hnone : timesIn .check done = 0 := h
      simp [Given.setFlag, givenBy, hnone]

theorem settle_asset_givenBy {text : String} (h : Fits done (.asset text)) :
    (givenBy done).settle (.asset text) = .ok (givenBy (done ++ [.asset text])) := by
  obtain ⟨hnone, hne⟩ := h
  simp [Given.settle, pathOf_of_ne hne, givenBy, hnone, Except.map]

end Items

def FitsAll (done items : List Item) : Prop :=
  ∀ before item after, items = before ++ item :: after → Fits (done ++ before) item

theorem FitsAll.head {done : List Item} {item : Item} (h : FitsAll done [item]) : Fits done item := by
  have hitem := h [] item [] rfl
  rwa [List.append_nil] at hitem

theorem FitsAll.left {done xs ys : List Item} (h : FitsAll done (xs ++ ys)) : FitsAll done xs := by
  rintro before item after rfl
  exact h before item (after ++ ys) (by simp)

theorem FitsAll.right {done xs ys : List Item} (h : FitsAll done (xs ++ ys)) :
    FitsAll (done ++ xs) ys := by
  rintro before item after rfl
  rw [List.append_assoc]
  exact h (xs ++ before) item after (by simp)

namespace Reading

/-- What has been said so far is given, once what is pending is settled. -/
structure Holds (r : Reading) (done : List Item) : Prop where
  settle : r.given.settle r.pending = .ok (givenBy done)
  taken : r.assetTaken = !(assetsIn done).isEmpty

variable {r : Reading} {done : List Item}

theorem holds_start : start.Holds [] := ⟨rfl, rfl⟩

theorem settled_of_holds (h : r.Holds done) {next : Given → Except Usage Given} {given : Given}
    (hnext : next (givenBy done) = .ok given) :
    r.settled next = .ok { r with given, pending := .nothing } := by
  simp only [settled, h.settle, hnext]

theorem readFlag_of_holds (h : r.Holds done) {f : Flag} (hfits : Fits done (.flag f)) :
    ∃ after, r.readFlag f = .ok after ∧ after.Holds (done ++ [.flag f]) ∧ after.escaped = r.escaped := by
  refine ⟨_, settled_of_holds h (setFlag_givenBy hfits), ⟨rfl, ?_⟩, rfl⟩
  simpa using h.taken

theorem readOpt_joined (h : r.Holds done) {o : Opt} {value : String}
    (hfits : Fits done (.opt o value)) :
    ∃ after, r.readOpt o (some value) = .ok after ∧ after.Holds (done ++ [.opt o value]) ∧
      after.escaped = r.escaped := by
  refine ⟨_, settled_of_holds h (setOpt_givenBy hfits), ⟨rfl, ?_⟩, rfl⟩
  simpa using h.taken

theorem readOpt_apart (h : r.Holds done) (he : r.escaped = false) {o : Opt} {value : String}
    (hvalue : StandsAlone value) (hfits : Fits done (.opt o value)) :
    ∃ mid after, r.readOpt o none = .ok mid ∧ mid.read value = .ok after ∧
      after.Holds (done ++ [.opt o value]) ∧ after.escaped = false := by
  have hmid : r.readOpt o none =
      .ok { r with given := givenBy done, pending := .opt o none } := by
    simp only [readOpt, settled_of_holds h rfl, Except.map]
  -- The value is only kept for now; what comes next settles it.
  refine ⟨_, { r with given := givenBy done, pending := .opt o (some value) }, hmid, ?_,
    ⟨setOpt_givenBy hfits, ?_⟩, he⟩
  · simp [read, he, ofText_of_standsAlone hvalue, readPlain]
  · simpa using h.taken

theorem readAsset_of_holds (h : r.Holds done) {text : String} (hfits : Fits done (.asset text)) :
    ∃ after, r.readAsset text = .ok after ∧ after.Holds (done ++ [.asset text]) ∧
      after.escaped = r.escaped := by
  have hfree : r.assetTaken = false := by
    rw [h.taken, hfits.1]
    rfl
  refine ⟨{ r with given := givenBy done, pending := .asset text, assetTaken := true }, ?_,
    ⟨settle_asset_givenBy hfits, ?_⟩, rfl⟩
  · simp [readAsset, hfree, settled_of_holds h rfl, Except.map]
  · simp

theorem readPlain_of_holds (h : r.Holds done) (text : String) : r.readPlain text = r.readAsset text := by
  have hsettle := h.settle
  unfold readPlain
  split
  -- An option that still waits for its value could not be settled.
  · rename_i o hpending
    rw [hpending] at hsettle
    cases hsettle
  · rfl

theorem readAll_append {after : Reading} {front : List String} (h : r.readAll front = .ok after)
    (rest : List String) : r.readAll (front ++ rest) = after.readAll rest := by
  induction front generalizing r with
  | nil =>
      cases h
      rfl
  | cons text front ih =>
      simp only [List.cons_append, readAll] at h ⊢
      cases hread : r.read text with
      | error u => simp [hread] at h
      | ok mid =>
          rw [hread] at h
          exact ih h

theorem readAll_single {after : Reading} {text : String} (h : r.read text = .ok after) :
    r.readAll [text] = .ok after := by
  simp only [readAll, h]

theorem readAll_pair {mid after : Reading} {first second : String} (h : r.read first = .ok mid)
    (hnext : mid.read second = .ok after) : r.readAll [first, second] = .ok after := by
  simp only [readAll, h, hnext]

theorem readShort_letters (h : r.Holds done) (n : Nat) (rest : List Char) :
    ∃ after : Reading, r.readShort (letters n ++ rest) = after.readShort rest ∧
      after.Holds (done ++ verbosely n) ∧ after.escaped = r.escaped := by
  induction n generalizing r done with
  | zero => exact ⟨r, rfl, by simpa [verbosely] using h, rfl⟩
  | succ n ih =>
      obtain ⟨mid, hmid, hholds, hsame⟩ := readFlag_of_holds h (f := .verbose) trivial
      obtain ⟨after, hread, hafter, hescaped⟩ := ih hholds
      refine ⟨after, ?_, ?_, hescaped.trans hsame⟩
      · rw [letters, List.replicate_succ, List.cons_append, readShort]
        simp only [Switch.ofShort?, hmid]
        exact hread
      · rw [verbosely, List.replicate_succ]
        simpa [verbosely] using hafter

theorem read_plain (he : r.escaped = false) {text : String} (h : Argument.ofText text = .plain) :
    r.read text = r.readPlain text := by
  simp only [read, he, h, Bool.false_eq_true, if_false]

theorem read_long (he : r.escaped = false) {text name : String} {value : Option String}
    (h : Argument.ofText text = .long name value) : r.read text = r.readLong name value := by
  simp only [read, he, h, Bool.false_eq_true, if_false]

theorem readLong_opt (o : Opt) (value : Option String) : r.readLong o.long value = r.readOpt o value := by
  have hname : Switch.ofLong? o.long = some (.opt o) := ofLong?_long (.opt o)
  simp only [readLong, hname]

theorem readLong_flag (f : Flag) : r.readLong f.long none = r.readFlag f := by
  have hname : Switch.ofLong? f.long = some (.flag f) := ofLong?_long (.flag f)
  simp only [readLong, hname]
  rfl

theorem read_short (he : r.escaped = false) {text : String} {cs : List Char}
    (h : Argument.ofText text = .short cs) : r.read text = r.readShort cs := by
  simp only [read, he, h, Bool.false_eq_true, if_false]

theorem readAll_of_spells {items : List Item} {front : List String} (hs : Spells items front)
    (h : r.Holds done) (he : r.escaped = false) (hfits : FitsAll done items) :
    ∃ after, r.readAll front = .ok after ∧ after.Holds (done ++ items) ∧ after.escaped = false := by
  cases hs with
  | @asset text halone =>
      obtain ⟨after, hread, hafter, hsame⟩ := readAsset_of_holds h hfits.head
      refine ⟨after, readAll_single ?_, hafter, hsame.trans he⟩
      rw [read_plain he (ofText_of_standsAlone halone), readPlain_of_holds h, hread]
  | joined o value =>
      obtain ⟨after, hread, hafter, hsame⟩ := readOpt_joined h hfits.head
      refine ⟨after, readAll_single ?_, hafter, hsame.trans he⟩
      exact (read_long he (ofText_joined (.opt o) value)).trans ((readLong_opt o _).trans hread)
  | @apart o value halone =>
      obtain ⟨mid, after, hmid, hread, hafter, hescaped⟩ := readOpt_apart h he halone hfits.head
      refine ⟨after, readAll_pair ?_ hread, hafter, hescaped⟩
      exact (read_long he (ofText_long (.opt o))).trans ((readLong_opt o _).trans hmid)
  | flag f =>
      obtain ⟨after, hread, hafter, hsame⟩ := readFlag_of_holds h hfits.head
      refine ⟨after, readAll_single ?_, hafter, hsame.trans he⟩
      exact (read_long he (ofText_long (.flag f))).trans ((readLong_flag f).trans hread)
  | cluster n =>
      obtain ⟨after, hread, hafter, hsame⟩ := readShort_letters h (n + 1) []
      refine ⟨after, readAll_single ?_, hafter, hsame.trans he⟩
      rw [List.append_nil] at hread
      rw [read_short he (ofText_letters n), hread, readShort]
  | @clusterOut n value halone =>
      obtain ⟨before, hread, hbefore, hsame⟩ := readShort_letters h n ['o']
      obtain ⟨mid, after, hmid, hvalue, hafter, hescaped⟩ :=
        readOpt_apart hbefore (hsame.trans he) halone hfits.right.head
      rw [List.append_assoc] at hafter
      refine ⟨after, readAll_pair ?_ hvalue, hafter, hescaped⟩
      rw [read_short he (ofText_letters_out n), hread, readShort]
      exact hmid

theorem readAll_of_writes {items : List Item} {args : List String} (hw : Writes items args)
    (h : r.Holds done) (he : r.escaped = false) (hfits : FitsAll done items) :
    ∃ after, r.readAll args = .ok after ∧ after.Holds (done ++ items) := by
  induction hw generalizing r done with
  | nil => exact ⟨r, rfl, by rwa [List.append_nil]⟩
  | escaped text =>
      have hescaped : Holds { r with escaped := true } done := ⟨h.settle, h.taken⟩
      obtain ⟨after, hread, hafter, _⟩ := readAsset_of_holds hescaped hfits.head
      refine ⟨after, @readAll_pair r { r with escaped := true } _ _ _ ?_ ?_, hafter⟩
      · simp [read, he, Argument.ofText]
      · simpa [read] using hread
  | @cons items more front rest hs _ ih =>
      obtain ⟨mid, hmid, hholds, hescaped⟩ := readAll_of_spells hs h he hfits.left
      obtain ⟨after, hafter, hlast⟩ := ih hholds hescaped hfits.right
      refine ⟨after, ?_, by rwa [List.append_assoc] at hlast⟩
      rw [readAll_append hmid, hafter]

end Reading

end ActionLookup.CommandLine
