import ActionLookup.Accessor.Tag
import ActionLookup.Settings

/-!
The four accessors while they are written. Every draft has a depth of its own; a line goes to
all drafts that a pattern covers, each at its depth.
-/

namespace ActionLookup

namespace Text

def tabs (depth : Nat) : String := String.ofList (List.replicate depth '\t')

/-- Counted up to a limit, depths start over at it. -/
def deepen (limit : Option Nat) (depth : Nat) : Nat :=
  match limit with
  | none => depth + 1
  | some n => (depth + 1) % n

/-- The depths that a machine word can hold. -/
def wordLimit : Option Nat := some UInt64.size

def enterLevel (depth : Nat) : Nat := deepen wordLimit depth

def leaveLevel? : Nat → Option Nat
  | 0 => none
  | depth + 1 => some depth

theorem deepen_of_room {limit : Option Nat} {depth : Nat} (h : ∀ n ∈ limit, depth + 1 < n) :
    deepen limit depth = depth + 1 := by
  cases limit with
  | none => rfl
  | some n => exact Nat.mod_eq_of_lt (h n rfl)

theorem deepen_lt {limit : Option Nat} {depth : Nat} (h : ∀ n ∈ limit, depth < n) :
    ∀ n ∈ limit, deepen limit depth < n := by
  rintro n rfl
  exact Nat.mod_lt _ (Nat.zero_lt_of_lt (h n rfl))

theorem leaveLevel?_of_ne_zero {depth : Nat} (h : depth ≠ 0) : leaveLevel? depth = some (depth - 1) := by
  cases depth with
  | zero => exact absurd rfl h
  | succ depth => rfl

end Text

open Text

structure Draft where
  text : String
  depth : Nat
  deriving DecidableEq, Repr

namespace Draft

def writeLine (ending : LineEnding) (line : String) (d : Draft) : Draft :=
  { d with text := d.text ++ tabs d.depth ++ line ++ ending.text }

def writeBlank (ending : LineEnding) (d : Draft) : Draft :=
  { d with text := d.text ++ ending.text }

def enter (limit : Option Nat) (d : Draft) : Draft := { d with depth := deepen limit d.depth }

def exit? (d : Draft) : Option Draft := (leaveLevel? d.depth).map fun depth => { d with depth := depth }

def leave (d : Draft) : Draft := { d with depth := d.depth - 1 }

theorem exit?_of_ne_zero {d : Draft} (h : d.depth ≠ 0) : d.exit? = some d.leave := by
  rw [exit?, leaveLevel?_of_ne_zero h]
  rfl

end Draft

/-- Without a limit depths are natural numbers. -/
structure Drafts where
  drafts : PerTag Draft
  ending : LineEnding
  limit : Option Nat
  deriving DecidableEq, Repr

/-- What has become of drafts, also if not all could be done. -/
structure Attempt where
  drafts : Drafts
  failed : Bool
  deriving DecidableEq, Repr

namespace Drafts

def startWithin (limit : Option Nat) (depth : Nat) (ending : LineEnding) : Drafts :=
  ⟨.ofFunction fun _ => ⟨"", depth⟩, ending, limit⟩

def start (depth : Nat) (ending : LineEnding) : Drafts := startWithin wordLimit depth ending

def get (d : Drafts) (tag : Tag) : Draft := d.drafts.get tag

/-- The drafts stand in the order of their tags. -/
def texts (d : Drafts) : PerTag String :=
  let text (i : Fin 4) : String := (d.get (Tag.nth i)).text
  ⟨text 0, text 1, text 2, text 3⟩

def update (pattern : TagPattern) (f : Tag → Draft → Draft) (d : Drafts) : Drafts :=
  { d with drafts := d.drafts.map fun tag draft => if pattern.covers tag then f tag draft else draft }

def writeEach (pattern : TagPattern) (line : Tag → String) (d : Drafts) : Drafts :=
  d.update pattern fun tag draft => draft.writeLine d.ending (line tag)

def writeBlank (pattern : TagPattern) (d : Drafts) : Drafts :=
  d.update pattern fun _ draft => draft.writeBlank d.ending

def enter (pattern : TagPattern) (d : Drafts) : Drafts :=
  d.update pattern fun _ draft => draft.enter d.limit

def leaveEach (pattern : TagPattern) : List Tag → Drafts → Attempt
  | [], d => ⟨d, false⟩
  | tag :: rest, d =>
      if pattern.covers tag then
        match (d.get tag).exit? with
        | none => ⟨d, true⟩
        | some draft => leaveEach pattern rest (d.update (.exact tag) fun _ _ => draft)
      else leaveEach pattern rest d

/-- Nothing is left before every covered draft is known to be in a level. -/
def exit (pattern : TagPattern) (d : Drafts) : Attempt :=
  if Tag.all.any fun tag => pattern.covers tag && (d.get tag).depth == 0 then ⟨d, true⟩
  else leaveEach pattern Tag.all d

theorem ext_get {a b : Drafts} (hending : a.ending = b.ending) (hlimit : a.limit = b.limit)
    (h : ∀ tag, a.get tag = b.get tag) : a = b := by
  obtain ⟨drafts, ending, limit⟩ := a
  obtain ⟨others, _, _⟩ := b
  obtain rfl : ending = _ := hending
  obtain rfl : limit = _ := hlimit
  obtain rfl : drafts = others := PerTag.ext_get h
  rfl

theorem get_startWithin (limit : Option Nat) (depth : Nat) (ending : LineEnding) (tag : Tag) :
    (startWithin limit depth ending).get tag = ⟨"", depth⟩ := by
  simp [startWithin, get]

theorem get_texts (d : Drafts) (tag : Tag) : d.texts.get tag = (d.get tag).text := by
  obtain ⟨t, q⟩ := tag
  cases t <;> cases q <;> rfl

theorem get_update (pattern : TagPattern) (f : Tag → Draft → Draft) (d : Drafts) (tag : Tag) :
    (d.update pattern f).get tag = if pattern.covers tag then f tag (d.get tag) else d.get tag := by
  simp [update, get]

theorem leaveEach_of_ne_zero {pattern : TagPattern} {tags : List Tag} (hnodup : tags.Nodup) {d : Drafts}
    (h : ∀ tag ∈ tags, pattern.covers tag = true → (d.get tag).depth ≠ 0) :
    ∃ after, leaveEach pattern tags d = ⟨after, false⟩ ∧ after.ending = d.ending ∧ after.limit = d.limit ∧
      ∀ tag, after.get tag =
        if tag ∈ tags ∧ pattern.covers tag = true then (d.get tag).leave else d.get tag := by
  induction tags generalizing d with
  | nil => exact ⟨d, rfl, rfl, rfl, by simp⟩
  | cons first rest ih =>
      obtain ⟨hfirst, hrest⟩ := List.nodup_cons.mp hnodup
      cases hc : pattern.covers first with
      | false =>
          obtain ⟨after, hafter, hending, hlimit, hget⟩ :=
            ih hrest fun tag htag => h tag (List.mem_cons_of_mem _ htag)
          refine ⟨after, by simpa [leaveEach, hc] using hafter, hending, hlimit, fun tag => ?_⟩
          by_cases htag : tag = first
          · simp [hget, htag, hc]
          · simp [hget, htag]
      | true =>
          have hleft : (d.get first).exit? = some (d.get first).leave :=
            Draft.exit?_of_ne_zero (h first (List.mem_cons_self ..) hc)
          have hget (tag : Tag) : (d.update (.exact first) fun _ _ => (d.get first).leave).get tag =
              if tag = first then (d.get first).leave else d.get tag := by
            rw [get_update, TagPattern.covers_exact]
            by_cases htag : tag = first
            · simp [htag]
            · simp [htag, Ne.symm htag]
          -- The others are still as they were, for no draft has its turn twice.
          obtain ⟨after, hafter, hending, hlimit, hgot⟩ := ih hrest (d := d.update (.exact first) fun _ _ =>
            (d.get first).leave) fun tag htag hcovers => by
              rw [hget, if_neg (ne_of_mem_of_not_mem htag hfirst)]
              exact h tag (List.mem_cons_of_mem _ htag) hcovers
          refine ⟨after, by simpa [leaveEach, hc, hleft] using hafter, hending, hlimit, fun tag => ?_⟩
          rw [hgot, hget]
          by_cases htag : tag = first
          · simp [htag, hfirst, hc]
          · simp [htag]

theorem exit_of_ne_zero {pattern : TagPattern} {d : Drafts}
    (h : ∀ tag, pattern.covers tag = true → (d.get tag).depth ≠ 0) :
    d.exit pattern = ⟨d.update pattern fun _ draft => draft.leave, false⟩ := by
  have hnone : (Tag.all.any fun tag => pattern.covers tag && (d.get tag).depth == 0) = false := by
    refine List.any_eq_false.mpr fun tag _ => ?_
    simpa using h tag
  obtain ⟨after, hafter, hending, hlimit, hget⟩ :=
    leaveEach_of_ne_zero Tag.nodup_all fun tag _ => h tag
  rw [exit, hnone, if_neg Bool.false_ne_true, hafter]
  congr 1
  refine ext_get hending hlimit fun tag => ?_
  rw [hget, get_update]
  simp [Tag.mem_all]

end Drafts

end ActionLookup
