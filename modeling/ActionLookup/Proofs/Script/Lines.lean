import ActionLookup.Accessor.Script
import ActionLookup.Module

/-!
What a script that only scopes writes in one draft: lines with levels of their own. Where its levels
can be counted, such a script does not stop, keeps every depth, and appends to each draft exactly its
lines (`run_of_isNested`).
-/

namespace ActionLookup

open Text

namespace Module

@[simp] theorem concat_nil : concat [] = "" := rfl

@[simp] theorem concat_cons (x : String) (xs : List String) : concat (x :: xs) = x ++ concat xs := rfl

theorem concat_append (xs ys : List String) : concat (xs ++ ys) = concat xs ++ concat ys := by
  induction xs with
  | nil => simp
  | cons x xs ih => rw [List.cons_append, concat_cons, ih, concat_cons, String.append_assoc]

end Module

inductive Line where
  | indented (level : Nat) (text : String)
  | bare
  deriving DecidableEq, Repr

namespace Line

def content : Line → String
  | .indented _ text => text
  | .bare => ""

def raise : Line → Line
  | .indented level text => .indented (level + 1) text
  | .bare => .bare

def render (ending : LineEnding) (depth : Nat) : Line → String
  | .indented level text => tabs (depth + level) ++ text ++ ending.text
  | .bare => ending.text

def renderAll (ending : LineEnding) (depth : Nat) (lines : List Line) : String :=
  Module.concat (lines.map (render ending depth))

theorem render_raise (ending : LineEnding) (depth : Nat) (line : Line) :
    line.raise.render ending depth = line.render ending (depth + 1) := by
  cases line with
  | indented level text => simp [raise, render, Nat.add_assoc, Nat.add_comm 1 level]
  | bare => rfl

@[simp] theorem renderAll_nil (ending : LineEnding) (depth : Nat) :
    renderAll ending depth [] = "" := rfl

theorem renderAll_append (ending : LineEnding) (depth : Nat) (xs ys : List Line) :
    renderAll ending depth (xs ++ ys) = renderAll ending depth xs ++ renderAll ending depth ys := by
  simp [renderAll, Module.concat_append]

theorem renderAll_raise (ending : LineEnding) (depth : Nat) (lines : List Line) :
    renderAll ending depth (lines.map raise) = renderAll ending (depth + 1) lines := by
  simp only [renderAll, List.map_map]
  congr 2
  funext line
  exact render_raise ending depth line

end Line

namespace Draft

def writeLines (ending : LineEnding) (lines : List Line) (d : Draft) : Draft :=
  { d with text := d.text ++ Line.renderAll ending d.depth lines }

@[simp] theorem writeLines_nil (ending : LineEnding) (d : Draft) : d.writeLines ending [] = d := by
  simp [writeLines]

theorem writeLines_append (ending : LineEnding) (xs ys : List Line) (d : Draft) :
    d.writeLines ending (xs ++ ys) = (d.writeLines ending xs).writeLines ending ys := by
  simp [writeLines, Line.renderAll_append, String.append_assoc]

theorem writeLine_eq (ending : LineEnding) (text : String) (d : Draft) :
    d.writeLine ending text = d.writeLines ending [.indented 0 text] := by
  simp [writeLine, writeLines, Line.renderAll, Line.render, Module.concat, String.append_assoc]

theorem writeBlank_eq (ending : LineEnding) (d : Draft) :
    d.writeBlank ending = d.writeLines ending [.bare] := by
  simp [writeBlank, writeLines, Line.renderAll, Line.render, Module.concat]

theorem leave_writeLines_enter {limit : Option Nat} {d : Draft} (h : ∀ n ∈ limit, d.depth + 1 < n)
    (ending : LineEnding) (lines : List Line) :
    ((d.enter limit).writeLines ending lines).leave = d.writeLines ending (lines.map Line.raise) := by
  simp only [writeLines, enter, leave, Line.renderAll_raise, deepen_of_room h, Nat.add_sub_cancel]

end Draft

variable {ν : Type}

namespace Drafts

/-- So many levels more can be counted in every draft. -/
def HasRoom (d : Drafts) (levels : Tag → Nat) : Prop :=
  ∀ n ∈ d.limit, ∀ tag, (d.get tag).depth + levels tag < n

theorem hasRoom_of_limit_eq_none {d : Drafts} (h : d.limit = none) (levels : Tag → Nat) :
    d.HasRoom levels := by
  intro n hn
  rw [h] at hn
  exact nomatch hn

theorem HasRoom.mono {d : Drafts} {few many : Tag → Nat} (h : d.HasRoom many)
    (hle : ∀ tag, few tag ≤ many tag) : d.HasRoom few :=
  fun n hn tag => Nat.lt_of_le_of_lt (Nat.add_le_add_left (hle tag) _) (h n hn tag)

theorem HasRoom.of_depths {d after : Drafts} {levels : Tag → Nat} (h : d.HasRoom levels)
    (hlimit : after.limit = d.limit) (hdepth : ∀ tag, (after.get tag).depth = (d.get tag).depth) :
    after.HasRoom levels := by
  intro n hn tag
  rw [hdepth]
  exact h n (hlimit ▸ hn) tag

theorem get_enter (pattern : TagPattern) (d : Drafts) (tag : Tag) :
    (d.enter pattern).get tag =
      if pattern.covers tag then (d.get tag).enter d.limit else d.get tag :=
  get_update ..

end Drafts

structure Outcome.Appends (o : Outcome ν) (d : Drafts) (lines : Tag → List Line) : Prop where
  stopped : o.stopped = false
  ending : o.drafts.ending = d.ending
  limit : o.drafts.limit = d.limit
  get : ∀ tag, o.drafts.get tag = (d.get tag).writeLines d.ending (lines tag)

theorem Outcome.Appends.depth {o : Outcome ν} {d : Drafts} {lines : Tag → List Line} (h : o.Appends d lines)
    (tag : Tag) : (o.drafts.get tag).depth = (d.get tag).depth := by
  rw [h.get]
  rfl

namespace Script

def linesFor (tag : Tag) : Script ν → List Line
  | .skip => []
  | .step (.write pattern line) => if pattern.covers tag then [.indented 0 (line tag)] else []
  | .step (.blank pattern) => if pattern.covers tag then [.bare] else []
  | .step (.enter _) => []
  | .step (.exit _) => []
  | .scope pattern inner =>
      if pattern.covers tag then (inner.linesFor tag).map Line.raise else inner.linesFor tag
  | .both first second => first.linesFor tag ++ second.linesFor tag
  | .mark _ inner => inner.linesFor tag

/-- How many scopes that cover a draft lie inside each other. -/
def rise : Script ν → Tag → Nat
  | .skip, _ => 0
  | .step _, _ => 0
  | .scope pattern inner, tag => inner.rise tag + if pattern.covers tag then 1 else 0
  | .both first second, tag => max (first.rise tag) (second.rise tag)
  | .mark _ inner, tag => inner.rise tag

theorem linesFor_all (tag : Tag) (scripts : List (Script ν)) :
    (all scripts).linesFor tag = scripts.flatMap (linesFor tag) := by
  induction scripts with
  | nil => rfl
  | cons s rest ih => rw [List.flatMap_cons, ← ih]; rfl

theorem rise_all_le {scripts : List (Script ν)} {tag : Tag} {levels : Nat}
    (h : ∀ s ∈ scripts, s.rise tag ≤ levels) : (all scripts).rise tag ≤ levels := by
  induction scripts with
  | nil => exact Nat.zero_le _
  | cons s rest ih =>
      exact Nat.max_le.mpr ⟨h s (List.mem_cons_self ..), ih fun t ht => h t (List.mem_cons_of_mem _ ht)⟩

theorem room_to_enter {pattern : TagPattern} {inner : Script ν} {d : Drafts} {tag : Tag}
    (h : d.HasRoom (Script.scope pattern inner).rise) (hc : pattern.covers tag = true) :
    ∀ n ∈ d.limit, (d.get tag).depth + 1 < n := by
  intro n hn
  have hroom := h n hn tag
  rw [rise, if_pos hc] at hroom
  omega

theorem hasRoom_enter {pattern : TagPattern} {inner : Script ν} {d : Drafts}
    (h : d.HasRoom (Script.scope pattern inner).rise) : (d.enter pattern).HasRoom inner.rise := by
  intro n hn tag
  have hroom := h n hn tag
  rw [Drafts.get_enter]
  split
  · rename_i hc
    rw [rise, if_pos hc] at hroom
    rw [Draft.enter, deepen_of_room (room_to_enter h hc)]
    change (d.get tag).depth + 1 + inner.rise tag < n
    omega
  · rename_i hc
    rwa [rise, if_neg hc] at hroom

theorem appends_update {d : Drafts} {pattern : TagPattern} {f : Tag → Draft → Draft}
    {line : Tag → Line} (hf : ∀ tag draft, f tag draft = draft.writeLines d.ending [line tag]) :
    (⟨d.update pattern f, false, []⟩ : Outcome ν).Appends d
      fun tag => if pattern.covers tag then [line tag] else [] where
  stopped := rfl
  ending := rfl
  limit := rfl
  get tag := by
    rw [Drafts.get_update, hf]
    split <;> simp

theorem appends_scope {pattern : TagPattern} {inner : Script ν} {d : Drafts}
    (hroom : d.HasRoom (Script.scope pattern inner).rise)
    (h : (inner.run (d.enter pattern)).Appends (d.enter pattern) fun tag => inner.linesFor tag) :
    ((Script.scope pattern inner).run d).Appends d
      fun tag => (Script.scope pattern inner).linesFor tag := by
  have hget (tag : Tag) : (inner.run (d.enter pattern)).drafts.get tag =
      ((d.enter pattern).get tag).writeLines d.ending (inner.linesFor tag) := h.get tag
  -- A covered draft is one level deeper than before, so the level can be left.
  have hdeeper : ∀ tag, pattern.covers tag = true →
      ((inner.run (d.enter pattern)).drafts.get tag).depth ≠ 0 := by
    intro tag hc
    rw [h.depth, Drafts.get_enter, if_pos hc, Draft.enter, deepen_of_room (room_to_enter hroom hc)]
    exact Nat.succ_ne_zero _
  have hrun : (Script.scope pattern inner).run d =
      ⟨(inner.run (d.enter pattern)).drafts.update pattern fun _ draft => draft.leave, false,
        (inner.run (d.enter pattern)).marks⟩ := by
    simp only [run, h.stopped, Bool.false_eq_true, if_false, Drafts.exit_of_ne_zero hdeeper]
  rw [hrun]
  refine ⟨rfl, h.ending, h.limit, fun tag => ?_⟩
  simp only [Drafts.get_update, hget, Drafts.get_enter, linesFor]
  split
  · rename_i hc
    exact Draft.leave_writeLines_enter (room_to_enter hroom hc) ..
  · rfl

theorem run_of_isNested {s : Script ν} (h : s.isNested = true) {d : Drafts} (hroom : d.HasRoom s.rise) :
    (s.run d).Appends d fun tag => s.linesFor tag := by
  induction s generalizing d with
  | skip => exact ⟨rfl, rfl, rfl, fun tag => by simp [run, linesFor]⟩
  | step s =>
      cases s with
      | write pattern line => exact appends_update fun tag draft => draft.writeLine_eq _ _
      | blank pattern => exact appends_update fun _ draft => draft.writeBlank_eq _
      | enter pattern => simp [isNested] at h
      | exit pattern => simp [isNested] at h
  | scope pattern inner ih => exact appends_scope hroom (ih h (hasRoom_enter hroom))
  | both first second ihf ihs =>
      simp only [isNested, Bool.and_eq_true] at h
      have hf := ihf h.1 (hroom.mono fun tag => Nat.le_max_left ..)
      have hs := ihs h.2 ((hroom.mono fun tag => Nat.le_max_right ..).of_depths hf.limit hf.depth)
      have hrun : (Script.both first second).run d =
          ⟨(second.run (first.run d).drafts).drafts, (second.run (first.run d).drafts).stopped,
            (first.run d).marks ++ (second.run (first.run d).drafts).marks⟩ := by
        simp only [run, hf.stopped, Bool.false_eq_true, if_false]
      rw [hrun]
      refine ⟨hs.stopped, hs.ending.trans hf.ending, hs.limit.trans hf.limit, fun tag => ?_⟩
      rw [hs.get, hf.get, hf.ending, ← Draft.writeLines_append]
      rfl
  | mark label inner ih =>
      have hi := ih h hroom
      exact ⟨hi.stopped, hi.ending, hi.limit, hi.get⟩

end Script

end ActionLookup
