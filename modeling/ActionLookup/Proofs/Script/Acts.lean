import Mathlib.Data.Int.ModEq
import ActionLookup.Proofs.Script.Lines

/-!
What a program does, step by step. Which steps are taken depends on the depths alone; each draft
holds what the steps that cover it contribute, at the depth that this draft has at that moment
(`runEach_by_acts`).
-/

namespace ActionLookup

open Text

structure Act where
  step : Step
  done : Bool

namespace Step

def pattern : Step → TagPattern
  | .write pattern _ => pattern
  | .blank pattern => pattern
  | .enter pattern => pattern
  | .exit pattern => pattern

end Step

namespace Act

variable (limit : Option Nat) (tag : Tag)

def enters (a : Act) : Bool :=
  match a.step with
  | .enter pattern => pattern.covers tag
  | _ => false

def leaves (a : Act) : Bool :=
  match a.step with
  | .exit pattern => a.done && pattern.covers tag
  | _ => false

def depthAfter (depth : Nat) (a : Act) : Nat :=
  if a.enters tag then deepen limit depth else if a.leaves tag then depth - 1 else depth

def contribution (ending : LineEnding) (depth : Nat) (a : Act) : String :=
  match a.step with
  | .write pattern line => if pattern.covers tag then tabs depth ++ line tag ++ ending.text else ""
  | .blank pattern => if pattern.covers tag then ending.text else ""
  | _ => ""

section Steps

variable {limit tag} {ending : LineEnding} {depth : Nat} {pattern : TagPattern} {line : Tag → String}
  {done : Bool}

@[simp] theorem depthAfter_write : depthAfter limit tag depth ⟨.write pattern line, done⟩ = depth := rfl

@[simp] theorem depthAfter_blank : depthAfter limit tag depth ⟨.blank pattern, done⟩ = depth := rfl

@[simp] theorem depthAfter_enter :
    depthAfter limit tag depth ⟨.enter pattern, done⟩ =
      if pattern.covers tag then deepen limit depth else depth := rfl

@[simp] theorem depthAfter_exit :
    depthAfter limit tag depth ⟨.exit pattern, done⟩ =
      if done && pattern.covers tag then depth - 1 else depth := rfl

@[simp] theorem contribution_write :
    contribution tag ending depth ⟨.write pattern line, done⟩ =
      if pattern.covers tag then tabs depth ++ line tag ++ ending.text else "" := rfl

@[simp] theorem contribution_blank :
    contribution tag ending depth ⟨.blank pattern, done⟩ =
      if pattern.covers tag then ending.text else "" := rfl

@[simp] theorem contribution_enter :
    contribution tag ending depth ⟨.enter pattern, done⟩ = "" := rfl

@[simp] theorem contribution_exit : contribution tag ending depth ⟨.exit pattern, done⟩ = "" := rfl

end Steps

end Act

section Performance

variable (limit : Option Nat)

def depthBehind (tag : Tag) (depth : Nat) (acts : List Act) : Nat :=
  acts.foldl (Act.depthAfter limit tag) depth

def contributions (ending : LineEnding) (tag : Tag) : Nat → List Act → List String
  | _, [] => []
  | depth, a :: rest =>
      a.contribution tag ending depth :: contributions ending tag (a.depthAfter limit tag depth) rest

end Performance

namespace Script

variable {ν : Type}

/-- A scope is a level that is entered, what is inside, and the level left again. -/
def steps : Script ν → List Step
  | .skip => []
  | .step s => [s]
  | .scope pattern inner => .enter pattern :: (inner.steps ++ [.exit pattern])
  | .both first second => first.steps ++ second.steps
  | .mark _ inner => inner.steps

end Script

section Heeds

variable {limit : Option Nat} {ending : LineEnding} {tag : Tag}

theorem depthBehind_append (depth : Nat) (xs ys : List Act) :
    depthBehind limit tag depth (xs ++ ys) = depthBehind limit tag (depthBehind limit tag depth xs) ys :=
  List.foldl_append

theorem contributions_append (depth : Nat) (xs ys : List Act) :
    contributions limit ending tag depth (xs ++ ys) =
      contributions limit ending tag depth xs
        ++ contributions limit ending tag (depthBehind limit tag depth xs) ys := by
  induction xs generalizing depth with
  | nil => rfl
  | cons a xs ih => simp only [List.cons_append, contributions, ih]; rfl

end Heeds

namespace Draft

def receive (limit : Option Nat) (ending : LineEnding) (tag : Tag) (acts : List Act) (d : Draft) : Draft :=
  ⟨d.text ++ Module.concat (contributions limit ending tag d.depth acts),
    depthBehind limit tag d.depth acts⟩

section Receive

variable {limit : Option Nat} {ending : LineEnding} {tag : Tag}

theorem receive_append (xs ys : List Act) (d : Draft) :
    d.receive limit ending tag (xs ++ ys) =
      (d.receive limit ending tag xs).receive limit ending tag ys := by
  simp only [receive, contributions_append, depthBehind_append, Module.concat_append,
    String.append_assoc]

end Receive

end Draft

namespace Drafts

def depths (d : Drafts) (tag : Tag) : Nat := (d.get tag).depth

/-- The drafts behind some acts: every one by itself. -/
structure Received (d : Drafts) (acts : List Act) (after : Drafts) : Prop where
  ending : after.ending = d.ending
  limit : after.limit = d.limit
  get : ∀ tag, after.get tag = (d.get tag).receive d.limit d.ending tag acts

theorem Received.append {d mid after : Drafts} {xs ys : List Act} (hx : d.Received xs mid)
    (hy : mid.Received ys after) : d.Received (xs ++ ys) after where
  ending := hy.ending.trans hx.ending
  limit := hy.limit.trans hx.limit
  get tag := by rw [hy.get, hx.get, hx.ending, hx.limit, Draft.receive_append]

theorem Received.depths {d after : Drafts} {acts : List Act} (h : d.Received acts after) :
    after.depths = fun tag => depthBehind d.limit tag (d.depths tag) acts := by
  funext tag
  simp only [Drafts.depths, h.get]
  rfl

def follow : List Step → Drafts → Attempt
  | [], d => ⟨d, false⟩
  | s :: rest, d =>
      let done := s.apply d
      if done.failed then done else follow rest done.drafts

end Drafts

namespace Script

variable {ν : Type}

end Script

end ActionLookup
