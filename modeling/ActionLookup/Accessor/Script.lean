import ActionLookup.Accessor.Draft

/-!
Scripts that write drafts. A script stops where a level is to be left that some draft is not in;
a scope that stops is not closed. Marks report how a part of a script went.
-/

namespace ActionLookup

inductive Step where
  | write (pattern : TagPattern) (line : Tag → String)
  | blank (pattern : TagPattern)
  | enter (pattern : TagPattern)
  | exit (pattern : TagPattern)

def Step.apply : Step → Drafts → Attempt
  | .write pattern line, d => ⟨d.writeEach pattern line, false⟩
  | .blank pattern, d => ⟨d.writeBlank pattern, false⟩
  | .enter pattern, d => ⟨d.enter pattern, false⟩
  | .exit pattern, d => d.exit pattern

inductive Script (ν : Type) where
  | skip
  | step (s : Step)
  | scope (pattern : TagPattern) (inner : Script ν)
  | both (first second : Script ν)
  | mark (label : ν) (inner : Script ν)

structure Mark (ν : Type) where
  label : ν
  before : Drafts
  after : Drafts
  stopped : Bool

structure Outcome (ν : Type) where
  drafts : Drafts
  stopped : Bool
  marks : List (Mark ν)

namespace Script

variable {ν : Type}

def all : List (Script ν) → Script ν
  | [] => .skip
  | s :: rest => .both s (all rest)

def line (pattern : TagPattern) (text : String) : Script ν := .step (.write pattern fun _ => text)

def lineToAll (text : String) : Script ν := line .all text

def lineToQualified (qualified : Bool) (text : String) : Script ν := line (.ofQualified qualified) text

def lineToType (t : ValueType) (text : String) : Script ν := line (.ofType t) text

def run : Script ν → Drafts → Outcome ν
  | .skip, d => ⟨d, false, []⟩
  | .step s, d =>
      let done := s.apply d
      ⟨done.drafts, done.failed, []⟩
  | .scope pattern inner, d =>
      let done := inner.run (d.enter pattern)
      if done.stopped then done
      else
        let closed := done.drafts.exit pattern
        ⟨closed.drafts, closed.failed, done.marks⟩
  | .both first second, d =>
      let done := first.run d
      if done.stopped then done
      else
        let next := second.run done.drafts
        ⟨next.drafts, next.stopped, done.marks ++ next.marks⟩
  | .mark label inner, d =>
      let done := inner.run d
      ⟨done.drafts, done.stopped, done.marks ++ [⟨label, d, done.drafts, done.stopped⟩]⟩

/-- Every script has its turn, whether or not the ones before it stopped. -/
def runEach : List (Script ν) → Drafts → Drafts × List (Mark ν)
  | [], d => (d, [])
  | s :: rest, d =>
      let done := s.run d
      let next := runEach rest done.drafts
      (next.1, done.marks ++ next.2)

/-- Leaves no level but the ones it enters. -/
def isNested : Script ν → Bool
  | .skip => true
  | .step (.write ..) => true
  | .step (.blank _) => true
  | .step (.enter _) => false
  | .step (.exit _) => false
  | .scope _ inner => inner.isNested
  | .both first second => first.isNested && second.isNested
  | .mark _ inner => inner.isNested

theorem isNested_all {scripts : List (Script ν)} (h : ∀ s ∈ scripts, s.isNested = true) :
    (all scripts).isNested = true := by
  induction scripts with
  | nil => rfl
  | cons s rest ih =>
      simp only [all, isNested, Bool.and_eq_true]
      exact ⟨h s (List.mem_cons_self ..), ih fun t ht => h t (List.mem_cons_of_mem _ ht)⟩

end Script

end ActionLookup
