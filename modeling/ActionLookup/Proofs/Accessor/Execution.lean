import ActionLookup.Proofs.Accessor.Reading

/-!
Running a generated accessor on its lines. A `switch` enters the first section of its own block
that has the label of the key, else the default section; blocks inside a block are passed over as
a whole. What a call does is the list of the statements it runs (`call_generated`).
-/

namespace ActionLookup.Accessor

open Text

inductive Command where
  | choose (parameter : String)
  | leave
  | finish
  | act
  | pass
  deriving DecidableEq, Repr

def startsWith (start line : String) : Bool := start.toList.isPrefixOf line.toList

def endsWith (c : Char) (line : String) : Bool := line.toList.getLast? == some c

def chosen? (line : String) : Option String :=
  if startsWith "switch(" line && endsWith ')' line then
    some (String.ofList (line.toList.drop 7).dropLast)
  else none

/-- Control may not run into a label or a brace. -/
def command? (line : String) : Option Command :=
  match chosen? line with
  | some parameter => some (.choose parameter)
  | none =>
      if line = "" then some .pass
      else if line = "break;" then some .leave
      else if endsWith ';' line then
        if startsWith "return " line then some .finish else some .act
      else none

/-- What stands behind the first line `wanted` of a block itself, not of one nested in it. -/
def behind (wanted : String) : Nat → List String → Option (List String)
  | _, [] => none
  | depth, line :: rest =>
      if depth = 0 ∧ line = wanted then some rest
      else if line = openBrace then behind wanted (depth + 1) rest
      else if line = closeBrace then
        match depth with
        | 0 => none
        | outer + 1 => behind wanted outer rest
      else behind wanted depth rest

theorem length_lt_of_behind {wanted : String} {depth : Nat} {lines rest : List String}
    (h : behind wanted depth lines = some rest) : rest.length < lines.length := by
  induction lines generalizing depth with
  | nil => simp [behind] at h
  | cons line lines ih =>
      simp only [behind] at h
      rw [List.length_cons]
      split at h
      · rw [← Option.some.inj h]
        exact Nat.lt_succ_self _
      split at h
      · exact Nat.lt_succ_of_lt (ih h)
      split at h
      · cases depth with
        | zero => exact nomatch h
        | succ outer => exact Nat.lt_succ_of_lt (ih h)
      · exact Nat.lt_succ_of_lt (ih h)

def choice? (key : String) (block : List String) : Option (List String) :=
  (behind (label key) 0 block).or (behind "default:" 0 block)

def enter? (arguments : String → Option String) (parameter : String) :
    List String → Option (List String)
  | [] => none
  | line :: block => if line = openBrace then (arguments parameter).bind (choice? · block) else none

theorem length_lt_of_enter? {arguments : String → Option String} {parameter : String}
    {lines rest : List String} (h : enter? arguments parameter lines = some rest) :
    rest.length < lines.length := by
  cases lines with
  | nil => exact nomatch h
  | cons line block =>
      simp only [enter?] at h
      split at h
      · obtain ⟨key, _, hc⟩ := Option.bind_eq_some_iff.mp h
        rcases Option.or_eq_some_iff.mp hc with hb | ⟨_, hb⟩
        · exact Nat.lt_succ_of_lt (length_lt_of_behind hb)
        · exact Nat.lt_succ_of_lt (length_lt_of_behind hb)
      · exact nomatch h

/-- The statements that are run, up to and with the `return`. -/
def run (arguments : String → Option String) : List String → Option (List String)
  | [] => none
  | line :: rest =>
      match command? line with
      | none => none
      | some .pass => run arguments rest
      | some .act => (run arguments rest).map (line :: ·)
      | some .finish => some [line]
      | some .leave =>
          match _h : behind closeBrace 0 rest with
          | none => none
          | some outside => run arguments outside
      | some (.choose parameter) =>
          match _h : enter? arguments parameter rest with
          | none => none
          | some inside => run arguments inside
  termination_by lines => lines.length
  decreasing_by
    · exact Nat.lt_succ_self _
    · exact Nat.lt_succ_self _
    · exact Nat.lt_succ_of_lt (length_lt_of_behind _h)
    · exact Nat.lt_succ_of_lt (length_lt_of_enter? _h)

def call (arguments : String → Option String) : List String → Option (List String)
  | _ :: line :: body => if line = openBrace then run arguments body else none
  | _ => none

def argumentsOf (actionName : String) (mapName : Option String) (parameter : String) : Option String :=
  if parameter = "actionName" then some actionName
  else if parameter = "mapName" then mapName
  else none

section Run

variable {arguments : String → Option String} {line : String} {rest : List String}

def obey (arguments : String → Option String) (line : String) (rest : List String) :
    Command → Option (List String)
  | .pass => run arguments rest
  | .act => (run arguments rest).map (line :: ·)
  | .finish => some [line]
  | .leave => (behind closeBrace 0 rest).bind (run arguments)
  | .choose parameter => (enter? arguments parameter rest).bind (run arguments)

theorem run_cons : run arguments (line :: rest) = (command? line).bind (obey arguments line rest) := by
  rw [run]
  cases command? line with
  | none => rfl
  | some command =>
      cases command with
      | pass => rfl
      | act => rfl
      | finish => rfl
      | leave =>
          simp only [Option.bind_some, obey]
          split
          · rename_i hnone
            rw [hnone, Option.bind_none]
          · rename_i outside hsome
            rw [hsome, Option.bind_some]
      | choose parameter =>
          simp only [Option.bind_some, obey]
          split
          · rename_i hnone
            rw [hnone, Option.bind_none]
          · rename_i inside hsome
            rw [hsome, Option.bind_some]

theorem run_pass (h : command? line = some .pass) : run arguments (line :: rest) = run arguments rest := by
  rw [run_cons, h, Option.bind_some, obey]

theorem run_act (h : command? line = some .act) :
    run arguments (line :: rest) = (run arguments rest).map (line :: ·) := by
  rw [run_cons, h, Option.bind_some, obey]

theorem run_finish (h : command? line = some .finish) : run arguments (line :: rest) = some [line] := by
  rw [run_cons, h, Option.bind_some, obey]

theorem run_leave {outside : List String} (h : command? line = some .leave)
    (hb : behind closeBrace 0 rest = some outside) :
    run arguments (line :: rest) = run arguments outside := by
  rw [run_cons, h, Option.bind_some, obey, hb, Option.bind_some]

theorem run_choose {parameter key : String} {block inside : List String}
    (h : command? line = some (.choose parameter)) (hk : arguments parameter = some key)
    (hc : choice? key block = some inside) :
    run arguments (line :: openBrace :: block) = run arguments inside := by
  have he : enter? arguments parameter (openBrace :: block) = some inside := by
    simp [enter?, hk, hc]
  rw [run_cons, h, Option.bind_some, obey, he, Option.bind_some]

end Run

end ActionLookup.Accessor
