import ActionLookup.Proofs.Source.Lines

namespace ActionLookup

open Text

def returned (c : Char) : List Char := if c = '\n' then ['\r', '\n'] else [c]

def withReturns (text : String) : String := String.ofList (text.toList.flatMap returned)

theorem withReturns_append (a b : String) : withReturns (a ++ b) = withReturns a ++ withReturns b := by
  simp [withReturns]

theorem withReturns_of_avoids {text : String} (h : Avoids ['\n'] text) : withReturns text = text := by
  have hall : text.toList.flatMap returned = text.toList := by
    have hpure : text.toList.flatMap returned = text.toList.flatMap fun c => [c] := by
      refine List.flatMap_congr fun c hc => ?_
      have hne : c ≠ '\n' := fun e => h c hc (List.mem_singleton.mpr e)
      rw [returned, if_neg hne]
    rw [hpure, List.flatMap_singleton']
  rw [withReturns, hall, String.ofList_toList]

theorem withReturns_ending : withReturns LineEnding.lf.text = LineEnding.crlf.text := by decide

/-- `lf` has no carriage return, and `crlf` has one in front of every line feed of it. -/
structure Recoded (lf crlf : String) : Prop where
  clean : Avoids ['\r'] lf
  returns : crlf = withReturns lf

namespace Recoded

theorem empty : Recoded "" "" := ⟨by simp [Avoids], by decide⟩

theorem append {a b c d : String} (h : Recoded a b) (h' : Recoded c d) : Recoded (a ++ c) (b ++ d) :=
  ⟨Avoids.append_iff.mpr ⟨h.clean, h'.clean⟩, by rw [h.returns, h'.returns, withReturns_append]⟩

theorem closed {line : String} (h : Avoids ['\n', '\r'] line) :
    Recoded (Module.closed .lf line) (Module.closed .crlf line) := by
  have hline : Recoded line line :=
    ⟨Avoids.mono (by decide) h, (withReturns_of_avoids (Avoids.mono (by decide) h)).symm⟩
  have hending : Recoded LineEnding.lf.text LineEnding.crlf.text :=
    ⟨by simp [Avoids, LineEnding.text], withReturns_ending.symm⟩
  exact hline.append hending

theorem concat {lines : List String} (h : ∀ line ∈ lines, Avoids ['\n', '\r'] line) :
    Recoded (Module.concat (lines.map (Module.closed .lf)))
      (Module.concat (lines.map (Module.closed .crlf))) := by
  induction lines with
  | nil => exact empty
  | cons line lines ih =>
      have hline := closed (h line (List.mem_cons_self ..))
      exact hline.append (ih fun l hl => h l (List.mem_cons_of_mem _ hl))

end Recoded

/-- The same problem, or one module written with the two endings. -/
inductive SameButEndings : Except GenerationProblem Module → Except GenerationProblem Module → Prop where
  | refused (problem : GenerationProblem) : SameButEndings (.error problem) (.error problem)
  | generated {lf crlf : Module} (fileName : crlf.fileName = lf.fileName)
      (source : Recoded lf.source crlf.source)
      (bodies : ∀ tag, Recoded (lf.bodies.get tag) (crlf.bodies.get tag)) :
      SameButEndings (.ok lf) (.ok crlf)

namespace Settings

def withEnding (settings : Settings) (ending : LineEnding) : Settings :=
  { settings with lineEnding := ending }

end Settings

namespace Generation

variable (schema : Schema) (settings : Settings)

theorem gate_withEnding (ending ending' : LineEnding) :
    gate schema (settings.withEnding ending) = gate schema (settings.withEnding ending') := rfl

theorem bodyLines_withEnding (ending : LineEnding) (tag : Tag) :
    bodyLines schema (settings.withEnding ending) tag = bodyLines schema settings tag := rfl

theorem sourceLines_withEnding (ending : LineEnding) :
    Module.sourceLines schema (settings.withEnding ending) = Module.sourceLines schema settings := rfl

theorem recoded_moduleFor (hs : settings.Usable) :
    SameButEndings (.ok (moduleFor schema (settings.withEnding .lf)))
      (.ok (moduleFor schema (settings.withEnding .crlf))) := by
  have hquote : ∀ name ∈ schema.labelled, Avoids ['\n', '\r'] (quote name) :=
    fun name _ => Avoids.quote (by decide) name
  refine .generated rfl ?_ fun tag => ?_
  · rw [Module.source_eq_concat, Module.source_eq_concat, sourceLines_withEnding, sourceLines_withEnding]
    exact Recoded.concat (Module.avoids_sourceLines (by decide) hs hquote)
  · change Recoded ((bodies schema _).get tag) ((bodies schema _).get tag)
    rw [get_bodies, get_bodies, bodyLines_withEnding, bodyLines_withEnding]
    exact Recoded.concat (Module.avoids_bodyLines (by decide) hs hquote tag)

end Generation

theorem sameButEndings_generate (schema : Schema) (settings : Settings) :
    (Generation.generate schema (settings.withEnding .lf)).events =
        (Generation.generate schema (settings.withEnding .crlf)).events ∧
      SameButEndings (Generation.generate schema (settings.withEnding .lf)).result
        (Generation.generate schema (settings.withEnding .crlf)).result := by
  rw [Generation.generate_eq_gate, Generation.generate_eq_gate,
    Generation.gate_withEnding schema settings .crlf .lf]
  cases hgate : (Generation.gate schema (settings.withEnding .lf)).result with
  | error problem =>
      simp only [Report.andThen, hgate, true_and]
      exact .refused problem
  | ok =>
      have hadmits := Generation.gate_eq_ok_iff.mp hgate
      have hs : settings.Usable := Settings.problem?_eq_none_iff.mp hadmits.usable
      simp only [Report.andThen, hgate]
      exact ⟨rfl, Generation.recoded_moduleFor schema settings hs⟩

end ActionLookup
