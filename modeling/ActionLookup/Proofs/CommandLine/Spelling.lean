import Mathlib.Data.List.TakeWhile
import ActionLookup.CommandLine.Reading

/-!
Arguments as they may be spelled: every option on its own or joined to its value, letters behind
one dash or each behind its own, the asset anywhere, and last if a double dash stands before it.
-/

namespace ActionLookup.CommandLine

inductive Item where
  | asset (text : String)
  | opt (o : Opt) (value : String)
  | flag (f : Flag)
  deriving DecidableEq, Repr

/-- May be an argument of its own without being taken for an option. -/
def StandsAlone (text : String) : Prop := text = "-" ∨ text.toList.head? ≠ some '-'

def verbosely (n : Nat) : List Item := List.replicate n (.flag .verbose)

def letters (n : Nat) : List Char := List.replicate n 'v'

/-- What a few arguments that belong together say. Letters behind one dash are one argument. -/
inductive Spells : List Item → List String → Prop
  | asset {text : String} : StandsAlone text → Spells [.asset text] [text]
  | joined (o : Opt) (value : String) : Spells [.opt o value] ["--" ++ o.long ++ "=" ++ value]
  | apart (o : Opt) {value : String} : StandsAlone value → Spells [.opt o value] ["--" ++ o.long, value]
  | flag (f : Flag) : Spells [.flag f] ["--" ++ f.long]
  | cluster (n : Nat) : Spells (verbosely (n + 1)) ["-" ++ String.ofList (letters (n + 1))]
  | clusterOut (n : Nat) {value : String} : StandsAlone value →
      Spells (verbosely n ++ [.opt .outDir value]) ["-" ++ String.ofList (letters n) ++ "o", value]

/-- Behind a double dash stands the asset, and nothing behind the asset. -/
inductive Writes : List Item → List String → Prop
  | nil : Writes [] []
  | escaped (text : String) : Writes [.asset text] ["--", text]
  | cons {items more : List Item} {front rest : List String} : Spells items front → Writes more rest →
      Writes (items ++ more) (front ++ rest)

theorem ofText_of_standsAlone {text : String} (h : StandsAlone text) : Argument.ofText text = .plain := by
  rcases h with rfl | h
  · rfl
  · unfold Argument.ofText
    split <;> simp_all

theorem ofText_dash {text : String} {cs : List Char} (h : text.toList = '-' :: cs) (hne : cs ≠ [])
    (hhead : cs.head? ≠ some '-') : Argument.ofText text = .short cs := by
  unfold Argument.ofText
  rw [h]
  split <;> simp_all

theorem ofText_dashes {text : String} {rest : List Char} (h : text.toList = '-' :: '-' :: rest)
    (hrest : rest ≠ []) : Argument.ofText text = .long (splitEquals rest).1 (splitEquals rest).2 := by
  obtain ⟨c, cs, rfl⟩ := List.exists_cons_of_ne_nil hrest
  simp only [Argument.ofText, h]

theorem splitEquals_of_not_mem {cs : List Char} (h : '=' ∉ cs) :
    splitEquals cs = (String.ofList cs, none) := by
  have hall : ∀ c ∈ cs, decide (c ≠ '=') = true :=
    fun c hc => decide_eq_true fun e => h (e ▸ hc)
  rw [splitEquals, List.takeWhile_eq_self_iff.mpr hall, List.dropWhile_eq_nil_iff.mpr hall]

theorem splitEquals_append {cs : List Char} (h : '=' ∉ cs) (value : List Char) :
    splitEquals (cs ++ '=' :: value) = (String.ofList cs, some (String.ofList value)) := by
  have hall : ∀ c ∈ cs, decide (c ≠ '=') = true :=
    fun c hc => decide_eq_true fun e => h (e ▸ hc)
  rw [splitEquals, List.takeWhile_append_of_pos hall, List.dropWhile_append_of_pos hall]
  simp

theorem ofText_long (s : Switch) : Argument.ofText ("--" ++ s.long) = .long s.long none := by
  have hname : ∀ s ∈ Switch.all, s.long.toList ≠ [] ∧ '=' ∉ s.long.toList := by decide
  obtain ⟨hne, hequals⟩ := hname s s.mem_all
  have htext : ("--" ++ s.long).toList = '-' :: '-' :: s.long.toList := by simp
  rw [ofText_dashes htext hne, splitEquals_of_not_mem hequals, String.ofList_toList]

theorem ofText_joined (s : Switch) (value : String) :
    Argument.ofText ("--" ++ s.long ++ "=" ++ value) = .long s.long (some value) := by
  have hname : ∀ s ∈ Switch.all, '=' ∉ s.long.toList := by decide
  have htext : ("--" ++ s.long ++ "=" ++ value).toList =
      '-' :: '-' :: (s.long.toList ++ '=' :: value.toList) := by simp
  rw [ofText_dashes htext (by simp), splitEquals_append (hname s s.mem_all), String.ofList_toList,
    String.ofList_toList]

theorem ofText_letters (n : Nat) :
    Argument.ofText ("-" ++ String.ofList (letters (n + 1))) = .short (letters (n + 1)) := by
  refine ofText_dash (by simp) ?_ ?_ <;> simp [letters, List.replicate_succ]

theorem ofText_letters_out (n : Nat) :
    Argument.ofText ("-" ++ String.ofList (letters n) ++ "o") = .short (letters n ++ ['o']) := by
  refine ofText_dash (by simp) (by simp) ?_
  cases n <;> simp [letters, List.replicate_succ]

theorem ofLong?_long (s : Switch) : Switch.ofLong? s.long = some s := by
  cases s with
  | opt o => cases o <;> decide
  | flag f => cases f <;> decide

end ActionLookup.CommandLine
