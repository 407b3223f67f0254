import ActionLookup.Proofs.Accessor.Rendering
import ActionLookup.Proofs.Source.Scan

namespace ActionLookup

open Text

def written (name : String) : List Char := name.toList.flatMap escape

def decode? (inside : List Char) : Option String :=
  match readQuotedTail (inside ++ ['"']) with
  | some (cs, []) => some (String.ofList cs)
  | _ => none

theorem decode?_written (name : String) : decode? (written name) = some name := by
  rw [decode?, written, readQuotedTail_flatMap]
  exact congrArg some String.ofList_toList

theorem map_decode?_written (names : List String) :
    (names.map written).map decode? = names.map some := by
  rw [List.map_map]
  exact List.map_congr_left fun name _ => decode?_written name

def Scan.of (text : String) : Scan := Scan.start.past text.toList

structure Closed (text : String) (literals : List (List Char)) : Prop where
  scan : Scan.of text = ⟨.code, 0, 0, literals⟩
  sound : Scan.start.SoundAlong text.toList

/-- Only the literals are known: braces and parentheses may be open. -/
structure InCode (text : String) (literals : List (List Char)) : Prop where
  place : (Scan.of text).place = .code
  literals : (Scan.of text).literals = literals

def marks : List Char := ['"', '\x7b', '\x7d', '(', ')']

theorem Scan.step_of_not_mem {s : Scan} (hs : s.place = .code) {c : Char} (hc : c ∉ marks) :
    s.step c = s := by
  simp only [marks, List.mem_cons, List.not_mem_nil, or_false, not_or] at hc
  simp only [step, hs, hc, if_false]

theorem Scan.step_of_ne_quote {s : Scan} (hs : s.place = .code) {c : Char} (hc : c ≠ '"') :
    (s.step c).place = .code ∧ (s.step c).literals = s.literals := by
  simp only [step, hs, hc, if_false]
  split
  · exact ⟨rfl, rfl⟩
  split
  · exact ⟨rfl, rfl⟩
  split
  · exact ⟨rfl, rfl⟩
  split
  · exact ⟨rfl, rfl⟩
  · exact ⟨hs, rfl⟩

namespace InCode

variable {a b : String} {ls ks : List (List Char)}

theorem append (ha : InCode a ls) (hb : InCode b ks) : InCode (a ++ b) (ls ++ ks) := by
  have hpast : Scan.of (a ++ b) = (Scan.of a).onto (Scan.of b) := by
    rw [Scan.of, String.toList_append, Scan.past_append]
    exact Scan.past_of_code ha.place _
  refine ⟨?_, ?_⟩
  · rw [hpast]
    exact hb.place
  · rw [hpast, ← ha.literals, ← hb.literals]
    rfl

theorem of_avoids {text : String} (h : Avoids ['"'] text) : InCode text [] := by
  have hall : ∀ (cs : List Char) (s : Scan), (∀ c ∈ cs, c ≠ '"') → s.place = .code →
      (s.past cs).place = .code ∧ (s.past cs).literals = s.literals := by
    intro cs
    induction cs with
    | nil => exact fun s _ hs => ⟨hs, rfl⟩
    | cons c cs ih =>
        intro s hcs hs
        obtain ⟨hplace, hliterals⟩ := Scan.step_of_ne_quote hs (hcs c (List.mem_cons_self ..))
        have hrest := ih (s.step c) (fun d hd => hcs d (List.mem_cons_of_mem _ hd)) hplace
        exact ⟨hrest.1, hrest.2.trans hliterals⟩
  have hof := hall text.toList Scan.start (fun c hc e => h c hc (e ▸ List.mem_singleton_self _)) rfl
  exact ⟨hof.1, hof.2⟩

theorem empty : InCode "" [] := ⟨rfl, rfl⟩

theorem concat {α : Type} {items : List α} {f : α → String} {g : α → List (List Char)}
    (h : ∀ x ∈ items, InCode (f x) (g x)) : InCode (Module.concat (items.map f)) (items.flatMap g) := by
  induction items with
  | nil => exact empty
  | cons x items ih =>
      exact (h x (List.mem_cons_self ..)).append (ih fun y hy => h y (List.mem_cons_of_mem _ hy))

end InCode

namespace Closed

variable {a b text : String} {ls ks : List (List Char)}

theorem inCode (h : Closed text ls) : InCode text ls :=
  ⟨by rw [h.scan], by rw [h.scan]⟩

theorem of_avoids (h : Avoids marks text) : Closed text [] := by
  have hall : ∀ cs : List Char, (∀ c ∈ cs, c ∉ marks) →
      Scan.start.past cs = Scan.start ∧ Scan.start.SoundAlong cs := by
    intro cs
    induction cs with
    | nil => exact fun _ => ⟨rfl, Scan.SoundAlong.nil_iff.mpr Scan.sound_start⟩
    | cons c cs ih =>
        intro hcs
        have hstep : Scan.start.step c = Scan.start :=
          Scan.step_of_not_mem rfl (hcs c (List.mem_cons_self ..))
        obtain ⟨hpast, hsound⟩ := ih fun d hd => hcs d (List.mem_cons_of_mem _ hd)
        refine ⟨?_, Scan.SoundAlong.cons_iff.mpr ⟨Scan.sound_start, ?_⟩⟩
        · change (Scan.start.step c).past cs = Scan.start
          rw [hstep, hpast]
        · rw [hstep]
          exact hsound
  exact ⟨(hall _ h).1, (hall _ h).2⟩

theorem append (ha : Closed a ls) (hb : Closed b ks) : Closed (a ++ b) (ls ++ ks) := by
  have hcode : (Scan.start.past a.toList).place = .code := ha.inCode.place
  have hsound : (Scan.start.past a.toList).Sound := ha.sound _ (List.prefix_refl _)
  refine ⟨?_, ?_⟩
  · rw [Scan.of, String.toList_append, Scan.past_append, Scan.past_of_code hcode]
    change (Scan.of a).onto (Scan.of b) = _
    rw [ha.scan, hb.scan]
    rfl
  · rw [String.toList_append]
    exact ha.sound.append (Scan.SoundAlong.of_code hcode hsound hb.sound)

theorem wrap {left right : String} {o c : Char} {braces parens : Int} (hl : left.toList = [o])
    (hr : right.toList = [c]) (hopen : Scan.start.step o = ⟨.code, braces, parens, []⟩)
    (hb : 0 ≤ braces) (hp : 0 ≤ parens)
    (hclose : ∀ ls, (Scan.mk .code braces parens ls).step c = ⟨.code, 0, 0, ls⟩)
    (h : Closed text ls) : Closed (left ++ text ++ right) ls := by
  have hchars : (left ++ text ++ right).toList = o :: (text.toList ++ [c]) := by
    rw [String.toList_append, String.toList_append, hl, hr]
    simp
  have hmid : (Scan.mk .code braces parens []).past text.toList = ⟨.code, braces, parens, ls⟩ := by
    rw [Scan.past_of_code rfl]
    change Scan.onto _ (Scan.of text) = _
    rw [h.scan]
    simp [Scan.onto]
  have hsound : ∀ ls, (Scan.mk .code braces parens ls).Sound := fun _ => ⟨hb, hp⟩
  refine ⟨?_, ?_⟩
  · rw [Scan.of, hchars]
    change ((Scan.start.step o).past (text.toList ++ [c])) = _
    rw [hopen, Scan.past_append, hmid]
    exact hclose ls
  · rw [hchars, Scan.SoundAlong.cons_iff, hopen]
    refine ⟨Scan.sound_start, (Scan.SoundAlong.of_code rfl (hsound _) h.sound).append ?_⟩
    rw [hmid, Scan.SoundAlong.cons_iff, hclose, Scan.SoundAlong.nil_iff]
    exact ⟨hsound ls, le_refl _, le_refl _⟩

theorem braced (h : Closed text ls) : Closed ("\x7b" ++ text ++ "\x7d") ls := by
  refine wrap (o := '\x7b') (c := '\x7d') (by simp) (by simp) rfl (by decide) (by decide) ?_ h
  exact fun ls => rfl

theorem parenthesized (h : Closed text ls) : Closed ("(" ++ text ++ ")") ls := by
  refine wrap (o := '(') (c := ')') (by simp) (by simp) rfl (by decide) (by decide) ?_ h
  exact fun ls => rfl

theorem call (before inside after : String) (hb : Avoids marks before) (hi : Avoids marks inside)
    (ha : Avoids marks after) : Closed (before ++ ("(" ++ inside ++ ")") ++ after) [] :=
  ((of_avoids hb).append (of_avoids hi).parenthesized).append (of_avoids ha)

theorem quote (name : String) : Closed (Text.quote name) [written name] := by
  have hchars : (Text.quote name).toList = '"' :: (written name ++ ['"']) := by
    simp [Text.quote, quoteChars, written]
  have hopen : Scan.start.step '"' = ⟨.literal [], 0, 0, []⟩ := rfl
  refine ⟨?_, ?_⟩
  · rw [Scan.of, hchars]
    change (Scan.start.step '"').past _ = _
    rw [hopen, Scan.past_append, written, Scan.past_escapes]
    rfl
  · rw [hchars, Scan.SoundAlong.cons_iff, hopen]
    refine ⟨Scan.sound_start, (Scan.soundAlong_escapes (le_refl _) (le_refl _) _).append ?_⟩
    rw [Scan.past_escapes, Scan.SoundAlong.cons_iff, Scan.SoundAlong.nil_iff]
    exact ⟨⟨le_refl _, le_refl _⟩, ⟨le_refl _, le_refl _⟩⟩

theorem empty : Closed "" [] := of_avoids (by simp [Avoids])

theorem concat {α : Type} {items : List α} {f : α → String} {g : α → List (List Char)}
    (h : ∀ x ∈ items, Closed (f x) (g x)) : Closed (Module.concat (items.map f)) (items.flatMap g) := by
  induction items with
  | nil => exact empty
  | cons x items ih =>
      exact (h x (List.mem_cons_self ..)).append (ih fun y hy => h y (List.mem_cons_of_mem _ hy))

theorem tabs (depth : Nat) : Closed (Text.tabs depth) [] := of_avoids (Avoids.tabs (by decide) depth)

theorem ending (ending : LineEnding) : Closed ending.text [] := by
  cases ending with
  | lf => exact of_avoids (by simp [Avoids, marks, LineEnding.text])
  | crlf => exact of_avoids (by simp [Avoids, marks, LineEnding.text])

end Closed

namespace Line

variable {ending : LineEnding} {depth : Nat} {xs ys lines : List Line} {ls ks : List (List Char)}

theorem closed_indented {text : String} (h : Closed text ls) (level : Nat) :
    Closed (renderAll ending depth [.indented level text]) ls := by
  have hclosed := (((Closed.tabs (depth + level)).append h).append (Closed.ending ending)).append Closed.empty
  rw [List.nil_append, List.append_nil, List.append_nil] at hclosed
  exact hclosed

theorem closed_append (hx : Closed (renderAll ending depth xs) ls)
    (hy : Closed (renderAll ending depth ys) ks) :
    Closed (renderAll ending depth (xs ++ ys)) (ls ++ ks) := by
  rw [renderAll_append]
  exact hx.append hy

theorem closed_all (h : ∀ line ∈ lines, Closed line.content []) :
    Closed (renderAll ending depth lines) [] := by
  induction lines with
  | nil => exact Closed.empty
  | cons line lines ih =>
      have hline := h line (List.mem_cons_self ..)
      have hrest := ih fun l hl => h l (List.mem_cons_of_mem _ hl)
      cases line with
      | indented level text => exact closed_append (closed_indented hline level) hrest
      | bare => exact (Closed.ending ending).append hrest

theorem closed_flatMap {α : Type} {items : List α} {f : α → List Line} {g : α → List (List Char)}
    (h : ∀ x ∈ items, Closed (renderAll ending depth (f x)) (g x)) :
    Closed (renderAll ending depth (items.flatMap f)) (items.flatMap g) := by
  induction items with
  | nil => exact Closed.empty
  | cons x items ih =>
      rw [List.flatMap_cons, List.flatMap_cons]
      exact closed_append (h x (List.mem_cons_self ..)) (ih fun y hy => h y (List.mem_cons_of_mem _ hy))

theorem closed_block (h : Closed (renderAll ending depth lines) ls) (first last : Nat) :
    Closed (renderAll ending depth
      (.indented first Accessor.openBrace :: (lines ++ [.indented last Accessor.closeBrace]))) ls := by
  have hinner := ((Closed.ending ending).append h).append (Closed.tabs (depth + last))
  have hclosed := ((Closed.tabs (depth + first)).append hinner.braced).append (Closed.ending ending)
  have htext : renderAll ending depth
      (.indented first Accessor.openBrace :: (lines ++ [.indented last Accessor.closeBrace])) =
        tabs (depth + first)
          ++ ("\x7b" ++ (ending.text ++ renderAll ending depth lines ++ tabs (depth + last)) ++ "\x7d")
          ++ ending.text := by
    change renderAll ending depth ([_] ++ (lines ++ [_])) = _
    rw [renderAll_append, renderAll_append]
    simp [renderAll, render, Module.concat, Accessor.openBrace, Accessor.closeBrace, String.append_assoc]
  rw [htext]
  simpa using hclosed

end Line

end ActionLookup
