import Mathlib.Data.Int.Order.Basic
import ActionLookup.Proofs.Text.Avoidance

/-!
A scan of source text that tells code from string literals. Braces and parentheses count only in
code; the inside of each literal is kept as it is written.
-/

namespace ActionLookup

open Text

inductive Place where
  | code
  | literal (inside : List Char)
  | escape (inside : List Char)
  deriving DecidableEq, Repr

structure Scan where
  place : Place
  braces : Int
  parens : Int
  literals : List (List Char)
  deriving DecidableEq, Repr

namespace Scan

def start : Scan := ⟨.code, 0, 0, []⟩

def step (s : Scan) (c : Char) : Scan :=
  match s.place with
  | .code =>
      if c = '"' then { s with place := .literal [] }
      else if c = '\x7b' then { s with braces := s.braces + 1 }
      else if c = '\x7d' then { s with braces := s.braces - 1 }
      else if c = '(' then { s with parens := s.parens + 1 }
      else if c = ')' then { s with parens := s.parens - 1 }
      else s
  | .literal inside =>
      if c = '\\' then { s with place := .escape inside }
      else if c = '"' then { s with place := .code, literals := s.literals ++ [inside] }
      else { s with place := .literal (inside ++ [c]) }
  | .escape inside => { s with place := .literal (inside ++ ['\\', c]) }

def past (s : Scan) (cs : List Char) : Scan := cs.foldl step s

theorem past_append (s : Scan) (xs ys : List Char) : s.past (xs ++ ys) = (s.past xs).past ys :=
  List.foldl_append

def onto (s t : Scan) : Scan :=
  ⟨t.place, s.braces + t.braces, s.parens + t.parens, s.literals ++ t.literals⟩

theorem step_onto (s t : Scan) (c : Char) : (s.onto t).step c = s.onto (t.step c) := by
  obtain ⟨place, braces, parens, literals⟩ := t
  cases place with
  | code =>
      simp only [step, onto]
      split
      · rfl
      split
      · rw [Int.add_assoc]
      split
      · rw [Int.add_sub_assoc]
      split
      · rw [Int.add_assoc]
      split
      · rw [Int.add_sub_assoc]
      · rfl
  | literal inside =>
      simp only [step, onto]
      split
      · rfl
      split
      · rw [List.append_assoc]
      · rfl
  | escape inside => rfl

theorem past_onto (s t : Scan) (cs : List Char) : (s.onto t).past cs = s.onto (t.past cs) := by
  induction cs generalizing t with
  | nil => rfl
  | cons c cs ih =>
      change ((s.onto t).step c).past cs = s.onto ((t.step c).past cs)
      rw [step_onto, ih]

theorem past_of_code {s : Scan} (h : s.place = .code) (cs : List Char) :
    s.past cs = s.onto (start.past cs) := by
  have hs : s = s.onto start := by
    obtain ⟨place, braces, parens, literals⟩ := s
    subst h
    simp [onto, start]
  rw [← past_onto, ← hs]

structure Sound (s : Scan) : Prop where
  braces : 0 ≤ s.braces
  parens : 0 ≤ s.parens

theorem Sound.onto {s t : Scan} (hs : s.Sound) (ht : t.Sound) : (s.onto t).Sound :=
  ⟨Int.add_nonneg hs.braces ht.braces, Int.add_nonneg hs.parens ht.parens⟩

theorem sound_start : start.Sound := ⟨le_refl _, le_refl _⟩

def SoundAlong (s : Scan) (cs : List Char) : Prop := ∀ p, p <+: cs → (s.past p).Sound

namespace SoundAlong

theorem nil_iff {s : Scan} : s.SoundAlong [] ↔ s.Sound := by
  simp [SoundAlong, past]

theorem cons_iff {s : Scan} {c : Char} {cs : List Char} :
    s.SoundAlong (c :: cs) ↔ s.Sound ∧ (s.step c).SoundAlong cs := by
  constructor
  · intro h
    exact ⟨h [] List.nil_prefix, fun p hp => h (c :: p) (List.cons_prefix_cons.mpr ⟨rfl, hp⟩)⟩
  · rintro ⟨hs, h⟩ p hp
    rcases List.prefix_cons_iff.mp hp with rfl | ⟨q, rfl, hq⟩
    · exact hs
    · exact h q hq

theorem append {s : Scan} {xs ys : List Char} (hx : s.SoundAlong xs) (hy : (s.past xs).SoundAlong ys) :
    s.SoundAlong (xs ++ ys) := by
  intro p hp
  rcases List.prefix_or_prefix_of_prefix hp (List.prefix_append xs ys) with hpx | ⟨q, rfl⟩
  · exact hx p hpx
  · rw [past_append]
    exact hy q ((List.prefix_append_right_inj xs).mp hp)

theorem onto {s t : Scan} {cs : List Char} (hs : s.Sound) (ht : t.SoundAlong cs) :
    (s.onto t).SoundAlong cs := by
  intro p hp
  rw [past_onto]
  exact hs.onto (ht p hp)

theorem of_code {s : Scan} {cs : List Char} (hc : s.place = .code) (hs : s.Sound)
    (h : start.SoundAlong cs) : s.SoundAlong cs := by
  intro p hp
  rw [past_of_code hc]
  exact hs.onto (h p hp)

end SoundAlong

section Inside

variable {inside : List Char} {braces parens : Int} {literals : List (List Char)}

theorem past_escape (c : Char) :
    (Scan.mk (.literal inside) braces parens literals).past (escape c) =
      ⟨.literal (inside ++ escape c), braces, parens, literals⟩ := by
  rcases escape_eq c with ⟨d, _, hd⟩ | ⟨hplain, hc⟩
  · rw [hd]
    rfl
  · rw [hc]
    simp only [List.mem_cons, not_or] at hplain
    simp [past, step, hplain]

theorem soundAlong_escape (hb : 0 ≤ braces) (hp : 0 ≤ parens) (c : Char) :
    (Scan.mk (.literal inside) braces parens literals).SoundAlong (escape c) := by
  have hsound : ∀ place, (Scan.mk place braces parens literals).Sound := fun _ => ⟨hb, hp⟩
  rcases escape_eq c with ⟨d, _, hd⟩ | ⟨hplain, hc⟩
  · rw [hd, SoundAlong.cons_iff, SoundAlong.cons_iff, SoundAlong.nil_iff]
    exact ⟨hsound _, hsound _, hsound _⟩
  · rw [hc, SoundAlong.cons_iff, SoundAlong.nil_iff]
    simp only [List.mem_cons, not_or] at hplain
    simpa only [step, hplain, if_false] using ⟨hsound _, hsound _⟩

theorem past_escapes (cs : List Char) :
    (Scan.mk (.literal inside) braces parens literals).past (cs.flatMap escape) =
      ⟨.literal (inside ++ cs.flatMap escape), braces, parens, literals⟩ := by
  induction cs generalizing inside with
  | nil => simp [past]
  | cons c cs ih => rw [List.flatMap_cons, past_append, past_escape, ih, List.append_assoc]

theorem soundAlong_escapes (hb : 0 ≤ braces) (hp : 0 ≤ parens) (cs : List Char) :
    (Scan.mk (.literal inside) braces parens literals).SoundAlong (cs.flatMap escape) := by
  induction cs generalizing inside with
  | nil => exact SoundAlong.nil_iff.mpr ⟨hb, hp⟩
  | cons c cs ih =>
      rw [List.flatMap_cons]
      refine (soundAlong_escape hb hp c).append ?_
      rw [past_escape]
      exact ih

end Inside

end Scan

end ActionLookup
