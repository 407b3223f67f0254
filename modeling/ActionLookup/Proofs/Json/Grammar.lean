import Mathlib.Data.List.Forall2
import ActionLookup.Json.Skip

namespace ActionLookup.Json

def Gap (cs : List Char) : Prop := ∀ c ∈ cs, c ∈ [' ', '\t', '\n', '\r']

def hexDigits : List (Char × Nat) :=
  [('0', 0), ('1', 1), ('2', 2), ('3', 3), ('4', 4), ('5', 5), ('6', 6), ('7', 7), ('8', 8), ('9', 9),
    ('a', 10), ('b', 11), ('c', 12), ('d', 13), ('e', 14), ('f', 15),
    ('A', 10), ('B', 11), ('C', 12), ('D', 13), ('E', 14), ('F', 15)]

def SpellsUnit (n : Nat) (cs : List Char) : Prop :=
  ∃ a ∈ hexDigits, ∃ b ∈ hexDigits, ∃ c ∈ hexDigits, ∃ d ∈ hexDigits,
    n = ((a.2 * 16 + b.2) * 16 + c.2) * 16 + d.2 ∧ cs = [a.1, b.1, c.1, d.1]

def shortEscapes : List (Char × Char) :=
  [('"', '"'), ('\\', '\\'), ('/', '/'), ('b', '\x08'), ('f', '\x0c'), ('n', '\n'), ('r', '\r'), ('t', '\t')]

def IsPlain (c : Char) : Prop := 0x20 ≤ c.toNat ∧ c ≠ '"' ∧ c ≠ '\\'

instance (c : Char) : Decidable (IsPlain c) := inferInstanceAs (Decidable (_ ∧ _ ∧ _))

/-- The ways to write a character of a string; one beyond sixteen bits is escaped as a pair. -/
inductive Spells : Char → List Char → Prop
  | plain {c : Char} : IsPlain c → Spells c [c]
  | short {letter c : Char} : (letter, c) ∈ shortEscapes → Spells c ['\\', letter]
  | unit {c : Char} {digits : List Char} : SpellsUnit c.toNat digits → Spells c ('\\' :: 'u' :: digits)
  | pair {c : Char} {high low : List Char} : 0x10000 ≤ c.toNat →
      SpellsUnit (0xD800 + (c.toNat - 0x10000) / 0x400) high →
      SpellsUnit (0xDC00 + (c.toNat - 0x10000) % 0x400) low →
      Spells c ('\\' :: 'u' :: high ++ '\\' :: 'u' :: low)

def SpellsString (s : String) (cs : List Char) : Prop :=
  ∃ pieces, List.Forall₂ Spells s.toList pieces ∧ cs = '"' :: pieces.flatten ++ ['"']

/-- A piece of a string whose text does not matter: its code units need not be paired. -/
inductive IsPiece : List Char → Prop
  | plain {c : Char} : IsPlain c → IsPiece [c]
  | short {letter c : Char} : (letter, c) ∈ shortEscapes → IsPiece ['\\', letter]
  | unit {n : Nat} {digits : List Char} : SpellsUnit n digits → IsPiece ('\\' :: 'u' :: digits)

def IsString (cs : List Char) : Prop :=
  ∃ pieces : List (List Char), (∀ piece ∈ pieces, IsPiece piece) ∧ cs = '"' :: pieces.flatten ++ ['"']

def nonzeroDigits : List Char := ['1', '2', '3', '4', '5', '6', '7', '8', '9']

def digits : List Char := '0' :: nonzeroDigits

def AreDigits (cs : List Char) : Prop := ∀ c ∈ cs, c ∈ digits

inductive IsWhole : List Char → Prop
  | zero : IsWhole ['0']
  | positive {c : Char} {more : List Char} : c ∈ nonzeroDigits → AreDigits more → IsWhole (c :: more)

inductive IsFraction : List Char → Prop
  | absent : IsFraction []
  | present {c : Char} {more : List Char} : c ∈ digits → AreDigits more → IsFraction ('.' :: c :: more)

inductive IsExponent : List Char → Prop
  | absent : IsExponent []
  | present {e c : Char} {sign more : List Char} : e ∈ ['e', 'E'] → sign ∈ [[], ['+'], ['-']] →
      c ∈ digits → AreDigits more → IsExponent (e :: (sign ++ c :: more))

def IsNumber (cs : List Char) : Prop :=
  ∃ sign whole fraction exponent, sign ∈ [[], ['-']] ∧ IsWhole whole ∧ IsFraction fraction ∧
    IsExponent exponent ∧ cs = sign ++ (whole ++ (fraction ++ exponent))

section

variable {α κ : Type}

def Padded (W : α → List Char → Prop) (a : α) (item : List Char) : Prop :=
  ∃ before value after, Gap before ∧ W a value ∧ Gap after ∧ item = before ++ (value ++ after)

inductive Enclosed (opening closing : Char) (W : α → List Char → Prop) : List α → List Char → Prop
  | empty {gap : List Char} : Gap gap → Enclosed opening closing W [] (opening :: (gap ++ [closing]))
  | items {a : α} {as : List α} {item : List Char} {items : List (List Char)} :
      W a item → List.Forall₂ W as items →
      Enclosed opening closing W (a :: as) (opening :: (item ++ (items.flatMap (',' :: ·) ++ [closing])))

def Keyed (K : κ → List Char → Prop) (member : κ × List Char) (item : List Char) : Prop :=
  ∃ key value, Padded K member.1 key ∧ Padded Eq member.2 value ∧ item = key ++ ':' :: value

end

def literals : List (List Char) := [['n', 'u', 'l', 'l'], ['t', 'r', 'u', 'e'], ['f', 'a', 'l', 's', 'e']]

inductive IsValue : List Char → Prop
  | literal {cs : List Char} : cs ∈ literals → IsValue cs
  | number {cs : List Char} : IsNumber cs → IsValue cs
  | string {cs : List Char} : IsString cs → IsValue cs
  | array {values : List (List Char)} {cs : List Char} :
      (∀ value ∈ values, IsValue value) → Enclosed '[' ']' (Padded Eq) values cs → IsValue cs
  | object {members : List (List Char × List Char)} {cs : List Char} :
      (∀ member ∈ members, IsString member.1) → (∀ member ∈ members, IsValue member.2) →
      Enclosed '\x7b' '\x7d' (Keyed Eq) members cs → IsValue cs

/-- What a member says of an optional string; no member says that there is none. -/
inductive WritesOptional : Option String → Option (List Char) → Prop
  | omitted : WritesOptional none none
  | null : WritesOptional none (some ['n', 'u', 'l', 'l'])
  | string {s : String} {cs : List Char} : SpellsString s cs → WritesOptional (some s) (some cs)

inductive WritesList {α : Type} (W : α → List Char → Prop) : List α → Option (List Char) → Prop
  | omitted : WritesList W [] none
  | written {as : List α} {cs : List Char} : Enclosed '[' ']' (Padded W) as cs → WritesList W as (some cs)

/-- An object in which known keys stand once at most; what stands at other keys is any value. -/
structure WritesObject (known : List String) (members : List (String × List Char)) (cs : List Char) :
    Prop where
  once : ((members.map Prod.fst).filter (· ∈ known)).Nodup
  others : ∀ member ∈ members, member.1 ∉ known → IsValue member.2
  written : Enclosed '\x7b' '\x7d' (Keyed SpellsString) members cs

/-- A record is an object, or a list that gives the known keys their values in order, from the first on. -/
inductive WritesRecord (known : List String) (members : List (String × List Char)) (cs : List Char) : Prop
  | object : WritesObject known members cs → WritesRecord known members cs
  | list : members.map Prod.fst <+: known → Enclosed '[' ']' (Padded Eq) (members.map Prod.snd) cs →
      WritesRecord known members cs

end ActionLookup.Json
