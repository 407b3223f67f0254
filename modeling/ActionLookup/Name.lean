import ActionLookup.Text.Alphabetic
import ActionLookup.Text.Numeric
import ActionLookup.Text.Lowercase

/-!
Names as they are written in an asset, and the identifiers made from them.

A name keeps its blanks where it is a dispatch key and loses them where it is an identifier.
-/

namespace ActionLookup.Text

/-- The property White_Space of Unicode 17. -/
def blankRanges : RangeTable := [
  (0x0009, 0x000D), (0x0020, 0x0020), (0x0085, 0x0085), (0x00A0, 0x00A0), (0x1680, 0x1680),
  (0x2000, 0x200A), (0x2028, 0x2029), (0x202F, 0x202F), (0x205F, 0x205F), (0x3000, 0x3000)]

theorem ascending_blankRanges : blankRanges.ascending = true := by decide

def isBlank (c : Char) : Bool := blankRanges.contains c.toNat

end ActionLookup.Text

namespace ActionLookup.Name

open Text

def strip (name : String) : String := String.ofList (name.toList.filter fun c => !isBlank c)

def starts (c : Char) : Bool := c == '_' || isAlphabetic c

def continues (c : Char) : Bool := c == '_' || isAlphabetic c || isNumeric c

def identifierChars : List Char → Bool
  | [] => false
  | c :: cs => starts c && cs.all continues

def isIdentifier (name : String) : Bool := identifierChars name.toList

def lowercase (name : String) : String := String.ofList (lower name.toList)

def isBlankText (name : String) : Bool := name.toList.all isBlank

theorem toList_strip (name : String) :
    (strip name).toList = name.toList.filter fun c => !isBlank c := by
  simp [strip]

theorem not_isBlank_of_mem_strip {name : String} {c : Char} (h : c ∈ (strip name).toList) :
    isBlank c = false := by
  rw [toList_strip, List.mem_filter] at h
  simpa using h.2

theorem continues_of_starts {c : Char} (h : starts c = true) : continues c = true := by
  simp only [starts, continues, Bool.or_eq_true] at h ⊢
  exact .inl h

theorem continues_of_mem_identifier {name : String} (h : isIdentifier name = true) :
    ∀ c ∈ name.toList, continues c = true := by
  unfold isIdentifier at h
  cases hn : name.toList with
  | nil => simp
  | cons d ds =>
      rw [hn] at h
      simp only [identifierChars, Bool.and_eq_true, List.all_eq_true] at h
      intro c hc
      cases hc with
      | head => exact continues_of_starts h.1
      | tail _ hc => exact h.2 c hc

end ActionLookup.Name
