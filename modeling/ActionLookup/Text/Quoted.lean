/-!
Quoted text as it stands in the generated source. A quoted text says itself where it ends:
whatever follows it, reading gives back the text and what follows (`read_quote`).
-/

namespace ActionLookup.Text

def escape (c : Char) : List Char :=
  if c = '\\' then ['\\', '\\']
  else if c = '"' then ['\\', '"']
  else if c = '\n' then ['\\', 'n']
  else if c = '\r' then ['\\', 'r']
  else if c = '\t' then ['\\', 't']
  else [c]

def quoteChars (cs : List Char) : List Char := '"' :: cs.flatMap escape ++ ['"']

def quote (s : String) : String := String.ofList (quoteChars s.toList)

def unescape : Char → Option Char
  | '\\' => some '\\'
  | '"' => some '"'
  | 'n' => some '\n'
  | 'r' => some '\r'
  | 't' => some '\t'
  | _ => none

def readQuotedTail : List Char → Option (List Char × List Char)
  | [] => none
  | '"' :: rest => some ([], rest)
  | '\\' :: c :: rest =>
      match unescape c, readQuotedTail rest with
      | some d, some (text, rest) => some (d :: text, rest)
      | _, _ => none
  | ['\\'] => none
  | c :: rest => (readQuotedTail rest).map fun (text, rest) => (c :: text, rest)

def readQuoted : List Char → Option (List Char × List Char)
  | '"' :: rest => readQuotedTail rest
  | _ => none

theorem readQuotedTail_escape (c : Char) (rest : List Char) :
    readQuotedTail (escape c ++ rest) =
      (readQuotedTail rest).map fun (text, rest) => (c :: text, rest) := by
  unfold escape
  split
  · subst c; cases h : readQuotedTail rest <;> simp [readQuotedTail, unescape, h]
  split
  · subst c; cases h : readQuotedTail rest <;> simp [readQuotedTail, unescape, h]
  split
  · subst c; cases h : readQuotedTail rest <;> simp [readQuotedTail, unescape, h]
  split
  · subst c; cases h : readQuotedTail rest <;> simp [readQuotedTail, unescape, h]
  split
  · subst c; cases h : readQuotedTail rest <;> simp [readQuotedTail, unescape, h]
  · rename_i h1 h2 _ _ _
    rw [List.singleton_append, readQuotedTail]
    · exact h2
    · intro c' r hc; exact absurd hc h1
    · intro hc; exact absurd hc h1

theorem readQuotedTail_flatMap (cs rest : List Char) :
    readQuotedTail (cs.flatMap escape ++ '"' :: rest) = some (cs, rest) := by
  induction cs with
  | nil => simp [readQuotedTail]
  | cons c cs ih => rw [List.flatMap_cons, List.append_assoc, readQuotedTail_escape, ih]; rfl

theorem read_quote (cs rest : List Char) : readQuoted (quoteChars cs ++ rest) = some (cs, rest) := by
  simp [readQuoted, quoteChars, readQuotedTail_flatMap]

theorem quoteChars_injective {cs ds : List Char} (h : quoteChars cs = quoteChars ds) : cs = ds := by
  have hc := read_quote cs []
  rw [h, read_quote ds []] at hc
  exact ((Prod.mk.inj (Option.some.inj hc)).1).symm

theorem quote_injective {a b : String} (h : quote a = quote b) : a = b := by
  have hchars := congrArg String.toList h
  simp only [quote, String.toList_ofList] at hchars
  exact String.toList_inj.mp (quoteChars_injective hchars)

end ActionLookup.Text
