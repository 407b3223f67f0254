namespace ActionLookup.Text

def pieces (separator : Char) : List Char → List (List Char)
  | [] => [[]]
  | c :: rest =>
      if c = separator then [] :: pieces separator rest
      else
        match pieces separator rest with
        | [] => [[c]]
        | piece :: more => (c :: piece) :: more

def join (separator : Char) : List (List Char) → List Char
  | [] => []
  | [piece] => piece
  | piece :: more => piece ++ separator :: join separator more

theorem pieces_ne_nil (separator : Char) (cs : List Char) : pieces separator cs ≠ [] := by
  cases cs with
  | nil => simp [pieces]
  | cons c rest =>
      simp only [pieces]
      split
      · simp
      · split <;> simp

theorem join_cons_of_ne_nil (separator : Char) (piece : List Char) {more : List (List Char)}
    (h : more ≠ []) : join separator (piece :: more) = piece ++ separator :: join separator more := by
  cases more with
  | nil => exact absurd rfl h
  | cons _ _ => rfl

theorem join_append (separator : Char) {front back : List (List Char)} (hfront : front ≠ []) (hback : back ≠ []) :
    join separator (front ++ back) = join separator front ++ separator :: join separator back := by
  induction front with
  | nil => exact absurd rfl hfront
  | cons piece front ih =>
      cases front with
      | nil => exact join_cons_of_ne_nil separator piece hback
      | cons next more =>
          have hne : next :: more ≠ [] := List.cons_ne_nil _ _
          rw [List.cons_append, join_cons_of_ne_nil _ _ (by simp), ih hne, join_cons_of_ne_nil _ _ hne,
            List.append_assoc, List.cons_append]

theorem join_cons_cons (separator c : Char) (piece : List Char) (more : List (List Char)) :
    join separator ((c :: piece) :: more) = c :: join separator (piece :: more) := by
  cases more <;> rfl

theorem join_pieces (separator : Char) (cs : List Char) : join separator (pieces separator cs) = cs := by
  induction cs with
  | nil => rfl
  | cons c rest ih =>
      simp only [pieces]
      split
      · rename_i h
        rw [join_cons_of_ne_nil _ _ (pieces_ne_nil _ _), ih, h, List.nil_append]
      · cases h : pieces separator rest with
        | nil => exact absurd h (pieces_ne_nil _ _)
        | cons piece more => rw [join_cons_cons, ← h, ih]

theorem pieces_of_not_mem {separator : Char} {cs : List Char} (h : separator ∉ cs) :
    pieces separator cs = [cs] := by
  induction cs with
  | nil => rfl
  | cons c rest ih =>
      obtain ⟨hc, hrest⟩ : separator ≠ c ∧ separator ∉ rest := by simpa using h
      simp only [pieces, if_neg (Ne.symm hc), ih hrest]

theorem mem_pieces (separator : Char) {c : Char} {cs : List Char} (h : c ∈ cs) :
    c = separator ∨ ∃ piece ∈ pieces separator cs, c ∈ piece := by
  induction cs with
  | nil => simp at h
  | cons d rest ih =>
      by_cases hd : d = separator
      · rcases List.mem_cons.mp h with rfl | h
        · exact .inl hd
        · rw [pieces, if_pos hd]
          exact (ih h).imp_right fun ⟨piece, hp, hc⟩ => ⟨piece, List.mem_cons_of_mem _ hp, hc⟩
      · rw [pieces, if_neg hd]
        cases hp : pieces separator rest with
        | nil => exact absurd hp (pieces_ne_nil _ _)
        | cons first more =>
            rcases List.mem_cons.mp h with rfl | h
            · exact .inr ⟨_, List.mem_cons_self .., List.mem_cons_self ..⟩
            · refine (ih h).imp_right fun ⟨piece, hpiece, hc⟩ => ?_
              rw [hp] at hpiece
              rcases List.mem_cons.mp hpiece with rfl | hpiece
              · exact ⟨_, List.mem_cons_self .., List.mem_cons_of_mem _ hc⟩
              · exact ⟨piece, List.mem_cons_of_mem _ hpiece, hc⟩

def byteCount : List Char → Nat
  | [] => 0
  | c :: rest => c.utf8Size + byteCount rest

/-- The first part has this many bytes. A text is only cut where a character ends. -/
def cut? : Nat → List Char → Option (List Char × List Char)
  | 0, cs => some ([], cs)
  | _, [] => none
  | size, c :: rest =>
      if size < c.utf8Size then none
      else (cut? (size - c.utf8Size) rest).map fun (before, after) => (c :: before, after)

end ActionLookup.Text
