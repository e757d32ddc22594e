import Mathlib.Data.List.Basic

/-!
# Wrapped lines

The lines that a text fills: it is split at every newline, and what lies between two newlines is broken
wherever a line is full. A full line is broken only when something follows it, so that a newline behind
it does not leave an empty line.
-/

namespace LineWrap

variable {α : Type}

/-- Lines of `width` symbols, and a last one with the rest. -/
def wrap (width : Nat) (piece : List α) : List (List α) :=
  if piece.length ≤ width ∨ width = 0 then [piece]
  else piece.take width :: wrap width (piece.drop width)
termination_by piece.length
decreasing_by
  rw [List.length_drop]
  omega

def lines [BEq α] (width : Nat) (newline : α) (text : List α) : List (List α) :=
  (text.splitOn newline).flatMap (wrap width)

/-- The lines when `symbol` follows the lines `done` and `current`. -/
def extend [BEq α] (width : Nat) (newline : α) (done : List (List α)) (current : List α)
    (symbol : α) : List (List α) × List α :=
  if symbol == newline then (done ++ [current], [])
  else if current.length < width then (done, current ++ [symbol])
  else (done ++ [current], [symbol])

section Wrap

variable {width : Nat}

theorem wrap_of_le {piece : List α} (hlength : piece.length ≤ width) : wrap width piece = [piece] := by
  rw [wrap, if_pos (Or.inl hlength)]

theorem wrap_of_gt (hpos : 0 < width) {piece : List α} (hlength : width < piece.length) :
    wrap width piece = piece.take width :: wrap width (piece.drop width) := by
  rw [wrap, if_neg (by omega)]

/-- A symbol at the end of the piece goes to the last line, or to a new one if that is full. -/
theorem exists_wrap_append (hpos : 0 < width) (symbol : α) (piece : List α) :
    ∃ done current, wrap width piece = done ++ [current]
      ∧ wrap width (piece ++ [symbol])
        = if current.length < width then done ++ [current ++ [symbol]]
          else done ++ [current, [symbol]] := by
  fun_induction wrap width piece with
  | case1 piece hlast =>
      refine ⟨[], piece, rfl, ?_⟩
      have hlength : piece.length ≤ width := hlast.resolve_right (by omega)
      split
      · exact wrap_of_le (by rw [List.length_append, List.length_singleton]; omega)
      · have hfull : width = piece.length := by omega
        rw [wrap_of_gt hpos (by rw [List.length_append, List.length_singleton]; omega), hfull,
          List.take_left, List.drop_left, ← hfull, wrap_of_le (by rw [List.length_singleton]; omega)]
        rfl
  | case2 piece hmore ih =>
      obtain ⟨done, current, hwrap, happend⟩ := ih
      refine ⟨piece.take width :: done, current, by rw [hwrap, List.cons_append], ?_⟩
      rw [wrap_of_gt hpos (by rw [List.length_append, List.length_singleton]; omega),
        List.take_append_of_le_length (by omega), List.drop_append_of_le_length (by omega), happend]
      split
      · rfl
      · rfl

theorem length_le_of_mem_wrap (hpos : 0 < width) {piece line : List α} (hline : line ∈ wrap width piece) :
    line.length ≤ width := by
  fun_induction wrap width piece with
  | case1 piece hlast =>
      rw [List.mem_singleton.mp hline]
      exact hlast.resolve_right (by omega)
  | case2 piece hmore ih =>
      rcases List.mem_cons.mp hline with rfl | hrest
      · rw [List.length_take]
        exact Nat.min_le_left _ _
      · exact ih hrest

theorem mem_of_mem_wrap {piece line : List α} (hline : line ∈ wrap width piece) {symbol : α}
    (hsymbol : symbol ∈ line) : symbol ∈ piece := by
  fun_induction wrap width piece with
  | case1 piece hlast => rwa [List.mem_singleton.mp hline] at hsymbol
  | case2 piece hmore ih =>
      rcases List.mem_cons.mp hline with rfl | hrest
      · exact List.mem_of_mem_take hsymbol
      · exact List.mem_of_mem_drop (ih hrest)

end Wrap

section Lines

variable [BEq α] {width : Nat} {newline : α} {text : List α}

/-- A symbol at the end of the text goes to its last piece, or opens a new one. -/
theorem exists_splitOn_append (symbol : α) : ∀ text : List α,
    ∃ done piece, text.splitOn newline = done ++ [piece]
      ∧ (text ++ [symbol]).splitOn newline
        = if symbol == newline then done ++ [piece, []] else done ++ [piece ++ [symbol]] := by
  intro text
  induction text with
  | nil =>
      refine ⟨[], [], rfl, ?_⟩
      rw [List.nil_append, List.splitOn_cons_eq_if_modifyHead]
      rfl
  | cons first rest ih =>
      obtain ⟨done, piece, hsplit, happend⟩ := ih
      rw [List.cons_append, List.splitOn_cons_eq_if_modifyHead, List.splitOn_cons_eq_if_modifyHead,
        hsplit, happend]
      by_cases hfirst : (first == newline) = true
      · refine ⟨[] :: done, piece, by rw [if_pos hfirst, List.cons_append], ?_⟩
        rw [if_pos hfirst]
        split
        · rfl
        · rfl
      · rw [if_neg hfirst, if_neg hfirst]
        cases done with
        | nil =>
            refine ⟨[], first :: piece, rfl, ?_⟩
            split
            · rfl
            · rfl
        | cons head others =>
            refine ⟨(first :: head) :: others, piece, rfl, ?_⟩
            split
            · rfl
            · rfl

theorem lines_nil : lines width newline [] = [[]] := by
  rw [lines, List.splitOn_nil, List.flatMap_singleton, wrap_of_le (Nat.zero_le _)]

/-- What one more symbol does to the lines. -/
theorem lines_append (hpos : 0 < width) {done : List (List α)} {current : List α}
    (hlines : lines width newline text = done ++ [current]) (symbol : α) :
    lines width newline (text ++ [symbol])
      = (extend width newline done current symbol).1
        ++ [(extend width newline done current symbol).2] := by
  obtain ⟨pieces, piece, hsplit, happend⟩ := @exists_splitOn_append _ _ newline symbol text
  obtain ⟨before, last, hwrap, hwrapAppend⟩ := exists_wrap_append hpos symbol piece
  have hall : (pieces.flatMap (wrap width) ++ before) ++ [last] = done ++ [current] := by
    rw [← hlines, lines, hsplit, List.flatMap_append, List.flatMap_singleton, hwrap,
      List.append_assoc]
  obtain ⟨rfl, hlast⟩ := List.append_inj' hall rfl
  obtain rfl : last = current := List.singleton_inj.mp hlast
  rw [lines, happend, extend]
  split
  · have hnil : wrap width ([] : List α) = [[]] := wrap_of_le (Nat.zero_le _)
    rw [List.flatMap_append, List.flatMap_cons, List.flatMap_singleton, hwrap, hnil]
    simp only [List.append_assoc]
  · rw [List.flatMap_append, List.flatMap_singleton, hwrapAppend]
    split
    · simp only [List.append_assoc]
    · simp only [List.append_assoc, List.cons_append, List.nil_append]

theorem mem_of_mem_splitOn {symbol : α} : ∀ {text piece : List α}, piece ∈ text.splitOn newline →
    symbol ∈ piece → symbol ∈ text := by
  intro text
  induction text with
  | nil =>
      intro piece hpiece hsymbol
      rwa [List.mem_singleton.mp hpiece] at hsymbol
  | cons first rest ih =>
      intro piece hpiece hsymbol
      obtain ⟨head, others, hsplit⟩ :=
        List.exists_cons_of_ne_nil (List.splitOn_ne_nil newline rest)
      rw [List.splitOn_cons_eq_if_modifyHead] at hpiece
      split at hpiece
      · rcases List.mem_cons.mp hpiece with rfl | hrest
        · cases hsymbol
        · exact List.mem_cons_of_mem _ (ih hrest hsymbol)
      · rw [hsplit, List.modifyHead_cons] at hpiece
        rcases List.mem_cons.mp hpiece with rfl | hothers
        · rcases List.mem_cons.mp hsymbol with rfl | htail
          · exact List.mem_cons_self
          · exact List.mem_cons_of_mem _ (ih (hsplit ▸ List.mem_cons_self) htail)
        · exact List.mem_cons_of_mem _ (ih (hsplit ▸ List.mem_cons_of_mem _ hothers) hsymbol)

theorem mem_of_mem_lines {line : List α} (hline : line ∈ lines width newline text) {symbol : α}
    (hsymbol : symbol ∈ line) : symbol ∈ text := by
  obtain ⟨piece, hpiece, hwrap⟩ := List.mem_flatMap.mp hline
  exact mem_of_mem_splitOn hpiece (mem_of_mem_wrap hwrap hsymbol)

theorem length_le_of_mem (hpos : 0 < width) {line : List α} (hline : line ∈ lines width newline text) :
    line.length ≤ width := by
  obtain ⟨piece, -, hpiece⟩ := List.mem_flatMap.mp hline
  exact length_le_of_mem_wrap hpos hpiece

end Lines

end LineWrap
