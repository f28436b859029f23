import Stencil.Number.Numeral

/-! # The markup of a table

    A table is written cell by cell: what is in front of a cell depends only
    on how many cells there have been.  Written so, it is well formed all
    the same: rows in order, each with its tags, all of them full but
    perhaps the last one. -/

namespace Stencil

namespace Table

/-! ## Section 1: Rows -/

/-- The tag that opens a row. -/
def rowTag (row : Nat) : String :=
  "<tr class=\"row" ++ Numeral.text row ++ "\">"

/-- The tag that opens a cell. -/
def cellTag (col : Nat) : String :=
  "<td class=\"col" ++ Numeral.text col ++ "\">"

/-- The cells of a row from a column on, in which there are these pieces. -/
def cells (col : Nat) : List (List String) → List String
  | [] => []
  | content :: rest => cellTag col :: (content ++ "</td>" :: cells (col + 1) rest)

/-- The rows of a table from a row on, one below the other. -/
def rows (row : Nat) : List (List (List String)) → List String
  | [] => []
  | [contents] => rowTag row :: (cells 1 contents ++ ["</tr>"])
  | contents :: more => rowTag row :: (cells 1 contents ++ "</tr>\n" :: rows (row + 1) more)

/-- Are these contents spread over rows, in order and from left to right?
    Every row but the last has all columns, and the last one has what
    remains. -/
structure Fills {α : Type} (cols : Nat) (contents : List α) (filled : List (List α)) : Prop where
  flatten : filled.flatten = contents
  count : filled.length = (contents.length + cols - 1) / cols
  full : ∀ row ∈ filled.dropLast, row.length = cols
  last : ∀ row, filled.getLast? = some row → row.length = (contents.length - 1) % cols + 1
  placed : ∀ (i : Nat) a, contents[i]? = some a →
    ∃ row, filled[i / cols]? = some row ∧ row[i % cols]? = some a

section

variable {α : Type} {cols : Nat} {contents : List α}

/-- A single row. -/
theorem fills_single (some_content : contents ≠ []) (short : contents.length ≤ cols) :
    Fills cols contents [contents] where
  flatten := List.flatten_singleton
  count := by
    have := List.length_pos_iff.2 some_content
    rw [List.length_singleton]
    symm
    exact Nat.div_eq_of_lt_le (by omega) (by omega)
  full := nofun
  last := by
    intro row hrow
    obtain rfl : contents = row := Option.some.inj hrow
    have := List.length_pos_iff.2 some_content
    rw [Nat.mod_eq_of_lt (by omega)]
    omega
  placed := by
    intro i a ha
    have inside := (List.getElem?_eq_some_iff.1 ha).1
    rw [Nat.div_eq_of_lt (by omega), Nat.mod_eq_of_lt (by omega)]
    exact ⟨contents, rfl, ha⟩

theorem Fills.some_row {filled : List (List α)} (h : Fills cols contents filled)
    (some_content : contents ≠ []) : filled ≠ [] := by
  rintro rfl
  exact some_content h.flatten.symm

/-- One more row on top, which is full. -/
theorem Fills.cons {filled : List (List α)} {rest : List α} (h : Fills cols rest filled)
    (some_content : rest ≠ []) (hcols : 0 < cols) (long : contents.length = cols) :
    Fills cols (contents ++ rest) (contents :: filled) where
  flatten := by rw [List.flatten_cons, h.flatten]
  count := by
    have longer : (contents ++ rest).length + cols - 1 = rest.length + cols - 1 + cols := by
      have := List.length_pos_iff.2 some_content
      rw [List.length_append]
      omega
    rw [List.length_cons, h.count, longer, Nat.add_div_right _ hcols]
  full := by
    intro row hrow
    rw [List.dropLast_cons_of_ne_nil (h.some_row some_content)] at hrow
    rcases List.mem_cons.1 hrow with rfl | hrow
    · exact long
    · exact h.full row hrow
  last := by
    intro row hrow
    -- the last cell keeps its column, since a full row is put on top
    have longer : (contents ++ rest).length - 1 = rest.length - 1 + cols := by
      have := List.length_pos_iff.2 some_content
      rw [List.length_append]
      omega
    rw [List.getLast?_cons_of_ne_nil (h.some_row some_content)] at hrow
    rw [h.last row hrow, longer, Nat.add_mod_right]
  placed := by
    intro i a ha
    by_cases inside : i < cols
    · rw [List.getElem?_append_left (by omega)] at ha
      rw [Nat.div_eq_of_lt inside, Nat.mod_eq_of_lt inside]
      exact ⟨contents, rfl, ha⟩
    · -- below the new row: the same column, and one row less from there
      obtain ⟨k, rfl⟩ := Nat.exists_eq_add_of_le' (Nat.le_of_not_lt inside)
      rw [List.getElem?_append_right (by omega), long, Nat.add_sub_cancel] at ha
      rw [Nat.add_div_right k hcols, Nat.add_mod_right]
      exact h.placed k a ha

end

/-! ## Section 2: Cell by cell -/

/-- What is written in front of the content of the `i`-th cell. -/
def opening (cols i : Nat) : List String :=
  (if i % cols = 0 then (if i = 0 then [] else ["</tr>\n"]) ++ [rowTag (i / cols + 1)] else []) ++
    [cellTag (i % cols + 1)]

/-- What is written of a table from the `i`-th cell on, as long as its last
    row is open. -/
def unfinished (cols : Nat) : Nat → List (List String) → List String
  | _, [] => []
  | i, content :: rest => opening cols i ++ (content ++ "</td>" :: unfinished cols (i + 1) rest)

/-- What is written between two rows, or in front of the first one. -/
def between (row : Nat) : List String :=
  if row = 0 then [] else ["</tr>\n"]

@[simp] theorem between_succ (row : Nat) : between (row + 1) = ["</tr>\n"] :=
  if_neg (Nat.succ_ne_zero row)

section

variable {cols : Nat}

theorem opening_first (hcols : 0 < cols) (row : Nat) :
    opening cols (row * cols) = between row ++ [rowTag (row + 1), cellTag 1] := by
  unfold opening between
  have atStart : row * cols = 0 ↔ row = 0 := by
    rw [Nat.mul_eq_zero]
    omega
  simp [atStart, Nat.mul_div_cancel row hcols]

theorem opening_later {col : Nat} (inside : col < cols) (some_cell : 0 < col) (row : Nat) :
    opening cols (row * cols + col) = [cellTag (col + 1)] := by
  have column : (row * cols + col) % cols = col := by
    rw [Nat.mul_add_mod', Nat.mod_eq_of_lt inside]
  unfold opening
  rw [column, if_neg (by omega)]
  rfl

/-- Inside a row there are only cells. -/
theorem unfinished_inside (row : Nat) {col : Nat} (some_cell : 0 < col)
    (contents rest : List (List String)) (short : col + contents.length ≤ cols) :
    unfinished cols (row * cols + col) (contents ++ rest) =
      cells (col + 1) contents ++
        unfinished cols (row * cols + (col + contents.length)) rest := by
  -- the column moves on, and never comes back to the edge before the row is full
  induction contents generalizing col with
  | nil => rfl
  | cons content contents ih =>
    rw [List.length_cons] at short
    have later := @ih (col + 1) (Nat.succ_pos col) (by omega)
    have behind : col + 1 + contents.length = col + (contents.length + 1) := by omega
    rw [List.cons_append, unfinished, opening_later (by omega) some_cell, cells, Nat.add_assoc,
      later, List.length_cons, behind]
    simp

/-- A row from its first cell on. -/
theorem unfinished_row (hcols : 0 < cols) (row : Nat) {contents : List (List String)}
    (some_content : contents ≠ []) (short : contents.length ≤ cols)
    (rest : List (List String)) :
    unfinished cols (row * cols) (contents ++ rest) =
      between row ++ rowTag (row + 1) ::
        (cells 1 contents ++ unfinished cols (row * cols + contents.length) rest) := by
  -- only the first cell opens the row
  obtain ⟨content, contents, rfl⟩ := List.exists_cons_of_ne_nil some_content
  rw [List.length_cons] at short
  rw [List.cons_append, unfinished, opening_first hcols,
    unfinished_inside row Nat.one_pos contents rest (by omega), cells, List.length_cons,
    Nat.add_comm contents.length 1]
  simp

/-- What is written cell by cell, and closed, is the rows of the table. -/
theorem exists_rows (hcols : 0 < cols) (row : Nat) {contents : List (List String)}
    (some_content : contents ≠ []) :
    ∃ filled, Fills cols contents filled ∧
      unfinished cols (row * cols) contents ++ ["</tr>"] =
        between row ++ rows (row + 1) filled := by
  by_cases short : contents.length ≤ cols
  · refine ⟨[contents], fills_single some_content short, ?_⟩
    have single := unfinished_row hcols row some_content short []
    rw [List.append_nil] at single
    rw [single, rows, unfinished]
    simp
  · -- a full row, and by induction the rows below it
    have rest_some : contents.drop cols ≠ [] := by
      rw [ne_eq, List.drop_eq_nil_iff]
      omega
    have long : (contents.take cols).length = cols := List.length_take_of_le (by omega)
    obtain ⟨filled, fills, below⟩ := exists_rows hcols (row + 1) rest_some
    have some_row : contents.take cols ≠ [] := by
      intro empty
      rw [empty] at long
      exact absurd long (Nat.ne_of_lt hcols)
    have top := unfinished_row hcols row some_row (Nat.le_of_eq long) (contents.drop cols)
    rw [List.take_append_drop, long, ← Nat.succ_mul] at top
    have both : Fills cols (contents.take cols ++ contents.drop cols)
        (contents.take cols :: filled) := fills.cons rest_some hcols long
    rw [List.take_append_drop] at both
    refine ⟨_, both, ?_⟩
    -- there is a row below, so the full one ends with a line break
    obtain ⟨next, more, rfl⟩ := List.exists_cons_of_ne_nil (fills.some_row rest_some)
    rw [top, rows, List.append_assoc, List.cons_append, List.append_assoc, below,
      between_succ]
    · rfl
    · exact nofun
termination_by contents.length
decreasing_by
  rw [List.length_drop]
  omega

end

end Table

end Stencil
