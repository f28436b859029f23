import Stencil.Proofs.Loop.Markup
import Stencil.Proofs.Template.Writes

/-! # The cells of a table

    A table calls its body like any other loop, once for each item up to the
    first call that stops.  Around each call it writes the tags of a cell,
    and of a row where one begins, so that the markup is well formed
    wherever the calls end. -/

namespace Stencil

/-! ## Section 1: Output -/

/-- A state with more pieces of output. -/
def Run.writing (run : Run) (pieces : List String) : Run :=
  { run with out := run.out ++ pieces.toArray }

@[simp] theorem Run.out_writing (run : Run) (pieces : List String) :
    (run.writing pieces).out.toList = run.out.toList ++ pieces := by
  simp [writing]

theorem Run.writing_writing (run : Run) (first second : List String) :
    (run.writing first).writing second = run.writing (first ++ second) := by
  simp [writing]

theorem Render.write_eq (piece : String) (run : Run) :
    write piece run = .ok () (run.writing [piece]) := by
  simp only [Run.writing, ← Array.push_eq_append]
  rfl

theorem Render.write_bind {α : Type} (piece : String) (f : Unit → Render α) (run : Run) :
    (write piece >>= f) run = f () (run.writing [piece]) :=
  bind_of_ok (write_eq piece run)

/-- Does a step leave the output so far as it is? -/
def Render.Appends {α : Type} (x : Render α) : Prop :=
  ∀ run : Run, run.out.toList <+: (final (x run)).out.toList

/-- The pieces of output that a call writes. -/
def Call.written (c : Call) : List String :=
  c.left.out.toList.drop c.before.out.size

theorem Call.out_behind {c : Call} (h : c.before.out.toList <+: c.left.out.toList) :
    c.behind.out.toList = c.before.out.toList ++ c.written := by
  show c.left.out.toList = _
  obtain ⟨pieces, written⟩ := h
  rw [Call.written, ← written, ← Array.length_toList, List.drop_left]

/-! ## Section 2: What is inside a cell -/

/-- The scope in which the body is called for a cell. -/
def cellScope (item : String) (v : Value) (i length cols : Nat) (outer : Scope) : Scope :=
  .child (iterationFrame item v ⟨i, length, some cols⟩) outer

theorem LoopPosition.col0_natCast (i length cols : Nat) :
    (⟨i, length, some cols⟩ : LoopPosition).col0 cols = (i % cols : Nat) :=
  (Int.ofNat_fmod i cols).symm

theorem LoopPosition.row_natCast (i length cols : Nat) :
    (⟨i, length, some cols⟩ : LoopPosition).row cols = (i / cols : Nat) + 1 :=
  congrArg (· + 1) (Int.ofNat_fdiv i cols).symm

/-- Are these the calls of a table's body, of which the first is for the
    `first`-th cell? -/
def CellCalls (item : String) (length cols : Nat) (body : Render Signal) :
    Nat → List Value → Run → List Call → Prop :=
  CallsOf (fun i v run => body { run with scope := cellScope item v i length cols run.scope })
    (fun i run => run.writing (Table.opening cols i)) (·.writing ["</td>"])

/-- The call for one cell. -/
def cellCall (item : String) (length cols : Nat) (body : Render Signal) (i : Nat) (v : Value)
    (run : Run) : Call :=
  let before := run.writing (Table.opening cols i)
  ⟨before, body { before with scope := cellScope item v i length cols before.scope }⟩

/-- Do the cells end like this, when this is the last call?  They fail as it
    does; otherwise the cell is closed behind it. -/
def Call.Closes (c : Call) (result : EStateM.Result Failure Run Unit) : Prop :=
  match c.ended with
  | .ok _ _ => result = .ok () (c.behind.writing ["</td>"])
  | .error failure _ => result = .error failure c.behind

/-- Cells whose last call would go on just end. -/
theorem Call.closes_of_goesOn {c : Call} (more : c.goesOn = true) :
    c.Closes (.ok () (c.behind.writing ["</td>"])) := by
  unfold goesOn at more
  unfold Closes
  cases ended : c.ended with
  | ok signal left => rfl
  | error failure left =>
    rw [ended] at more
    cases more

section

variable {item : String} {length cols : Nat} {body : Render Signal}

/-- What is written in front of a cell depends on its number only. -/
theorem openCell_eq (i length cols : Nat) (run : Run) :
    openCell ⟨i, length, some cols⟩ cols run = .ok () (run.writing (Table.opening cols i)) := by
  have column := LoopPosition.col0_natCast i length cols
  have row := LoopPosition.row_natCast i length cols
  unfold openCell Table.opening
  rw [column, row]
  by_cases begins : i % cols = 0
  · have onEdge : ((i % cols : Nat) : Int) = 0 := by omega
    rw [if_pos onEdge, if_pos begins]
    -- a row is closed in front of all rows but the first
    by_cases first : i = 0
    · have atStart : ¬ (i : Int) ≠ 0 := by omega
      rw [if_pos first, if_neg atStart]
      refine (Render.write_bind _ _ _).trans ((Render.write_eq _ _).trans ?_)
      rw [Run.writing_writing]
      rfl
    · have later : (i : Int) ≠ 0 := by omega
      rw [if_neg first, if_pos later]
      refine (Render.write_bind _ _ _).trans ((Render.write_bind _ _ _).trans ?_)
      refine (Render.write_eq _ _).trans ?_
      rw [Run.writing_writing, Run.writing_writing]
      rfl
  · have inside : ¬ ((i % cols : Nat) : Int) = 0 := by omega
    rw [if_neg inside, if_neg begins]
    exact Render.write_eq _ run

/-- Cell by cell: a call that does not go on ends the cells; behind any
    other, the table goes on with the rest. -/
theorem tableItems_cons (v : Value) (vs : List Value) (i : Nat) (run : Run) :
    ((cellCall item length cols body i v run).goesOn = false →
      (cellCall item length cols body i v run).Closes
        (tableItems item length cols body i (v :: vs) run)) ∧
    ((cellCall item length cols body i v run).goesOn = true →
      tableItems item length cols body i (v :: vs) run =
        tableItems item length cols body (i + 1) vs
          ((cellCall item length cols body i v run).behind.writing ["</td>"])) := by
  have inCell : Render.inFrame (iterationFrame item v ⟨i, length, some cols⟩) body
      (run.writing (Table.opening cols i)) = (cellCall item length cols body i v run).result :=
    @Call.inFrame_eq _ body (cellCall item length cols body i v run) rfl
  -- from here on it matters only how the call ends
  generalize cellCall item length cols body i v run = c at inCell ⊢
  unfold Call.result at inCell
  unfold Call.goesOn Call.Closes
  rw [tableItems, Render.bind_of_ok (openCell_eq i length cols run)]
  cases ended : c.ended with
  | error failure left =>
    rw [ended] at inCell
    exact ⟨fun _ => Render.bind_of_error inCell, nofun⟩
  | ok signal left =>
    rw [ended] at inCell
    rw [Render.bind_of_ok inCell, Render.write_bind]
    by_cases stops : signal = .stop
    · refine ⟨fun _ => ?_, fun goes => ?_⟩
      · rw [if_pos stops]
        rfl
      · simp [stops] at goes
    · refine ⟨fun halts => ?_, fun _ => ?_⟩
      · simp [stops] at halts
      · rw [if_neg stops]

/-- What a cell has written, with its tags. -/
theorem cellCall_out (appends : body.Appends) (v : Value) (i : Nat) (run : Run) :
    ((cellCall item length cols body i v run).behind.writing ["</td>"]).out.toList =
      run.out.toList ++ (Table.opening cols i ++
        ((cellCall item length cols body i v run).written ++ ["</td>"])) := by
  have before : (cellCall item length cols body i v run).before.out.toList =
      run.out.toList ++ Table.opening cols i := Run.out_writing _ _
  have kept : (cellCall item length cols body i v run).before.out.toList <+:
      (cellCall item length cols body i v run).left.out.toList :=
    appends { run.writing (Table.opening cols i) with
      scope := cellScope item v i length cols (run.writing (Table.opening cols i)).scope }
  rw [Run.out_writing, Call.out_behind kept, before]
  simp

/-- The cells of a table are the calls of its body, with their tags. -/
theorem tableItems_calls (v : Value) (vs : List Value) (i : Nat) (run : Run) :
    ∃ calls, CellCalls item length cols body i (v :: vs) run calls ∧
      ∃ last, calls.getLast? = some last ∧
        last.Closes (tableItems item length cols body i (v :: vs) run) ∧
        (body.Appends → (last.behind.writing ["</td>"]).out.toList =
          run.out.toList ++ Table.unfinished cols i (calls.map Call.written)) := by
  refine @CallsOf.exists_of_steps
    (fun i v run => body { run with scope := cellScope item v i length cols run.scope })
    (fun i run => run.writing (Table.opening cols i)) (·.writing ["</td>"])
    (tableItems item length cols body) Call.Closes
    (fun i run calls last => body.Appends → (last.behind.writing ["</td>"]).out.toList =
      run.out.toList ++ Table.unfinished cols i (calls.map Call.written))
    (fun i v vs run => tableItems_cons v vs i run) (fun _ _ more => Call.closes_of_goesOn more)
    (fun i v run appends => cellCall_out appends v i run) ?_ v vs i run
  intro i v run calls last written appends
  -- what is written for one cell stands in front of what the other cells write
  rw [written appends, List.map_cons, Table.unfinished]
  show ((cellCall item length cols body i v run).behind.writing ["</td>"]).out.toList ++ _ =
    run.out.toList ++ (_ ++ ((cellCall item length cols body i v run).written ++ _))
  rw [cellCall_out appends]
  simp

end

/-! ## Section 4: Whole tables -/

/-- The rows of a table end as the last call does, and what a table has
    written is its rows. -/
theorem tableRows_calls (h : LoopHeader) (body : Render Signal) {items : List Value} {cols : Nat}
    (hcols : 0 < cols) (some_item : items ≠ []) (start : Run) :
    ∃ calls last,
      CellCalls h.item items.length cols body 0 items
        { start with scope := .child .loop start.scope } calls ∧
      calls.getLast? = some last ∧
      (∀ failure left, last.ended = .error failure left →
        tableRows h body items cols start = .error failure last.outside) ∧
      (∀ signal left, last.ended = .ok signal left → ∃ done,
        tableRows h body items cols start = .ok .none done ∧
        (body.Appends → ∃ filled, Table.Fills cols (calls.map Call.written) filled ∧
          done.out.toList = start.out.toList ++ Table.rows 1 filled)) := by
  obtain ⟨v, vs, rfl⟩ := List.exists_cons_of_ne_nil some_item
  obtain ⟨calls, made, last, atEnd, closes, written⟩ :=
    @tableItems_calls h.item (v :: vs).length cols body v vs 0
      { start with scope := .child .loop start.scope }
  have some_call : calls.map Call.written ≠ [] := by
    rw [ne_eq, List.map_eq_nil_iff]
    rintro rfl
    cases atEnd
  unfold Call.Closes at closes
  refine ⟨calls, last, made, atEnd, fun failure left ended => ?_, fun signal left ended => ?_⟩
  · rw [ended] at closes
    exact Render.bind_of_error (Render.inFrame_of_error closes)
  · rw [ended] at closes
    -- behind the last call only its cell and its row are closed
    have framed : Render.inFrame .loop
        (tableItems h.item (v :: vs).length cols body 0 (v :: vs)) start =
        .ok () (last.outside.writing ["</td>"]) := Render.inFrame_of_ok closes
    refine ⟨(last.outside.writing ["</td>"]).writing ["</tr>"], ?_, fun appends => ?_⟩
    · exact (Render.bind_of_ok framed).trans (Render.write_bind _ _ _)
    · obtain ⟨filled, fills, whole⟩ := Table.exists_rows hcols 0 some_call
      refine ⟨filled, fills, ?_⟩
      have inside : (last.outside.writing ["</td>"]).out.toList =
          start.out.toList ++ Table.unfinished cols 0 (calls.map Call.written) := written appends
      rw [Nat.zero_mul] at whole
      rw [Run.out_writing, inside, List.append_assoc, whole]
      rfl

end Stencil
