import Stencil.Proofs.Statement.Agreement

/-! # Renamed expressions

    Variables may be called otherwise, if the names stand for the same data:
    an expression with its variables renamed means what it has meant, where
    each new name stands for what the old one has stood for. -/

namespace Stencil

/-! ## Section 1: Expressions -/

namespace Expr

mutual

/-- An expression with its variables renamed; filters and properties keep
    their names. -/
def rename (σ : String → String) : Expr → Expr
  | .literal value => .literal value
  | .var name => .var (σ name)
  | .property object name => .property (rename σ object) name
  | .index object key => .index (rename σ object) (rename σ key)
  | .range low high => .range (rename σ low) (rename σ high)
  | .compare relation left right => .compare relation (rename σ left) (rename σ right)
  | .and left right => .and (rename σ left) (rename σ right)
  | .or left right => .or (rename σ left) (rename σ right)
  | .filter receiver name args => .filter (rename σ receiver) name (renameAll σ args)

/-- Some expressions with their variables renamed. -/
def renameAll (σ : String → String) : List Expr → List Expr
  | [] => []
  | e :: es => rename σ e :: renameAll σ es

end

mutual

/-- A renamed expression means what the expression means where the new names
    are looked up for the old ones. -/
theorem eval_rename (σ : String → String) (names : Names) : (e : Expr) → (r : Registry) →
    (e.rename σ).eval r names = e.eval r fun name => names (σ name)
  | .literal _, _ => by
    rw [rename, eval, eval]
  | .var _, _ => by
    rw [rename, eval, eval]
  | .property object _, r => by
    rw [rename, eval, eval, eval_rename σ names object r]
  | .index object key, r => by
    rw [rename, eval, eval, eval_rename σ names object r, eval_rename σ names key r]
  | .range low high, r => by
    rw [rename, eval, eval, eval_rename σ names low r, eval_rename σ names high r]
  | .compare _ left right, r => by
    rw [rename, eval, eval, eval_rename σ names left r, eval_rename σ names right r]
  | .and left right, r => by
    rw [rename, eval, eval, eval_rename σ names left r, eval_rename σ names right r]
  | .or left right, r => by
    rw [rename, eval, eval, eval_rename σ names left r, eval_rename σ names right r]
  | .filter receiver _ args, r => by
    rw [rename, eval, eval, eval_rename σ names receiver r.first,
      evalAll_rename σ names args r.others]

theorem evalAll_rename (σ : String → String) (names : Names) : (es : List Expr) →
    (r : Registry) → evalAll r names (renameAll σ es) = evalAll r (fun name => names (σ name)) es
  | [], _ => by
    rw [renameAll, evalAll, evalAll]
  | e :: es, r => by
    rw [renameAll, evalAll, evalAll, eval_rename σ names e r.first,
      evalAll_rename σ names es r.others]

end

/-- A renamed expression depends on its own variables only. -/
theorem eval_rename_eq {σ : String → String} {names names' : Names} {e : Expr}
    (alike : ∀ name ∈ e.variableNames, names' (σ name) = names name) (r : Registry) :
    (e.rename σ).eval r names' = e.eval r names := by
  have agree : r.AgreesOn False (fun _ => True) r := ⟨rfl, .inl rfl, fun _ _ => rfl⟩
  rw [eval_rename]
  obtain same | ⟨never, -⟩ := e.eval_agrees agree alike fun _ _ => trivial
  · exact same
  · exact never.elim

end Expr

/-! ## Section 2: The header of a loop -/

namespace LoopHeader

/-- A header with the variables in its expressions renamed; the items are
    bound to the same name. -/
def rename (σ : String → String) (h : LoopHeader) : LoopHeader :=
  { h with
    source := h.source.rename σ
    limit := h.limit.map (·.rename σ)
    offset := h.offset.map (·.rename σ)
    cols := h.cols.map (·.rename σ) }

theorem modifierCount_rename {σ : String → String} {names names' : Names} {modifier : Option Expr}
    (alike : ∀ e ∈ modifier.toList, ∀ name ∈ e.variableNames, names' (σ name) = names name)
    (r : Registry) (name : String) :
    modifierCount r names' name (modifier.map (·.rename σ)) =
      modifierCount r names name modifier := by
  cases modifier with
  | none => rfl
  | some e =>
    rw [Option.map_some, modifierCount, modifierCount, Expr.eval_rename_eq (alike e (by simp))]

/-- A loop with its header renamed walks along the same items. -/
theorem walked_rename {σ : String → String} {names names' : Names} {h : LoopHeader}
    (alike : ∀ e ∈ h.expressions, ∀ name ∈ e.variableNames, names' (σ name) = names name)
    (r : Registry) : (h.rename σ).walked r names' = h.walked r names := by
  unfold expressions at alike
  simp only [List.forall_mem_cons, List.forall_mem_append] at alike
  obtain ⟨source, limit, offset, -⟩ := alike
  unfold walked
  rw [show (h.rename σ).source = h.source.rename σ from rfl, Expr.eval_rename_eq source,
    show (h.rename σ).offset = h.offset.map (·.rename σ) from rfl, modifierCount_rename offset,
    show (h.rename σ).limit = h.limit.map (·.rename σ) from rfl, modifierCount_rename limit]
  rfl

theorem cols_rename {σ : String → String} {names names' : Names} {h : LoopHeader}
    (alike : ∀ e ∈ h.expressions, ∀ name ∈ e.variableNames, names' (σ name) = names name)
    (r : Registry) :
    modifierCount r names' "cols" (h.rename σ).cols = modifierCount r names "cols" h.cols := by
  unfold expressions at alike
  simp only [List.forall_mem_cons, List.forall_mem_append] at alike
  obtain ⟨-, -, -, cols⟩ := alike
  exact modifierCount_rename cols r "cols"

end LoopHeader

end Stencil
