import Stencil.Loop.Items

/-! # What an expression depends on

    An expression looks at the names of its variables and at its filters,
    and at nothing else.  Whether undefined filters are errors makes a
    difference only where it makes one: it turns a value into an error, and
    never into another value. -/

namespace Stencil

/-! ## Section 1: What an expression mentions -/

namespace Expr

mutual

/-- The names that occur as variables. -/
def variableNames : Expr → List String
  | .literal _ => []
  | .var name => [name]
  | .property object _ => variableNames object
  | .index object key => variableNames object ++ variableNames key
  | .range low high => variableNames low ++ variableNames high
  | .compare _ left right => variableNames left ++ variableNames right
  | .and left right => variableNames left ++ variableNames right
  | .or left right => variableNames left ++ variableNames right
  | .filter receiver _ args => variableNames receiver ++ allVariableNames args

/-- The names that occur as variables in any of some expressions. -/
def allVariableNames : List Expr → List String
  | [] => []
  | e :: es => variableNames e ++ allVariableNames es

end

mutual

/-- The names of the filters. -/
def filterNames : Expr → List String
  | .literal _ => []
  | .var _ => []
  | .property object _ => filterNames object
  | .index object key => filterNames object ++ filterNames key
  | .range low high => filterNames low ++ filterNames high
  | .compare _ left right => filterNames left ++ filterNames right
  | .and left right => filterNames left ++ filterNames right
  | .or left right => filterNames left ++ filterNames right
  | .filter receiver name args => name :: (filterNames receiver ++ allFilterNames args)

/-- The names of the filters in any of some expressions. -/
def allFilterNames : List Expr → List String
  | [] => []
  | e :: es => filterNames e ++ allFilterNames es

end

end Expr

/-! ## Section 2: Results that agree -/

section

variable {ε α β : Type} {lenient : Prop}

/-- Is the second result the first one?  In lenient comparison an error
    agrees with anything. -/
def Agrees (lenient : Prop) (x y : Except ε α) : Prop :=
  x = y ∨ (lenient ∧ ∃ fault, x = .error fault)

theorem agrees_refl (x : Except ε α) : Agrees lenient x x :=
  .inl rfl

theorem Agrees.bind {x y : Except ε α} {f g : α → Except ε β} (h : Agrees lenient x y)
    (k : ∀ a, Agrees lenient (f a) (g a)) : Agrees lenient (x >>= f) (y >>= g) := by
  obtain rfl | ⟨allowed, fault, rfl⟩ := h
  · cases x with
    | error fault => exact .inl rfl
    | ok a => exact k a
  · exact .inr ⟨allowed, fault, rfl⟩

theorem Agrees.andThen {x y : Except ε α} (h : Agrees lenient x y) (f : α → Except ε β) :
    Agrees lenient (x >>= f) (y >>= f) :=
  h.bind fun a => agrees_refl (f a)

end

/-! ## Section 3: Registries -/

/-- Do two registries hold the same filters of some names, for expressions at
    the same site, and are both strict or both not?  In lenient comparison,
    the second one need not be strict. -/
structure Registry.AgreesOn (lenient : Prop) (used : String → Prop) (r q : Registry) : Prop where
  site : r.site = q.site
  strict : r.strict = q.strict ∨ (lenient ∧ q.strict = false)
  found : ∀ name, used name → r.find? name = q.find? name

namespace Registry.AgreesOn

variable {lenient : Prop} {used : String → Prop} {r q : Registry}

theorem first (h : AgreesOn lenient used r q) : AgreesOn lenient used r.first q.first :=
  ⟨congrArg Double.Site.first h.site, h.strict, h.found⟩

theorem others (h : AgreesOn lenient used r q) : AgreesOn lenient used r.others q.others :=
  ⟨congrArg Double.Site.others h.site, h.strict, h.found⟩

theorem atMoment (h : AgreesOn lenient used r q) (moment : Nat) :
    AgreesOn lenient used (r.atMoment moment) (q.atMoment moment) :=
  ⟨rfl, h.strict, h.found⟩

theorem invoke (h : AgreesOn lenient used r q) {name : String} (mentioned : used name)
    (receiver : Value) (args : List Value) :
    Agrees lenient (r.invoke name receiver args) (q.invoke name receiver args) := by
  unfold Registry.invoke
  rw [h.found name mentioned, h.site]
  cases q.find? name with
  | some f => exact agrees_refl _
  | none =>
    obtain same | ⟨allowed, loose⟩ := h.strict
    · rw [same]
      exact agrees_refl _
    · -- the second registry passes the receiver through, so only an error of
      -- the first one can make a difference
      rw [loose]
      cases r.strict with
      | true => exact .inr ⟨allowed, _, rfl⟩
      | false => exact agrees_refl _

end Registry.AgreesOn

/-! ## Section 4: Expressions -/

section

variable {lenient : Prop} {used : String → Prop} {names names' : Names}

namespace Expr

mutual

/-- An expression depends on its variables and on its filters only. -/
theorem eval_agrees : (e : Expr) → {r q : Registry} → r.AgreesOn lenient used q →
    (∀ name ∈ e.variableNames, names name = names' name) → (∀ name ∈ e.filterNames, used name) →
    Agrees lenient (e.eval r names) (e.eval q names')
  | .literal value, r, q, _, _, _ => by
    rw [eval, eval]
    exact agrees_refl _
  | .var name, r, q, _, bound, _ => by
    rw [eval, eval, bound name (by simp [variableNames])]
    exact agrees_refl _
  | .property object name, r, q, agree, bound, known => by
    rw [variableNames] at bound
    rw [filterNames] at known
    rw [eval, eval]
    exact (eval_agrees object agree bound known).andThen _
  | .index object key, r, q, agree, bound, known => by
    rw [variableNames, List.forall_mem_append] at bound
    rw [filterNames, List.forall_mem_append] at known
    rw [eval, eval]
    refine (eval_agrees object agree bound.1 known.1).bind fun v => ?_
    exact (eval_agrees key agree bound.2 known.2).andThen _
  | .range low high, r, q, agree, bound, known => by
    rw [variableNames, List.forall_mem_append] at bound
    rw [filterNames, List.forall_mem_append] at known
    rw [eval, eval]
    refine (eval_agrees low agree bound.1 known.1).bind fun v => ?_
    refine (agrees_refl v.toInt).bind fun a => ?_
    exact (eval_agrees high agree bound.2 known.2).andThen _
  | .compare relation left right, r, q, agree, bound, known => by
    rw [variableNames, List.forall_mem_append] at bound
    rw [filterNames, List.forall_mem_append] at known
    rw [eval, eval]
    refine (eval_agrees left agree bound.1 known.1).bind fun a => ?_
    exact (eval_agrees right agree bound.2 known.2).andThen _
  | .and left right, r, q, agree, bound, known => by
    rw [variableNames, List.forall_mem_append] at bound
    rw [filterNames, List.forall_mem_append] at known
    rw [eval, eval]
    refine (eval_agrees left agree bound.1 known.1).bind fun a => ?_
    refine (agrees_refl a.truth).bind fun truth => ?_
    -- the right operand counts only if the left one does not decide
    cases truth with
    | true => exact (eval_agrees right agree bound.2 known.2).andThen _
    | false => exact agrees_refl _
  | .or left right, r, q, agree, bound, known => by
    rw [variableNames, List.forall_mem_append] at bound
    rw [filterNames, List.forall_mem_append] at known
    rw [eval, eval]
    refine (eval_agrees left agree bound.1 known.1).bind fun a => ?_
    refine (agrees_refl a.truth).bind fun truth => ?_
    cases truth with
    | true => exact agrees_refl _
    | false => exact (eval_agrees right agree bound.2 known.2).andThen _
  | .filter receiver name args, r, q, agree, bound, known => by
    rw [variableNames, List.forall_mem_append] at bound
    rw [filterNames, List.forall_mem_cons, List.forall_mem_append] at known
    rw [eval, eval]
    -- operands are evaluated at sites of their own, on both sides the same
    refine (eval_agrees receiver agree.first bound.1 known.2.1).bind fun v => ?_
    refine (evalAll_agrees args agree.others bound.2 known.2.2).bind fun vs => ?_
    exact agree.invoke known.1 v vs

theorem evalAll_agrees : (es : List Expr) → {r q : Registry} → r.AgreesOn lenient used q →
    (∀ name ∈ allVariableNames es, names name = names' name) →
    (∀ name ∈ allFilterNames es, used name) →
    Agrees lenient (evalAll r names es) (evalAll q names' es)
  | [], r, q, _, _, _ => by
    rw [evalAll, evalAll]
    exact agrees_refl _
  | e :: es, r, q, agree, bound, known => by
    rw [allVariableNames, List.forall_mem_append] at bound
    rw [allFilterNames, List.forall_mem_append] at known
    rw [evalAll, evalAll]
    refine (eval_agrees e agree.first bound.1 known.1).bind fun v => ?_
    exact (evalAll_agrees es agree.others bound.2 known.2).andThen _

end

end Expr

end

/-! ## Section 5: The header of a loop -/

/-- The expressions in the header of a loop. -/
def LoopHeader.expressions (h : LoopHeader) : List Expr :=
  h.source :: (h.limit.toList ++ (h.offset.toList ++ h.cols.toList))

section

variable {lenient : Prop} {r q : Registry} {names names' : Names}

/-- Where its expression is evaluated alike, a modifier gives the same
    count. -/
theorem modifierCount_agrees {modifier : Option Expr}
    (h : ∀ e ∈ modifier.toList, Agrees lenient (e.eval r names) (e.eval q names'))
    (name : String) :
    Agrees lenient (modifierCount r names name modifier)
      (modifierCount q names' name modifier) := by
  cases modifier with
  | none => exact agrees_refl _
  | some e => exact (h e (by simp)).andThen _

/-- Where its expressions are evaluated alike, a loop walks along the same
    items. -/
theorem LoopHeader.walked_agrees {h : LoopHeader}
    (alike : ∀ e ∈ h.expressions, Agrees lenient (e.eval r names) (e.eval q names')) :
    Agrees lenient (h.walked r names) (h.walked q names') := by
  unfold expressions at alike
  simp only [List.forall_mem_cons, List.forall_mem_append] at alike
  obtain ⟨source, limit, offset, -⟩ := alike
  refine source.bind fun v => ?_
  refine (agrees_refl v.source).bind fun all => ?_
  refine (modifierCount_agrees offset "offset").bind fun skipped => ?_
  exact (modifierCount_agrees limit "limit").andThen _

end

end Stencil
