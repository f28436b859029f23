import Stencil.Filter.Basic
import Stencil.Scope.Basic

/-! # Evaluation

    The value of an expression depends on the filters, on where they are
    applied, and on the data that names are bound to.  Operands are evaluated from
    left to right; the right operand of a connective only when the left one
    does not decide. -/

namespace Stencil

/-- What names stand for, or why a name cannot be looked up. -/
abbrev Names := String → Except Fault Native

/-- What names stand for in a scope: the data they are bound to, or nil. -/
def Scope.names (s : Scope) : Names :=
  fun name => .ok ((s.get? name).getD .nil)

/-- The value of a literal. -/
def Literal.value : Literal → Value
  | .nil => .nil
  | .bool b => .boolean b
  | .int n => .number (.int n)
  | .float d => .number (.float d)
  | .text s => .string s

/-- Does a relation hold between two values? -/
def Relation.holds : Relation → Value → Value → Except Fault Bool
  | .eq, a, b => a.equal b
  | .neq, a, b => (a.equal b).map (!·)
  | .lt, a, b => .ok (a.less b)
  | .gt, a, b => .ok (b.less a)
  | .le, a, b => if a.less b then .ok true else a.equal b
  | .ge, a, b => if b.less a then .ok true else a.equal b
  | .contains, a, b => a.contains b
  | .isIn, a, b => b.contains a

namespace Expr

mutual

/-- The value of an expression. -/
def eval (filters : Registry) (names : Names) : Expr → Except Fault Value
  | .literal value => .ok value.value
  | .var name => names name >>= Native.wrap
  | .property object name => do
    let v ← eval filters names object
    v.property name
  | .index object key => do
    let v ← eval filters names object
    let k ← eval filters names key
    v.index k
  | .range low high => do
    let v ← eval filters names low
    let a ← v.toInt
    let w ← eval filters names high
    let b ← w.toInt
    return .range (.between a b)
  | .compare relation left right => do
    let a ← eval filters names left
    let b ← eval filters names right
    return .boolean (← relation.holds a b)
  | .and left right => do
    let a ← eval filters names left
    if ← a.truth then
      let b ← eval filters names right
      return .boolean (← b.truth)
    else return .boolean false
  | .or left right => do
    let a ← eval filters names left
    if ← a.truth then return .boolean true
    else
      let b ← eval filters names right
      return .boolean (← b.truth)
  | .filter receiver name args => do
    let v ← eval filters.first names receiver
    let vs ← evalAll filters.others names args
    filters.invoke name v vs

/-- The values of expressions, one after another. -/
def evalAll (filters : Registry) (names : Names) : List Expr → Except Fault (List Value)
  | [] => .ok []
  | e :: es => do
    let v ← eval filters.first names e
    let vs ← evalAll filters.others names es
    return v :: vs

end

/-! ## Undefined filters

    A registry that is not strict passes receivers through undefined
    filters; the debug log tells about each time. -/

/-- What comes after a step, if the step succeeds with a result that lets
    it come. -/
def following {α : Type} (step : Except Fault α) (lets : α → Bool) (names : List String) :
    List String :=
  match step with
  | .ok a => if lets a then names else []
  | .error _ => []

mutual

/-- The undefined filters that evaluating an expression comes to, in
    order. -/
def passedThrough (filters : Registry) (names : Names) : Expr → List String
  | .literal _ => []
  | .var _ => []
  | .property object _ => passedThrough filters names object
  | .index object key =>
    passedThrough filters names object ++
      following (eval filters names object) (fun _ => true) (passedThrough filters names key)
  | .range low high =>
    passedThrough filters names low ++
      following (eval filters names low >>= Value.toInt) (fun _ => true)
        (passedThrough filters names high)
  | .compare _ left right =>
    passedThrough filters names left ++
      following (eval filters names left) (fun _ => true) (passedThrough filters names right)
  | .and left right =>
    passedThrough filters names left ++
      following (eval filters names left >>= Value.truth) id (passedThrough filters names right)
  | .or left right =>
    passedThrough filters names left ++
      following (eval filters names left >>= Value.truth) (!·) (passedThrough filters names right)
  | .filter receiver name args =>
    passedThrough filters.first names receiver ++
      following (eval filters.first names receiver) (fun _ => true)
        (passedThroughAll filters.others names args ++
          following (evalAll filters.others names args)
            (fun _ => !filters.strict && !filters.contains name) [name])

/-- The same for expressions one after another. -/
def passedThroughAll (filters : Registry) (names : Names) : List Expr → List String
  | [] => []
  | e :: es =>
    passedThrough filters.first names e ++
      following (eval filters.first names e) (fun _ => true)
        (passedThroughAll filters.others names es)

end

end Expr

end Stencil
