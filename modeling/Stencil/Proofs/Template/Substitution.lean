import Stencil.Filter.Sample
import Stencil.Proofs.Loop.Calls
import Stencil.Proofs.Scope.Tidy
import Stencil.Proofs.Statement.Agreement
import Stencil.Template.Render

/-! # Assignments as substitutions

    After an assignment, an expression means what it has meant with the
    assigned expression in the place of the variable.  This needs that no
    frame which the assignment passes by hides the variable, and that the
    assigned expression has one value: each result that is not a number is
    another one, so an expression with such a result has a new value each
    time, and a filter of the host that builds lists can tell them apart. -/

namespace Stencil

/-! ## Section 1: Substituted expressions -/

namespace Expr

mutual

/-- An expression with another one in the place of a variable. -/
def subst : Expr → String → Expr → Expr
  | .literal value, _, _ => .literal value
  | .var name, x, e => if name = x then e else .var name
  | .property object name, x, e => .property (subst object x e) name
  | .index object key, x, e => .index (subst object x e) (subst key x e)
  | .range low high, x, e => .range (subst low x e) (subst high x e)
  | .compare relation left right, x, e => .compare relation (subst left x e) (subst right x e)
  | .and left right, x, e => .and (subst left x e) (subst right x e)
  | .or left right, x, e => .or (subst left x e) (subst right x e)
  | .filter receiver name args, x, e => .filter (subst receiver x e) name (substAll args x e)

/-- Expressions with another one in the place of a variable. -/
def substAll : List Expr → String → Expr → List Expr
  | [], _, _ => []
  | f :: fs, x, e => subst f x e :: substAll fs x e

end

end Expr

/-- Do names stand for what they have stood for, except that one stands for a
    value? -/
structure Names.Assigned (names : Names) (x : String) (v : Value) (after : Names) : Prop where
  bound : after x = .ok v.native
  others : ∀ name, name ≠ x → after name = names name

namespace Expr

/-- Has an expression this value wherever it stands? -/
def Steady (e : Expr) (filters : Registry) (names : Names) (v : Value) : Prop :=
  ∀ site, e.eval { filters with site } names = .ok v

variable {names after : Names} {x : String} {e : Expr} {v : Value}

mutual

/-- A substituted expression means what the expression means where the
    variable stands for the value that has come in its place. -/
theorem eval_subst (assigned : names.Assigned x v after) : (f : Expr) → (r : Registry) →
    e.Steady r names v → (f.subst x e).eval r names = f.eval r after
  | .literal _, r, _ => by
    rw [subst, eval, eval]
  | .var name, r, steady => by
    rw [subst, eval.eq_2]
    by_cases here : name = x
    · rw [if_pos here, here, assigned.bound]
      exact (steady r.site).trans v.wrap_native.symm
    · rw [if_neg here, eval, assigned.others name here]
  | .property object _, r, steady => by
    rw [subst, eval, eval, eval_subst assigned object r steady]
  | .index object key, r, steady => by
    rw [subst, eval, eval, eval_subst assigned object r steady, eval_subst assigned key r steady]
  | .range low high, r, steady => by
    rw [subst, eval, eval, eval_subst assigned low r steady, eval_subst assigned high r steady]
  | .compare _ left right, r, steady => by
    rw [subst, eval, eval, eval_subst assigned left r steady, eval_subst assigned right r steady]
  | .and left right, r, steady => by
    rw [subst, eval, eval, eval_subst assigned left r steady, eval_subst assigned right r steady]
  | .or left right, r, steady => by
    rw [subst, eval, eval, eval_subst assigned left r steady, eval_subst assigned right r steady]
  | .filter receiver _ args, r, steady => by
    -- operands are evaluated at sites of their own, where `e` has its value too
    rw [subst, eval, eval, eval_subst assigned receiver r.first steady,
      evalAll_subst assigned args r.others steady]

theorem evalAll_subst (assigned : names.Assigned x v after) : (fs : List Expr) →
    (r : Registry) → e.Steady r names v →
    evalAll r names (substAll fs x e) = evalAll r after fs
  | [], r, _ => by
    rw [substAll, evalAll, evalAll]
  | f :: fs, r, steady => by
    rw [substAll, evalAll, evalAll, eval_subst assigned f r.first steady,
      evalAll_subst assigned fs r.others steady]

end

end Expr

/-! ## Section 2: Steady expressions

    Only what is not a number, and is computed just now, depends on where it
    is computed. -/

theorem Native.locate_eq_self {n : Native} (h : n ≠ .float (.nan .fresh)) (site : Double.Site) :
    n.locate site = n := by
  unfold locate
  split
  · exact absurd rfl h
  · rfl

namespace Registry

theorem conclude_site (name : String) {x : Except Fault Native}
    (h : x ≠ .ok (.float (.nan .fresh))) (site site' : Double.Site) :
    conclude name site x = conclude name site' x := by
  unfold conclude
  split
  next n =>
    have other : n ≠ .float (.nan .fresh) := fun same => h (congrArg _ same)
    rw [n.locate_eq_self other, n.locate_eq_self other]
  all_goals rfl

theorem invoke_site {r : Registry} {name : String} {receiver : Value} {args : List Value}
    (h : ∀ f, r.find? name = some f →
      f receiver.native (args.map Value.native) ≠ .ok (.float (.nan .fresh)))
    (site : Double.Site) :
    { r with site }.invoke name receiver args = r.invoke name receiver args := by
  unfold invoke
  rw [show find? { r with site } name = r.find? name from rfl]
  cases found : r.find? name with
  | none => rfl
  | some f => exact conclude_site name (h f found) site r.site

end Registry

namespace Expr

mutual

/-- Does no filter in an expression compute what is not a number? -/
def Settled (r : Registry) (names : Names) : Expr → Prop
  | .literal _ | .var _ => True
  | .property object _ => Settled r names object
  | .index a b | .range a b | .compare _ a b | .and a b | .or a b =>
    Settled r names a ∧ Settled r names b
  | .filter receiver name args =>
    Settled r.first names receiver ∧ SettledAll r.others names args ∧
      ∀ f v vs, r.find? name = some f → receiver.eval r.first names = .ok v →
        evalAll r.others names args = .ok vs →
          f v.native (vs.map Value.native) ≠ .ok (.float (.nan .fresh))

/-- The same for expressions one after another. -/
def SettledAll (r : Registry) (names : Names) : List Expr → Prop
  | [] => True
  | e :: es => Settled r.first names e ∧ SettledAll r.others names es

end

mutual

theorem eval_site {names : Names} : (e : Expr) → (r : Registry) → e.Settled r names →
    (site : Double.Site) → e.eval { r with site } names = e.eval r names
  | .literal _, _, _, _ => by
    rw [eval, eval]
  | .var _, _, _, _ => by
    rw [eval, eval]
  | .property object _, r, h, site => by
    rw [eval, eval, eval_site object r h site]
  | .index a b, r, h, site | .range a b, r, h, site | .compare _ a b, r, h, site
  | .and a b, r, h, site | .or a b, r, h, site => by
    rw [eval, eval, eval_site a r h.1 site, eval_site b r h.2 site]
  | .filter receiver name args, r, h, site => by
    obtain ⟨front, others, results⟩ := h
    rw [eval, eval]
    have here : receiver.eval (Registry.first { r with site }) names =
        receiver.eval r.first names :=
      eval_site receiver r.first front site.first
    have there : evalAll (Registry.others { r with site }) names args =
        evalAll r.others names args :=
      evalAll_site args r.others others site.others
    rw [here, there]
    cases received : receiver.eval r.first names with
    | error fault => rfl
    | ok v =>
      cases given : evalAll r.others names args with
      | error fault => rfl
      | ok vs =>
        exact Registry.invoke_site (fun f found => results f v vs found received given) site

theorem evalAll_site {names : Names} : (es : List Expr) → (r : Registry) →
    SettledAll r names es → (site : Double.Site) →
    evalAll { r with site } names es = evalAll r names es
  | [], _, _, _ => by
    rw [evalAll, evalAll]
  | e :: es, r, h, site => by
    have here : e.eval (Registry.first { r with site }) names = e.eval r.first names :=
      eval_site e r.first h.1 site.first
    have there : evalAll (Registry.others { r with site }) names es = evalAll r.others names es :=
      evalAll_site es r.others h.2 site.others
    rw [evalAll, evalAll, here, there]

end

/-- An expression in which no filter computes what is not a number has one
    value. -/
theorem steady_of_settled {e : Expr} {r : Registry} {names : Names} {v : Value}
    (settled : e.Settled r names) (h : e.eval r names = .ok v) : e.Steady r names v :=
  fun site => (e.eval_site r settled site).trans h

end Expr

/-! ## Section 3: Names after an assignment -/

namespace Scope

/-- Is a name bound in no frame that an assignment passes by? -/
def Clear : Scope → String → Prop
  | root _, _ => True
  | child f parent, x => f.isTransient = true → f.bindings.lookup x = none ∧ parent.Clear x

theorem get?_set_self (s : Scope) (x : String) (value : Native) :
    (s.set x value).get? x = some value := by
  cases s <;> simp [set, mapFrame, get?, Bindings.lookup_put_self]

theorem get?_set_of_ne (s : Scope) {x name : String} (h : name ≠ x) (value : Native) :
    (s.set x value).get? name = s.get? name := by
  cases s <;> simp [set, mapFrame, get?, Bindings.lookup_put_of_ne _ h]

theorem get?_assign_self {s : Scope} {x : String} (clear : s.Clear x) (value : Native) :
    (s.assign x value).get? x = some value := by
  induction s with
  | root f => exact get?_set_self _ x value
  | child f parent ih =>
    rw [assign]
    by_cases passed : f.isTransient = true
    · obtain ⟨free, outside⟩ := clear passed
      rw [if_pos passed, get?, free]
      exact ih outside
    · rw [if_neg passed]
      exact get?_set_self _ x value

theorem get?_assign_of_ne (s : Scope) {x name : String} (h : name ≠ x) (value : Native) :
    (s.assign x value).get? name = s.get? name := by
  induction s with
  | root f => exact get?_set_of_ne _ h value
  | child f parent ih =>
    rw [assign]
    by_cases passed : f.isTransient = true
    · rw [if_pos passed, get?, get?, ih]
    · rw [if_neg passed]
      exact get?_set_of_ne _ h value

theorem names_assign {s : Scope} {x : String} (clear : s.Clear x) (v : Value) :
    s.names.Assigned x v (s.assign x v.native).names where
  bound := by
    rw [names, get?_assign_self clear, Option.getD_some]
  others := fun name other => by
    rw [names, names, get?_assign_of_ne _ other]

end Scope

/-! ## Section 4: The assignment -/

/-- An assignment in a scope that does not hide the variable goes on, and
    afterwards every expression gives, wherever it stands, the result that
    it has given before with the assigned expression in the place of the
    variable. -/
theorem Node.assign_substitutes {engine : Engine} {run : Run} {x : String} {e : Expr} {v : Value}
    (clear : run.scope.Clear x) (steady : e.Steady engine.filters run.scope.names v)
    (place : Place) : ∃ after, (Node.assign x e place).render engine run = .ok .none after ∧
      ∀ (f : Expr) (site : Double.Site),
        f.eval { engine.filters with site } after.scope.names =
          (f.subst x e).eval { engine.filters with site } run.scope.names := by
  obtain ⟨told, logged, made⟩ := Render.evaluate_ends engine
    (fun filters names => e.eval filters names)
    (fun filters names => e.passedThrough filters names) run
  rw [show engine.filters.atMoment run.moment =
    { engine.filters with site := .outside run.moment } from rfl, steady] at made
  refine ⟨{ told with scope := told.scope.assign x v.native }, ?_, fun f site => ?_⟩
  · rw [Node.render]
    exact Render.bind_of_ok made
  · rw [logged.scope_eq]
    exact (Expr.eval_subst (Scope.names_assign clear v) f { engine.filters with site } steady).symm

/-- A run inside a loop over numbers. -/
def greetingRun : Run :=
  ⟨.child (.passing [("n", .int 1)]) (.ofBindings [("name", .text "Ada")]), #[], #[], 0⟩

/-- A name with a mark behind it. -/
def greeting : Expr :=
  .filter (.var "name") "append" [.literal (.text "!")]

theorem greeting_substituted : greetingRun.scope.Clear "x" ∧
    greeting.Steady (Filter.standard true) greetingRun.scope.names (.string "Ada!") ∧
    ∃ after, (Node.assign "x" greeting ⟨.int 1, .int 1, ""⟩).render (.standard .standard)
        greetingRun = .ok .none after ∧
      ∀ (f : Expr) (site : Double.Site),
        f.eval { Filter.standard true with site } after.scope.names =
          (f.subst "x" greeting).eval { Filter.standard true with site }
            greetingRun.scope.names := by
  have clear : greetingRun.scope.Clear "x" := fun _ => ⟨rfl, trivial⟩
  have settled : greeting.Settled (Filter.standard true) greetingRun.scope.names := by
    refine ⟨trivial, ⟨trivial, trivial⟩, fun f v vs found received given => ?_⟩
    cases found
    cases received
    cases given
    exact nofun
  have steady := Expr.steady_of_settled settled (v := .string "Ada!") rfl
  exact ⟨clear, steady, Node.assign_substitutes clear steady _⟩

/-! ## Section 5: What is not a number

    Each result that is not a number is another one.  A list that holds one
    of them is the same as a list that holds the same one, and neither
    before nor after a list that holds another one, so sorting tells one
    that is assigned once from ones that are computed three times. -/

/-- An engine with a filter that builds lists. -/
def listing : Engine :=
  { Engine.standard .standard with
    filters := (Filter.standard true).register "pair" Filter.Sample.pair }

/-- A name for an infinite number. -/
def infiniteRun : Run :=
  ⟨.ofBindings [("a", .float (.infinite false))], #[], #[], 0⟩

/-- The difference of an infinite number and itself. -/
def undefinedDifference : Expr :=
  .filter (.var "a") "minus" [.var "a"]

/-- Three lists that start with what an expression gives, sorted. -/
def sortedLists (x : Expr) : Expr :=
  let low := .filter x "pair" [.literal (.int 0), .literal (.int 0)]
  let high := .filter x "pair" [.literal (.int 1), .literal (.int 1)]
  .filter (.filter high "pair" [low, low]) "sort" []

/-- The text of a value. -/
def printed (x : Except Fault Value) : Except Fault String :=
  x >>= fun v => v.native.print.mapError .operand

/-- An expression that evaluates to a value may not be put in the place of
    the variable that it is assigned to, even as to the text that is left in
    the output. -/
theorem undefinedDifference_told_apart :
    ¬ ∀ (engine : Engine) (run : Run) (x : String) (e f : Expr) (v : Value) (place : Place),
      run.scope.Clear x →
      e.eval (engine.filters.atMoment run.moment) run.scope.names = .ok v →
      ∃ after, (Node.assign x e place).render engine run = .ok .none after ∧
        ∀ site : Double.Site,
          printed (f.eval { engine.filters with site } after.scope.names) =
            printed ((f.subst x e).eval { engine.filters with site } run.scope.names) := by
  intro always
  obtain ⟨after, rendered, same⟩ := always listing infiniteRun "x" undefinedDifference
    (sortedLists (.var "x")) (.number (.float (.nan (.computed ⟨0, 1⟩)))) ⟨.int 1, .int 1, ""⟩
    trivial rfl
  have assigned : (Node.assign "x" undefinedDifference ⟨.int 1, .int 1, ""⟩).render listing
      infiniteRun = .ok .none { infiniteRun with
        scope := infiniteRun.scope.assign "x" (.float (.nan (.computed ⟨0, 1⟩))) } := rfl
  obtain rfl : _ = after := (EStateM.Result.ok.inj (assigned.symm.trans rendered)).2
  -- assigned, the difference is one value; put in its place, it is made three times
  have once : (printed ((sortedLists (.var "x")).eval listing.filters
      (infiniteRun.scope.assign "x" (.float (.nan (.computed ⟨0, 1⟩)))).names)).toOption =
        some "nan00nan00nan11" := by decide +kernel
  have thrice : (printed ((sortedLists undefinedDifference).eval listing.filters
      infiniteRun.scope.names)).toOption = some "nan11nan00nan00" := by decide +kernel
  have texts : some "nan00nan00nan11" = some "nan11nan00nan00" :=
    once.symm.trans ((congrArg Except.toOption (same listing.filters.site)).trans thrice)
  exact absurd texts (by decide)

end Stencil
