import Stencil.Proofs.Grammar.Tree

/-! # First sets

    What the table of first sets knows of a symbol holds of the tokens of
    every tree with that symbol at its root: they are none only if the
    symbol is nullable, and otherwise they start with one of its first
    terminals.  The table is stable, so one induction over trees gives
    both. -/

namespace Stencil.Grammar

/-! ## Section 1: Sets of terminals -/

namespace TerminalSet

@[simp] theorem mem_union {a b : TerminalSet} {t : Terminal} :
    (a.union b).mem t = (a.mem t || b.mem t) := by
  simp [mem, union, Nat.testBit_or]

@[simp] theorem mem_empty {t : Terminal} : empty.mem t = false := by
  simp [mem, empty]

@[simp] theorem mem_single_self {t : Terminal} : (single t).mem t = true := by
  simp [mem, single, Nat.testBit_shiftLeft]

/-- Is every terminal of the first set in the second? -/
def within (a b : TerminalSet) : Bool :=
  Nat.beq (a.bits ||| b.bits) b.bits

theorem mem_of_within {a b : TerminalSet} (h : a.within b) {t : Terminal} (ht : a.mem t) :
    b.mem t := by
  have union : a.bits ||| b.bits = b.bits := Nat.eq_of_beq_eq_true h
  rw [mem, ← union, Nat.testBit_or]
  simp only [mem] at ht
  simp [ht]

end TerminalSet

/-! ## Section 2: Productions in lists -/

theorem mem_productionsOf (p : Production) : p ∈ productionsOf p.lhs := by
  cases p with
  | compare r => cases r <;> decide
  | _ => decide

theorem mem_productions (p : Production) : p ∈ productions := by
  refine List.mem_flatMap.2 ⟨p.lhs, ?_, mem_productionsOf p⟩
  cases p.lhs <;> decide

theorem lhs_of_mem_productionsOf {p : Production} {n : Nonterminal} (h : p ∈ productionsOf n) :
    p.lhs = n := by
  have all : ∀ n ∈ nonterminals, ∀ p ∈ productionsOf n, p.lhs = n := by decide
  exact all n (by cases n <;> decide) p h

/-! ## Section 3: Knowledge about words -/

namespace Firsts

/-- Does the knowledge hold of these tokens? -/
def Describes (k : Firsts) : List Token → Prop
  | [] => k.nullable
  | t :: _ => k.first.mem t.terminal

/-- Does all that the first knowledge allows hold of the second? -/
def within (a b : Firsts) : Bool :=
  (!a.nullable || b.nullable) && a.first.within b.first

theorem Describes.mono {a b : Firsts} {ts : List Token} (h : a.Describes ts) (hab : a.within b) :
    b.Describes ts := by
  simp only [within, Bool.and_eq_true, Bool.or_eq_true, Bool.not_eq_true'] at hab
  cases ts with
  | nil =>
    have nullable : a.nullable = true := h
    show b.nullable = true
    simpa [nullable] using hab.1
  | cons t ts => exact TerminalSet.mem_of_within hab.2 h

theorem Describes.andThen {a b : Firsts} {ts us : List Token} (h : a.Describes ts)
    (k : b.Describes us) : (a.andThen b).Describes (ts ++ us) := by
  cases ts with
  | nil =>
    have nullable : a.nullable = true := h
    cases us <;> simp_all [Describes, Firsts.andThen]
  | cons t ts =>
    have first : a.first.mem t.terminal = true := h
    by_cases nullable : a.nullable <;> simp [Describes, Firsts.andThen, nullable, first]

/-- What stands behind tokens that are known, when it is known what follows
    all of them. -/
theorem Describes.mem_next {k : Firsts} {ts tail : List Token} {set : TerminalSet}
    (h : k.Describes ts) (ht : set.mem (nextTerminal tail)) :
    (k.andThen ⟨false, set⟩).first.mem (nextTerminal (ts ++ tail)) := by
  cases ts with
  | nil =>
    have nullable : k.nullable = true := h
    simp [Firsts.andThen, nullable, ht]
  | cons t ts =>
    have first : k.first.mem t.terminal = true := h
    by_cases nullable : k.nullable <;>
      simp [Firsts.andThen, nullable, nextTerminal, first]

end Firsts

/-! ## Section 4: The table holds of trees -/

/-- The table has learned what every production shows. -/
theorem firsts_closed :
    ∀ p ∈ productions, (firsts.ofSymbols p.rhs).within (firsts.get p.lhs) = true := by
  decide +kernel

mutual

theorem Tree.describes {s : Symbol} :
    (t : Tree s) → (ss : List Symbol) → (us : List Token) → (firsts.ofSymbols ss).Describes us →
      (firsts.ofSymbols (s :: ss)).Describes (t.yield ++ us)
  | .leaf t, _, _, _ => by simp [FirstTable.ofSymbols, Tree.yield, Firsts.Describes]
  | .node p children, ss, us, h => by
    have known := (children.describes).mono (firsts_closed p (mem_productions p))
    exact known.andThen h

/-- The first table describes the tokens of every forest. -/
theorem Forest.describes {ss : List Symbol} :
    (f : Forest ss) → (firsts.ofSymbols ss).Describes f.yield
  | .nil => by simp [FirstTable.ofSymbols, Forest.yield, Firsts.Describes, Firsts.nothing]
  | .cons head tail => head.describes _ _ tail.describes

end

end Stencil.Grammar
