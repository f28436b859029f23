import Stencil.Proofs.Filter.Standard

/-! # What applying a standard filter fails with

    A standard filter fails with an evaluation error, whatever its operands
    are, and a strict registry fails for the filters that it does not hold.
    One more fault passes through.  The result of a filter is wrapped when
    the filter has ended already, and a position in a table without columns
    cannot be wrapped.  Only the filters that pick an item from an end of a
    list come to such a position, so it is known when this happens. -/

namespace Stencil

/-! ## Section 1: Positions in loops -/

namespace Native

/-- Is the datum, as a whole, anything but a position in a loop? -/
def NoPosition (n : Native) : Prop :=
  ∀ p, n ≠ .loop p

theorem noPosition_native (v : Value) : v.native.NoPosition := by
  rintro p same
  cases v with
  | number m => cases m <;> cases same
  | _ => cases same

theorem locate_eq_loop {site : Double.Site} {n : Native} {p : LoopPosition} :
    n.locate site = .loop p ↔ n = .loop p := by
  unfold locate
  split
  · exact iff_of_false nofun nofun
  · exact Iff.rfl

/-- Data that cannot be wrapped are foreign, or a position in a table without
    columns. -/
theorem wrap_eq_error {n : Native} {fault : Fault} (failed : n.wrap = .error fault) :
    (∃ cause, fault = .evaluation cause) ∨
      (fault = .operand .remainderByZero ∧ ∃ p, n = .loop p ∧ p.cols = some 0) := by
  cases n with
  | date d =>
    cases failed
    exact .inl ⟨_, rfl⟩
  | loop p =>
    -- a position becomes a mapping, with a field that divides by the number of columns
    have entries : (p.entries.map Value.mapping).mapError Fault.operand = .error fault := failed
    unfold LoopPosition.entries at entries
    split at entries
    · cases entries
    next cols given =>
      by_cases bare : cols = 0
      · subst bare
        cases entries
        exact .inr ⟨rfl, p, rfl, given⟩
      · rw [if_neg bare] at entries
        cases entries
  | _ => cases failed

theorem wrap_bare {p : LoopPosition} (bare : p.cols = some 0) :
    (Native.loop p).wrap = .error (.operand .remainderByZero) := by
  show (p.entries.map Value.mapping).mapError Fault.operand = _
  unfold LoopPosition.entries
  rw [bare]
  rfl

end Native

/-! ## Section 2: Filters that give no position -/

namespace Filter

/-- Is the outcome, if there is one, no position in a loop? -/
def Positionless (x : Except OperandFault Native) : Prop :=
  Meets Native.NoPosition (fun _ => True) x

theorem positionless_bind {α : Type} (x : Except OperandFault α)
    {f : α → Except OperandFault Native} (h : ∀ a, Positionless (f a)) :
    Positionless (x >>= f) :=
  Meets.bind (meets_true x) fun a _ => h a

theorem positionless_native (v : Value) : Positionless (.ok v.native) :=
  .ok (Native.noPosition_native v)

theorem positionless_ofChars (cs : List Char) : Positionless (.ok (ofChars cs)) :=
  positionless_native (.string (String.ofList cs))

theorem positionless_list (ns : List Native) : Positionless (.ok (.list ns)) :=
  positionless_native (.sequence ns)

/-- A text computed from the printed text of a datum. -/
theorem onChars_positionless (f : List Char → List Char) (n : Native) :
    Positionless (do return ofChars (f (← chars n))) :=
  positionless_bind _ fun _ => positionless_ofChars _

theorem split_positionless (n sep : Native) : Positionless (split n sep) := by
  refine positionless_bind _ fun cs => ?_
  split
  · exact positionless_list []
  · refine positionless_bind _ fun separator => ?_
    split
    · exact .error trivial
    · exact positionless_list _

theorem size_positionless (n : Native) : Positionless (size n) := by
  unfold size
  split
  · exact positionless_native (.number (.int 0))
  · split
    next counted _ =>
      exact (meets_true _).map fun k _ => Native.noPosition_native (.number (.int k))
    next => exact positionless_native (.number (.int 0))

theorem default_positionless {n fallback : Native} (h : n.NoPosition)
    (hf : fallback.NoPosition) : Positionless (default n fallback) := by
  unfold default
  split
  · exact .ok hf
  · exact .ok hf
  · split
    next counted _ =>
      refine (meets_true counted).map fun k _ => ?_
      split
      · exact hf
      · exact h
    next => exact .ok h

theorem arithmetic_positionless (onInts : Int → Int → Int)
    (onDoubles : Double → Double → Double) (a b : Native) :
    Positionless (arithmetic onInts onDoubles a b) := by
  refine positionless_bind _ fun m => positionless_bind _ fun n => ?_
  split
  · exact positionless_native (.number (.int _))
  · refine positionless_bind _ fun x => positionless_bind _ fun y => ?_
    exact positionless_native (.number (.float _))

/-- All but the filters that pick an item give no position in a loop when
    they are given none. -/
theorem definitions_positionless : ∀ d ∈ definitions,
    (d.1 = "first" ∧ d.2.2 = .unary first) ∨ (d.1 = "last" ∧ d.2.2 = .unary last) ∨
      (d.1 ≠ "first" ∧ d.1 ≠ "last" ∧ d.2.2.Maps Native.NoPosition Positionless) := by
  intro d hd
  simp only [definitions, List.mem_cons, List.not_mem_nil, or_false] at hd
  obtain rfl | rfl | rfl | rfl | rfl | rfl | rfl | rfl | rfl | rfl | rfl | rfl | rfl | rfl |
    rfl | rfl | rfl | rfl := hd
  case inr.inr.inr.inr.inr.inr.inr.inr.inr.inl => exact .inl ⟨rfl, rfl⟩
  case inr.inr.inr.inr.inr.inr.inr.inr.inr.inr.inl => exact .inr (.inl ⟨rfl, rfl⟩)
  -- what is left makes a text, a number or a list, or hands on an operand
  all_goals refine .inr (.inr ⟨by decide, by decide, ?_⟩)
  · exact fun x _ => onChars_positionless _ x
  · exact fun x _ => onChars_positionless _ x
  · exact fun x _ => onChars_positionless _ x
  · exact fun x _ => onChars_positionless _ x
  · exact fun x a _ _ => positionless_bind _ fun _ => onChars_positionless _ a
  · exact fun x a _ _ => positionless_bind _ fun _ => onChars_positionless _ x
  · intro x a b _ _ _
    refine positionless_bind _ fun _ => positionless_bind _ fun _ => ?_
    exact onChars_positionless _ b
  · exact fun x a _ _ => split_positionless x a
  · exact fun x _ => size_positionless x
  · refine ⟨Native.noPosition_native (.string _), fun x a _ _ => ?_⟩
    refine positionless_bind _ fun _ => positionless_bind _ fun _ => ?_
    exact positionless_bind _ fun _ => positionless_ofChars _
  · exact fun x _ => positionless_bind _ fun _ => positionless_list _
  · exact fun x _ => positionless_bind _ fun _ => positionless_bind _ fun _ => positionless_list _
  · exact fun x a hx ha => default_positionless hx ha
  · exact fun x a _ _ => arithmetic_positionless _ _ x a
  · exact fun x a _ _ => arithmetic_positionless _ _ x a
  · exact fun x a _ _ => arithmetic_positionless _ _ x a

/-! ## Section 3: Filters that pick an item -/

/-- The items of a value hold a position in a loop only if the value is a
    sequence.  Those of any other value are texts, lists and integers. -/
theorem eq_sequence_of_items {v : Value} {ns : List Native} {p : LoopPosition}
    (found : items v.native = .ok ns) (held : .loop p ∈ ns) : v = .sequence ns := by
  cases v with
  | sequence ms =>
    cases found
    rfl
  | nil =>
    cases found
    cases held
  | string s =>
    cases found
    cases List.mem_singleton.1 held
  | mapping entries =>
    cases found
    obtain ⟨e, -, same⟩ := List.mem_map.1 held
    cases same
  | bytes bs =>
    cases found
    obtain ⟨n, -, same⟩ := List.mem_map.1 held
    cases same
  | range r =>
    unfold items at found
    simp only [Value.native] at found
    split at found
    · cases found
      obtain ⟨n, -, same⟩ := List.mem_map.1 held
      cases same
    · cases found
  | boolean b => cases found
  | number n => cases n <;> cases found

/-- An item picked from those of a value is a position in a loop only if the
    value is a sequence that holds it. -/
theorem pick_eq_loop {pick : List Native → Option Native}
    (among : ∀ ns m, pick ns = some m → m ∈ ns) (v : Value) (p : LoopPosition) :
    (do return (pick (← items v.native)).getD .nil) = Except.ok (ε := OperandFault) (.loop p) ↔
      ∃ ns, v = .sequence ns ∧ pick ns = some (.loop p) := by
  constructor
  · intro picked
    obtain ⟨ns, found, member⟩ := eq_ok_of_bind_pure picked
    cases some_item : pick ns with
    | none =>
      rw [some_item] at member
      cases member
    | some m =>
      rw [some_item, Option.getD_some] at member
      subst member
      exact ⟨ns, eq_sequence_of_items found (among ns _ some_item), some_item⟩
  · rintro ⟨ns, rfl, member⟩
    show Except.ok ((pick ns).getD .nil) = _
    rw [member]
    rfl

/-- Is a filter given nothing but a list, and picks from an end of it a
    position in a table without columns? -/
def PicksBare (name : String) (receiver : Value) (args : List Value) : Prop :=
  args = [] ∧ ∃ ns p, receiver = .sequence ns ∧ p.cols = some 0 ∧
    ((name = "first" ∧ ns.head? = some (.loop p)) ∨
      (name = "last" ∧ ns.getLast? = some (.loop p)))

theorem PicksBare.exists_find? {name : String} {receiver : Value} {args : List Value}
    (h : PicksBare name receiver args) (strict : Bool) :
    ∃ f, (standard strict).find? name = some f := by
  obtain ⟨-, ns, p, -, -, ⟨rfl, -⟩ | ⟨rfl, -⟩⟩ := h
  · exact ⟨_, rfl⟩
  · exact ⟨_, rfl⟩

theorem Signature.filter_eq_ok (s : Signature) {operation : Operation} {x n : Native}
    {args : List Native} :
    s.filter operation x args = .ok n ↔ operation.apply? x args = some (.ok n) := by
  unfold Signature.filter
  split
  next result found =>
    rw [found]
    cases result with
    | error cause => exact iff_of_false nofun nofun
    | ok m => exact ⟨fun same => by cases same; rfl, fun same => by cases same; rfl⟩
  next found =>
    rw [found]
    exact iff_of_false nofun nofun

/-- A filter that picks an item has no argument, and gives a position in a
    table without columns only if it is the one that it picks. -/
theorem exists_pick_bare {pick : List Native → Option Native}
    (among : ∀ ns m, pick ns = some m → m ∈ ns) (v : Value) (args : List Value) :
    (∃ p, Operation.apply? (.unary fun x => do return (pick (← items x)).getD .nil) v.native
        (args.map Value.native) = some (.ok (.loop p)) ∧ p.cols = some 0) ↔
      args = [] ∧ ∃ ns p, v = .sequence ns ∧ p.cols = some 0 ∧ pick ns = some (.loop p) := by
  cases args with
  | nil =>
    constructor
    · rintro ⟨p, applied, bare⟩
      obtain ⟨ns, given, member⟩ := (pick_eq_loop among v p).1 (Option.some.inj applied)
      exact ⟨rfl, ns, p, given, bare, member⟩
    · rintro ⟨-, ns, p, given, bare, member⟩
      exact ⟨p, congrArg some ((pick_eq_loop among v p).2 ⟨ns, given, member⟩), bare⟩
  | cons a args =>
    refine iff_of_false ?_ nofun
    rintro ⟨p, ⟨⟩, -⟩

/-- Among the standard filters, only those that pick an item give a position
    in a loop. -/
theorem standard_gives_bare (strict : Bool) {name : String} {f : Filter}
    (found : (standard strict).find? name = some f) (receiver : Value) (args : List Value) :
    (∃ p, f receiver.native (args.map Value.native) = .ok (.loop p) ∧ p.cols = some 0) ↔
      PicksBare name receiver args := by
  obtain ⟨d, hd, rfl, rfl⟩ := exists_definition found
  simp only [Signature.filter_eq_ok]
  obtain ⟨named, operation⟩ | ⟨named, operation⟩ | ⟨notFirst, notLast, maps⟩ :=
    definitions_positionless d hd
  · rw [operation]
    refine (exists_pick_bare (fun _ _ => List.mem_of_mem_head?) receiver args).trans ?_
    simp [PicksBare, named]
  · rw [operation]
    refine (exists_pick_bare (fun _ _ => List.mem_of_getLast?) receiver args).trans ?_
    simp [PicksBare, named]
  · have operands : ∀ a ∈ args.map Value.native, a.NoPosition := by
      intro a ha
      obtain ⟨v, -, rfl⟩ := List.mem_map.1 ha
      exact Native.noPosition_native v
    refine iff_of_false ?_ ?_
    · rintro ⟨p, applied, -⟩
      have positionless := maps.outcome (Native.noPosition_native receiver) operands applied
      exact positionless.of_ok rfl p rfl
    · rintro ⟨-, ns, p, -, -, ⟨isFirst, -⟩ | ⟨isLast, -⟩⟩
      · exact notFirst isFirst
      · exact notLast isLast

end Filter

/-! ## Section 4: Applying a filter -/

namespace Registry

/-- The standard filters, applied at a site. -/
def standardAt (strict : Bool) (site : Double.Site) : Registry :=
  { Filter.standard strict with site }

/-- What can be written of an operand is said in an evaluation error. -/
theorem conclude_shown {cause : OperandFault} (shown : cause.IsShown) (name : String)
    (site : Double.Site) :
    conclude name site (.error (.operand cause)) =
      .error (.evaluation (.filterFailed name cause)) := by
  cases cause with
  | missingKey key =>
    cases key with
    | some k => rfl
    | none => exact absurd rfl shown
  | _ => rfl

/-- What a filter of operands concludes with is an evaluation error, unless
    its result cannot be wrapped. -/
theorem conclude_eq_error {name : String} {site : Double.Site} {x : Except Fault Native}
    (shown : Meets (fun _ => True)
      (fun fault => ∃ cause : OperandFault, fault = .operand cause ∧ cause.IsShown) x)
    {fault : Fault} (failed : conclude name site x = .error fault) :
    (∃ cause, fault = .evaluation cause) ∨
      (fault = .operand .remainderByZero ∧ ∃ p, x = .ok (.loop p) ∧ p.cols = some 0) := by
  cases shown with
  | @ok n _ =>
    obtain evaluation | ⟨rfl, p, located, bare⟩ := Native.wrap_eq_error failed
    · exact .inl evaluation
    · exact .inr ⟨rfl, p, congrArg Except.ok (Native.locate_eq_loop.1 located), bare⟩
  | @error e h =>
    obtain ⟨cause, rfl, visible⟩ := h
    rw [conclude_shown visible] at failed
    cases failed
    exact .inl ⟨_, rfl⟩

section

variable (strict : Bool) (site : Double.Site) {name : String} {receiver : Value}
  {args : List Value}

theorem invoke_of_missing
    (missing : (standardAt strict site).contains name = false) :
    (standardAt strict site).invoke name receiver args =
      if strict then .error (.undefinedFilter name) else .ok receiver := by
  have found : (standardAt strict site).find? name = none := by
    rw [← Option.isNone_iff_eq_none, ← Option.not_isSome, ← contains, missing]
    rfl
  rw [invoke, found]
  rfl

theorem invoke_of_picksBare (picks : Filter.PicksBare name receiver args) :
    (standardAt strict site).invoke name receiver args =
      .error (.operand .remainderByZero) := by
  obtain ⟨f, found⟩ := picks.exists_find? strict
  obtain ⟨p, given, bare⟩ := (Filter.standard_gives_bare strict found receiver args).2 picks
  have held : (standardAt strict site).find? name = some f := found
  rw [invoke, held]
  show conclude name site (f receiver.native (args.map Value.native)) = _
  rw [given]
  exact Native.wrap_bare bare

/-- Whatever a standard registry fails with has one of three causes. -/
theorem invoke_eq_error {fault : Fault}
    (failed : (standardAt strict site).invoke name receiver args =
      .error fault) :
    (∃ cause, fault = .evaluation cause) ∨
      (fault = .undefinedFilter name ∧
        (standardAt strict site).contains name = false ∧ strict = true) ∨
      (fault = .operand .remainderByZero ∧ Filter.PicksBare name receiver args) := by
  cases found : (standardAt strict site).find? name with
  | none =>
    have missing : (standardAt strict site).contains name = false := by
      rw [contains, found]
      rfl
    rw [invoke_of_missing strict site missing] at failed
    cases strict with
    | true =>
      cases failed
      exact .inr (.inl ⟨rfl, missing, rfl⟩)
    | false => cases failed
  | some f =>
    rw [invoke, found] at failed
    -- a standard filter raises nothing on its own
    have shown := (Filter.standard_yields strict name f found receiver.native
      (args.map Value.native) False.elim False.elim).mono (fun _ _ => trivial)
      fun _ h => h.resolve_right id
    obtain evaluation | ⟨remainder, bare⟩ := conclude_eq_error shown failed
    · exact .inl evaluation
    · have picks := (Filter.standard_gives_bare strict found receiver args).1 bare
      exact .inr (.inr ⟨remainder, picks⟩)

end

/-- A standard registry fails over an undefined filter exactly when it is
    strict and does not hold the filter; when it is not strict, it gives the
    receiver instead.  Filters that it holds fail with evaluation errors
    only, except when they pick a position in a table without columns. -/
theorem invoke_standard (strict : Bool) (site : Double.Site) (name : String) (receiver : Value)
    (args : List Value) :
    (∀ n, (standardAt strict site).invoke name receiver args = .error (.undefinedFilter n) ↔
      n = name ∧ (standardAt strict site).contains name = false ∧ strict = true) ∧
    ((standardAt strict site).contains name = false → strict = false →
      (standardAt strict site).invoke name receiver args = .ok receiver) ∧
    ((standardAt strict site).invoke name receiver args = .error (.operand .remainderByZero) ↔
      Filter.PicksBare name receiver args) ∧
    ∀ fault, (standardAt strict site).invoke name receiver args = .error fault →
      (∃ cause, fault = .evaluation cause) ∨ (∃ n, fault = .undefinedFilter n) ∨
        fault = .operand .remainderByZero := by
  refine ⟨?_, ?_, ?_, ?_⟩
  · intro n
    constructor
    · intro failed
      obtain ⟨cause, ⟨⟩⟩ | ⟨⟨⟩, missing, isStrict⟩ | ⟨⟨⟩, -⟩ := invoke_eq_error strict site failed
      exact ⟨rfl, missing, isStrict⟩
    · rintro ⟨rfl, missing, isStrict⟩
      exact (invoke_of_missing strict site missing).trans (if_pos isStrict)
  · rintro missing rfl
    exact invoke_of_missing false site missing
  · constructor
    · intro failed
      obtain ⟨cause, ⟨⟩⟩ | ⟨⟨⟩, -⟩ | ⟨-, picks⟩ := invoke_eq_error strict site failed
      exact picks
    · exact invoke_of_picksBare strict site
  · intro fault failed
    obtain evaluation | ⟨undefined, -⟩ | ⟨remainder, -⟩ := invoke_eq_error strict site failed
    · exact .inl evaluation
    · exact .inr (.inl ⟨name, undefined⟩)
    · exact .inr (.inr remainder)

/-- A list that holds a position in a table without columns. -/
def bareList : Value :=
  .sequence [.loop ⟨0, 1, some 0⟩]

theorem invoke_bareList :
    (Filter.standard true).invoke "nope" bareList [] = .error (.undefinedFilter "nope") ∧
    (Filter.standard false).contains "nope" = false ∧
    (Filter.standard false).invoke "nope" bareList [] = .ok bareList ∧
    (Filter.standard true).invoke "last" bareList [] = .error (.operand .remainderByZero) ∧
    ∃ cause, (Filter.standard true).invoke "first" bareList [.nil] =
      .error (.evaluation cause) := by
  have missing : (Filter.standard false).contains "nope" = false := rfl
  have picks : Filter.PicksBare "last" bareList [] :=
    ⟨rfl, _, ⟨0, 1, some 0⟩, rfl, rfl, .inr ⟨rfl, rfl⟩⟩
  refine ⟨?_, missing, ?_, ?_, ?_⟩
  · exact ((invoke_standard true (.outside 0) "nope" bareList []).1 "nope").2 ⟨rfl, rfl, rfl⟩
  · exact (invoke_standard false (.outside 0) "nope" bareList []).2.1 missing rfl
  · exact (invoke_standard true (.outside 0) "last" bareList []).2.2.1.2 picks
  · have failed : (Filter.standard true).invoke "first" bareList [.nil] =
        .error (.evaluation (.filterFailed "first"
          (.excessArguments "StandardFilters._first" 2 2 3))) := rfl
    obtain ⟨cause, same⟩ | ⟨n, ⟨⟩⟩ | ⟨⟨⟩⟩ :=
      (invoke_standard true (.outside 0) "first" bareList [.nil]).2.2.2 _ failed
    exact ⟨cause, failed.trans (congrArg Except.error same)⟩

/-- So what a standard filter fails with is not always an evaluation
    error. -/
theorem bareList_escapes :
    ¬ ∀ (strict : Bool) (name : String) (receiver : Value) (args : List Value) (fault : Fault),
      (Filter.standard strict).invoke name receiver args = .error fault →
        (∃ cause, fault = .evaluation cause) ∨ ∃ n, fault = .undefinedFilter n := by
  intro always
  have failed : (Filter.standard true).invoke "first" bareList [] =
      .error (.operand .remainderByZero) := rfl
  obtain ⟨cause, ⟨⟩⟩ | ⟨n, ⟨⟩⟩ := always true "first" bareList [] _ failed

end Registry

end Stencil
