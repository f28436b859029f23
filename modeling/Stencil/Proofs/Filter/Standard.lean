import Stencil.Filter.Standard
import Stencil.Proofs.Sorting.Permutation
import Stencil.Proofs.Value.Access

/-! # What the standard filters give and fail with

    A standard filter gives sound data from sound operands, and what it
    fails with is a fault of its operands that has a message.  So applying
    it fails with an evaluation error only, unless what a filter of a host
    raises on its own account passes through. -/

namespace Stencil

variable {sound : Prop}

/-! ## Section 1: Operations -/

/-- Is there a message for the fault? -/
def OperandFault.IsShown (cause : OperandFault) : Prop :=
  cause ≠ .missingKey none

theorem OperandFault.IsUnguarded.isShown {cause : OperandFault} (h : cause.IsUnguarded) :
    cause.IsShown := by
  rintro rfl
  exact h

namespace Filter

/-- Does an outcome keep what the operations on operands promise? -/
def Tame (sound : Prop) (x : Except OperandFault Native) : Prop :=
  Meets (fun n : Native => sound → n.Sound) OperandFault.IsShown x

theorem chars_meets (n : Native) : Meets (fun _ => True) OperandFault.IsShown (chars n) :=
  Meets.map ((Native.printAs_meets false n).mono (fun _ _ => trivial) fun _ he => he.isShown)
    fun _ _ => trivial

theorem items_meets {n : Native} (h : sound → n.Sound) :
    Meets (fun ns => sound → ∀ m ∈ ns, m.Sound) OperandFault.IsShown (items n) := by
  unfold items
  split
  · exact .ok fun _ => nofun
  · refine .ok fun _ m hm => ?_
    rw [List.mem_singleton.1 hm]
    exact trivial
  · exact .ok fun holds => Native.sound_list.1 (h holds)
  · exact .ok fun _ => Native.soundItems_iff.1 (Native.soundItems_ints _)
  next entries =>
    refine .ok fun holds m hm => ?_
    obtain ⟨e, he, rfl⟩ := List.mem_map.1 hm
    have both := Native.sound_dict.1 (h holds) e he
    exact Native.sound_list.2 (by simpa using both)
  next r =>
    split
    · exact .ok fun _ => Native.soundItems_iff.1 (Native.soundItems_ints _)
    · exact .error nofun
  · exact .error nofun

/-- What is read of a text is a number, or has a message why it is none. -/
theorem numeral_meets {α : Type} (f : α → Number) (x : Except Numeral.Fault α) :
    Meets (fun _ => True) OperandFault.IsShown ((x.map f).mapError .numeral) := by
  cases x with
  | ok a => exact .ok trivial
  | error cause => exact .error nofun

theorem number_meets (n : Native) : Meets (fun _ => True) OperandFault.IsShown (number n) := by
  cases n with
  | text s =>
    rw [number]
    generalize Text.trimString s = body
    by_cases pointed : '.' ∈ body.toList
    · simp only [pointed, if_true]
      exact numeral_meets Number.float _
    · simp only [pointed, if_false]
      exact numeral_meets Number.int _
  | int n => exact .ok trivial
  | float d => exact .ok trivial
  | nil => exact .ok trivial
  | _ => exact .error nofun

theorem inRange_meets (d : Double) :
    Meets (fun _ => True) OperandFault.IsShown (inRange d) := by
  cases d with
  | infinite s => exact .error nofun
  | finite s units => exact .ok trivial
  | nan origin => exact .ok trivial

theorem toDouble_meets (n : Number) : Meets (fun _ => True) OperandFault.IsShown (toDouble n) := by
  cases n with
  | float d => exact .ok trivial
  | int n =>
    rw [toDouble]
    exact inRange_meets _

/-- Only data without an order between them cannot be compared. -/
theorem before_meets (a b : Native) :
    Meets (fun _ => True) OperandFault.IsShown (a.before b) := by
  let Shown : Except OperandFault Bool → Prop := Meets (fun _ => True) OperandFault.IsShown
  refine (Native.before.mutual_induct_unfolding (fun _ _ => Shown) (fun _ _ => Shown)
    ?texts ?dates ?lists ?bytes ?numbers ?unordered ?same ?differ ?shorter ?ended).1 a b
  case texts | dates | bytes => exact fun _ _ => .ok trivial
  case lists => exact fun _ _ items => items
  case numbers => exact fun _ _ _ _ _ _ _ _ _ _ => .ok trivial
  case unordered => exact fun _ _ _ _ _ _ _ => .error nofun
  case same => exact fun _ _ _ _ _ rest => rest
  case differ => exact fun _ _ _ _ _ front => front
  case shorter => exact fun _ _ => .ok trivial
  case ended => exact fun _ => .ok trivial

theorem length?_meets {n : Native} {x : Except OperandFault Nat} (h : length? n = some x) :
    Meets (fun _ => True) OperandFault.IsShown x := by
  unfold length? at h
  split at h
  · cases h; exact .ok trivial
  · cases h; exact .ok trivial
  · cases h; exact .ok trivial
  · cases h; exact .ok trivial
  · cases h
    split
    · exact .ok trivial
    · exact .error nofun
  · cases h

/-! ## Section 3: The filters -/

theorem sound_ofChars (cs : List Char) : (ofChars cs).Sound := trivial

/-- A text computed from the printed text of a datum. -/
theorem onChars_tame (f : List Char → List Char) (n : Native) :
    Tame sound (do return ofChars (f (← chars n))) :=
  Meets.bind (chars_meets n) fun _ _ => .ok fun _ => sound_ofChars _

theorem append_tame (n suffix : Native) : Tame sound (append n suffix) :=
  Meets.bind (chars_meets n) fun _ _ => Meets.bind (chars_meets suffix) fun _ _ =>
    .ok fun _ => sound_ofChars _

theorem prepend_tame (n front : Native) : Tame sound (prepend n front) :=
  Meets.bind (chars_meets front) fun _ _ => Meets.bind (chars_meets n) fun _ _ =>
    .ok fun _ => sound_ofChars _

theorem replace_tame (n old new : Native) : Tame sound (replace n old new) :=
  Meets.bind (chars_meets n) fun _ _ => Meets.bind (chars_meets old) fun _ _ =>
    Meets.bind (chars_meets new) fun _ _ => .ok fun _ => sound_ofChars _

theorem split_tame (n sep : Native) : Tame sound (split n sep) := by
  refine Meets.bind (chars_meets n) fun cs _ => ?_
  cases cs with
  | nil => exact .ok fun _ => trivial
  | cons c cs =>
    refine Meets.bind (chars_meets sep) fun separator _ => ?_
    cases separator with
    | nil => exact .error nofun
    | cons d ds =>
      refine .ok fun _ => Native.sound_list.2 fun m hm => ?_
      obtain ⟨piece, -, rfl⟩ := List.mem_map.1 hm
      exact sound_ofChars piece

theorem size_tame (n : Native) : Tame sound (size n) := by
  unfold size
  split
  · exact .ok fun _ => trivial
  · split
    next h =>
      refine Meets.map (?_ : Meets (fun _ => True) _ _) fun _ _ _ => trivial
      exact Meets.bind (length?_meets h) fun _ _ => .ok trivial
    next => exact .ok fun _ => trivial

theorem first_tame {n : Native} (h : sound → n.Sound) : Tame sound (first n) := by
  refine Meets.bind (items_meets h) fun ns hns => .ok fun holds => ?_
  cases ns with
  | nil => exact trivial
  | cons m ns => exact hns holds m List.mem_cons_self

theorem last_tame {n : Native} (h : sound → n.Sound) : Tame sound (last n) := by
  refine Meets.bind (items_meets h) fun ns hns => .ok fun holds => ?_
  cases found : ns.getLast? with
  | none => exact trivial
  | some m => exact hns holds m (List.mem_of_getLast? found)

theorem mapM_chars_meets (ns : List Native) :
    Meets (fun _ => True) OperandFault.IsShown (ns.mapM chars) := by
  induction ns with
  | nil => exact .ok trivial
  | cons n ns ih =>
    rw [List.mapM_cons]
    exact Meets.bind (chars_meets n) fun _ _ => Meets.bind ih fun _ _ => .ok trivial

theorem join_tame {n : Native} (h : sound → n.Sound) (sep : Native) :
    Tame sound (join n sep) :=
  Meets.bind (chars_meets sep) fun _ _ => Meets.bind (items_meets h) fun ns _ =>
    Meets.bind (mapM_chars_meets ns) fun _ _ => .ok fun _ => sound_ofChars _

theorem reverse_tame {n : Native} (h : sound → n.Sound) : Tame sound (reverse n) := by
  refine Meets.bind (items_meets h) fun ns hns => .ok fun holds => ?_
  rw [Native.sound_list]
  intro m hm
  exact hns holds m (List.mem_reverse.1 hm)

theorem sort_tame {n : Native} (h : sound → n.Sound) : Tame sound (sort n) := by
  refine Meets.bind (items_meets h) fun ns hns => ?_
  refine Meets.bind (Sorting.sort_meets before_meets ns) fun out sorted => ?_
  refine .ok fun holds => Native.sound_list.2 fun m hm => ?_
  exact hns holds m (sorted.mem_iff.1 hm)

theorem default_tame {n fallback : Native} (h : sound → n.Sound)
    (hf : sound → fallback.Sound) : Tame sound (default n fallback) := by
  unfold default
  split
  · exact .ok hf
  · exact .ok hf
  · split
    next found =>
      refine Meets.map (length?_meets found) fun k _ holds => ?_
      split
      · exact hf holds
      · exact h holds
    next => exact .ok h

theorem arithmetic_tame (onInts : Int → Int → Int) (onDoubles : Double → Double → Double)
    (a b : Native) : Tame sound (arithmetic onInts onDoubles a b) := by
  refine Meets.bind (number_meets a) fun m _ => Meets.bind (number_meets b) fun n _ => ?_
  split
  · exact .ok fun _ => trivial
  · refine Meets.bind (toDouble_meets _) fun x _ => Meets.bind (toDouble_meets _) fun y _ => ?_
    exact .ok fun _ => trivial

end Filter

/-! ## Section 4: Registries -/

/-- Does an operation lead from operands that satisfy `P` to outcomes that
    satisfy `Q`, for every number of operands that it takes? -/
def Operation.Maps (P : Native → Prop) (Q : Except OperandFault Native → Prop) :
    Operation → Prop
  | .unary f => ∀ x : Native, P x → Q (f x)
  | .binary f => ∀ x a : Native, P x → P a → Q (f x a)
  | .binaryOr fallback f => P fallback ∧ ∀ x a : Native, P x → P a → Q (f x a)
  | .ternary f => ∀ x a b : Native, P x → P a → P b → Q (f x a b)

theorem Operation.Maps.outcome {P : Native → Prop} {Q : Except OperandFault Native → Prop}
    {operation : Operation} (h : operation.Maps P Q) {x : Native} (hx : P x)
    {args : List Native} (hargs : ∀ a ∈ args, P a) {result : Except OperandFault Native}
    (found : operation.apply? x args = some result) : Q result := by
  unfold Operation.apply? at found
  split at found
  · cases found
    exact h x hx
  · cases found
    exact h x _ hx (hargs _ List.mem_cons_self)
  · cases found
    exact h.2 x _ hx (hargs _ List.mem_cons_self)
  · cases found
    exact h.2 x _ hx h.1
  · cases found
    exact h x _ _ hx (hargs _ List.mem_cons_self)
      (hargs _ (List.mem_cons_of_mem _ List.mem_cons_self))
  · cases found

/-- What filters may do: sound data come from sound operands, and faults are
    those of operands, or some that a host filter raises on its own. -/
def Filter.Yields (sound : Prop) (own : Fault → Prop) (f : Filter) : Prop :=
  ∀ (x : Native) (args : List Native), (sound → x.Sound) → (sound → ∀ a ∈ args, a.Sound) →
    Meets (fun n : Native => sound → n.Sound)
      (fun fault => (∃ cause : OperandFault, fault = .operand cause ∧ cause.IsShown) ∨ own fault)
      (f x args)

/-- Do all filters of a registry keep to this? -/
def Registry.Yields (sound : Prop) (own : Fault → Prop) (r : Registry) : Prop :=
  ∀ (name : String) (f : Filter), r.find? name = some f → f.Yields sound own

theorem Signature.mismatch_isShown (s : Signature) (operands : Nat) :
    (s.mismatch operands).IsShown := by
  unfold Signature.mismatch
  simp only
  split
  · exact nofun
  · exact nofun

theorem Signature.filter_yields (s : Signature) {operation : Operation}
    (h : operation.Maps (fun n => sound → n.Sound) (Filter.Tame sound)) (own : Fault → Prop) :
    (s.filter operation).Yields sound own := by
  intro x args hx hargs
  unfold Signature.filter
  split
  next result found =>
    have tame : Filter.Tame sound result := h.outcome hx (fun a ha holds => hargs holds a ha) found
    exact tame.mapError fun cause hc => .inl ⟨cause, rfl, hc⟩
  next => exact .error (.inl ⟨_, rfl, s.mismatch_isShown _⟩)

namespace Filter

theorem definitions_tame :
    ∀ d ∈ definitions, d.2.2.Maps (fun n => sound → n.Sound) (Tame sound) := by
  intro d hd
  simp only [definitions, List.mem_cons, List.not_mem_nil, or_false] at hd
  obtain rfl | rfl | rfl | rfl | rfl | rfl | rfl | rfl | rfl | rfl | rfl | rfl | rfl | rfl |
    rfl | rfl | rfl | rfl := hd
  · exact fun x _ => onChars_tame _ x
  · exact fun x _ => onChars_tame _ x
  · exact fun x _ => onChars_tame _ x
  · exact fun x _ => onChars_tame _ x
  · exact fun x a _ _ => append_tame x a
  · exact fun x a _ _ => prepend_tame x a
  · exact fun x a b _ _ _ => replace_tame x a b
  · exact fun x a _ _ => split_tame x a
  · exact fun x _ => size_tame x
  · exact fun x hx => first_tame hx
  · exact fun x hx => last_tame hx
  · exact ⟨fun _ => trivial, fun x a hx _ => join_tame hx a⟩
  · exact fun x hx => reverse_tame hx
  · exact fun x hx => sort_tame hx
  · exact fun x a hx ha => default_tame hx ha
  · exact fun x a _ _ => arithmetic_tame _ _ x a
  · exact fun x a _ _ => arithmetic_tame _ _ x a
  · exact fun x a _ _ => arithmetic_tame _ _ x a

theorem exists_definition {strict : Bool} {name : String} {f : Filter}
    (found : (standard strict).find? name = some f) :
    ∃ d ∈ definitions, name = d.1 ∧ f = (signature d.1 d.2.1 d.2.2).filter d.2.2 := by
  obtain ⟨before, after, listed, -⟩ := List.lookup_eq_some_iff.1 found
  have member : (name, f) ∈ (standard strict).filters := by simp [listed]
  obtain ⟨d, hd, same⟩ := List.mem_map.1 member
  cases same
  exact ⟨d, hd, rfl, rfl⟩

/-- A standard filter raises nothing on its own. -/
theorem standard_yields (strict : Bool) :
    (standard strict).Yields sound fun _ => False := by
  intro name f found
  obtain ⟨d, hd, -, rfl⟩ := exists_definition found
  exact Signature.filter_yields _ (definitions_tame d hd) _

end Filter

end Stencil
