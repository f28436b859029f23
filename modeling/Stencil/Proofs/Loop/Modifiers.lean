import Mathlib.Data.List.Induction
import Stencil.Proofs.Statement.Header
import Stencil.Proofs.Value.Range

/-! # What modifiers mean

    In whatever order the modifiers of a loop are written, they mean an
    offset, then a limit, then a reversal: of what the source consists of,
    the loop skips as many items as the last `offset` says, takes as many of
    the others as the last `limit` says, and turns these around if
    `reversed` is among the modifiers.  So a limit and an offset of the same
    count divide the items between them. -/

namespace Stencil

open Grammar Text

/-! ## Section 1: What a header keeps of its modifiers -/

namespace Modifier

/-- The count of a limit. -/
def limit? : Modifier → Option Expr
  | .limit count => some count
  | _ => none

/-- The count of an offset. -/
def offset? : Modifier → Option Expr
  | .offset count => some count
  | _ => none

/-- The count of columns. -/
def cols? : Modifier → Option Expr
  | .cols count => some count
  | _ => none

end Modifier

namespace LoopHeader

/-- Is this the header of the item and the source with these modifiers?  Only
    the presence of a reversal, and the last one of each other kind,
    matter. -/
structure IsGiven (h : LoopHeader) (item : String) (source : Expr) (ms : List Modifier) :
    Prop where
  item_eq : h.item = item
  source_eq : h.source = source
  reversed_iff : h.reversed = true ↔ .reversed ∈ ms
  limit_eq : h.limit = (ms.filterMap Modifier.limit?).getLast?
  offset_eq : h.offset = (ms.filterMap Modifier.offset?).getLast?
  cols_eq : h.cols = (ms.filterMap Modifier.cols?).getLast?

/-- One more modifier behind those of a header. -/
theorem IsGiven.modify {h : LoopHeader} {item : String} {source : Expr} {ms : List Modifier}
    (given : h.IsGiven item source ms) (m : Modifier) :
    (h.modify m).IsGiven item source (ms ++ [m]) := by
  obtain ⟨item_eq, source_eq, reversed_iff, limit_eq, offset_eq, cols_eq⟩ := given
  cases m <;> constructor <;>
    simp_all [LoopHeader.modify, Modifier.limit?, Modifier.offset?, Modifier.cols?]

theorem isGiven_of (item : String) (source : Expr) (ms : List Modifier) :
    (LoopHeader.of item source ms).IsGiven item source ms := by
  induction ms using List.reverseRecOn with
  | nil => exact ⟨rfl, rfl, by simp [LoopHeader.of], rfl, rfl, rfl⟩
  | append_singleton ms m ih =>
    rw [LoopHeader.of, List.foldl_append]
    exact ih.modify m

/-- A header is determined by what it is given. -/
theorem IsGiven.eq_of {h : LoopHeader} {item : String} {source : Expr} {ms : List Modifier}
    (given : h.IsGiven item source ms) : h = .of item source ms := by
  have other := isGiven_of item source ms
  cases h
  cases made : LoopHeader.of item source ms
  rw [made] at other
  have reversed := Bool.eq_iff_iff.2 (given.reversed_iff.trans other.reversed_iff.symm)
  have limit := given.limit_eq.trans other.limit_eq.symm
  have offset := given.offset_eq.trans other.offset_eq.symm
  have cols := given.cols_eq.trans other.cols_eq.symm
  have item := given.item_eq.trans other.item_eq.symm
  have source := given.source_eq.trans other.source_eq.symm
  simp_all

end LoopHeader

/-! ## Section 2: Items -/

namespace Value

theorem Source.values_eq (s : Source) : s.values = wrapAll s.data := by
  cases s with
  | items ns => rfl
  | range r => exact (wrapAll_ints r.members).symm

theorem wrapAll_natives (vs : List Value) : wrapAll (vs.map native) = .ok vs := by
  rw [wrapAll_eq_ok_iff, List.forall₂_map_left_iff, List.forall₂_same]
  exact fun v _ => v.wrap_native

/-- A loop over a value walks along the data of its iteration. -/
theorem iterate_eq (v : Value) : v.iterate = v.source >>= fun all => wrapAll all.data := by
  cases v with
  | range r => exact (wrapAll_ints r.members).symm
  | string s =>
    show Except.ok (if s = "" then [] else [.string s]) = wrapAll (if s = "" then [] else _)
    split <;> rfl
  | mapping entries =>
    rw [iterate, source]
    cases wrapAll (entries.map (·.1)) with
    | error fault => rfl
    | ok keys => exact (wrapAll_natives keys).symm
  | _ => rfl

theorem wrapAll_append (ns ms : List Native) :
    wrapAll (ns ++ ms) =
      wrapAll ns >>= fun vs => wrapAll ms >>= fun others => .ok (vs ++ others) := by
  induction ns with
  | nil =>
    show wrapAll ms = wrapAll ms >>= fun others => .ok others
    cases wrapAll ms <;> rfl
  | cons n ns ih =>
    rw [List.cons_append, wrapAll, wrapAll, ih]
    cases n.wrap with
    | error fault => rfl
    | ok v => cases wrapAll ns <;> [rfl; cases wrapAll ms <;> rfl]

end Value

namespace LoopHeader

/-- What an offset, a limit and a reversal leave of a list. -/
def remaining {α : Type} (reversed : Bool) (offset limit : Option Nat) (xs : List α) : List α :=
  let later := xs.drop (offset.getD 0)
  let front := limit.elim later later.take
  if reversed then front.reverse else front

/-- What is left of data that can be wrapped is wrapped to what is left of
    the values. -/
theorem wrapAll_remaining {ns : List Native} {vs : List Value} (wrapped : Value.wrapAll ns = .ok vs)
    (reversed : Bool) (offset limit : Option Nat) :
    Value.wrapAll (remaining reversed offset limit ns) =
      .ok (remaining reversed offset limit vs) := by
  rw [Value.wrapAll_eq_ok_iff] at wrapped ⊢
  have later := List.forall₂_drop (offset.getD 0) wrapped
  have front : List.Forall₂ (fun n v => n.wrap = .ok v)
      (limit.elim (ns.drop (offset.getD 0)) (ns.drop (offset.getD 0)).take)
      (limit.elim (vs.drop (offset.getD 0)) (vs.drop (offset.getD 0)).take) := by
    cases limit with
    | none => exact later
    | some n => exact List.forall₂_take n later
  cases reversed with
  | false => exact front
  | true => exact List.forall₂_reverse_iff.2 front

variable (filters : Registry) (names : Names)

/-- The items of a loop: the source comes first, then the offset and then the
    limit, also where they fail. -/
theorem items_eq (h : LoopHeader) :
    h.items filters names = (do
      let all ← h.source.eval filters names >>= Value.source
      let offset ← modifierCount filters names "offset" h.offset
      let limit ← modifierCount filters names "limit" h.limit
      Value.wrapAll (remaining h.reversed offset limit all.data)) := by
  -- first that walking and then wrapping is wrapping what the walk goes along
  have listed : h.items filters names =
      (h.walked filters names).map Value.Source.data >>= Value.wrapAll := by
    unfold items
    cases h.walked filters names with
    | error fault => rfl
    | ok walked => exact walked.values_eq
  rw [listed]
  cases found : h.source.eval filters names with
  | error fault =>
    unfold walked
    rw [found]
    rfl
  | ok v =>
    cases source : v.source with
    | error fault =>
      unfold walked
      rw [found]
      show Except.map _ (v.source >>= _) >>= _ = v.source >>= _
      rw [source]
      rfl
    | ok all =>
      rw [walked_data found source]
      show _ = v.source >>= _
      rw [source]
      cases modifierCount filters names "offset" h.offset with
      | error fault => rfl
      | ok offset => cases modifierCount filters names "limit" h.limit <;> rfl

/-- The items in terms of the values of the iteration over the source. -/
theorem items_of_iterate {filters : Registry} {names : Names} (h : LoopHeader) {v : Value}
    {xs : List Value} {offset limit : Option Nat} (found : h.source.eval filters names = .ok v)
    (iterated : v.iterate = .ok xs)
    (skipped : modifierCount filters names "offset" h.offset = .ok offset)
    (taken : modifierCount filters names "limit" h.limit = .ok limit) :
    h.items filters names = .ok (remaining h.reversed offset limit xs) := by
  rw [Value.iterate_eq] at iterated
  rw [items_eq, found, skipped, taken]
  show (v.source >>= _) = _
  obtain ⟨all, source, iterated⟩ := eq_ok_of_bind iterated
  rw [source]
  exact wrapAll_remaining iterated h.reversed offset limit

end LoopHeader

/-- A count is the integer that its expression has for a value, and zero
    where that is negative. -/
theorem modifierCount_eq {filters : Registry} {names : Names} {count : Expr} {v : Value} {n : Int}
    (found : count.eval filters names = .ok v) (whole : v.toInt = .ok n) (name : String) :
    modifierCount filters names name (some count) = .ok (some n.toNat) := by
  simp only [modifierCount, found, bind, Except.bind, whole, pure, Except.pure]

namespace LoopHeader

section

variable {filters : Registry} {names : Names} {count : Expr} {v : Value} {n : Int}
variable (found : count.eval filters names = .ok v) (whole : v.toInt = .ok n)
variable (item : String) (source : Expr) (cols : Option Expr)
include found whole

/-- The items under a limit alone. -/
theorem items_limit :
    items filters names ⟨item, source, false, some count, none, cols⟩ = (do
      let all ← source.eval filters names >>= Value.source
      Value.wrapAll (all.data.take n.toNat)) := by
  rw [items_eq, modifierCount_eq found whole]
  rfl

/-- The items under an offset alone. -/
theorem items_offset :
    items filters names ⟨item, source, false, none, some count, cols⟩ = (do
      let all ← source.eval filters names >>= Value.source
      Value.wrapAll (all.data.drop n.toNat)) := by
  rw [items_eq, modifierCount_eq found whole]
  rfl

/-- A limit and an offset of one count divide the items of a source between
    them. -/
theorem items_divided :
    (do
      let front ← items filters names ⟨item, source, false, some count, none, cols⟩
      let others ← items filters names ⟨item, source, false, none, some count, cols⟩
      return front ++ others) =
    source.eval filters names >>= Value.iterate := by
  rw [items_limit found whole, items_offset found whole]
  cases source.eval filters names with
  | error fault => rfl
  | ok w =>
    show _ = w.iterate
    rw [Value.iterate_eq]
    cases walked : w.source with
    | error fault => simp only [bind, Except.bind, walked]
    | ok all =>
      -- an item that cannot be wrapped is in one of the parts, and fails there as in the whole
      have divided := Value.wrapAll_append (all.data.take n.toNat) (all.data.drop n.toNat)
      rw [List.take_append_drop] at divided
      simp only [bind, Except.bind, walked] at divided ⊢
      exact divided.symm

end

end LoopHeader

/-- A text is parsed to a header exactly if it is written as the name of an
    item, `in`, a source and modifiers, of which the header keeps whether one
    is a reversal and the last one of each other kind.  The items of a header
    are what an offset, then a limit and then a reversal leave of the
    iteration over its source; the source fails before the offset, and that
    before the limit.  A count is an integer, or zero for a negative one, and
    a limit and an offset of one count divide the items between them. -/
theorem loop_modifiers (text : String) (h : LoopHeader) :
    (parseForm (.selected .loop) text = .ok (.loop h) ↔
      ∃ ls item source ms, Written ls text.toList ∧ SaysHeader ls item source ms ∧
        h.IsGiven item source ms) ∧
    ∀ (filters : Registry) (names : Names),
      h.items filters names = (do
        let all ← h.source.eval filters names >>= Value.source
        let offset ← modifierCount filters names "offset" h.offset
        let limit ← modifierCount filters names "limit" h.limit
        Value.wrapAll (LoopHeader.remaining h.reversed offset limit all.data)) ∧
      (∀ v xs offset limit, h.source.eval filters names = .ok v → v.iterate = .ok xs →
        modifierCount filters names "offset" h.offset = .ok offset →
        modifierCount filters names "limit" h.limit = .ok limit →
        h.items filters names = .ok (LoopHeader.remaining h.reversed offset limit xs)) ∧
      ∀ (count : Expr) (v : Value) (n : Int),
        count.eval filters names = .ok v → v.toInt = .ok n →
        (∀ name, modifierCount filters names name (some count) = .ok (some (max n 0).toNat)) ∧
        ∀ (item : String) (source : Expr) (cols : Option Expr),
          (do
            let front ← LoopHeader.items filters names
              ⟨item, source, false, some count, none, cols⟩
            let others ← LoopHeader.items filters names
              ⟨item, source, false, none, some count, cols⟩
            return front ++ others) =
          source.eval filters names >>= Value.iterate := by
  refine ⟨?_, fun filters names => ⟨h.items_eq filters names, ?_, ?_⟩⟩
  · rw [parseForm_loop_iff]
    constructor
    · rintro ⟨ls, item, source, ms, written, header, rfl⟩
      exact ⟨ls, item, source, ms, written, header, LoopHeader.isGiven_of item source ms⟩
    · rintro ⟨ls, item, source, ms, written, header, given⟩
      exact ⟨ls, item, source, ms, written, header, given.eq_of⟩
  · intro v xs offset limit found iterated skipped taken
    exact h.items_of_iterate found iterated skipped taken
  · intro count v n found whole
    refine ⟨fun name => ?_, LoopHeader.items_divided found whole⟩
    have clamped : (max n 0).toNat = n.toNat := by omega
    rw [clamped]
    exact modifierCount_eq found whole name

theorem written_repeatedLimit :
    Written [.identifier "x", .operator .isIn, .identifier "xs", .keyword "limit", .identifier "n",
      .identifier "reversed", .keyword "limit", .identifier "m"]
      "x in xs limit: n reversed limit: m".toList := by
  have name {c : Char} {cs : List Char} (start : isNameStart c = true)
      (parts : cs.all isNamePart = true) : IsName (c :: cs) := isName_ofList start parts
  have m : Written _ " m".toList :=
    .blank rfl (written_lastWord (w := "m") (name rfl rfl) rfl)
  have second : Written _ " limit: m".toList :=
    .blank rfl (.lexeme (@Lexeme.Written.keyword _ "limit" (name rfl rfl)) m)
  have reversed : Written _ " reversed limit: m".toList :=
    .blank rfl (.lexeme (Lexeme.written_word (w := "reversed") (name rfl rfl) rfl _) second)
  have n : Written _ " n reversed limit: m".toList :=
    .blank rfl (.lexeme (Lexeme.written_word (w := "n") (name rfl rfl) rfl _) reversed)
  have first : Written _ " limit: n reversed limit: m".toList :=
    .blank rfl (.lexeme (@Lexeme.Written.keyword _ "limit" (name rfl rfl)) n)
  have xs : Written _ " xs limit: n reversed limit: m".toList :=
    .blank rfl (.lexeme (Lexeme.written_word (w := "xs") (name rfl rfl) rfl _) first)
  have isIn : Written _ " in xs limit: n reversed limit: m".toList :=
    .blank rfl (.lexeme (Lexeme.written_word (w := "in") (name rfl rfl) rfl _) xs)
  exact .lexeme (Lexeme.written_word (w := "x") (name rfl rfl) rfl _) isIn

/-- Of two limits the last one is kept, and the reversal between them takes
    place behind it. -/
theorem repeatedLimit_modifiers :
    parseForm (.selected .loop) "x in xs limit: n reversed limit: m" =
      .ok (.loop ⟨"x", .var "xs", true, some (.var "m"), none, none⟩) ∧
    LoopHeader.items (Filter.standard true)
      (fun name => .ok (if name = "xs" then .list [.int 1, .int 2, .int 3] else .int 2))
      ⟨"x", .var "xs", true, some (.var "m"), none, none⟩ =
        .ok [.number (.int 2), .number (.int 1)] := by
  obtain ⟨parsed, items⟩ := loop_modifiers "x in xs limit: n reversed limit: m"
    ⟨"x", .var "xs", true, some (.var "m"), none, none⟩
  constructor
  · have variable_ (name : String) : Says [nt .primary] [.identifier name] (.var name, ()) :=
      Expr.reads (.var name)
    have source : Says [nt .filtered] [.identifier "xs"] (.var "xs", ()) :=
      (Expr.reads (.var "xs")).place .filtered
    refine parsed.2 ⟨_, "x", .var "xs", [.limit (.var "n"), .reversed, .limit (.var "m")],
      written_repeatedLimit, ⟨[.identifier "xs"], _, rfl, source, ?_⟩, ?_⟩
    · exact .cons (.limit (variable_ "n")) (.cons .reversed (.cons (.limit (variable_ "m")) .nil))
    · exact ⟨rfl, rfl, by simp, rfl, rfl, rfl⟩
  · exact (items _ _).2.1 (.sequence [.int 1, .int 2, .int 3]) _ none (some 2) rfl rfl rfl rfl

end Stencil
