import Mathlib.Data.List.Forall2
import Stencil.Proofs.Chunk.Delimiter
import Stencil.Proofs.Filter.Invoke
import Stencil.Proofs.Template.Substitution

/-! # Splitting, joining and replacing

    A text is split at the occurrences of a separator, taken from the left
    and without overlap.  None of the pieces holds the separator, and put
    together again with the separator in between they are the text.  With
    another text in between they are what replacing gives. -/

namespace Stencil

namespace Text

/-! ## Section 1: Pieces of a list of characters -/

section

variable {sep piece cs : List Char} {skip : Nat}

theorem splitFrom_ne_nil (sep : List Char) (skip : Nat) (piece cs : List Char) :
    splitFrom sep skip piece cs ≠ [] := by
  fun_induction splitFrom sep skip piece cs with
  | case1 => exact List.cons_ne_nil _ _
  | case2 _ _ _ _ ih => exact ih
  | case3 => exact List.cons_ne_nil _ _
  | case4 _ _ _ _ ih => exact ih

theorem join_eq_intercalate (sep : List Char) (pieces : List (List Char)) :
    join sep pieces = sep.intercalate pieces := by
  fun_induction join sep pieces with
  | case1 => rfl
  | case2 piece => exact List.intercalate_singleton.symm
  | case3 piece pieces some ih =>
    obtain ⟨next, more, rfl⟩ := List.exists_cons_of_ne_nil some
    rw [ih, List.intercalate_cons_cons]

theorem intercalate_cons {pieces : List (List Char)} (some : pieces ≠ []) (new piece : List Char) :
    new.intercalate (piece :: pieces) = piece ++ (new ++ new.intercalate pieces) := by
  obtain ⟨next, more, rfl⟩ := List.exists_cons_of_ne_nil some
  rw [List.intercalate_cons_cons, List.append_assoc]

/-- The search for pieces and the search for what is replaced come to the same
    occurrences. -/
theorem intercalate_splitFrom (sep new : List Char) (skip : Nat) (piece cs : List Char) :
    new.intercalate (splitFrom sep skip piece cs) =
      piece.reverse ++ replaceFrom sep new skip cs := by
  fun_induction splitFrom sep skip piece cs with
  | case1 skip piece => rw [replaceFrom, List.append_nil, List.intercalate_singleton]
  | case2 skip piece c cs ih => rw [ih, replaceFrom]
  | case3 piece c cs here ih =>
    -- the piece at hand ends, and the other text is written for the separator
    rw [intercalate_cons (splitFrom_ne_nil _ _ _ _), ih, replaceFrom, if_pos here]
    rfl
  | case4 piece c cs missed ih =>
    rw [ih, replaceFrom, if_neg missed, List.reverse_cons, List.append_assoc]
    rfl

/-- Replacing a text by itself changes nothing. -/
theorem replaceFrom_self (some : sep ≠ []) (skip : Nat) (cs : List Char) :
    replaceFrom sep sep skip cs = cs.drop skip := by
  fun_induction replaceFrom sep sep skip cs with
  | case1 skip => exact List.drop_nil.symm
  | case2 skip c cs ih => rw [ih, List.drop_succ_cons]
  | case3 c cs here ih =>
    obtain ⟨more, same⟩ := List.isPrefixOf_iff_prefix.1 here
    obtain ⟨d, ds, rfl⟩ := List.exists_cons_of_ne_nil some
    rw [List.cons_append] at same
    obtain ⟨rfl, rfl⟩ := List.cons.inj same
    rw [ih, List.length_cons, Nat.add_sub_cancel, List.drop_left]
    rfl
  | case4 c cs missed ih => rw [ih, List.drop_zero, List.drop_zero]

/-- No piece holds the separator, since no occurrence begins in what has been
    read of the piece at hand. -/
theorem not_infix_of_mem_splitFrom (some : sep ≠ [])
    (h : NowhereIn (sep <+: ·) piece.reverse (cs.drop skip)) :
    ∀ found ∈ splitFrom sep skip piece cs, ¬ sep <:+: found := by
  fun_induction splitFrom sep skip piece cs with
  | case1 skip piece =>
    rw [List.forall_mem_singleton]
    exact h.not_infix (List.prefix_append sep) some
  | case2 skip piece c cs ih => exact ih h
  | case3 piece c cs here ih =>
    rw [List.forall_mem_cons]
    exact ⟨h.not_infix (List.prefix_append sep) some, ih trivial⟩
  | case4 piece c cs missed ih =>
    apply ih
    rw [List.reverse_cons]
    refine nowhereIn_append.2 ⟨h, fun here => ?_, trivial⟩
    exact missed (List.isPrefixOf_iff_prefix.2 here)

end

/-! ## Section 2: Pieces of a text -/

/-- The pieces of a text between the occurrences of a separator.  The empty
    text has no pieces. -/
def pieces (sep s : String) : List String :=
  if s = "" then [] else (split sep.toList s.toList).map String.ofList

section

variable {sep s : String}

theorem pieces_eq_nil_iff : pieces sep s = [] ↔ s = "" := by
  unfold pieces
  split
  next empty => exact iff_of_true rfl empty
  next visible =>
    refine iff_of_false ?_ visible
    rw [List.map_eq_nil_iff]
    exact splitFrom_ne_nil _ _ _ _

theorem not_infix_of_mem_pieces (some : sep ≠ "") :
    ∀ piece ∈ pieces sep s, ¬ sep.toList <:+: piece.toList := by
  have visible : sep.toList ≠ [] := by simpa using some
  intro piece member
  unfold pieces at member
  split at member
  · cases member
  · obtain ⟨found, among, rfl⟩ := List.mem_map.1 member
    rw [String.toList_ofList]
    apply not_infix_of_mem_splitFrom visible _ found among
    exact trivial

theorem toList_intercalate_pieces (sep s new : String) :
    (new.intercalate (pieces sep s)).toList = replaceFrom sep.toList new.toList 0 s.toList := by
  rw [String.toList_intercalate]
  unfold pieces
  split
  next empty =>
    subst empty
    rfl
  next =>
    have same : String.toList ∘ String.ofList = id := funext fun _ => String.toList_ofList
    rw [List.map_map, same, List.map_id, split, intercalate_splitFrom]
    rfl

/-- With the separator in between, the pieces are the text. -/
theorem intercalate_pieces (some : sep ≠ "") (s : String) :
    sep.intercalate (pieces sep s) = s := by
  have visible : sep.toList ≠ [] := by simpa using some
  rw [← String.toList_inj, toList_intercalate_pieces, replaceFrom_self visible, List.drop_zero]

end

end Text

/-! ## Section 3: Filters of texts -/

namespace Filter

theorem chars_text (s : String) : chars (.text s) = .ok s.toList := rfl

theorem mapM_chars_texts (texts : List String) :
    (texts.map Native.text).mapM chars = .ok (texts.map String.toList) := by
  induction texts with
  | nil => rfl
  | cons text texts ih =>
    rw [List.map_cons, List.mapM_cons, chars_text, ih]
    rfl

/-- Texts are joined with the separator between neighbours. -/
theorem join_texts (texts : List String) (sep : String) :
    join (.list (texts.map .text)) (.text sep) = .ok (.text (sep.intercalate texts)) := by
  rw [join, chars_text]
  show ((texts.map Native.text).mapM chars >>= _) = _
  rw [mapM_chars_texts]
  show Except.ok (ofChars (Text.join sep.toList (texts.map String.toList))) = _
  rw [Text.join_eq_intercalate, ← String.toList_intercalate, ofChars, String.ofList_toList]

section

variable {sep : String} (some : sep ≠ "") (s : String)
include some

theorem split_texts : split (.text s) (.text sep) =
    .ok (.list ((Text.pieces sep s).map .text)) := by
  obtain ⟨d, ds, visible⟩ : ∃ d ds, sep.toList = d :: ds :=
    List.exists_cons_of_ne_nil (by simpa using some)
  rw [split, chars_text, chars_text, visible, Text.pieces]
  cases chars : s.toList with
  | nil =>
    rw [if_pos (String.toList_eq_nil_iff.1 chars)]
    rfl
  | cons c cs =>
    have shown : s ≠ "" := by
      rintro rfl
      cases chars
    rw [if_neg shown, List.map_map]
    show Except.ok (Native.list ((Text.split (d :: ds) (c :: cs)).map ofChars)) = _
    rw [visible]
    rfl

/-- Replacing is splitting and joining. -/
theorem replace_texts (new : String) : replace (.text s) (.text sep) (.text new) =
    .ok (.text (new.intercalate (Text.pieces sep s))) := by
  have visible : ¬ sep.toList.isEmpty = true := by simpa using some
  rw [replace, chars_text, chars_text, chars_text]
  show Except.ok (ofChars (Text.replace sep.toList new.toList s.toList)) = _
  rw [Text.replace, if_neg visible, ← Text.toList_intercalate_pieces, ofChars, String.ofList_toList]

end

end Filter

/-! ## Section 4: Filters in expressions -/

namespace Expr

section

variable {filters : Registry} {names : Names} {e : Expr} {v w : Value}

theorem evalAll_of_steady {args : List Expr} {ws : List Value}
    (h : List.Forall₂ (fun arg w => Steady arg filters names w) args ws) (site : Double.Site) :
    evalAll { filters with site } names args = .ok ws := by
  induction h generalizing site with
  | nil => rfl
  | @cons arg w args ws first _ ih =>
    have here : arg.eval { filters with site := site.first } names = .ok w := first _
    rw [evalAll]
    show (arg.eval { filters with site := site.first } names >>= _) = _
    rw [here]
    show (evalAll { filters with site := site.others } names args >>= _) = _
    rw [ih]
    rfl

/-- A filter whose operands have their values everywhere has its value
    everywhere, if applying it does not depend on the site. -/
theorem Steady.filter (receiver : e.Steady filters names v) {args : List Expr} {ws : List Value}
    (arguments : List.Forall₂ (fun arg w => Steady arg filters names w) args ws) {name : String}
    (applied : ∀ site, Registry.invoke { filters with site } name v ws = .ok w) :
    (Expr.filter e name args).Steady filters names w := by
  intro site
  have first : e.eval { filters with site := site.first } names = .ok v := receiver _
  rw [eval]
  show (e.eval { filters with site := site.first } names >>= _) = _
  rw [first]
  show (evalAll { filters with site := site.others } names args >>= _) = _
  rw [evalAll_of_steady arguments]
  exact applied site

end

/-- For every text and every separator that is not empty, the pieces of the
    text do not hold the separator, and joined with it they are the text; the
    empty text has no pieces.  Replacing the separator by another text is
    joining the pieces with that text. -/
theorem split_join_replace {strict : Bool} {names : Names} {e d f : Expr} {s sep new : String}
    (text : e.Steady (Filter.standard strict) names (.string s))
    (separator : d.Steady (Filter.standard strict) names (.string sep))
    (other : f.Steady (Filter.standard strict) names (.string new)) (some : sep ≠ "") :
    ∃ pieces : List String,
      (Expr.filter e "split" [d]).Steady (Filter.standard strict) names
        (.sequence (pieces.map .text)) ∧
      (∀ piece ∈ pieces, ¬ sep.toList <:+: piece.toList) ∧ (s = "" → pieces = []) ∧
      (Expr.filter (.filter e "split" [d]) "join" [d]).Steady (Filter.standard strict) names
        (.string s) ∧
      ∃ replaced, (Expr.filter e "replace" [d, f]).Steady (Filter.standard strict) names
          (.string replaced) ∧
        (Expr.filter (.filter e "split" [d]) "join" [f]).Steady (Filter.standard strict) names
          (.string replaced) := by
  have splits : (Expr.filter e "split" [d]).Steady (Filter.standard strict) names
      (.sequence ((Text.pieces sep s).map .text)) := by
    refine text.filter (.cons separator .nil) fun site => ?_
    show Registry.conclude "split" site ((Filter.split (.text s) (.text sep)).mapError .operand) = _
    rw [Filter.split_texts some]
    rfl
  have joins {g : Expr} {between : String}
      (h : g.Steady (Filter.standard strict) names (.string between)) :
      (Expr.filter (.filter e "split" [d]) "join" [g]).Steady (Filter.standard strict) names
        (.string (between.intercalate (Text.pieces sep s))) := by
    refine splits.filter (.cons h .nil) fun site => ?_
    show Registry.conclude "join" site
      ((Filter.join (.list _) (.text between)).mapError .operand) = _
    rw [Filter.join_texts]
    rfl
  have replaces : (Expr.filter e "replace" [d, f]).Steady (Filter.standard strict) names
      (.string (new.intercalate (Text.pieces sep s))) := by
    refine text.filter (.cons separator (.cons other .nil)) fun site => ?_
    show Registry.conclude "replace" site
      ((Filter.replace (.text s) (.text sep) (.text new)).mapError .operand) = _
    rw [Filter.replace_texts some]
    rfl
  have whole := joins separator
  rw [Text.intercalate_pieces some] at whole
  exact ⟨Text.pieces sep s, splits, Text.not_infix_of_mem_pieces some, Text.pieces_eq_nil_iff.2,
    whole, _, replaces, joins other⟩

/-- The texts of a literal. -/
def quoted (s : String) : Expr :=
  .literal (.text s)

/-- The separator overlaps itself in this text, and only its first occurrence
    counts. -/
theorem overlapping_split_join_replace : "aba" ≠ "" ∧
    (Expr.filter (quoted "ababa") "split" [quoted "aba"]).eval (Filter.standard true)
      (fun _ => .ok .nil) = .ok (.sequence [.text "", .text "ba"]) ∧
    ∃ pieces : List String,
      (Expr.filter (quoted "ababa") "split" [quoted "aba"]).Steady (Filter.standard true)
        (fun _ => .ok .nil) (.sequence (pieces.map .text)) ∧
      (∀ piece ∈ pieces, ¬ "aba".toList <:+: piece.toList) ∧
      (Expr.filter (.filter (quoted "ababa") "split" [quoted "aba"]) "join" [quoted "aba"]).Steady
        (Filter.standard true) (fun _ => .ok .nil) (.string "ababa") := by
  have some : "aba" ≠ "" := by decide
  have steady (s : String) :
      (quoted s).Steady (Filter.standard true) (fun _ => .ok .nil) (.string s) := fun _ => rfl
  obtain ⟨pieces, splits, apart, -, joins, -⟩ :=
    split_join_replace (steady "ababa") (steady "aba") (steady "-") some
  exact ⟨some, rfl, pieces, splits, apart, joins⟩

end Expr

end Stencil
