import Stencil.Proofs.Statement.Alternatives

/-! # Headers of loops

    What lexemes say can be taken apart again, symbol by symbol and
    production by production.  So the arguments of a loop are exactly the
    name of the item, `in`, the source, and modifiers one behind the other,
    in any order; and of these only the presence of `reversed`, and the last
    one of each other kind, matter to the header. -/

namespace Stencil

open Grammar Text

/-! ## Section 1: Taking apart what lexemes say -/

theorem Grammar.Forest.says_yield {ss : List Symbol} (f : Forest ss) {parts : Parts ss}
    (values : f.values = .ok parts) : Says ss (f.yield.map Token.lexeme) parts := by
  intro tokens same
  obtain ⟨g, yield, alike⟩ := f.exists_alike tokens same
  exact ⟨g, yield, alike.trans values⟩

namespace Says

variable {ss : List Symbol} {ls : List Lexeme} {parts : Parts ss}

/-- Lexemes that say something stand in a tree. -/
theorem exists_forest (h : Says ss ls parts) :
    ∃ f : Forest ss, f.yield.map Token.lexeme = ls ∧ f.values = .ok parts := by
  have same : (ls.map fun l => (⟨l, 0, ""⟩ : Token)).map Token.lexeme = ls := by
    rw [List.map_map]
    exact List.map_id' ls
  obtain ⟨f, yield, values⟩ := h _ same
  exact ⟨f, by rw [yield, same], values⟩

theorem eq_nil (h : Says [] ls ()) : ls = [] := by
  obtain ⟨f, rfl, -⟩ := h.exists_forest
  match f with
  | .nil => rfl

/-- The lexemes of the first symbol come first. -/
theorem exists_append {s : Symbol} {part : s.Part} (h : Says (s :: ss) ls (part, parts)) :
    ∃ front rest, ls = front ++ rest ∧ Says [s] front (part, ()) ∧ Says ss rest parts := by
  obtain ⟨f, rfl, values⟩ := h.exists_forest
  match f with
  | .cons t g =>
    obtain ⟨first, later⟩ := Forest.values_cons.1 values
    refine ⟨t.yield.map Token.lexeme, g.yield.map Token.lexeme, ?_, ?_, g.says_yield later⟩
    · rw [Forest.yield, List.map_append]
    · have single := (Forest.cons t .nil).says_yield (Forest.values_single.2 first)
      rwa [Forest.yield, Forest.yield, List.append_nil] at single

/-- A terminal is said by one lexeme, which has its part. -/
theorem exists_lexeme {t : Terminal} {part : TerminalPart t}
    (h : Says (.terminal t :: ss) ls (part, parts)) :
    ∃ l rest, ls = l :: rest ∧ (∃ same : l.terminal = t, same ▸ lexemePart l = part) ∧
      Says ss rest parts := by
  obtain ⟨front, rest, rfl, first, later⟩ := h.exists_append
  obtain ⟨f, rfl, values⟩ := first.exists_forest
  cases f with
  | cons leaf none =>
    cases none
    cases leaf with
    | leaf token =>
      have value := Forest.values_single.1 values
      rw [Tree.value] at value
      exact ⟨token.lexeme, rest, rfl, ⟨rfl, Except.ok.inj value⟩, later⟩

/-- A nonterminal is said through one of its productions. -/
theorem exists_production {n : Nonterminal} {part : NonterminalPart n}
    (h : Says [nt n] ls (part, ())) :
    ∃ (p : Production) (same : p.lhs = n) (parts : Parts p.rhs),
      Says p.rhs ls parts ∧ same ▸ p.build parts = Except.ok part := by
  obtain ⟨f, rfl, values⟩ := h.exists_forest
  cases f with
  | cons node none =>
    cases none
    cases node with
    | node p children =>
      obtain ⟨parts, made, built⟩ := Tree.value_node.1 (Forest.values_single.1 values)
      refine ⟨p, rfl, parts, ?_, built⟩
      rw [Forest.yield, Forest.yield, List.append_nil, Tree.yield]
      exact children.says_yield made

theorem exists_identifier {name : String} (h : Says (identifier :: ss) ls (name, parts)) :
    ∃ rest, ls = .identifier name :: rest ∧ Says ss rest parts := by
  obtain ⟨l, rest, rfl, ⟨same, rfl⟩, later⟩ := h.exists_lexeme
  cases l <;> cases same
  exact ⟨rest, rfl, later⟩

theorem exists_keyword {name : String} (h : Says (keyword :: ss) ls (name, parts)) :
    ∃ rest, ls = .keyword name :: rest ∧ Says ss rest parts := by
  obtain ⟨l, rest, rfl, ⟨same, rfl⟩, later⟩ := h.exists_lexeme
  cases l <;> cases same
  exact ⟨rest, rfl, later⟩

theorem exists_operator {o : Operator} (h : Says (op o :: ss) ls ((), parts)) :
    ∃ rest, ls = .operator o :: rest ∧ Says ss rest parts := by
  obtain ⟨l, rest, rfl, ⟨same, -⟩, later⟩ := h.exists_lexeme
  cases l <;> cases same
  exact ⟨rest, rfl, later⟩

theorem exists_selector {r : Selector} (h : Says (sel r :: ss) ls ((), parts)) :
    ∃ rest, ls = .selector r :: rest ∧ Says ss rest parts := by
  obtain ⟨l, rest, rfl, ⟨same, -⟩, later⟩ := h.exists_lexeme
  cases l <;> cases same
  exact ⟨rest, rfl, later⟩

/-- No selector and no point by itself is among lexemes that say parts of
    expressions. -/
theorem isPlain (h : Says ss ls parts) (inner : ss.all Symbol.isOfExpression) :
    ∀ l ∈ ls, l.IsPlain := by
  obtain ⟨f, rfl, -⟩ := h.exists_forest
  intro l hl
  obtain ⟨token, ht, rfl⟩ := List.mem_map.1 hl
  exact f.isPlain inner token ht

end Says

/-! ## Section 2: Modifiers -/

/-- Do the lexemes say the modifier? -/
inductive SaysModifier : List Lexeme → Modifier → Prop
  | reversed : SaysModifier [.identifier "reversed"] .reversed
  | limit {ls : List Lexeme} {count : Expr} : Says [nt .primary] ls (count, ()) →
      SaysModifier (.keyword "limit" :: ls) (.limit count)
  | offset {ls : List Lexeme} {count : Expr} : Says [nt .primary] ls (count, ()) →
      SaysModifier (.keyword "offset" :: ls) (.offset count)
  | cols {ls : List Lexeme} {count : Expr} : Says [nt .primary] ls (count, ()) →
      SaysModifier (.keyword "cols" :: ls) (.cols count)

/-- Do the lexemes say the modifiers, one behind the other? -/
inductive SaysModifiers : List Lexeme → List Modifier → Prop
  | nil : SaysModifiers [] []
  | cons {ls more : List Lexeme} {m : Modifier} {ms : List Modifier} :
      SaysModifier ls m → SaysModifiers more ms → SaysModifiers (ls ++ more) (m :: ms)

/-- A keyword with a count says the modifier that the grammar knows by this
    name. -/
theorem saysModifier_valued {name : String} {ls : List Lexeme} {count : Expr} {m : Modifier}
    (h : Says [nt .primary] ls (count, ())) (named : valuedModifier name count = .ok m) :
    SaysModifier (.keyword name :: ls) m := by
  unfold valuedModifier at named
  split at named
  · cases named
    exact .cols h
  · cases named
    exact .limit h
  · cases named
    exact .offset h
  · cases named

theorem says_modifier {ls : List Lexeme} {m : Modifier} :
    Says [nt .modifier] ls (m, ()) ↔ SaysModifier ls m := by
  have valued {name : String} {ls : List Lexeme} {count : Expr} {m : Modifier}
      (h : Says [nt .primary] ls (count, ())) (named : valuedModifier name count = .ok m) :
      Says [nt .modifier] (.keyword name :: ls) (m, ()) :=
    @Says.node .valuedModifier _ (name, count, ()) (h.lexeme (.keyword name)) m named
  constructor
  · intro h
    -- the production that was used is one of the two for modifiers
    obtain ⟨p, same, parts, told, built⟩ := h.exists_production
    cases p with
    | flagModifier =>
      cases same
      obtain ⟨name, ⟨⟩⟩ := parts
      obtain ⟨rest, rfl, later⟩ := Says.exists_identifier told
      obtain rfl := later.eq_nil
      have flagged : flagModifier name = .ok m := built
      unfold flagModifier at flagged
      split at flagged
      next named =>
        cases flagged
        exact named ▸ .reversed
      next => cases flagged
    | valuedModifier =>
      cases same
      obtain ⟨name, count, ⟨⟩⟩ := parts
      obtain ⟨rest, rfl, later⟩ := Says.exists_keyword told
      exact saysModifier_valued later built
    | _ => cases same
  · intro h
    cases h with
    | reversed =>
      exact @Says.node .flagModifier _ ("reversed", ()) (Says.nil.lexeme (.identifier "reversed"))
        .reversed rfl
    | limit h => exact valued h rfl
    | offset h => exact valued h rfl
    | cols h => exact valued h rfl

theorem SaysModifiers.append {ls more : List Lexeme} {ms others : List Modifier}
    (h : SaysModifiers ls ms) (later : SaysModifiers more others) :
    SaysModifiers (ls ++ more) (ms ++ others) := by
  induction h with
  | nil => exact later
  | cons first _ ih =>
    rw [List.append_assoc, List.cons_append]
    exact .cons first ih

theorem SaysModifier.single {ls : List Lexeme} {m : Modifier} (h : SaysModifier ls m) :
    SaysModifiers ls [m] := by
  have single := SaysModifiers.cons h .nil
  rwa [List.append_nil] at single

/-- Modifiers behind others.  The grammar collects them from the left. -/
theorem says_modifierMore {ls more : List Lexeme} {ms others : List Modifier}
    (later : SaysModifiers more others) (collected : Says [nt .modifierMore] ls (ms, ())) :
    Says [nt .modifierMore] (ls ++ more) (ms ++ others, ()) := by
  induction later generalizing ls ms with
  | nil => rwa [List.append_nil, List.append_nil]
  | @cons here more m others first _ ih =>
    have added : Says [nt .modifierMore] (ls ++ here) (ms ++ [m], ()) :=
      @Says.node .modifierAdd _ (ms, m, ()) (collected.cons (says_modifier.2 first)) _ rfl
    have all := ih added
    rwa [List.append_assoc, List.append_assoc] at all

/-- Modifiers that are collected stand one behind the other. -/
theorem saysModifiers_of_more {ls : List Lexeme} {ms : List Modifier}
    (h : Says [nt .modifierMore] ls (ms, ())) : SaysModifiers ls ms := by
  -- on the number of lexemes: those collected before the last one are fewer
  induction length : ls.length using Nat.strongRecOn generalizing ls ms with
  | ind n ih =>
  subst length
  obtain ⟨p, same, parts, told, built⟩ := h.exists_production
  cases p with
  | modifierOne =>
    cases same
    obtain ⟨m, ⟨⟩⟩ := parts
    cases built
    exact (says_modifier.1 told).single
  | modifierAdd =>
    cases same
    obtain ⟨before, m, ⟨⟩⟩ := parts
    cases built
    obtain ⟨front, rest, rfl, collected, last⟩ := Says.exists_append told
    have added := says_modifier.1 last
    have positive : 0 < rest.length := by cases added <;> simp
    refine (ih front.length ?_ collected rfl).append added.single
    rw [List.length_append]
    omega
  | _ => cases same

theorem isPlain_of_saysModifiers {ls : List Lexeme} {ms : List Modifier}
    (h : SaysModifiers ls ms) : ∀ l ∈ ls, l.IsPlain := by
  induction h with
  | nil => exact nofun
  | cons first _ ih =>
    rw [List.forall_mem_append]
    refine ⟨?_, ih⟩
    cases first with
    | reversed => exact List.forall_mem_singleton.2 trivial
    | limit count => exact List.forall_mem_cons.2 ⟨trivial, count.isPlain rfl⟩
    | offset count => exact List.forall_mem_cons.2 ⟨trivial, count.isPlain rfl⟩
    | cols count => exact List.forall_mem_cons.2 ⟨trivial, count.isPlain rfl⟩

/-! ## Section 3: Headers -/

/-- Do the lexemes say the name of an item, `in`, a source, and modifiers? -/
def SaysHeader (ls : List Lexeme) (item : String) (source : Expr) (ms : List Modifier) : Prop :=
  ∃ front more, ls = .identifier item :: .operator .isIn :: (front ++ more) ∧
    Says [nt .filtered] front (source, ()) ∧ SaysModifiers more ms

theorem SaysHeader.isPlain {ls : List Lexeme} {item : String} {source : Expr} {ms : List Modifier}
    (h : SaysHeader ls item source ms) : ∀ l ∈ ls, l.IsPlain := by
  obtain ⟨front, more, rfl, told, modifiers⟩ := h
  have operator : (Lexeme.operator .isIn).IsPlain := by
    show Operator.isIn ≠ .dot
    decide
  rw [List.forall_mem_cons, List.forall_mem_cons, List.forall_mem_append]
  exact ⟨trivial, operator, told.isPlain rfl, isPlain_of_saysModifiers modifiers⟩

/-- The header of a loop is said by the name of its item, `in`, the source
    and the modifiers. -/
theorem says_loop {ls : List Lexeme} {h : LoopHeader} :
    Says [nt .loop] ls (h, ()) ↔
      ∃ item source ms, SaysHeader ls item source ms ∧ h = .of item source ms := by
  constructor
  · intro header
    obtain ⟨p, same, parts, told, built⟩ := header.exists_production
    cases p with
    | loop =>
      cases same
      obtain ⟨item, ⟨⟩, source, ⟨⟩⟩ := parts
      cases built
      obtain ⟨rest, rfl, named⟩ := Says.exists_identifier told
      obtain ⟨rest, rfl, behind⟩ := Says.exists_operator named
      exact ⟨item, source, [], ⟨rest, [], by rw [List.append_nil], behind, .nil⟩, rfl⟩
    | modifiedLoop =>
      cases same
      obtain ⟨item, ⟨⟩, source, ms, ⟨⟩⟩ := parts
      cases built
      obtain ⟨rest, rfl, named⟩ := Says.exists_identifier told
      obtain ⟨rest, rfl, behind⟩ := Says.exists_operator named
      obtain ⟨front, more, rfl, first, collected⟩ := Says.exists_append behind
      exact ⟨item, source, ms, ⟨front, more, rfl, first, saysModifiers_of_more collected⟩, rfl⟩
    | _ => cases same
  · rintro ⟨item, source, ms, ⟨front, more, rfl, told, modifiers⟩, rfl⟩
    -- a header without modifiers has a production of its own
    cases modifiers with
    | nil =>
      rw [List.append_nil]
      have named : Says [op .isIn, nt .filtered] _ ((), source, ()) :=
        told.lexeme (.operator .isIn)
      exact @Says.node .loop _ (item, (), source, ()) (named.lexeme (.identifier item)) _ rfl
    | @cons ls more m ms first later =>
      have started : Says [nt .modifierMore] ls ([m], ()) :=
        @Says.node .modifierOne _ (m, ()) (says_modifier.2 first) _ rfl
      have named : Says [op .isIn, nt .filtered, nt .modifierMore] _ ((), source, m :: ms, ()) :=
        (told.cons (says_modifierMore later started)).lexeme (.operator .isIn)
      exact @Says.node .modifiedLoop _ (item, (), source, m :: ms, ())
        (named.lexeme (.identifier item)) _ rfl

theorem says_loopStatement {ls : List Lexeme} {h : LoopHeader} :
    Says [nt .start] (.selector .loop :: ls) (.loop h, ()) ↔ Says [nt .loop] ls (h, ()) := by
  constructor
  · intro statement
    obtain ⟨p, same, parts, told, built⟩ := statement.exists_production
    cases p with
    | loopStatement =>
      cases same
      obtain ⟨⟨⟩, header, ⟨⟩⟩ := parts
      cases built
      obtain ⟨rest, shape, later⟩ := Says.exists_selector told
      cases shape
      exact later
    | expression | assignment | cycleStatement | whenStatement =>
      cases same
      cases built
    | _ => cases same
  · intro header
    exact @Says.node .loopStatement _ ((), h, ()) (header.lexeme (.selector .loop)) _ rfl

/-! ## Section 4: Sources of statements -/

section

variable {r : Selector} {source : String} {s : Statement}

/-- A source is parsed in a form to what its lexemes say behind the selector
    of the form. -/
theorem parseForm_of_says (other : r ≠ .when) {ls : List Lexeme}
    (written : Written ls source.toList)
    (told : Says [nt .start] (.selector r :: ls) (s, ())) :
    parseForm (.selected r) source = .ok s := by
  obtain ⟨tokens, scanned, same⟩ := scan_select r written
  obtain ⟨f, yield, values⟩ := told tokens same
  match f with
  | .cons t .nil =>
    rw [Forest.yield, Forest.yield, List.append_nil] at yield
    -- a selector other than that of `when` lists no alternatives
    have single : ¬ ListsAlternatives tokens := by
      obtain ⟨first, rest, rfl, spelled, -⟩ := List.map_eq_cons_iff.1 same
      intro alternatives
      have terminal : first.lexeme.terminal = .selector .when := alternatives
      rw [spelled] at terminal
      cases terminal
      exact other rfl
    have parsed := (parseTokens_eq_value yield single).trans (Forest.values_single.1 values)
    rw [parseForm, parse, scanned]
    exact Expr.statement_of_tokens parsed

/-- What is scanned behind the selector of a form is scanned from the source
    itself. -/
theorem exists_scanned_behind {tokens : List Token}
    (h : scan ((Form.selected r).select source) = .ok tokens) :
    ∃ first rest start, tokens = first :: rest ∧ first.lexeme = .selector r ∧
      scanFrom ((Form.selected r).select source) start 0 source.toList = .ok rest := by
  -- the selector is the first lexeme, and the scanner starts anew behind its blank
  have shape : ((Form.selected r).select source).toList =
      '%' :: (r.word.toList ++ ' ' :: source.toList) := by
    simp [Form.select]
  unfold scan at h
  rw [shape, scanFrom, scanHead_selector (startsApart_space _)] at h
  simp only [Nat.add_sub_cancel] at h
  rw [← String.length_toList, scanFrom_append, scanFrom_blank (by decide)] at h
  obtain ⟨rest, behind, rfl⟩ := eq_ok_of_bind_pure h
  exact ⟨_, rest, _, rfl, rfl, behind⟩

/-- What is parsed in a form is said behind the selector, by lexemes that the
    source is written with if they are plain. -/
theorem exists_says_of_parseForm (h : parseForm (.selected r) source = .ok s) :
    ∃ ls, Says [nt .start] (.selector r :: ls) (s, ()) ∧
      ((∀ l ∈ ls, l.IsPlain) → Written ls source.toList) := by
  obtain ⟨tokens, scanned, accepted⟩ := exists_tokens_of_bind h
  obtain ⟨t, yield, value⟩ := exists_tree_of_parseTokens accepted
  obtain ⟨first, rest, start, rfl, selector, behind⟩ := exists_scanned_behind scanned
  have told := (Forest.cons t .nil).says_yield (Forest.values_single.2 value)
  rw [Forest.yield, Forest.yield, List.append_nil, yield, List.map_cons, selector] at told
  refine ⟨rest.map Token.lexeme, told, fun plain => ?_⟩
  exact (laid_of_scanFrom behind).written fun token ht => plain _ (List.mem_map_of_mem ht)

end

/-- The arguments of a loop are the name of an item, `in`, a source and
    modifiers, and the header is that of the item and the source with the
    modifiers in this order. -/
theorem parseForm_loop_iff {text : String} {h : LoopHeader} :
    parseForm (.selected .loop) text = .ok (.loop h) ↔
      ∃ ls item source ms, Written ls text.toList ∧ SaysHeader ls item source ms ∧
        h = .of item source ms := by
  constructor
  · intro parsed
    obtain ⟨ls, told, written⟩ := exists_says_of_parseForm parsed
    obtain ⟨item, source, ms, header, made⟩ := says_loop.1 (says_loopStatement.1 told)
    exact ⟨ls, item, source, ms, written header.isPlain, header, made⟩
  · rintro ⟨ls, item, source, ms, written, header, made⟩
    have told := says_loopStatement.2 (says_loop.2 ⟨item, source, ms, header, made⟩)
    exact parseForm_of_says nofun written told

end Stencil
