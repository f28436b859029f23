import Mathlib.Data.List.Forall2
import Stencil.Proofs.Grammar.Contest
import Stencil.Proofs.Statement.Parse
import Stencil.Proofs.Token.Sound

/-! # Alternatives

    The alternatives of a clause stand one behind the other, with a comma or
    white space between neighbours.  Sources that are expressions by
    themselves come apart again when they are joined in this way, and each
    is the expression that it is by itself.  Only the arguments of a filter
    must have no comma behind them, since a comma there leads on to one more
    argument. -/

namespace Stencil

open Grammar Text

/-! ## Section 1: Lexemes with others behind -/

/-- Do all tokens that say these lexemes have trees with these symbols at
    their roots, which build these parts, and which are calm in front of
    anything but a comma, and in front of a comma too if it `may` follow? -/
def SaysApart (ss : List Symbol) (ls : List Lexeme) (parts : Parts ss) (may : Prop) : Prop :=
  ∀ tokens : List Token, tokens.map Token.lexeme = ls →
    ∃ f : Forest ss, f.yield = tokens ∧ f.values = .ok parts ∧
      ∀ tail, NoComma tail ∨ may → f.Calm tail

/-- Do the lexemes start with one that is no comma? -/
def StartsOrdinary (ls : List Lexeme) : Prop :=
  ∃ l rest, ls = l :: rest ∧ l ≠ .operator .comma

theorem StartsOrdinary.append {ls : List Lexeme} (h : StartsOrdinary ls) (more : List Lexeme) :
    StartsOrdinary (ls ++ more) := by
  obtain ⟨l, rest, rfl, other⟩ := h
  exact ⟨l, rest ++ more, rfl, other⟩

theorem StartsOrdinary.noComma {tokens : List Token}
    (h : StartsOrdinary (tokens.map Token.lexeme)) (tail : List Token) :
    NoComma (tokens ++ tail) := by
  obtain ⟨l, rest, same, other⟩ := h
  obtain ⟨t, tokens, rfl, rfl, -⟩ := List.map_eq_cons_iff.1 same
  intro comma
  have operator : t.lexeme.terminal = .operator .comma := comma
  cases spelled : t.lexeme with
  | operator o =>
    rw [spelled] at operator other
    cases operator
    exact other rfl
  | _ =>
    rw [spelled] at operator
    cases operator

namespace SaysApart

variable {ss : List Symbol} {ls more : List Lexeme} {parts : Parts ss} {may : Prop}

/-- A lexeme in front. -/
theorem lexeme (l : Lexeme) (h : SaysApart ss ls parts may) :
    SaysApart (.terminal l.terminal :: ss) (l :: ls) (lexemePart l, parts) may := by
  intro tokens same
  obtain ⟨token, rest, rfl, rfl, later⟩ := List.map_eq_cons_iff.1 same
  obtain ⟨f, yield, values, calm⟩ := h rest later
  refine ⟨.cons (.leaf token) f, ?_, ?_, fun tail ends => ⟨trivial, calm tail ends⟩⟩
  · show [token] ++ f.yield = token :: rest
    rw [yield, List.singleton_append]
  · show (f.values >>= fun parts => Except.ok (lexemePart token.lexeme, parts)) = _
    rw [values]
    rfl

/-- Lexemes of one symbol in front, where they may stand in front of a comma
    or no comma comes next. -/
theorem cons {s : Symbol} {part : s.Part} {first : Prop} (h : SaysApart [s] ls (part, ()) first)
    (k : SaysApart ss more parts may) (apart : StartsOrdinary more ∨ first) :
    SaysApart (s :: ss) (ls ++ more) (part, parts) may := by
  intro tokens same
  obtain ⟨front, rest, rfl, here, later⟩ := List.map_eq_append_iff.1 same
  obtain ⟨f, yield, values, calm⟩ := h front here
  obtain ⟨g, yields, others, calms⟩ := k rest later
  match f with
  | .cons t .nil =>
    rw [Forest.yield, Forest.yield, List.append_nil] at yield
    refine ⟨.cons t g, ?_, Forest.values_cons.2 ⟨Forest.values_single.1 values, others⟩,
      fun tail ends => ⟨?_, calms tail ends⟩⟩
    · rw [Forest.yield, yield, yields]
    -- what comes next is looked up in the lexemes of the other symbols
    · have behind : NoComma (g.yield ++ tail) ∨ first := by
        refine apart.imp_left fun ordinary => ?_
        rw [← later, ← yields] at ordinary
        exact ordinary.noComma tail
      exact (calm (g.yield ++ tail) behind).1

/-- A production on top. -/
theorem node (p : Production) {parts : Parts p.rhs} (h : SaysApart p.rhs ls parts may)
    {part : NonterminalPart p.lhs} (built : p.build parts = .ok part) (other : p.lhs ≠ .arguments) :
    SaysApart [nt p.lhs] ls (part, ()) may := by
  intro tokens same
  obtain ⟨f, yield, values, calm⟩ := h tokens same
  refine ⟨.cons (.node p f) .nil, ?_, Forest.values_single.2 (Tree.value_node.2 ⟨_, values, built⟩),
    fun tail ends => ⟨⟨?_, calm tail ends⟩, trivial⟩⟩
  · rw [Forest.yield, Tree.yield, Forest.yield, List.append_nil, yield]
  · rw [Production.contested, decide_eq_false other, Bool.false_and]

end SaysApart

/-! ## Section 2: Lists of alternatives -/

/-- Do the lexemes say the expression, so that it may be an alternative, and
    `may` a comma stand behind them? -/
structure Alternative (ls : List Lexeme) (e : Expr) (may : Prop) : Prop where
  reads : SaysApart [nt .cond] ls (e, ()) may
  starts : StartsOrdinary ls

/-- The lexemes of further alternatives, where a comma `may` stand behind
    the one in front or not. -/
inductive Trailing : Prop → List Lexeme → List Expr → Prop
  | nil {may : Prop} : Trailing may [] []
  | spaced {may next : Prop} {ls more : List Lexeme} {e : Expr} {es : List Expr} :
      Alternative ls e next → Trailing next more es → Trailing may (ls ++ more) (e :: es)
  | comma {may next : Prop} {ls more : List Lexeme} {e : Expr} {es : List Expr} : may →
      Alternative ls e next → Trailing next more es →
      Trailing may (.operator .comma :: (ls ++ more)) (e :: es)

/-- Alternatives behind others.  The grammar collects them from the left. -/
theorem says_trailing {may : Prop} {ls more : List Lexeme} {es others : List Expr}
    (trailing : Trailing may more others)
    (collected : SaysApart [nt .alternativeMore] ls (es, ()) may) :
    ∃ last, SaysApart [nt .alternativeMore] (ls ++ more) (es ++ others, ()) last := by
  -- on the alternatives to come: the next one joins those collected, and is the last of them then
  induction trailing generalizing ls es with
  | @nil may =>
    rw [List.append_nil, List.append_nil]
    exact ⟨may, collected⟩
  | @spaced _ next here _ e _ alternative _ ih =>
    have whole : SaysApart [nt .alternativeMore, nt .cond] (ls ++ here) (es, e, ()) next :=
      collected.cons alternative.reads (.inl alternative.starts)
    have added := ih (@SaysApart.node _ _ .alternativeAdd (es, e, ()) whole (es ++ [e]) rfl nofun)
    simpa using added
  | @comma _ next here _ e _ allowed alternative _ ih =>
    have whole : SaysApart [nt .alternativeMore, op .comma, nt .cond]
        (ls ++ .operator .comma :: here) (es, (), e, ()) next :=
      collected.cons (alternative.reads.lexeme (.operator .comma)) (.inr allowed)
    have added :=
      ih (@SaysApart.node _ _ .alternativeAddComma (es, (), e, ()) whole (es ++ [e]) rfl nofun)
    simpa using added

/-- All alternatives. -/
theorem says_alternatives {may : Prop} {ls more : List Lexeme} {e : Expr} {es : List Expr}
    (first : Alternative ls e may) (trailing : Trailing may more es) :
    ∃ last, SaysApart [nt .alternatives] (ls ++ more) (e :: es, ()) last := by
  -- the production is told by what follows the first: nothing, an alternative or a comma
  cases trailing with
  | nil =>
    rw [List.append_nil]
    exact ⟨may, @SaysApart.node _ _ .alternativesOne (e, ()) first.reads [e] rfl nofun⟩
  | @spaced _ next here further a others alternative trailing =>
    have started :=
      @SaysApart.node _ _ .alternativeOne (a, ()) alternative.reads [a] rfl nofun
    obtain ⟨last, collected⟩ := says_trailing trailing started
    have whole : SaysApart [nt .cond, nt .alternativeMore] _ (e, a :: others, ()) last :=
      first.reads.cons collected (.inl (alternative.starts.append further))
    exact ⟨last, @SaysApart.node _ _ .alternativesSome (e, a :: others, ()) whole _ rfl nofun⟩
  | @comma _ next here further a others allowed alternative trailing =>
    have started := @SaysApart.node _ _ .alternativeOneComma ((), a, ())
      (alternative.reads.lexeme (.operator .comma)) [a] rfl nofun
    obtain ⟨last, collected⟩ := says_trailing trailing started
    have whole : SaysApart [nt .cond, nt .alternativeMore] _ (e, a :: others, ()) last :=
      first.reads.cons collected (.inr allowed)
    exact ⟨last, @SaysApart.node _ _ .alternativesSome (e, a :: others, ()) whole _ rfl nofun⟩

/-- Tokens that say alternatives behind the selector are parsed to them. -/
theorem parseTokens_alternatives {may : Prop} {ls more : List Lexeme} {e : Expr} {es : List Expr}
    (first : Alternative ls e may) (trailing : Trailing may more es) {tokens : List Token}
    (same : tokens.map Token.lexeme = .selector .when :: (ls ++ more)) :
    parseTokens tokens = .ok (.when (e :: es)) := by
  obtain ⟨last, reads⟩ := says_alternatives first trailing
  have selected : SaysApart [sel .when, nt .alternatives] _ ((), e :: es, ()) last :=
    reads.lexeme (.selector .when)
  obtain ⟨f, rfl, values, calm⟩ := selected tokens same
  let t : Tree (.nonterminal .start) := .node .whenStatement f
  have noComma : NoComma [] := nofun
  have undisturbed : t.Calm [] := ⟨rfl, calm [] (.inl noComma)⟩
  have value : t.value = .ok (.when (e :: es)) := Tree.value_node.2 ⟨_, values, rfl⟩
  exact (parseTokens_yield undisturbed).trans value

/-! ## Section 3: The lexemes of an expression -/

/-- Is this a symbol of expressions? -/
def Grammar.Symbol.isOfExpression : Symbol → Bool
  | .terminal (.selector _) => false
  | .terminal (.operator o) => o ≠ .dot
  | .terminal _ => true
  | .nonterminal n =>
    n = .cond || n = .conj || n = .rel || n = .filtered || n = .arguments ||
      n = .argumentMore || n = .primary

theorem isOfExpression_rhs {p : Production} (h : (nt p.lhs).isOfExpression) :
    p.rhs.all Symbol.isOfExpression := by
  have all : ∀ p ∈ productions, (nt p.lhs).isOfExpression → p.rhs.all Symbol.isOfExpression := by
    decide +kernel
  exact all p (mem_productions p) h

theorem isPlain_of_terminal {l : Lexeme}
    (h : (Grammar.Symbol.terminal l.terminal).isOfExpression) : l.IsPlain := by
  cases l with
  | selector s => cases h
  | operator o => exact @of_decide_eq_true (o ≠ .dot) _ h
  | _ => trivial

mutual

/-- No selector and no point by itself is part of an expression. -/
theorem Grammar.Tree.isPlain {s : Symbol} : (t : Tree s) → s.isOfExpression →
    ∀ token ∈ t.yield, token.lexeme.IsPlain
  | .leaf _, h, _, ht => by
    obtain rfl := List.mem_singleton.1 ht
    exact isPlain_of_terminal h
  | .node _ children, h, token, ht => children.isPlain (isOfExpression_rhs h) token ht

theorem Grammar.Forest.isPlain {ss : List Symbol} : (f : Forest ss) →
    ss.all Symbol.isOfExpression → ∀ token ∈ f.yield, token.lexeme.IsPlain
  | .nil, _, _, ht => absurd ht List.not_mem_nil
  | .cons head rest, h, token, ht => by
    rw [List.all_cons, Bool.and_eq_true] at h
    rcases List.mem_append.1 ht with here | later
    · exact head.isPlain h.1 token here
    · exact rest.isPlain h.2 token later

end

theorem startsOrdinary_of_cond (f : Forest [nt .cond]) :
    StartsOrdinary (f.yield.map Token.lexeme) := by
  -- both are read off the first sets of the grammar
  have some_token : (firsts.ofSymbols [nt .cond]).nullable = false := by decide +kernel
  have noComma : (firsts.ofSymbols [nt .cond]).first.mem (.operator .comma) = false := by
    decide +kernel
  have described := f.describes
  cases yield : f.yield with
  | nil =>
    rw [yield] at described
    exact absurd (described.symm.trans some_token) nofun
  | cons t ts =>
    rw [yield] at described
    refine ⟨t.lexeme, ts.map Token.lexeme, rfl, fun comma => ?_⟩
    have first : (firsts.ofSymbols [nt .cond]).first.mem t.lexeme.terminal = true := described
    rw [comma] at first
    exact absurd (first.symm.trans noComma) nofun

/-- The tokens of an expression may be an alternative, and a comma may stand
    behind them unless they end in the arguments of a filter. -/
theorem alternative_of_cond {f : Forest [nt .cond]} {e : Expr} (values : f.values = .ok (e, ())) :
    Alternative (f.yield.map Token.lexeme) e (¬ Grammar.EndsInArguments f.yield) := by
  refine ⟨fun tokens same => ?_, startsOrdinary_of_cond f⟩
  -- the lexemes may stand elsewhere, with tokens of their own
  obtain ⟨g, rfl, alike⟩ := f.exists_alike tokens same
  refine ⟨g, rfl, alike.trans values, fun tail behind => ?_⟩
  rcases behind with noComma | closed
  · exact g.calm tail true rfl fun _ => noComma
  · exact (g.calm_or_ends tail rfl).resolve_right fun ends => closed (ends.of_alike same.symm)

/-! ## Section 4: Sources of expressions -/

/-- What an expression statement is made of. -/
theorem Grammar.Tree.exists_cond {r : Symbol} (t : Tree r) (h : r = .nonterminal .start)
    {e : Expr} (value : h ▸ t.value = Except.ok (.expression e)) :
    ∃ f : Forest [nt .cond], f.yield = t.yield ∧ f.values = .ok (e, ()) := by
  match t with
  | .leaf _ => cases h
  | .node p children =>
    -- of the productions of a statement, only one gives an expression
    cases p with
    | expression =>
      obtain ⟨parts, values, built⟩ := (Tree.value_node (p := .expression)).1 value
      cases built
      exact ⟨children, rfl, values⟩
    | assignment =>
      obtain ⟨parts, -, built⟩ := (Tree.value_node (p := .assignment)).1 value
      cases built
    | cycleStatement =>
      obtain ⟨parts, -, built⟩ := (Tree.value_node (p := .cycleStatement)).1 value
      cases built
    | loopStatement =>
      obtain ⟨parts, -, built⟩ := (Tree.value_node (p := .loopStatement)).1 value
      cases built
    | whenStatement =>
      obtain ⟨parts, -, built⟩ := (Tree.value_node (p := .whenStatement)).1 value
      cases built
    | _ => cases h

/-- A source is parsed by scanning it first.  It is said of any parser, so
    that the tables of this one are not computed. -/
theorem exists_tokens_of_bind {parser : List Token → Except Malformed Statement}
    {scanned : Except Fault (List Token)} {s : Statement}
    (h : (scanned >>= fun ts => (parser ts).mapError Fault.malformed) = .ok s) :
    ∃ tokens, scanned = .ok tokens ∧ parser tokens = .ok s := by
  obtain ⟨tokens, same, parsed⟩ := eq_ok_of_bind h
  exact ⟨tokens, same, eq_ok_of_mapError parsed⟩

/-- Does the source end in the arguments of a filter?  A comma behind it
    leads on to one more argument. -/
def TakesArguments (source : String) : Prop :=
  ∃ tokens, scan source = .ok tokens ∧ Grammar.EndsInArguments tokens

/-- A source that is an expression by itself may be an alternative. -/
theorem exists_alternative {source : String} {e : Expr} (h : parseExpression source = .ok e) :
    ∃ ls, Written ls source.toList ∧ Alternative ls e (¬ TakesArguments source) := by
  have parsed : parse source = .ok (.expression e) := by
    unfold parseExpression at h
    obtain ⟨s, read, only⟩ := eq_ok_of_bind h
    cases s <;> cases only
    exact read
  obtain ⟨tokens, scanned, accepted⟩ := exists_tokens_of_bind parsed
  obtain ⟨t, rfl, value⟩ := exists_tree_of_parseTokens accepted
  obtain ⟨f, yield, values⟩ := t.exists_cond rfl value
  rw [← yield] at scanned
  have alternative := alternative_of_cond values
  have same : (¬ TakesArguments source) = ¬ Grammar.EndsInArguments f.yield := by
    refine propext (not_congr ⟨?_, fun ends => ⟨_, scanned, ends⟩⟩)
    rintro ⟨tokens, others, ends⟩
    obtain rfl : f.yield = tokens := Except.ok.inj (scanned.symm.trans others)
    exact ends
  rw [← same] at alternative
  exact ⟨_, written_of_scan scanned (f.isPlain rfl), alternative⟩

/-! ## Section 5: Joined sources -/

/-- Sources one behind the other, with white space or a comma between
    neighbours, where a comma may stand behind those that `allow` it. -/
inductive Joined (allow : String → Prop) : List String → String → Prop
  | one (source : String) : Joined allow [source] source
  | spaced (source blanks : String) {joined : String} {sources : List String} :
      blanks ≠ "" → blanks.toList.all isBlank → Joined allow sources joined →
      Joined allow (source :: sources) (source ++ (blanks ++ joined))
  | comma (source before behind : String) {joined : String} {sources : List String} :
      allow source → before.toList.all isBlank → behind.toList.all isBlank →
      Joined allow sources joined →
      Joined allow (source :: sources) (source ++ (before ++ ("," ++ (behind ++ joined))))

/-- Joined sources that are expressions by themselves list alternatives. -/
theorem Joined.exists_alternatives {sources : List String} {joined : String}
    (h : Joined (¬ TakesArguments ·) sources joined)
    (each : ∀ source ∈ sources, ∃ e, parseExpression source = .ok e) :
    ∃ ls e may more es, Written (ls ++ more) joined.toList ∧ Alternative ls e may ∧
      Trailing may more es ∧
      List.Forall₂ (fun source e => parseExpression source = .ok e) sources (e :: es) := by
  -- on the sources: what stands behind one starts apart from its lexemes, so both are scanned
  -- as they are alone
  induction h with
  | one source =>
    obtain ⟨e, parsed⟩ := each source List.mem_cons_self
    obtain ⟨ls, written, alternative⟩ := exists_alternative parsed
    refine ⟨ls, e, _, [], [], ?_, alternative, .nil, .cons parsed .nil⟩
    rwa [List.append_nil]
  | @spaced source blanks joined sources some_blank space _ ih =>
    obtain ⟨⟨e, parsed⟩, others⟩ := List.forall_mem_cons.1 each
    obtain ⟨ls, written, alternative⟩ := exists_alternative parsed
    obtain ⟨next, a, may, more, es, later, first, trailing, parts⟩ := ih others
    refine ⟨ls, e, _, next ++ more, a :: es, ?_, alternative, .spaced first trailing,
      .cons parsed parts⟩
    have space := List.all_eq_true.1 space
    have apart : StartsApart (blanks.toList ++ joined.toList) :=
      startsApart_blanks space fun none => absurd (String.toList_eq_nil_iff.1 none) some_blank
    rw [String.toList_append, String.toList_append]
    exact written.append (later.blanks space) apart
  | @comma source before behind joined sources allowed space spaceBehind _ ih =>
    obtain ⟨⟨e, parsed⟩, others⟩ := List.forall_mem_cons.1 each
    obtain ⟨ls, written, alternative⟩ := exists_alternative parsed
    obtain ⟨next, a, may, more, es, later, first, trailing, parts⟩ := ih others
    refine ⟨ls, e, _, .operator .comma :: (next ++ more), a :: es, ?_, alternative,
      .comma allowed first trailing, .cons parsed parts⟩
    have space := List.all_eq_true.1 space
    have list := (later.blanks (List.all_eq_true.1 spaceBehind)).comma.blanks space
    have apart : StartsApart (before.toList ++ ',' :: (behind.toList ++ joined.toList)) := by
      refine startsApart_blanks space fun _ => ?_
      rintro c ⟨⟩
      exact .inr rfl
    simp only [String.toList_append]
    exact written.append list apart

/-! ## Section 6: Clauses -/

/-- What is scanned of lexemes behind the selector of a form. -/
theorem scan_select (s : Selector) {source : String} {ls : List Lexeme}
    (h : Written ls source.toList) :
    ∃ tokens, scan ((Form.selected s).select source) = .ok tokens ∧
      tokens.map Token.lexeme = .selector s :: ls := by
  have shape : ((Form.selected s).select source).toList =
      '%' :: (s.word.toList ++ ' ' :: source.toList) := by
    simp [Form.select]
  obtain ⟨tokens, later, same⟩ := scanFrom_written (.blank (c := ' ') rfl h)
    ((Form.selected s).select source) (1 + s.word.toList.length)
  unfold scan
  rw [shape, scanFrom, scanHead_selector (startsApart_space _)]
  simp only [Nat.add_sub_cancel]
  rw [← String.length_toList, scanFrom_append, later]
  exact ⟨_, rfl, by rw [List.map_cons, same]⟩

/-- A clause in which alternatives are written. -/
theorem parseForm_of_written {source : String} {may : Prop} {ls more : List Lexeme} {e : Expr}
    {es : List Expr} (written : Written (ls ++ more) source.toList) (first : Alternative ls e may)
    (trailing : Trailing may more es) :
    parseForm (.selected .when) source = .ok (.when (e :: es)) := by
  obtain ⟨tokens, scanned, same⟩ := scan_select .when written
  rw [parseForm, parse, scanned]
  exact Expr.statement_of_tokens (parseTokens_alternatives first trailing same)

/-- A clause whose alternatives are joined sources has one alternative for
    each source: the expression that the source is by itself. -/
theorem parseForm_alternatives {sources : List String} {joined : String}
    (h : Joined (¬ TakesArguments ·) sources joined)
    (each : ∀ source ∈ sources, ∃ e, parseExpression source = .ok e) :
    ∃ es, parseForm (.selected .when) joined = .ok (.when es) ∧
      List.Forall₂ (fun source e => parseExpression source = .ok e) sources es := by
  obtain ⟨ls, e, may, more, es, written, first, trailing, parts⟩ := h.exists_alternatives each
  exact ⟨e :: es, parseForm_of_written written first trailing, parts⟩

/-! ## Section 7: A comma behind arguments -/

/-- Arguments stand behind a keyword. -/
theorem not_takesArguments {source : String} {ls : List Lexeme} (h : Written ls source.toList)
    (other : ∀ l ∈ ls, l.terminal ≠ .keyword) : ¬ TakesArguments source := by
  rintro ⟨tokens, scanned, before, name, args, rfl, named, -⟩
  obtain ⟨others, again, rfl⟩ := scan_written h
  obtain rfl := Except.ok.inj (scanned.symm.trans again)
  exact other name.lexeme (List.mem_map_of_mem (by simp)) named

theorem written_name : Written [.identifier "c"] "c".toList :=
  written_lastWord (w := "c") (isName_ofList rfl rfl) rfl

/-- The lexemes of a filter with an argument. -/
def appliedLexemes : List Lexeme :=
  [.identifier "a", .operator .pipe, .keyword "f", .identifier "b"]

theorem written_applied : Written appliedLexemes "a | f: b".toList := by
  have name {c : Char} (start : isNameStart c = true) : IsName [c] := isName_ofList start rfl
  have argument : Written [.identifier "b"] " b".toList :=
    .blank rfl (written_lastWord (w := "b") (name rfl) rfl)
  have called : Written [.operator .pipe, .keyword "f", .identifier "b"] " | f: b".toList :=
    .blank rfl (.lexeme (Lexeme.written_pipe _)
      (.blank rfl (.lexeme (@Lexeme.Written.keyword _ "f" (name rfl)) argument)))
  exact .lexeme (Lexeme.written_word (w := "a") (name rfl) rfl _) called

theorem parseExpression_name : parseExpression "c" = .ok (.var "c") :=
  Expr.parseExpression_written written_name

theorem parseExpression_applied :
    parseExpression "a | f: b" = .ok (.filter (.var "a") "f" [.var "b"]) :=
  Expr.parseExpression_written written_applied

/-- With a comma and a name behind, the arguments are two. -/
theorem parseExpression_appliedFurther :
    parseExpression "a | f: b, c" = .ok (.filter (.var "a") "f" [.var "b", .var "c"]) := by
  have behind : Written [.operator .comma, .identifier "c"] ", c".toList :=
    Written.comma (.blank rfl written_name)
  have apart : StartsApart ", c".toList := by
    rintro c ⟨⟩
    exact .inr rfl
  exact Expr.parseExpression_written (written_applied.append behind apart)

theorem joinedNames_alternatives :
    Joined (¬ TakesArguments ·) ["c", "a | f: b", "c"] "c, a | f: b c" ∧
      (∀ source ∈ ["c", "a | f: b", "c"], ∃ e, parseExpression source = .ok e) ∧
      ∃ es, parseForm (.selected .when) "c, a | f: b c" = .ok (.when es) ∧
        List.Forall₂ (fun source e => parseExpression source = .ok e)
          ["c", "a | f: b", "c"] es := by
  have closed : ¬ TakesArguments "c" := not_takesArguments written_name (by decide)
  have joined : Joined (¬ TakesArguments ·) ["c", "a | f: b", "c"] "c, a | f: b c" :=
    .comma "c" "" " " closed rfl rfl (.spaced "a | f: b" " " (by decide) rfl (.one "c"))
  have each : ∀ source ∈ ["c", "a | f: b", "c"], ∃ e, parseExpression source = .ok e := by
    simp [parseExpression_name, parseExpression_applied]
  exact ⟨joined, each, parseForm_alternatives joined each⟩

/-- So a comma behind a filter's arguments is not always one between
    alternatives: here it is one between arguments. -/
theorem joinedArguments_merged :
    ¬ ∀ (sources : List String) (joined : String), Joined (fun _ => True) sources joined →
      (∀ source ∈ sources, ∃ e, parseExpression source = .ok e) →
      ∃ es, parseForm (.selected .when) joined = .ok (.when es) ∧
        es.length = sources.length := by
  intro always
  have joined : Joined (fun _ => True) ["a | f: b", "c"] "a | f: b, c" :=
    .comma "a | f: b" "" " " trivial rfl rfl (.one "c")
  have each : ∀ source ∈ ["a | f: b", "c"], ∃ e, parseExpression source = .ok e := by
    simp [parseExpression_name, parseExpression_applied]
  obtain ⟨es, listed, length⟩ := always _ _ joined each
  -- the joined sources are one expression, and so a clause with one alternative
  obtain ⟨ls, written, alternative⟩ := exists_alternative parseExpression_appliedFurther
  have merged := parseForm_of_written (by rwa [List.append_nil]) alternative .nil
  rw [merged] at listed
  cases listed
  cases length

end Stencil
