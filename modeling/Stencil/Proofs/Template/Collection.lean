import Stencil.Proofs.Loop.Limit
import Stencil.Proofs.Statement.Header
import Stencil.Proofs.Template.Derivation
import Stencil.Proofs.Value.Bytes

/-! # Printing a collection

    There are three ways to print all items of a list, of bytes or of a
    range: print the collection itself, print each item inside a loop, or
    join the items with nothing in between.  They go through different parts
    of the engine, and write the same text. -/

namespace Stencil

/-! ## Section 1: Data that can be printed -/

namespace Native

mutual

/-- Does the datum consist of nil, booleans, numbers, texts, lists, bytes,
    dictionaries and ranges, with no integer that has too many digits to be
    written? -/
def Printable : Native → Prop
  | .int n => n.natAbs < Numeral.writeLimit
  | .list items => PrintableItems items
  | .dict entries => PrintableEntries entries
  | .range r => ∀ n ∈ r.members, n.natAbs < Numeral.writeLimit
  | .date _ | .loop _ => False
  | _ => True

/-- Can every item of a list be printed? -/
def PrintableItems : List Native → Prop
  | [] => True
  | n :: ns => n.Printable ∧ PrintableItems ns

/-- Can all keys and values of some entries be printed? -/
def PrintableEntries : List (Native × Native) → Prop
  | [] => True
  | (k, v) :: rest => k.Printable ∧ v.Printable ∧ PrintableEntries rest

end

theorem octet_lt_writeLimit {bs : List UInt8} {n : Int} (h : n ∈ octets bs) :
    n.natAbs < Numeral.writeLimit := by
  obtain ⟨b, -, rfl⟩ := List.mem_map.1 h
  exact Numeral.lt_writeLimit_of_short (Nat.lt_trans b.toNat_lt (by decide))

theorem exists_mapM_writeInt {ns : List Int} (h : ∀ n ∈ ns, n.natAbs < Numeral.writeLimit) :
    ∃ parts, ns.mapM writeInt = .ok parts := by
  induction ns with
  | nil => exact ⟨[], rfl⟩
  | cons n ns ih =>
    obtain ⟨here, later⟩ := List.forall_mem_cons.1 h
    obtain ⟨parts, written⟩ := ih later
    rw [List.mapM_cons, writeInt_of_lt here, written]
    exact ⟨_, rfl⟩

mutual

theorem Printable.exists_printAs (inspected : Bool) : (n : Native) → n.Printable →
    ∃ text, printAs inspected n = .ok text
  | .nil, _ | .bool _, _ | .float _, _ | .text _, _ => by
    rw [printAs]
    exact ⟨_, rfl⟩
  | .int n, h => by
    rw [Printable] at h
    rw [printAs, writeInt_of_lt h]
    exact ⟨_, rfl⟩
  | .list items, h => by
    rw [Printable] at h
    obtain ⟨parts, printed⟩ := PrintableItems.exists_printItems items h
    rw [printAs, printed]
    exact ⟨_, rfl⟩
  | .bytes bs, _ => by
    obtain ⟨parts, written⟩ := exists_mapM_writeInt fun n (h : n ∈ octets bs) =>
      octet_lt_writeLimit h
    rw [printAs, written]
    exact ⟨_, rfl⟩
  | .dict entries, h => by
    rw [Printable] at h
    obtain ⟨parts, printed⟩ := PrintableEntries.exists_printEntries entries h
    rw [printAs, printed]
    exact ⟨_, rfl⟩
  | .range r, h => by
    rw [Printable] at h
    obtain ⟨parts, written⟩ := exists_mapM_writeInt h
    rw [printAs, written]
    exact ⟨_, rfl⟩
  | .date _, h | .loop _, h => by
    rw [Printable] at h
    exact h.elim

theorem PrintableItems.exists_printItems : (ns : List Native) → PrintableItems ns →
    ∃ parts, printItems ns = .ok parts
  | [], _ => by
    rw [printItems]
    exact ⟨_, rfl⟩
  | n :: ns, h => by
    rw [PrintableItems] at h
    obtain ⟨part, first⟩ := Printable.exists_printAs false n h.1
    obtain ⟨parts, later⟩ := PrintableItems.exists_printItems ns h.2
    rw [printItems, first, later]
    exact ⟨_, rfl⟩

theorem PrintableEntries.exists_printEntries : (entries : List (Native × Native)) →
    PrintableEntries entries → ∃ parts, printEntries entries = .ok parts
  | [], _ => by
    rw [printEntries]
    exact ⟨_, rfl⟩
  | (k, v) :: rest, h => by
    rw [PrintableEntries] at h
    obtain ⟨key, first⟩ := Printable.exists_printAs true k h.1
    obtain ⟨value, second⟩ := Printable.exists_printAs true v h.2.1
    obtain ⟨parts, later⟩ := PrintableEntries.exists_printEntries rest h.2.2
    rw [printEntries, first, second, later]
    exact ⟨_, rfl⟩

end

theorem Printable.wrap {n : Native} (h : n.Printable) : ∃ v, n.wrap = .ok v ∧ v.native = n := by
  cases n with
  | date d =>
    rw [Printable] at h
    exact h.elim
  | loop p =>
    rw [Printable] at h
    exact h.elim
  | _ => exact ⟨_, rfl, rfl⟩

theorem printItems_eq (ns : List Native) : printItems ns = ns.mapM print := by
  induction ns with
  | nil => rfl
  | cons n ns ih =>
    rw [printItems, ih, List.mapM_cons]
    rfl

/-! ## Section 2: Collections -/

/-- Is the datum a collection of these items? -/
inductive IsCollection : Native → List Native → Prop
  | list (ns : List Native) : IsCollection (.list ns) ns
  | bytes (bs : List UInt8) : IsCollection (.bytes bs) ((octets bs).map .int)
  | range (r : Progression) : IsCollection (.range r) (r.members.map .int)

section

variable {n : Native} {ns : List Native} {texts : List String}

/-- The items can be printed, and wrapping them changes nothing. -/
theorem exists_printed (h : ∀ m ∈ ns, m.Printable) :
    ∃ texts vs, ns.mapM print = .ok texts ∧ Value.wrapAll ns = .ok vs ∧
      List.Forall₂ (fun (v : Value) text => v.native.print = .ok text) vs texts := by
  induction ns with
  | nil => exact ⟨[], [], rfl, rfl, .nil⟩
  | cons n ns ih =>
    obtain ⟨here, later⟩ := List.forall_mem_cons.1 h
    obtain ⟨text, printed⟩ := here.exists_printAs false
    obtain ⟨v, wrapped, same⟩ := here.wrap
    obtain ⟨texts, vs, printedAll, wrappedAll, each⟩ := ih later
    have first : v.native.print = .ok text := by
      rw [same]
      exact printed
    refine ⟨text :: texts, v :: vs, ?_, ?_, .cons first each⟩
    · rw [List.mapM_cons, printedAll, print, printed]
      rfl
    · rw [Value.wrapAll, wrapped, wrappedAll]
      rfl

theorem IsCollection.print (h : n.IsCollection ns) (printed : ns.mapM Native.print = .ok texts) :
    n.print = .ok (String.join texts) := by
  cases h with
  | list =>
    show printAs false (.list ns) = _
    rw [printAs, printItems_eq, printed]
    rfl
  | bytes bs =>
    have listed : (Native.bytes bs).print = _ := (Value.bytes_alike bs).print
    rw [listed]
    show printAs false (.list ((octets bs).map .int)) = _
    rw [printAs, printItems_eq, printed]
    rfl
  | range r =>
    have listed : (Native.range r).print = _ := r.print_eq
    rw [listed]
    show printAs false (.list (r.members.map .int)) = _
    rw [printAs, printItems_eq, printed]
    rfl

/-- The members of a range are listed if they can be counted. -/
theorem IsCollection.items (h : n.IsCollection ns) (counted : ns.length ≤ countLimit) :
    Filter.items n = .ok ns := by
  cases h with
  | list => rfl
  | bytes => rfl
  | range r => exact if_pos (r.length_listed ▸ counted)

/-- Printing items as characters is printing them. -/
theorem mapM_chars (ns : List Native) :
    ns.mapM Filter.chars = (ns.mapM Native.print).map (·.map String.toList) := by
  induction ns with
  | nil => rfl
  | cons n ns ih =>
    rw [List.mapM_cons, List.mapM_cons, ih, Filter.chars]
    cases n.print with
    | error cause => rfl
    | ok text => cases ns.mapM Native.print <;> rfl

theorem join_toList (texts : List String) :
    Text.join [] (texts.map String.toList) = (String.join texts).toList := by
  induction texts with
  | nil => rfl
  | cons text texts ih =>
    rw [String.join_cons, String.toList_append, ← ih]
    cases texts with
    | nil => exact (List.append_nil _).symm
    | cons next more =>
      show text.toList ++ [] ++ _ = _
      rw [List.append_nil]

/-- Joined with nothing in between, the printed items are one text. -/
theorem IsCollection.join (h : n.IsCollection ns) (counted : ns.length ≤ countLimit)
    (printed : ns.mapM Native.print = .ok texts) :
    Filter.join n (.text "") = .ok (.text (String.join texts)) := by
  have pieces : ns.mapM Filter.chars = .ok (texts.map String.toList) := by
    rw [mapM_chars, printed]
    rfl
  have separator : Filter.chars (.text "") = .ok [] := rfl
  rw [Filter.join, separator, h.items counted]
  show (ns.mapM Filter.chars >>= _) = _
  rw [pieces]
  show Except.ok (Filter.ofChars (Text.join [] (texts.map String.toList))) = _
  rw [join_toList, Filter.ofChars, String.ofList_toList]

/-- A loop over the collection walks along its items. -/
theorem IsCollection.source (h : n.IsCollection ns) (counted : ns.length ≤ countLimit) :
    ∃ v walked, n.wrap = .ok v ∧ v.native = n ∧ v.source = .ok walked ∧
      walked.count = .ok ns.length ∧ walked.values = Value.wrapAll ns := by
  cases h with
  | list => exact ⟨.sequence ns, .items ns, rfl, rfl, rfl, rfl, rfl⟩
  | bytes bs => exact ⟨.bytes bs, .items _, rfl, rfl, rfl, rfl, rfl⟩
  | range r =>
    refine ⟨.range r, .range r, rfl, rfl, rfl, ?_, ?_⟩
    · rw [r.length_listed] at counted ⊢
      exact Progression.count_eq counted
    · exact (Value.wrapAll_ints r.members).symm

end

end Native

/-! ## Section 3: Steps that write -/

/-- Does a step, in this state, end with `a` and write these pieces?  The
    scope behind it is the one in front. -/
def Render.Writes {α : Type} (x : Render α) (run : Run) (a : α) (pieces : List String) : Prop :=
  ∃ after, x run = .ok a after ∧ after.scope = run.scope ∧
    after.out.toList = run.out.toList ++ pieces

namespace Render

variable {α β : Type} {engine : Engine} {run : Run}

theorem writes_pure (a : α) (run : Run) : Writes (pure a) run a [] :=
  ⟨run, rfl, rfl, (List.append_nil _).symm⟩

theorem writes_write (piece : String) (run : Run) : Writes (write piece) run () [piece] :=
  ⟨run.writing [piece], write_eq piece run, rfl, run.out_writing [piece]⟩

theorem writes_of_logged {x : Render α} {a : α} {after : Run} (logged : run.Logged engine after)
    (ended : x run = .ok a after) : Writes x run a [] := by
  refine ⟨after, ended, logged.scope_eq, ?_⟩
  rw [logged.same, List.append_nil]

theorem eval_ends {e : Expr} {v : Value} (run : Run)
    (value : e.eval (engine.filters.atMoment run.moment) run.scope.names = .ok v) :
    ∃ after, run.Logged engine after ∧ eval engine e run = .ok v after := by
  obtain ⟨after, logged, ended⟩ := evaluate_ends engine
    (fun filters names => e.eval filters names)
    (fun filters names => e.passedThrough filters names) run
  rw [value] at ended
  exact ⟨after, logged, ended⟩

theorem Writes.bind {x : Render α} {f : α → Render β} {a : α} {b : β} {first second : List String}
    (h : Writes x run a first) (k : ∀ mid, mid.scope = run.scope → Writes (f a) mid b second) :
    Writes (x >>= f) run b (first ++ second) := by
  obtain ⟨mid, ended, scope, out⟩ := h
  obtain ⟨after, later, scope', out'⟩ := k mid scope
  refine ⟨after, (bind_of_ok ended).trans later, scope'.trans scope, ?_⟩
  rw [out', out, List.append_assoc]

/-- A frame that the step inside has left as it was is gone behind it. -/
theorem Writes.inFrame {x : Render α} {a : α} {frame : Frame} {pieces : List String}
    (h : Writes x { run with scope := .child frame run.scope } a pieces) :
    Writes (inFrame frame x) run a pieces := by
  obtain ⟨after, ended, scope, out⟩ := h
  refine ⟨_, inFrame_of_ok ended, ?_, out⟩
  show after.scope.leave = run.scope
  rw [scope]
  rfl

/-- A body that writes a piece for each item writes them one after another. -/
theorem writes_forItems {item : String} {length : Nat} {body : Render Signal} {s : Scope}
    {vs : List Value} {pieces : List String}
    (each : List.Forall₂ (fun v piece => ∀ (run : Run) (position : LoopPosition),
      run.scope = .child (iterationFrame item v position) s →
      Writes body run .none [piece]) vs pieces) (i : Nat) {run : Run} (here : run.scope = s) :
    Writes (forItems engine item length body i vs) run () pieces := by
  induction each generalizing i run with
  | nil => exact writes_pure () run
  | @cons v piece vs pieces first _ ih =>
    have iteration : Writes (inFrame (iterationFrame item v ⟨i, length, none⟩) body) run .none
        [piece] := by
      apply Writes.inFrame
      apply first
      rw [here]
    rw [forItems]
    exact iteration.bind fun mid unchanged => ih (i + 1) (unchanged.trans here)

/-- A loop whose body writes a piece for each item writes them one after
    another. -/
theorem writes_runFor {h : LoopHeader} {body : Render Signal} {items : List Value}
    {pieces : List String}
    (atEntry : h.items (engine.filters.atMoment run.moment) run.scope.names = .ok items)
    (within : h.Within engine run)
    (each : List.Forall₂ (fun v piece => ∀ (inner : Run) (position : LoopPosition),
      inner.scope = .child (iterationFrame h.item v position) (.child .loop run.scope) →
      Writes body inner .none [piece]) items pieces) :
    Writes (runFor engine h body (some (pure .none))) run .none pieces := by
  obtain ⟨start, logged, values⟩ := forValues_ends atEntry within
  refine (writes_of_logged logged values).bind fun mid unchanged => ?_
  cases each with
  | nil => exact writes_pure Signal.none mid
  | @cons v piece vs pieces first later =>
    have calls : Writes (inFrame .loop (forItems engine h.item (v :: vs).length body 0 (v :: vs)))
        mid () (piece :: pieces) := by
      apply Writes.inFrame
      refine writes_forItems (.cons first later) 0 ?_
      rw [unchanged]
    have whole : Writes (inFrame .loop _ >>= fun _ => pure Signal.none) mid .none
        ((piece :: pieces) ++ []) := calls.bind fun after _ => writes_pure Signal.none after
    rw [List.append_nil] at whole
    exact whole

end Render

namespace Node

open Render

variable {engine : Engine} {run : Run}

theorem writes_nil (run : Run) : Writes (renderAll engine []) run .none [] := by
  rw [renderAll]
  exact writes_pure Signal.none run

/-- Nodes write what the first one writes, then what the others write. -/
theorem writes_cons {n : Node} {ns : List Node} {first later : List String}
    (here : Writes (render engine n) run.next .none first)
    (behind : ∀ mid, mid.scope = run.scope → Writes (renderAll engine ns) mid .none later) :
    Writes (renderAll engine (n :: ns)) run .none (first ++ later) := by
  obtain ⟨mid, rendered, scope, out⟩ := here
  obtain ⟨after, ended, scope', out'⟩ := behind mid scope
  refine ⟨after, renderAll_cons_signal.2 ⟨.none, mid, rendered, ?_⟩, scope'.trans scope, ?_⟩
  · rw [if_pos rfl]
    exact ended
  · rw [out', out, List.append_assoc]
    rfl

/-- A node alone writes what it writes at the next moment. -/
theorem writes_single {n : Node} {pieces : List String}
    (h : Writes (render engine n) run.next .none pieces) :
    Writes (renderAll engine [n]) run .none pieces := by
  have whole : Writes (renderAll engine [n]) run .none (pieces ++ []) :=
    writes_cons h fun mid _ => writes_nil mid
  rwa [List.append_nil] at whole

theorem writes_output {e : Expr} {place : Place} {v : Value} {text : String}
    (value : ∀ moment, e.eval (engine.filters.atMoment moment) run.scope.names = .ok v)
    (printed : v.native.print = .ok text) :
    Writes (renderAll engine [.output e place]) run .none [text] := by
  refine writes_single ?_
  obtain ⟨after, logged, ended⟩ := eval_ends run.next (value run.next.moment)
  rw [render]
  refine (writes_of_logged logged ended).bind fun mid _ => ?_
  rw [printed]
  refine (writes_pure text mid).bind fun mid _ => ?_
  exact (writes_write text mid).bind fun mid _ => writes_pure Signal.none mid

end Node

theorem Template.result_of_writes {t : Template} {engine : Engine} {scope : Scope}
    {pieces : List String}
    (h : Render.Writes (Node.renderAll engine t.nodes) ⟨scope, #[], #[], engine.moment⟩ .none
      pieces) : (t.renderIn engine scope).result = .ok (String.join pieces) := by
  obtain ⟨after, ended, -, out⟩ := h
  have rendered : t.render engine ⟨scope, #[], #[], engine.moment⟩ = .ok () after :=
    Render.bind_of_ok ended
  rw [renderIn, rendered]
  show Except.ok (String.join after.out.toList) = _
  rw [out]
  rfl

/-- A template that just prints an expression. -/
theorem Template.result_output {engine : Engine} {scope : Scope} {e : Expr} {place : Place}
    {source : String} {v : Value} {text : String}
    (value : ∀ moment, e.eval (engine.filters.atMoment moment) scope.names = .ok v)
    (printed : v.native.print = .ok text) :
    (renderIn engine ⟨[.output e place], source⟩ scope).result = .ok text := by
  have pieces : (renderIn engine ⟨[.output e place], source⟩ scope).result =
      .ok (String.join [text]) := by
    apply result_of_writes
    exact Node.writes_output value printed
  simpa using pieces

/-! ## Section 4: Three templates -/

/-- A template that prints a collection. -/
def printSource : String :=
  "\x7b\x7b xs \x7d\x7d"

/-- A template that prints each item of a collection. -/
def loopSource : String :=
  "\x7b% for x in xs %\x7d\x7b\x7b x \x7d\x7d\x7b% endfor %\x7d"

/-- A template that joins the items of a collection. -/
def joinSource : String :=
  "\x7b\x7b xs | join: '' \x7d\x7d"

/-- The mark of the collection. -/
def printMark : Mark :=
  ⟨printSource, ⟨1, 1⟩, "xs", false, false⟩

/-- The mark of the item in the loop. -/
def itemMark : Mark :=
  ⟨"\x7b\x7b x \x7d\x7d", ⟨1, 18⟩, "x", false, false⟩

/-- The mark of the loop. -/
def loopMark : Mark :=
  ⟨"\x7b% for x in xs %\x7d", ⟨1, 1⟩, "x in xs", false, false⟩

/-- The mark of the filter. -/
def joinMark : Mark :=
  ⟨joinSource, ⟨1, 1⟩, "xs | join: ''", false, false⟩

/-- The only piece of the template with the loop. -/
def loopPiece : Piece :=
  .loop loopMark [.output itemMark] none ⟨"\x7b% endfor %\x7d", ⟨1, 25⟩, "", false, false⟩

/-- The header of the loop. -/
def loopHeader : LoopHeader :=
  ⟨"x", .var "xs", false, none, none, none⟩

/-- The items joined with nothing in between. -/
def joinedItems : Expr :=
  .filter (.var "xs") "join" [.literal (.text "")]

open Grammar Piece Text

theorem scan_printSource : Chunk.scan printSource = .ok (allChunks [.output printMark]) := by
  rfl

theorem scan_loopSource : Chunk.scan loopSource = .ok (allChunks [loopPiece]) := by
  rfl

theorem scan_joinSource : Chunk.scan joinSource = .ok (allChunks [.output joinMark]) := by
  rfl

theorem written_xs : Written [.identifier "xs"] "xs".toList :=
  written_lastWord (w := "xs") (isName_ofList rfl rfl) rfl

theorem expression_printMark : printMark.expression = .ok (.var "xs") := by
  have written : (Expr.var "xs").IsWritten "xs" := written_xs
  rw [Mark.expression, printMark, Expr.parseExpression_written written]
  rfl

theorem expression_itemMark : itemMark.expression = .ok (.var "x") := by
  have written : (Expr.var "x").IsWritten "x" :=
    written_lastWord (w := "x") (isName_ofList rfl rfl) rfl
  rw [Mark.expression, itemMark, Expr.parseExpression_written written]
  rfl

theorem expression_joinMark : joinMark.expression = .ok joinedItems := by
  have argument : Written [.literal (.text "")] " ''".toList :=
    .blank rfl (.lexeme (.text (s := "") (.inl rfl) nofun) .nil)
  have called : Written [.operator .pipe, .keyword "join", .literal (.text "")]
      " | join: ''".toList :=
    .blank rfl (.lexeme (Lexeme.written_pipe _)
      (.blank rfl (.lexeme (@Lexeme.Written.keyword _ "join" (isName_ofList rfl rfl)) argument)))
  have written : joinedItems.IsWritten "xs | join: ''" :=
    .lexeme (Lexeme.written_word (w := "xs") (isName_ofList rfl rfl) rfl _) called
  rw [Mark.expression, joinMark, Expr.parseExpression_written written]
  rfl

theorem loopHeader_loopMark : loopMark.loopHeader = .ok loopHeader := by
  have source : Written [.operator .isIn, .identifier "xs"] " in xs".toList :=
    .blank rfl (.lexeme (Lexeme.written_word (w := "in") (isName_ofList rfl rfl) rfl _)
      (.blank rfl written_xs))
  have written : Written [.identifier "x", .operator .isIn, .identifier "xs"] "x in xs".toList :=
    .lexeme (Lexeme.written_word (w := "x") (isName_ofList rfl rfl) rfl _) source
  have told : Says [nt .filtered] [.identifier "xs"] (.var "xs", ()) :=
    (Expr.reads (.var "xs")).place .filtered
  have parsed : parseForm (.selected .loop) "x in xs" = .ok (.loop loopHeader) :=
    parseForm_loop_iff.2 ⟨_, "x", .var "xs", [], written, ⟨_, [], rfl, told, .nil⟩, rfl⟩
  rw [Mark.loopHeader, Mark.selected, loopMark, parsed]
  rfl

/-- The template that prints a collection. -/
def printTemplate : Template :=
  ⟨[.output (.var "xs") printMark.place], printSource⟩

/-- The template that prints each item of a collection. -/
def loopTemplate : Template :=
  ⟨[.loop loopHeader [.output (.var "x") itemMark.place] none loopMark.place], loopSource⟩

/-- The template that joins the items of a collection. -/
def joinTemplate : Template :=
  ⟨[.output joinedItems joinMark.place], joinSource⟩

theorem compile_printSource : Template.compile printSource = .ok printTemplate := by
  refine Template.compile_of_pieces scan_printSource ?_
  simp only [nodes, node, expression_printMark]
  rfl

theorem compile_loopSource : Template.compile loopSource = .ok loopTemplate := by
  refine Template.compile_of_pieces scan_loopSource ?_
  simp only [loopPiece, nodes, node, otherwiseNodes, loopHeader_loopMark, expression_itemMark]
  rfl

theorem compile_joinSource : Template.compile joinSource = .ok joinTemplate := by
  refine Template.compile_of_pieces scan_joinSource ?_
  simp only [nodes, node, expression_joinMark]
  rfl

/-! ## Section 5: The text of a collection -/

section

variable {engine : Engine} {scope : Scope} {n : Native} {ns : List Native} {texts : List String}

theorem eval_bound {v : Value} {name : String} (bound : scope.get? name = some n)
    (wrapped : n.wrap = .ok v) (filters : Registry) :
    (Expr.var name).eval filters scope.names = .ok v := by
  rw [Expr.eval, Scope.names, bound]
  exact wrapped

/-- The loop walks along the items of the collection. -/
theorem loopHeader_items (bound : scope.get? "xs" = some n) (collection : n.IsCollection ns)
    (countable : ns.length ≤ countLimit)
    (within : Settings.allows engine.settings.maxLoopItems ns.length = true) (moment : Nat) :
    loopHeader.items (engine.filters.atMoment moment) scope.names = Value.wrapAll ns ∧
      ∀ run : Run, run.scope = scope → loopHeader.Within engine run := by
  obtain ⟨v, walked, wrapped, -, source, counted, values⟩ := collection.source countable
  have walks (filters : Registry) : loopHeader.walked filters scope.names = .ok walked := by
    rw [LoopHeader.walked, loopHeader, eval_bound bound wrapped]
    show (v.source >>= _) = _
    rw [source]
    rfl
  refine ⟨?_, fun run here => ⟨walked, ns.length, ?_, counted, within⟩⟩
  · rw [LoopHeader.items, walks]
    exact values
  · rw [here]
    exact walks _

theorem eval_joinedItems (joins : engine.filters.find? "join" =
      (Filter.standard true).find? "join") (bound : scope.get? "xs" = some n)
    (collection : n.IsCollection ns) (counted : ns.length ≤ countLimit)
    (printed : ns.mapM Native.print = .ok texts) (moment : Nat) :
    joinedItems.eval (engine.filters.atMoment moment) scope.names =
      .ok (.string (String.join texts)) := by
  obtain ⟨v, walked, wrapped, same, -⟩ := collection.source counted
  have joined := collection.join counted printed
  have found : (engine.filters.atMoment moment).find? "join" =
      (Filter.standard true).find? "join" := joins
  rw [joinedItems, Expr.eval, eval_bound bound wrapped]
  show Registry.invoke _ "join" v [.string ""] = _
  rw [Registry.invoke, found]
  show Registry.conclude "join" _ ((Filter.join v.native (.text "")).mapError Fault.operand) = _
  rw [same, joined]
  rfl

theorem result_printTemplate (bound : scope.get? "xs" = some n) (collection : n.IsCollection ns)
    (counted : ns.length ≤ countLimit) (printed : ns.mapM Native.print = .ok texts) :
    (printTemplate.renderIn engine scope).result = .ok (String.join texts) := by
  obtain ⟨v, walked, wrapped, same, -⟩ := collection.source counted
  have whole : v.native.print = .ok (String.join texts) := by
    rw [same]
    exact collection.print printed
  exact Template.result_output (fun moment => eval_bound bound wrapped _) whole

theorem result_loopTemplate {vs : List Value} (bound : scope.get? "xs" = some n)
    (collection : n.IsCollection ns) (counted : ns.length ≤ countLimit)
    (within : Settings.allows engine.settings.maxLoopItems ns.length = true)
    (wrapped : Value.wrapAll ns = .ok vs)
    (each : List.Forall₂ (fun (v : Value) text => v.native.print = .ok text) vs texts) :
    (loopTemplate.renderIn engine scope).result = .ok (String.join texts) := by
  obtain ⟨atEntry, limited⟩ :=
    loopHeader_items bound collection counted within (engine.moment + 1)
  rw [wrapped] at atEntry
  apply Template.result_of_writes
  apply Node.writes_single
  rw [Node.render, Node.renderOption]
  refine Render.writes_runFor atEntry (limited _ rfl) (each.imp ?_)
  -- the body prints the item, which stands in the frame of the iteration
  intro v text printed inner position here
  have item : inner.scope.get? "x" = some v.native := by
    rw [here, show loopHeader.item = "x" from rfl, iterationFrame_eq (by decide)]
    rfl
  exact Node.writes_output (fun moment => eval_bound item v.wrap_native _) printed

theorem result_joinTemplate
    (joins : engine.filters.find? "join" = (Filter.standard true).find? "join")
    (bound : scope.get? "xs" = some n) (collection : n.IsCollection ns)
    (counted : ns.length ≤ countLimit) (printed : ns.mapM Native.print = .ok texts) :
    (joinTemplate.renderIn engine scope).result = .ok (String.join texts) := by
  have joined : (Value.string (String.join texts)).native.print = .ok (String.join texts) := by
    show Native.printAs false (.text _) = _
    rw [Native.printAs]
    rfl
  exact Template.result_output
    (fun moment => eval_joinedItems joins bound collection counted printed moment) joined

/-- A collection prints the same text in all three ways: the texts of its
    items, one behind the other.  Its items must be printable, no more than
    can be counted, and no more than a loop may have. -/
theorem collection_prints_alike
    (joins : engine.filters.find? "join" = (Filter.standard true).find? "join")
    (bound : scope.get? "xs" = some n) (collection : n.IsCollection ns)
    (counted : ns.length ≤ countLimit) (printable : ∀ m ∈ ns, m.Printable)
    (within : Settings.allows engine.settings.maxLoopItems ns.length = true) :
    ∃ texts, ns.mapM Native.print = .ok texts ∧
      ∀ source ∈ [printSource, loopSource, joinSource], ∃ t : Template,
        Template.compile source = .ok t ∧
        (t.renderIn engine scope).result = .ok (String.join texts) := by
  obtain ⟨texts, vs, printed, wrapped, each⟩ := Native.exists_printed printable
  have byLoop := result_loopTemplate bound collection counted within wrapped each
  refine ⟨texts, printed, ?_⟩
  simp only [List.forall_mem_cons]
  have joined := result_joinTemplate joins bound collection counted printed
  exact ⟨⟨printTemplate, compile_printSource,
      result_printTemplate bound collection counted printed⟩,
    ⟨loopTemplate, compile_loopSource, byLoop⟩, ⟨joinTemplate, compile_joinSource, joined⟩, nofun⟩

end

/-- Items of various kinds. -/
def mixedItems : List Native :=
  [.int 7, .nil, .text "a", .list [.bool true, .nil], .dict [(.text "k", .int 1)],
    .range (.between 2 3), .bytes [104, 105]]

theorem mixedItems_printable : ∀ m ∈ mixedItems, m.Printable := by
  have digit {n : Int} (small : n.natAbs < 1000) : n.natAbs < Numeral.writeLimit :=
    Numeral.lt_writeLimit_of_short small
  simp only [mixedItems, List.forall_mem_cons]
  have members : (Native.range (.between 2 3)).Printable := by
    have small : ∀ n ∈ (Progression.between 2 3).members, n.natAbs < 1000 := by decide
    exact fun n hn => digit (small n hn)
  exact ⟨digit (by decide), trivial, trivial, ⟨trivial, trivial, trivial⟩,
    ⟨trivial, digit (by decide), trivial⟩, members, trivial, nofun⟩

theorem mixedItems_print_alike :
    (Engine.standard .standard).filters.find? "join" = (Filter.standard true).find? "join" ∧
    (Scope.ofBindings [("xs", .list mixedItems)]).get? "xs" = some (.list mixedItems) ∧
    mixedItems.length ≤ countLimit ∧ (∀ m ∈ mixedItems, m.Printable) ∧
    Settings.allows Settings.standard.maxLoopItems mixedItems.length = true ∧
    ∃ texts, mixedItems.mapM Native.print = .ok texts ∧
      ∀ source ∈ [printSource, loopSource, joinSource], ∃ t : Template,
        Template.compile source = .ok t ∧
        (t.renderIn (Engine.standard .standard)
          (Scope.ofBindings [("xs", .list mixedItems)])).result = .ok (String.join texts) := by
  have joins : (Engine.standard .standard).filters.find? "join" =
      (Filter.standard true).find? "join" := rfl
  have bound : (Scope.ofBindings [("xs", .list mixedItems)]).get? "xs" =
      some (.list mixedItems) := rfl
  have within : Settings.allows Settings.standard.maxLoopItems mixedItems.length = true := by
    decide
  have counted : mixedItems.length ≤ countLimit := by decide
  refine ⟨joins, bound, counted, mixedItems_printable, within, ?_⟩
  exact collection_prints_alike joins bound (.list mixedItems) counted mixedItems_printable within

end Stencil
