import Stencil.Native.Display
import Stencil.Statement.Parse
import Stencil.Template.Node

/-! # Compiling templates

    Chunks become nodes in one pass from left to right.  Blocks under way
    are kept on a stack; a clause or end tag belongs to the innermost block
    or is refused.  The arguments of a tag are parsed when the pass comes
    to it, so the first fault in the order of the source is the one that is
    reported. -/

namespace Stencil

/-! ## Section 1: Arguments -/

/-- Blames the mark that a source was taken from. -/
def atMark {α : Type} (m : Mark) (result : Except Fault α) : Except Failure α :=
  result.mapError fun fault => fault.failure.blame m.place

/-- The expression in a mark. -/
def Mark.expression (m : Mark) : Except Failure Expr :=
  atMark m (parseExpression m.args)

/-- The arguments of a mark in a selected form, of which `pick` takes what
    the form consists of. -/
def Mark.selected {α : Type} (m : Mark) (s : Selector) (pick : Statement → Option α) :
    Except Failure α :=
  atMark m do
    match pick (← parseForm (.selected s) m.args) with
    | some a => return a
    | none => throw (.malformed (.notExpression m.args))

/-- The header of a loop in a mark. -/
def Mark.loopHeader (m : Mark) : Except Failure LoopHeader :=
  m.selected .loop fun
    | .loop h => some h
    | _ => none

/-- The cycle in a mark. -/
def Mark.cycle (m : Mark) : Except Failure Cycle :=
  m.selected .cycle fun
    | .cycle c => some c
    | _ => none

/-- The assignment in a mark. -/
def Mark.assignment (m : Mark) : Except Failure (String × Expr) :=
  m.selected .assign fun
    | .assignment name e => some (name, e)
    | _ => none

/-- The alternatives in a mark. -/
def Mark.alternatives (m : Mark) : Except Failure (List Expr) :=
  m.selected .when fun
    | .when es => some es
    | _ => none

/-! ## Section 2: Blocks under way -/

/-- A block under way, with what is known of it before the body at hand. -/
inductive Block where
  | loop (header : LoopHeader)
  | loopElse (header : LoopHeader) (body : List Node)
  | table (header : LoopHeader)
  | branch (negated : Bool) (done : List (Expr × List Node)) (condition : Expr)
  | branchElse (negated : Bool) (done : List (Expr × List Node))
  | choice (subject : Expr)
  | clause (subject : Expr) (done : List (List Expr × List Node)) (alternatives : List Expr)
  | choiceElse (subject : Expr) (done : List (List Expr × List Node))

/-- The tag that ends a block. -/
def Block.endTag : Block → String
  | .loop _ | .loopElse _ _ => "endfor"
  | .table _ => "endtablerow"
  | .branch negated _ _ | .branchElse negated _ => if negated then "endunless" else "endif"
  | .choice _ | .clause _ _ _ | .choiceElse _ _ => "endcase"

/-- The node of a block that ends with the given body. -/
def Block.close (place : Place) (body : List Node) : Block → Node
  | .loop h => .loop h body none place
  | .loopElse h items => .loop h items (some body) place
  | .table h => .table h body place
  | .branch negated done condition => .branch negated (done ++ [(condition, body)]) none place
  | .branchElse negated done => .branch negated done (some body) place
  | .choice subject => .choice subject [] none place
  | .clause subject done alternatives =>
    .choice subject (done ++ [(alternatives, body)]) none place
  | .choiceElse subject done => .choice subject done (some body) place

/-- The block after an `else`, if one may stand in it. -/
def Block.otherwise? (body : List Node) : Block → Option Block
  | .loop h => some (.loopElse h body)
  | .branch negated done condition => some (.branchElse negated (done ++ [(condition, body)]))
  | .choice subject => some (.choiceElse subject [])
  | .clause subject done alternatives =>
    some (.choiceElse subject (done ++ [(alternatives, body)]))
  | _ => none

/-- The block after an `elsif` with a condition, if one may stand in it. -/
def Block.elsif? (body : List Node) (next : Expr) : Block → Option Block
  | .branch negated done condition => some (.branch negated (done ++ [(condition, body)]) next)
  | _ => none

/-- The block after a `when` with alternatives, if one may stand in it. -/
def Block.when? (body : List Node) (next : List Expr) : Block → Option Block
  | .choice subject => some (.clause subject [] next)
  | .clause subject done alternatives =>
    some (.clause subject (done ++ [(alternatives, body)]) next)
  | _ => none

/-! ## Section 3: What a tag does -/

/-- What a tag does at its place. -/
inductive Role where
  | loop
  | table
  | branch (negated : Bool)
  | choice
  | assign
  | cycle
  | signal (s : Signal)
  | elsif
  | when
  | otherwise
  | close
  | refused (cause : Malformed)

/-- Tags that only stand inside blocks. -/
def innerTags : List String :=
  ["else", "elsif", "when", "endfor", "endtablerow", "endif", "endunless", "endcase", "endraw",
    "endcomment"]

/-- What a tag does outside blocks, or inside one that it does not belong
    to. -/
def Role.standing (name args : String) : Role :=
  match name with
  | "for" => .loop
  | "tablerow" => .table
  | "if" => .branch false
  | "unless" => .branch true
  | "case" => .choice
  | "assign" => .assign
  | "cycle" => .cycle
  | "break" => if args = "" then .signal .stop else .refused (.noArguments name)
  | "continue" => if args = "" then .signal .next else .refused (.noArguments name)
  | _ =>
    if innerTags.contains name then .refused (.unexpectedTag name)
    else .refused (.undefinedTag name)

/-- What a tag does inside a block, if it belongs to the block. -/
def Block.role? (b : Block) (name : String) : Option Role :=
  if name = b.endTag then some .close
  else match b, name with
    | .loop _, "else" => some .otherwise
    | .branch _ _ _, "else" => some .otherwise
    | .branch _ _ _, "elsif" => some .elsif
    | .choice _, "else" => some .otherwise
    | .choice _, "when" => some .when
    | .clause _ _ _, "else" => some .otherwise
    | .clause _ _ _, "when" => some .when
    | _, _ => none

/-- The form in which a tag's arguments are parsed. -/
def Role.form? : Role → Option Form
  | .loop | .table => some (.selected .loop)
  | .assign => some (.selected .assign)
  | .cycle => some (.selected .cycle)
  | .when => some (.selected .when)
  | .branch _ | .choice | .elsif => some .expression
  | .signal _ | .otherwise | .close | .refused _ => none

/-! ## Section 4: The pass -/

/-- A block on the stack: its opening tag, and the nodes in front of it,
    reversed. -/
structure Opened where
  block : Block
  tag : String
  place : Place
  before : List Node

/-- The pass so far: the nodes of the body at hand, reversed, and the blocks
    around it, the innermost first. -/
structure Assembly where
  nodes : List Node
  opened : List Opened

namespace Assembly

/-- The body at hand. -/
def body (a : Assembly) : List Node :=
  a.nodes.reverse

/-- Adds a node to the body at hand. -/
def push (a : Assembly) (n : Node) : Assembly :=
  { a with nodes := n :: a.nodes }

/-- Opens a block. -/
def enter (a : Assembly) (tag : String) (place : Place) (block : Block) : Assembly :=
  ⟨[], ⟨block, tag, place, a.nodes⟩ :: a.opened⟩

/-- Goes on with a changed innermost block and an empty body. -/
def turn (a : Assembly) (change : List Node → Block → Option Block) : Assembly :=
  match a.opened with
  | [] => a
  | o :: rest =>
    match change a.body o.block with
    | some block => ⟨[], { o with block := block } :: rest⟩
    | none => a

/-- Ends the innermost block. -/
def leave (a : Assembly) : Assembly :=
  match a.opened with
  | [] => a
  | o :: rest => ⟨o.block.close o.place a.body :: o.before, rest⟩

/-- What a tag does at its place in the pass. -/
def role (a : Assembly) (name args : String) : Role :=
  match a.opened.head?.bind (·.block.role? name) with
  | some role => role
  | none => .standing name args

/-- Takes in a tag. -/
def tag (a : Assembly) (name : String) (m : Mark) : Except Failure Assembly :=
  match a.role name m.args with
  | .loop => do return a.enter name m.place (.loop (← m.loopHeader))
  | .table => do return a.enter name m.place (.table (← m.loopHeader))
  | .branch negated => do return a.enter name m.place (.branch negated [] (← m.expression))
  | .choice => do return a.enter name m.place (.choice (← m.expression))
  | .assign => do
    let (target, e) ← m.assignment
    return a.push (.assign target e m.place)
  | .cycle => do return a.push (.cycle (← m.cycle) m.place)
  | .signal s => .ok (a.push (.signal s m.place))
  | .elsif => do
    let condition ← m.expression
    return a.turn fun body => Block.elsif? body condition
  | .when => do
    let alternatives ← m.alternatives
    return a.turn fun body => Block.when? body alternatives
  | .otherwise => .ok (a.turn Block.otherwise?)
  | .close => .ok a.leave
  | .refused cause => .error ((Fault.malformed cause).failure.blame m.place)

/-- Takes in a chunk. -/
def chunk (a : Assembly) : Chunk → Except Failure Assembly
  | .text s _ => .ok (a.push (.text s))
  | .output m => do return a.push (.output (← m.expression) m.place)
  | .tag name m => a.tag name m

/-- Ends the pass, which must not leave a block open. -/
def finish (a : Assembly) : Except Failure (List Node) :=
  match a.opened with
  | [] => .ok a.body
  | o :: _ => .error ((Fault.malformed (.unterminated o.tag)).failure.blame o.place)

end Assembly

/-- The nodes of a list of chunks. -/
def compileChunks (chunks : List Chunk) : Except Failure (List Node) := do
  let a ← chunks.foldlM Assembly.chunk ⟨[], []⟩
  a.finish

/-- Compiles a template. -/
def Template.compile (source : String) : Except Failure Template := do
  let chunks ← Chunk.scan source
  let nodes ← compileChunks chunks
  return ⟨nodes, source⟩

/-! ## Section 5: The debug log of a compilation -/

/-- The lines about parsing a source: the source, and its terminals if it
    can be scanned. -/
def parseLines (source : String) : List String :=
  ("parse " ++ Text.quote source) ::
    match scan source with
    | .ok tokens =>
      ["scan " ++ Text.quote source ++ " -> [" ++
        commaSeparated (tokens.map fun t => Text.quote t.terminal.name) ++ "]"]
    | .error _ => []

/-- The lines about a chunk. -/
def Assembly.chunkLines (a : Assembly) : Chunk → List String
  | .text _ _ => []
  | .output m => parseLines m.args
  | .tag name m =>
    match (a.role name m.args).form? with
    | some form => parseLines (form.select m.args)
    | none => []

/-- The lines about the chunks that the pass comes to. -/
def Assembly.lines (a : Assembly) : List Chunk → List String
  | [] => []
  | c :: rest =>
    a.chunkLines c ++
      match a.chunk c with
      | .ok a => a.lines rest
      | .error _ => []

/-- The lines about a compilation. -/
def Template.compileLines (source : String) : List String :=
  match Chunk.scan source with
  | .ok chunks =>
    ("template " ++ toString chunks.length ++ " chunks") :: Assembly.lines ⟨[], []⟩ chunks
  | .error _ => []

end Stencil
