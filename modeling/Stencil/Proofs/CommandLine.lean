import Stencil.CommandLine
import Stencil.Proofs.Document.Reading
import Stencil.Proofs.Report.Message

/-! # How the rendering of a file ends

    A run for a template file prints the output of the template and ends
    well, or prints nothing but a message and ends with the code for a
    failure.  What gets past these two endings is listed here: paths that
    lead to no file or to none at all, templates that are no UTF-8, bindings
    that YAML cannot read, and what no report covers. -/

namespace Stencil.CommandLine

/-! ## Section 1: Endings -/

/-- The run prints the output, and ends well. -/
def Run.Prints (r : Run) (output : String) : Prop :=
  r.out = output ∧ r.ending = .exit 0

/-- The run prints no output but a message, with the debug log in front of
    it, and ends with the code for a failure. -/
def Run.Refuses (r : Run) : Prop :=
  r.out = "" ∧ (∃ log message, message ≠ "" ∧ r.err = log ++ message ++ "\n") ∧
    r.ending = .exit 1

/-- A fault ends the run before there is output. -/
def Run.Breaks (r : Run) (cause : Escape) : Prop :=
  r.out = "" ∧ r.ending = .escaped cause

/-- Does the run print just what `prints` holds of, and break for just the
    causes that `breaks` holds of?  If there is nothing of either, it is
    refused. -/
structure Run.Ends (r : Run) (prints : String → Prop) (breaks : Escape → Prop) : Prop where
  prints_iff (output : String) : r.Prints output ↔ prints output
  breaks_iff (cause : Escape) : r.Breaks cause ↔ breaks cause
  refuses : (∀ output, ¬ prints output) → (∀ cause, ¬ breaks cause) → r.Refuses

/-- Does a step towards a run hand on just what `gives` holds of, and break
    the run for just the causes that `breaks` holds of?  Whatever else ends
    the run refuses it. -/
inductive Settles {α : Type} (gives : α → Prop) (breaks : Escape → Prop) : Except Run α → Prop
  | gives {a : α} : (∀ b, gives b ↔ b = a) → (∀ cause, ¬ breaks cause) →
    Settles gives breaks (.ok a)
  | breaks {cause : Escape} : (∀ a, ¬ gives a) → (∀ other, breaks other ↔ other = cause) →
    Settles gives breaks (.error (.cutOff cause))
  | refuses {r : Run} : r.Refuses → (∀ a, ¬ gives a) → (∀ cause, ¬ breaks cause) →
    Settles gives breaks (.error r)

/-- The run of a computation, whether a step has ended it early or not. -/
def Run.ofResult : Except Run Run → Run
  | .ok run => run
  | .error run => run

section

variable {r : Run} {prints : String → Prop} {breaks : Escape → Prop}

theorem Run.refused_refuses {message : String} (h : message ≠ "") : (Run.refused message).Refuses :=
  ⟨rfl, ⟨"", message, h, by rw [String.empty_append]; rfl⟩, rfl⟩

theorem Run.cutOff_breaks (cause : Escape) : (Run.cutOff cause).Breaks cause :=
  ⟨rfl, rfl⟩

theorem Run.Prints.ends {output : String} (h : r.Prints output)
    (alone : ∀ other, prints other ↔ other = output) (whole : ∀ cause, ¬ breaks cause) :
    r.Ends prints breaks where
  prints_iff other := by
    rw [alone, Run.Prints, h.1, h.2]
    exact ⟨fun p => p.1.symm, fun same => ⟨same.symm, rfl⟩⟩
  breaks_iff cause := by
    rw [Run.Breaks, h.2]
    exact iff_of_false (fun broken => nomatch broken.2) (whole cause)
  refuses nothing _ := absurd ((alone output).2 rfl) (nothing output)

theorem Run.Breaks.ends {cause : Escape} (h : r.Breaks cause)
    (alone : ∀ other, breaks other ↔ other = cause) (silent : ∀ output, ¬ prints output) :
    r.Ends prints breaks where
  prints_iff output := by
    rw [Run.Prints, h.2]
    exact iff_of_false (fun p => nomatch p.2) (silent output)
  breaks_iff other := by
    rw [alone, Run.Breaks, h.1, h.2]
    exact ⟨fun broken => (Ending.escaped.inj broken.2).symm, fun same => ⟨rfl, by rw [same]⟩⟩
  refuses _ nothing := absurd ((alone cause).2 rfl) (nothing cause)

theorem Run.Refuses.ends (h : r.Refuses) (silent : ∀ output, ¬ prints output)
    (whole : ∀ cause, ¬ breaks cause) : r.Ends prints breaks where
  prints_iff output := by
    rw [Run.Prints, h.2.2]
    exact iff_of_false (fun p => nomatch p.2) (silent output)
  breaks_iff cause := by
    rw [Run.Breaks, h.2.2]
    exact iff_of_false (fun broken => nomatch broken.2) (whole cause)
  refuses _ _ := h

theorem Run.Ends.congr {prints' : String → Prop} {breaks' : Escape → Prop}
    (h : r.Ends prints breaks) (samePrints : ∀ output, prints output ↔ prints' output)
    (sameBreaks : ∀ cause, breaks cause ↔ breaks' cause) : r.Ends prints' breaks' := by
  obtain rfl : prints = prints' := funext fun output => propext (samePrints output)
  obtain rfl : breaks = breaks' := funext fun cause => propext (sameBreaks cause)
  exact h

end

namespace Settles

variable {α β : Type} {x : Except Run α} {gives : α → Prop} {breaks : Escape → Prop}

theorem congr {gives' : α → Prop} {breaks' : Escape → Prop} (h : Settles gives breaks x)
    (sameGives : ∀ a, gives a ↔ gives' a) (sameBreaks : ∀ cause, breaks cause ↔ breaks' cause) :
    Settles gives' breaks' x := by
  obtain rfl : gives = gives' := funext fun a => propext (sameGives a)
  obtain rfl : breaks = breaks' := funext fun cause => propext (sameBreaks cause)
  exact h

/-- A step whose faults all break the run. -/
theorem ofFaults {ε : Type} (x : Except ε α) (escape : ε → Escape) :
    Settles (fun a => x = .ok a) (fun cause => ∃ fault, x = .error fault ∧ cause = escape fault)
      (x.mapError fun fault => .cutOff (escape fault)) := by
  cases x with
  | ok a => exact .gives (fun _ => ⟨fun | rfl => rfl, fun | rfl => rfl⟩) nofun
  | error fault =>
    exact .breaks nofun fun _ => ⟨fun | ⟨_, rfl, same⟩ => same, fun same => ⟨fault, rfl, same⟩⟩

/-- One step after another. -/
theorem bind {f : α → Except Run β} {later : α → β → Prop} {fails : α → Escape → Prop}
    (h : Settles gives breaks x) (k : ∀ a, gives a → Settles (later a) (fails a) (f a)) :
    Settles (fun b => ∃ a, gives a ∧ later a b)
      (fun cause => breaks cause ∨ ∃ a, gives a ∧ fails a cause) (x >>= f) := by
  cases h with
  | @gives a alone whole =>
    exact (k a ((alone a).2 rfl)).congr (by simp [alone]) (by simp [alone, whole])
  | breaks silent alone => exact .breaks (by simp [silent]) (by simp [silent, alone])
  | refuses refused silent whole =>
    exact .refuses refused (by simp [silent]) (by simp [silent, whole])

/-- A step whose result is changed. -/
theorem map (h : Settles gives breaks x) (f : α → β) :
    Settles (fun b => ∃ a, gives a ∧ b = f a) breaks (do return f (← x)) := by
  cases h with
  | gives alone whole => exact .gives (by simp [alone]) whole
  | breaks silent alone => exact .breaks (by simp [silent]) alone
  | refuses refused silent whole => exact .refuses refused (by simp [silent]) whole

/-- A run behind a step. -/
theorem ends {f : α → Except Run Run} {prints : α → String → Prop} {fails : α → Escape → Prop}
    (h : Settles gives breaks x)
    (k : ∀ a, gives a → (Run.ofResult (f a)).Ends (prints a) (fails a)) :
    (Run.ofResult (x >>= f)).Ends (fun output => ∃ a, gives a ∧ prints a output)
      fun cause => breaks cause ∨ ∃ a, gives a ∧ fails a cause := by
  cases h with
  | @gives a alone whole =>
    exact (k a ((alone a).2 rfl)).congr (by simp [alone]) (by simp [alone, whole])
  | @breaks cause silent alone =>
    exact (Run.cutOff_breaks cause).ends (by simp [silent, alone]) (by simp [silent])
  | refuses refused silent whole =>
    exact Run.Refuses.ends refused (by simp [silent]) (by simp [silent, whole])

end Settles

/-! ## Section 2: Files -/

/-- Does a path lead to something that is neither a file nor missing, which
    is what the escape is about? -/
inductive Astray (path : String) : FileTree.Entry → Escape → Prop
  | directory : Astray path .directory (.directory path)
  | throughFile : Astray path .throughFile (.throughFile path)
  | nameTooLong : Astray path .nameTooLong (.nameTooLong path)

/-- Does a path lead to a file with the text? -/
def Holds (entry : String → FileTree.Entry) (path text : String) : Prop :=
  isNoName path = false ∧
    ∃ bytes, entry path = .file bytes ∧ Text.Utf8.readText bytes = .ok text

/-- What keeps a template from being read without a message. -/
inductive TemplateLost (entry : String → FileTree.Entry) (path : String) : Escape → Prop
  | noName : isNoName path = true → TemplateLost entry path .nullCharacter
  | astray {cause : Escape} : isNoName path = false → Astray path (entry path) cause →
    TemplateLost entry path cause
  | encoding {bytes : List Nat} {cause : Text.Utf8.Fault} : isNoName path = false →
    entry path = .file bytes → Text.Utf8.readText bytes = .error cause →
    TemplateLost entry path (.encoding cause)

theorem missingFile_ne_empty (path : String) : missingFile path ≠ "" :=
  fun empty => absurd (String.append_eq_empty_iff.1 empty).1 (by decide)

theorem badBindings_ne_empty (path cause : String) : badBindings path cause ≠ "" := by
  simp [badBindings]

theorem fileBytes_settles (entry : String → FileTree.Entry) (path : String) :
    Settles (fun bytes => entry path = .file bytes) (Astray path (entry path))
      (fileBytes entry path) := by
  unfold fileBytes
  generalize entry path = found
  cases found with
  | nothing => exact .refuses (Run.refused_refuses (missingFile_ne_empty path)) nofun nofun
  | directory => exact .breaks nofun fun _ => ⟨by rintro ⟨⟩; rfl, by rintro rfl; exact .directory⟩
  | throughFile =>
    exact .breaks nofun fun _ => ⟨by rintro ⟨⟩; rfl, by rintro rfl; exact .throughFile⟩
  | nameTooLong =>
    exact .breaks nofun fun _ => ⟨by rintro ⟨⟩; rfl, by rintro rfl; exact .nameTooLong⟩
  | file bytes => exact .gives (fun _ => ⟨fun | rfl => rfl, fun | rfl => rfl⟩) nofun

theorem templateText_settles (entry : String → FileTree.Entry) (path : String) :
    Settles (Holds entry path) (TemplateLost entry path) (templateText entry path) := by
  unfold templateText
  cases named : isNoName path with
  | true =>
    rw [if_pos rfl]
    refine .breaks (fun _ held => nomatch named.symm.trans held.1) fun cause => ⟨?_, ?_⟩
    · rintro (_ | ⟨name, _⟩ | ⟨name, _, _⟩)
      · rfl
      · exact nomatch named.symm.trans name
      · exact nomatch named.symm.trans name
    · rintro rfl
      exact .noName named
  | false =>
    rw [if_neg Bool.false_ne_true]
    -- the path is a name, so only its entry and its bytes can be at fault
    refine ((fileBytes_settles entry path).bind fun bytes _ =>
      Settles.ofFaults (Text.Utf8.readText bytes) .encoding).congr ?_ ?_
    · exact fun text => ⟨fun held => ⟨named, held⟩, fun held => held.2⟩
    · intro cause
      constructor
      · rintro (astray | ⟨bytes, found, fault, undecoded, rfl⟩)
        · exact .astray named astray
        · exact .encoding named found undecoded
      · rintro (none | ⟨-, astray⟩ | ⟨-, found, undecoded⟩)
        · exact nomatch named.symm.trans none
        · exact .inl astray
        · exact .inr ⟨_, found, _, undecoded, rfl⟩

/-! ## Section 3: Bindings -/

/-- Does the file at the path, if there is one, give the bindings? -/
inductive Gives (readers : Readers) (entry : String → FileTree.Entry) :
    Option String → Bindings → Prop
  | without : Gives readers entry none []
  | empty {path text : String} : Holds entry path text →
    (Bindings.formatOf path text).read readers text = .ok .nil →
    Gives readers entry (some path) []
  | mapping {path text : String} {entries : List (Native × Native)} : Holds entry path text →
    (Bindings.formatOf path text).read readers text = .ok (.dict entries) →
    Gives readers entry (some path) (Bindings.ofEntries entries)

/-- What keeps bindings from being read without a message.  The document is
    none of YAML then, and none of JSON in a file for that. -/
inductive BindingsLost (readers : Readers) (entry : String → FileTree.Entry) (path : String) :
    Escape → Prop
  | astray {cause : Escape} : isNoName path = false → Astray path (entry path) cause →
    BindingsLost readers entry path cause
  | document {text : String} {cause : DocumentFault} : Holds entry path text → cause.IsUntold →
    readers.yaml text = .error cause →
    (Bindings.formatOf path text = .json → readers.json text = .error .malformed) →
    BindingsLost readers entry path (.bindings (.document cause))

section

variable {readers : Readers} {entry : String → FileTree.Entry}

theorem Gives.sound (reliable : readers.Reliable) {path : Option String} {names : Bindings}
    (h : Gives readers entry path names) : names.Sound := by
  cases h with
  | without => exact nofun
  | empty => exact nofun
  | mapping held read =>
    have sound := (Format.read_reads reliable _ _).of_ok read
    exact Bindings.sound_ofEntries (Native.sound_dict.1 sound)

theorem gives_some_iff {path : String} {names : Bindings} :
    Gives readers entry (some path) names ↔
      ∃ text data entries, Holds entry path text ∧
        (Bindings.formatOf path text).read readers text = .ok data ∧
        Bindings.entriesOf data = .ok entries ∧ names = Bindings.ofEntries entries := by
  constructor
  · rintro (_ | ⟨held, read⟩ | ⟨held, read⟩)
    · exact ⟨_, _, [], held, read, rfl, rfl⟩
    · exact ⟨_, _, _, held, read, rfl, rfl⟩
  · rintro ⟨text, data, entries, held, read, given, rfl⟩
    obtain ⟨rfl, rfl⟩ | rfl := Bindings.entriesOf_eq_ok.1 given
    · exact .empty held read
    · exact .mapping held read

theorem bindingsLost_iff (reliable : readers.Reliable) {path : String}
    (named : isNoName path = false) {cause : Escape} :
    BindingsLost readers entry path cause ↔ Astray path (entry path) cause ∨
      ∃ bytes, entry path = .file bytes ∧
        ∃ fault, (Bindings.load readers path bytes = .error fault ∧ fault.isReported = false) ∧
          cause = .bindings fault := by
  simp only [Bindings.load_unreported_iff]
  constructor
  · rintro (⟨-, astray⟩ | ⟨⟨-, bytes, found, decoded⟩, untold, unread, unparsed⟩)
    · exact .inl astray
    · have read := (Format.read_untold_iff reliable untold).2 ⟨unread, unparsed⟩
      exact .inr ⟨bytes, found, _, ⟨_, _, decoded, read, untold, rfl⟩, rfl⟩
  · rintro (astray | ⟨bytes, found, _, ⟨text, fault, decoded, read, untold, rfl⟩, rfl⟩)
    · exact .astray named astray
    · obtain ⟨unread, unparsed⟩ := (Format.read_untold_iff reliable untold).1 read
      exact .document ⟨named, bytes, found, decoded⟩ untold unread unparsed

theorem Run.ofBindingsFault_refuses {fault : BindingsFault} (told : fault.isReported = true)
    (path : String) : (Run.ofBindingsFault path fault).Refuses := by
  rw [ofBindingsFault, if_pos told]
  exact refused_refuses (badBindings_ne_empty path fault.message)

theorem load_settles (readers : Readers) (path : String) (bytes : List Nat) :
    Settles (fun entries => Bindings.load readers path bytes = .ok entries)
      (fun cause => ∃ fault,
        (Bindings.load readers path bytes = .error fault ∧ fault.isReported = false) ∧
        cause = .bindings fault)
      ((Bindings.load readers path bytes).mapError (Run.ofBindingsFault path)) := by
  generalize Bindings.load readers path bytes = loaded
  cases loaded with
  | ok entries => exact .gives (fun _ => ⟨fun | rfl => rfl, fun | rfl => rfl⟩) (by simp)
  | error fault =>
    show Settles _ _ (.error (Run.ofBindingsFault path fault))
    by_cases told : fault.isReported = true
    · exact .refuses (Run.ofBindingsFault_refuses told path) nofun (by simp [told])
    · rw [Run.ofBindingsFault, if_neg told]
      exact .breaks nofun (by simp [told])

theorem fileBindings_settles (reliable : readers.Reliable) (entry : String → FileTree.Entry)
    (path : String) :
    Settles (Gives readers entry (some path)) (BindingsLost readers entry path)
      (fileBindings readers entry path) := by
  unfold fileBindings
  cases named : isNoName path with
  | true =>
    rw [if_pos rfl]
    refine .refuses (Run.refused_refuses (badBindings_ne_empty path nullCharacter)) ?_ ?_
    · intro names given
      obtain ⟨_, _, _, held, -⟩ := gives_some_iff.1 given
      exact nomatch named.symm.trans held.1
    · rintro cause (⟨name, -⟩ | ⟨held, -⟩)
      · exact nomatch named.symm.trans name
      · exact nomatch named.symm.trans held.1
  | false =>
    rw [if_neg Bool.false_ne_true]
    -- what is loaded is told apart by `Gives` and `BindingsLost`, step by step
    refine ((fileBytes_settles entry path).bind fun bytes _ =>
      (load_settles readers path bytes).map Bindings.ofEntries).congr ?_ fun cause =>
        (bindingsLost_iff reliable named).symm
    intro names
    simp only [gives_some_iff, Bindings.load_eq_ok]
    constructor
    · rintro ⟨bytes, found, entries, ⟨text, data, decoded, read, given⟩, rfl⟩
      exact ⟨text, data, entries, ⟨named, bytes, found, decoded⟩, read, given, rfl⟩
    · rintro ⟨text, data, entries, ⟨-, bytes, found, decoded⟩, read, given, rfl⟩
      exact ⟨bytes, found, entries, ⟨text, data, decoded, read, given⟩, rfl⟩

end

/-! ## Section 4: Handled templates -/

/-- What breaks a run while a template is handled: a limit that nothing
    guards, or a place with too many digits for the message about it. -/
inductive Unreported (engine : Engine) (source : String) (names : Bindings) : Escape → Prop
  | limit {cause : OperandFault} : engine.ComesTo source names (.operand cause) →
    cause.IsUnguarded → Unreported engine source names (.fault (.operand cause))
  | unwritten {message : String} {m : Mark} :
    (engine.handle source names).report = .ok (.failure message (some m.place)) →
    m.StandsIn source → m.IsBeyond →
    Unreported engine source names (.fault (.operand (.numeral .tooLong)))

namespace Run

variable {h : Handled}

theorem ofHandled_prints {output : String} (done : h.report = .ok (.success output)) :
    (ofHandled h).Prints output := by
  unfold ofHandled
  rw [done]
  exact ⟨rfl, rfl⟩

theorem ofHandled_breaks {fault : Fault} (escaped : h.report = .error fault) :
    (ofHandled h).Breaks (.fault fault) := by
  unfold ofHandled
  rw [escaped]
  exact ⟨rfl, rfl⟩

variable {message : String} {place : Option Place}

theorem ofHandled_refuses (failed : h.report = .ok (.failure message place)) {text : String}
    (written : (Report.failure message place).formatError = .ok text) (told : text ≠ "") :
    (ofHandled h).Refuses := by
  unfold ofHandled
  simp only [failed, written]
  exact ⟨rfl, ⟨String.join h.log, text, told, rfl⟩, rfl⟩

theorem ofHandled_unwritten (failed : h.report = .ok (.failure message place))
    {cause : OperandFault}
    (unwritten : (Report.failure message place).formatError = .error cause) :
    (ofHandled h).Breaks (.fault (.operand cause)) := by
  unfold ofHandled
  simp only [failed, unwritten]
  exact ⟨rfl, rfl⟩

end Run

section

variable {settings : Settings} {source : String} {names : Bindings}

/-- A fault that leaves the engine is the only one to break the run. -/
theorem unreported_iff_of_error (sound : names.Sound) {fault : Fault}
    (escaped : ((Engine.standard settings).handle source names).report = .error fault)
    (cause : Escape) :
    Unreported (.standard settings) source names cause ↔ cause = .fault fault := by
  have comes := (Engine.handle_escapes_iff settings source sound fault).1 escaped
  constructor
  -- there is only one fault that handling comes to and that leaves the engine
  · rintro (⟨other, unguarded⟩ | ⟨failed, -, -⟩)
    · have again := (Engine.handle_escapes_iff settings source sound _).2 ⟨other, _, rfl, unguarded⟩
      rw [escaped] at again
      cases again
      rfl
    · rw [escaped] at failed
      cases failed
  · rintro rfl
    obtain ⟨comes, cause, rfl, unguarded⟩ := comes
    exact .limit comes unguarded

/-- Where there is a report, only a place beyond the limits breaks the run. -/
theorem unreported_iff_of_ok (sound : names.Sound) {report : Report}
    (handled : ((Engine.standard settings).handle source names).report = .ok report)
    (cause : Escape) :
    Unreported (.standard settings) source names cause ↔
      cause = .fault (.operand (.numeral .tooLong)) ∧ ∃ message m,
        report = .failure message (some (Mark.place m)) ∧ m.StandsIn source ∧ m.IsBeyond := by
  constructor
  · rintro (⟨comes, unguarded⟩ | ⟨failed, stands, beyond⟩)
    · have escaped := (Engine.handle_escapes_iff settings source sound _).2
        ⟨comes, _, rfl, unguarded⟩
      rw [handled] at escaped
      cases escaped
    · rw [handled] at failed
      cases failed
      exact ⟨rfl, _, _, rfl, stands, beyond⟩
  · rintro ⟨rfl, message, m, rfl, stands, beyond⟩
    exact .unwritten handled stands beyond

/-- A template that is handled prints its output or breaks the run, or else
    it is refused. -/
theorem ofHandled_ends (sound : names.Sound) :
    (Run.ofHandled ((Engine.standard settings).handle source names)).Ends
      ((Engine.standard settings).Yields source names)
      (Unreported (.standard settings) source names) := by
  cases handled : ((Engine.standard settings).handle source names).report with
  | error fault =>
    refine (Run.ofHandled_breaks handled).ends (unreported_iff_of_error sound handled) ?_
    intro output yields
    rw [← Engine.report_eq_success_iff, handled] at yields
    cases yields
  | ok report =>
    have breaks := unreported_iff_of_ok sound handled
    cases report with
    | success output =>
      refine (Run.ofHandled_prints handled).ends ?_ (by simp [breaks])
      intro other
      rw [← Engine.report_eq_success_iff, handled]
      exact ⟨fun | rfl => rfl, fun | rfl => rfl⟩
    | failure message place =>
      have silent (output : String) :
          ¬ (Engine.standard settings).Yields source names output := by
        rw [← Engine.report_eq_success_iff, handled]
        exact nofun
      obtain ⟨fault, rest, rfl⟩ := Engine.headed_of_handle handled
      have blamed : place = none ∨ ∃ m : Mark, m.StandsIn source ∧ place = some m.place := by
        obtain ⟨-, unplaced⟩ | ⟨-, placed⟩ := Engine.handle_blames handled
        · exact .inl unplaced
        · exact .inr placed
      obtain rfl | ⟨m, stands, rfl⟩ := blamed
      · have refused := Run.ofHandled_refuses handled (Report.formatError_unplaced fault rest)
          (Report.heading_append_ne_empty fault rest)
        exact refused.ends silent (by simp [breaks])
      · -- the message names the line and column, so both must be written
        by_cases beyond : m.IsBeyond
        · have unwritten := Run.ofHandled_unwritten handled (Report.formatError_beyond beyond)
          refine unwritten.ends (fun cause => ?_) silent
          rw [breaks]
          exact ⟨And.left, fun same => ⟨same, _, m, rfl, stands, beyond⟩⟩
        · obtain ⟨text, written, told⟩ := Report.exists_formatError fault rest beyond
          refine (Run.ofHandled_refuses handled written told).ends silent fun cause broken => ?_
          -- another mark beyond the limits would be at the same place
          obtain ⟨-, _, m', same, -, far⟩ := (breaks cause).1 broken
          have samePlace : m.place = m'.place := Option.some.inj (Report.failure.inj same).2
          exact beyond ((m.isBeyond_iff_of_place samePlace).2 far)

end

/-! ## Section 5: Whole runs -/

/-- The names that a run binds, or the run that ends for the lack of them. -/
def namesOf (readers : Readers) (entry : String → FileTree.Entry) :
    Option String → Except Run Bindings
  | some path => fileBindings readers entry path
  | none => .ok []

theorem renderFile_eq (readers : Readers) (engine : Engine) (entry : String → FileTree.Entry)
    (template : String) (bindings : Option String) :
    renderFile readers engine entry template bindings = Run.ofResult (do
      let source ← templateText entry template
      let names ← namesOf readers entry bindings
      return Run.ofHandled (engine.handle source names)) := by
  cases bindings <;> rfl

/-- Is it the output of the template in the file for the bindings in the
    other one? -/
def Delivers (readers : Readers) (engine : Engine) (entry : String → FileTree.Entry)
    (template : String) (bindings : Option String) (output : String) : Prop :=
  ∃ source names, Holds entry template source ∧ Gives readers entry bindings names ∧
    engine.Yields source names output

/-- What gets past both endings of a run.  The template is read first, then
    the bindings, and with both of them the template is handled. -/
inductive Slips (readers : Readers) (engine : Engine) (entry : String → FileTree.Entry)
    (template : String) (bindings : Option String) : Escape → Prop
  | template {cause : Escape} : TemplateLost entry template cause →
    Slips readers engine entry template bindings cause
  | bindings {source path : String} {cause : Escape} : Holds entry template source →
    bindings = some path → BindingsLost readers entry path cause →
    Slips readers engine entry template bindings cause
  | handling {source : String} {names : Bindings} {cause : Escape} :
    Holds entry template source → Gives readers entry bindings names →
    Unreported engine source names cause → Slips readers engine entry template bindings cause

theorem namesOf_settles {readers : Readers} (reliable : readers.Reliable)
    (entry : String → FileTree.Entry) (bindings : Option String) :
    Settles (Gives readers entry bindings)
      (fun cause => ∃ path, bindings = some path ∧ BindingsLost readers entry path cause)
      (namesOf readers entry bindings) := by
  cases bindings with
  | none => exact .gives (fun _ => ⟨by rintro ⟨⟩; rfl, by rintro rfl; exact .without⟩) (by simp)
  | some path => exact (fileBindings_settles reliable entry path).congr (fun _ => .rfl) (by simp)

/-- The run for a template file prints the output of the template and ends
    well if there is one, and breaks for what gets past its handlers.  In all
    other cases it is refused: it prints nothing but a message, and ends with
    the code for a failure.  So it is with all readers of documents that give
    data or a fault of their own. -/
theorem renderFile_ends {readers : Readers} (reliable : readers.Reliable) (settings : Settings)
    (entry : String → FileTree.Entry) (template : String) (bindings : Option String) :
    (renderFile readers (.standard settings) entry template bindings).Ends
      (Delivers readers (.standard settings) entry template bindings)
      (Slips readers (.standard settings) entry template bindings) := by
  rw [renderFile_eq]
  have handled {source : String} {names : Bindings} (given : Gives readers entry bindings names) :
      (Run.ofResult (pure (Run.ofHandled ((Engine.standard settings).handle source names)))).Ends
        ((Engine.standard settings).Yields source names)
        (Unreported (.standard settings) source names) := ofHandled_ends (given.sound reliable)
  refine ((templateText_settles entry template).ends fun source _ =>
    (namesOf_settles reliable entry bindings).ends fun names given => handled given).congr ?_ ?_
  · intro output
    constructor
    · rintro ⟨source, held, names, given, yields⟩
      exact ⟨source, names, held, given, yields⟩
    · rintro ⟨source, names, held, given, yields⟩
      exact ⟨source, held, names, given, yields⟩
  · intro cause
    constructor
    · rintro (lost | ⟨source, held, ⟨path, named, lost⟩ | ⟨names, given, broken⟩⟩)
      · exact .template lost
      · exact .bindings held named lost
      · exact .handling held given broken
    · rintro (lost | ⟨held, named, lost⟩ | ⟨held, given, broken⟩)
      · exact .inl lost
      · exact .inr ⟨_, held, .inl ⟨_, named, lost⟩⟩
      · exact .inr ⟨_, held, .inr ⟨_, given, broken⟩⟩

/-- A template of one letter, and bindings with a list that is not closed. -/
def unclosed (path : String) : FileTree.Entry :=
  if path = "b.yaml" then .file [0x61, 0x3A, 0x20, 0x5B, 0x31] else .file [0x78]

theorem unclosed_unread : Readers.standard.yaml "a: [1" = .error .malformed := by
  have failed : (match Readers.standard.yaml "a: [1" with
      | .error cause => decide (cause = .malformed)
      | .ok _ => false) = true := by decide +kernel
  split at failed
  next cause read => rw [read, of_decide_eq_true failed]
  next => cases failed

/-- Bindings that are malformed break the run. -/
theorem unclosed_breaks :
    Readers.standard.Reliable ∧
    (renderFile .standard (.standard .standard) unclosed "t.drip" (some "b.yaml")).Breaks
      (.bindings (.document .malformed)) := by
  have reliable := Readers.standard_reliable
  have template : Holds unclosed "t.drip" "x" := ⟨by decide, [0x78], rfl, by decide⟩
  have bindings : Holds unclosed "b.yaml" "a: [1" :=
    ⟨by decide, [0x61, 0x3A, 0x20, 0x5B, 0x31], rfl, by decide⟩
  have yaml : Bindings.formatOf "b.yaml" "a: [1" = .yaml := by decide
  have lost : BindingsLost .standard unclosed "b.yaml" (.bindings (.document .malformed)) :=
    .document bindings .malformed unclosed_unread fun json => nomatch yaml.symm.trans json
  have ends := renderFile_ends reliable .standard unclosed "t.drip" (some "b.yaml")
  exact ⟨reliable, (ends.breaks_iff _).2 (.bindings template rfl lost)⟩

/-- The code that a run ends with, unless a fault ends it. -/
def Ending.code? : Ending → Option Nat
  | .exit code => some code
  | .escaped _ => none

/-- The readers of the program, without a cause why a text cannot be read. -/
def curtReaders : Readers :=
  ⟨fun text => (Json.read text).mapError fun _ => .malformed,
    fun text => (Yaml.read text).mapError fun _ => .malformed⟩

theorem curtReaders_reliable : curtReaders.Reliable where
  json text := (Json.read_meets text).mapError fun _ _ => trivial
  yaml text := (Yaml.read_reads text).mapError fun _ _ => trivial

/-- So even if readers do not fail but at malformed texts, a run for files, or
    for paths without a file, does not always have one of the two endings. -/
theorem unclosed_escapes :
    ¬ ∀ (readers : Readers), readers.Reliable →
      (∀ text cause, readers.json text = .error cause → cause = .malformed) →
      (∀ text cause, readers.yaml text = .error cause → cause = .malformed) →
      ∀ (settings : Settings) (entry : String → FileTree.Entry) (template : String)
        (bindings : Option String),
        (∀ path, entry path = .nothing ∨ ∃ bytes, entry path = .file bytes) →
        (∃ output, Delivers readers (.standard settings) entry template bindings output ∧
          (renderFile readers (.standard settings) entry template bindings).Prints output) ∨
        (renderFile readers (.standard settings) entry template bindings).Refuses := by
  intro always
  have curt {x : Except DocumentFault Native} {cause : DocumentFault}
      (h : (x.mapError fun _ => .malformed) = .error cause) : cause = .malformed := by
    obtain ⟨_, -, same⟩ := eq_error_of_mapError h
    exact same.symm
  have files (path : String) : unclosed path = .nothing ∨ ∃ bytes, unclosed path = .file bytes := by
    unfold unclosed
    split <;> exact .inr ⟨_, rfl⟩
  -- a fault ends this run, and so neither code does
  have broken : (renderFile curtReaders (.standard .standard) unclosed "t.drip"
      (some "b.yaml")).ending.code? = none := by decide +kernel
  obtain ⟨_, _, printed⟩ | refused := always curtReaders curtReaders_reliable (fun _ _ => curt)
    (fun _ _ => curt) .standard unclosed "t.drip" (some "b.yaml") files
  · rw [printed.2] at broken
    cases broken
  · rw [refused.2.2] at broken
    cases broken

end Stencil.CommandLine
