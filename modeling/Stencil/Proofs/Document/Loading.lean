import Stencil.Document.Bindings
import Stencil.Proofs.Computation
import Stencil.Proofs.Scope.Tidy

/-! # What is loaded from documents

    Whatever readers the formats have, what is loaded follows from what they
    give.  Nothing is asked of them but that they give sound data, and that
    JSON fails in no other way than it does: a text does not follow its rules,
    and is handed over to YAML, or it has a numeral that cannot be read.  So
    whatever else keeps a text from being read is a fault of YAML. -/

namespace Stencil

/-! ## Section 1: Readers -/

/-- What JSON fails with. -/
def DocumentFault.IsOfJson : DocumentFault → Prop
  | .malformed => True
  | .numeral _ => True
  | _ => False

/-- Do the readers give nothing but data that documents can hold, which have no
    notation for a position in a loop, or else a fault, for JSON one of its
    own? -/
structure Readers.Reliable (readers : Readers) : Prop where
  json (text : String) : Meets Native.Sound DocumentFault.IsOfJson (readers.json text)
  yaml (text : String) : Meets Native.Sound (fun _ => True) (readers.yaml text)

/-! ## Section 2: Formats -/

/-- Is it a fault that the users of a file are not told about? -/
inductive DocumentFault.IsUntold : DocumentFault → Prop
  | malformed : IsUntold .malformed
  | codeTooLarge : IsUntold .codeTooLarge
  | unitTooLarge : IsUntold .unitTooLarge

theorem DocumentFault.isUntold_iff (fault : DocumentFault) :
    fault.IsUntold ↔ (BindingsFault.document fault).isReported = false := by
  constructor
  · rintro (_ | _ | _) <;> rfl
  · intro h
    cases fault with
    | malformed => exact .malformed
    | codeTooLarge => exact .codeTooLarge
    | unitTooLarge => exact .unitTooLarge
    | _ => cases h

namespace Format

section

variable {readers : Readers} (reliable : readers.Reliable)

include reliable

theorem read_reads (text : String) (f : Format) :
    Meets Native.Sound (fun _ => True) (f.read readers text) := by
  cases f with
  | yaml => exact reliable.yaml text
  | json =>
    rw [read]
    split
    · exact reliable.yaml text
    · exact (reliable.json text).mono (fun _ sound => sound) fun _ _ => trivial

/-- A fault that nobody is told about is one of YAML, and in a file of JSON
    one that comes up after the text has turned out to be no JSON. -/
theorem read_untold_iff {text : String} {f : Format} {fault : DocumentFault}
    (untold : fault.IsUntold) :
    f.read readers text = .error fault ↔
      readers.yaml text = .error fault ∧ (f = .json → readers.json text = .error .malformed) := by
  cases f with
  | yaml => exact ⟨fun h => ⟨h, nofun⟩, fun h => h.1⟩
  | json =>
    have ofJson := reliable.json text
    rw [read]
    cases outcome : readers.json text with
    | ok n => exact ⟨nofun, fun h => nomatch h.2 rfl⟩
    | error cause =>
      have json := ofJson.of_error outcome
      cases cause with
      | malformed => exact ⟨fun h => ⟨h, fun _ => rfl⟩, fun h => h.1⟩
      | numeral cause =>
        -- such a fault is told, and YAML is not asked
        refine iff_of_false ?_ fun h => nomatch h.2 rfl
        intro h
        cases h
        cases untold
      | _ => exact json.elim

end

end Format

/-! ## Section 3: Files of bindings -/

theorem mapError_ok_bind {ε δ α β : Type} (a : α) (g : ε → δ) (f : α → Except δ β) :
    ((Except.ok a).mapError g).bind f = f a := rfl

theorem mapError_error_bind {ε δ α β : Type} (e : ε) (g : ε → δ) (f : α → Except δ β) :
    ((Except.error e).mapError g).bind f = .error (g e) := rfl

namespace Bindings

theorem sound_ofEntries {entries : List (Native × Native)}
    (h : ∀ e ∈ entries, e.1.Sound ∧ e.2.Sound) : (ofEntries entries).Sound := by
  rintro ⟨name, value⟩ member
  obtain ⟨⟨key, datum⟩, listed, found⟩ := List.mem_filterMap.1 member
  cases key with
  | text =>
    cases found
    exact (h _ listed).2
  | _ => cases found

/-- The format of a file with a text: the one that its path tells, or else the
    one that the text looks like. -/
def formatOf (path text : String) : Format :=
  (Format.ofPath? path).getD (Format.ofText text)

theorem entriesOf_eq_ok {data : Native} {entries : List (Native × Native)} :
    entriesOf data = .ok entries ↔ (data = .nil ∧ entries = []) ∨ data = .dict entries := by
  unfold entriesOf
  split
  · simp [eq_comm]
  · simp
  next notNil notDict =>
    refine iff_of_false nofun ?_
    rintro (⟨rfl, -⟩ | rfl)
    · exact notNil rfl
    · exact notDict entries rfl

/-- Users are told about data that are no entries. -/
theorem entriesOf_meets (data : Native) :
    Meets (fun _ => True) (fun fault => fault.isReported = true) (entriesOf data) := by
  unfold entriesOf
  split
  · exact .ok trivial
  · exact .ok trivial
  · exact .error rfl

/-- A file is loaded in three steps: its bytes are decoded, its text is read
    and what the document holds must be entries. -/
theorem load_eq (readers : Readers) (path : String) (bytes : List Nat) :
    load readers path bytes = ((Text.Utf8.readText bytes).mapError .encoding).bind fun text =>
      (((formatOf path text).read readers text).mapError .document).bind entriesOf := by
  rfl

section

variable {readers : Readers} {path text : String} {bytes : List Nat}

theorem load_of_unread {cause : DocumentFault} (decoded : Text.Utf8.readText bytes = .ok text)
    (unread : (formatOf path text).read readers text = .error cause) :
    load readers path bytes = .error (.document cause) := by
  rw [load_eq, decoded, mapError_ok_bind, unread, mapError_error_bind]

theorem load_of_read {data : Native} (decoded : Text.Utf8.readText bytes = .ok text)
    (read : (formatOf path text).read readers text = .ok data) :
    load readers path bytes = entriesOf data := by
  rw [load_eq, decoded, mapError_ok_bind, read, mapError_ok_bind]

theorem load_eq_ok {entries : List (Native × Native)} :
    load readers path bytes = .ok entries ↔
      ∃ text data, Text.Utf8.readText bytes = .ok text ∧
        (formatOf path text).read readers text = .ok data ∧ entriesOf data = .ok entries := by
  constructor
  · intro loaded
    rw [load_eq] at loaded
    obtain ⟨text, decoded, loaded⟩ := eq_ok_of_bind loaded
    obtain ⟨data, read, given⟩ := eq_ok_of_bind loaded
    exact ⟨text, data, eq_ok_of_mapError decoded, eq_ok_of_mapError read, given⟩
  · rintro ⟨text, data, decoded, read, given⟩
    rw [load_of_read decoded read, given]

/-- Only a fault of the document is not reported. -/
theorem load_unreported_iff {fault : BindingsFault} :
    (load readers path bytes = .error fault ∧ fault.isReported = false) ↔
      ∃ text cause, Text.Utf8.readText bytes = .ok text ∧
        (formatOf path text).read readers text = .error cause ∧ cause.IsUntold ∧
        fault = .document cause := by
  constructor
  -- what fails before the reading or behind it is reported
  · rintro ⟨failed, untold⟩
    rw [load_eq] at failed
    rcases eq_error_of_bind failed with undecoded | ⟨text, decoded, failed⟩
    · obtain ⟨cause, -, rfl⟩ := eq_error_of_mapError undecoded
      cases untold
    · rcases eq_error_of_bind failed with mapped | ⟨data, -, refused⟩
      · obtain ⟨cause, unread, rfl⟩ := eq_error_of_mapError mapped
        exact ⟨text, cause, eq_ok_of_mapError decoded, unread, cause.isUntold_iff.2 untold, rfl⟩
      · have told : fault.isReported = true := (entriesOf_meets data).of_error refused
        rw [untold] at told
        cases told
  · rintro ⟨text, cause, decoded, unread, untold, rfl⟩
    exact ⟨load_of_unread decoded unread, cause.isUntold_iff.1 untold⟩

end

end Bindings

end Stencil
