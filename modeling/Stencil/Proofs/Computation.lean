/-! # Computations that may fail

    What is said of every computation with a result or a fault, whatever it
    computes.  A result goes back to the results of all its parts, and a
    fault to the first part that fails.  A specification of two halves says
    what holds of the result and what holds of the fault. -/

namespace Stencil

/-! ## Section 1: Where a result or a fault comes from -/

section

variable {ε δ α β : Type}

theorem toOption_eq_some {x : Except ε α} {a : α} :
    x.toOption = some a ↔ x = .ok a := by
  cases x with
  | error e => exact iff_of_false (by rintro ⟨⟩) (by rintro ⟨⟩)
  | ok b => exact ⟨fun same => congrArg Except.ok (Option.some.inj same), congrArg Except.toOption⟩

theorem ok_bind (a : α) (f : α → Except ε β) : (Except.ok a >>= f) = f a := rfl

/-- A computation made of two has a result only if both have one. -/
theorem eq_ok_of_bind {x : Except ε α} {f : α → Except ε β} {b : β} (h : (x >>= f) = .ok b) :
    ∃ a, x = .ok a ∧ f a = .ok b := by
  cases x with
  | error fault => cases h
  | ok a => exact ⟨a, rfl, h⟩

theorem eq_ok_of_bind_pure {x : Except ε α} {f : α → β} {b : β}
    (h : (x >>= fun a => pure (f a)) = .ok b) : ∃ a, x = .ok a ∧ f a = b := by
  obtain ⟨a, made, same⟩ := eq_ok_of_bind h
  cases same
  exact ⟨a, made, rfl⟩

/-- It fails if the first one does, or else the second one. -/
theorem eq_error_of_bind {x : Except ε α} {f : α → Except ε β} {fault : ε}
    (h : (x >>= f) = .error fault) :
    x = .error fault ∨ ∃ a, x = .ok a ∧ f a = .error fault := by
  cases x with
  | error other =>
    cases h
    exact .inl rfl
  | ok a => exact .inr ⟨a, rfl, h⟩

theorem eq_error_of_bind_pure {x : Except ε α} {f : α → β} {fault : ε}
    (h : (x >>= fun a => pure (f a)) = .error fault) : x = .error fault := by
  rcases eq_error_of_bind h with failed | ⟨a, -, failed⟩
  · exact failed
  · cases failed

/-- Faults are told differently, results are not. -/
theorem eq_ok_of_mapError {x : Except ε α} {g : ε → δ} {a : α} (h : x.mapError g = .ok a) :
    x = .ok a := by
  cases x with
  | error fault => cases h
  | ok b =>
    cases h
    rfl

theorem eq_error_of_mapError {x : Except ε α} {g : ε → δ} {told : δ}
    (h : x.mapError g = .error told) : ∃ fault, x = .error fault ∧ g fault = told := by
  cases x with
  | error fault => exact ⟨fault, rfl, Except.error.inj h⟩
  | ok a => cases h

end

/-! ## Section 2: Specifications of computations -/

/-- Does `ok` hold of the result, or `err` of the fault? -/
inductive Meets {ε α : Type} (ok : α → Prop) (err : ε → Prop) : Except ε α → Prop
  | ok {a : α} : ok a → Meets ok err (.ok a)
  | error {e : ε} : err e → Meets ok err (.error e)

section

variable {ε δ α β : Type} {ok : α → Prop} {err : ε → Prop} {x : Except ε α}

theorem meets_true (x : Except ε α) : Meets (fun _ => True) (fun _ => True) x := by
  cases x with
  | ok a => exact .ok trivial
  | error e => exact .error trivial

theorem Meets.mono {ok' : α → Prop} {err' : ε → Prop} (h : Meets ok err x)
    (hok : ∀ a, ok a → ok' a) (herr : ∀ e, err e → err' e) : Meets ok' err' x := by
  cases h with
  | ok ha => exact .ok (hok _ ha)
  | error he => exact .error (herr _ he)

theorem Meets.imp {ok' : α → Prop} (h : Meets ok err x) (hok : ∀ a, ok a → ok' a) :
    Meets ok' err x :=
  h.mono hok fun _ he => he

/-- Two facts about one result. -/
theorem Meets.and {ok' : α → Prop} (h : Meets ok err x) (h' : Meets ok' (fun _ => True) x) :
    Meets (fun a => ok a ∧ ok' a) err x := by
  cases h with
  | ok ha =>
    cases h' with
    | ok ha' => exact .ok ⟨ha, ha'⟩
  | error he => exact .error he

/-- One computation after another. -/
theorem Meets.bind {ok' : β → Prop} {f : α → Except ε β} (h : Meets ok err x)
    (k : ∀ a, ok a → Meets ok' err (f a)) : Meets ok' err (x >>= f) := by
  cases h with
  | ok ha => exact k _ ha
  | error he => exact .error he

/-- What a computation that has a result tells, it tells in front of another one. -/
theorem Meets.followed {told : Prop} (h : Meets (fun _ => told) (fun _ => True) x)
    (f : α → Except ε β) : Meets (fun _ => told) (fun _ => True) (x >>= f) :=
  h.bind fun _ holds => (meets_true _).mono (fun _ _ => holds) fun _ _ => trivial

theorem Meets.map {ok' : β → Prop} {f : α → β} (h : Meets ok err x)
    (hf : ∀ a, ok a → ok' (f a)) : Meets ok' err (x.map f) := by
  cases h with
  | ok ha => exact .ok (hf _ ha)
  | error he => exact .error he

theorem Meets.mapError {err' : δ → Prop} {f : ε → δ} (h : Meets ok err x)
    (hf : ∀ e, err e → err' (f e)) : Meets ok err' (x.mapError f) := by
  cases h with
  | ok ha => exact .ok ha
  | error he => exact .error (hf _ he)

theorem Meets.of_ok {a : α} (h : Meets ok err x) (hx : x = .ok a) : ok a := by
  subst hx
  cases h with
  | ok ha => exact ha

/-- A computation that cannot fail has a result. -/
theorem Meets.exists_ok (h : Meets ok (fun _ => False) x) : ∃ a, x = .ok a ∧ ok a := by
  cases h with
  | ok ha => exact ⟨_, rfl, ha⟩
  | error no => exact no.elim

theorem Meets.of_error {e : ε} (h : Meets ok err x) (hx : x = .error e) : err e := by
  subst hx
  cases h with
  | error he => exact he

end

end Stencil
