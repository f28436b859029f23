import Stencil.Proofs.Grammar.Tree

/-! # What proper trees build

    A tree builds something exactly when it is proper; otherwise its fault
    is a literal that should have been a text, or a modifier that does not
    exist.  In particular a tree never blames a token for its place. -/

namespace Stencil.Grammar

/-- Is the fault one of what the tokens say, not of where they stand? -/
def IsSaid : Malformed → Prop
  | .notText _ | .undefinedModifier _ => True
  | _ => False

/-! ## Section 1: Leaves -/

section

variable {s : Symbol}

/-- The token below a literal, with what it contributes. -/
theorem Tree.exists_literal (t : Tree s) (h : s = .terminal .literal) :
    ∃ (token : Token) (value : Literal), token.lexeme = .literal value ∧ t.yield = [token] ∧
      h ▸ t.value = .ok value := by
  cases t with
  | node => cases h
  | leaf token =>
    obtain ⟨lexeme, start, text⟩ := token
    cases lexeme with
    | literal value => exact ⟨_, value, rfl, rfl, rfl⟩
    | _ => cases h

/-- The token below an identifier, with what it contributes. -/
theorem Tree.exists_identifier (t : Tree s) (h : s = identifier) :
    ∃ (token : Token) (name : String), token.lexeme = .identifier name ∧ t.yield = [token] ∧
      h ▸ t.value = .ok name := by
  cases t with
  | node => cases h
  | leaf token =>
    obtain ⟨lexeme, start, text⟩ := token
    cases lexeme with
    | identifier name => exact ⟨_, name, rfl, rfl, rfl⟩
    | _ => cases h

/-- The token below a keyword, with what it contributes. -/
theorem Tree.exists_keyword (t : Tree s) (h : s = keyword) :
    ∃ (token : Token) (name : String), token.lexeme = .keyword name ∧ t.yield = [token] ∧
      h ▸ t.value = .ok name := by
  cases t with
  | node => cases h
  | leaf token =>
    obtain ⟨lexeme, start, text⟩ := token
    cases lexeme with
    | keyword name => exact ⟨_, name, rfl, rfl, rfl⟩
    | _ => cases h

end

/-! ## Section 2: Productions -/

/-- Only a text may stand in a cycle. -/
theorem cycleText_cases (f : Forest [.terminal .literal]) {parts : Parts [.terminal .literal]}
    (h : f.values = .ok parts) :
    ((∃ s, cycleText parts.1 = .ok s) ∧ Production.cycleText.Admits f.yield) ∨
      ∃ fault, cycleText parts.1 = .error fault ∧ ¬ Production.cycleText.Admits f.yield ∧
        IsSaid fault := by
  match f with
  | .cons t .nil =>
    obtain ⟨token, literal, lexeme, yield, value⟩ := t.exists_literal rfl
    have value : t.value = .ok literal := value
    rw [Forest.values, value] at h
    cases h
    rw [Forest.yield, yield]
    cases literal with
    | text s =>
      refine .inl ⟨⟨s, rfl⟩, fun t ht => ⟨s, ?_⟩⟩
      obtain rfl := List.mem_singleton.1 ht
      exact lexeme
    | _ =>
      refine .inr ⟨_, rfl, fun admits => ?_, trivial⟩
      obtain ⟨s, text⟩ := admits token List.mem_cons_self
      rw [lexeme] at text
      cases text

/-- Only the flag that exists may stand among the modifiers of a loop. -/
theorem flagModifier_cases (f : Forest [identifier]) {parts : Parts [identifier]}
    (h : f.values = .ok parts) :
    ((∃ m, flagModifier parts.1 = .ok m) ∧ Production.flagModifier.Admits f.yield) ∨
      ∃ fault, flagModifier parts.1 = .error fault ∧ ¬ Production.flagModifier.Admits f.yield ∧
        IsSaid fault := by
  match f with
  | .cons t .nil =>
    obtain ⟨token, name, lexeme, yield, value⟩ := t.exists_identifier rfl
    have value : t.value = .ok name := value
    rw [Forest.values, value] at h
    cases h
    rw [Forest.yield, yield]
    show ((∃ m, flagModifier name = .ok m) ∧ _) ∨ ∃ fault, flagModifier name = .error fault ∧ _
    by_cases reversed : name = "reversed"
    · rw [flagModifier, if_pos reversed]
      refine .inl ⟨⟨.reversed, rfl⟩, fun t ht => ?_⟩
      obtain rfl := List.mem_singleton.1 ht
      rw [lexeme, reversed]
    · rw [flagModifier, if_neg reversed]
      refine .inr ⟨_, rfl, fun admits => reversed ?_, trivial⟩
      have same := admits token List.mem_cons_self
      rw [lexeme] at same
      exact Lexeme.identifier.inj same

theorem valuedModifier_cases_name (name : String) (count : Expr) :
    (name ∈ ["cols", "limit", "offset"] ∧ ∃ m, valuedModifier name count = .ok m) ∨
      (name ∉ ["cols", "limit", "offset"] ∧
        valuedModifier name count = .error (.undefinedModifier name)) := by
  unfold valuedModifier
  split
  next => exact .inl ⟨by simp, _, rfl⟩
  next => exact .inl ⟨by simp, _, rfl⟩
  next => exact .inl ⟨by simp, _, rfl⟩
  next notCols notLimit notOffset =>
    refine .inr ⟨fun member => ?_, rfl⟩
    simp only [List.mem_cons, List.not_mem_nil, or_false] at member
    rcases member with same | same | same
    · exact notCols same
    · exact notLimit same
    · exact notOffset same

/-- Only the modifiers that exist may have a value in a loop. -/
theorem valuedModifier_cases (f : Forest [keyword, nt .primary])
    {parts : Parts [keyword, nt .primary]} (h : f.values = .ok parts) :
    ((∃ m, valuedModifier parts.1 parts.2.1 = .ok m) ∧
        Production.valuedModifier.Admits f.yield) ∨
      ∃ fault, valuedModifier parts.1 parts.2.1 = .error fault ∧
        ¬ Production.valuedModifier.Admits f.yield ∧ IsSaid fault := by
  match f with
  | .cons t rest =>
    obtain ⟨token, name, lexeme, yield, value⟩ := t.exists_keyword rfl
    have value : t.value = .ok name := value
    obtain ⟨_, counts, ⟨⟩⟩ := parts
    obtain ⟨same, -⟩ := Forest.values_cons.1 h
    obtain rfl := Except.ok.inj (value.symm.trans same)
    rw [Forest.yield, yield]
    rcases valuedModifier_cases_name name counts with ⟨exists_, built⟩ | ⟨missing, failed⟩
    · refine .inl ⟨built, fun t ht => ⟨name, exists_, ?_⟩⟩
      obtain rfl := Option.some.inj ht
      exact lexeme
    · refine .inr ⟨_, failed, fun admits => missing ?_, trivial⟩
      obtain ⟨other, member, same⟩ := admits token rfl
      rw [lexeme] at same
      obtain rfl := Lexeme.keyword.inj same
      exact member

/-- What a production asks for is what it needs to build something. -/
theorem build_cases {p : Production} (f : Forest p.rhs) {parts : Parts p.rhs}
    (h : f.values = .ok parts) :
    ((∃ part, p.build parts = .ok part) ∧ p.Admits f.yield) ∨
      ∃ fault, p.build parts = .error fault ∧ ¬ p.Admits f.yield ∧ IsSaid fault := by
  cases p with
  | cycleText => exact cycleText_cases f h
  | flagModifier => exact flagModifier_cases f h
  | valuedModifier => exact valuedModifier_cases f h
  | _ => exact .inl ⟨⟨_, rfl⟩, trivial⟩

/-! ## Section 3: Trees -/

mutual

/-- A tree builds something when it is proper, and otherwise says what is
    wrong. -/
theorem Tree.value_cases {s : Symbol} : (t : Tree s) →
    ((∃ part, t.value = .ok part) ∧ t.Proper) ∨
      ∃ fault, t.value = .error fault ∧ ¬ t.Proper ∧ IsSaid fault
  | .leaf t => .inl ⟨⟨_, rfl⟩, trivial⟩
  | .node p children => by
    rw [Tree.value, Tree.Proper]
    rcases children.values_cases with ⟨⟨parts, values⟩, proper⟩ | ⟨fault, values, improper, said⟩
    · rw [values]
      rcases build_cases children values with ⟨built, admits⟩ | ⟨fault, failed, refuses, said⟩
      · exact .inl ⟨built, admits, proper⟩
      · exact .inr ⟨fault, failed, fun all => refuses all.1, said⟩
    · rw [values]
      exact .inr ⟨fault, rfl, fun all => improper all.2, said⟩

theorem Forest.values_cases {ss : List Symbol} : (f : Forest ss) →
    ((∃ parts, f.values = .ok parts) ∧ f.Proper) ∨
      ∃ fault, f.values = .error fault ∧ ¬ f.Proper ∧ IsSaid fault
  | .nil => .inl ⟨⟨_, rfl⟩, trivial⟩
  | .cons head tail => by
    rw [Forest.values, Forest.Proper]
    rcases head.value_cases with ⟨⟨part, value⟩, proper⟩ | ⟨fault, value, improper, said⟩
    · rw [value]
      rcases tail.values_cases with ⟨⟨parts, values⟩, others⟩ | ⟨fault, values, improper, said⟩
      · rw [values]
        exact .inl ⟨⟨_, rfl⟩, proper, others⟩
      · rw [values]
        exact .inr ⟨fault, rfl, fun all => improper all.2, said⟩
    · rw [value]
      exact .inr ⟨fault, rfl, fun all => improper all.1, said⟩

end

end Stencil.Grammar
