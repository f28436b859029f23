import Stencil.Document.Readers
import Stencil.Proofs.Document.Loading

/-! # What the readers of the program give

    A document that can be read holds sound data: no format has a notation
    for a position in a loop.  JSON either does not follow the rules or has
    a numeral that cannot be read, and the first of these hands a text over
    to YAML. -/

namespace Stencil

/-! ## Section 1: Dictionaries -/

namespace Native

theorem sound_store {entries : List (Native × Native)} {key value : Native}
    (h : (Native.dict entries).Sound) (hk : key.Sound) (hv : value.Sound) :
    (Native.dict (store entries key value)).Sound := by
  rw [sound_dict] at h ⊢
  exact forall_mem_store h hk hv

theorem sound_ofEntries {entries : List (Native × Native)}
    (h : ∀ e ∈ entries, e.1.Sound ∧ e.2.Sound) : (ofEntries entries).Sound := by
  have start : (Native.dict []).Sound := sound_dict.2 (List.forall_mem_nil _)
  exact List.foldlRecOn entries _ start fun found sound e he =>
    sound_store sound (h e he).1 (h e he).2

end Native

/-! ## Section 2: JSON -/

namespace Json

/-- A computation that reads something of which `ok` holds, or fails as JSON
    does. -/
abbrev Reads {α : Type} (ok : α → Prop) (x : Except DocumentFault (α × List Char)) : Prop :=
  Meets (fun r => ok r.1) DocumentFault.IsOfJson x

theorem stringFrom_reads (skip : Nat) (cs : List Char) :
    Reads (fun _ => True) (stringFrom skip cs) := by
  induction cs generalizing skip with
  | nil => cases skip <;> exact .error trivial
  | cons c cs ih =>
    cases skip with
    | succ skip => exact ih skip
    | zero =>
      -- whatever is done to the characters, nothing is promised about them
      have goes {skip : Nat} {f : List Char × List Char → List Char × List Char} :
          Reads (fun _ => True) ((stringFrom skip cs).map f) :=
        (ih skip).map fun _ _ => trivial
      unfold stringFrom
      split
      · exact .ok trivial
      · split
        · exact .error trivial
        · split
          · split
            · exact .error trivial
            · split
              · exact .error trivial
              · exact goes
            · split
              · exact .error trivial
              · exact goes
          · exact goes

theorem number_reads (cs : List Char) : Reads Native.Sound (number cs) := by
  rw [number]
  -- how long the parts of the number are does not matter
  generalize (if cs.head? = some '-' then 1 else 0) = sign
  cases (cs.drop sign).takeWhile Char.isDigit with
  | nil => exact .error trivial
  | cons d digits =>
    dsimp only
    generalize sign + (if d = '0' then 1 else (d :: digits).length) = whole
    split
    · split
      · exact .ok trivial
      · exact .error trivial
    · split
      · exact .ok trivial
      · exact .error trivial

theorem sound_of_constant? {cs rest : List Char} {n : Native}
    (h : constant? cs = some (n, rest)) : n.Sound := by
  obtain ⟨⟨text, m⟩, listed, found⟩ := List.exists_of_findSome?_eq_some h
  obtain ⟨_, -, same⟩ := Option.map_eq_some_iff.1 found
  cases same
  have sound : ∀ c ∈ constants, c.2.Sound := by simp [constants, Native.Sound]
  exact sound _ listed

/-- What is read by each of the three readers of nested data is sound. -/
structure AllRead (fuel : Nat) : Prop where
  value (cs : List Char) : Reads Native.Sound (value fuel cs)
  items (cs : List Char) : Reads (fun ns => ∀ n ∈ ns, n.Sound) (items fuel cs)
  entries (cs : List Char) :
    Reads (fun es => ∀ e ∈ es, e.1.Sound ∧ e.2.Sound) (entries fuel cs)

theorem value_reads {fuel : Nat} (h : AllRead fuel) (cs : List Char) :
    Reads Native.Sound (value (fuel + 1) cs) := by
  -- a text, a list, a mapping, a constant or a number
  unfold value
  split
  · exact (stringFrom_reads 0 _).map fun (_, _) _ => trivial
  · split
    · exact .ok (Native.sound_list.2 (List.forall_mem_nil _))
    · exact (h.items _).map fun _ sound => Native.sound_list.2 sound
  · split
    · exact .ok (Native.sound_dict.2 (List.forall_mem_nil _))
    · exact (h.entries _).map fun _ sound => Native.sound_ofEntries sound
  · split
    next found => exact .ok (sound_of_constant? found)
    next => exact number_reads _

theorem items_reads {fuel : Nat} (h : AllRead fuel) (cs : List Char) :
    Reads (fun ns => ∀ n ∈ ns, n.Sound) (items (fuel + 1) cs) := by
  rw [items]
  refine (h.value cs).bind fun (n, rest) sound => ?_
  dsimp only
  split
  · exact .ok (List.forall_mem_singleton.2 sound)
  · exact (h.items _).bind fun _ later => .ok (List.forall_mem_cons.2 ⟨sound, later⟩)
  · exact .error trivial

theorem entries_reads {fuel : Nat} (h : AllRead fuel) (cs : List Char) :
    Reads (fun es => ∀ e ∈ es, e.1.Sound ∧ e.2.Sound) (entries (fuel + 1) cs) := by
  unfold entries
  split
  · refine (stringFrom_reads 0 _).bind fun (key, rest) _ => ?_
    dsimp only
    split
    · refine (h.value _).bind fun (n, rest) sound => ?_
      dsimp only
      split
      · exact .ok (List.forall_mem_singleton.2 ⟨trivial, sound⟩)
      · exact (h.entries _).bind fun _ later =>
          .ok (List.forall_mem_cons.2 ⟨⟨trivial, sound⟩, later⟩)
      · exact .error trivial
    · exact .error trivial
  · exact .error trivial

theorem allRead (fuel : Nat) : AllRead fuel := by
  induction fuel with
  | zero => exact ⟨fun _ => .error trivial, fun _ => .error trivial, fun _ => .error trivial⟩
  | succ fuel ih => exact ⟨value_reads ih, items_reads ih, entries_reads ih⟩

theorem read_meets (text : String) :
    Meets Native.Sound DocumentFault.IsOfJson (read text) := by
  unfold read
  refine ((allRead _).value _).bind fun (n, rest) sound => ?_
  dsimp only
  split
  · exact .ok sound
  · exact .error trivial

end Json

/-! ## Section 3: YAML -/

namespace Yaml

/-- A computation that reads sound data, if anything. -/
abbrev Reads {ε : Type} (x : Except ε Native) : Prop :=
  Meets Native.Sound (fun _ => True) x

theorem float?_reads {cs : List Char} {x : Except DocumentFault Native}
    (h : float? cs = some x) : Reads x := by
  unfold float? at h
  split at h
  dsimp only at h
  split at h
  · cases h
    exact .ok trivial
  · split at h
    · cases h
      exact (meets_true _).map fun _ _ => trivial
    · split at h
      · cases h
        exact .ok trivial
      · split at h <;> cases h
        exact .ok trivial

theorem integer?_reads {cs : List Char} {x : Except DocumentFault Native}
    (h : integer? cs = some x) : Reads x := by
  unfold integer? at h
  obtain ⟨n, -, rfl⟩ := Option.map_eq_some_iff.1 h
  exact (meets_true n).map fun _ _ => trivial

theorem date?_reads {cs : List Char} {x : Except DocumentFault Native}
    (h : date? cs = some x) : Reads x := by
  unfold date? at h
  dsimp only at h
  split at h
  · cases h
    exact ((meets_true _).map fun _ _ => trivial).mapError fun _ _ => trivial
  · cases h

theorem ofPlain_reads (text : String) : Reads (ofPlain text) := by
  -- the kinds of data are tried one after the other; what is of none is a text
  unfold ofPlain
  dsimp only
  split
  · exact .ok trivial
  · split
    · exact .ok trivial
    · split
      · exact .ok trivial
      · split
        · exact .error trivial
        · cases float : float? text.toList with
          | some x => exact float?_reads float
          | none =>
            cases integer : integer? text.toList with
            | some x => exact integer?_reads integer
            | none =>
              cases date : date? text.toList with
              | some x => exact date?_reads date
              | none => exact .ok trivial

theorem scalarValue_reads (depth : Nat) (text : String) (plain : Bool) :
    Reads (scalarValue depth text plain) := by
  unfold scalarValue
  split
  · exact (ofPlain_reads text).mapError fun _ _ => trivial
  · exact .ok trivial

theorem binaryValue_reads (depth : Nat) (text : Option String) :
    Reads (binaryValue depth text) := by
  unfold binaryValue
  split
  · exact .ok trivial
  · exact .error trivial

theorem keyValue_reads (depth : Nat) (n : Node) : Reads (keyValue depth n) := by
  unfold keyValue
  split
  · exact .ok trivial
  · exact scalarValue_reads depth _ _
  · exact binaryValue_reads depth _
  · exact .error trivial
  · exact .error trivial

theorem Reading.join_meets {α β γ : Type} {p : α → Prop} {q : β → Prop} {r : γ → Prop}
    {f : α → β → γ} {x : Reading α} {y : Reading β} (hx : Meets p (fun _ => True) x)
    (hy : Meets q (fun _ => True) y) (hf : ∀ a b, p a → q b → r (f a b)) :
    Meets r (fun _ => True) (Reading.join f x y) := by
  cases hx with
  | ok ha =>
    cases hy with
    | ok hb => exact .ok (hf _ _ ha hb)
    | error _ => exact .error trivial
  | error _ => cases hy <;> exact .error trivial

mutual

theorem Node.value_reads (depth : Nat) : (n : Node) → Reads (n.value depth)
  | .scalar text plain => by
    rw [Node.value]
    exact scalarValue_reads depth text plain
  | .binary text => by
    rw [Node.value]
    exact binaryValue_reads depth text
  | .sequence items => by
    rw [Node.value]
    exact (valuesOf_reads (depth + 1) items).map fun _ sound => Native.sound_list.2 sound
  | .mapping entries => by
    rw [Node.value]
    exact (entriesOf_reads (depth + 1) entries).map fun _ sound => Native.sound_ofEntries sound

theorem valuesOf_reads (depth : Nat) : (ns : List Node) →
    Meets (fun vs => ∀ v ∈ vs, v.Sound) (fun _ => True) (valuesOf depth ns)
  | [] => .ok (List.forall_mem_nil _)
  | n :: ns => by
    rw [valuesOf]
    exact Reading.join_meets (n.value_reads depth) (valuesOf_reads depth ns)
      fun _ _ first later => List.forall_mem_cons.2 ⟨first, later⟩

theorem entriesOf_reads (depth : Nat) : (es : List (Node × Node)) →
    Meets (fun es => ∀ e ∈ es, e.1.Sound ∧ e.2.Sound) (fun _ => True) (entriesOf depth es)
  | [] => .ok (List.forall_mem_nil _)
  | (k, v) :: es => by
    rw [entriesOf]
    have entry : Meets (fun e : Native × Native => e.1.Sound ∧ e.2.Sound) (fun _ => True)
        (Reading.join Prod.mk (keyValue depth k) (v.value depth)) :=
      Reading.join_meets (keyValue_reads depth k) (v.value_reads depth)
        fun _ _ key value => ⟨key, value⟩
    exact Reading.join_meets entry (entriesOf_reads depth es)
      fun _ _ first later => List.forall_mem_cons.2 ⟨first, later⟩

end

theorem read_reads (text : String) : Reads (read text) := by
  rw [read]
  refine (meets_true _).bind fun n? _ => ?_
  split
  · exact (Node.value_reads 0 _).mapError fun _ _ => trivial
  · exact .ok trivial

end Yaml

/-! ## Section 4: Both readers -/

theorem Readers.standard_reliable : Readers.standard.Reliable :=
  ⟨Json.read_meets, Yaml.read_reads⟩

end Stencil
