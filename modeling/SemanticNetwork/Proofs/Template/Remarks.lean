/-
**What items say about names.** Read without their order, the items of some triples say of names
that they occur, that a position is called by one and constrained, or that two of them mean the
same. While triples are appended, the names are interned one after the other, and in another order
they get other variables. But as long as no redefinition is recorded, two names share a variable
exactly if the items make them synonyms, and a variable is introduced exactly if one of its names is
constrained. So whether such a template passes validation does not depend on the order of its
triples.

* `Remark`, `Item.remarks`: what an item says about names;
* `Interns`, kept by `Interns.mention`, `Interns.constrain`, `Interns.equate`: names and variables
  are what was said;
* `interns_ofItems`, `triples_ofItems`: **what building from triples of items leads to**;
* `validate_ofItems_iff`: **validation asks for no redefinition, and for what no order changes.**
-/
import Mathlib.Data.List.Induction
import Mathlib.Logic.Relation
import SemanticNetwork.Proofs.Template.Interning

namespace SemanticNetwork.Template

/-- What an item says about names: one occurs, a position that is called by one is constrained, or a
reference to one is called by another. -/
inductive Remark where
  | mentions (name : String)
  | constrains (name : String)
  | equates (name synonym : String)
  deriving DecidableEq, Repr

namespace Item

/-- What an item says about names. -/
def remarks (item : Item) : List Remark :=
  match item.value, item.name? with
  | .reference name, none => [.mentions name]
  | .reference name, some synonym => [.mentions name, .mentions synonym, .equates name synonym]
  | _, none => []
  | _, some name => [.mentions name, .constrains name]

/-- The name whose variable the position of an item shares. -/
def key? (item : Item) : Option String :=
  match item.value with
  | .reference name => some name
  | _ => item.name?

/-- What the element at the position of an item has to be. -/
def constraint (item : Item) : Constraint :=
  match item.value with
  | .fixed address => .fixed address
  | .typed type => .typed type
  | .reference _ => .any

end Item

/-- The items of a triple. -/
structure ItemTriple where
  source : Item
  edge : Item
  target : Item
  deriving DecidableEq, Repr

namespace ItemTriple

/-- The items in order. -/
def toList (items : ItemTriple) : List Item := [items.source, items.edge, items.target]

/-- The clause that appends a triple of items. -/
def clause (items : ItemTriple) : Clause := .triple items.source items.edge items.target

end ItemTriple

/-- The template to which some triples of items are appended in order. -/
def ofItems (triples : List ItemTriple) : Template := ofClauses (triples.map ItemTriple.clause)

theorem isBuilt_ofItems (triples : List ItemTriple) : (ofItems triples).IsBuilt := ⟨_, rfl⟩

theorem ofItems_concat (triples : List ItemTriple) (items : ItemTriple) :
    ofItems (triples ++ [items]) = (ofItems triples).append items.clause := by
  simp [ofItems, ofClauses]

/-- All items of some triples. -/
def itemsOf (triples : List ItemTriple) : List Item := triples.flatMap ItemTriple.toList

/-- What some triples say about names. -/
def remarksOf (triples : List ItemTriple) : List Remark := (itemsOf triples).flatMap Item.remarks

/-- The slot of an item, by the variables that names have in a template. -/
def Item.slot (template : Template) (item : Item) : Slot :=
  ⟨item.constraint, item.key?.bind template.varNamed?⟩

/-- The slots of a triple of items, by the variables that names have in a template. -/
def ItemTriple.slots (template : Template) (items : ItemTriple) : SlotTriple :=
  ⟨items.source.slot template, items.edge.slot template, items.target.slot template⟩

theorem remarksOf_concat (triples : List ItemTriple) (items : ItemTriple) :
    remarksOf (triples ++ [items]) = remarksOf triples ++ items.toList.flatMap Item.remarks := by
  simp [remarksOf, itemsOf]

/-- In another order the triples say the same. -/
theorem remarksOf_perm {triples reordered : List ItemTriple} (perm : triples.Perm reordered) :
    (remarksOf triples).Perm (remarksOf reordered) :=
  (perm.flatMap_right _).flatMap_right _

/-- Two names are synonyms by what is said about names. -/
def Synonyms (remarks : List Remark) : String → String → Prop :=
  Relation.EqvGen fun name synonym => .equates name synonym ∈ remarks

variable {template after later : Template} {remarks : List Remark} {name synonym other : String}
  {var : Nat} {slot : Slot} {item : Item} {items : ItemTriple} {triples reordered : List ItemTriple}

theorem Synonyms.mono {others : List Remark} (included : remarks ⊆ others) {first second : String}
    (synonyms : Synonyms remarks first second) : Synonyms others first second :=
  Relation.EqvGen.mono (fun _ _ member => included member) _ _ synonyms

/-- The name whose variable a position shares is mentioned. -/
theorem mentions_mem_remarks (key : item.key? = some name) : .mentions name ∈ item.remarks := by
  obtain ⟨value, name?⟩ := item
  cases value <;> cases name? <;> simp_all [Item.key?, Item.remarks]

/-- A position that constrains a name shares its variable. -/
theorem key?_of_constrains (member : .constrains name ∈ item.remarks) : item.key? = some name := by
  obtain ⟨value, name?⟩ := item
  cases value <;> cases name? <;> simp_all [Item.key?, Item.remarks]

/-- Names are equated by a reference to the one that is called by the other. -/
theorem reference_of_equates (member : .equates name synonym ∈ item.remarks) :
    item.value = .reference name ∧ item.name? = some synonym := by
  obtain ⟨value, name?⟩ := item
  cases value <;> cases name? <;> simp_all [Item.remarks]

/-- What is the same for names that are equated is the same for synonyms. -/
theorem Synonyms.apply_eq {α : Type} {value : String → α} {first second : String}
    (synonyms : Synonyms remarks first second)
    (equated : ∀ {name synonym}, .equates name synonym ∈ remarks → value name = value synonym) :
    value first = value second := by
  induction synonyms with
  | rel first second member => exact equated member
  | refl name => rfl
  | symm first second _ hypothesis => exact hypothesis.symm
  | trans first second third _ _ toSecond toThird => exact toSecond.trans toThird

/-- Some position says what a variable is. -/
def IsIntroduced (template : Template) (var : Nat) : Prop :=
  ∃ known, template.vars[var]? = some known ∧ known.introduced = true

theorem isIntroduced_addVariable {name? : Option String} :
    (template.addVariable ⟨name?, false⟩).IsIntroduced var ↔ template.IsIntroduced var := by
  simp only [IsIntroduced, addVariable, List.getElem?_append]
  split
  · rfl
  · rename_i beyond
    rw [List.getElem?_eq_none (Nat.le_of_not_lt beyond), List.getElem?_singleton]
    split <;> simp

theorem isIntroduced_introduce {introduced : Nat} (declared : introduced < template.vars.length) :
    (template.introduce introduced).IsIntroduced var ↔
      var = introduced ∨ template.IsIntroduced var := by
  simp only [IsIntroduced, introduce, List.getElem?_modify]
  by_cases same : introduced = var
  · subst same
    simp [List.getElem?_eq_getElem declared]
  · simp [same, Ne.symm same]

/-! ### Redefinitions -/

/-- **What is recorded when an item is interned**: nothing, or the name by which it calls a name that
it refers to. -/
theorem redefined_intern (template : Template) (item : Item) :
    (template.intern item).2.redefined = template.redefined ∨
      ∃ name synonym, .equates name synonym ∈ item.remarks ∧
        (template.intern item).2.redefined = template.redefined ++ [synonym] := by
  have varFor : ∀ name, (template.varFor name).2.redefined = template.redefined := by
    intro name
    unfold Template.varFor
    split <;> rfl
  obtain ⟨value, name?⟩ := item
  cases value with
  | fixed address | typed type =>
    cases name? with
    | none => exact .inl rfl
    | some name => exact .inl (varFor name)
  | reference name =>
    rw [← varFor name]
    cases name? with
    | none => exact .inl rfl
    | some synonym =>
      simp only [intern, internReference, Option.elim_some, addSynonym]
      split
      · exact .inl rfl
      · split
        · exact .inl rfl
        · exact .inr ⟨name, synonym, by simp [Item.remarks], rfl⟩

theorem clean_of_intern (clean : (template.intern item).2.redefined = []) :
    template.redefined = [] := by
  rcases redefined_intern template item with same | ⟨-, synonym, -, more⟩
  · exact same ▸ clean
  · rw [more] at clean
    exact absurd clean (List.concat_ne_nil _ _)

theorem clean_of_append (clean : (template.append items.clause).redefined = []) :
    template.redefined = [] :=
  clean_of_intern (clean_of_intern (@clean_of_intern _ items.target clean))

theorem clean_intern (clean : template.redefined = [])
    (plain : ∀ name synonym, .equates name synonym ∉ item.remarks) :
    (template.intern item).2.redefined = [] := by
  rcases redefined_intern template item with same | ⟨name, synonym, member, -⟩
  · exact same.trans clean
  · exact absurd member (plain name synonym)

/-- **Without synonyms no redefinition is recorded.** -/
theorem clean_ofItems (plain : ∀ name synonym, .equates name synonym ∉ remarksOf triples) :
    (ofItems triples).redefined = [] := by
  induction triples using List.reverseRecOn with
  | nil => rfl
  | append_singleton triples items hypothesis =>
    simp only [remarksOf_concat, List.mem_append, not_or, ItemTriple.toList, List.flatMap_cons,
      List.flatMap_nil, List.append_nil, forall_and] at plain
    obtain ⟨before, source, edge, target⟩ := plain
    rw [ofItems_concat]
    exact clean_intern (clean_intern (clean_intern (hypothesis before) source) edge) target

/-! ### Interning -/

/-- The names of a template and its variables are what is said about names: a name has a variable if
it is mentioned, names that share a variable are synonyms, and introduced is what is constrained. -/
structure Interns (template : Template) (remarks : List Remark) : Prop where
  declared : ∀ {name var}, template.varNamed? name = some var → var < template.vars.length
  owned : ∀ {var}, var < template.vars.length → template.IsNamed var
  mentioned : ∀ {name}, .mentions name ∈ remarks ↔ ∃ var, template.varNamed? name = some var
  constrained : ∀ {name}, .constrains name ∈ remarks →
    ∃ var, template.varNamed? name = some var ∧ template.IsIntroduced var
  introduced : ∀ {var}, template.IsIntroduced var →
    ∃ name, .constrains name ∈ remarks ∧ template.varNamed? name = some var
  equated : ∀ {name synonym}, .equates name synonym ∈ remarks →
    ∃ var, template.varNamed? name = some var ∧ template.varNamed? synonym = some var
  shared : ∀ {first second var}, template.varNamed? first = some var →
    template.varNamed? second = some var → Synonyms remarks first second

theorem interns_empty : empty.Interns [] where
  declared := nofun
  owned := nofun
  mentioned := by simp [varNamed?, empty]
  constrained := nofun
  introduced := by simp [IsIntroduced, empty]
  equated := nofun
  shared := nofun

theorem Interns.congr {others : List Remark} (interns : template.Interns remarks)
    (same : ∀ remark, remark ∈ remarks ↔ remark ∈ others) : template.Interns others where
  declared := interns.declared
  owned := interns.owned
  mentioned := (same _).symm.trans interns.mentioned
  constrained member := interns.constrained ((same _).2 member)
  introduced holds := by
    obtain ⟨name, member, here⟩ := interns.introduced holds
    exact ⟨name, (same _).1 member, here⟩
  equated member := interns.equated ((same _).2 member)
  shared first second := (interns.shared first second).mono fun remark => (same remark).1

theorem varNamed?_addName_iff (free : template.varNamed? name = none) {added : Nat} :
    (template.addName name added).varNamed? other = some var ↔
      template.varNamed? other = some var ∨ (other = name ∧ var = added) := by
  rw [varNamed?_addName]
  by_cases same : name = other
  · subst same
    simp [free, eq_comm]
  · simp [same, Ne.symm same]

/-- A name that belongs to no variable gets a new one, which nothing introduces yet. -/
theorem Interns.addNamed (interns : template.Interns remarks)
    (free : template.varNamed? name = none) :
    ((template.addVariable ⟨some name, false⟩).addName name template.vars.length).Interns
      (remarks ++ [.mentions name]) := by
  have found : ∀ {other var}, ((template.addVariable ⟨some name, false⟩).addName name
      template.vars.length).varNamed? other = some var ↔
        template.varNamed? other = some var ∨ (other = name ∧ var = template.vars.length) :=
    varNamed?_addName_iff free
  have length : (template.addVariable ⟨some name, false⟩).vars.length =
      template.vars.length + 1 := by
    simp [addVariable]
  have introduced : ∀ {var}, ((template.addVariable ⟨some name, false⟩).addName name
      template.vars.length).IsIntroduced var ↔ template.IsIntroduced var :=
    isIntroduced_addVariable
  refine {
    declared := fun here => ?_
    owned := fun {var} inside => ?_
    mentioned := ?_
    constrained := fun {constrained} member => ?_
    introduced := fun holds => ?_
    equated := fun {first second} member => ?_
    shared := fun {first second var} atFirst atSecond => ?_ }
  · show _ < (template.addVariable ⟨some name, false⟩).vars.length
    rw [length]
    rcases found.1 here with old | ⟨-, rfl⟩
    · exact Nat.lt_succ_of_lt (interns.declared old)
    · exact Nat.lt_succ_self _
  · have inside : var < template.vars.length + 1 := length ▸ inside
    rcases Nat.lt_succ_iff_lt_or_eq.1 inside with old | rfl
    · obtain ⟨owner, here⟩ := interns.owned old
      exact ⟨owner, found.2 (.inl here)⟩
    · exact ⟨name, found.2 (.inr ⟨rfl, rfl⟩)⟩
  · intro other
    simp only [List.mem_append, List.mem_singleton, interns.mentioned, found, exists_or,
      Remark.mentions.injEq, exists_and_left, exists_eq, and_true]
  · have member : .constrains constrained ∈ remarks := by simpa using member
    obtain ⟨var, here, holds⟩ := interns.constrained member
    exact ⟨var, found.2 (.inl here), introduced.2 holds⟩
  · obtain ⟨constrained, member, here⟩ := interns.introduced (introduced.1 holds)
    exact ⟨constrained, List.mem_append_left _ member, found.2 (.inl here)⟩
  · have member : .equates first second ∈ remarks := by simpa using member
    obtain ⟨var, atName, atSynonym⟩ := interns.equated member
    exact ⟨var, found.2 (.inl atName), found.2 (.inl atSynonym)⟩
  · -- The new variable has one name, and every other has only names that it had before.
    have apart : ∀ {old}, template.varNamed? old ≠ some template.vars.length :=
      fun here => absurd (interns.declared here) (Nat.lt_irrefl _)
    rcases found.1 atFirst with oldFirst | ⟨rfl, rfl⟩
    · rcases found.1 atSecond with oldSecond | ⟨-, rfl⟩
      · exact (interns.shared oldFirst oldSecond).mono (List.subset_append_left _ _)
      · exact absurd oldFirst apart
    · rcases found.1 atSecond with oldSecond | ⟨rfl, -⟩
      · exact absurd oldSecond apart
      · exact .refl _

/-- **A name is mentioned**: it gets a variable unless it has one. -/
theorem Interns.mention (interns : template.Interns remarks) (name : String) :
    (template.varFor name).2.Interns (remarks ++ [.mentions name]) := by
  unfold varFor
  split
  · rename_i var here
    refine interns.congr fun remark => ?_
    have known := interns.mentioned.2 ⟨var, here⟩
    simp only [List.mem_append, List.mem_singleton]
    exact ⟨.inl, fun member => member.elim id fun same => same ▸ known⟩
  · exact interns.addNamed ‹_›

/-- **A name is constrained**: its variable is introduced. -/
theorem Interns.constrain (interns : template.Interns remarks)
    (here : template.varNamed? name = some var) :
    (template.introduce var).Interns (remarks ++ [.constrains name]) := by
  have introduced : ∀ {other}, (template.introduce var).IsIntroduced other ↔
      other = var ∨ template.IsIntroduced other :=
    isIntroduced_introduce (interns.declared here)
  have length : (template.introduce var).vars.length = template.vars.length :=
    List.length_modify ..
  refine {
    declared := fun found => length ▸ interns.declared found
    owned := fun inside => interns.owned (length ▸ inside)
    mentioned := ?_
    constrained := fun {constrained} member => ?_
    introduced := fun holds => ?_
    equated := fun member => interns.equated (by simpa using member)
    shared := fun first second =>
      (interns.shared first second).mono (List.subset_append_left _ _) }
  · intro other
    simp only [List.mem_append, List.mem_singleton, reduceCtorEq, or_false]
    exact interns.mentioned
  · simp only [List.mem_append, List.mem_singleton, Remark.constrains.injEq] at member
    rcases member with member | rfl
    · obtain ⟨var', found, holds⟩ := interns.constrained member
      exact ⟨var', found, introduced.2 (.inr holds)⟩
    · exact ⟨var, here, introduced.2 (.inl rfl)⟩
  · rcases introduced.1 holds with rfl | holds
    · exact ⟨name, List.mem_append_right _ List.mem_cons_self, here⟩
    · obtain ⟨constrained, member, found⟩ := interns.introduced holds
      exact ⟨constrained, List.mem_append_left _ member, found⟩

/-- A synonym gets the variable it is added for, unless a redefinition is recorded. -/
theorem varNamed?_addSynonym_iff {added : Nat}
    (clean : (template.addSynonym synonym added).redefined = []) :
    (template.addSynonym synonym added).varNamed? other = some var ↔
      template.varNamed? other = some var ∨ (other = synonym ∧ var = added) := by
  revert clean
  unfold addSynonym
  split
  · exact fun _ => varNamed?_addName_iff ‹_›
  · rename_i existing there
    split
    · rename_i same
      subst same
      refine fun _ => ⟨.inl, fun held => held.elim id ?_⟩
      rintro ⟨rfl, rfl⟩
      exact there
    · simp

/-- **Two names are equated**: they share a variable, unless a redefinition is recorded. -/
theorem Interns.equate (interns : template.Interns remarks)
    (here : template.varNamed? name = some var)
    (clean : (template.addSynonym synonym var).redefined = []) :
    (template.addSynonym synonym var).Interns
      (remarks ++ [.mentions synonym, .equates name synonym]) := by
  have found : ∀ {other var'}, (template.addSynonym synonym var).varNamed? other = some var' ↔
      template.varNamed? other = some var' ∨ (other = synonym ∧ var' = var) :=
    varNamed?_addSynonym_iff clean
  have sameVars : (template.addSynonym synonym var).vars = template.vars := vars_addSynonym _ _
  have introduced : ∀ {other}, (template.addSynonym synonym var).IsIntroduced other ↔
      template.IsIntroduced other := by
    intro other
    rw [IsIntroduced, sameVars, IsIntroduced]
  refine {
    declared := fun holds => ?_
    owned := fun inside => ?_
    mentioned := ?_
    constrained := fun {constrained} member => ?_
    introduced := fun holds => ?_
    equated := fun member => ?_
    shared := fun {first second var'} atFirst atSecond => ?_ }
  · rw [sameVars]
    rcases found.1 holds with old | ⟨-, rfl⟩
    · exact interns.declared old
    · exact interns.declared here
  · obtain ⟨owner, holds⟩ := interns.owned (sameVars ▸ inside)
    exact ⟨owner, found.2 (.inl holds)⟩
  · intro other
    simp only [List.mem_append, List.mem_cons, List.not_mem_nil, or_false, interns.mentioned, found,
      exists_or, Remark.mentions.injEq, reduceCtorEq, exists_and_left, exists_eq, and_true]
  · have member : .constrains constrained ∈ remarks := by simpa using member
    obtain ⟨var', holds, isIntroduced⟩ := interns.constrained member
    exact ⟨var', found.2 (.inl holds), introduced.2 isIntroduced⟩
  · obtain ⟨constrained, member, there⟩ := interns.introduced (introduced.1 holds)
    exact ⟨constrained, List.mem_append_left _ member, found.2 (.inl there)⟩
  · simp only [List.mem_append, List.mem_cons, List.not_mem_nil, or_false, reduceCtorEq, false_or,
      Remark.equates.injEq] at member
    rcases member with member | ⟨rfl, rfl⟩
    · obtain ⟨var', atName, atSynonym⟩ := interns.equated member
      exact ⟨var', found.2 (.inl atName), found.2 (.inl atSynonym)⟩
    · exact ⟨var, found.2 (.inl here), found.2 (.inr ⟨rfl, rfl⟩)⟩
  · -- Whatever shares the variable is a synonym of the name, old ones and the new one.
    have synonyms : ∀ {other}, (template.addSynonym synonym var).varNamed? other = some var →
        Synonyms (remarks ++ [.mentions synonym, .equates name synonym]) name other := by
      intro other holds
      rcases found.1 holds with old | ⟨rfl, -⟩
      · exact (interns.shared here old).mono (List.subset_append_left _ _)
      · exact .rel _ _ (by simp)
    by_cases same : var' = var
    · subst same
      exact (synonyms atFirst).symm.trans _ _ _ (synonyms atSecond)
    · have old : ∀ {other}, (template.addSynonym synonym var).varNamed? other = some var' →
          template.varNamed? other = some var' :=
        fun holds => (found.1 holds).resolve_right fun ⟨_, equal⟩ => same equal
      exact (interns.shared (old atFirst) (old atSecond)).mono (List.subset_append_left _ _)

/-- **Interning an item takes in what it says about names**, unless it records a redefinition. -/
theorem Interns.intern (interns : template.Interns remarks)
    (clean : (template.intern item).2.redefined = []) :
    (template.intern item).2.Interns (remarks ++ item.remarks) := by
  have constrained : ∀ constraint name?,
      (template.internConstrained constraint name?).2.Interns
        (remarks ++ (name?.elim [] fun name => [.mentions name, .constrains name])) := by
    intro constraint name?
    cases name? with
    | none =>
      rw [Option.elim_none, List.append_nil]
      exact interns
    | some name =>
      have read := (interns.mention name).constrain (namesMore_varFor template name).2
      rwa [List.append_assoc] at read
  obtain ⟨value, name?⟩ := item
  cases value with
  | fixed address =>
    have read := constrained (.fixed address) name?
    cases name? <;> exact read
  | typed type =>
    have read := constrained (.typed type) name?
    cases name? <;> exact read
  | reference name =>
    have mentioned := interns.mention name
    cases name? with
    | none => exact mentioned
    | some synonym =>
      have read := mentioned.equate (namesMore_varFor template name).2 clean
      rwa [List.append_assoc] at read

/-- **A clause takes in what its items say about names**, unless it records a redefinition. -/
theorem Interns.append (interns : template.Interns remarks)
    (clean : (template.append items.clause).redefined = []) :
    (template.append items.clause).Interns (remarks ++ items.toList.flatMap Item.remarks) := by
  have cleanTarget : ((((template.intern items.source).2.intern items.edge).2.intern
      items.target).2).redefined = [] := clean
  have cleanEdge := clean_of_intern cleanTarget
  have cleanSource := clean_of_intern cleanEdge
  have read := ((interns.intern cleanSource).intern cleanEdge).intern cleanTarget
  simp only [ItemTriple.toList, List.flatMap_cons, List.flatMap_nil, List.append_nil]
  rw [List.append_assoc, List.append_assoc] at read
  exact ⟨read.declared, read.owned, read.mentioned, read.constrained, read.introduced, read.equated,
    read.shared⟩

/-- **Building takes in what the items say about names**, if no redefinition is recorded. -/
theorem interns_ofItems (clean : (ofItems triples).redefined = []) :
    (ofItems triples).Interns (remarksOf triples) := by
  induction triples using List.reverseRecOn with
  | nil => exact interns_empty
  | append_singleton triples items hypothesis =>
    rw [ofItems_concat] at clean ⊢
    rw [remarksOf_concat]
    exact (hypothesis (clean_of_append clean)).append clean

/-! ### Slots -/

/-- The slot that an item gets is the one it has by the names, however many are added later. -/
theorem slot_of_intern (interned : template.intern item = (slot, after))
    (more : after.NamesMore later) : item.slot later = slot := by
  have constrained : ∀ constraint name?,
      template.internConstrained constraint name? = (slot, after) →
        (⟨constraint, name?.bind later.varNamed?⟩ : Slot) = slot := by
    intro constraint name? same
    cases name? with
    | none =>
      cases same
      rfl
    | some name =>
      cases same
      have here := more.keeps (namesMore_varFor template name).2
      rw [Option.bind_some, here]
      rfl
  obtain ⟨value, name?⟩ := item
  cases value with
  | fixed address => exact constrained _ _ interned
  | typed type => exact constrained _ _ interned
  | reference name =>
    have found := (namesMore_varFor template name).2
    cases name? with
    | none =>
      cases interned
      exact congrArg (Slot.mk .any) (more.keeps found)
    | some synonym =>
      cases interned
      exact congrArg (Slot.mk .any) (more.keeps ((namesMore_addSynonym _ synonym _).keeps found))

/-- A clause appends the slots that its items have by the names. -/
theorem triples_append (more : (template.append items.clause).NamesMore later) :
    (template.append items.clause).triples = template.triples ++ [items.slots later] ∧
      template.NamesMore later := by
  rcases first : template.intern items.source with ⟨sourceSlot, withSource⟩
  rcases second : withSource.intern items.edge with ⟨edgeSlot, withEdge⟩
  rcases third : withEdge.intern items.target with ⟨targetSlot, withTarget⟩
  have appended : template.append items.clause =
      withTarget.addSlots ⟨sourceSlot, edgeSlot, targetSlot⟩ := by
    simp only [Template.append, ItemTriple.clause, triple, first, second, third]
  rw [appended] at more ⊢
  have added : withTarget.NamesMore (withTarget.addSlots ⟨sourceSlot, edgeSlot, targetSlot⟩) :=
    .of_eq rfl
  have moreTarget := added.trans more
  have step : ∀ {before after : Template} {item : Item} {slot : Slot},
      before.intern item = (slot, after) → before.NamesMore after := by
    intro before after item slot interned
    have names := (namesMore_intern before item).1
    rwa [interned] at names
  have moreEdge := (step third).trans moreTarget
  have moreSource := (step second).trans moreEdge
  have same : withTarget.triples = template.triples := by
    have sameTarget := triples_intern withEdge items.target
    have sameEdge := triples_intern withSource items.edge
    have sameSource := triples_intern template items.source
    rw [third] at sameTarget
    rw [second] at sameEdge
    rw [first] at sameSource
    exact sameTarget.trans (sameEdge.trans sameSource)
  refine ⟨?_, (step first).trans moreSource⟩
  rw [ItemTriple.slots, slot_of_intern first moreSource, slot_of_intern second moreEdge,
    slot_of_intern third moreTarget, ← same]
  rfl

/-- **The triples of a template are the slots that the items have by its names.** -/
theorem triples_ofItems (triples : List ItemTriple) :
    (ofItems triples).triples = triples.map (ItemTriple.slots (ofItems triples)) := by
  have built : ∀ {later : Template}, (ofItems triples).NamesMore later →
      (ofItems triples).triples = triples.map (ItemTriple.slots later) := by
    induction triples using List.reverseRecOn with
    | nil => exact fun _ => rfl
    | append_singleton triples items hypothesis =>
      intro later more
      rw [ofItems_concat] at more ⊢
      obtain ⟨appended, before⟩ := triples_append more
      rw [appended, hypothesis before, List.map_append, List.map_singleton]
  exact built (.of_eq rfl)

/-! ### Validation -/

/-- What a list of triples of items has to say, in whatever order, to be accepted: something, about
every name directly or by a synonym, and nothing that cannot exist. -/
structure Acceptable (triples : List ItemTriple) : Prop where
  nonempty : triples ≠ []
  constrained : ∀ name, .mentions name ∈ remarksOf triples →
    ∃ other, .constrains other ∈ remarksOf triples ∧ Synonyms (remarksOf triples) name other
  valid : ∀ item ∈ itemsOf triples, ∀ address, item.constraint = .fixed address →
    address.isValid = true
  consistent : ∀ item ∈ itemsOf triples, ∀ type, item.constraint = .typed type →
    type.conflict? = none

theorem Acceptable.perm (acceptable : Acceptable triples) (perm : triples.Perm reordered) :
    Acceptable reordered := by
  have items : (itemsOf triples).Perm (itemsOf reordered) := perm.flatMap_right _
  have remarks := remarksOf_perm perm
  refine ⟨fun empty => acceptable.nonempty (List.perm_nil.1 (empty ▸ perm)), fun name member => ?_,
    fun item member => acceptable.valid item (items.mem_iff.2 member),
    fun item member => acceptable.consistent item (items.mem_iff.2 member)⟩
  obtain ⟨other, said, synonyms⟩ := acceptable.constrained name (remarks.mem_iff.2 member)
  exact ⟨other, remarks.mem_iff.1 said, synonyms.mono remarks.subset⟩

/-- **What validation asks for.** -/
theorem validate_iff : template.validate = .ok () ↔
    template.triples ≠ [] ∧ template.redefined = [] ∧ template.MakesSense := by
  constructor
  · intro passed
    have sense := makesSense_of_validate passed
    unfold validate at passed
    split at passed
    · cases passed
    · rename_i sound
      unfold error? at sound
      split at sound
      · cases sound
      · rename_i notEmpty
        split at sound
        · cases sound
        · cases sound
        · rename_i noName _
          exact ⟨by simpa [isEmpty] using notEmpty, by simpa using noName, sense⟩
  · rintro ⟨triples, once, sense⟩
    exact validate_of_makesSense sense triples once

/-- A template that redefines a name is refused for that. -/
theorem validate_of_redefined (nonempty : template.triples ≠ [])
    (redefined : template.redefined ≠ []) : ∃ name, template.validate = .error (.nameRedefined name) := by
  have notEmpty : template.isEmpty = false := by simpa [isEmpty] using nonempty
  obtain ⟨name, rest, here⟩ := List.exists_cons_of_ne_nil redefined
  exact ⟨name, by simp [validate, error?, notEmpty, here]⟩

/-- Synonyms have the same variable. -/
theorem Interns.varNamed?_eq (interns : template.Interns remarks) {first second : String}
    (synonyms : Synonyms remarks first second) :
    template.varNamed? first = template.varNamed? second := by
  refine synonyms.apply_eq fun member => ?_
  obtain ⟨var, atName, atSynonym⟩ := interns.equated member
  rw [atName, atSynonym]

/-- Every variable is introduced if every name is constrained, directly or by a synonym. -/
theorem Interns.introduced_iff (interns : template.Interns remarks) :
    (∀ known ∈ template.vars, known.introduced = true) ↔
      ∀ name, .mentions name ∈ remarks →
        ∃ other, .constrains other ∈ remarks ∧ Synonyms remarks name other := by
  constructor
  · intro all name member
    obtain ⟨var, here⟩ := interns.mentioned.1 member
    have declared := interns.declared here
    have introduced : template.IsIntroduced var :=
      ⟨_, List.getElem?_eq_getElem declared, all _ (List.getElem_mem declared)⟩
    obtain ⟨other, said, there⟩ := interns.introduced introduced
    exact ⟨other, said, interns.shared here there⟩
  · intro each known member
    obtain ⟨var, declared, rfl⟩ := List.mem_iff_getElem.1 member
    obtain ⟨name, here⟩ := interns.owned declared
    obtain ⟨other, said, synonyms⟩ := each name (interns.mentioned.2 ⟨var, here⟩)
    obtain ⟨var', there, found, known, introduced⟩ := interns.constrained said
    have same := interns.varNamed?_eq synonyms
    rw [here, there, Option.some_inj] at same
    subst same
    rw [List.getElem?_eq_getElem declared, Option.some_inj] at known
    exact known ▸ introduced

theorem triples_ofItems_ne_nil_iff : (ofItems triples).triples ≠ [] ↔ triples ≠ [] := by
  rw [triples_ofItems, Ne, List.map_eq_nil_iff]

theorem mem_slots_ofItems_iff : slot ∈ (ofItems triples).slots ↔
    ∃ item ∈ itemsOf triples, item.slot (ofItems triples) = slot := by
  have slots : (ofItems triples).slots =
      (itemsOf triples).map (Item.slot (ofItems triples)) := by
    rw [Template.slots, triples_ofItems, itemsOf, List.flatMap_map, List.map_flatMap]
    rfl
  rw [slots, List.mem_map]

/-- **Validation accepts what is acceptable in any order**, if no redefinition was recorded. -/
theorem validate_ofItems_iff : (ofItems triples).validate = .ok () ↔
    (ofItems triples).redefined = [] ∧ Acceptable triples := by
  rw [validate_iff, triples_ofItems_ne_nil_iff]
  constructor
  · rintro ⟨triples, clean, sense⟩
    refine ⟨clean, triples, (interns_ofItems clean).introduced_iff.1 sense.introduced,
      fun item member => ?_, fun item member => ?_⟩
    · exact sense.valid _ (mem_slots_ofItems_iff.2 ⟨item, member, rfl⟩)
    · exact sense.consistent _ (mem_slots_ofItems_iff.2 ⟨item, member, rfl⟩)
  · rintro ⟨clean, acceptable⟩
    refine ⟨acceptable.nonempty, clean,
      (interns_ofItems clean).introduced_iff.2 acceptable.constrained, fun slot member => ?_,
      fun slot member => ?_⟩
    · obtain ⟨item, inItems, rfl⟩ := mem_slots_ofItems_iff.1 member
      exact acceptable.valid item inItems
    · obtain ⟨item, inItems, rfl⟩ := mem_slots_ofItems_iff.1 member
      exact acceptable.consistent item inItems

end SemanticNetwork.Template
