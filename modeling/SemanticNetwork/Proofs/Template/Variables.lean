/-
**Variables and names.** While a template is built, a variable is added for the slot it stands in, and
it is introduced where a slot says what its element is. An edge that is shared with a relation gets a
variable only after its slot was made. But a slot without variable always says what its element is, so
the new variable is introduced at once. Names are the ones that items mention, and each keeps the
variable that it was given first.

* `Marks`, kept by `Marks.intern`, `Marks.shareSlot` and `Marks.append`: variables are marked as the
  slots say;
* `marks_ofClauses`: **every variable stands in a slot, and is introduced exactly if one of its slots
  says what its element is**;
* `hasName_ofClauses_iff`: **the names are those that are mentioned**;
* `namesMore_append`, `namesMore_ofClauses`: **a name keeps its variable**, whatever follows.
-/
import SemanticNetwork.Proofs.Template.Remarks

namespace SemanticNetwork.Template

variable {template after : Template} {slots others : List Slot} {slot : Slot} {item : Item}
  {name other : String} {var : Nat}

/-! ### Variables -/

/-- **Variables are marked as some slots say**: each stands in one of them, and counts as introduced
exactly if one of those in which it stands says what its element is. -/
structure Marks (slots : List Slot) (template : Template) : Prop where
  stands : ∀ {var}, var < template.vars.length → ∃ slot ∈ slots, slot.var = some var
  introduced_iff : ∀ {var}, template.IsIntroduced var ↔
    ∃ slot ∈ slots, slot.var = some var ∧ slot.constraint ≠ .any

theorem Marks.congr (marks : template.Marks slots) (same : ∀ slot, slot ∈ slots ↔ slot ∈ others) :
    template.Marks others where
  stands declared := by
    obtain ⟨slot, member, here⟩ := marks.stands declared
    exact ⟨slot, (same slot).1 member, here⟩
  introduced_iff {var} := by simp only [marks.introduced_iff, same]

/-- With one more slot only its own variable may be new, or newly introduced. -/
theorem Marks.addSlot (marks : template.Marks slots)
    (declared : ∀ {var}, var < after.vars.length →
      var < template.vars.length ∨ slot.var = some var)
    (introduced : ∀ {var}, after.IsIntroduced var ↔
      template.IsIntroduced var ∨ (slot.var = some var ∧ slot.constraint ≠ .any)) :
    after.Marks (slots ++ [slot]) where
  stands {var} inside := by
    rcases declared inside with old | here
    · obtain ⟨slot, member, here⟩ := marks.stands old
      exact ⟨slot, List.mem_append_left _ member, here⟩
    · exact ⟨slot, List.mem_append_right _ List.mem_cons_self, here⟩
  introduced_iff {var} := by
    rw [introduced, marks.introduced_iff]
    simp only [List.mem_append, List.mem_singleton, or_and_right, exists_or, exists_eq_left]

/-- A slot that only refers to a variable marks nothing. -/
theorem Marks.addReference (marks : template.Marks slots) (var : Nat) :
    template.Marks (slots ++ [⟨.any, some var⟩]) :=
  marks.addSlot .inl (by simp)

theorem Marks.addSlots (marks : template.Marks slots) (added : SlotTriple) :
    (template.addSlots added).Marks slots :=
  ⟨marks.stands, marks.introduced_iff⟩

theorem marks_empty : empty.Marks [] where
  stands declared := absurd declared (Nat.not_lt_zero _)
  introduced_iff {var} := by simp [IsIntroduced, empty]

theorem lt_or_eq_of_varFor (inside : var < (template.varFor name).2.vars.length) :
    var < template.vars.length ∨ (template.varFor name).1 = var := by
  revert inside
  unfold varFor
  split
  · exact .inl
  · simp only [addName, addVariable, List.length_append, List.length_singleton]
    omega

theorem isIntroduced_varFor :
    (template.varFor name).2.IsIntroduced var ↔ template.IsIntroduced var := by
  unfold varFor
  split
  · rfl
  · exact isIntroduced_addVariable

theorem Marks.internConstrained (marks : template.Marks slots) (covers : template.Covers slots)
    (constraint : Constraint) (notAny : constraint ≠ .any) (name? : Option String) :
    (template.internConstrained constraint name?).2.Marks
      (slots ++ [(template.internConstrained constraint name?).1]) := by
  cases name? with
  | none => exact marks.addSlot .inl (by simp [Template.internConstrained])
  | some name =>
    have declared := (covers_varFor covers name).2
    refine marks.addSlot (fun inside => ?_) ?_
    · have inside : _ < ((template.varFor name).2.introduce _).vars.length := inside
      rw [introduce, List.length_modify] at inside
      exact (lt_or_eq_of_varFor inside).imp_right (congrArg some)
    · intro var
      have introduced : (template.internConstrained constraint (some name)).2.IsIntroduced var ↔
          var = (template.varFor name).1 ∨ template.IsIntroduced var :=
        (isIntroduced_introduce declared).trans (or_congr_right isIntroduced_varFor)
      refine introduced.trans (or_comm.trans (or_congr_right ?_))
      simp [Template.internConstrained, notAny, eq_comm]

theorem Marks.internReference (marks : template.Marks slots) (referenced : String)
    (name? : Option String) : (template.internReference referenced name?).2.Marks
      (slots ++ [(template.internReference referenced name?).1]) := by
  have sameVars : (template.internReference referenced name?).2.vars =
      (template.varFor referenced).2.vars := by
    cases name? with
    | none => rfl
    | some name => exact vars_addSynonym name _
  refine marks.addSlot (fun inside => ?_) ?_
  · rw [sameVars] at inside
    exact (lt_or_eq_of_varFor inside).imp_right (congrArg some)
  · intro var
    rw [IsIntroduced, sameVars, ← IsIntroduced, isIntroduced_varFor]
    simp [Template.internReference]

/-- **Interning an item keeps the marks**, and its slot is taken into account. -/
theorem Marks.intern (marks : template.Marks slots) (covers : template.Covers slots)
    (interned : template.intern item = (slot, after)) : after.Marks (slots ++ [slot]) := by
  have kept : (template.intern item).2.Marks (slots ++ [(template.intern item).1]) := by
    unfold Template.intern
    split
    · exact marks.internConstrained covers (.fixed _) nofun _
    · exact marks.internConstrained covers (.typed _) nofun _
    · exact marks.internReference _ _
  rwa [interned] at kept

/-- **A slot without variable says what its element is.** -/
theorem notAny_of_intern (interned : template.intern item = (slot, after)) (free : slot.var = none) :
    slot.constraint ≠ .any := by
  have grounded := (namesMore_intern template item).2
  rw [interned] at grounded
  intro isAny
  obtain ⟨var, here, -⟩ := grounded isAny
  cases free.symm.trans here

/-- What interning the items of a triple gives. -/
theorem Marks.interns {source edge target : Item} {sourceSlot edgeSlot targetSlot : Slot}
    {withSource withEdge withTarget : Template} (marks : template.Marks slots)
    (covers : template.Covers slots) (first : template.intern source = (sourceSlot, withSource))
    (second : withSource.intern edge = (edgeSlot, withEdge))
    (third : withEdge.intern target = (targetSlot, withTarget)) :
    withTarget.Marks (slots ++ [sourceSlot, edgeSlot, targetSlot]) := by
  obtain ⟨coversSource, -⟩ := covers_of_intern covers first
  obtain ⟨coversEdge, -⟩ := covers_of_intern coversSource second
  have marked := ((marks.intern covers first).intern coversSource second).intern coversEdge third
  simpa only [List.append_assoc, List.cons_append, List.nil_append] using marked

/-- A variable that is added for an edge to share is introduced already. -/
theorem isIntroduced_addShared :
    (template.addVariable ⟨none, true⟩).IsIntroduced var ↔
      template.IsIntroduced var ∨ template.vars.length = var := by
  simp only [IsIntroduced, addVariable, List.getElem?_append]
  split
  · rename_i inside
    simp [Nat.ne_of_gt inside]
  · rename_i beyond
    rw [List.getElem?_eq_none (Nat.le_of_not_lt beyond), List.getElem?_singleton]
    split
    · simp
      omega
    · simp
      omega

/-- **A slot that gets a variable to share keeps the marks**: without a variable it says what its
element is. -/
theorem Marks.shareSlot (marks : template.Marks (slots ++ slot :: others))
    (notAny : slot.var = none → slot.constraint ≠ .any) :
    (template.shareSlot slot).2.2.Marks (slots ++ (template.shareSlot slot).2.1 :: others) := by
  unfold Template.shareSlot
  split
  · exact marks
  · rename_i free
    have without : template.Marks (slots ++ others) := by
      constructor
      · intro var declared
        obtain ⟨other, member, here⟩ := marks.stands declared
        simp only [List.mem_append, List.mem_cons] at member
        rcases member with before | rfl | later
        · exact ⟨other, List.mem_append_left _ before, here⟩
        · cases free.symm.trans here
        · exact ⟨other, List.mem_append_right _ later, here⟩
      · intro var
        rw [marks.introduced_iff]
        simp [or_and_right, exists_or, free]
    have added : (template.addVariable ⟨none, true⟩).Marks ((slots ++ others) ++
        [{ slot with var := some template.vars.length }]) := by
      refine without.addSlot (fun {var} inside => ?_) fun {var} => ?_
      · simp only [addVariable, List.length_append, List.length_singleton] at inside
        have either : var < template.vars.length ∨ template.vars.length = var := by omega
        exact either.imp_right (congrArg some)
      · rw [isIntroduced_addShared]
        simp [notAny free]
    refine added.congr fun other => ?_
    simp only [List.append_assoc, List.mem_append, List.mem_cons, List.not_mem_nil, or_false]
    exact or_congr_right or_comm

/-- **Every clause keeps the marks.** -/
theorem Marks.append (marks : template.Marks template.slots)
    (covers : template.Covers template.slots) (clause : Clause) :
    (template.append clause).Marks (template.append clause).slots := by
  cases clause with
  | triple source edge target =>
    rcases first : template.intern source with ⟨sourceSlot, withSource⟩
    rcases second : withSource.intern edge with ⟨edgeSlot, withEdge⟩
    rcases third : withEdge.intern target with ⟨targetSlot, withTarget⟩
    obtain ⟨-, same⟩ := covers_of_interns covers first second third
    have marks := marks.interns covers first second third
    simp only [Template.append, triple, first, second, third]
    rw [slots_addSlots, slots_congr same]
    exact marks.addSlots _
  | withRelation source edge target relationEdge relation =>
    rcases first : template.intern source with ⟨sourceSlot, withSource⟩
    rcases second : withSource.intern edge with ⟨edgeSlot, withEdge⟩
    rcases third : withEdge.intern target with ⟨targetSlot, withTarget⟩
    obtain ⟨covers', same⟩ := covers_of_interns covers first second third
    have marks := marks.interns covers first second third
    -- The edge is shared between its ends, so the slots are split there.
    rw [← List.singleton_append, ← List.append_assoc] at covers' marks
    obtain ⟨covers, stands, sameShared⟩ := covers_shareSlot covers'
    have marks := marks.shareSlot (notAny_of_intern second)
    rcases shared : withTarget.shareSlot edgeSlot with ⟨var, sharedEdge, withShared⟩
    rw [shared] at covers stands sameShared marks
    have covers := covers_addSlots covers ⟨sourceSlot, sharedEdge, targetSlot⟩
    have marks := marks.addSlots ⟨sourceSlot, sharedEdge, targetSlot⟩
    rcases fourth : (withShared.addSlots ⟨sourceSlot, sharedEdge, targetSlot⟩).intern relation with
      ⟨relationSlot, withRelation⟩
    rcases fifth : withRelation.intern relationEdge with ⟨relationEdgeSlot, withRelationEdge⟩
    have marks := marks.intern covers fourth
    obtain ⟨covers, sameFourth⟩ := covers_of_intern covers fourth
    have marks := marks.intern covers fifth
    obtain ⟨-, sameFifth⟩ := covers_of_intern covers fifth
    have marks := (marks.addReference var).addSlots ⟨relationSlot, relationEdgeSlot, ⟨.any, some var⟩⟩
    simp only [Template.append, tripleWithRelation, first, second, third, shared, fourth, fifth]
    rw [slots_addSlots, slots_congr (sameFifth.trans sameFourth), slots_addSlots,
      slots_congr (sameShared.trans same)]
    refine marks.congr fun slot => ?_
    simp only [SlotTriple.toList, List.append_assoc, List.cons_append, List.nil_append]

/-- **In a template that is built, variables are marked as the slots say.** -/
theorem marks_ofClauses (clauses : List Clause) :
    (ofClauses clauses).Marks (ofClauses clauses).slots := by
  have grown : ∀ {template : Template}, template.Covers template.slots →
      template.Marks template.slots →
      (clauses.foldl Template.append template).Marks
        (clauses.foldl Template.append template).slots := by
    induction clauses with
    | nil => exact fun _ marks => marks
    | cons clause rest hypothesis =>
      exact fun covers marks => hypothesis (covers_append covers clause) (marks.append covers clause)
  exact grown ⟨nofun, nofun, nofun⟩ marks_empty

/-! ### Names -/

/-- The items of a clause, in the order in which they are interned. -/
def Clause.items : Clause → List Item
  | .triple source edge target => [source, edge, target]
  | .withRelation source edge target relationEdge relation =>
    [source, edge, target, relation, relationEdge]

/-- Some item of a clause is called by a name, or refers to it. -/
def Clause.Mentions (clause : Clause) (name : String) : Prop :=
  ∃ item ∈ clause.items, .mentions name ∈ item.remarks

instance (clause : Clause) (name : String) : Decidable (clause.Mentions name) :=
  inferInstanceAs (Decidable (∃ item ∈ clause.items, .mentions name ∈ item.remarks))

theorem names_shareSlot (template : Template) (slot : Slot) :
    (template.shareSlot slot).2.2.names = template.names := by
  unfold Template.shareSlot
  split <;> rfl

theorem hasName_congr (same : after.names = template.names) :
    after.hasName name = template.hasName name := by
  rw [hasName, varNamed?, same, hasName, varNamed?]

theorem hasName_addSlots (added : SlotTriple) :
    (template.addSlots added).hasName name = template.hasName name := rfl

theorem hasName_addName : (template.addName other var).hasName name = true ↔
    template.hasName name = true ∨ other = name := by
  rw [hasName, varNamed?_addName, hasName]
  by_cases same : other = name
  · simp [same]
  · simp [same]

/-- A name that is there already adds nothing. -/
theorem hasName_of_varNamed? (here : template.varNamed? other = some var) :
    template.hasName name = true ↔ template.hasName name = true ∨ other = name := by
  refine ⟨.inl, fun held => held.elim id ?_⟩
  rintro rfl
  rw [hasName, here]
  rfl

theorem hasName_varFor (template : Template) (other : String) :
    (template.varFor other).2.hasName name = true ↔
      template.hasName name = true ∨ other = name := by
  unfold varFor
  split
  · exact hasName_of_varNamed? ‹_›
  · exact hasName_addName

theorem hasName_addSynonym : (template.addSynonym other var).hasName name = true ↔
    template.hasName name = true ∨ other = name := by
  unfold addSynonym
  split
  · exact hasName_addName
  · split
    · exact hasName_of_varNamed? ‹_›
    · exact hasName_of_varNamed? ‹_›

/-- **Interning an item adds the names that the item mentions**, and no other. -/
theorem hasName_intern (interned : template.intern item = (slot, after)) :
    after.hasName name = true ↔
      template.hasName name = true ∨ .mentions name ∈ item.remarks := by
  have added : (template.intern item).2.hasName name = true ↔
      template.hasName name = true ∨ .mentions name ∈ item.remarks := by
    obtain ⟨value, name?⟩ := item
    cases value with
    | fixed address | typed type =>
      cases name? with
      | none => simp [Template.intern, Template.internConstrained, Item.remarks]
      | some own =>
        refine (hasName_varFor template own).trans (or_congr_right ?_)
        simp [Item.remarks, eq_comm]
    | reference referenced =>
      cases name? with
      | none =>
        refine (hasName_varFor template referenced).trans (or_congr_right ?_)
        simp [Item.remarks, eq_comm]
      | some synonym =>
        have referred : ((template.varFor referenced).2.hasName name = true ∨ synonym = name) ↔
            (template.hasName name = true ∨ referenced = name) ∨ synonym = name :=
          or_congr_left (hasName_varFor template referenced)
        refine hasName_addSynonym.trans (referred.trans ?_)
        refine or_assoc.trans (or_congr_right ?_)
        simp [Item.remarks, eq_comm]
  rwa [interned] at added

/-- **A clause adds the names that it mentions**, and no other. -/
theorem hasName_append (template : Template) (clause : Clause) (name : String) :
    (template.append clause).hasName name = true ↔
      template.hasName name = true ∨ clause.Mentions name := by
  cases clause with
  | triple source edge target =>
    rcases first : template.intern source with ⟨sourceSlot, withSource⟩
    rcases second : withSource.intern edge with ⟨edgeSlot, withEdge⟩
    rcases third : withEdge.intern target with ⟨targetSlot, withTarget⟩
    simp only [Template.append, triple, first, second, third]
    rw [hasName_addSlots, hasName_intern third, hasName_intern second, hasName_intern first]
    simp [Clause.Mentions, Clause.items, or_assoc]
  | withRelation source edge target relationEdge relation =>
    rcases first : template.intern source with ⟨sourceSlot, withSource⟩
    rcases second : withSource.intern edge with ⟨edgeSlot, withEdge⟩
    rcases third : withEdge.intern target with ⟨targetSlot, withTarget⟩
    have sameShared := names_shareSlot withTarget edgeSlot
    rcases shared : withTarget.shareSlot edgeSlot with ⟨var, sharedEdge, withShared⟩
    rw [shared] at sameShared
    rcases fourth : (withShared.addSlots ⟨sourceSlot, sharedEdge, targetSlot⟩).intern relation with
      ⟨relationSlot, withRelation⟩
    rcases fifth : withRelation.intern relationEdge with ⟨relationEdgeSlot, withRelationEdge⟩
    simp only [Template.append, tripleWithRelation, first, second, third, shared, fourth, fifth]
    rw [hasName_addSlots, hasName_intern fifth, hasName_intern fourth, hasName_addSlots,
      hasName_congr sameShared, hasName_intern third, hasName_intern second, hasName_intern first]
    simp [Clause.Mentions, Clause.items, or_assoc]

/-- **The names of a template that is built are those that are mentioned.** -/
theorem hasName_ofClauses_iff (clauses : List Clause) (name : String) :
    (ofClauses clauses).hasName name = true ↔ ∃ clause ∈ clauses, clause.Mentions name := by
  have grown : ∀ {template : Template}, (clauses.foldl Template.append template).hasName name = true ↔
      template.hasName name = true ∨ ∃ clause ∈ clauses, clause.Mentions name := by
    induction clauses with
    | nil => simp
    | cons clause rest hypothesis =>
      intro template
      rw [List.foldl_cons, hypothesis, hasName_append, or_assoc]
      simp only [List.mem_cons, exists_eq_or_imp]
  refine grown.trans ⟨fun held => held.resolve_left ?_, .inr⟩
  simp [hasName, varNamed?, empty]

/-- **Names keep their variables when a clause is appended.** -/
theorem namesMore_append (template : Template) (clause : Clause) :
    template.NamesMore (template.append clause) := by
  have intern : ∀ {before : Template} item, template.NamesMore before →
      template.NamesMore (before.intern item).2 :=
    fun item more => more.trans (namesMore_intern _ item).1
  have shareSlot : ∀ {before : Template} slot, template.NamesMore before →
      template.NamesMore (before.shareSlot slot).2.2 :=
    fun slot more => more.trans (.of_eq (names_shareSlot _ slot))
  have addSlots : ∀ {before : Template} {slots}, template.NamesMore before →
      template.NamesMore (before.addSlots slots) :=
    fun more => more.trans (.of_eq rfl)
  have same : template.NamesMore template := .of_eq rfl
  cases clause with
  | triple source edge target => exact addSlots (intern target (intern edge (intern source same)))
  | withRelation source edge target relationEdge relation =>
    have shared := shareSlot ((template.intern source).2.intern edge).1
      (intern target (intern edge (intern source same)))
    exact addSlots (intern relationEdge (intern relation (addSlots shared)))

/-- **A name keeps its variable**, whatever is appended later. -/
theorem namesMore_ofClauses (clauses more : List Clause) :
    (ofClauses clauses).NamesMore (ofClauses (clauses ++ more)) := by
  rw [ofClauses, ofClauses, List.foldl_append]
  generalize clauses.foldl Template.append empty = template
  induction more generalizing template with
  | nil => exact .of_eq rfl
  | cons clause rest hypothesis => exact (namesMore_append template clause).trans (hypothesis _)

end SemanticNetwork.Template
