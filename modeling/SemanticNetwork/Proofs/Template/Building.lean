/-
**Templates as they are built.** A template is built from nothing by appending triples, with or
without a relation to their edge. So its slots and its variables belong together: the variable of a
slot is a variable of the template, and so is the one a name belongs to; and a variable that was
introduced stands in some slot.

* `Template.ofClauses`: the template of some clauses;
* `Covers`, kept by every step of building: `covers_intern`, `covers_append`;
* `covers_ofClauses`: **slots and variables of a built template belong together**;
* `makesSense_of_validate`, `validate_of_makesSense`: **what passing validation means**; in
  particular (`MakesSense.exists_slot`) every variable stands in a slot.
-/
import SemanticNetwork.Template.Validate

namespace SemanticNetwork.Template

/-- What is appended to a template at once. -/
inductive Clause where
  | triple (source edge target : Item)
  | withRelation (source edge target relationEdge relation : Item)
  deriving DecidableEq, Repr

/-- The template with one more clause. -/
def append (template : Template) : Clause → Template
  | .triple source edge target => template.triple source edge target
  | .withRelation source edge target relationEdge relation =>
    template.tripleWithRelation source edge target relationEdge relation

/-- The template of some clauses. -/
def ofClauses (clauses : List Clause) : Template := clauses.foldl append empty

/-- All slots, triple by triple. -/
def slots (template : Template) : List Slot := template.triples.flatMap SlotTriple.toList

/-- The variables of some slots and of the names are declared, and those that were introduced stand
in some of the slots. -/
structure Covers (slots : List Slot) (template : Template) : Prop where
  declared : ∀ slot ∈ slots, ∀ var, slot.var = some var → var < template.vars.length
  named : ∀ name var, (name, var) ∈ template.names → var < template.vars.length
  used : ∀ {var known}, template.vars[var]? = some known → known.introduced = true →
    ∃ slot ∈ slots, slot.var = some var

variable {template : Template} {slots : List Slot}

theorem Covers.congr {others : List Slot} (covers : template.Covers slots)
    (same : ∀ slot, slot ∈ slots ↔ slot ∈ others) : template.Covers others where
  declared slot member := covers.declared slot ((same slot).2 member)
  named := covers.named
  used found introduced := by
    obtain ⟨slot, member, here⟩ := covers.used found introduced
    exact ⟨slot, (same slot).1 member, here⟩

theorem Covers.addSlot (covers : template.Covers slots) (slot : Slot)
    (declared : ∀ var, slot.var = some var → var < template.vars.length) :
    template.Covers (slots ++ [slot]) where
  declared other member := by
    rcases List.mem_append.1 member with member | member
    · exact covers.declared other member
    · rw [List.mem_singleton.1 member]
      exact declared
  named := covers.named
  used found introduced := by
    obtain ⟨slot, member, here⟩ := covers.used found introduced
    exact ⟨slot, List.mem_append_left _ member, here⟩

/-- A new variable stands nowhere yet. -/
theorem Covers.addVariable {name? : Option String} (covers : template.Covers slots) :
    (template.addVariable ⟨name?, false⟩).Covers slots where
  declared slot member var here := by
    have bound := covers.declared slot member var here
    simp only [Template.addVariable, List.length_append, List.length_singleton]
    omega
  named name var member := by
    have bound := covers.named name var member
    simp only [Template.addVariable, List.length_append, List.length_singleton]
    omega
  used {var known} found introduced := by
    rw [Template.addVariable, List.getElem?_append] at found
    split at found
    · exact covers.used found introduced
    · rw [List.getElem?_singleton] at found
      split at found
      · cases found
        cases introduced
      · cases found

theorem Covers.addName {name : String} {var : Nat} (covers : template.Covers slots)
    (declared : var < template.vars.length) : (template.addName name var).Covers slots where
  declared := covers.declared
  named other var' member := by
    rcases List.mem_append.1 member with member | member
    · exact covers.named other var' member
    · cases List.mem_singleton.1 member
      exact declared
  used := covers.used

/-- A variable is introduced where it stands in a slot. -/
theorem Covers.introduce {var : Nat} (covers : template.Covers slots)
    (stands : ∃ slot ∈ slots, slot.var = some var) : (template.introduce var).Covers slots where
  declared slot member var' here := by
    rw [Template.introduce, List.length_modify]
    exact covers.declared slot member var' here
  named name var' member := by
    rw [Template.introduce, List.length_modify]
    exact covers.named name var' member
  used {var' known} found introduced := by
    rw [Template.introduce, List.getElem?_modify] at found
    by_cases same : var = var'
    · exact same ▸ stands
    · have before : template.vars[var']? = some known := by simpa [same] using found
      exact covers.used before introduced

theorem lt_of_varNamed? {name : String} {var : Nat} (covers : template.Covers slots)
    (found : template.varNamed? name = some var) : var < template.vars.length := by
  obtain ⟨⟨name', var'⟩, entry, same⟩ := Option.map_eq_some_iff.1 found
  rw [← same]
  exact covers.named name' var' (List.mem_of_find?_eq_some entry)

theorem covers_varFor (covers : template.Covers slots) (name : String) :
    (template.varFor name).2.Covers slots ∧
      (template.varFor name).1 < (template.varFor name).2.vars.length := by
  unfold varFor
  split
  · exact ⟨covers, lt_of_varNamed? covers ‹_›⟩
  · have declared : template.vars.length < (template.addVariable ⟨some name, false⟩).vars.length := by
      simp [Template.addVariable]
    exact ⟨covers.addVariable.addName declared, declared⟩

theorem covers_addSynonym (covers : template.Covers slots) (name : String) {var : Nat}
    (declared : var < template.vars.length) : (template.addSynonym name var).Covers slots := by
  unfold addSynonym
  split
  · exact covers.addName declared
  · split
    · exact covers
    · exact ⟨covers.declared, covers.named, covers.used⟩

theorem vars_addSynonym (name : String) (var : Nat) :
    (template.addSynonym name var).vars = template.vars := by
  unfold addSynonym
  split
  · rfl
  · split <;> rfl

/-- The slot of a position that says what its element is. -/
theorem covers_internConstrained (covers : template.Covers slots) (constraint : Constraint)
    (name? : Option String) : (template.internConstrained constraint name?).2.Covers
      (slots ++ [(template.internConstrained constraint name?).1]) := by
  unfold internConstrained
  split
  · exact covers.addSlot _ nofun
  · rename_i name
    obtain ⟨covers', declared⟩ := covers_varFor covers name
    have added := covers'.addSlot ⟨constraint, some (template.varFor name).1⟩ (by
      rintro var ⟨⟩
      exact declared)
    exact added.introduce ⟨_, List.mem_append_right _ List.mem_cons_self, rfl⟩

/-- The slot of a position that refers to a name. -/
theorem covers_internReference (covers : template.Covers slots) (referenced : String)
    (name? : Option String) : (template.internReference referenced name?).2.Covers
      (slots ++ [(template.internReference referenced name?).1]) := by
  obtain ⟨covers', declared⟩ := covers_varFor covers referenced
  unfold internReference
  cases name? with
  | none =>
    refine covers'.addSlot _ ?_
    rintro var ⟨⟩
    exact declared
  | some name =>
    refine (covers_addSynonym covers' name declared).addSlot _ ?_
    rintro var ⟨⟩
    simp only [vars_addSynonym]
    exact declared

/-- **An item gets a slot whose variable is declared.** -/
theorem covers_intern (covers : template.Covers slots) (item : Item) :
    (template.intern item).2.Covers (slots ++ [(template.intern item).1]) := by
  unfold intern
  split
  · exact covers_internConstrained covers _ _
  · exact covers_internConstrained covers _ _
  · exact covers_internReference covers _ _

/-- Interning appends no triple. -/
theorem triples_intern (template : Template) (item : Item) :
    (template.intern item).2.triples = template.triples := by
  have varFor : ∀ name, (template.varFor name).2.triples = template.triples := by
    intro name
    unfold Template.varFor
    split <;> rfl
  have addSynonym : ∀ (other : Template) name var,
      (other.addSynonym name var).triples = other.triples := by
    intro other name var
    unfold Template.addSynonym
    split
    · rfl
    · split <;> rfl
  have constrained : ∀ constraint name?,
      (template.internConstrained constraint name?).2.triples = template.triples := by
    intro constraint name?
    cases name? with
    | none => rfl
    | some name => exact varFor name
  unfold intern
  split
  · exact constrained _ _
  · exact constrained _ _
  · unfold internReference
    cases item.name? with
    | none => exact varFor _
    | some name => exact (addSynonym _ _ _).trans (varFor _)

/-- A slot without variable gets a new one, which stands there. -/
theorem covers_shareSlot {before after : List Slot} {slot : Slot}
    (covers : template.Covers (before ++ slot :: after)) :
    (template.shareSlot slot).2.2.Covers (before ++ (template.shareSlot slot).2.1 :: after) ∧
      (template.shareSlot slot).2.1.var = some (template.shareSlot slot).1 ∧
      (template.shareSlot slot).2.2.triples = template.triples := by
  unfold shareSlot
  split
  · exact ⟨covers, ‹_›, rfl⟩
  · rename_i free
    have longer : (template.addVariable ⟨none, true⟩).vars.length = template.vars.length + 1 := by
      simp [addVariable]
    refine ⟨⟨fun other member var here => ?_, fun name var member => ?_, ?_⟩, rfl, rfl⟩
    · have bound : var = template.vars.length ∨ var < template.vars.length := by
        rcases List.mem_append.1 member with member | member
        · exact .inr (covers.declared other (List.mem_append_left _ member) var here)
        · rcases List.mem_cons.1 member with rfl | member
          · cases here
            exact .inl rfl
          · exact .inr (covers.declared other
              (List.mem_append_right _ (List.mem_cons_of_mem _ member)) var here)
      simp only [longer]
      omega
    · have bound := covers.named name var member
      simp only [longer]
      omega
    · intro var known found introduced
      rw [addVariable, List.getElem?_append] at found
      split at found
      · obtain ⟨other, member, here⟩ := covers.used found introduced
        refine ⟨other, ?_, here⟩
        rcases List.mem_append.1 member with member | member
        · exact List.mem_append_left _ member
        · rcases List.mem_cons.1 member with rfl | member
          · rw [free] at here
            cases here
          · exact List.mem_append_right _ (List.mem_cons_of_mem _ member)
      · rename_i beyond
        rw [List.getElem?_singleton] at found
        split at found
        · have last : var = template.vars.length := by omega
          exact ⟨_, List.mem_append_right _ List.mem_cons_self, congrArg some last.symm⟩
        · cases found

/-! ### Building -/

theorem slots_addSlots (template : Template) (added : SlotTriple) :
    (template.addSlots added).slots = template.slots ++ added.toList := by
  simp [slots, addSlots]

theorem slots_congr {other : Template} (same : other.triples = template.triples) :
    other.slots = template.slots := by
  rw [slots, same, slots]

theorem covers_addSlots (covers : template.Covers slots) (added : SlotTriple) :
    (template.addSlots added).Covers slots :=
  ⟨covers.declared, covers.named, covers.used⟩

theorem covers_of_intern {item : Item} {slot : Slot} {after : Template}
    (covers : template.Covers slots) (interned : template.intern item = (slot, after)) :
    after.Covers (slots ++ [slot]) ∧ after.triples = template.triples := by
  have covered := covers_intern covers item
  have same := triples_intern template item
  rw [interned] at covered same
  exact ⟨covered, same⟩

/-- What interning the items of a triple gives. -/
theorem covers_of_interns {source edge target : Item} {sourceSlot edgeSlot targetSlot : Slot}
    {withSource withEdge withTarget : Template} (covers : template.Covers template.slots)
    (first : template.intern source = (sourceSlot, withSource))
    (second : withSource.intern edge = (edgeSlot, withEdge))
    (third : withEdge.intern target = (targetSlot, withTarget)) :
    withTarget.Covers (template.slots ++ [sourceSlot, edgeSlot, targetSlot]) ∧
      withTarget.triples = template.triples := by
  obtain ⟨covers, sameFirst⟩ := covers_of_intern covers first
  obtain ⟨covers, sameSecond⟩ := covers_of_intern covers second
  obtain ⟨covers, sameThird⟩ := covers_of_intern covers third
  refine ⟨covers.congr fun slot => ?_, sameThird.trans (sameSecond.trans sameFirst)⟩
  simp only [List.append_assoc, List.cons_append, List.nil_append]

/-- **Every clause keeps slots and variables together.** -/
theorem covers_append (covers : template.Covers template.slots) (clause : Clause) :
    (template.append clause).Covers (template.append clause).slots := by
  cases clause with
  | triple source edge target =>
    rcases first : template.intern source with ⟨sourceSlot, withSource⟩
    rcases second : withSource.intern edge with ⟨edgeSlot, withEdge⟩
    rcases third : withEdge.intern target with ⟨targetSlot, withTarget⟩
    obtain ⟨covers, same⟩ := covers_of_interns covers first second third
    simp only [append, triple, first, second, third]
    rw [slots_addSlots, slots_congr same]
    exact covers_addSlots covers _
  | withRelation source edge target relationEdge relation =>
    rcases first : template.intern source with ⟨sourceSlot, withSource⟩
    rcases second : withSource.intern edge with ⟨edgeSlot, withEdge⟩
    rcases third : withEdge.intern target with ⟨targetSlot, withTarget⟩
    obtain ⟨covers, same⟩ := covers_of_interns covers first second third
    have regrouped : withTarget.Covers
        ((template.slots ++ [sourceSlot]) ++ edgeSlot :: [targetSlot]) := by
      rw [List.append_assoc]
      exact covers
    obtain ⟨covers, stands, sameShared⟩ := covers_shareSlot regrouped
    rcases shared : withTarget.shareSlot edgeSlot with ⟨var, sharedEdge, withShared⟩
    rw [shared] at covers stands sameShared
    have covers := covers_addSlots covers ⟨sourceSlot, sharedEdge, targetSlot⟩
    rcases fourth : (withShared.addSlots ⟨sourceSlot, sharedEdge, targetSlot⟩).intern relation with
      ⟨relationSlot, withRelation⟩
    rcases fifth : withRelation.intern relationEdge with ⟨relationEdgeSlot, withRelationEdge⟩
    obtain ⟨covers, sameFourth⟩ := covers_of_intern covers fourth
    obtain ⟨covers, sameFifth⟩ := covers_of_intern covers fifth
    have covers := covers.addSlot ⟨.any, some var⟩ (by
      rintro var' ⟨⟩
      exact covers.declared sharedEdge (by simp) var stands)
    simp only [append, tripleWithRelation, first, second, third, shared, fourth, fifth]
    rw [slots_addSlots, slots_congr (sameFifth.trans sameFourth), slots_addSlots,
      slots_congr (sameShared.trans same)]
    refine (covers_addSlots covers _).congr fun slot => ?_
    simp only [SlotTriple.toList, List.mem_append, List.mem_cons, List.not_mem_nil, or_false]
    grind

/-- **Slots and variables of a built template belong together.** -/
theorem covers_ofClauses (clauses : List Clause) :
    (ofClauses clauses).Covers (ofClauses clauses).slots := by
  have grown : ∀ {template : Template}, template.Covers template.slots →
      (clauses.foldl append template).Covers (clauses.foldl append template).slots := by
    induction clauses with
    | nil => exact fun covers => covers
    | cons clause rest hypothesis => exact fun covers => hypothesis (covers_append covers clause)
  exact grown ⟨nofun, nofun, nofun⟩

/-- A template that is built from nothing by appending clauses. -/
def IsBuilt (template : Template) : Prop := ∃ clauses, ofClauses clauses = template

theorem IsBuilt.covers (built : template.IsBuilt) : template.Covers template.slots := by
  obtain ⟨clauses, rfl⟩ := built
  exact covers_ofClauses clauses

/-! ### Templates that make sense -/

/-- What holds of a template that passes validation. -/
structure MakesSense (template : Template) : Prop where
  introduced : ∀ known ∈ template.vars, known.introduced = true
  valid : ∀ slot ∈ template.slots, ∀ address, slot.constraint = .fixed address →
    address.isValid = true
  consistent : ∀ slot ∈ template.slots, ∀ type, slot.constraint = .typed type →
    type.conflict? = none

/-- **A template that passes validation makes sense.** -/
theorem makesSense_of_validate (passed : template.validate = .ok ()) : template.MakesSense := by
  have sound : template.error? = none := by
    unfold validate at passed
    split at passed
    · cases passed
    · assumption
  unfold error? at sound
  split at sound
  · cases sound
  split at sound
  · cases sound
  · cases sound
  rename_i noDangling
  have noError : ∀ slot ∈ template.slots, ∃ triple position,
      constraintError? triple position slot.constraint = none := by
    intro slot member
    obtain ⟨slots, inTriples, inSlots⟩ := List.mem_flatMap.1 member
    obtain ⟨triple, bound, same⟩ := List.mem_iff_getElem.1 inTriples
    obtain ⟨position, bound', same'⟩ := List.mem_iff_getElem.1 inSlots
    have noSlots := List.findSome?_eq_none_iff.1 sound (slots, triple)
      (List.mk_mem_zipIdx_iff_getElem?.2 (List.getElem?_eq_some_iff.2 ⟨bound, same⟩))
    have noSlot := List.findSome?_eq_none_iff.1 noSlots (slot, position)
      (List.mk_mem_zipIdx_iff_getElem?.2 (List.getElem?_eq_some_iff.2 ⟨bound', same'⟩))
    exact ⟨triple, position, noSlot⟩
  exact {
    introduced := fun known member => by
      have clear := List.findIdx?_eq_none_iff.1 noDangling known member
      simpa using clear
    valid := fun slot member address fixed => by
      obtain ⟨triple, position, clear⟩ := noError slot member
      rw [fixed] at clear
      simpa [constraintError?] using clear
    consistent := fun slot member type typed => by
      obtain ⟨triple, position, clear⟩ := noError slot member
      rw [typed] at clear
      simpa [constraintError?] using clear }

theorem constraintError?_of_makesSense (sense : template.MakesSense) {slot : Slot}
    (member : slot ∈ template.slots) (triple position : Nat) :
    constraintError? triple position slot.constraint = none := by
  cases constraint : slot.constraint with
  | fixed address => exact if_pos (sense.valid slot member address constraint)
  | typed type => simp [constraintError?, sense.consistent slot member type constraint]
  | any => rfl

/-- **A template that makes sense passes validation**, if it has triples and redefines no name. -/
theorem validate_of_makesSense (sense : template.MakesSense) (triples : template.triples ≠ [])
    (once : template.redefined = []) : template.validate = .ok () := by
  have noDangling : template.dangling? = none := by
    refine List.findIdx?_eq_none_iff.2 fun known member => ?_
    simp [sense.introduced known member]
  have notEmpty : template.isEmpty = false := by simpa [isEmpty] using triples
  have sound : template.error? = none := by
    simp only [error?, notEmpty, once, noDangling, Bool.false_eq_true, if_false, List.head?_nil]
    refine List.findSome?_eq_none_iff.2 fun indexed member => ?_
    refine List.findSome?_eq_none_iff.2 fun placed member' => ?_
    have inTriples := List.fst_mem_of_mem_zipIdx member
    have inSlots := List.fst_mem_of_mem_zipIdx member'
    exact constraintError?_of_makesSense sense
      (List.mem_flatMap.2 ⟨indexed.1, inTriples, inSlots⟩) indexed.2 placed.2
  rw [validate, sound]

/-- **In a template that makes sense every variable stands in a slot.** -/
theorem MakesSense.exists_slot (sense : template.MakesSense)
    (covers : template.Covers template.slots) {var : Nat} (declared : var < template.vars.length) :
    ∃ slot ∈ template.slots, slot.var = some var :=
  covers.used (List.getElem?_eq_getElem declared) (sense.introduced _ (List.getElem_mem declared))

end SemanticNetwork.Template
