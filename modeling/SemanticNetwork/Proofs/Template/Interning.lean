/-
**Names and references.** While a template is built, a name keeps the variable that it was first used
for, and names are added and never taken away. A position without a constraint of its own refers to a
name, or to the edge of the triple before it. So once all names have elements, the triples can be read
in order: every reference leads to a name or back.

* `NamesMore`: what building does to names, with `namesMore_addSynonym`, `namesMore_intern`;
* `NamesOnce`: a name belongs to one variable;
* `GroundedFrom`: references lead to names, or to the edges of earlier triples;
* `IsBuilt.orderly`: **both hold of every template that is built**;
* `NamesEdges`, `IsBuilt.namesEdges`: and an edge whose variable occurs before has a name.
-/
import SemanticNetwork.Proofs.Template.Building

namespace SemanticNetwork.Template

variable {template before after : Template} {name : String} {var : Nat} {slot : Slot}
  {known : List Nat} {triples : List SlotTriple}

/-! ### Names -/

/-- Some name belongs to a variable. -/
def IsNamed (template : Template) (var : Nat) : Prop :=
  ∃ name, template.varNamed? name = some var

/-- No name is listed for two variables. -/
def NamesOnce (template : Template) : Prop :=
  ∀ name var, (name, var) ∈ template.names → template.varNamed? name = some var

/-- The names of a template stay, and keep their variables, in another that may have more. -/
structure NamesMore (before after : Template) : Prop where
  keeps : ∀ {name var}, before.varNamed? name = some var → after.varNamed? name = some var
  once : before.NamesOnce → after.NamesOnce

theorem NamesMore.of_eq (same : after.names = before.names) : before.NamesMore after := by
  have found : ∀ name, after.varNamed? name = before.varNamed? name := by
    intro name
    rw [varNamed?, same, varNamed?]
  refine ⟨fun {name var} here => (found name).trans here, fun once name var member => ?_⟩
  rw [found]
  exact once name var (same ▸ member)

theorem NamesMore.trans {last : Template} (first : before.NamesMore after)
    (second : after.NamesMore last) : before.NamesMore last :=
  ⟨fun here => second.keeps (first.keeps here), fun once => second.once (first.once once)⟩

theorem NamesMore.isNamed (more : before.NamesMore after) (named : before.IsNamed var) :
    after.IsNamed var := by
  obtain ⟨name, here⟩ := named
  exact ⟨name, more.keeps here⟩

theorem varNamed?_addName (template : Template) (name other : String) (var : Nat) :
    (template.addName name var).varNamed? other =
      (template.varNamed? other).or (if name = other then some var else none) := by
  unfold varNamed? addName
  rw [List.find?_append]
  cases template.names.find? fun entry => entry.1 == other with
  | some entry => rfl
  | none =>
    by_cases same : name = other
    · simp [same]
    · simp [same]

/-- **A name that belongs to no variable may be given to one.** -/
theorem namesMore_addName (free : template.varNamed? name = none) (var : Nat) :
    template.NamesMore (template.addName name var) where
  keeps {other var'} here := by
    rw [varNamed?_addName, here]
    rfl
  once once other var' member := by
    rw [varNamed?_addName]
    rcases List.mem_append.1 member with member | member
    · rw [once other var' member]
      rfl
    · cases List.mem_singleton.1 member
      simp [free]

theorem namesMore_varFor (template : Template) (name : String) :
    template.NamesMore (template.varFor name).2 ∧
      (template.varFor name).2.varNamed? name = some (template.varFor name).1 := by
  unfold varFor
  split
  · exact ⟨.of_eq rfl, ‹_›⟩
  · rename_i free
    have more : template.NamesMore (template.addVariable ⟨some name, false⟩) := .of_eq rfl
    have free : (template.addVariable ⟨some name, false⟩).varNamed? name = none := free
    refine ⟨more.trans (namesMore_addName free _), ?_⟩
    rw [varNamed?_addName, free]
    simp

theorem namesMore_addSynonym (template : Template) (name : String) (var : Nat) :
    template.NamesMore (template.addSynonym name var) := by
  unfold addSynonym
  split
  · exact namesMore_addName ‹_› var
  · split
    · exact .of_eq rfl
    · exact .of_eq rfl

/-! ### References -/

/-- A slot without a constraint of its own has the variable of a name, or one that is known. -/
def Slot.IsGrounded (template : Template) (known : List Nat) (slot : Slot) : Prop :=
  slot.constraint = .any → ∃ var, slot.var = some var ∧ (template.IsNamed var ∨ var ∈ known)

theorem Slot.IsGrounded.mono {known' : List Nat} (grounded : slot.IsGrounded before known)
    (more : before.NamesMore after) (included : known ⊆ known') :
    slot.IsGrounded after known' := by
  intro isAny
  obtain ⟨var, here, named | member⟩ := grounded isAny
  · exact ⟨var, here, .inl (more.isNamed named)⟩
  · exact ⟨var, here, .inr (included member)⟩

/-- **Interning keeps names, and grounds the slot of the item.** -/
theorem namesMore_intern (template : Template) (item : Item) :
    template.NamesMore (template.intern item).2 ∧
      (template.intern item).1.IsGrounded (template.intern item).2 [] := by
  have constrained : ∀ constraint name?, constraint ≠ .any →
      template.NamesMore (template.internConstrained constraint name?).2 ∧
        (template.internConstrained constraint name?).1.IsGrounded
          (template.internConstrained constraint name?).2 [] := by
    intro constraint name? notAny
    cases name? with
    | none => exact ⟨.of_eq rfl, fun isAny => absurd isAny notAny⟩
    | some name =>
      have more := (namesMore_varFor template name).1
      exact ⟨more.trans (.of_eq rfl), fun isAny => absurd isAny notAny⟩
  unfold intern
  split
  · exact constrained _ _ nofun
  · exact constrained _ _ nofun
  · rename_i referenced _
    obtain ⟨more, here⟩ := namesMore_varFor template referenced
    unfold internReference
    cases item.name? with
    | none => exact ⟨more, fun _ => ⟨_, rfl, .inl ⟨referenced, here⟩⟩⟩
    | some name =>
      have synonym := namesMore_addSynonym (template.varFor referenced).2 name
        (template.varFor referenced).1
      exact ⟨more.trans synonym, fun _ => ⟨_, rfl, .inl ⟨referenced, synonym.keeps here⟩⟩⟩

/-- The triples can be read in order, when some variables are known: slots without a constraint of
their own have the variable of a name, or of the edge of an earlier triple. -/
def GroundedFrom (template : Template) (known : List Nat) : List SlotTriple → Prop
  | [] => True
  | slots :: rest => (∀ slot ∈ slots.toList, slot.IsGrounded template known) ∧
      template.GroundedFrom (known ++ slots.edge.var.toList) rest

/-- The variables of the edges of some triples. -/
def edgeVars (triples : List SlotTriple) : List Nat :=
  triples.flatMap fun slots => slots.edge.var.toList

theorem GroundedFrom.mono (grounded : before.GroundedFrom known triples)
    (more : before.NamesMore after) : after.GroundedFrom known triples := by
  induction triples generalizing known with
  | nil => trivial
  | cons slots rest hypothesis =>
    obtain ⟨first, later⟩ := grounded
    exact ⟨fun slot member => (first slot member).mono more (List.Subset.refl known),
      hypothesis later⟩

/-- One triple more can be read after the others. -/
theorem GroundedFrom.concat {slots : SlotTriple} (grounded : template.GroundedFrom known triples)
    (last : ∀ slot ∈ slots.toList, slot.IsGrounded template (known ++ edgeVars triples)) :
    template.GroundedFrom known (triples ++ [slots]) := by
  induction triples generalizing known with
  | nil =>
    rw [edgeVars, List.flatMap_nil, List.append_nil] at last
    exact ⟨last, trivial⟩
  | cons head rest hypothesis =>
    obtain ⟨first, later⟩ := grounded
    rw [edgeVars, List.flatMap_cons, ← List.append_assoc] at last
    exact ⟨first, hypothesis later last⟩

/-! ### Building -/

/-- What holds of the names and the references of a template while it is built. -/
structure IsOrderly (template : Template) : Prop where
  once : template.NamesOnce
  grounded : template.GroundedFrom [] template.triples

/-- A template with more names is orderly if no triple was added. -/
theorem IsOrderly.more (orderly : before.IsOrderly) (more : before.NamesMore after)
    (same : after.triples = before.triples) : after.IsOrderly where
  once := more.once orderly.once
  grounded := by
    rw [same]
    exact orderly.grounded.mono more

theorem IsOrderly.intern {item : Item} (orderly : template.IsOrderly)
    (interned : template.intern item = (slot, after)) :
    after.IsOrderly ∧ template.NamesMore after ∧ slot.IsGrounded after [] ∧
      after.triples = template.triples := by
  obtain ⟨more, grounded⟩ := namesMore_intern template item
  have same := triples_intern template item
  rw [interned] at more grounded same
  exact ⟨orderly.more more same, more, grounded, same⟩

/-- A triple of grounded slots may be added. -/
theorem IsOrderly.addSlots {slots : SlotTriple} (orderly : template.IsOrderly)
    (grounded : ∀ slot ∈ slots.toList,
      slot.IsGrounded template (edgeVars template.triples)) :
    (template.addSlots slots).IsOrderly where
  once := (NamesMore.of_eq rfl).once orderly.once
  grounded := (orderly.grounded.concat grounded).mono (NamesMore.of_eq rfl)

/-- What interning the items of a triple gives. -/
theorem IsOrderly.interns {source edge target : Item} {sourceSlot edgeSlot targetSlot : Slot}
    {withSource withEdge withTarget : Template} (orderly : template.IsOrderly)
    (first : template.intern source = (sourceSlot, withSource))
    (second : withSource.intern edge = (edgeSlot, withEdge))
    (third : withEdge.intern target = (targetSlot, withTarget)) (known : List Nat) :
    withTarget.IsOrderly ∧ sourceSlot.IsGrounded withTarget known ∧
      edgeSlot.IsGrounded withTarget known ∧ targetSlot.IsGrounded withTarget known := by
  obtain ⟨orderly, -, groundedSource, -⟩ := orderly.intern first
  obtain ⟨orderly, moreEdge, groundedEdge, -⟩ := orderly.intern second
  obtain ⟨orderly, moreTarget, groundedTarget, -⟩ := orderly.intern third
  exact ⟨orderly, groundedSource.mono (moreEdge.trans moreTarget) (List.nil_subset known),
    groundedEdge.mono moreTarget (List.nil_subset known),
    groundedTarget.mono (.of_eq rfl) (List.nil_subset known)⟩

/-- A slot that gets a variable to share is grounded as it was. -/
theorem isGrounded_shareSlot (grounded : slot.IsGrounded template known) :
    (template.shareSlot slot).2.1.IsGrounded (template.shareSlot slot).2.2 known ∧
      (template.shareSlot slot).2.1.var = some (template.shareSlot slot).1 ∧
      template.NamesMore (template.shareSlot slot).2.2 ∧
      (template.shareSlot slot).2.2.triples = template.triples := by
  unfold shareSlot
  split
  · exact ⟨grounded, ‹_›, .of_eq rfl, rfl⟩
  · rename_i free
    refine ⟨fun isAny => ?_, rfl, .of_eq rfl, rfl⟩
    obtain ⟨var, here, -⟩ := grounded isAny
    rw [free] at here
    cases here

/-- A triple of which the edge is shared may be added, and then the shared variable is known. -/
theorem IsOrderly.addShared {sourceSlot edgeSlot targetSlot sharedEdge : Slot}
    {withShared : Template} (orderly : template.IsOrderly)
    (source : sourceSlot.IsGrounded template (edgeVars template.triples))
    (edge : edgeSlot.IsGrounded template (edgeVars template.triples))
    (target : targetSlot.IsGrounded template (edgeVars template.triples))
    (shared : template.shareSlot edgeSlot = (var, sharedEdge, withShared)) :
    (withShared.addSlots ⟨sourceSlot, sharedEdge, targetSlot⟩).IsOrderly ∧
      var ∈ edgeVars (withShared.addSlots ⟨sourceSlot, sharedEdge, targetSlot⟩).triples := by
  obtain ⟨edge, stands, more, same⟩ := isGrounded_shareSlot edge
  rw [shared] at edge stands more same
  have included := List.Subset.refl (edgeVars template.triples)
  constructor
  · refine (orderly.more more same).addSlots ?_
    rw [same]
    simp [SlotTriple.toList, source.mono more included, edge, target.mono more included]
  · refine List.mem_flatMap.2 ⟨⟨sourceSlot, sharedEdge, targetSlot⟩, ?_, ?_⟩
    · exact List.mem_append_right _ List.mem_cons_self
    · rw [stands]
      exact List.mem_singleton.2 rfl

/-- A relation of an edge may be added, if the variable of the edge is known. -/
theorem IsOrderly.addRelation {relation relationEdge : Item} {relationSlot relationEdgeSlot : Slot}
    {withRelation withRelationEdge : Template} (orderly : template.IsOrderly)
    (entered : var ∈ edgeVars template.triples)
    (first : template.intern relation = (relationSlot, withRelation))
    (second : withRelation.intern relationEdge = (relationEdgeSlot, withRelationEdge)) :
    (withRelationEdge.addSlots ⟨relationSlot, relationEdgeSlot, ⟨.any, some var⟩⟩).IsOrderly := by
  obtain ⟨orderly, -, relation, same⟩ := orderly.intern first
  obtain ⟨orderly, more, relationEdge, same'⟩ := orderly.intern second
  rw [← same, ← same'] at entered
  apply orderly.addSlots
  simp only [SlotTriple.toList, List.forall_mem_cons]
  exact ⟨relation.mono more (List.nil_subset _), relationEdge.mono (.of_eq rfl) (List.nil_subset _),
    fun _ => ⟨var, rfl, .inr entered⟩, fun _ member => absurd member List.not_mem_nil⟩

/-- **Every clause keeps names and references in order.** -/
theorem IsOrderly.append (orderly : template.IsOrderly) (clause : Clause) :
    (template.append clause).IsOrderly := by
  cases clause with
  | triple source edge target =>
    rcases first : template.intern source with ⟨sourceSlot, withSource⟩
    rcases second : withSource.intern edge with ⟨edgeSlot, withEdge⟩
    rcases third : withEdge.intern target with ⟨targetSlot, withTarget⟩
    obtain ⟨orderly, source, edge, target⟩ :=
      orderly.interns first second third (edgeVars withTarget.triples)
    simp only [Template.append, triple, first, second, third]
    exact orderly.addSlots (by simp [SlotTriple.toList, source, edge, target])
  | withRelation source edge target relationEdge relation =>
    rcases first : template.intern source with ⟨sourceSlot, withSource⟩
    rcases second : withSource.intern edge with ⟨edgeSlot, withEdge⟩
    rcases third : withEdge.intern target with ⟨targetSlot, withTarget⟩
    obtain ⟨orderly, source, edge, target⟩ :=
      orderly.interns first second third (edgeVars withTarget.triples)
    rcases shared : withTarget.shareSlot edgeSlot with ⟨var, sharedEdge, withShared⟩
    obtain ⟨orderly, entered⟩ := orderly.addShared source edge target shared
    rcases fourth : (withShared.addSlots ⟨sourceSlot, sharedEdge, targetSlot⟩).intern relation with
      ⟨relationSlot, withRelation⟩
    rcases fifth : withRelation.intern relationEdge with ⟨relationEdgeSlot, withRelationEdge⟩
    simp only [Template.append, tripleWithRelation, first, second, third, shared, fourth, fifth]
    exact orderly.addRelation entered fourth fifth

/-- **Names and references of a built template are in order.** -/
theorem isOrderly_ofClauses (clauses : List Clause) : (ofClauses clauses).IsOrderly := by
  have grown : ∀ {template : Template}, template.IsOrderly →
      (clauses.foldl Template.append template).IsOrderly := by
    induction clauses with
    | nil => exact fun orderly => orderly
    | cons clause rest hypothesis => exact fun orderly => hypothesis (orderly.append clause)
  exact grown ⟨nofun, trivial⟩

theorem IsBuilt.orderly (built : template.IsBuilt) : template.IsOrderly := by
  obtain ⟨clauses, rfl⟩ := built
  exact isOrderly_ofClauses clauses

/-! ### Edges that occur before -/

/-- The variables of the slots of a triple, in the order in which these are resolved. -/
def SlotTriple.vars (slots : SlotTriple) : List Nat :=
  slots.source.var.toList ++ slots.target.var.toList ++ slots.edge.var.toList

/-- Where the variable of an edge occurs before the edge, or is among some that were seen, it has a
name. -/
def NamesEdges (template : Template) (seen : List Nat) : List SlotTriple → Prop
  | [] => True
  | slots :: rest =>
    (∀ var, slots.edge.var = some var →
      var ∈ seen ++ slots.source.var.toList ++ slots.target.var.toList → template.IsNamed var) ∧
        template.NamesEdges (seen ++ slots.vars) rest

theorem NamesEdges.mono {seen : List Nat} (names : before.NamesEdges seen triples)
    (more : before.NamesMore after) : after.NamesEdges seen triples := by
  induction triples generalizing seen with
  | nil => trivial
  | cons slots rest hypothesis =>
    obtain ⟨first, later⟩ := names
    exact ⟨fun var here member => more.isNamed (first var here member), hypothesis later⟩

theorem NamesEdges.concat {seen : List Nat} {slots : SlotTriple}
    (names : template.NamesEdges seen triples)
    (last : ∀ var, slots.edge.var = some var → var ∈ seen ++ triples.flatMap SlotTriple.vars ++
      slots.source.var.toList ++ slots.target.var.toList → template.IsNamed var) :
    template.NamesEdges seen (triples ++ [slots]) := by
  induction triples generalizing seen with
  | nil =>
    rw [List.flatMap_nil, List.append_nil] at last
    exact ⟨last, trivial⟩
  | cons head rest hypothesis =>
    obtain ⟨first, later⟩ := names
    rw [List.flatMap_cons, ← List.append_assoc] at last
    exact ⟨first, hypothesis later last⟩

/-- **The variable of an item has a name.** -/
theorem isNamed_intern {item : Item} (interned : template.intern item = (slot, after))
    (here : slot.var = some var) : after.IsNamed var := by
  have constrained : ∀ constraint name?,
      template.internConstrained constraint name? = (slot, after) → after.IsNamed var := by
    intro constraint name? same
    cases name? with
    | none =>
      cases same
      cases here
    | some name =>
      cases same
      cases here
      exact ⟨name, (namesMore_varFor template name).2⟩
  unfold intern at interned
  split at interned
  · exact constrained _ _ interned
  · exact constrained _ _ interned
  · rename_i referenced _
    have named := (namesMore_varFor template referenced).2
    unfold internReference at interned
    cases name? : item.name? with
    | none =>
      rw [name?] at interned
      cases interned
      cases here
      exact ⟨referenced, named⟩
    | some name =>
      rw [name?] at interned
      cases interned
      cases here
      exact ⟨referenced, (namesMore_addSynonym _ name _).keeps named⟩

/-- What was seen in covered triples is declared. -/
theorem lt_of_mem_vars {slots : List Slot} {other : Template}
    (covers : other.Covers (template.slots ++ slots))
    (seen : var ∈ template.triples.flatMap SlotTriple.vars) : var < other.vars.length := by
  obtain ⟨triple, inTriples, member⟩ := List.mem_flatMap.1 seen
  have declared : ∀ slot ∈ triple.toList, slot.var = some var → var < other.vars.length := by
    intro slot inSlots here
    refine covers.declared slot (List.mem_append_left _ ?_) var here
    exact List.mem_flatMap.2 ⟨triple, inTriples, inSlots⟩
  simp only [SlotTriple.vars, List.mem_append, Option.mem_toList] at member
  rcases member with (here | here) | here
  · exact declared triple.source (by simp [SlotTriple.toList]) here
  · exact declared triple.target (by simp [SlotTriple.toList]) here
  · exact declared triple.edge (by simp [SlotTriple.toList]) here

theorem NamesEdges.intern {item : Item} (names : template.NamesEdges [] template.triples)
    (interned : template.intern item = (slot, after)) :
    after.NamesEdges [] after.triples ∧ template.NamesMore after := by
  have more := (namesMore_intern template item).1
  have same := triples_intern template item
  rw [interned] at more same
  refine ⟨?_, more⟩
  show after.NamesEdges [] after.triples
  have same : after.triples = template.triples := same
  rw [same]
  exact names.mono more

theorem NamesEdges.addSlots {slots : SlotTriple} (names : template.NamesEdges [] template.triples)
    (last : ∀ var, slots.edge.var = some var → var ∈ template.triples.flatMap SlotTriple.vars ++
      slots.source.var.toList ++ slots.target.var.toList → template.IsNamed var) :
    (template.addSlots slots).NamesEdges [] (template.addSlots slots).triples :=
  (names.concat last).mono (.of_eq rfl)

/-- The variable that an edge shares has a name, or is new. -/
theorem NamesEdges.shareSlot {sharedEdge : Slot} (names : template.NamesEdges [] template.triples)
    (named : ∀ var, slot.var = some var → template.IsNamed var)
    (shared : template.shareSlot slot = (var, sharedEdge, after)) :
    after.NamesEdges [] after.triples ∧ after.triples = template.triples ∧
      ∀ other, sharedEdge.var = some other →
        after.IsNamed other ∨ other = template.vars.length := by
  unfold Template.shareSlot at shared
  split at shared
  · cases shared
    exact ⟨names, rfl, fun other here => .inl (named other here)⟩
  · cases shared
    refine ⟨names.mono (.of_eq rfl), rfl, fun other here => ?_⟩
    cases here
    exact .inr rfl

/-- **Every clause gives names to the edges that occur before.** An edge that is shared without a name
gets a new variable. -/
theorem NamesEdges.append (names : template.NamesEdges [] template.triples)
    (covers : template.Covers template.slots) (clause : Clause) :
    (template.append clause).NamesEdges [] (template.append clause).triples := by
  cases clause with
  | triple source edge target =>
    rcases first : template.intern source with ⟨sourceSlot, withSource⟩
    rcases second : withSource.intern edge with ⟨edgeSlot, withEdge⟩
    rcases third : withEdge.intern target with ⟨targetSlot, withTarget⟩
    obtain ⟨names, -⟩ := names.intern first
    obtain ⟨names, -⟩ := names.intern second
    obtain ⟨names, more⟩ := names.intern third
    simp only [Template.append, triple, first, second, third]
    exact names.addSlots fun var here _ => more.isNamed (isNamed_intern second here)
  | withRelation source edge target relationEdge relation =>
    rcases first : template.intern source with ⟨sourceSlot, withSource⟩
    rcases second : withSource.intern edge with ⟨edgeSlot, withEdge⟩
    rcases third : withEdge.intern target with ⟨targetSlot, withTarget⟩
    obtain ⟨covers, same⟩ := covers_of_interns covers first second third
    obtain ⟨names, -⟩ := names.intern first
    obtain ⟨names, -⟩ := names.intern second
    obtain ⟨names, more⟩ := names.intern third
    have edgeNamed : ∀ var, edgeSlot.var = some var → withTarget.IsNamed var :=
      fun var here => more.isNamed (isNamed_intern second here)
    rcases shared : withTarget.shareSlot edgeSlot with ⟨var, sharedEdge, withShared⟩
    obtain ⟨names, sameShared, namedOrNew⟩ := names.shareSlot edgeNamed shared
    have names : (withShared.addSlots ⟨sourceSlot, sharedEdge, targetSlot⟩).NamesEdges []
        (withShared.addSlots ⟨sourceSlot, sharedEdge, targetSlot⟩).triples := by
      refine names.addSlots fun other here seen => (namedOrNew other here).resolve_right ?_
      rw [sameShared, same] at seen
      simp only [List.mem_append, Option.mem_toList] at seen
      apply Nat.ne_of_lt
      rcases seen with (seen | atSource) | atTarget
      · exact lt_of_mem_vars covers seen
      · exact covers.declared sourceSlot (by simp) other atSource
      · exact covers.declared targetSlot (by simp) other atTarget
    rcases fourth : (withShared.addSlots ⟨sourceSlot, sharedEdge, targetSlot⟩).intern relation with
      ⟨relationSlot, withRelation⟩
    rcases fifth : withRelation.intern relationEdge with ⟨relationEdgeSlot, withRelationEdge⟩
    obtain ⟨names, -⟩ := names.intern fourth
    obtain ⟨names, -⟩ := names.intern fifth
    simp only [Template.append, tripleWithRelation, first, second, third, shared, fourth, fifth]
    exact names.addSlots fun other here _ => isNamed_intern fifth here

/-- **In a template that is built, the edges that occur before have names.** -/
theorem namesEdges_ofClauses (clauses : List Clause) :
    (ofClauses clauses).NamesEdges [] (ofClauses clauses).triples := by
  have grown : ∀ {template : Template}, template.Covers template.slots →
      template.NamesEdges [] template.triples →
      (clauses.foldl Template.append template).NamesEdges []
        (clauses.foldl Template.append template).triples := by
    induction clauses with
    | nil => exact fun _ names => names
    | cons clause rest hypothesis =>
      exact fun covers names => hypothesis (covers_append covers clause) (names.append covers clause)
  exact grown ⟨nofun, nofun, nofun⟩ trivial

theorem IsBuilt.namesEdges (built : template.IsBuilt) :
    template.NamesEdges [] template.triples := by
  obtain ⟨clauses, rfl⟩ := built
  exact namesEdges_ofClauses clauses

end SemanticNetwork.Template
