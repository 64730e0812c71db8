/-
**Where new elements come from.** Slots are resolved triple by triple, the ends of each before its
edge. A slot leads if no slot before it and no parameter has its variable. Where a typed slot leads,
an element is made; a fixed slot that leads asks for an element that exists.

* `Template.placements`: what stands in the slots, in the order in which they are resolved;
* `leading`, with `exists_leading`: every slot shares what stands in it with one that leads;
* `makes`: **the elements that a template makes**;
* `provided_of_plan`: **what a plan has made sure of** where a slot leads.
-/
import SemanticNetwork.Change
import SemanticNetwork.Proofs.Run
import SemanticNetwork.Proofs.Template.Satisfaction
import SemanticNetwork.Template.Plan

namespace SemanticNetwork

/-- What is told when an element is created: that there is an edge, if it is one. -/
def Element.arrival (element : Element) : List Change :=
  match element.body with
  | .edge source target => [.edgeAdded element.address source target element.type]
  | _ => []

theorem Element.arrival_eq_nil {element : Element} (noEdge : element.ends? = none) :
    element.arrival = [] := by
  obtain ⟨_, _, _ | _ | _⟩ := element
  · rfl
  · cases noEdge
  · rfl

namespace Template

/-- What stands in a slot. If the slot is for an edge, it asks for one between given ends. -/
structure Placement where
  slot : Slot
  address : Address
  ends? : Option (Address × Address)
  deriving DecidableEq, Repr

/-- What a row puts into the slots of a triple, the ends before the edge. -/
def SlotTriple.placements (slots : SlotTriple) (row : Triple) : List Placement :=
  [⟨slots.source, row.source, none⟩, ⟨slots.target, row.target, none⟩,
    ⟨slots.edge, row.edge, some (row.source, row.target)⟩]

/-- What some rows put into the slots of a template, in the order in which these are resolved. -/
def placements (template : Template) (rows : List Triple) : List Placement :=
  (template.triples.zip rows).flatMap fun (slots, row) => slots.placements row

/-- The variables of some slots. -/
def mentioned (placed : List Placement) : List Nat :=
  placed.flatMap fun placement => placement.slot.var.toList

/-- Whether a slot is the first for its variable, when some variables are known. -/
def Slot.leads (known : List Nat) (slot : Slot) : Bool := slot.var.all fun var => !known.contains var

/-- The placements in slots that lead, when some variables are known. -/
def leading (known : List Nat) : List Placement → List Placement
  | [] => []
  | placement :: rest =>
    (if placement.slot.leads known then [placement] else []) ++
      leading (known ++ placement.slot.var.toList) rest

/-- The element that is made where a typed slot leads. -/
def Placement.made? (placement : Placement) : Option Element :=
  match placement.slot.constraint, placement.ends? with
  | .typed type, some (source, target) => some ⟨placement.address, type, .edge source target⟩
  | .typed type, none =>
    if type.isLink then some ⟨placement.address, type, .link none⟩
    else some ⟨placement.address, type.union .node, .node⟩
  | _, _ => none

/-- **The elements that are made** when some variables are known: one where a typed slot leads. -/
def makes (known : List Nat) (placed : List Placement) : List Element :=
  (leading known placed).filterMap Placement.made?

variable {known : List Nat} {placement : Placement} {slot : Slot}

/-! ### Slots that lead -/

theorem leads_iff : slot.leads known = true ↔ ∀ var, slot.var = some var → var ∉ known := by
  unfold Slot.leads
  cases slot.var <;> simp

theorem leading_append (known : List Nat) (before after : List Placement) :
    leading known (before ++ after) =
      leading known before ++ leading (known ++ mentioned before) after := by
  induction before generalizing known with
  | nil => simp [leading, mentioned]
  | cons placement rest hypothesis =>
    rw [List.cons_append, leading, leading, hypothesis]
    simp [mentioned, List.append_assoc]

/-- One placement more makes one element more, if its slot is typed and leads. -/
theorem makes_concat (known : List Nat) (before : List Placement) (placement : Placement) :
    makes known (before ++ [placement]) = makes known before ++
      if placement.slot.leads (known ++ mentioned before) then placement.made?.toList else [] := by
  unfold makes
  rw [leading_append, List.filterMap_append]
  refine congrArg _ ?_
  by_cases leads : placement.slot.leads (known ++ mentioned before) = true
  · simp only [leading, leads, if_true, List.append_nil]
    cases made : placement.made? <;> simp [made]
  · simp [leading, leads]

theorem mem_leading_cons {head : Placement} {rest : List Placement} :
    placement ∈ leading known (head :: rest) ↔
      (placement = head ∧ head.slot.leads known = true) ∨
        placement ∈ leading (known ++ head.slot.var.toList) rest := by
  rw [leading, List.mem_append]
  by_cases leads : head.slot.leads known = true
  · simp [leads]
  · simp [leads]

theorem mem_of_mem_leading {placed : List Placement} (member : placement ∈ leading known placed) :
    placement ∈ placed := by
  induction placed generalizing known with
  | nil => cases member
  | cons head rest hypothesis =>
    rcases mem_leading_cons.1 member with ⟨rfl, -⟩ | member
    · exact List.mem_cons_self
    · exact List.mem_cons_of_mem _ (hypothesis member)

/-- **Every slot leads, or shares its variable with one that does**, or its variable is known. -/
theorem exists_leading (known : List Nat) {placed : List Placement} (member : placement ∈ placed) :
    (∃ var, placement.slot.var = some var ∧ var ∈ known) ∨
      ∃ first ∈ leading known placed, first = placement ∨
        ∃ var, first.slot.var = some var ∧ placement.slot.var = some var := by
  induction placed generalizing known with
  | nil => cases member
  | cons head rest hypothesis =>
    have headLeads : ∀ var, head.slot.var = some var → var ∉ known →
        head ∈ leading known (head :: rest) := by
      intro var here unknown
      refine mem_leading_cons.2 (.inl ⟨rfl, leads_iff.2 fun other here' => ?_⟩)
      rw [here] at here'
      exact Option.some.inj here' ▸ unknown
    by_cases already : ∃ var, placement.slot.var = some var ∧ var ∈ known
    · exact .inl already
    refine .inr ?_
    rcases List.mem_cons.1 member with rfl | member
    · refine ⟨placement, mem_leading_cons.2 (.inl ⟨rfl, leads_iff.2 fun var here => ?_⟩), .inl rfl⟩
      exact fun inKnown => already ⟨var, here, inKnown⟩
    · rcases hypothesis (known ++ head.slot.var.toList) member with
        ⟨var, here, inEither⟩ | ⟨first, inLeading, shares⟩
      · rcases List.mem_append.1 inEither with inKnown | atHead
        · exact absurd ⟨var, here, inKnown⟩ already
        · have headHere : head.slot.var = some var := by simpa using atHead
          have unknown : var ∉ known := fun inKnown => already ⟨var, here, inKnown⟩
          exact ⟨head, headLeads var headHere unknown, .inr ⟨var, headHere, here⟩⟩
      · exact ⟨first, mem_leading_cons.2 (.inr inLeading), shares⟩

/-! ### What a plan makes sure of -/

/-- A slot says where its element comes from: a fixed one exists, one of a type is made. -/
def Slot.IsProvided (store : Store) (slot : Slot) : Prop :=
  match slot.constraint with
  | .fixed address => store.contains address = true
  | .typed _ => True
  | .any => False

/-- It is known of some of the variables that they will have elements. -/
structure Foresees (count : Nat) (covered : List Nat) (prospects : List Prospect) : Prop where
  length : prospects.length = count
  available : ∀ var, (∃ prospect, prospects[var]? = some prospect ∧ prospect.isAvailable = true) ↔
    var ∈ covered

variable {store : Store} {template : Template} {count triple position : Nat} {covered : List Nat}
  {prospects prospects' : List Prospect}

theorem available?_eq_some_iff {prospect : Prospect} : available? prospects slot = some prospect ↔
    ∃ var, slot.var = some var ∧ prospects[var]? = some prospect ∧
      prospect.isAvailable = true := by
  unfold available?
  simp only [Option.bind_eq_bind, Option.bind_eq_some_iff, Option.ite_none_right_eq_some]
  constructor
  · rintro ⟨var, here, _, found, available, ⟨⟩⟩
    exact ⟨var, here, found, available⟩
  · rintro ⟨var, here, found, available⟩
    exact ⟨var, here, prospect, found, available, rfl⟩

theorem slotProspect_ok {prospect : Prospect}
    (said : template.slotProspect store triple position slot = .ok prospect) :
    prospect.isAvailable = true ∧ slot.IsProvided store := by
  unfold slotProspect at said
  unfold Slot.IsProvided
  cases constraint : slot.constraint with
  | fixed address =>
    rw [constraint] at said
    simp only at said ⊢
    split at said
    · cases said
      exact ⟨rfl, ‹_›⟩
    · cases said
  | typed type =>
    rw [constraint] at said
    simp only at said ⊢
    split at said
    · cases said
      exact ⟨rfl, trivial⟩
    · cases said
  | any =>
    rw [constraint] at said
    cases said

/-- **What is foreseen of a slot**: its variable will have an element, and where it leads it is
provided. -/
theorem foresee_ok {found : Option Address} (foresees : Foresees count covered prospects)
    (declared : ∀ var, slot.var = some var → var < count)
    (ran : template.foresee store triple position slot prospects = .ok (found, prospects')) :
    Foresees count (covered ++ slot.var.toList) prospects' ∧
      (slot.leads covered = true → slot.IsProvided store) := by
  unfold foresee at ran
  split at ran
  · rename_i prospect known
    cases ran
    obtain ⟨var, here, inside, available⟩ := available?_eq_some_iff.1 known
    have already : var ∈ covered := (foresees.available var).1 ⟨prospect, inside, available⟩
    refine ⟨⟨foresees.length, fun other => ?_⟩, fun leads => ?_⟩
    · rw [foresees.available, here, Option.toList_some, List.mem_append, List.mem_singleton]
      constructor
      · exact .inl
      · rintro (inCovered | rfl)
        · exact inCovered
        · exact already
    · exact absurd already (leads_iff.1 leads var here)
  · cases said : template.slotProspect store triple position slot with
    | error error =>
      rw [said] at ran
      cases ran
    | ok prospect =>
      rw [said] at ran
      cases ran
      obtain ⟨available, provided⟩ := slotProspect_ok said
      refine ⟨?_, fun _ => provided⟩
      cases here : slot.var with
      | none => simpa using foresees
      | some var =>
        have inside : var < prospects.length := foresees.length ▸ declared var here
        refine ⟨List.length_set.trans foresees.length, fun other => ?_⟩
        rw [Option.elim_some, Option.toList_some, List.mem_append, List.mem_singleton,
          List.getElem?_set]
        by_cases same : var = other
        · subst same
          simp [inside, available]
        · rw [if_neg same, foresees.available]
          constructor
          · exact .inl
          · rintro (inCovered | rfl)
            · exact inCovered
            · exact absurd rfl same

/-- What is foreseen of a triple is foreseen of its slots, the ends before the edge. -/
theorem foreseeTriple_ok {slots : SlotTriple} (row : Triple)
    (foresees : Foresees count covered prospects)
    (declared : ∀ slot ∈ slots.toList, ∀ var, slot.var = some var → var < count)
    (ran : template.foreseeTriple store prospects (slots, triple) = .ok prospects') :
    Foresees count (covered ++ mentioned (slots.placements row)) prospects' ∧
      ∀ placement ∈ leading covered (slots.placements row), placement.slot.IsProvided store := by
  simp only [foreseeTriple, bind_eq_ok_iff, Prod.exists] at ran
  obtain ⟨source, withSource, first, target, withTarget, second, edge, withEdge, third, _, -, same⟩ :=
    ran
  cases same
  have declaredAt := fun slot (member : slot ∈ slots.toList) => declared slot member
  simp only [SlotTriple.toList, List.mem_cons, List.not_mem_nil, or_false] at declaredAt
  obtain ⟨foresees, sourceProvided⟩ := foresee_ok foresees (declaredAt _ (.inl rfl)) first
  obtain ⟨foresees, targetProvided⟩ := foresee_ok foresees (declaredAt _ (.inr (.inr rfl))) second
  obtain ⟨foresees, edgeProvided⟩ := foresee_ok foresees (declaredAt _ (.inr (.inl rfl))) third
  refine ⟨?_, fun placement member => ?_⟩
  · simpa [mentioned, SlotTriple.placements, List.append_assoc] using foresees
  · rcases mem_leading_cons.1 member with ⟨rfl, leads⟩ | member
    · exact sourceProvided leads
    rcases mem_leading_cons.1 member with ⟨rfl, leads⟩ | member
    · exact targetProvided leads
    rcases mem_leading_cons.1 member with ⟨rfl, leads⟩ | member
    · exact edgeProvided leads
    · cases member

/-- **What is foreseen of all triples**: every slot that leads is provided. -/
theorem provided_of_foldlM {indexed : List (SlotTriple × Nat)} (rows : List Triple)
    (foresees : Foresees count covered prospects)
    (declared : ∀ slots triple, (slots, triple) ∈ indexed → ∀ slot ∈ slots.toList,
      ∀ var, slot.var = some var → var < count)
    (ran : indexed.foldlM (template.foreseeTriple store) prospects = .ok prospects') :
    ∀ placement ∈ leading covered (((indexed.map Prod.fst).zip rows).flatMap
      fun (slots, row) => slots.placements row), placement.slot.IsProvided store := by
  induction indexed generalizing covered prospects rows with
  | nil => exact fun placement member => by cases member
  | cons head rest hypothesis =>
    obtain ⟨slots, triple⟩ := head
    cases rows with
    | nil => exact fun placement member => by cases member
    | cons row rows =>
      rw [List.foldlM_cons, bind_eq_ok_iff] at ran
      obtain ⟨between, first, ran⟩ := ran
      obtain ⟨foresees, provided⟩ :=
        foreseeTriple_ok row foresees (declared slots triple List.mem_cons_self) first
      have later := hypothesis rows foresees
        (fun slots triple member => declared slots triple (List.mem_cons_of_mem _ member)) ran
      intro placement member
      rw [List.map_cons, List.zip_cons_cons, List.flatMap_cons, leading_append,
        List.mem_append] at member
      rcases member with member | member
      · exact provided placement member
      · exact later placement member

/-- Of the variables that parameters give elements to it is known that they have one. -/
theorem foresees_prospects {valuation : Valuation} (length : valuation.values.length = count)
    (bound : ∀ var, var ∈ covered ↔ ∃ address, valuation.get? var = some address) :
    Foresees count covered (Template.prospects valuation) where
  length := List.length_map _ |>.trans length
  available var := by
    rw [bound, Template.prospects, List.getElem?_map, Valuation.get?]
    cases valuation.values[var]? with
    | none => simp
    | some value => cases value <;> simp [Prospect.isAvailable]

theorem declared_of_mem {slots : SlotTriple} (covers : template.Covers template.slots)
    (member : (slots, triple) ∈ template.triples.zipIdx) :
    ∀ slot ∈ slots.toList, ∀ var, slot.var = some var → var < template.vars.length := by
  intro slot inSlots
  refine covers.declared slot (List.mem_flatMap.2 ⟨slots, ?_, inSlots⟩)
  exact List.mem_of_getElem? (List.mk_mem_zipIdx_iff_getElem?.1 member)

/-- **A plan makes sure that every slot that leads is provided**, whatever stands in it later. -/
theorem provided_of_plan {valuation : Valuation} (covers : template.Covers template.slots)
    (length : valuation.values.length = template.vars.length)
    (bound : ∀ var, var ∈ known ↔ ∃ address, valuation.get? var = some address)
    (planned : template.plan store valuation = .ok ()) (rows : List Triple) :
    ∀ placement ∈ leading known (template.placements rows), placement.slot.IsProvided store := by
  obtain ⟨prospects, ran, -⟩ := bind_eq_ok_iff.1 planned
  have provided := provided_of_foldlM rows (foresees_prospects length bound)
    (fun _ _ => declared_of_mem covers) ran
  rwa [List.zipIdx_map_fst] at provided

end Template

end SemanticNetwork
