/-
**What a template asks for.** Read as a conjunctive query, a template asks for elements of all its
variables and for an edge with its ends for every triple, such that every slot admits what stands in
it, slots that share a variable have the same element in them, and the parameters are respected.

* `Slot.Admits`: an element meets the constraint of a slot;
* `Stands`: in some rows, an element stands in a slot;
* `Match.Satisfies`: **the naive query.**
-/
import SemanticNetwork.Proofs.Template.Valuation

namespace SemanticNetwork

namespace Template

/-- An element meets the constraint of a slot. -/
def Slot.Admits (store : Store) (slot : Slot) (address : Address) : Prop :=
  match slot.constraint with
  | .fixed wanted => address = wanted
  | .typed type => ∃ actual, store.type? address = some actual ∧
      actual.carries (soughtType type) = true
  | .any => True

theorem Slot.Admits.mono {before after : Store} {slot : Slot} {address : Address}
    (kept : ∀ {address element}, before.get? address = some element →
      after.get? address = some element)
    (admits : slot.Admits before address) : slot.Admits after address := by
  unfold Slot.Admits at admits ⊢
  split
  · simpa [*] using admits
  · simp only [*] at admits
    obtain ⟨actual, found, carried⟩ := admits
    obtain ⟨element, there, rfl⟩ := Option.map_eq_some_iff.1 found
    exact ⟨element.type, Option.map_eq_some_iff.2 ⟨element, kept there, rfl⟩, carried⟩
  · trivial

/-- The slots of a triple, each with what stands in it. -/
def SlotTriple.place (slots : SlotTriple) (row : Triple) : List (Slot × Address) :=
  slots.toList.zip row.toList

/-- An element stands in a slot of some triple for which there is a row. -/
def Stands (template : Template) (rowAt : Nat → Option Triple) (slot : Slot) (address : Address) :
    Prop :=
  ∃ position slots row, template.triples[position]? = some slots ∧ rowAt position = some row ∧
    (slot, address) ∈ slots.place row

variable {template : Template} {slot : Slot} {address : Address}

theorem SlotTriple.mem_place_iff {slots : SlotTriple} {row : Triple} :
    (slot, address) ∈ slots.place row ↔ (slot = slots.source ∧ address = row.source) ∨
      (slot = slots.edge ∧ address = row.edge) ∨ (slot = slots.target ∧ address = row.target) := by
  simp [place, toList, Triple.toList]

theorem mem_slots_of_mem {slots : SlotTriple} {row : Triple} {position : Nat}
    (found : template.triples[position]? = some slots) (member : (slot, address) ∈ slots.place row) :
    slot ∈ template.slots :=
  List.mem_flatMap.2 ⟨slots, List.mem_of_getElem? found, (List.of_mem_zip member).1⟩

theorem exists_place {slots : SlotTriple} (row : Triple) (member : slot ∈ slots.toList) :
    ∃ address, (slot, address) ∈ slots.place row := by
  simp only [SlotTriple.toList, List.mem_cons, List.not_mem_nil, or_false] at member
  rcases member with rfl | rfl | rfl
  · exact ⟨row.source, SlotTriple.mem_place_iff.2 (.inl ⟨rfl, rfl⟩)⟩
  · exact ⟨row.edge, SlotTriple.mem_place_iff.2 (.inr (.inl ⟨rfl, rfl⟩))⟩
  · exact ⟨row.target, SlotTriple.mem_place_iff.2 (.inr (.inr ⟨rfl, rfl⟩))⟩

/-- Where every triple has a row, something stands in every slot. -/
theorem exists_stands {rowAt : Nat → Option Triple}
    (complete : ∀ position, position < template.size → ∃ row, rowAt position = some row)
    (member : slot ∈ template.slots) : ∃ address, template.Stands rowAt slot address := by
  obtain ⟨slots, inTriples, inSlots⟩ := List.mem_flatMap.1 member
  obtain ⟨position, bound, same⟩ := List.mem_iff_getElem.1 inTriples
  obtain ⟨row, here⟩ := complete position bound
  obtain ⟨address, inRow⟩ := exists_place row inSlots
  exact ⟨address, position, slots, row, List.getElem?_eq_some_iff.2 ⟨bound, same⟩, here, inRow⟩

/-- One row more lets stand what stands in it, and what stood before. -/
theorem stands_of_agree {rowAt rowAt' : Nat → Option Triple} {position : Nat} {slots : SlotTriple}
    {row : Triple} (found : template.triples[position]? = some slots)
    (free : rowAt position = none) (here : rowAt' position = some row)
    (agree : ∀ other, other ≠ position → rowAt' other = rowAt other) (slot : Slot)
    (address : Address) : template.Stands rowAt' slot address ↔
      template.Stands rowAt slot address ∨ (slot, address) ∈ slots.place row := by
  constructor
  · rintro ⟨other, slots', row', found', at', member⟩
    by_cases same : other = position
    · subst same
      cases found.symm.trans found'
      cases here.symm.trans at'
      exact .inr member
    · exact .inl ⟨other, slots', row', found', agree other same ▸ at', member⟩
  · rintro (⟨other, slots', row', found', at', member⟩ | member)
    · have apart : other ≠ position := by
        rintro rfl
        rw [free] at at'
        cases at'
      exact ⟨other, slots', row', found', (agree other apart).trans at', member⟩
    · exact ⟨position, slots, row, found, here, member⟩

/-- Elements for all variables, and an edge with its ends for every triple. -/
@[ext] structure Match where
  values : List Address
  rows : List Triple
  deriving DecidableEq, Repr

namespace Match

/-- The row of a triple. -/
def rowAt (found : Match) (position : Nat) : Option Triple := found.rows[position]?

/-- The instance that a match is. -/
def toInstance (template : Template) (found : Match) : Instance :=
  .ofValuation template ⟨found.values.map some⟩ found.rows

/-- **A match satisfies a template** in a store: every row is an edge between its ends, every slot
admits what stands in it, what stands in a slot is the element of its variable, and the variables
have the elements that the parameters give them. -/
structure Satisfies (found : Match) (store : Store) (template : Template)
    (parameters : Assignment) : Prop where
  valued : found.values.length = template.vars.length
  triples : found.rows.length = template.size
  edges : ∀ row ∈ found.rows, store.ends? row.edge = some (row.source, row.target)
  admitted : ∀ slot address, template.Stands found.rowAt slot address → slot.Admits store address
  shared : ∀ slot address var, template.Stands found.rowAt slot address → slot.var = some var →
    found.values[var]? = some address
  parameters : ∀ var address, template.Gives parameters.entries var address →
    found.values[var]? = some address

end Match

end Template

end SemanticNetwork
