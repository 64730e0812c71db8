/-
**Assignments and instances.** An assignment gives elements to names before a template is used; an
instance is what comes out, an element for every name and a triple of elements for every triple.
In between, a valuation gives elements to the variables.

* `Assignment.insert`, `Assignment.ofList`: give elements to names, one by one;
* `Valuation.get?`, `Valuation.bind`: read and write a valuation, with `get?_bind`;
* `Template.bindParameters`: the valuation of an assignment;
* `Instance.ofValuation`: the instance of a valuation.
-/
import SemanticNetwork.Template.Validate
import SemanticNetwork.Triple

namespace SemanticNetwork

/-- Elements for names; a name occurs once. -/
@[ext] structure Assignment where
  entries : List (String × Address)
  nodup : (entries.map Prod.fst).Nodup := by decide
  deriving DecidableEq, Repr

namespace Assignment

/-- The assignment without names. -/
def empty : Assignment := ⟨[], List.nodup_nil⟩

/-- The element of a name. -/
def get? (assignment : Assignment) (name : String) : Option Address :=
  (assignment.entries.find? fun entry => entry.1 == name).map Prod.snd

/-- Give an element to a name, instead of the one it had. -/
def insert (assignment : Assignment) (name : String) (address : Address) : Assignment where
  entries := assignment.entries.filter (fun entry => entry.1 != name) ++ [(name, address)]
  nodup := by
    have others : ((assignment.entries.filter fun entry => entry.1 != name).map Prod.fst).Nodup :=
      assignment.nodup.sublist (List.filter_sublist.map _)
    rw [List.map_append, List.map_singleton, List.nodup_append]
    refine ⟨others, by simp, fun other member again here => ?_⟩
    obtain ⟨entry, kept, rfl⟩ := List.mem_map.1 member
    have different : entry.1 ≠ name := by simpa using (List.mem_filter.1 kept).2
    exact fun same => different (same.trans (List.mem_singleton.1 here))

/-- Give elements to names one by one. -/
def insertAll (assignment : Assignment) (pairs : List (String × Address)) : Assignment :=
  pairs.foldl (fun given (name, address) => given.insert name address) assignment

/-- The assignment of some pairs; of several elements for a name the last counts. -/
def ofList (pairs : List (String × Address)) : Assignment := empty.insertAll pairs

/-- Whether no name has an element. -/
def isEmpty (assignment : Assignment) : Bool := assignment.entries.isEmpty

variable {assignment : Assignment} {pairs : List (String × Address)} {entry : String × Address}
  {name : String} {address : Address}

theorem mem_insert : entry ∈ (assignment.insert name address).entries ↔
    (entry ∈ assignment.entries ∧ entry.1 ≠ name) ∨ entry = (name, address) := by
  simp [insert]

theorem mem_of_mem_insertAll (member : entry ∈ (assignment.insertAll pairs).entries) :
    entry ∈ assignment.entries ∨ entry ∈ pairs := by
  induction pairs generalizing assignment with
  | nil => exact .inl member
  | cons pair rest hypothesis =>
    rcases hypothesis member with early | late
    · rcases mem_insert.1 early with ⟨given, -⟩ | rfl
      · exact .inl given
      · exact .inr List.mem_cons_self
    · exact .inr (List.mem_cons_of_mem _ late)

/-- A name that has an element keeps one. -/
theorem exists_mem_insertAll (member : (name, address) ∈ assignment.entries ∨
    (name, address) ∈ pairs) : ∃ other, (name, other) ∈ (assignment.insertAll pairs).entries := by
  induction pairs generalizing assignment address with
  | nil => exact ⟨address, member.resolve_right List.not_mem_nil⟩
  | cons pair rest hypothesis =>
    by_cases same : name = pair.1
    · exact hypothesis (.inl (mem_insert.2 (.inr (Prod.ext same rfl))))
    · rcases member with early | late
      · exact hypothesis (.inl (mem_insert.2 (.inl ⟨early, same⟩)))
      · rcases List.mem_cons.1 late with rfl | late
        · exact absurd rfl same
        · exact hypothesis (.inr late)

/-- The assignment of some pairs has no others. -/
theorem mem_of_mem_ofList (member : entry ∈ (ofList pairs).entries) : entry ∈ pairs :=
  (mem_of_mem_insertAll member).resolve_left List.not_mem_nil

/-- Every name of some pairs has an element in their assignment. -/
theorem exists_mem_ofList (member : (name, address) ∈ pairs) :
    ∃ other, (name, other) ∈ (ofList pairs).entries :=
  exists_mem_insertAll (.inr member)

end Assignment

/-- Elements for some of the variables of a template. -/
@[ext] structure Valuation where
  values : List (Option Address)
  deriving DecidableEq, Repr

namespace Valuation

/-- The valuation of so many variables that gives none an element. -/
def unbound (count : Nat) : Valuation := ⟨List.replicate count none⟩

/-- The element of a variable. -/
def get? (valuation : Valuation) (var : Nat) : Option Address := (valuation.values[var]?).join

/-- Give an element to a variable. -/
def bind (valuation : Valuation) (var : Nat) (address : Address) : Valuation :=
  ⟨valuation.values.set var (some address)⟩

/-- Give an element to the variable of a slot, if it has one. -/
def bindSlot (valuation : Valuation) (slot : Template.Slot) (address : Address) : Valuation :=
  slot.var.elim valuation fun var => valuation.bind var address

/-- The element of the variable of a slot. -/
def ofSlot? (valuation : Valuation) (slot : Template.Slot) : Option Address :=
  slot.var.bind valuation.get?

/-- A variable has the element it was given, every other the one it had. -/
theorem get?_bind (valuation : Valuation) (var other : Nat) (address : Address) :
    (valuation.bind var address).get? other =
      if var = other ∧ var < valuation.values.length then some address
      else valuation.get? other := by
  simp only [get?, bind, List.getElem?_set]
  by_cases same : var = other
  · by_cases inside : var < valuation.values.length
    · have insideOther : other < valuation.values.length := same ▸ inside
      simp [same, insideOther]
    · have outside : ¬ other < valuation.values.length := same ▸ inside
      simp [same, outside]
  · simp [same]

end Valuation

/-- What a template became: elements for its names, and a triple for each of its triples. -/
structure Instance where
  names : List (String × Address)
  triples : List Triple
  deriving DecidableEq, Repr

namespace Instance

/-- The element of a name. -/
def get? (made : Instance) (name : String) : Option Address :=
  (made.names.find? fun entry => entry.1 == name).map Prod.snd

/-- The element of a name, or the address that denotes none. -/
def get (made : Instance) (name : String) : Address := (made.get? name).getD .invalid

/-- The names with their elements, to be given to a template again. -/
def assignment (made : Instance) : Assignment := .ofList made.names

/-- The number of names that have an element. -/
def size (made : Instance) : Nat := made.names.length

/-- The elements of all triples. -/
def elements (made : Instance) : List Address := made.triples.flatMap Triple.toList

/-- The instance of a valuation, with the triples found for it. -/
def ofValuation (template : Template) (valuation : Valuation) (triples : List Triple) : Instance :=
  ⟨template.names.filterMap fun (name, var) => (valuation.get? var).map fun address =>
    (name, address), triples⟩

end Instance

namespace Template

/-- Bind one parameter: its name must occur, and its element must exist. -/
def bindParameter (store : Store) (template : Template) (valuation : Valuation)
    (parameter : String × Address) : Except TemplateError Valuation :=
  let (name, address) := parameter
  match template.varNamed? name with
  | none => .error (.unknownParameter name)
  | some var =>
    if store.contains address then .ok (valuation.bind var address)
    else .error (.invalidParameter name (.notAnElement address))

/-- The valuation of an assignment. -/
def bindParameters (store : Store) (template : Template) (assignment : Assignment) :
    Except TemplateError Valuation :=
  assignment.entries.foldlM (bindParameter store template) (.unbound template.vars.length)

/-- The type that an element must carry where a type is asked for. A variable in a template stands
for constants and variables alike. -/
def soughtType (type : ElementType) : ElementType := type.without .varying

end Template

end SemanticNetwork
