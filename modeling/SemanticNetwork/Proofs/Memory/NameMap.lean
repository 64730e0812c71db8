/-
**Names as a map.** To those who use it a memory has a partial map from elements to identifiers, in
which no identifier occurs twice, and nothing else about names can be told. Naming changes the map as
it should, and changes nothing where it is refused.

* `Memory.NamedBy`: a memory that answers as a map does;
* `Memory.Assigns`, `Memory.Resolves`: giving an identifier, and resolving one with a type;
* `Memory.IsOrderly.namedBy`: **an orderly memory answers as a map does**;
* `Memory.assigns_setIdentifier`, `Memory.resolves_resolve`: **naming acts on the map.**
-/
import SemanticNetwork.Proofs.Memory.Names

namespace SemanticNetwork

open Naming (find? HasName Renames Introduces run_assign run_createNamed run_resolve)

/-- A partial map from elements to identifiers. -/
abbrev Names := Address → Option String

namespace Names

/-- What remains of a map when only what a store contains keeps its identifier. -/
def among (names : Names) (store : Store) : Names := fun element =>
  if store.contains element = true then names element else none

/-- The map with an identifier for an element, in place of the one it had. -/
def assign (names : Names) (element : Address) (identifier : String) : Names := fun other =>
  if other = element then some identifier else names other

/-- The map without the identifier of an element. -/
def without (names : Names) (element : Address) : Names := fun other =>
  if other = element then none else names other

variable {names : Names} {store : Store} {element other : Address} {identifier name : String}

theorem among_eq_some_iff : names.among store other = some name ↔
    store.contains other = true ∧ names other = some name := by
  unfold among
  by_cases there : store.contains other = true <;> simp [there]

theorem assign_eq_some_iff : names.assign element identifier other = some name ↔
    (other = element ∧ name = identifier) ∨ (other ≠ element ∧ names other = some name) := by
  unfold assign
  by_cases same : other = element
  · simpa [same] using eq_comm
  · simp [same]

theorem without_eq_some_iff : names.without element other = some name ↔
    other ≠ element ∧ names other = some name := by
  unfold without
  by_cases same : other = element <;> simp [same]

end Names

namespace Memory

/-- **A memory answers as a partial injective map does** that gives identifiers to existing elements:
an identifier leads to the element that has it, or to none, and an element to its identifier. Asking
changes nothing. -/
structure NamedBy (memory : Memory) (names : Names) : Prop where
  existing : ∀ {element identifier}, names element = some identifier →
    memory.store.contains element = true
  injective : ∀ {first second identifier}, names first = some identifier →
    names second = some identifier → first = second
  resolve_eq_iff : ∀ {identifier element}, element.isValid = true →
    ((memory.resolve identifier none).1 = element ↔ names element = some identifier)
  resolve_eq_invalid_iff : ∀ {identifier},
    (memory.resolve identifier none).1 = .invalid ↔ ∀ element, names element ≠ some identifier
  untouched : ∀ identifier, (memory.resolve identifier none).2 = memory
  identifierOf? : ∀ element, memory.identifierOf? element = names element

/-- **Giving an identifier** is refused if it is blank, the element is missing or another element has
the identifier; else the element has it and no other. Giving it may cost other elements their
existence, and so their identifiers, if they depend on the former link. -/
structure Assigns (memory : Memory) (names : Names) (identifier : String) (element : Address)
    (later : Names) : Prop where
  refused_iff : (∃ error, (memory.setIdentifier identifier element).1 = .error error) ↔
    Text.isBlankText identifier = true ∨ memory.store.contains element = false ∨
      ∃ other, other ≠ element ∧ names other = some identifier
  refused : ∀ {error}, (memory.setIdentifier identifier element).1 = .error error →
    (memory.setIdentifier identifier element).2 = memory ∧ later = names
  accepted : (memory.setIdentifier identifier element).1 = .ok () →
    later = (names.among (memory.setIdentifier identifier element).2.store).assign element identifier

/-- A memory has one node more than another, and is like it otherwise, but for links and edges. -/
structure AddsNode (before : Memory) (element : Address) (type : ElementType) (after : Memory) :
    Prop where
  new : before.store.contains element = false
  node : after.store.get? element = some ⟨element, type, .node⟩
  kept : ∀ {address found}, before.store.get? address = some found →
    after.store.get? address = some found
  only : ∀ {address type'}, after.store.get? address = some ⟨address, type', .node⟩ →
    address = element ∨ before.store.get? address = some ⟨address, type', .node⟩

/-- **Resolving an identifier with a type** finds the element that has it. If there is none, it is
refused for a blank identifier and for a type that is not of a node; else there is one new node, which
has the identifier and which is found from then on. -/
structure Resolves (memory : Memory) (names : Names) (identifier : String) (type : ElementType)
    (later : Names) : Prop where
  found : ∀ {element}, names element = some identifier →
    memory.resolve identifier (some type) = (element, memory) ∧ later = names
  refused : (∀ element, names element ≠ some identifier) →
    Text.isBlankText identifier = true ∨ type.isNodeType = false →
      memory.resolve identifier (some type) = (.invalid, memory) ∧ later = names
  created : (∀ element, names element ≠ some identifier) →
    Text.isBlankText identifier = false → type.isNodeType = true →
      ∃ element after, memory.resolve identifier (some type) = (element, after) ∧
        memory.AddsNode element (type.union .node) after ∧
        later = names.assign element identifier ∧
        ∀ type?, after.resolve identifier type? = (element, after)

variable {memory : Memory} {identifier : String} {element : Address}

/-- Naming in the memory is in order. -/
def IsOrderly (memory : Memory) : Prop := Naming.IsOrderly memory.relation memory.network

/-- The names of a memory are those of its labels. -/
theorem identifierOf?_eq_some_iff (orderly : memory.IsOrderly) :
    memory.identifierOf? element = some identifier ↔
      HasName memory.relation memory.network element identifier :=
  Naming.IsOrderly.identifierOf?_eq_some_iff orderly

theorem find?_eq_some_iff (orderly : memory.IsOrderly) :
    find? memory.store memory.relation identifier = some element ↔
      memory.identifierOf? element = some identifier := by
  rw [identifierOf?_eq_some_iff orderly]
  exact Naming.IsOrderly.find?_eq_some_iff orderly

theorem find?_eq_none_iff (orderly : memory.IsOrderly) :
    find? memory.store memory.relation identifier = none ↔
      ∀ element, memory.identifierOf? element ≠ some identifier := by
  rw [Option.eq_none_iff_forall_ne_some]
  exact forall_congr' fun element => not_congr (find?_eq_some_iff orderly)

theorem contains_of_identifierOf? (orderly : memory.IsOrderly)
    (named : memory.identifierOf? element = some identifier) :
    memory.store.contains element = true :=
  Naming.IsOrderly.contains_of_hasName orderly ((identifierOf?_eq_some_iff orderly).1 named)

theorem isValid_of_identifierOf? (orderly : memory.IsOrderly)
    (named : memory.identifierOf? element = some identifier) : element.isValid = true :=
  orderly.labelled.consistent.isValid_of_contains (contains_of_identifierOf? orderly named)

/-- The element of an identifier is the answer; if there is none, a type decides. -/
theorem resolve_eq (memory : Memory) (identifier : String) (type? : Option ElementType) :
    memory.resolve identifier type? =
      match find? memory.store memory.relation identifier, type? with
      | some element, _ => (element, memory)
      | none, none => (.invalid, memory)
      | none, some type =>
        match (Naming.createNamed memory.relation identifier type).run memory.network with
        | .ok element after => (element, memory.withNetwork after)
        | .error _ after => (.invalid, memory.withNetwork after) := by
  unfold resolve tryNaming store
  rw [run_resolve]
  cases find? memory.network.store memory.relation identifier with
  | some element => rfl
  | none =>
    cases type? with
    | none => rfl
    | some type =>
      cases created : (Naming.createNamed memory.relation identifier type).run memory.network <;>
        simp only [created] <;> rfl

/-- What is found is the answer, whatever is asked for besides. -/
theorem resolve_of_found (found : find? memory.store memory.relation identifier = some element)
    (type? : Option ElementType) : memory.resolve identifier type? = (element, memory) := by
  rw [resolve_eq, found]

theorem resolve_of_missing (missing : find? memory.store memory.relation identifier = none) :
    memory.resolve identifier none = (.invalid, memory) := by
  rw [resolve_eq, missing]

/-- **An orderly memory answers as a map does.** -/
theorem IsOrderly.namedBy (orderly : memory.IsOrderly) : memory.NamedBy memory.identifierOf? where
  existing := contains_of_identifierOf? orderly
  injective named named' := Naming.IsOrderly.eq_of_hasName orderly
    ((identifierOf?_eq_some_iff orderly).1 named) ((identifierOf?_eq_some_iff orderly).1 named')
  resolve_eq_iff {identifier element} valid := by
    rw [← find?_eq_some_iff orderly]
    cases found : find? memory.store memory.relation identifier with
    | some other => rw [resolve_of_found found, Option.some.injEq]
    | none =>
      rw [resolve_of_missing found]
      refine ⟨?_, nofun⟩
      rintro rfl
      cases valid
  resolve_eq_invalid_iff {identifier} := by
    rw [← find?_eq_none_iff orderly]
    cases found : find? memory.store memory.relation identifier with
    | some other =>
      rw [resolve_of_found found]
      refine ⟨?_, nofun⟩
      rintro rfl
      cases isValid_of_identifierOf? orderly ((find?_eq_some_iff orderly).1 found)
    | none => simp [resolve_of_missing found]
  untouched identifier := by
    cases found : find? memory.store memory.relation identifier with
    | some other => rw [resolve_of_found found]
    | none => rw [resolve_of_missing found]
  identifierOf? _ := rfl

variable {after : Network}

theorem identifierOf?_eq_of_hasName_iff {names : Names}
    (orderly : (memory.withNetwork after).IsOrderly) (named : ∀ other name,
      HasName memory.relation after other name ↔ names other = some name) :
    (memory.withNetwork after).identifierOf? = names := by
  funext other
  refine Option.ext fun name => ?_
  rw [identifierOf?_eq_some_iff orderly]
  exact named other name

/-- **What remains keeps its identifier**, where nothing touches a label. -/
theorem identifierOf?_of_follows (orderly : memory.IsOrderly)
    (follows : Naming.Follows memory.relation memory.network after) :
    (memory.withNetwork after).identifierOf? = Names.among memory.identifierOf? after.store := by
  refine identifierOf?_eq_of_hasName_iff (follows.isOrderly orderly) fun other name => ?_
  rw [follows.hasName_iff, Names.among_eq_some_iff, identifierOf?_eq_some_iff orderly]
  exact and_comm

/-- **The element of a label that is gone has no identifier**; what else remains keeps its own. -/
theorem identifierOf?_of_unnames (orderly : memory.IsOrderly) {label : Naming.Label}
    (stands : label.Stands memory.relation memory.network)
    (unnames : Naming.IsLabelled.Unnames memory.relation memory.network label after) :
    (memory.withNetwork after).identifierOf? =
      (Names.among memory.identifierOf? after.store).without label.element := by
  refine identifierOf?_eq_of_hasName_iff (unnames.isOrderly orderly) fun other name => ?_
  rw [unnames.hasName_iff orderly stands, Names.without_eq_some_iff, Names.among_eq_some_iff,
    identifierOf?_eq_some_iff orderly]

/-! ### Giving an identifier -/

/-- The names of a memory in which an element was renamed. -/
theorem identifierOf?_of_renames (orderly : memory.IsOrderly)
    (renames : Renames memory.relation memory.network element identifier after) :
    (memory.withNetwork after).identifierOf? =
      (Names.among memory.identifierOf? after.store).assign element identifier := by
  refine identifierOf?_eq_of_hasName_iff renames.orderly fun other name => ?_
  rw [renames.hasName_iff, Names.assign_eq_some_iff, Names.among_eq_some_iff,
    identifierOf?_eq_some_iff orderly]

theorem setIdentifier_refused
    (improper : Text.isBlankText identifier = true ∨ memory.store.contains element = false ∨
      ∃ other, other ≠ element ∧ find? memory.store memory.relation identifier = some other) :
    ∃ error, memory.setIdentifier identifier element = (.error error, memory) := by
  have refusal : ∃ error, (Naming.assign memory.relation identifier element).run memory.network =
      .error error memory.network := by
    rw [run_assign]
    split
    · exact ⟨_, rfl⟩
    · rename_i notBlank
      split
      · exact ⟨_, rfl⟩
      · rename_i there
        obtain ⟨other, differs, found⟩ :=
          (improper.resolve_left notBlank).resolve_left there
        rw [show find? memory.network.store memory.relation identifier = some other from found]
        simp [differs]
  obtain ⟨error, refusal⟩ := refusal
  refine ⟨error, ?_⟩
  rw [setIdentifier, tryNaming, refusal]
  rfl

theorem setIdentifier_accepted (orderly : memory.IsOrderly)
    (notBlank : Text.isBlankText identifier = false) (there : memory.store.contains element = true)
    (own : ∀ other, find? memory.store memory.relation identifier = some other → other = element)
    (heeds : find? memory.store memory.relation identifier = none →
      memory.network.Heeds identifier) :
    ∃ after, memory.setIdentifier identifier element = (.ok (), memory.withNetwork after) ∧
      Renames memory.relation memory.network element identifier after := by
  have success : ∃ after, (Naming.assign memory.relation identifier element).run memory.network =
      .ok () after ∧ Renames memory.relation memory.network element identifier after := by
    cases found : find? memory.store memory.relation identifier with
    | some other =>
      obtain rfl := own other found
      have named := (identifierOf?_eq_some_iff orderly).1 ((find?_eq_some_iff orderly).1 found)
      refine ⟨memory.network, ?_, .refl orderly named⟩
      have stays : memory.network.store.contains other = true := there
      rw [run_assign, show find? memory.network.store memory.relation identifier = _ from found]
      simp [notBlank, stays]
    | none => exact Naming.exists_assigned orderly notBlank there found (heeds found)
  obtain ⟨after, ran, renames⟩ := success
  refine ⟨after, ?_, renames⟩
  rw [setIdentifier, tryNaming, ran]

/-- **Giving an identifier acts on the map of names.** -/
theorem assigns_setIdentifier (orderly : memory.IsOrderly)
    (heeds : Text.isBlankText identifier = false → memory.store.contains element = true →
      find? memory.store memory.relation identifier = none → memory.network.Heeds identifier) :
    (memory.setIdentifier identifier element).2.IsOrderly ∧
      memory.Assigns memory.identifierOf? identifier element
        (memory.setIdentifier identifier element).2.identifierOf? := by
  by_cases improper : Text.isBlankText identifier = true ∨ memory.store.contains element = false ∨
      ∃ other, other ≠ element ∧ memory.identifierOf? other = some identifier
  · have improperFind := improper
    simp only [← find?_eq_some_iff orderly] at improperFind
    obtain ⟨error, refusal⟩ := setIdentifier_refused improperFind
    rw [refusal]
    refine ⟨orderly, ⟨?_, ?_, ?_⟩⟩
    · rw [refusal]
      exact ⟨fun _ => improper, fun _ => ⟨error, rfl⟩⟩
    · intro _ _
      rw [refusal]
      exact ⟨rfl, rfl⟩
    · rw [refusal]
      nofun
  · obtain ⟨notBlank, proper⟩ := not_or.1 improper
    obtain ⟨there, free⟩ := not_or.1 proper
    rw [Bool.not_eq_true] at notBlank
    rw [Bool.not_eq_false] at there
    have own : ∀ other, find? memory.store memory.relation identifier = some other →
        other = element := fun other found => Classical.byContradiction fun differs =>
      free ⟨other, differs, (find?_eq_some_iff orderly).1 found⟩
    obtain ⟨after, accepted, renames⟩ :=
      setIdentifier_accepted orderly notBlank there own (heeds notBlank there)
    rw [accepted]
    refine ⟨renames.orderly, ⟨?_, ?_, ?_⟩⟩
    · rw [accepted]
      exact ⟨nofun, fun improper' => absurd improper' improper⟩
    · rw [accepted]
      nofun
    · intro _
      rw [accepted]
      exact identifierOf?_of_renames orderly renames

/-! ### Resolving with a type -/

/-- The names of a memory in which a node was created with an identifier. -/
theorem identifierOf?_of_introduces (orderly : memory.IsOrderly) {type : ElementType}
    (introduces : Introduces memory.relation memory.network element type identifier after) :
    (memory.withNetwork after).identifierOf? =
      Names.assign memory.identifierOf? element identifier := by
  refine identifierOf?_eq_of_hasName_iff introduces.orderly fun other name => ?_
  rw [introduces.hasName_iff, Names.assign_eq_some_iff, ← identifierOf?_eq_some_iff orderly]
  refine or_congr_right ⟨fun named => ⟨?_, named⟩, And.right⟩
  rintro rfl
  have there := contains_of_identifierOf? orderly named
  rw [show memory.store.contains other = false from introduces.new] at there
  cases there

theorem resolve_refused {type : ElementType}
    (missing : find? memory.store memory.relation identifier = none)
    (improper : Text.isBlankText identifier = true ∨ type.isNodeType = false) :
    memory.resolve identifier (some type) = (.invalid, memory) := by
  have refusal : ∃ error, (Naming.createNamed memory.relation identifier type).run memory.network =
      .error error memory.network := by
    rw [run_createNamed]
    split
    · exact ⟨_, rfl⟩
    · rename_i notBlank
      have unsuited := improper.resolve_left notBlank
      have refused : (Network.createNode type).run memory.network =
          .error (.invalidType type (Store.typeFault type .notNode)) memory.network := by
        rw [Network.createNode, Network.run_onStore, Store.createNode, EStateM.run_bind,
          Store.run_require, if_neg (by simp [unsuited])]
      rw [refused]
      exact ⟨_, rfl⟩
  obtain ⟨error, refusal⟩ := refusal
  rw [resolve_eq, missing]
  simp only [refusal]
  rfl

theorem resolve_created (orderly : memory.IsOrderly) {type : ElementType}
    (missing : find? memory.store memory.relation identifier = none)
    (notBlank : Text.isBlankText identifier = false) (suits : type.isNodeType = true)
    (heeds : memory.network.Heeds identifier) :
    ∃ element after, memory.resolve identifier (some type) = (element, memory.withNetwork after) ∧
      Introduces memory.relation memory.network element type identifier after := by
  obtain ⟨element, after, created, introduces⟩ :=
    Naming.exists_created orderly notBlank suits missing heeds
  refine ⟨element, after, ?_, introduces⟩
  rw [resolve_eq, missing]
  simp only [created]

/-- **Resolving an identifier with a type acts on the map of names.** -/
theorem resolves_resolve (orderly : memory.IsOrderly) {type : ElementType}
    (heeds : Text.isBlankText identifier = false → type.isNodeType = true →
      find? memory.store memory.relation identifier = none → memory.network.Heeds identifier) :
    (memory.resolve identifier (some type)).2.IsOrderly ∧
      (memory.resolve identifier (some type)).2.network.observers = memory.network.observers ∧
      memory.Resolves memory.identifierOf? identifier type
        (memory.resolve identifier (some type)).2.identifierOf? := by
  cases found : find? memory.store memory.relation identifier with
  | some element =>
    have answer := resolve_of_found found (some type)
    have named := (find?_eq_some_iff orderly).1 found
    rw [answer]
    refine ⟨orderly, rfl, ⟨fun named' => ?_, fun free => absurd named (free element),
      fun free => absurd named (free element)⟩⟩
    rw [answer, orderly.namedBy.injective named' named]
    exact ⟨rfl, rfl⟩
  | none =>
    have free := (find?_eq_none_iff orderly).1 found
    by_cases improper : Text.isBlankText identifier = true ∨ type.isNodeType = false
    · have refusal := resolve_refused found improper
      rw [refusal]
      refine ⟨orderly, rfl, ⟨fun named => absurd named (free _), fun _ _ => ⟨refusal, rfl⟩,
        fun _ notBlank suits => ?_⟩⟩
      rw [notBlank, suits] at improper
      simp at improper
    · obtain ⟨notBlank, suits⟩ := not_or.1 improper
      rw [Bool.not_eq_true] at notBlank
      rw [Bool.not_eq_false] at suits
      obtain ⟨element, after, created, introduces⟩ :=
        resolve_created orderly found notBlank suits (heeds notBlank suits found)
      have orderlyAfter : (memory.withNetwork after).IsOrderly := introduces.orderly
      have names := identifierOf?_of_introduces orderly introduces
      have named : (memory.withNetwork after).identifierOf? element = some identifier := by
        rw [names]
        exact if_pos rfl
      rw [created]
      refine ⟨orderlyAfter, introduces.observers, ⟨fun named => absurd named (free _),
        fun _ improper' => absurd improper' improper, fun _ _ _ => ?_⟩⟩
      refine ⟨element, memory.withNetwork after, created,
        ⟨introduces.new, introduces.node, introduces.kept, introduces.nodes⟩, names, ?_⟩
      exact resolve_of_found ((find?_eq_some_iff orderlyAfter).2 named)

end Memory

end SemanticNetwork
