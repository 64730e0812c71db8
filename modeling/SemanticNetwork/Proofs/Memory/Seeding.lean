/-
**Seeding keynodes.** A memory starts with its naming relation, which names itself, and then gets a
node for every identifier that is listed and not there yet. Nothing else names anything at that time,
so an identifier leads to a node exactly if it was seeded, and for every keynode there are a node, a
link and two edges. A blank identifier is never there, so it is refused when its turn comes.

* `Attached.gains`: the three elements of a label;
* `IsSown`: **what holds between one identifier and the next**, with `isSown_bootstrap` and
  `IsSown.exists_resolved`;
* `run_seed`: **seeding goes on to the first blank identifier**, or to the end;
* `Memory.start_seeds`: **a memory starts unless an identifier is blank, and then every keynode is
  there.**
-/
import Mathlib.Data.List.Dedup
import SemanticNetwork.Proofs.Memory.Refinement
import SemanticNetwork.Proofs.Store.Counts

namespace SemanticNetwork

namespace Naming

variable {relation element : Address} {before after network : Network} {label : Label}
  {identifier : String} {keynodes : List (String × Address)}

/-- **A label is made of two edges and a link.** -/
theorem Attached.gains (attached : Attached relation before label after)
    (consistent : before.store.Consistent) : before.store.Gains
      [⟨label.membership, .membership, .edge relation label.edge⟩,
        ⟨label.edge, .constantDirected, .edge label.element label.link⟩,
        ⟨label.link, .constantLink, .link (some (.text label.identifier))⟩] after.store := by
  have newer : ∀ address : Address, before.store.allocated < address.value →
      before.store.get? address = none := fun _ => consistent.get?_of_newer
  have freeMembership := newer label.membership (by rw [attached.membership]; omega)
  have freeEdge := newer label.edge (by rw [attached.edge]; omega)
  have freeLink := newer label.link (by rw [attached.link]; omega)
  have apart : label.membership ≠ label.edge ∧ label.membership ≠ label.link ∧
      label.edge ≠ label.link := by
    refine ⟨?_, ?_, ?_⟩ <;> intro same <;> have values := congrArg Address.value same
    · rw [attached.membership, attached.edge] at values
      omega
    · rw [attached.membership, attached.link] at values
      omega
    · rw [attached.edge, attached.link] at values
      omega
  refine ⟨by simp [apart], by simp [freeMembership, freeEdge, freeLink], fun {address found} => ?_⟩
  rw [attached.get?]
  grind

/-! ### Between one identifier and the next -/

theorem keynodeType_suits (identifier : String) :
    (Memory.keynodeType identifier).isNodeType = true ∧
      (Memory.keynodeType identifier).union .node = Memory.keynodeType identifier := by
  unfold Memory.keynodeType
  split
  · decide
  · split <;> decide

/-- **The names of a network are its keynodes.** Each is a node of the type that its identifier asks
for, and for every node there are a link and two edges. -/
structure IsSown (relation : Address) (network : Network) (keynodes : List (String × Address)) :
    Prop where
  orderly : IsOrderly relation network
  observers : HasPlainObservers network
  hasName_iff : ∀ element identifier, HasName relation network element identifier ↔
    (identifier, element) ∈ keynodes
  distinct : (keynodes.map Prod.fst).Nodup
  proper : ∀ identifier ∈ keynodes.map Prod.fst, Text.isBlankText identifier = false
  nodes : ∀ identifier element, (identifier, element) ∈ keynodes → network.store.get? element =
    some ⟨element, Memory.keynodeType identifier, .node⟩
  counts : network.store.counts = ⟨keynodes.length, 2 * keynodes.length, keynodes.length⟩

/-- **The naming relation is the first keynode.** -/
theorem isSown_bootstrap (settings : Settings) : ∃ relation after,
    bootstrap.run (Memory.emptyNetwork settings) = .ok relation after ∧
      IsSown relation after [(relationIdentifier, relation)] := by
  obtain ⟨store, label, after, ran, sameIdentifier, created, attached, renames⟩ :=
    exists_bootstrap settings
  let bare : Network := ({ Memory.emptyNetwork settings with store := store }).observe .linkReaper
  have orderly : IsOrderly label.element bare := isOrderly_of_created created
  have unnamed : ∀ element identifier, ¬ HasName label.element bare element identifier := by
    rintro element identifier ⟨other, stands, -⟩
    have tracked := stands.tracked
    cases tracked
  have adds := (Store.createNode_ok created).2.2
  have gains := (adds.gains Store.consistent_empty).trans
    (attached.gains orderly.labelled.consistent)
  refine ⟨label.element, after, ran, {
    orderly := renames.orderly
    observers := renames.observers
    hasName_iff := fun element identifier => ?_
    distinct := List.pairwise_singleton _ _
    proper := by
      rintro identifier member
      cases List.mem_singleton.1 member
      show Text.isBlankText relationIdentifier = false
      decide +kernel
    nodes := by
      rintro identifier element member
      cases List.mem_singleton.1 member
      exact renames.orderly.labelled.rooted
    counts := gains.counts_eq }⟩
  rw [renames.hasName_iff, List.mem_singleton, Prod.mk.injEq]
  constructor
  · rintro (⟨sameElement, sameName⟩ | ⟨-, -, named⟩)
    · exact ⟨sameName, sameElement⟩
    · exact absurd named (unnamed element identifier)
  · exact fun same => .inl same.symm

namespace IsSown

variable (sown : IsSown relation network keynodes)

include sown

/-- An identifier leads to its keynode, and nowhere if it has none. -/
theorem find?_eq_some_iff : find? network.store relation identifier = some element ↔
    (identifier, element) ∈ keynodes := by
  rw [sown.orderly.find?_eq_some_iff, sown.hasName_iff]

theorem find?_eq_none (free : identifier ∉ keynodes.map Prod.fst) :
    find? network.store relation identifier = none := by
  refine Option.eq_none_iff_forall_ne_some.2 fun element found => free ?_
  exact List.mem_map.2 ⟨_, sown.find?_eq_some_iff.1 found, rfl⟩

/-- **An identifier that is not there yet gets a keynode**, if it is not blank. -/
theorem exists_resolved (free : identifier ∉ keynodes.map Prod.fst)
    (notBlank : Text.isBlankText identifier = false) : ∃ element after,
      (resolve relation identifier (some (Memory.keynodeType identifier))).run network =
        .ok (some element) after ∧ IsSown relation after (keynodes ++ [(identifier, element)]) := by
  obtain ⟨suits, isNode⟩ := keynodeType_suits identifier
  have missing := sown.find?_eq_none free
  obtain ⟨between, label, after, ran, rfl, adds, betweenConsistent, attached, introduces⟩ :=
    exists_introduced sown.orderly notBlank suits missing (sown.observers.heeds identifier)
  have consistent := sown.orderly.labelled.consistent
  have gains := (adds.gains consistent).trans (attached.gains betweenConsistent)
  refine ⟨label.element, after, ?_, {
    orderly := introduces.orderly
    observers := introduces.observers.trans sown.observers
    hasName_iff := fun element identifier => ?_
    distinct := ?_
    proper := fun identifier member => ?_
    nodes := fun identifier element member => ?_
    counts := ?_ }⟩
  · rw [run_resolve, missing]
    simp only [ran]
  · rw [introduces.hasName_iff, sown.hasName_iff, List.mem_append, List.mem_singleton,
      Prod.mk.injEq, or_comm, and_comm]
  · rw [List.map_append, List.nodup_append]
    refine ⟨sown.distinct, List.pairwise_singleton _ _, ?_⟩
    rintro _ member _ last rfl
    cases List.mem_singleton.1 last
    exact free member
  · rw [List.map_append, List.mem_append] at member
    rcases member with member | last
    · exact sown.proper identifier member
    · rw [List.mem_singleton.1 last]
      exact notBlank
  · rcases List.mem_append.1 member with member | last
    · exact introduces.kept (sown.nodes identifier element member)
    · cases List.mem_singleton.1 last
      rw [introduces.node, isNode]
  · rw [gains.counts_eq, sown.counts]
    simp [Store.Counts.ofList, Store.Counts.add, List.countP_cons, Element.isNode, Element.isEdge,
      Element.isLink]
    omega

/-- A blank identifier is refused. -/
theorem resolve_blank (blank : Text.isBlankText identifier = true) (type : ElementType) :
    ∃ error after, (resolve relation identifier (some type)).run network = .error error after := by
  have missing : find? network.store relation identifier = none := by
    refine sown.find?_eq_none fun member => ?_
    cases blank.symm.trans (sown.proper identifier member)
  refine ⟨.blankIdentifier, network, ?_⟩
  rw [run_resolve, missing]
  simp only [run_createNamed, if_pos blank]

end IsSown

/-- An identifier is looked up among keynodes as it occurs there. -/
theorem isSome_lookup?_iff : (Memory.lookup? keynodes identifier).isSome = true ↔
    identifier ∈ keynodes.map Prod.fst := by
  simp [Memory.lookup?]

/-- **Seeding goes on to the first blank identifier, or to the end**; then there is a keynode for
every identifier, and no other. -/
theorem run_seed (sown : IsSown relation network keynodes) (identifiers : List String) :
    ((∀ identifier ∈ identifiers, Text.isBlankText identifier = false) ∧
      ∃ seeded after, (Memory.seed relation keynodes identifiers).run network = .ok seeded after ∧
        IsSown relation after seeded ∧ ∀ identifier, identifier ∈ seeded.map Prod.fst ↔
          identifier ∈ keynodes.map Prod.fst ∨ identifier ∈ identifiers) ∨
    ((∃ identifier ∈ identifiers, Text.isBlankText identifier = true) ∧
      ∃ error after, (Memory.seed relation keynodes identifiers).run network =
        .error error after) := by
  induction identifiers generalizing network keynodes with
  | nil => exact .inl ⟨nofun, keynodes, network, rfl, sown, by simp⟩
  | cons identifier rest hypothesis =>
    by_cases there : identifier ∈ keynodes.map Prod.fst
    · have skips : Memory.seed relation keynodes (identifier :: rest) =
          Memory.seed relation keynodes rest := by
        rw [Memory.seed, if_pos (isSome_lookup?_iff.2 there)]
      rw [skips]
      rcases hypothesis sown with ⟨proper, seeded, after, ran, sownAfter, same⟩ | ⟨blank, refused⟩
      · refine .inl ⟨?_, seeded, after, ran, sownAfter, fun other => ?_⟩
        · exact List.forall_mem_cons.2 ⟨sown.proper identifier there, proper⟩
        · rw [same, List.mem_cons, ← or_assoc]
          refine or_congr_left (or_iff_left_of_imp ?_).symm
          rintro rfl
          exact there
      · obtain ⟨other, member, blank⟩ := blank
        exact .inr ⟨⟨other, List.mem_cons_of_mem _ member, blank⟩, refused⟩
    · have asks : Memory.seed relation keynodes (identifier :: rest) =
          (resolve relation identifier (some (Memory.keynodeType identifier)) >>= fun found =>
            Memory.seed relation (keynodes ++ [(identifier, found.getD .invalid)]) rest) := by
        rw [Memory.seed, if_neg (mt isSome_lookup?_iff.1 there)]
      rw [asks]
      cases blank : Text.isBlankText identifier with
      | true =>
        obtain ⟨error, after, refused⟩ := sown.resolve_blank blank (Memory.keynodeType identifier)
        refine .inr ⟨⟨identifier, List.mem_cons_self, blank⟩, error, after, ?_⟩
        exact run_bind_error_iff.2 (.inl refused)
      | false =>
        obtain ⟨element, between, found, sownBetween⟩ := sown.exists_resolved there blank
        have goesOn : ∀ result, (Memory.seed relation
              (keynodes ++ [(identifier, element)]) rest).run between = result →
            (resolve relation identifier (some (Memory.keynodeType identifier)) >>= fun found =>
              Memory.seed relation (keynodes ++ [(identifier, found.getD .invalid)]) rest).run
                network = result := by
          rintro result rfl
          rw [EStateM.run_bind, found]
          rfl
        rcases hypothesis sownBetween with
          ⟨proper, seeded, after, ran, sownAfter, same⟩ | ⟨laterBlank, refused⟩
        · refine .inl ⟨List.forall_mem_cons.2 ⟨blank, proper⟩, seeded, after, goesOn _ ran,
            sownAfter, fun other => ?_⟩
          rw [same, List.map_append, List.mem_append, List.mem_cons, or_assoc]
          simp
        · obtain ⟨other, member, laterBlank⟩ := laterBlank
          obtain ⟨error, after, refused⟩ := refused
          exact .inr ⟨⟨other, List.mem_cons_of_mem _ member, laterBlank⟩, error, after,
            goesOn _ refused⟩

end Naming

namespace Memory

open Naming (relationIdentifier)

/-- The identifiers of the keynodes: that of the naming relation and those that are listed, each
once. -/
def keynodeNames (settings : Settings) : List String :=
  (relationIdentifier :: settings.keynodes).dedup

/-- **The keynodes of a new memory.** There is one for each identifier, and no other. It is a node of
its own, of the type that the identifier asks for; the identifier leads to it, and it to the
identifier. Beside it there are a link and two edges, and nothing else. -/
structure IsSeeded (settings : Settings) (memory : Memory) : Prop where
  names : (memory.keynodes.map Prod.fst).Perm (keynodeNames settings)
  apart : (memory.keynodes.map Prod.snd).Nodup
  hasKeynode_iff : ∀ identifier,
    memory.hasKeynode identifier = true ↔ identifier ∈ keynodeNames settings
  resolves : ∀ identifier ∈ keynodeNames settings,
    memory.resolve identifier none = (memory.keynode identifier, memory)
  identifierOf? : ∀ identifier ∈ keynodeNames settings,
    memory.identifierOf? (memory.keynode identifier) = some identifier
  node : ∀ identifier ∈ keynodeNames settings, memory.store.get? (memory.keynode identifier) =
    some ⟨memory.keynode identifier, keynodeType identifier, .node⟩
  counts : memory.store.counts = ⟨(keynodeNames settings).length,
    2 * (keynodeNames settings).length, (keynodeNames settings).length⟩

/-- A keynode is looked up as it is listed. -/
theorem keynode_mem {memory : Memory} {identifier : String}
    (listed : identifier ∈ memory.keynodes.map Prod.fst) :
    (identifier, memory.keynode identifier) ∈ memory.keynodes := by
  cases found : memory.keynodes.find? fun entry => entry.1 == identifier with
  | none =>
    obtain ⟨entry, member, same⟩ := List.mem_map.1 listed
    exact absurd (beq_iff_eq.2 same) (List.find?_eq_none.1 found entry member)
  | some entry =>
    have same : entry.1 = identifier := by
      simpa using List.find?_some found
    have element : memory.keynode identifier = entry.2 := by
      simp [keynode, lookup?, found]
    rw [element, ← same]
    exact List.mem_of_find?_eq_some found

/-- What is sown is seeded. -/
theorem isSeeded_of_isSown {settings : Settings} {memory : Memory}
    (sown : Naming.IsSown memory.relation memory.network memory.keynodes)
    (same : ∀ identifier, identifier ∈ memory.keynodes.map Prod.fst ↔
      identifier ∈ keynodeNames settings) : memory.IsSeeded settings := by
  have orderly : memory.IsOrderly := sown.orderly
  have names : (memory.keynodes.map Prod.fst).Perm (keynodeNames settings) :=
    (List.perm_ext_iff_of_nodup sown.distinct (List.nodup_dedup _)).2 same
  have count : memory.keynodes.length = (keynodeNames settings).length := by
    rw [← names.length_eq, List.length_map]
  have listed : ∀ identifier ∈ keynodeNames settings,
      (identifier, memory.keynode identifier) ∈ memory.keynodes :=
    fun identifier member => keynode_mem ((same identifier).2 member)
  have named : ∀ {identifier element}, (identifier, element) ∈ memory.keynodes →
      memory.identifierOf? element = some identifier :=
    fun member => (identifierOf?_eq_some_iff orderly).2 ((sown.hasName_iff _ _).2 member)
  refine ⟨names, ?_, fun identifier => ?_, fun identifier member => ?_,
    fun identifier member => named (listed identifier member),
    fun identifier member => sown.nodes _ _ (listed identifier member), count ▸ sown.counts⟩
  · -- Elements that lead to distinct identifiers are distinct.
    refine .of_map memory.identifierOf? ?_
    have identifiers : (memory.keynodes.map Prod.snd).map memory.identifierOf? =
        (memory.keynodes.map Prod.fst).map some := by
      rw [List.map_map, List.map_map]
      exact List.map_congr_left fun entry member => named member
    rw [identifiers]
    exact sown.distinct.map fun _ _ => Option.some.inj
  · rw [← same]
    exact Naming.isSome_lookup?_iff
  · exact resolve_of_found (sown.find?_eq_some_iff.2 (listed identifier member)) none

/-- **A memory starts unless an identifier is blank, and then every keynode is there.** -/
theorem start_seeds (settings : Settings) :
    ((∃ memory, start settings = .ok memory) ↔
      ∀ identifier ∈ settings.keynodes, Text.isBlankText identifier = false) ∧
    ∀ memory, start settings = .ok memory → memory.IsSeeded settings := by
  obtain ⟨relation, between, ranBootstrap, sown⟩ := Naming.isSown_bootstrap settings
  have isKeynode : ∀ identifier, identifier ∈ keynodeNames settings ↔
      identifier ∈ [(relationIdentifier, relation)].map Prod.fst ∨
        identifier ∈ settings.keynodes := by
    intro identifier
    simp [keynodeNames]
  have started : ∀ result, (seed relation [(relationIdentifier, relation)] settings.keynodes).run
      between = result → start settings = match result with
        | .ok keynodes network => .ok ⟨network, settings, relation, keynodes⟩
        | .error error _ => .error error := by
    rintro result rfl
    unfold start populate
    simp only [EStateM.run_bind, ranBootstrap]
    cases (seed relation [(relationIdentifier, relation)] settings.keynodes).run between <;> rfl
  rcases Naming.run_seed sown settings.keynodes with
    ⟨proper, keynodes, after, ran, sownAfter, same⟩ | ⟨⟨blank, member, isBlank⟩, error, after, refused⟩
  · rw [started _ ran]
    refine ⟨⟨fun _ => proper, fun _ => ⟨_, rfl⟩⟩, ?_⟩
    rintro memory answer
    cases answer
    exact isSeeded_of_isSown sownAfter fun identifier => (same identifier).trans
      (isKeynode identifier).symm
  · rw [started _ refused]
    refine ⟨⟨fun started => (nomatch started.choose_spec), fun proper => ?_⟩, nofun⟩
    cases isBlank.symm.trans (proper blank member)

/-- Keynodes are listed twice, in another script, with prefixes, and along with the naming relation. -/
def listedTwice : Settings :=
  ⟨4, 100, .manual, ["nrel_inclusion", "λόγος", "rrel_1", "λόγος", "nrel_system_identifier"]⟩

/-- Four keynodes come of it; with a blank identifier among them there is no memory. -/
theorem start_listedTwice : (∃ memory, start listedTwice = .ok memory ∧
      memory.IsSeeded listedTwice ∧ memory.store.counts = ⟨4, 8, 4⟩) ∧
    ¬ ∃ memory, start { listedTwice with keynodes := ["λόγος", "\t "] } = .ok memory := by
  constructor
  · obtain ⟨memory, started⟩ := (start_seeds listedTwice).1.2 (by decide +kernel)
    have seeded := (start_seeds listedTwice).2 memory started
    refine ⟨memory, started, seeded, ?_⟩
    rw [seeded.counts]
    decide +kernel
  · intro started
    exact absurd ((start_seeds _).1.1 started "\t " (by decide)) (by decide +kernel)

end Memory

end SemanticNetwork
