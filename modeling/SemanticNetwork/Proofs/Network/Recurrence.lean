/-
**Generating and searching agree.** What was generated is found again, among whatever else there is.
Where a template gives a name to every type it asks for, and all names are given elements, both do
the same: they check whether the elements fit. Then generating changes nothing, so that an instance
can be generated again and again from what its names have.

* `finds_generated`: **a search finds what was generated**, once;
* `Session.Recurs`: generating an instance again from its names changes nothing, while it is there;
* `agrees_when_named`: **with elements for all names, generating and searching are the same check**,
  and every instance recurs.
-/
import SemanticNetwork.Proofs.Network.Generation
import SemanticNetwork.Proofs.Template.Reuse

namespace SemanticNetwork

variable {network : Network} {session : Session} {template : Template} {parameters : Assignment}
  {made : Instance}

namespace Network

/-- **A search finds what was generated**, whatever else there is, and finds it once: an instance with
the same elements for the names and the same triples. -/
theorem finds_generated (reachable : network.store.Reachable) (built : template.IsBuilt)
    (generated : (network.generate template parameters).1 = .ok made) :
    ∃ found,
      template.search (network.generate template parameters).2.store .empty = .ok found ∧
        found.count made = 1 := by
  have consistent := reachable.consistent
  rw [store_generate consistent built.covers generated]
  exact Template.exists_found_of_generate consistent built.covers generated

/-- A link, a relation and three edges were made, and are found as they were made. -/
theorem finds_taggedInstance :
    twoNodes.store.Reachable ∧ taggedLink.IsBuilt ∧
      (twoNodes.generate taggedLink secondMember).1 = .ok taggedInstance ∧
      ∃ found, taggedLink.search (twoNodes.generate taggedLink secondMember).2.store
          .empty = .ok found ∧ found.count taggedInstance = 1 := by
  have reachable : twoNodes.store.Reachable := ⟨_, _, _, rfl⟩
  have built : taggedLink.IsBuilt := ⟨_, rfl⟩
  have generated : (twoNodes.generate taggedLink secondMember).1 = .ok taggedInstance := by
    rfl
  exact ⟨reachable, built, generated, finds_generated reachable built generated⟩

/-- A generation that makes nothing leaves the network as it is. -/
theorem generate_of_idle
    (idle : template.generate network.store parameters = ⟨.ok made, network.store, []⟩) :
    network.generate template parameters = (.ok made, network) := by
  unfold generate
  rw [idle]
  exact congrArg _ (publish_nil network)

end Network

/-! ### Templates in which all types have names -/

namespace Session

/-- **An instance recurs**: its edges are there, and whatever is asked of the network later, as long
as they are there the template can be generated from what the names of the instance have. That gives
the same instance, and leaves the network as it is. -/
structure Recurs (session : Session) (template : Template) (made : Instance) : Prop where
  there : ∀ row ∈ made.triples, session.network.store.contains row.edge = true
  again : ∀ calls, (∀ row ∈ made.triples,
      (session.run calls).network.store.contains row.edge = true) →
    (session.run calls).network.generate template made.assignment =
      (.ok made, (session.run calls).network)

/-- A satisfying match recurs. -/
theorem recurs_of_satisfying {whole : Template.Match} (consistent : session.network.store.Consistent)
    (built : template.IsBuilt) (fullyNamed : template.IsFullyNamed)
    (valid : template.validate = .ok ())
    (satisfies : whole.Satisfies session.network.store template parameters) :
    session.Recurs template (whole.toInstance template) where
  there row member := (consistent.contains_of_ends? (satisfies.edges row member)).1
  again calls there := by
    have begun : session.network.Has fun store =>
        store.Consistent ∧ session.network.store.Precedes store := ⟨consistent, .refl _⟩
    obtain ⟨consistent', precedes⟩ :=
      has_run (Network.stable_has (Store.stable_precedes session.network.store)) begun calls
    have later := satisfies.lasts consistent consistent' precedes there
    exact Network.generate_of_idle
      (Template.generate_again consistent' built fullyNamed valid later)

/-- **With elements for all names, generating and searching are the same check.** A generation
succeeds if a search finds something. Then the instance is all that is found; nothing is made, no
address is used up and nothing is told. And whatever was generated or found with any parameters
recurs. -/
theorem agrees_when_named (reachable : session.network.store.Reachable) (built : template.IsBuilt)
    (fullyNamed : template.IsFullyNamed) :
    (∀ parameters : Assignment,
      (∀ name, template.hasName name = true → ∃ address, (name, address) ∈ parameters.entries) →
        ((∃ made, (session.network.generate template parameters).1 = .ok made) ↔
          ∃ found, template.search session.network.store parameters = .ok found ∧ found ≠ []) ∧
        ∀ made, (session.network.generate template parameters).1 = .ok made →
          template.search session.network.store parameters = .ok [made] ∧
            (template.generate session.network.store parameters).changes = [] ∧
            (session.network.generate template parameters).2 = session.network) ∧
      (∀ parameters made, (session.network.generate template parameters).1 = .ok made →
        (session.step (.generate template parameters)).Recurs template made) ∧
      ∀ parameters found, template.search session.network.store parameters = .ok found →
        ∀ made ∈ found, session.Recurs template made := by
  have consistent := reachable.consistent
  have covers := built.covers
  refine ⟨fun parameters given => ?_, fun parameters made generated => ?_,
    fun parameters found searched made member => ?_⟩
  · have total : ∀ var, template.IsNamed var →
        ∃ address, template.Gives parameters.entries var address := by
      rintro var ⟨name, here⟩
      obtain ⟨address, member⟩ := given name (Option.isSome_iff_exists.2 ⟨var, here⟩)
      exact ⟨address, name, member, here⟩
    refine ⟨⟨?_, ?_⟩, fun made generated => ?_⟩
    · rintro ⟨made, generated⟩
      have searched :=
        (Template.search_of_generated consistent built fullyNamed total generated).1
      exact ⟨[made], searched, List.cons_ne_nil made []⟩
    · rintro ⟨found, searched, nonempty⟩
      obtain ⟨made, member⟩ := List.exists_mem_of_ne_nil found nonempty
      have generated :=
        Template.generate_of_found consistent built fullyNamed total searched member
      exact ⟨made, congrArg Template.Generated.outcome generated⟩
    · obtain ⟨searched, idle⟩ :=
        Template.search_of_generated consistent built fullyNamed total generated
      exact ⟨searched, congrArg Template.Generated.changes idle,
        congrArg Prod.snd (Network.generate_of_idle idle)⟩
  · obtain ⟨_, _, valid, -⟩ := Template.generate_ok generated
    obtain ⟨whole, rfl, satisfies⟩ := Template.exists_match_of_generate consistent covers generated
    have store := Network.store_generate consistent covers generated
    have consistent' := Template.consistent_generate consistent template parameters
    rw [← store] at satisfies consistent'
    exact recurs_of_satisfying consistent' built fullyNamed valid satisfies
  · obtain ⟨valid, -⟩ := Template.search_ok searched
    obtain ⟨whole, rfl, satisfies⟩ :=
      Template.exists_match_of_search consistent covers searched member
    exact recurs_of_satisfying consistent built fullyNamed valid satisfies

/-- Two nodes, an edge from the first to the second, and an edge from the second to this edge. -/
def selfRelated : Session :=
  (start (.new 4 .manual) [.recorder 0]).run
    [.createNode .constantNode, .createNode .constantNode, .createEdgeIn 0 .membership ⟨1⟩ ⟨2⟩,
      .createEdgeIn 0 .constantDirected ⟨2⟩ ⟨3⟩]

/-- A template for the target of a given edge that is also a relation of this edge. -/
def ownTarget : Template :=
  .ofClauses [.withRelation (.fixed ⟨1⟩) (.fixed ⟨3⟩) ((Template.Item.typed .node).named "target")
    ((Template.Item.typed .directed).named "relates") (.reference "target")]

/-- The second node as the target, and the edge that was made last as the relation. -/
def ownTargetInstance : Instance where
  names := [("target", ⟨2⟩), ("relates", ⟨4⟩)]
  triples := [⟨⟨1⟩, ⟨3⟩, ⟨2⟩⟩, ⟨⟨2⟩, ⟨4⟩, ⟨3⟩⟩]

/-- The second node is such a target, and the network stays as it is. -/
theorem agrees_ownTarget :
    selfRelated.network.store.Reachable ∧ ownTarget.IsBuilt ∧ ownTarget.IsFullyNamed ∧
      (selfRelated.network.generate ownTarget ownTargetInstance.assignment).1 =
        .ok ownTargetInstance ∧
      ownTarget.search selfRelated.network.store ownTargetInstance.assignment =
        .ok [ownTargetInstance] ∧
      (selfRelated.network.generate ownTarget ownTargetInstance.assignment).2 =
        selfRelated.network ∧
      selfRelated.Recurs ownTarget ownTargetInstance := by
  have reachable : selfRelated.network.store.Reachable := ⟨_, _, _, rfl⟩
  have built : ownTarget.IsBuilt := ⟨_, rfl⟩
  have fullyNamed : ownTarget.IsFullyNamed := by
    have checked : ∀ slot ∈ ownTarget.slots, slot.var = some 0 ∨ slot.var = some 2 ∨
        slot.constraint ∈ [.fixed ⟨1⟩, .fixed ⟨3⟩, .any] := by
      decide +kernel
    intro slot member type typed
    obtain first | second | untyped := checked slot member
    · exact ⟨0, first, "target", rfl⟩
    · exact ⟨2, second, "relates", rfl⟩
    · rw [typed] at untyped
      simp at untyped
  have given : ∀ name, ownTarget.hasName name = true →
      ∃ address, (name, address) ∈ ownTargetInstance.assignment.entries := by
    intro name known
    have listed : ∃ entry ∈ ownTarget.names, (entry.1 == name) = true := by
      rwa [Template.hasName, Template.varNamed?, Option.isSome_map, List.find?_isSome] at known
    obtain ⟨entry, member, same⟩ := listed
    rw [← beq_iff_eq.1 same]
    obtain rfl | rest := List.mem_cons.1 member
    · exact ⟨⟨2⟩, List.mem_cons_self⟩
    · rw [List.mem_singleton.1 rest]
      exact ⟨⟨4⟩, List.mem_cons_of_mem _ List.mem_cons_self⟩
  have generated : (selfRelated.network.generate ownTarget ownTargetInstance.assignment).1 =
      .ok ownTargetInstance := by
    rfl
  obtain ⟨agrees, -, recurs⟩ := agrees_when_named reachable built fullyNamed
  obtain ⟨-, generates⟩ := agrees ownTargetInstance.assignment given
  obtain ⟨searched, -, same⟩ := generates ownTargetInstance generated
  exact ⟨reachable, built, fullyNamed, generated, searched, same,
    recurs _ _ searched _ List.mem_cons_self⟩

end Session

end SemanticNetwork
