/-
**Structures as patterns in a network.** A structure can be written down as a template, and the
template generated again. That clones the variables among its members: constants stay what they are,
and new elements take the places of the variables.

* `generate_ofStructure_clones`: **when a structure can be cloned, and what its clone is**.
-/
import SemanticNetwork.Proofs.Network.Generation
import SemanticNetwork.Proofs.Template.Cloning

namespace SemanticNetwork.Network

open Template

variable {network : Network} {template : Template} {structureNode : Address}

/-- **Generating the template of a structure clones its variables.** If their types are consistent, a
generation succeeds just when no constant edge among the members has a variable end. Otherwise it is
refused for an edge that does not connect its ends, and the network is left as it is. If it succeeds,
constants stay what they are, every variable that occurs becomes a new element of its type, edges
connect what their ends become, and nothing else is made. -/
theorem generate_ofStructure_clones (reachable : network.store.Reachable)
    (built : ofStructure network.store structureNode = .ok template)
    (sound : HasSoundVariables network.store
      (occurring (memberRows network.store structureNode))) :
    ((∃ made, (network.generate template .empty).1 = .ok made) ↔
      ∀ edge source target, network.store.HasMember structureNode edge →
        network.store.ends? edge = some (source, target) → ¬ network.store.IsVariable edge →
          ¬ network.store.IsVariable source ∧ ¬ network.store.IsVariable target) ∧
    (∀ error, (network.generate template .empty).1 = .error error →
      (network.generate template .empty).2 = network ∧
        ∃ row ∈ memberRows network.store structureNode, ¬ IsMakeable network.store row ∧
          error = .endpointMismatch row.edge (foreseenAddress network.store row.source)
            (foreseenAddress network.store row.target)) ∧
    ∀ made, (network.generate template .empty).1 = .ok made →
      ∃ image, Clones network.store (memberRows network.store structureNode) image made
        (network.generate template .empty).2.store := by
  have consistent := reachable.consistent
  have covers := (isBuilt_ofStructure built).covers
  obtain ⟨-, closed, notEmpty, same⟩ := (ofStructure_eq_ok_iff consistent).1 built
  have inOrder := inOrder_memberRows consistent closed
  have there := fun row (inRows : row ∈ memberRows network.store structureNode) =>
    (older_of_mem_memberRows consistent inRows).1
  have valid := validate_reconstruct consistent notEmpty there sound
  have makeable : (∀ row ∈ memberRows network.store structureNode, IsMakeable network.store row) ↔
      ∀ edge source target, network.store.HasMember structureNode edge →
        network.store.ends? edge = some (source, target) → ¬ network.store.IsVariable edge →
          ¬ network.store.IsVariable source ∧ ¬ network.store.IsVariable target := by
    simp only [mem_memberRows_iff consistent]
    constructor
    · intro all edge source target hasMember ends
      exact all ⟨source, edge, target⟩ ⟨hasMember, ends⟩
    · intro all row ⟨hasMember, ends⟩
      exact all row.edge row.source row.target hasMember ends
  subst same
  rw [← makeable]
  have refused : ∀ row, (memberRows network.store structureNode).find?
      (fun row => !decide (IsMakeable network.store row)) = some row →
        network.generate (reconstruct network.store
          (memberRows network.store structureNode)) .empty =
            (.error (mismatch network.store row), network) := by
    intro row first
    unfold generate
    rw [generate_of_not_makeable consistent valid sound inOrder first]
    exact congrArg _ (publish_nil network)
  cases first : (memberRows network.store structureNode).find?
      (fun row => !decide (IsMakeable network.store row)) with
  | none =>
    have all : ∀ row ∈ memberRows network.store structureNode, IsMakeable network.store row := by
      intro row inRows
      simpa using List.find?_eq_none.1 first row inRows
    obtain ⟨made, generated⟩ :=
      exists_generate_of_makeable consistent covers valid sound inOrder all
    refine ⟨iff_of_true ⟨made, generated⟩ all, fun error failed => ?_, fun made generated => ?_⟩
    · have impossible := generated.symm.trans failed
      cases impossible
    · obtain ⟨image, clones⟩ :=
        clones_of_generate consistent covers inOrder generated
      rw [← store_generate consistent covers generated] at clones
      exact ⟨image, clones⟩
  | some row =>
    have outcome := refused row first
    have inRows := List.mem_of_find?_eq_some first
    have notMakeable : ¬ IsMakeable network.store row := by
      simpa using List.find?_some first
    rw [outcome]
    refine ⟨iff_of_false ?_ fun all => notMakeable (all row inRows), fun error failed => ?_, nofun⟩
    · intro ⟨made, succeeded⟩
      cases succeeded
    · cases failed
      exact ⟨rfl, row, inRows, notMakeable, rfl⟩

/-- The instance in which a new node and two new edges take the places of the variables. -/
def patternedInstance : Instance where
  names := [("_2", ⟨13⟩), ("_4", ⟨14⟩), ("_3", ⟨3⟩), ("_5", ⟨5⟩), ("_6", ⟨15⟩)]
  triples := [⟨⟨13⟩, ⟨14⟩, ⟨3⟩⟩, ⟨⟨3⟩, ⟨5⟩, ⟨3⟩⟩, ⟨⟨13⟩, ⟨15⟩, ⟨5⟩⟩]

/-- The variable node of a structure is cloned with its edges, and the edge between constants stays. -/
theorem generate_patterned_clones :
    patterned.store.Reachable ∧ ∃ template, ofStructure patterned.store ⟨1⟩ = .ok template ∧
      HasSoundVariables patterned.store (occurring (memberRows patterned.store ⟨1⟩)) ∧
      (patterned.generate template .empty).1 = .ok patternedInstance ∧
      ∃ image, Clones patterned.store (memberRows patterned.store ⟨1⟩) image patternedInstance
        (patterned.generate template .empty).2.store := by
  obtain ⟨-, -, clones⟩ := generate_ofStructure_clones reachable_patterned ofStructure_patterned
    hasSoundVariables_patterned
  have generated : (patterned.generate (reconstruct patterned.store
      (memberRows patterned.store ⟨1⟩)) .empty).1 = .ok patternedInstance := by decide +kernel
  exact ⟨reachable_patterned, _, ofStructure_patterned, hasSoundVariables_patterned, generated,
    clones patternedInstance generated⟩

end SemanticNetwork.Network
