/-
**Naming that is refused.** Naming takes several operations, any of which may be refused: observers
may erase the link as soon as it is written, and the relation may be missing. What came before the
refusal is undone, with all that the observers do about that, and the network is as it was.

* `IsTracking`: a network that is tended, in which tracked links were created;
* `attach_cases`: **a label is attached, or the network is as it was**, whoever observes it;
* `restored_of_assign`, `restored_of_resolve`: so **a refused request leaves the network as it was**;
* `assign_ok`, `resolve_ok`: what a granted request does.
-/
import SemanticNetwork.Proofs.Memory.Attaching
import SemanticNetwork.Proofs.Network.Restoring

namespace SemanticNetwork.Naming

open Network (Restored Grown)

/-- **A network that keeps track of links**: it is tended, and the addresses of tracked links were handed
out. -/
structure IsTracking (network : Network) : Prop where
  consistent : network.store.Consistent
  tended : network.IsTended
  handedOut : ∀ link ∈ network.identifierLinks, network.store.HandedOut link

variable {relation element : Address} {network before between after : Network}
  {identifier : String} {label : Label} {error : MemoryError}

namespace IsTracking

/-- The next link is not tracked yet. -/
theorem untracked (tracking : IsTracking network) :
    network.store.nextAddress ∉ network.identifierLinks := fun tracked =>
  Nat.not_succ_le_self _ (tracking.handedOut _ tracked).2

theorem of_fewer (tracking : IsTracking before) (consistent : after.store.Consistent)
    (tended : after.IsTended)
    (fewer : ∀ link ∈ after.identifierLinks, link ∈ before.identifierLinks)
    (allocated : before.store.allocated ≤ after.store.allocated) : IsTracking after where
  consistent := consistent
  tended := tended
  handedOut link tracked :=
    have handedOut := tracking.handedOut link (fewer link tracked)
    ⟨handedOut.1, Nat.le_trans handedOut.2 allocated⟩

theorem restored (tracking : IsTracking before) (restored : before.Restored after) :
    IsTracking after :=
  tracking.of_fewer (restored.consistent tracking.consistent)
    (tracking.tended.congr restored.observers) (fun _ tracked => restored.identifierLinks ▸ tracked)
    restored.allocated

theorem attached (tracking : IsTracking before) (attached : Attached relation before label after) :
    IsTracking after where
  consistent := attached.consistent
  tended := tracking.tended.congr attached.observers
  handedOut link tracked := by
    have allocated := attached.allocated_le
    rw [attached.links, List.mem_append, List.mem_singleton] at tracked
    rcases tracked with old | rfl
    · exact (attached.precedes.handedOut (tracking.handedOut link old)).1
    · unfold Store.HandedOut
      rw [attached.link]
      omega

end IsTracking

/-- A link that was tracked last is forgotten. -/
theorem forget_last {links : List Address} {link : Address} (untracked : link ∉ links) :
    (links ++ [link]).filter (· != link) = links := by
  rw [List.filter_append, List.filter_eq_self.2, List.filter_eq_nil_iff.2, List.append_nil]
  · simp
  · rintro other member
    simpa using fun same : other = link => untracked (same ▸ member)

/-- Where the link of a label is gone, the rest is as it was; forgetting the link is undoing all. -/
theorem restored_of_gone (tracking : IsTracking before) (written : Written before identifier between)
    (consistent : after.store.Consistent) (observers : after.observers = between.observers)
    (links : after.identifierLinks = between.identifierLinks)
    (allocated : between.store.allocated ≤ after.store.allocated)
    (gone : ∀ address, after.store.get? address =
      if address = before.store.nextAddress then none else between.store.get? address) :
    before.Restored ((after.forgetLink before.store.nextAddress).erase before.store.nextAddress) := by
  have missing : after.store.get? before.store.nextAddress = none := by rw [gone, if_pos rfl]
  have idle : (after.forgetLink before.store.nextAddress).erase before.store.nextAddress =
      after.forgetLink before.store.nextAddress := by
    unfold Network.erase Network.tryErase
    have nothing : (after.forgetLink before.store.nextAddress).store.erase
        before.store.nextAddress = .none after.store := Store.erase_of_missing missing
    rw [nothing]
    exact Network.publish_nil _
  rw [idle]
  refine .of_get? tracking.consistent consistent (fun address => ?_) ?_
    (observers.trans written.observers) ?_
  · show after.store.get? address = _
    rw [gone, written.get?]
    split
    · rw [‹address = _›, tracking.consistent.get?_nextAddress]
    · rfl
  · show _ ≤ after.store.allocated
    rw [written.allocated] at allocated
    omega
  · show after.identifierLinks.filter _ = _
    rw [links, written.links, forget_last tracking.untracked]

/-- A link with its naming edge goes again, and with them goes nothing else. -/
theorem restored_of_named (tracking : IsTracking before) (named : Named before element identifier between)
    {store : Store} (spends : between.store.Spends store) :
    before.Restored ((Network.forgetLink { between with store := store }
      before.store.nextAddress).erase before.store.nextAddress) := by
  have links : between.identifierLinks.filter (· != before.store.nextAddress) =
      before.identifierLinks := by rw [named.links, forget_last tracking.untracked]
  have same : ∀ address, store.get? address = between.store.get? address := fun address =>
    congrArg (fun elements : AddressMap Element => elements.get? address) spends.elements
  have apart : before.store.nextAddress ≠ edgeFor before.store.nextAddress := fun same =>
    absurd (congrArg Address.value same) (Nat.ne_of_lt (Nat.lt_succ_self _))
  have linkFound : store.get? before.store.nextAddress =
      some ⟨before.store.nextAddress, .constantLink, .link (some (.text identifier))⟩ := by
    rw [same, named.get?, if_neg apart, if_pos rfl]
  have edgeFound : store.get? (edgeFor before.store.nextAddress) =
      some ⟨edgeFor before.store.nextAddress, .constantDirected,
        .edge element before.store.nextAddress⟩ := by
    rw [same, named.get?, if_pos rfl]
  have grown : Grown before {before.store.nextAddress, edgeFor before.store.nextAddress}
      (Network.forgetLink { between with store := store } before.store.nextAddress) :=
    { consistent := spends.consistent named.consistent
      tended := tracking.tended.congr named.observers
      observers := named.observers
      identifierLinks := links
      allocated := by
        have precedes := spends.precedes.allocated
        rw [named.allocated] at precedes
        exact Nat.le_trans (Nat.le_add_right _ 2) precedes
      same := fun address elsewhere => by
        obtain ⟨notLink, notEdge⟩ : address ≠ before.store.nextAddress ∧
          address ≠ edgeFor before.store.nextAddress := not_or.1 elsewhere
        show store.get? address = _
        rw [same, named.get?, if_neg notEdge, if_neg notLink]
      fresh := by
        rintro address (rfl | rfl)
        · exact tracking.consistent.get?_nextAddress
        · exact tracking.consistent.get?_of_newer (Nat.lt_succ_of_lt (Nat.lt_succ_self _)) }
  refine grown.restored_erase tracking.consistent (Store.contains_of_get? linkFound) (.inl rfl) ?_ ?_
  · rintro set closed inside address (rfl | rfl)
    · exact inside
    · exact closed edgeFound (.inr inside)
  · rintro edge (rfl | rfl) source link found tracked
    · cases linkFound.symm.trans found
    · cases edgeFound.symm.trans found
      exact tracking.untracked (links ▸ tracked)

/-- No edge is at a link that was just written. -/
theorem Written.alone (written : Written before identifier after) (consistent : before.store.Consistent)
    {edge source target : Address} {type : ElementType}
    (found : after.store.get? edge = some ⟨edge, type, .edge source target⟩) :
    source ≠ before.store.nextAddress ∧ target ≠ before.store.nextAddress := by
  rw [written.get?] at found
  split at found
  · cases found
  · obtain ⟨sourceThere, targetThere⟩ := consistent.anchored found List.not_mem_nil
    have missing := Store.not_contains_iff.2 consistent.get?_nextAddress
    exact ⟨fun same => missing (same ▸ sourceThere), fun same => missing (same ▸ targetThere)⟩

/-- Once the link is written, all goes well, or the network is as it was in the end. -/
theorem fill_cases (tracking : IsTracking before) (written : Written before identifier between)
    (there : before.store.contains element = true) (relation : Address) :
    ∃ named, (Network.createEdge .constantDirected element before.store.nextAddress).run between =
        .ok (edgeFor before.store.nextAddress) named ∧
      ((∃ membership after label,
        (Network.createEdge .membership relation (edgeFor before.store.nextAddress)).run named =
          .ok membership after ∧
        label.element = element ∧ label.identifier = identifier ∧
        Attached relation before label after) ∨
      ∃ error after,
        (Network.createEdge .membership relation (edgeFor before.store.nextAddress)).run named =
          .error error after ∧
        before.Restored ((after.forgetLink before.store.nextAddress).erase
          before.store.nextAddress)) := by
  obtain ⟨named, ran, isNamed⟩ := written.exists_named there
  refine ⟨named, ran, ?_⟩
  by_cases relationThere : named.store.contains relation = true
  · exact .inl (isNamed.exists_attached relationThere)
  · rw [Network.run_createEdge]
    cases refused : (Store.createEdge .membership relation
        (edgeFor before.store.nextAddress)).run named.store with
    | ok membership store => exact absurd (Store.createEdge_ok refused).1.2.1 relationThere
    | error error store =>
      exact .inr ⟨error, _, rfl, restored_of_named tracking isNamed (Store.createEdge_error refused)⟩

/-- **A label is attached, or the network is as it was**, whoever observes it and whatever has become of
the relation. -/
theorem attach_cases (tracking : IsTracking network) (there : network.store.contains element = true)
    (relation : Address) (identifier : String) :
    (∃ after label, (attach relation element identifier).run network = .ok () after ∧
      label.element = element ∧ label.identifier = identifier ∧
      Attached relation network label after) ∨
    ∃ error after, (attach relation element identifier).run network = .error error after ∧
      network.Restored after := by
  have consistent := tracking.consistent
  have held := written_withLink consistent identifier
  have linkFound := (held.get? network.store.nextAddress).trans (if_pos rfl)
  obtain ⟨observers, links, heardConsistent, allocated, same | gone⟩ :=
    Network.given_cases held.consistent (tracking.tended.congr rfl) linkFound (held.alone consistent)
  all_goals
    rw [run_attach_withLink, run_fillLink, Network.run_setPayload,
      Store.run_setPayload_of_link (consistent_withLink consistent)
        (adds_withLink network).get?_self rfl]
    dsimp only
  · obtain ⟨named, ranEdge, rest⟩ :=
      fill_cases tracking (held.of_alike ⟨same, observers, links⟩) there relation
    rw [ranEdge]
    dsimp only
    rcases rest with ⟨membership, after, label, ran, attached⟩ | ⟨error, after, refused, restored⟩
    · rw [ran]
      exact .inl ⟨after, label, rfl, attached⟩
    · rw [refused]
      exact .inr ⟨.store error, _, rfl, restored⟩
  · -- The naming edge has nowhere to lead.
    rw [Network.run_createEdge]
    generalize heard : Network.publish _ _ = after at *
    cases refused : (Store.createEdge .constantDirected element
        network.store.nextAddress).run after.store with
    | ok edge store =>
      have linkThere := (Store.createEdge_ok refused).1.2.2
      exact absurd linkThere (Store.not_contains_iff.2 ((gone _).trans (if_pos rfl)))
    | error error store =>
      have spends := Store.createEdge_error refused
      refine .inr ⟨.store error, _, rfl, restored_of_gone tracking held
        (spends.consistent heardConsistent) observers links ?_ fun address => ?_⟩
      · exact allocated ▸ spends.precedes.allocated
      · rw [← gone]
        exact congrArg (fun elements : AddressMap Element => elements.get? address) spends.elements

/-! ### Requests -/

/-- **An identifier that is refused leaves the network as it was.** -/
theorem restored_of_assign (tracking : IsTracking network)
    (refused : (assign relation identifier element).run network = .error error after) :
    network.Restored after := by
  rw [run_assign] at refused
  split at refused
  · cases refused
    exact .refl _
  split at refused
  · cases refused
    exact .refl _
  rename_i there
  split at refused
  · split at refused <;> cases refused
    exact .refl _
  · split at refused
    · cases refused
    · rename_i attempted
      cases refused
      rcases attach_cases tracking (Bool.not_eq_false _ ▸ there) relation identifier with
        ⟨_, _, ran, -⟩ | ⟨_, _, ran, restored⟩ <;> cases attempted.symm.trans ran
      exact restored

/-- An element keeps an identifier that it has, or a label is attached to it and its former links go. -/
theorem assign_ok (tracking : IsTracking network)
    (ran : (assign relation identifier element).run network = .ok () after) :
    network.store.contains element = true ∧ (after = network ∨
      ∃ between label, label.element = element ∧ label.identifier = identifier ∧
        Attached relation network label between ∧
        after = (linksOf network.store relation element).foldl Network.erase between) := by
  rw [run_assign] at ran
  split at ran
  · cases ran
  split at ran
  · cases ran
  rename_i notMissing
  have there : network.store.contains element = true := Bool.not_eq_false _ ▸ notMissing
  refine ⟨there, ?_⟩
  split at ran
  · split at ran <;> cases ran
    exact .inl rfl
  · split at ran
    · rename_i attempted
      cases ran
      rcases attach_cases tracking there relation identifier with
        ⟨between, label, ran, sameElement, sameIdentifier, attached⟩ | ⟨_, _, ran, -⟩ <;>
        cases attempted.symm.trans ran
      exact .inr ⟨_, label, sameElement, sameIdentifier, attached, rfl⟩
    · cases ran

/-- A new node goes again. -/
theorem restored_of_created (tracking : IsTracking before) {type : ElementType}
    (adds : before.store.Adds ⟨element, type, .node⟩ between.store)
    (consistent : between.store.Consistent) (observers : between.observers = before.observers)
    (links : between.identifierLinks = before.identifierLinks) (restored : between.Restored after) :
    before.Restored (after.erase element) := by
  have next : element = before.store.nextAddress := adds.address
  have found : after.store.get? element = some ⟨element, type, .node⟩ :=
    (restored.get? _).trans adds.get?_self
  have grown : Grown before {element} after :=
    { consistent := restored.consistent consistent
      tended := (tracking.tended.congr observers).congr restored.observers
      observers := restored.observers.trans observers
      identifierLinks := restored.identifierLinks.trans links
      allocated := Nat.le_trans (adds.allocated ▸ Nat.le_succ _) restored.allocated
      same := fun address elsewhere => by
        rw [restored.get?, adds.get?_eq]
        exact if_neg elsewhere
      fresh := fun address same => by
        rw [Set.mem_singleton_iff.1 same, next]
        exact tracking.consistent.get?_nextAddress }
  refine grown.restored_erase tracking.consistent (Store.contains_of_get? found) rfl ?_ ?_
  · rintro set - inside address rfl
    exact inside
  · rintro edge rfl source link found'
    cases found.symm.trans found'

/-- What a new node leaves alone. -/
theorem created_ok {type : ElementType}
    (ran : (Network.createNode type).run network = .ok element after) :
    network.store.Adds ⟨element, type.union .node, .node⟩ after.store ∧
      after.observers = network.observers ∧ after.identifierLinks = network.identifierLinks := by
  rw [Network.createNode, Network.run_onStore] at ran
  split at ran <;> cases ran
  exact ⟨(Store.createNode_ok ‹_›).2.2, rfl, rfl⟩

theorem IsTracking.createNode (tracking : IsTracking network) {type : ElementType}
    (ran : (Network.createNode type).run network = .ok element after) : IsTracking after := by
  obtain ⟨adds, observers, links⟩ := created_ok ran
  have keeps : Keeps (Network.Has Store.Consistent) (Network.createNode type) :=
    (Network.stable_has Store.stable_consistent).steady.keeps_createNode type
  exact tracking.of_fewer (keeps.ok tracking.consistent ran) (tracking.tended.congr observers)
    (fun _ tracked => links ▸ tracked) (adds.allocated ▸ Nat.le_succ _)

/-- **A node that is refused leaves the network as it was.** -/
theorem restored_of_createNamed (tracking : IsTracking network) {type : ElementType}
    (refused : (createNamed relation identifier type).run network = .error error after) :
    network.Restored after := by
  rw [run_createNamed] at refused
  split at refused
  · cases refused
    exact .refl _
  split at refused
  · rename_i failed
    cases refused
    rw [Network.createNode, Network.run_onStore] at failed
    split at failed <;> cases failed
    exact .of_spends (Store.createNode_error ‹_›)
  · rename_i created
    split at refused
    · cases refused
    · rename_i failed
      cases refused
      have between := tracking.createNode created
      obtain ⟨adds, observers, links⟩ := created_ok created
      exact restored_of_created tracking adds between.consistent observers links
        (restored_of_assign between failed)

/-- **A refused request for the element of an identifier leaves the network as it was.** -/
theorem restored_of_resolve (tracking : IsTracking network) {type? : Option ElementType}
    (refused : (resolve relation identifier type?).run network = .error error after) :
    network.Restored after := by
  rw [run_resolve] at refused
  split at refused
  · cases refused
  · cases refused
  · split at refused <;> cases refused
    exact restored_of_createNamed tracking ‹_›

/-- There is an element, or none is asked for, or a node is created and gets the identifier. -/
theorem resolve_ok {type? : Option ElementType} {answer : Option Address}
    (ran : (resolve relation identifier type?).run network = .ok answer after) :
    after = network ∨ ∃ type element between, type? = some type ∧ answer = some element ∧
      (Network.createNode type).run network = .ok element between ∧
      (assign relation identifier element).run between = .ok () after := by
  rw [run_resolve] at ran
  split at ran
  · cases ran
    exact .inl rfl
  · cases ran
    exact .inl rfl
  · split at ran
    · rename_i named
      cases ran
      rw [run_createNamed] at named
      split at named
      · cases named
      split at named
      · cases named
      · split at named <;> cases named
        exact .inr ⟨_, _, _, rfl, rfl, ‹_›, ‹_›⟩
    · cases ran

end SemanticNetwork.Naming
