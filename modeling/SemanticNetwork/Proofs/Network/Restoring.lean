/-
**Undoing.** What was created and goes again leaves a network as it was: the table, and with it every
index, and the tracked links. Only addresses are used up.

* `allocated_tell`, `exists_identifierLinks_tell`: telling hands out no address and tracks no link;
* `Restored`: a network as it was;
* `Grown`, `Grown.restored_erase`: **what came goes again**, if all of it hangs on what is erased and no
  edge among it could have named a tracked link;
* `given_cases`: hearing of the payload of a link at which there are no edges, the observers erase the
  link or nothing.
-/
import SemanticNetwork.Proofs.Network.Unravelling

namespace SemanticNetwork

/-- An erasure hands out no address. -/
theorem Store.allocated_cascade (store : Store) (waiting : List Address) :
    (store.cascade waiting).store.allocated = store.allocated := by
  fun_induction Store.cascade store waiting with
  | case1 store => rfl
  | case2 store address waiting missing hypothesis => exact hypothesis
  | case3 store address waiting element found struck rest hypothesis =>
    exact hypothesis.trans (Store.allocated_strike store address element)

theorem Store.allocated_erase (store : Store) (address : Address) :
    (store.erase address).store.allocated = store.allocated := by
  unfold Store.erase
  split
  · exact Store.allocated_cascade store [address]
  · rfl

namespace Network

variable {roots more : Set Address} {start network before between after : Network}
  {root link : Address}

/-! ### What telling leaves alone -/

theorem allocated_react (network : Network) (change : Change) (observer : Observer) :
    (network.react change observer).1.store.allocated = network.store.allocated := by
  unfold react
  split
  · rfl
  · rfl
  · split
    · exact Store.allocated_erase _ _
    · rfl
  · split
    · exact Store.allocated_erase _ _
    · rfl

/-- **Telling hands out no address.** -/
theorem allocated_tell (network : Network) (waiting : List (Change × Observer)) :
    (network.tell waiting).store.allocated = network.store.allocated := by
  fun_induction Network.tell network waiting with
  | case1 network => rfl
  | case2 network change observer waiting reaction hypothesis =>
    exact hypothesis.trans (allocated_react network change observer)

theorem allocated_erase (network : Network) (address : Address) :
    (network.erase address).store.allocated = network.store.allocated :=
  (allocated_tell _ _).trans (Store.allocated_erase _ _)

theorem exists_identifierLinks_react (network : Network) (change : Change) (observer : Observer) :
    ∃ keep : Address → Bool, (network.react change observer).1.identifierLinks =
      network.identifierLinks.filter keep := by
  have all : network.identifierLinks = network.identifierLinks.filter fun _ => true :=
    (List.filter_eq_self.2 fun _ _ => rfl).symm
  unfold react
  split
  · exact ⟨_, all⟩
  · exact ⟨_, all⟩
  · split
    · exact ⟨_, rfl⟩
    · exact ⟨_, all⟩
  · split
    · exact ⟨_, all⟩
    · exact ⟨_, all⟩

/-- **Telling tracks no link**: of the tracked links some may be forgotten. -/
theorem exists_identifierLinks_tell (network : Network) (waiting : List (Change × Observer)) :
    ∃ keep : Address → Bool,
      (network.tell waiting).identifierLinks = network.identifierLinks.filter keep := by
  fun_induction Network.tell network waiting with
  | case1 network => exact ⟨fun _ => true, (List.filter_eq_self.2 fun _ _ => rfl).symm⟩
  | case2 network change observer waiting reaction hypothesis =>
    obtain ⟨keep, filtered⟩ := exists_identifierLinks_react network change observer
    obtain ⟨keep', filtered'⟩ := hypothesis
    refine ⟨fun link => keep' link && keep link, ?_⟩
    rw [filtered', filtered, List.filter_filter]

theorem mem_of_mem_tell {waiting : List (Change × Observer)}
    (tracked : link ∈ (network.tell waiting).identifierLinks) : link ∈ network.identifierLinks := by
  obtain ⟨keep, filtered⟩ := exists_identifierLinks_tell network waiting
  exact (List.mem_filter.1 (filtered ▸ tracked)).1

theorem mem_of_mem_erase {address : Address}
    (tracked : link ∈ (network.erase address).identifierLinks) : link ∈ network.identifierLinks :=
  show link ∈ (network.eraseSilently address).1.identifierLinks from mem_of_mem_tell tracked

/-- If no edge is gone that could have named, no link is forgotten. -/
theorem Unravels.identifierLinks_eq {waiting : List (Change × Observer)}
    (unravels : Unravels roots start (network.tell waiting) [])
    (links : network.identifierLinks = start.identifierLinks)
    (intact : ∀ {edge source link}, link ∈ start.identifierLinks →
      start.store.get? edge = some ⟨edge, .constantDirected, .edge source link⟩ →
        (network.tell waiting).store.get? edge ≠ none) :
    (network.tell waiting).identifierLinks = start.identifierLinks := by
  obtain ⟨keep, filtered⟩ := exists_identifierLinks_tell network waiting
  rw [links] at filtered
  rw [filtered, List.filter_eq_self]
  intro link tracked
  have still := unravels.tracked_iff.2 ⟨tracked, fun found => intact tracked found⟩
  exact (List.mem_filter.1 (filtered ▸ still)).2

/-! ### Networks as they were -/

/-- **A network as it was**: its table, its indexes and its tracked links are those of before. -/
structure Restored (before after : Network) : Prop where
  store : after.store = { before.store with allocated := after.store.allocated }
  allocated : before.store.allocated ≤ after.store.allocated
  observers : after.observers = before.observers
  identifierLinks : after.identifierLinks = before.identifierLinks

namespace Restored

theorem refl (network : Network) : network.Restored network := ⟨rfl, Nat.le_refl _, rfl, rfl⟩

theorem get? (restored : before.Restored after) (address : Address) :
    after.store.get? address = before.store.get? address := by
  rw [restored.store]
  rfl

theorem of_spends {store : Store} (spends : network.store.Spends store) :
    network.Restored { network with store := store } := by
  rcases spends with rfl | rfl
  · exact .refl _
  · exact ⟨rfl, Nat.le_succ _, rfl, rfl⟩

theorem of_get? (consistent : before.store.Consistent) (consistent' : after.store.Consistent)
    (same : ∀ address, after.store.get? address = before.store.get? address)
    (allocated : before.store.allocated ≤ after.store.allocated)
    (observers : after.observers = before.observers)
    (identifierLinks : after.identifierLinks = before.identifierLinks) : before.Restored after where
  store := consistent'.eq_of_elements (consistent.allocate allocated) (KeyMap.ext_get? same) rfl
  allocated := allocated
  observers := observers
  identifierLinks := identifierLinks

theorem consistent (restored : before.Restored after) (consistent : before.store.Consistent) :
    after.store.Consistent := by
  rw [restored.store]
  exact Store.ConsistentBut.allocate consistent restored.allocated

theorem precedes (restored : before.Restored after) : before.store.Precedes after.store where
  allocated := restored.allocated
  old found _ := ⟨_, (restored.get? _).symm.trans found, rfl, rfl⟩

end Restored

/-! ### What came goes again -/

/-- A network with more elements than before. -/
structure Grown (before : Network) (more : Set Address) (after : Network) : Prop where
  consistent : after.store.Consistent
  tended : after.IsTended
  observers : after.observers = before.observers
  identifierLinks : after.identifierLinks = before.identifierLinks
  allocated : before.store.allocated ≤ after.store.allocated
  same : ∀ address ∉ more, after.store.get? address = before.store.get? address
  fresh : ∀ address ∈ more, before.store.get? address = none

namespace Grown

/-- No edge that was there before leads from or to what is new. -/
theorem isClosed (grown : Grown before more after) (consistent : before.store.Consistent) :
    after.store.IsClosed more := by
  intro edge type source target found atEnd
  by_contra old
  rw [grown.same edge old] at found
  obtain ⟨sourceThere, targetThere⟩ := consistent.anchored found List.not_mem_nil
  rcases atEnd with new | new
  · exact Store.not_contains_iff.2 (grown.fresh _ new) sourceThere
  · exact Store.not_contains_iff.2 (grown.fresh _ new) targetThere

/-- **What came goes again** when something is erased on which all of it hangs, and with it goes
nothing else, unless an edge among it could have named a tracked link. -/
theorem restored_erase (grown : Grown before more between) (consistent : before.store.Consistent)
    (there : between.store.contains root = true) (inside : root ∈ more)
    (hang : ∀ {set}, between.store.IsClosed set → root ∈ set → more ⊆ set)
    (unnamed : ∀ edge ∈ more, ∀ {source link},
      between.store.get? edge = some ⟨edge, .constantDirected, .edge source link⟩ →
        link ∉ between.identifierLinks) : before.Restored (between.erase root) := by
  have unravels := unravels_erase grown.consistent grown.tended root
  have least := isLeast_removed_erase grown.consistent grown.tended there
  have closed : between.IsClosed more :=
    ⟨grown.isClosed consistent, fun found tracked member => absurd tracked (unnamed _ member found)⟩
  have removed : between.store.removed (between.erase root).store = more :=
    Set.Subset.antisymm (least.2 ⟨inside, closed⟩) (hang least.1.2.edges least.1.1)
  refine .of_get? consistent unravels.consistent (fun address => ?_) ?_
    (unravels.observers.trans grown.observers) ?_
  · by_cases new : address ∈ more
    · exact (removed ▸ new : address ∈ between.store.removed _).2.trans (grown.fresh _ new).symm
    · rw [Store.get?_of_not_removed unravels.kept (removed ▸ new), grown.same _ new]
  · rw [allocated_erase]
    exact grown.allocated
  · refine (unravels.identifierLinks_eq rfl fun {edge source link} tracked found gone => ?_).trans
      grown.identifierLinks
    exact unnamed edge (removed ▸ ⟨Store.contains_of_get? found, gone⟩) found tracked

end Grown

/-! ### Hearing of a payload -/

/-- **Hearing of the payload of a link at which there are no edges, the observers erase the link or
nothing**, and they forget no link. -/
theorem given_cases (consistent : network.store.Consistent) (tended : network.IsTended)
    {payload : Option Payload} {type : ElementType}
    (found : network.store.get? link = some ⟨link, type, .link payload⟩)
    (alone : ∀ {edge type source target},
      network.store.get? edge = some ⟨edge, type, .edge source target⟩ →
        source ≠ link ∧ target ≠ link) :
    (network.publish [.payloadChanged link]).observers = network.observers ∧
    (network.publish [.payloadChanged link]).identifierLinks = network.identifierLinks ∧
    (network.publish [.payloadChanged link]).store.Consistent ∧
    (network.publish [.payloadChanged link]).store.allocated = network.store.allocated ∧
      ((network.publish [.payloadChanged link]).store = network.store ∨
        ∀ address, (network.publish [.payloadChanged link]).store.get? address =
          if address = link then none else network.store.get? address) := by
  have unravels := unravels_given consistent tended link
  have closed : network.IsClosed {link} := by
    refine ⟨fun found' atEnd => ?_, fun found' tracked member => ?_⟩
    · exact absurd atEnd (not_or.2 ⟨(alone found').1, (alone found').2⟩)
    · rw [Set.mem_singleton_iff.1 member, found] at found'
      cases found'
  have removed : network.store.removed (network.publish [.payloadChanged link]).store ⊆ {link} :=
    unravels.bounded closed fun root member _ => member
  have elsewhere : ∀ {address}, address ≠ link →
      (network.publish [.payloadChanged link]).store.get? address = network.store.get? address :=
    fun apart => Store.get?_of_not_removed unravels.kept fun gone => apart (removed gone)
  have allocated := allocated_tell network (network.audience [.payloadChanged link])
  refine ⟨unravels.observers, ?_, unravels.consistent, allocated, ?_⟩
  · refine unravels.identifierLinks_eq rfl fun {edge source target} tracked found' gone => ?_
    have same : edge = link := removed ⟨Store.contains_of_get? found', gone⟩
    rw [same, found] at found'
    cases found'
  · cases there : (network.publish [.payloadChanged link]).store.get? link with
    | none =>
      refine .inr fun address => ?_
      split
      · exact ‹address = link› ▸ there
      · exact elsewhere ‹_›
    | some element =>
      refine .inl (unravels.consistent.eq_of_elements consistent (KeyMap.ext_get? fun address => ?_)
        allocated)
      by_cases same : address = link
      · rw [same]
        exact there.trans (unravels.kept there).symm
      · exact elsewhere same

end Network

end SemanticNetwork
