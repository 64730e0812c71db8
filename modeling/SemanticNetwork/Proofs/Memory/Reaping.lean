/-
**Links that are reaped.** An identifier link is erased when an edge into it is removed that is of the
type of naming edges, whether or not it is the naming edge. So a name can be lost through an edge that
names nothing: erasing such an edge is erasing the link.

* `Usage.run_reaps_link`: **with an edge that could name, the link goes**, in whatever state;
* `Naming.Entered.unravels`: where it is the only one, erasing such an edge is erasing the link;
* `Memory.IsOrderly.unnamed_of_entered`: **the element loses its identifier**, and no other that
  remains does.
-/
import SemanticNetwork.Proofs.Memory.Keeping
import SemanticNetwork.Proofs.Memory.Refinement

namespace SemanticNetwork

open Network (Unravels)

namespace Usage

/-- **With an edge that could name, the identifier link goes** that it leads to, whatever a memory was
asked for before, and with the link goes all that depends on it. Only observers who would erase more by
themselves may not have joined. -/
theorem run_reaps_link {settings : Settings} {memory : Memory}
    (started : Memory.start settings = .ok memory) {requests : List Request}
    (modest : ∀ observer, .call (.observe observer) ∈ requests → observer.IsModest)
    {edge source link : Address}
    (found : ((start memory).run requests).store.get? edge =
      some ⟨edge, .constantDirected, .edge source link⟩)
    (tracked : link ∈ ((start memory).run requests).memory.network.identifierLinks) :
    (((start memory).run requests).step (.call (.erase edge))).store.get? link = none ∧
      link ∉
        (((start memory).run requests).step (.call (.erase edge))).memory.network.identifierLinks ∧
      IsLeast {set | edge ∈ set ∧ ((start memory).run requests).memory.network.IsClosed set}
        (((start memory).run requests).store.removed
          (((start memory).run requests).step (.call (.erase edge))).store) := by
  have isNew : memory.IsNew := .inl ⟨settings, started⟩
  have consistent := isNew.consistent_run requests
  have tended := (isTracking_run started modest).tended
  obtain ⟨gone, untracked⟩ := Network.get?_link_of_erase consistent tended found tracked
  have least := Network.isLeast_removed_erase consistent tended (Store.contains_of_get? found)
  exact ⟨gone, untracked, least⟩

/-- A node gets an identifier, and another node is created. -/
def strangers : List Request :=
  [.call (.createNode .constantNode), .setIdentifier "alpha" ⟨5⟩, .call (.createNode .constantNode)]

/-- An edge leads from the other node into the identifier link. -/
def meddling : List Request := strangers ++ [.call (.createEdge .constantDirected ⟨9⟩ ⟨6⟩)]

/-- When that edge is erased, the link goes. -/
theorem run_meddling_reaps_link : Memory.start ⟨4, 100, .manual, []⟩ = .ok .plain ∧
    (∀ observer, .call (.observe observer) ∈ meddling → observer.IsModest) ∧
    ((start .plain).run meddling).store.get? ⟨10⟩ =
      some ⟨⟨10⟩, .constantDirected, .edge ⟨9⟩ ⟨6⟩⟩ ∧
    ⟨6⟩ ∈ ((start .plain).run meddling).memory.network.identifierLinks ∧
    (((start .plain).run meddling).step (.call (.erase ⟨10⟩))).store.get? ⟨6⟩ = none := by
  have modest : ∀ observer, .call (.observe observer) ∈ meddling → observer.IsModest := by
    simp [meddling, strangers]
  have found : ((start .plain).run meddling).store.get? ⟨10⟩ =
      some ⟨⟨10⟩, .constantDirected, .edge ⟨9⟩ ⟨6⟩⟩ := by decide +kernel
  have tracked : ⟨6⟩ ∈ ((start .plain).run meddling).memory.network.identifierLinks := by
    decide +kernel
  exact ⟨Memory.start_plain, modest, found, tracked,
    (run_reaps_link Memory.start_plain modest found tracked).1⟩

end Usage

namespace Naming

/-- **A network with one more edge that could name**, from some element into the link of a label. -/
structure Entered (before : Network) (label : Label) (edge source : Address) (after : Network) :
    Prop where
  consistent : after.store.Consistent
  observers : after.observers = before.observers
  links : after.identifierLinks = before.identifierLinks
  adds : before.store.Adds ⟨edge, .constantDirected, .edge source label.link⟩ after.store

variable {relation edge source : Address} {before between : Network} {label : Label}

namespace Entered

theorem missing (entered : Entered before label edge source between)
    (consistent : before.store.Consistent) : before.store.get? edge = none := by
  have next : edge = before.store.nextAddress := entered.adds.address
  rw [next]
  exact consistent.get?_nextAddress

theorem found (entered : Entered before label edge source between) :
    between.store.get? edge = some ⟨edge, .constantDirected, .edge source label.link⟩ :=
  entered.adds.get?_self

/-- What is there with the edge is the edge or was there before. -/
theorem get?_cases (entered : Entered before label edge source between) {address : Address}
    {element : Element} (there : between.store.get? address = some element) :
    address = edge ∧ element = ⟨edge, .constantDirected, .edge source label.link⟩ ∨
      before.store.get? address = some element := by
  rw [entered.adds.get?_eq] at there
  split at there
  · cases there
    exact .inl ⟨‹_›, rfl⟩
  · exact .inr there

/-- A set that is closed without the edge is closed with it, if the link is in the set. -/
theorem isClosed_insert (entered : Entered before label edge source between)
    (consistent : before.store.Consistent) {set : Set Address} (closed : before.IsClosed set)
    (inside : label.link ∈ set) : between.IsClosed (insert edge set) where
  edges {place type start target} found atEnd := by
    rcases entered.get?_cases found with ⟨same, -⟩ | old
    · exact .inl same
    · -- No edge that was there before starts or ends at the new one.
      obtain ⟨startThere, targetThere⟩ := consistent.anchored old List.not_mem_nil
      have apart : ∀ {address}, before.store.contains address = true → address ≠ edge := by
        rintro address there rfl
        exact Store.not_contains_iff.2 (entered.missing consistent) there
      refine .inr (closed.edges old (atEnd.imp ?_ ?_))
      · exact fun member => member.resolve_left (apart startThere)
      · exact fun member => member.resolve_left (apart targetThere)
  links {place start link} found tracked member := by
    rcases entered.get?_cases found with ⟨-, same⟩ | old
    · cases same
      exact .inr inside
    · rw [entered.links] at tracked
      refine .inr (closed.links old tracked (member.resolve_left ?_))
      rintro rfl
      rw [entered.missing consistent] at old
      cases old

theorem get?_link_of_erase (entered : Entered before label edge source between)
    (labelled : IsLabelled relation before) (stands : label.Stands relation before) :
    (between.erase edge).store.get? label.link = none :=
  (Network.get?_link_of_erase entered.consistent (labelled.tended.congr entered.observers) entered.found
    (entered.links ▸ stands.tracked)).1

/-- **Erasing an edge that could name is erasing the link** that it leads to. -/
theorem unravels (entered : Entered before label edge source between)
    (labelled : IsLabelled relation before) (stands : label.Stands relation before) :
    Unravels {label.link} before (between.erase edge) [] := by
  have unravels := Network.unravels_erase entered.consistent (labelled.tended.congr entered.observers) edge
  have linkGone := entered.get?_link_of_erase labelled stands
  have edgeGone := Network.get?_erase_self entered.consistent (Store.contains_of_get? entered.found)
  have edgeMissing := entered.missing labelled.consistent
  have stays : ∀ {address element}, before.store.get? address = some element →
      between.store.get? address = some element :=
    fun found => entered.adds.get?_of_get? labelled.consistent found
  -- The naming edge does not outlive its link.
  have namingGone : (between.erase edge).store.get? label.edge = none := by
    refine Option.eq_none_iff_forall_ne_some.2 fun element there => ?_
    cases (unravels.kept there).symm.trans (stays stands.edge)
    have anchored := (unravels.consistent.anchored there List.not_mem_nil).2
    exact Store.not_contains_iff.2 linkGone anchored
  exact {
    consistent := unravels.consistent
    observers := unravels.observers.trans entered.observers
    kept := fun {address element} found => by
      rcases entered.get?_cases (unravels.kept found) with ⟨rfl, -⟩ | old
      · rw [edgeGone] at found
        cases found
      · exact old
    bounded := fun {set} closed inside address gone => by
      have inSet := inside _ rfl ⟨Store.contains_of_get? stands.link, linkGone⟩
      have bounded := unravels.bounded (entered.isClosed_insert labelled.consistent closed inSet)
        fun root member _ => .inl member
      obtain ⟨element, found⟩ := Store.contains_iff.1 gone.1
      refine (bounded ⟨Store.contains_of_get? (stays found), gone.2⟩).resolve_left ?_
      rintro rfl
      rw [edgeMissing] at found
      cases found
    truthful := nofun
    given := nofun
    listening := nofun
    tracked := fun member => entered.links ▸ unravels.tracked member
    forgotten := fun {link} tracked missing => by
      obtain ⟨gone, place, start, found, placeGone⟩ :=
        unravels.forgotten (entered.links ▸ tracked) missing
      rcases entered.get?_cases found with ⟨rfl, same⟩ | old
      · cases same
        exact ⟨gone, label.edge, label.element, stands.edge, namingGone⟩
      · exact ⟨gone, place, start, old, placeGone⟩
    pending := fun found tracked gone =>
      absurd (unravels.pending (stays found) tracked gone) List.not_mem_nil }

end Entered

/-- An edge that could name can be created from any element into the link of a label. -/
theorem exists_entered (labelled : IsLabelled relation before) (stands : label.Stands relation before)
    (there : before.store.contains source = true) :
    ∃ between, (Network.createEdge .constantDirected source label.link).run before =
        .ok before.store.nextAddress between ∧
      Entered before label before.store.nextAddress source between := by
  obtain ⟨between, ran, consistent, observers, links, adds⟩ := Network.exists_createEdge
    labelled.consistent (show ElementType.constantDirected.isEdgeType = true by decide) there
    (Store.contains_of_get? stands.link)
  exact ⟨between, ran, consistent, observers, links, adds⟩

/-- The new edge names nothing. -/
theorem Entered.isNamingEdge_eq_false (entered : Entered before label edge source between)
    (consistent : before.store.Consistent) (there : before.store.contains label.link = true) :
    isNamingEdge between.store relation edge = false := by
  refine Bool.eq_false_iff.2 fun names => ?_
  obtain ⟨membership, type, found, -⟩ := (Store.isLinked_iff entered.consistent (by decide)).1 names
  have missing := Store.not_contains_iff.2 (entered.missing consistent)
  rcases entered.get?_cases found with ⟨-, same⟩ | old
  · cases same
    exact missing there
  · exact missing (consistent.anchored old List.not_mem_nil).2

end Naming

namespace Memory

variable {memory : Memory}

theorem createEdge_of_ran {type : ElementType} {source target edge : Address} {after : Network}
    (ran : (Network.createEdge type source target).run memory.network = .ok edge after) :
    memory.createEdge type source target = (edge, memory.withNetwork after) := by
  rw [createEdge, tryNetwork, ran]
  rfl

/-- **A name can be lost through an edge that names nothing**: wherever such an edge of the type of
naming edges is made to lead into the link, and is erased again, the element of the label loses its
identifier. It is still there, and whatever else remains keeps its identifier. -/
theorem IsOrderly.unnamed_of_entered (orderly : memory.IsOrderly) {label : Naming.Label}
    (stands : label.Stands memory.relation memory.network) {source : Address}
    (there : memory.store.contains source = true) :
    ∃ edge entered, memory.createEdge .constantDirected source label.link = (edge, entered) ∧
      Naming.isNamingEdge entered.store memory.relation edge = false ∧
      (entered.erase edge).2.store.get? label.link = none ∧
      (entered.erase edge).2.store.contains label.element = true ∧
      ((entered.erase edge).2.resolve label.identifier none).1 = .invalid ∧
      (entered.erase edge).2.identifierOf? =
        (Names.among memory.identifierOf? (entered.erase edge).2.store).without label.element := by
  have consistent := orderly.labelled.consistent
  obtain ⟨between, ran, entered⟩ := Naming.exists_entered orderly.labelled stands there
  have unravels := entered.unravels orderly.labelled stands
  have gone := entered.get?_link_of_erase orderly.labelled stands
  have unnames := orderly.labelled.unnames stands unravels gone
  have orderlyAfter : ((memory.withNetwork between).erase memory.store.nextAddress).2.IsOrderly :=
    unnames.isOrderly orderly
  have names : ((memory.withNetwork between).erase memory.store.nextAddress).2.identifierOf? =
      (Names.among memory.identifierOf? (between.erase memory.store.nextAddress).store).without
        label.element := identifierOf?_of_unnames orderly stands unnames
  refine ⟨_, _, createEdge_of_ran ran,
    entered.isNamingEdge_eq_false consistent (Store.contains_of_get? stands.link), gone,
    unnames.there, ?_, names⟩
  refine orderlyAfter.namedBy.resolve_eq_invalid_iff.2 fun other named => ?_
  rw [identifierOf?_eq_some_iff orderlyAfter] at named
  obtain ⟨elsewhere, -, former⟩ := (unnames.hasName_iff orderly stands).1 named
  exact elsewhere (Naming.IsOrderly.eq_of_hasName orderly former ⟨label, stands, rfl, rfl⟩)

theorem createEdge_snd (memory : Memory) (type : ElementType) (source target : Address) :
    (memory.createEdge type source target).2 =
      memory.withNetwork (memory.network.attempt (Network.createEdge type source target)) := by
  unfold createEdge tryNetwork Network.attempt
  cases (Network.createEdge type source target).run memory.network <;> rfl

/-- The memory in which an edge that names nothing leads into an identifier link. -/
def meddled : Memory := ((Usage.start .plain).run Usage.meddling).memory

/-- The node has its identifier by another edge than the one from the other node; still, it loses the
identifier when that one is erased. -/
theorem erase_meddled_unnames :
    (meddled.resolve "alpha" none).1 = ⟨5⟩ ∧ meddled.identifierOf? ⟨5⟩ = some "alpha" ∧
      meddled.store.get? ⟨6⟩ = some ⟨⟨6⟩, .constantLink, .link (some (.text "alpha"))⟩ ∧
      meddled.store.get? ⟨7⟩ = some ⟨⟨7⟩, .constantDirected, .edge ⟨5⟩ ⟨6⟩⟩ ∧
      meddled.store.get? ⟨10⟩ = some ⟨⟨10⟩, .constantDirected, .edge ⟨9⟩ ⟨6⟩⟩ ∧
      Naming.isNamingEdge meddled.store meddled.relation ⟨7⟩ = true ∧
      Naming.isNamingEdge meddled.store meddled.relation ⟨10⟩ = false ∧
      (meddled.erase ⟨10⟩).2.store.get? ⟨6⟩ = none ∧
      (meddled.erase ⟨10⟩).2.store.contains ⟨5⟩ = true ∧
      ((meddled.erase ⟨10⟩).2.resolve "alpha" none).1 = .invalid ∧
      (meddled.erase ⟨10⟩).2.identifierOf? ⟨5⟩ = none := by
  let named : Memory := ((Usage.start .plain).run Usage.strangers).memory
  have lawful : (Usage.start .plain).Lawful Usage.strangers := by
    have observers : Naming.HasPlainObservers
        ((Usage.start .plain).run [.call (.createNode .constantNode)]).memory.network :=
      Usage.hasPlainObservers_run start_plain rfl
    exact ⟨trivial, fun _ _ _ => observers.heeds "alpha", trivial, trivial⟩
  have orderly : named.IsOrderly :=
    (Usage.isOrderly_run (Usage.isOrderly_start start_plain) lawful).memory
  have stands : (⟨⟨5⟩, "alpha", ⟨6⟩, ⟨7⟩, ⟨8⟩⟩ : Naming.Label).Stands named.relation named.network :=
    ⟨by decide +kernel, by decide +kernel, by decide +kernel, by decide +kernel, by decide⟩
  have stranger : named.store.contains ⟨9⟩ = true := by decide +kernel
  obtain ⟨edge, entered, created, -, gone, there, unresolved, names⟩ :=
    orderly.unnamed_of_entered stands stranger
  have sameEdge : edge = ⟨10⟩ := (congrArg Prod.fst created).symm.trans (by decide +kernel)
  have sameMemory : entered = meddled := by
    rw [meddled, Usage.meddling, Usage.run_append]
    exact (congrArg Prod.snd created).symm.trans (createEdge_snd named .constantDirected ⟨9⟩ ⟨6⟩)
  subst sameEdge sameMemory
  refine ⟨by decide +kernel, by decide +kernel, by decide +kernel, by decide +kernel,
    by decide +kernel, by decide +kernel, by decide +kernel, gone, there, unresolved, ?_⟩
  rw [names]
  exact if_pos rfl

end Memory

end SemanticNetwork
