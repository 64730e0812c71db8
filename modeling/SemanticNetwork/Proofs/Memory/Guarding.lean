/-
**Identifier links and their naming edges.** The naming edge of a link is created right after it. As
long as the link is tracked it leads into it; when it goes, by whatever erasure, the reaper hears of
that and the link goes, too, before the operation is over. A rollback is no such operation: it is told
only in part.

* `IsGuarded`: every tracked link has its naming edge;
* `Minds`: what becomes of tracked links;
* `Minds.of_growth`, `Minds.of_unravels`, `Minds.of_attached`: what one operation does to them;
* `lasting_minds`, `respects_minds`: **every operation minds the tracked links**;
* `Usage.named_of_tracked`: only naming tracks a link, and makes its naming edge;
* `Usage.run_guards_links`: **a link does not outlive its naming edge**, and telling ends.
-/
import SemanticNetwork.Proofs.Memory.Keeping

namespace SemanticNetwork.Naming

open Network (Unravels Lasting onStore)

/-- **Every tracked link has its naming edge**, which was created right after it. -/
structure IsGuarded (network : Network) : Prop where
  tracking : IsTracking network
  edge : ∀ link ∈ network.identifierLinks, ∃ element, network.store.get? (edgeFor link) =
    some ⟨edgeFor link, .constantDirected, .edge element link⟩

/-- **What becomes of tracked links**: those that are no longer tracked are gone, and those that are
tracked now and were not are new. -/
structure Minds (before after : Network) : Prop where
  guarded : IsGuarded after
  precedes : before.store.Precedes after.store
  lost : ∀ link ∈ before.identifierLinks, link ∉ after.identifierLinks →
    after.store.get? link = none
  gained : ∀ link ∈ after.identifierLinks, link ∉ before.identifierLinks →
    before.store.allocated < link.value

variable {relation : Address} {start before between after network : Network} {roots : Set Address}
  {label : Label} {link : Address}

theorem IsGuarded.of_bare (tracking : IsTracking network) (none : network.identifierLinks = []) :
    IsGuarded network :=
  ⟨tracking, fun link tracked => by rw [none] at tracked; cases tracked⟩

theorem IsGuarded.contains (guarded : IsGuarded network) (tracked : link ∈ network.identifierLinks) :
    network.store.contains link = true := by
  obtain ⟨element, found⟩ := guarded.edge link tracked
  exact (guarded.tracking.consistent.anchored found List.not_mem_nil).2

namespace Minds

theorem refl (guarded : IsGuarded network) : Minds network network where
  guarded := guarded
  precedes := .refl _
  lost _ tracked missing := absurd tracked missing
  gained _ tracked missing := absurd tracked missing

theorem trans (guarded : IsGuarded before) (first : Minds before between)
    (second : Minds between after) : Minds before after where
  guarded := second.guarded
  precedes := first.precedes.trans second.precedes
  lost link tracked missing := by
    by_cases still : link ∈ between.identifierLinks
    · exact second.lost link still missing
    · -- What is gone does not come back.
      have handedOut := first.precedes.handedOut (guarded.tracking.handedOut link tracked)
      exact second.precedes.get?_eq_none handedOut.1 (first.lost link tracked still)
  gained link tracked missing := by
    by_cases already : link ∈ between.identifierLinks
    · exact first.gained link already missing
    · exact Nat.lt_of_le_of_lt first.precedes.allocated (second.gained link tracked already)

/-- Where the same links are tracked, only their naming edges have to stay. -/
theorem of_edges (guarded : IsGuarded before) (consistent : after.store.Consistent)
    (tended : after.IsTended) (precedes : before.store.Precedes after.store)
    (links : after.identifierLinks = before.identifierLinks)
    (edges : ∀ {edge type source target},
      before.store.get? edge = some ⟨edge, type, .edge source target⟩ →
        after.store.get? edge = some ⟨edge, type, .edge source target⟩) : Minds before after where
  guarded := by
    refine ⟨guarded.tracking.of_fewer consistent tended (fun _ tracked => links ▸ tracked)
      precedes.allocated, fun link tracked => ?_⟩
    obtain ⟨element, found⟩ := guarded.edge link (links ▸ tracked)
    exact ⟨element, edges found⟩
  precedes := precedes
  lost _ tracked missing := absurd (links ▸ tracked) missing
  gained _ tracked missing := absurd (links ▸ tracked) missing

theorem of_alike (guarded : IsGuarded before) (alike : before.Alike after) : Minds before after :=
  .of_edges guarded (alike.store ▸ guarded.tracking.consistent)
    (guarded.tracking.tended.congr alike.observers) (alike.store ▸ .refl _) alike.identifierLinks
    fun found => alike.store ▸ found

theorem of_restored (guarded : IsGuarded before) (restored : before.Restored after) :
    Minds before after :=
  .of_edges guarded (restored.consistent guarded.tracking.consistent)
    (guarded.tracking.tended.congr restored.observers) restored.precedes restored.identifierLinks
    fun found => (restored.get? _).trans found

/-- Elements may be added and links written. -/
theorem of_growth (guarded : IsGuarded network) {store : Store} (consistent : store.Consistent)
    (precedes : network.store.Precedes store)
    (edges : ∀ {edge type source target},
      network.store.get? edge = some ⟨edge, type, .edge source target⟩ →
        store.get? edge = some ⟨edge, type, .edge source target⟩) :
    Minds network { network with store := store } :=
  .of_edges guarded consistent (guarded.tracking.tended.congr rfl) precedes rfl edges

/-- **When everything was told of an erasure**, a link is still tracked if its naming edge is there, and
else it is gone. -/
theorem of_unravels (guarded : IsGuarded before) (precedes : before.store.Precedes after.store)
    (unravels : Unravels roots before after []) : Minds before after where
  guarded := by
    refine ⟨guarded.tracking.of_fewer unravels.consistent
      (guarded.tracking.tended.congr unravels.observers) (fun _ => unravels.tracked) precedes.allocated,
      fun link tracked => ?_⟩
    obtain ⟨tracked, intact⟩ := unravels.tracked_iff.1 tracked
    obtain ⟨element, found⟩ := guarded.edge link tracked
    obtain ⟨edge, there⟩ := Option.ne_none_iff_exists'.1 (intact found)
    cases (unravels.kept there).symm.trans found
    exact ⟨element, there⟩
  precedes := precedes
  lost _ tracked missing := (unravels.forgotten tracked missing).1
  gained _ tracked missing := absurd (unravels.tracked tracked) missing

theorem of_attached (guarded : IsGuarded before) (attached : Attached relation before label after) :
    Minds before after where
  guarded := by
    have sameEdge : label.edge = edgeFor label.link :=
      congrArg Address.mk (by rw [attached.edge, attached.link])
    refine ⟨guarded.tracking.attached attached, fun link tracked => ?_⟩
    rw [attached.links, List.mem_append, List.mem_singleton] at tracked
    rcases tracked with tracked | rfl
    · obtain ⟨element, found⟩ := guarded.edge link tracked
      exact ⟨element, attached.kept guarded.tracking.consistent found⟩
    · obtain ⟨-, -, -, -, apart⟩ := attached.apart guarded.tracking.consistent
      exact ⟨label.element, by rw [← sameEdge, attached.get?, if_neg apart, if_pos rfl]⟩
  precedes := attached.precedes
  lost _ tracked missing := absurd (attached.links ▸ List.mem_append_left _ tracked) missing
  gained link tracked missing := by
    rw [attached.links, List.mem_append, List.mem_singleton] at tracked
    obtain rfl := tracked.resolve_left missing
    rw [attached.link]
    exact Nat.lt_succ_self _

/-- **In the end a link is there just as long as its naming edge**, and is tracked as long. -/
theorem contains_iff (guarded : IsGuarded before) (minds : Minds before after)
    (tracked : link ∈ before.identifierLinks) :
    (after.store.contains link = true ↔ after.store.contains (edgeFor link) = true) ∧
      (link ∈ after.identifierLinks ↔ after.store.contains (edgeFor link) = true) := by
  have guards : link ∈ after.identifierLinks → after.store.contains (edgeFor link) = true := by
    intro still
    obtain ⟨element, found⟩ := minds.guarded.edge link still
    exact Store.contains_of_get? found
  have gone : after.store.contains link = true → link ∈ after.identifierLinks := by
    intro there
    by_contra missing
    exact Store.not_contains_iff.2 (minds.lost link tracked missing) there
  have leads : after.store.contains (edgeFor link) = true → after.store.contains link = true := by
    intro there
    obtain ⟨element, found⟩ := guarded.edge link tracked
    obtain ⟨-, -, ends⟩ := minds.precedes.kept
      (guarded.tracking.consistent.handedOut (Store.contains_of_get? found)) there
    have ends : after.store.ends? (edgeFor link) = some (element, link) :=
      ends.trans (guarded.tracking.consistent.ends?_eq_some_iff.2 ⟨_, found⟩)
    exact (minds.guarded.tracking.consistent.contains_of_ends? ends).2.2
  exact ⟨⟨fun there => guards (gone there), leads⟩, guards, fun there => gone (leads there)⟩

end Minds

/-! ### Operations -/

/-- What an operation makes of any guarded network, it makes of those that came of an earlier one. -/
theorem keeps_minds {α : Type} {action : Network.Action α} (guarded : IsGuarded start)
    (minds : ∀ {network}, IsGuarded network → Minds network (network.attempt action)) :
    Keeps (Minds start) action :=
  Network.keeps_of_attempt fun holds => holds.trans guarded (minds holds.guarded)

theorem minds_of_spends (guarded : IsGuarded network) {store : Store}
    (spends : network.store.Spends store) : Minds network { network with store := store } :=
  .of_restored guarded (.of_spends spends)

/-- **Creating minds the tracked links.** -/
theorem minds_create {action : Store.Action Address} (creates : Store.Creates action)
    (guarded : IsGuarded network) : Minds network (network.attempt (onStore action)) := by
  rw [Network.attempt, Network.run_onStore]
  cases ran : action.run network.store with
  | error error store => exact minds_of_spends guarded (creates.spends ran)
  | ok address store =>
    obtain ⟨element, -, adds⟩ := creates.adds ran
    exact .of_growth guarded (creates.keeps.ok guarded.tracking.consistent ran) adds.precedes
      fun found => adds.get?_of_get? guarded.tracking.consistent found

/-- Telling of new edges changes nothing. -/
theorem minds_arrivals (guarded : IsGuarded network) {changes : List Change}
    (arrivals : ∀ change ∈ changes, change.IsArrival) : Minds network (network.publish changes) :=
  .of_alike guarded (Network.publish_arrivals arrivals network).2

theorem minds_createEdge (guarded : IsGuarded network) (type : ElementType)
    (source target : Address) :
    Minds network (network.attempt (Network.createEdge type source target)) := by
  have created := minds_create (Store.creates_createEdge type source target) guarded
  rw [Network.attempt, Network.run_onStore] at created
  rw [Network.attempt, Network.run_createEdge]
  cases ran : (Store.createEdge type source target).run network.store with
  | error error store =>
    rw [ran] at created
    exact created
  | ok edge store =>
    rw [ran] at created
    refine created.trans guarded (minds_arrivals created.guarded fun change member => ?_)
    exact ⟨_, _, _, _, List.mem_singleton.1 member⟩

theorem minds_createEdgeIn (guarded : IsGuarded network) (batch : Batch) (type : ElementType)
    (source target : Address) :
    Minds network (network.attempt (Network.createEdgeIn batch type source target)) := by
  rw [Network.attempt_createEdgeIn]
  exact minds_create (Store.creates_createEdge type source target) guarded

/-- **Writing minds the tracked links**, whatever the observers do about it. -/
theorem minds_setPayload (guarded : IsGuarded network) (link : Address) (payload : Payload) :
    Minds network (network.attempt (Network.setPayload link payload)) := by
  rw [Network.attempt, Network.run_setPayload]
  cases ran : (Store.setPayload link payload).run network.store with
  | error error store => exact minds_of_spends guarded (Store.setPayload_error ran)
  | ok value store =>
    obtain ⟨element, found, isLink, rfl⟩ := Store.setPayload_ok ran
    have elsewhere : ∀ {edge type source target},
        network.store.get? edge = some ⟨edge, type, .edge source target⟩ → edge ≠ link := by
      rintro edge type source target there rfl
      rw [found] at there
      cases there
      cases isLink
    have held : Minds network { network with store := network.store.hold link element payload } :=
      .of_growth guarded (guarded.tracking.consistent.hold found isLink)
        (Store.precedes_hold found isLink) fun there => by
          rw [Store.get?_hold, if_neg (elsewhere there), there]
    exact held.trans guarded (.of_unravels held.guarded
      (Network.precedes_publish held.guarded.tracking.consistent _)
      (Network.unravels_given held.guarded.tracking.consistent held.guarded.tracking.tended link))

/-- **Erasing minds the tracked links.** -/
theorem minds_erase (guarded : IsGuarded network) (address : Address) :
    Minds network (network.erase address) :=
  .of_unravels guarded (Network.precedes_erase guarded.tracking.consistent address)
    (Network.unravels_erase guarded.tracking.consistent guarded.tracking.tended address)

theorem minds_generate (guarded : IsGuarded network) (template : Template) (parameters : Assignment) :
    Minds network (network.generate template parameters).2 := by
  have consistent := guarded.tracking.consistent
  have announced := Template.announced_generate consistent template parameters
  have grown : Minds network
      { network with store := (template.generate network.store parameters).store } :=
    .of_growth guarded (Template.consistent_generate consistent template parameters)
      (Store.precedes_generate consistent template parameters) announced.kept
  exact grown.trans guarded (minds_arrivals grown.guarded announced.arrivals)

/-- **Every operation minds the tracked links.** -/
theorem lasting_minds (guarded : IsGuarded start) : Lasting (Minds start) where
  createNode type := keeps_minds guarded (minds_create (Store.creates_createNode type))
  createTypedLink type := keeps_minds guarded (minds_create (Store.creates_createTypedLink type))
  createEdgeIn batch type source target :=
    keeps_minds guarded fun guarded => minds_createEdgeIn guarded batch type source target
  createEdge type source target :=
    keeps_minds guarded fun guarded => minds_createEdge guarded type source target
  setPayload link payload := keeps_minds guarded fun guarded => minds_setPayload guarded link payload
  erase address holds := holds.trans guarded (minds_erase holds.guarded address)
  generate template parameters holds :=
    holds.trans guarded (minds_generate holds.guarded template parameters)
  events _ holds := holds.trans guarded (.of_alike holds.guarded ⟨rfl, rfl, rfl⟩)

/-- Modest observers may join. -/
theorem minds_observe (guarded : IsGuarded network) {observer : Observer}
    (modest : observer.IsModest) : Minds network (network.observe observer) :=
  .of_edges guarded guarded.tracking.consistent (guarded.tracking.tended.observe modest) (.refl _) rfl
    id

/-- **So does naming.** -/
theorem respects_minds (guarded : IsGuarded start) (relation : Address) :
    Respects relation (Minds start) where
  tracking holds := holds.guarded.tracking
  createNode := (lasting_minds guarded).createNode
  attached holds _ attached := holds.trans guarded (.of_attached holds.guarded attached)
  erase := (lasting_minds guarded).erase
  restored holds restored := holds.trans guarded (.of_restored holds.guarded restored)

theorem respects_isGuarded (relation : Address) : Respects relation IsGuarded where
  tracking guarded := guarded.tracking
  createNode type :=
    { ok := fun guarded ran =>
        (((lasting_minds guarded).createNode type).ok (.refl guarded) ran).guarded
      error := fun guarded ran =>
        (((lasting_minds guarded).createNode type).error (.refl guarded) ran).guarded }
  attached guarded _ attached := (Minds.of_attached guarded attached).guarded
  erase address guarded := (minds_erase guarded address).guarded
  restored guarded restored := (Minds.of_restored guarded restored).guarded

/-! ### New links -/

theorem mem_of_mem_eraseLinks {links : List Address}
    (tracked : link ∈ (links.foldl Network.erase network).identifierLinks) :
    link ∈ network.identifierLinks := by
  induction links generalizing network with
  | nil => exact tracked
  | cons first rest hypothesis => exact Network.mem_of_mem_erase (hypothesis tracked)

/-- **A new identifier link has a naming edge from the element that was named.** -/
theorem edge_of_assign {element : Address} {identifier : String} (guarded : IsGuarded network)
    (ran : (assign relation identifier element).run network = .ok () after)
    (new : link ∈ after.identifierLinks) (old : link ∉ network.identifierLinks) :
    after.store.get? (edgeFor link) =
      some ⟨edgeFor link, .constantDirected, .edge element link⟩ := by
  obtain ⟨-, rfl | ⟨between, label, rfl, -, attached, rfl⟩⟩ := assign_ok guarded.tracking ran
  · exact absurd new old
  · have minds := Minds.of_attached guarded attached
    have tracked := mem_of_mem_eraseLinks new
    have erased := (respects_minds minds.guarded relation).eraseLinks (.refl minds.guarded)
      (linksOf network.store relation label.element)
    have same : link = label.link := by
      rw [attached.links, List.mem_append, List.mem_singleton] at tracked
      exact tracked.resolve_left old
    -- The edge that guards the link in the end is the one that was attached with it.
    obtain ⟨element, found⟩ := erased.guarded.edge link new
    have sameEdge : edgeFor link = label.edge :=
      congrArg Address.mk (by rw [attached.edge, same, attached.link])
    obtain ⟨-, -, -, -, apart⟩ := attached.apart guarded.tracking.consistent
    have attachedEdge : between.store.get? (edgeFor link) =
        some ⟨edgeFor link, .constantDirected, .edge label.element link⟩ := by
      rw [sameEdge, same, attached.get?, if_neg apart, if_pos rfl]
    obtain ⟨former, foundFormer, -, ends⟩ := erased.precedes.old found
      (minds.guarded.tracking.consistent.numbered attachedEdge).2
    cases attachedEdge.symm.trans foundFormer
    cases ends
    exact found

end SemanticNetwork.Naming

namespace SemanticNetwork

open Naming (IsGuarded Minds HoldsArrivals edgeFor)

/-- Whether a request is a rollback, which is told only in part. -/
def Request.isRollback : Request → Bool
  | .call (.rollback ..) => true
  | _ => false

namespace Usage

variable {memory : Memory} {usage : Usage} {request : Request} {link : Address}

/-- The links that hold identifiers. -/
def tracked (usage : Usage) : List Address := usage.memory.network.identifierLinks

/-- An element is what a request is to give an identifier to. -/
def Names (usage : Usage) (element : Address) : Request → Prop
  | .call _ => False
  | .setIdentifier _ named => named = element
  | .resolve identifier type? => (usage.memory.resolve identifier type?).1 = element

/-- **Identifier links and their naming edges come and go together**, and what is told of their going
ends. -/
structure GuardsLinks (before after : Usage) : Prop where
  leads : ∀ link ∈ after.tracked, after.store.contains link = true ∧ ∃ element,
    after.store.get? (edgeFor link) = some ⟨edgeFor link, .constantDirected, .edge element link⟩
  together : ∀ link ∈ before.tracked,
    (after.store.contains link = true ↔ after.store.contains (edgeFor link) = true) ∧
      (link ∈ after.tracked ↔ after.store.contains (edgeFor link) = true)
  named : ∀ {request link}, link ∈ (after.step request).tracked → link ∉ after.tracked →
    after.store.allocated < link.value ∧ ∃ element, after.Names element request ∧
      (after.step request).store.get? (edgeFor link) =
        some ⟨edgeFor link, .constantDirected, .edge element link⟩
  ends : ∀ waiting, ∃ turns ≤ after.memory.network.turnsLeft waiting,
    Network.turn^[turns] (after.memory.network, waiting) =
      (after.memory.network.tell waiting, [])

theorem isGuarded_start {settings : Settings} (started : Memory.start settings = .ok memory) :
    IsGuarded (start memory).memory.network :=
  Memory.has_start started Naming.respects_isGuarded fun tracking none => .of_bare tracking none

/-- **Every request but a rollback minds the tracked links**, if only modest observers join. -/
theorem minds_run (guarded : IsGuarded usage.memory.network) (arrivals : HoldsArrivals usage.session)
    {requests : List Request} (unrolled : ∀ request ∈ requests, request.isRollback = false)
    (modest : ∀ observer, .call (.observe observer) ∈ requests → observer.IsModest) :
    Minds usage.memory.network (usage.run requests).memory.network ∧
      HoldsArrivals (usage.run requests).session :=
  has_run_of_lasting (Naming.lasting_minds guarded) (Naming.respects_minds guarded)
    (fun holds arrivals => holds.trans guarded (Naming.minds_arrivals holds.guarded arrivals))
    (.refl guarded) arrivals (fun number created member => by cases unrolled _ member)
    fun observer member _ holds =>
      holds.trans guarded (Naming.minds_observe holds.guarded (modest observer member))

theorem tracked_of_call (call : Call) (tracked : link ∈ (usage.step (.call call)).tracked) :
    link ∈ usage.tracked := by
  have steady := Naming.steady_fewer usage.tracked
  have all : ∀ link ∈ usage.session.network.identifierLinks, link ∈ usage.tracked := fun _ => id
  exact Session.has_step_of_lasting steady.lasting all call (fun _ _ => steady.publish _ all)
    (fun _ created _ => steady.rollback all created) (fun _ _ => all) link tracked

/-- What naming refuses tracks no link. -/
theorem tracked_of_refused {α : Type} {action : Naming.Action α} {error : MemoryError}
    {after : Network} (ran : action.run usage.memory.network = .error error after)
    (restored : usage.memory.network.Restored after)
    (tracked : link ∈ (usage.memory.tryNaming action).2.network.identifierLinks) :
    link ∈ usage.tracked := by
  rw [Memory.tryNaming, ran] at tracked
  have tracked : link ∈ after.identifierLinks := tracked
  rwa [restored.identifierLinks] at tracked

/-- **Only naming tracks a link**, and the link and its naming edge are new. -/
theorem named_of_tracked (guarded : IsGuarded usage.memory.network)
    (new : link ∈ (usage.step request).tracked) (old : link ∉ usage.tracked) :
    usage.store.allocated < link.value ∧ ∃ element, usage.Names element request ∧
      (usage.step request).store.get? (edgeFor link) =
        some ⟨edgeFor link, .constantDirected, .edge element link⟩ := by
  have respects := Naming.respects_minds guarded usage.memory.relation
  cases request with
  | call call => exact absurd (tracked_of_call call new) old
  | setIdentifier identifier element =>
    cases ran : (Naming.assign usage.memory.relation identifier element).run usage.memory.network with
    | error error after =>
      exact absurd (tracked_of_refused ran (Naming.restored_of_assign guarded.tracking ran) new) old
    | ok _ after =>
      have same : usage.memory.setIdentifier identifier element =
          (.ok (), usage.memory.withNetwork after) := by
        rw [Memory.setIdentifier, Memory.tryNaming, ran]
      have minds := (respects.assign identifier element).ok (.refl guarded) ran
      simp only [step, tracked, store, same] at new ⊢
      exact ⟨minds.gained link new old, element, rfl, Naming.edge_of_assign guarded ran new old⟩
  | resolve identifier type? =>
    cases ran : (Naming.resolve usage.memory.relation identifier type?).run usage.memory.network with
    | error error after =>
      exact absurd (tracked_of_refused ran (Naming.restored_of_resolve guarded.tracking ran) new) old
    | ok answer after =>
      have same : usage.memory.resolve identifier type? =
          (answer.getD .invalid, usage.memory.withNetwork after) := by
        rw [Memory.resolve, Memory.tryNaming, ran]
        rfl
      have minds := (respects.resolve identifier type?).ok (.refl guarded) ran
      simp only [step, tracked, store, same] at new ⊢
      obtain rfl | ⟨type, element, between, rfl, rfl, created, assigned⟩ := Naming.resolve_ok ran
      · exact absurd new old
      · have createdMinds := (respects.createNode type).ok (.refl guarded) created
        obtain ⟨-, -, links⟩ := Naming.created_ok created
        have fresh : link ∉ between.identifierLinks := links ▸ old
        exact ⟨minds.gained link new old, element, by rw [Names, same]; rfl,
          Naming.edge_of_assign createdMinds.guarded assigned new fresh⟩

/-- **A link does not outlive its naming edge**, whatever a memory was asked for but rollbacks, if only
modest observers joined. -/
theorem run_guards_links {settings : Settings} (started : Memory.start settings = .ok memory)
    {earlier later : List Request}
    (unrolled : ∀ request ∈ earlier ++ later, request.isRollback = false)
    (modest : ∀ observer, .call (.observe observer) ∈ earlier ++ later → observer.IsModest) :
    ((start memory).run earlier).GuardsLinks ((start memory).run (earlier ++ later)) := by
  obtain ⟨first, arrivals⟩ := minds_run (isGuarded_start started) nofun
    (fun request member => unrolled request (List.mem_append_left _ member))
    fun observer member => modest observer (List.mem_append_left _ member)
  obtain ⟨minds, -⟩ := minds_run first.guarded arrivals
    (fun request member => unrolled request (List.mem_append_right _ member))
    fun observer member => modest observer (List.mem_append_right _ member)
  rw [← run_append] at minds
  exact {
    leads := fun link tracked => ⟨minds.guarded.contains tracked, minds.guarded.edge link tracked⟩
    together := fun link tracked => minds.contains_iff first.guarded tracked
    named := named_of_tracked minds.guarded
    ends := Network.exists_turns _ }

/-- A node is named. -/
def labelling : List Request :=
  [.call (.createNode .constantNode), .setIdentifier "alpha" ⟨5⟩]

/-- When its naming edge is erased, the link goes and is forgotten. -/
theorem run_labelling_guards : Memory.start ⟨4, 100, .manual, []⟩ = .ok .plain ∧
    (∀ request ∈ labelling ++ [.call (.erase (edgeFor ⟨6⟩))], request.isRollback = false) ∧
    (∀ observer, .call (.observe observer) ∈ labelling ++ [.call (.erase (edgeFor ⟨6⟩))] →
      observer.IsModest) ∧
    ⟨6⟩ ∈ ((start .plain).run labelling).tracked ∧
    ((start .plain).run labelling).store.contains (edgeFor ⟨6⟩) = true ∧
    ¬ ((start .plain).run (labelling ++ [.call (.erase (edgeFor ⟨6⟩))])).store.contains ⟨6⟩ = true ∧
    ⟨6⟩ ∉ ((start .plain).run (labelling ++ [.call (.erase (edgeFor ⟨6⟩))])).tracked := by
  have unrolled : ∀ request ∈ labelling ++ [.call (.erase (edgeFor ⟨6⟩))],
      request.isRollback = false := by
    simp [labelling, Request.isRollback]
  have modest : ∀ observer, .call (.observe observer) ∈ labelling ++
      [.call (.erase (edgeFor ⟨6⟩))] → observer.IsModest := by
    simp [labelling]
  have tracked : ⟨6⟩ ∈ ((start .plain).run labelling).tracked := by decide +kernel
  have there : ((start .plain).run labelling).store.contains (edgeFor ⟨6⟩) = true := by
    decide +kernel
  have erased : ¬ ((start .plain).run (labelling ++
      [.call (.erase (edgeFor ⟨6⟩))])).store.contains (edgeFor ⟨6⟩) = true := by
    rw [run_append]
    exact Store.not_contains_iff.2
      (Network.get?_erase_self (Memory.isNew_plain.consistent_run labelling) there)
  obtain ⟨link, still⟩ :=
    (run_guards_links Memory.start_plain unrolled modest).together ⟨6⟩ tracked
  exact ⟨Memory.start_plain, unrolled, modest, tracked, there, mt link.1 erased, mt still.1 erased⟩

end Usage

end SemanticNetwork
