/-
**Erasures with a reaper.** Where a reaper is among the observers, an erasure goes on while its
changes are told: an edge that could name, of the type of naming edges and into an identifier link,
takes the link with it, and the link takes all that depends on it. What goes in the end is the least
set that is closed under both, if nobody else has a reason to erase anything.

* `Observer.IsModest`, `IsTended`: who erases by himself no more than a link that was just written;
* `IsClosed`: with an element the edges at it are in a set, and with such an edge its link;
* `Unravels`: what has become of a network while some changes are still to be told; every loose link
  that is still tracked will be heard of;
* `Unravels.react`, `Unravels.tell`: one observer after another, to the end;
* `unravels_erase`, `unravels_rollback`, `unravels_given`: what can set it off;
* `get?_link_of_erase`: an identifier link goes with any edge that could name;
* `isLeast_removed_erase`: **an erasure with a reaper takes out the least closed set.**
-/
import Mathlib.Data.Set.Insert
import SemanticNetwork.Proofs.Network.Hearing
import SemanticNetwork.Proofs.Network.Stability
import SemanticNetwork.Proofs.Store.Dependency

namespace SemanticNetwork

/-- An observer erases by himself no more than the link of which he hears that it was written. -/
def Observer.IsModest : Observer → Prop
  | .eraser own => ∀ {store change address}, own.chooses store change = some address →
      change = .payloadChanged address
  | _ => True

/-- Who erases links for their payload is modest. -/
theorem Observer.isModest_ofPayload (payload : Payload) :
    (Observer.eraser (.ofPayload payload)).IsModest := by
  intro store change address chosen
  cases change with
  | payloadChanged link =>
    simp only [Eraser.ofPayload] at chosen
    split at chosen
    · exact congrArg Change.payloadChanged (Option.some.inj chosen)
    · cases chosen
  | edgeAdded | edgeRemoved | erased => cases chosen

namespace Network

/-- The reaper looks after the identifier links, and all observers are modest. -/
structure IsTended (network : Network) : Prop where
  reaps : .linkReaper ∈ network.observers
  modest : ∀ observer ∈ network.observers, observer.IsModest

namespace IsTended

variable {network after : Network}

theorem congr (tended : network.IsTended) (same : after.observers = network.observers) :
    after.IsTended :=
  ⟨same ▸ tended.reaps, same ▸ tended.modest⟩

/-- A modest observer may join. -/
theorem observe (tended : network.IsTended) {observer : Observer} (modest : observer.IsModest) :
    (network.observe observer).IsTended :=
  ⟨List.mem_append_left _ tended.reaps,
    List.forall_mem_append.2 ⟨tended.modest, List.forall_mem_singleton.2 modest⟩⟩

/-- Modest observers are tended when the reaper joins. -/
theorem of_modest (modest : ∀ observer ∈ network.observers, observer.IsModest) :
    (network.observe .linkReaper).IsTended :=
  ⟨List.mem_append_right _ List.mem_cons_self,
    List.forall_mem_append.2 ⟨modest, List.forall_mem_singleton.2 trivial⟩⟩

end IsTended

/-- With an element every edge at it is in the set, and with an edge of the type of naming edges the
identifier link that it leads into. -/
structure IsClosed (network : Network) (set : Set Address) : Prop where
  edges : network.store.IsClosed set
  links : ∀ {edge source link},
    network.store.get? edge = some ⟨edge, .constantDirected, .edge source link⟩ →
      link ∈ network.identifierLinks → edge ∈ set → link ∈ set

/-- **What has become of a network** from which some roots were erased, while changes are still to be
told: what is gone hangs on the roots, and where an edge into a tracked link is gone the reaper will
hear of it. -/
structure Unravels (roots : Set Address) (start network : Network)
    (waiting : List (Change × Observer)) : Prop where
  consistent : network.store.Consistent
  observers : network.observers = start.observers
  kept : ∀ {address element}, network.store.get? address = some element →
    start.store.get? address = some element
  bounded : ∀ {set}, start.IsClosed set →
    (∀ root ∈ roots, root ∈ start.store.removed network.store → root ∈ set) →
      start.store.removed network.store ⊆ set
  truthful : ∀ {edge source target type observer},
    (.edgeRemoved edge source target type, observer) ∈ waiting →
      start.store.get? edge = some ⟨edge, type, .edge source target⟩ ∧
        network.store.get? edge = none
  given : ∀ {link observer}, (.payloadChanged link, observer) ∈ waiting → link ∈ roots
  listening : ∀ {change observer}, (change, observer) ∈ waiting → observer ∈ start.observers
  tracked : ∀ {link}, link ∈ network.identifierLinks → link ∈ start.identifierLinks
  forgotten : ∀ {link}, link ∈ start.identifierLinks → link ∉ network.identifierLinks →
    network.store.get? link = none ∧ ∃ edge source,
      start.store.get? edge = some ⟨edge, .constantDirected, .edge source link⟩ ∧
        network.store.get? edge = none
  pending : ∀ {edge source link},
    start.store.get? edge = some ⟨edge, .constantDirected, .edge source link⟩ →
      link ∈ network.identifierLinks → network.store.get? edge = none →
        (.edgeRemoved edge source link .constantDirected, .linkReaper) ∈ waiting

/-- What may be erased: a root, or an identifier link that has lost an edge which could name. -/
def Hangs (roots : Set Address) (start network : Network) (place : Address) : Prop :=
  place ∈ roots ∨ ∃ edge source,
    start.store.get? edge = some ⟨edge, .constantDirected, .edge source place⟩ ∧
      place ∈ start.identifierLinks ∧ network.store.get? edge = none

variable {roots : Set Address} {start network : Network} {change : Change} {observer : Observer}
  {waiting : List (Change × Observer)} {root link : Address}

theorem orphanedLink?_eq_some (orphaned : network.orphanedLink? change = some link) :
    ∃ edge source, change = .edgeRemoved edge source link .constantDirected ∧
      link ∈ network.identifierLinks := by
  unfold orphanedLink? at orphaned
  split at orphaned
  · rename_i edge source target type
    split at orphaned
    · rename_i both
      cases orphaned
      exact ⟨edge, source, both.1 ▸ rfl, both.2⟩
    · cases orphaned
  · cases orphaned

namespace Unravels

/-- Before anything is erased, nothing has become of a network. -/
theorem refl (consistent : start.store.Consistent)
    (noneRemoved : ∀ {edge source target type observer},
      (.edgeRemoved edge source target type, observer) ∉ waiting)
    (given : ∀ {link observer}, (.payloadChanged link, observer) ∈ waiting → link ∈ roots)
    (listening : ∀ {change observer}, (change, observer) ∈ waiting → observer ∈ start.observers) :
    Unravels roots start start waiting where
  consistent := consistent
  observers := rfl
  kept found := found
  bounded := by
    rintro set - - address ⟨there, gone⟩
    exact absurd there (Store.not_contains_iff.2 gone)
  truthful member := absurd member noneRemoved
  given := given
  listening := listening
  tracked member := member
  forgotten member missing := absurd member missing
  pending found _ gone := by
    rw [found] at gone
    cases gone

/-- What observers remember does not matter. -/
theorem of_alike {other : Network} (unravels : Unravels roots start network waiting)
    (alike : network.Alike other) : Unravels roots start other waiting := by
  obtain ⟨store, observers, journal, events, links⟩ := network
  obtain ⟨store', observers', journal', events', links'⟩ := other
  obtain ⟨rfl, rfl, rfl⟩ := alike
  exact ⟨unravels.consistent, unravels.observers, unravels.kept, unravels.bounded,
    unravels.truthful, unravels.given, unravels.listening, unravels.tracked, unravels.forgotten,
    unravels.pending⟩

/-- A change need not be told where the reaper has nothing to do about it. -/
theorem settle {rest : List (Change × Observer)} (unravels : Unravels roots start network waiting)
    (fewer : ∀ told ∈ rest, told ∈ waiting)
    (handled : ∀ change, (change, .linkReaper) ∈ waiting → (change, .linkReaper) ∉ rest →
      network.orphanedLink? change = none) : Unravels roots start network rest where
  consistent := unravels.consistent
  observers := unravels.observers
  kept := unravels.kept
  bounded := unravels.bounded
  truthful member := unravels.truthful (fewer _ member)
  given member := unravels.given (fewer _ member)
  listening member := unravels.listening (fewer _ member)
  tracked := unravels.tracked
  forgotten := unravels.forgotten
  pending {edge source link} found tracked gone := by
    refine Classical.byContradiction fun missing => ?_
    have idle := handled _ (unravels.pending found tracked gone) missing
    simp [orphanedLink?, tracked] at idle

/-- What goes with what hangs on the roots is in every closed set that has the roots. -/
theorem removed_cascade_subset (unravels : Unravels roots start network waiting)
    {places : List Address} (hang : ∀ place ∈ places, Hangs roots start network place)
    {set : Set Address} (closed : start.IsClosed set)
    (within : ∀ root ∈ roots,
      root ∈ start.store.removed (network.store.cascade places).store → root ∈ set) :
    start.store.removed (network.store.cascade places).store ⊆ set := by
  have waits := unravels.consistent.anyWaiting places
  have shrinks := Store.shrinks_cascade waits
  have before : start.store.removed network.store ⊆ set := unravels.bounded closed
    fun root member removed => within root member ⟨removed.1, shrinks.get?_eq_none removed.2⟩
  rintro address ⟨there, gone⟩
  by_cases stillThere : network.store.contains address = true
  · refine Store.mem_of_removed_cascade waits (Store.IsClosed.of_kept closed.edges unravels.kept)
      (fun place member there => ?_) ⟨stillThere, gone⟩
    rcases hang place member with root | ⟨edge, source, found, tracked, edgeGone⟩
    · obtain ⟨element, there⟩ := Store.contains_iff.1 there
      exact within place root ⟨Store.contains_of_get? (unravels.kept there),
        Store.get?_cascade_of_waiting waits member⟩
    · exact closed.links found tracked (before ⟨Store.contains_of_get? found, edgeGone⟩)
  · exact before ⟨there, Store.not_contains_iff.1 stillThere⟩

/-- **Erasing more.** What hangs on the roots may be erased, if the reaper hears of every edge into a
tracked link that goes. -/
theorem cascade (unravels : Unravels roots start network waiting)
    (reaps : .linkReaper ∈ start.observers) {places : List Address} {told : List Change}
    (hang : ∀ place ∈ places, Hangs roots start network place)
    (fewer : ∀ change ∈ told, change ∈ (network.store.cascade places).changes)
    (complete : ∀ {edge source link}, link ∈ network.identifierLinks →
      .edgeRemoved edge source link .constantDirected ∈ (network.store.cascade places).changes →
        .edgeRemoved edge source link .constantDirected ∈ told) :
    Unravels roots start { network with store := (network.store.cascade places).store }
      (network.audience told ++ waiting) := by
  have waits := unravels.consistent.anyWaiting places
  have shrinks := Store.shrinks_cascade waits
  exact {
    consistent := Store.consistent_cascade waits
    observers := unravels.observers
    kept := fun found => unravels.kept (shrinks.kept found)
    bounded := unravels.removed_cascade_subset hang
    truthful := by
      intro edge source target type observer member
      rcases List.mem_append.1 member with new | old
      · obtain ⟨found, gone⟩ := (Store.edgeRemoved_mem_cascade_iff waits).1
          (fewer _ (mem_audience_iff.1 new).1)
        exact ⟨unravels.kept found, gone⟩
      · obtain ⟨found, gone⟩ := unravels.truthful old
        exact ⟨found, shrinks.get?_eq_none gone⟩
    given := by
      intro link observer member
      rcases List.mem_append.1 member with new | old
      · exact absurd (fewer _ (mem_audience_iff.1 new).1)
          (Store.payloadChanged_not_mem_cascade waits link)
      · exact unravels.given old
    listening := by
      intro change observer member
      rcases List.mem_append.1 member with new | old
      · exact unravels.observers ▸ (mem_audience_iff.1 new).2
      · exact unravels.listening old
    tracked := unravels.tracked
    forgotten := by
      intro link member missing
      obtain ⟨gone, edge, source, found, edgeGone⟩ := unravels.forgotten member missing
      exact ⟨shrinks.get?_eq_none gone, edge, source, found, shrinks.get?_eq_none edgeGone⟩
    pending := by
      intro edge source link found tracked gone
      by_cases goneBefore : network.store.get? edge = none
      · exact List.mem_append_right _ (unravels.pending found tracked goneBefore)
      · obtain ⟨element, there⟩ := Option.ne_none_iff_exists'.1 goneBefore
        have same := (unravels.kept there).symm.trans found
        cases same
        have reported := (Store.edgeRemoved_mem_cascade_iff waits).2 ⟨there, gone⟩
        refine List.mem_append_left _ (mem_audience_iff.2 ⟨complete tracked reported, ?_⟩)
        exact unravels.observers ▸ reaps }

theorem eraseSilently (unravels : Unravels roots start network waiting)
    (reaps : .linkReaper ∈ start.observers) {place : Address}
    (hangs : Hangs roots start network place) :
    Unravels roots start (network.eraseSilently place).1
      (network.audience (network.eraseSilently place).2 ++ waiting) := by
  have hang : ∀ other ∈ [place], Hangs roots start network other :=
    fun other member => List.mem_singleton.1 member ▸ hangs
  have erased := unravels.cascade reaps hang (fun _ told => told) fun _ told => told
  rwa [← unravels.consistent.erase_eq_cascade] at erased

/-- A link that is gone may be forgotten, if an edge into it is gone, too. -/
theorem forget (unravels : Unravels roots start network waiting)
    (gone : network.store.get? link = none) {edge source : Address}
    (found : start.store.get? edge = some ⟨edge, .constantDirected, .edge source link⟩)
    (edgeGone : network.store.get? edge = none) :
    Unravels roots start (network.forgetLink link) waiting where
  consistent := unravels.consistent
  observers := unravels.observers
  kept := unravels.kept
  bounded := unravels.bounded
  truthful := unravels.truthful
  given := unravels.given
  listening := unravels.listening
  tracked member := unravels.tracked (List.mem_filter.1 member).1
  forgotten {other} member missing := by
    by_cases here : other = link
    · subst here
      exact ⟨gone, edge, source, found, edgeGone⟩
    · refine unravels.forgotten member fun still => missing ?_
      exact List.mem_filter.2 ⟨still, by simpa using here⟩
  pending found tracked gone := unravels.pending found (List.mem_filter.1 tracked).1 gone

/-- What an observer has heard need not be told it, if it was not the reaper or the reaper has nothing
to do about it. -/
theorem passed {front : List (Change × Observer)}
    (unravels : Unravels roots start network (front ++ (change, observer) :: waiting))
    (idle : observer = .linkReaper → network.orphanedLink? change = none) :
    Unravels roots start network (front ++ waiting) := by
  refine unravels.settle (fun told member => ?_) fun other member missing => ?_
  · rcases List.mem_append.1 member with new | old
    · exact List.mem_append_left _ new
    · exact List.mem_append_right _ (List.mem_cons_of_mem _ old)
  · simp only [List.mem_append, List.mem_cons, not_or] at member missing
    rcases member with new | same | old
    · exact absurd new missing.1
    · cases same
      exact idle rfl
    · exact absurd old missing.2

/-- **One observer hears of one change.** -/
theorem react (unravels : Unravels roots start network ((change, observer) :: waiting))
    (tended : start.IsTended) :
    Unravels roots start (network.react change observer).1
      ((network.react change observer).1.audience (network.react change observer).2 ++ waiting) := by
  have modest := tended.modest observer (unravels.listening List.mem_cons_self)
  -- Where the observer does nothing to the store, the change has been told.
  have passes : (observer = .linkReaper → network.orphanedLink? change = none) →
      Unravels roots start network waiting :=
    passed (show Unravels roots start network ([] ++ (change, observer) :: waiting) from unravels)
  cases observer with
  | recorder number => exact (passes (by rintro ⟨⟩)).of_alike ⟨rfl, rfl, rfl⟩
  | events => exact (passes (by rintro ⟨⟩)).of_alike ⟨rfl, rfl, rfl⟩
  | linkReaper =>
    simp only [Network.react]
    cases orphaned : network.orphanedLink? change with
    | none => exact passes fun _ => orphaned
    | some link =>
      obtain ⟨edge, source, rfl, tracked⟩ := orphanedLink?_eq_some orphaned
      obtain ⟨found, edgeGone⟩ := unravels.truthful List.mem_cons_self
      have erased := unravels.eraseSilently tended.reaps
        (.inr ⟨edge, source, found, unravels.tracked tracked, edgeGone⟩)
      have gone : (network.eraseSilently link).1.store.get? link = none :=
        Store.get?_erase_self unravels.consistent link
      have forgot := erased.forget gone found
        ((Store.shrinks_erase unravels.consistent link).get?_eq_none edgeGone)
      exact forgot.passed fun _ => by simp [orphanedLink?, forgetLink]
  | eraser eraser =>
    simp only [Network.react]
    cases chosen : eraser.chooses network.store change with
    | none => exact passes (by rintro ⟨⟩)
    | some link =>
      obtain rfl := modest chosen
      have erased := unravels.eraseSilently tended.reaps
        (.inl (unravels.given List.mem_cons_self))
      exact erased.passed (by rintro ⟨⟩)

/-- **Everybody hears of everything**, and of all that follows. -/
theorem tell (unravels : Unravels roots start network waiting) (tended : start.IsTended) :
    Unravels roots start (network.tell waiting) [] := by
  fun_induction Network.tell network waiting with
  | case1 network => exact unravels
  | case2 network change observer waiting reaction hypothesis =>
    exact hypothesis (unravels.react tended)

/-! ### When everything was told -/

/-- **In the end what is gone is closed**: no edge and no identifier link is left over. -/
theorem isClosed_removed (unravels : Unravels roots start network [])
    (consistent : start.store.Consistent) :
    start.IsClosed (start.store.removed network.store) where
  edges := Store.isClosed_removed unravels.consistent unravels.kept
  links found tracked removed := by
    refine ⟨(consistent.anchored found List.not_mem_nil).2, (unravels.forgotten tracked ?_).1⟩
    exact fun still => absurd (unravels.pending found still removed.2) List.not_mem_nil

/-- In the end a link is tracked as long as no edge is gone that could have named. -/
theorem tracked_iff (unravels : Unravels roots start network []) :
    link ∈ network.identifierLinks ↔ link ∈ start.identifierLinks ∧ ∀ {edge source},
      start.store.get? edge = some ⟨edge, .constantDirected, .edge source link⟩ →
        network.store.get? edge ≠ none := by
  constructor
  · intro still
    refine ⟨unravels.tracked still, fun found gone => ?_⟩
    exact absurd (unravels.pending found still gone) List.not_mem_nil
  · rintro ⟨tracked, intact⟩
    refine Classical.byContradiction fun missing => ?_
    obtain ⟨-, edge, source, found, gone⟩ := unravels.forgotten tracked missing
    exact intact found gone

end Unravels

/-! ### What sets it off -/

theorem unravels_erase (consistent : network.store.Consistent)
    (tended : network.IsTended) (root : Address) :
    Unravels {root} network (network.erase root) [] := by
  have begun : Unravels {root} network network [] := .refl consistent nofun nofun nofun
  have erased := begun.eraseSilently tended.reaps (.inl rfl)
  rw [List.append_nil] at erased
  exact erased.tell tended

/-- A rollback is told only in part, but not of edges that could have named. -/
theorem unravels_rollback (consistent : network.store.Consistent)
    (tended : network.IsTended) {created : List Address}
    (foreign : ∀ edge ∈ created, ∀ {source link},
      network.store.get? edge = some ⟨edge, .constantDirected, .edge source link⟩ →
        link ∉ network.identifierLinks) :
    Unravels {place | place ∈ created} network (network.rollback created) [] := by
  have begun : Unravels {place | place ∈ created} network network [] :=
    .refl consistent nofun nofun nofun
  have waits := consistent.anyWaiting created.reverse
  have complete : ∀ {edge source link}, link ∈ network.identifierLinks →
      .edgeRemoved edge source link .constantDirected ∈
          (network.store.cascade created.reverse).changes →
        .edgeRemoved edge source link .constantDirected ∈
          (network.store.cascade created.reverse).changes.filter fun change =>
            !created.contains change.subject := by
    intro edge source link tracked reported
    have apart : edge ∉ created := fun member =>
      foreign edge member ((Store.edgeRemoved_mem_cascade_iff waits).1 reported).1 tracked
    exact List.mem_filter.2 ⟨reported, by simpa [Change.subject] using apart⟩
  have rolledBack := begun.cascade tended.reaps
    (fun place member => .inl (List.mem_reverse.1 member))
    (fun change told => (List.mem_filter.1 told).1) complete
  rw [List.append_nil] at rolledBack
  rw [rollback, Store.rollback, consistent.eraseAll_eq_cascade]
  exact rolledBack.tell tended

/-- Hearing of a new payload, observers erase nothing but the link that holds it, and what hangs on
it. -/
theorem unravels_given (consistent : network.store.Consistent)
    (tended : network.IsTended) (link : Address) :
    Unravels {link} network (network.publish [.payloadChanged link]) [] := by
  refine Unravels.tell (.refl consistent ?_ ?_ ?_) tended
  · intro edge source target type observer member
    exact absurd (mem_audience_iff.1 member).1 (by simp)
  · intro other observer member
    have same := List.mem_singleton.1 (mem_audience_iff.1 member).1
    exact congrArg Change.subject same
  · intro change observer member
    exact (mem_audience_iff.1 member).2

/-- **What was erased stays erased**, whatever the observers do. -/
theorem get?_erase_self (consistent : network.store.Consistent)
    (there : network.store.contains root = true) : (network.erase root).store.get? root = none := by
  obtain ⟨element, found⟩ := Store.contains_iff.1 there
  have silent : (network.eraseSilently root).1.store.Consistent :=
    Store.consistent_erase consistent root
  have precedes := precedes_publish silent (network.store.erase root).changes
  refine precedes.get?_eq_none ?_ (Store.get?_erase_self consistent root)
  have numbered := consistent.numbered found
  rwa [← (Store.shrinks_erase consistent root).allocated] at numbered

/-- **With an edge that could name goes the identifier link** that it leads to. -/
theorem get?_link_of_erase (consistent : network.store.Consistent)
    (tended : network.IsTended) {edge source : Address}
    (found : network.store.get? edge = some ⟨edge, .constantDirected, .edge source link⟩)
    (tracked : link ∈ network.identifierLinks) :
    (network.erase edge).store.get? link = none ∧ link ∉ (network.erase edge).identifierLinks := by
  have there := Store.contains_of_get? found
  have unravels := unravels_erase consistent tended edge
  have gone := get?_erase_self consistent there
  refine ⟨?_, fun still => (unravels.tracked_iff.1 still).2 found gone⟩
  exact ((unravels.isClosed_removed consistent).links found tracked ⟨there, gone⟩).2

/-- **An erasure with a reaper takes out the least closed set.** -/
theorem isLeast_removed_erase (consistent : network.store.Consistent)
    (tended : network.IsTended) (there : network.store.contains root = true) :
    IsLeast {set | root ∈ set ∧ network.IsClosed set}
      (network.store.removed (network.erase root).store) := by
  have unravels := unravels_erase consistent tended root
  refine ⟨⟨⟨there, get?_erase_self consistent there⟩, unravels.isClosed_removed consistent⟩, ?_⟩
  rintro set ⟨inSet, closed⟩
  refine unravels.bounded closed fun place here _ => ?_
  rwa [Set.mem_singleton_iff.1 here]

end Network

end SemanticNetwork
