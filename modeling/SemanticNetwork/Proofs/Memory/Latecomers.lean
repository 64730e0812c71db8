/-
**Edges that come late.** While a walk is under way edges are created. A cursor over triples does not
show them, for it lists its edges when it is opened. There is one exception: an edge that a pattern
fixes is listed whether it exists or not, so a cursor that fixes an address shows the edge that comes
there later. A cursor over quintuples lists the edges that enter a triple's edge only when it comes
to that triple, so it shows those that were created until then.

* `walks_known_edges`: **what a walk shows was there when it was listed**, or is fixed;
* `shows_latecomers`: a relation that is created after a cursor was opened, and an edge at an address
  that was fixed before it was handed out, are shown.
-/
import SemanticNetwork.Proofs.Memory.Walking
import SemanticNetwork.Proofs.Pattern.Listing

namespace SemanticNetwork.Usage

variable {memory : Memory}

/-- **What a walk shows was there when it was listed**, or its pattern fixes it, whatever a memory was
asked for before the cursor was opened, and whatever it is asked for between the steps. The edge of
a triple was there when the cursor was opened. The edge that enters it was there at the step that
first showed a row of that triple. -/
theorem walks_known_edges (isNew : memory.IsNew) (earlier : List Request) (turns : List Turn) :
    let usage := (start memory).run earlier
    (∀ (pattern : TriplePattern) {store row},
      (store, some row) ∈
          TripleCursor.walk.visits (.openOn usage.store pattern) (usage.meetings turns) →
        pattern.edge.IsKnown usage.store row.edge) ∧
    (∀ (pattern : QuintuplePattern) {store row},
      let visits := QuintupleCursor.walk.visits (.openOn usage.store pattern) (usage.meetings turns)
      (store, some row) ∈ visits →
        pattern.main.edge.IsKnown usage.store row.main.edge ∧
        ∃ met, QuintupleCursor.Enters visits row.main met ∧
          pattern.relationEdge.IsKnown met row.relationEdge) := by
  intro usage
  have lineage := lineage_meetings (isNew.consistent_run earlier) turns
  exact ⟨fun _ _ _ => TripleCursor.isKnown_of_mem_visits lineage,
    fun _ _ _ => QuintupleCursor.isKnown_of_mem_visits lineage⟩

/-- Two nodes, and an edge from the first to the second. -/
def lonelyEdge : List Request :=
  [.call (.createNode .constantNode), .call (.createNode .constantNode),
    .call (.createEdge .membership ⟨5⟩ ⟨6⟩)]

/-- The edges between these nodes, with what is related to them. -/
def relatedToLonely : QuintuplePattern :=
  ⟨⟨.fixed ⟨5⟩, .typed .membership, .fixed ⟨6⟩⟩, .typed .membership, .typed .unknown⟩

/-- The first node is related to the edge before the walk comes to it, and the second node after the
first row was shown. The first relation is shown, and the second is not. -/
theorem walks_known_edges_lonely : Memory.plain.IsNew ∧
    let usage := (start .plain).run lonelyEdge
    let visits := QuintupleCursor.walk.visits (.openOn usage.store relatedToLonely)
      (usage.meetings [.request (.call (.createEdge .membership ⟨5⟩ ⟨7⟩)), .next,
        .request (.call (.createEdge .membership ⟨6⟩ ⟨7⟩)), .next])
    Walk.rowsOf visits = [⟨⟨⟨5⟩, ⟨7⟩, ⟨6⟩⟩, ⟨8⟩, ⟨5⟩⟩] ∧
    ∃ met, QuintupleCursor.Enters visits ⟨⟨5⟩, ⟨7⟩, ⟨6⟩⟩ met ∧
      relatedToLonely.relationEdge.IsKnown met ⟨8⟩ := by
  refine ⟨Memory.isNew_plain, by decide +kernel, ?_⟩
  have shown : (⟨⟨⟨5⟩, ⟨7⟩, ⟨6⟩⟩, ⟨8⟩, ⟨5⟩⟩ : Quintuple) ∈ Walk.rowsOf
      (QuintupleCursor.walk.visits (.openOn ((start .plain).run lonelyEdge).store relatedToLonely)
        (((start .plain).run lonelyEdge).meetings
          [.request (.call (.createEdge .membership ⟨5⟩ ⟨7⟩)), .next,
            .request (.call (.createEdge .membership ⟨6⟩ ⟨7⟩)), .next])) := by
    decide +kernel
  obtain ⟨⟨store, _⟩, member, rfl⟩ := List.mem_filterMap.1 shown
  exact ((walks_known_edges Memory.isNew_plain lonelyEdge _).2 relatedToLonely member).2

/-- **Edges that are created after a cursor was opened are shown**: one that comes to enter the edge of
a triple, and one that comes to an address that the cursor fixes. -/
theorem shows_latecomers :
    let usage := (start .plain).run lonelyEdge
    let late := [.request (.call (.createEdge .membership ⟨5⟩ ⟨7⟩)), .next]
    ¬ usage.store.HandedOut ⟨8⟩ ∧
      Walk.rowsOf (QuintupleCursor.walk.visits (.openOn usage.store relatedToLonely)
        (usage.meetings late)) = [⟨⟨⟨5⟩, ⟨7⟩, ⟨6⟩⟩, ⟨8⟩, ⟨5⟩⟩] ∧
      Walk.rowsOf (TripleCursor.walk.visits
        (.openOn usage.store ⟨.typed .unknown, .fixed ⟨8⟩, .typed .unknown⟩)
        (usage.meetings late)) = [⟨⟨5⟩, ⟨8⟩, ⟨7⟩⟩] := by
  refine ⟨?_, by decide +kernel, by decide +kernel⟩
  unfold Store.HandedOut
  decide +kernel

end SemanticNetwork.Usage
