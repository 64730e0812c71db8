/-
**What a generation reports.** The changes that a generation holds back say of every address that an
edge came to it, if one did, and say so once; whatever the template is. They say nothing of payloads.

* `Reports`, `stepwise_reports`: every step sees to it;
* `reports_generate`: **a generation reports of every address what there is to tell.**
-/
import SemanticNetwork.Proofs.Store.News

namespace SemanticNetwork.Template

open Change Store

/-- A generation grows, and its changes say of every address what there is to tell. -/
structure Reports (start : Store) (state : Generation) : Prop where
  grows : Grows start state
  story : ∀ address, storyOf address state.changes = start.news state.store address
  writes : writes state.changes = []

variable {start : Store} {state : Generation}

theorem reports_start (consistent : start.Consistent) (valuation : Valuation) :
    Reports start ⟨start, valuation, [], []⟩ where
  grows := grows_start consistent valuation
  story _ := (news_of_same rfl).symm
  writes := rfl

/-- What is not new and not told of does not matter. -/
theorem Reports.remember {after : Generation} (reports : Reports start state)
    (grows : Grows start after) (elements : after.store.elements = state.store.elements)
    (changes : after.changes = state.changes) : Reports start after where
  grows := grows
  story address := by
    have same : after.store.get? address = state.store.get? address :=
      congrArg (fun elements : AddressMap Element => elements.get? address) elements
    rw [changes, reports.story address, news, news, same]
  writes := changes ▸ reports.writes

/-- A new element is reported by its arrival. -/
theorem Reports.add {after : Generation} {element : Element} (consistent : start.Consistent)
    (reports : Reports start state) (grows : Grows start after)
    (adds : state.store.Adds element after.store)
    (changes : after.changes = state.changes ++ element.arrival) : Reports start after where
  grows := grows
  story address := by
    rw [changes, storyOf_append, reports.story address, Element.storyOf_arrival]
    by_cases here : element.address = address
    · subst here
      have newer : state.store.allocated < element.address.value :=
        adds.address ▸ Nat.lt_succ_self _
      have before := reports.grows.consistent.get?_of_newer newer
      have never := consistent.get?_of_newer (Nat.lt_of_le_of_lt reports.grows.allocated newer)
      rw [if_pos rfl, news_of_same (before.trans never.symm), news_of_came never adds.get?_self]
      rfl
    · rw [if_neg here, List.append_nil, news, news, adds.get?_eq, if_neg (Ne.symm here)]
  writes := by
    have noWrite : Change.writes element.arrival = [] := by
      obtain ⟨_, _, _ | _ | _⟩ := element <;> rfl
    rw [changes, writes_append, reports.writes, noWrite]
    rfl

/-- A step that creates what is no edge has nothing to report. -/
theorem keeps_makeElement_reports (consistent : start.Consistent) {action : Store.Action Address}
    (creates : Store.Creates action)
    (adds : ∀ {store after address}, action.run store = .ok address after →
      ∃ element, element.ends? = none ∧ store.Adds element after) :
    Keeps (Reports start) (makeElement action) where
  ok {state address after} reports ran := by
    have grows := (keeps_makeElement creates).ok reports.grows ran
    simp only [makeElement, run_bind_ok_iff, run_withStore_ok_iff] at ran
    obtain ⟨_, _, ⟨store, ran, rfl⟩, _, _, recorded, returned⟩ := ran
    cases recorded
    cases returned
    obtain ⟨element, noEdge, added⟩ := adds ran
    refine reports.add consistent grows added ?_
    rw [Element.arrival_eq_nil noEdge, List.append_nil]
  error {state error after} reports ran := by
    have grows := (keeps_makeElement creates).error reports.grows ran
    simp only [makeElement, run_bind_error_iff, run_withStore_error_iff] at ran
    rcases ran with ⟨reason, store, ran, -, rfl⟩ | ⟨_, _, -, recorded | ⟨_, _, -, returned⟩⟩
    · exact reports.remember grows (creates.spends ran).elements rfl
    · cases recorded
    · cases returned

/-- A step that creates an edge reports it. -/
theorem keeps_makeEdge_reports (consistent : start.Consistent) (type : ElementType)
    (source target : Address) : Keeps (Reports start) (makeEdge type source target) where
  ok {state address after} reports ran := by
    have grows := ((stepwise_grows start).makeEdge type source target).ok reports.grows ran
    simp only [makeEdge, makeElement, run_bind_ok_iff, run_withStore_ok_iff] at ran
    obtain ⟨_, _, ⟨_, _, ⟨store, ran, rfl⟩, _, _, recorded, returned⟩, _, _, told, returned'⟩ := ran
    cases recorded
    cases returned
    cases told
    cases returned'
    exact reports.add consistent grows (Store.createEdge_ok ran).2.2 rfl
  error {state error after} reports ran := by
    have grows := ((stepwise_grows start).makeEdge type source target).error reports.grows ran
    simp only [makeEdge, makeElement, run_bind_error_iff, run_bind_ok_iff, run_withStore_ok_iff,
      run_withStore_error_iff] at ran
    rcases ran with (⟨reason, store, ran, -, rfl⟩ | ⟨_, _, -, recorded | ⟨_, _, -, returned⟩⟩) |
      ⟨_, _, -, told | ⟨_, _, -, returned⟩⟩
    · exact reports.remember grows (Store.createEdge_error ran).elements rfl
    · cases recorded
    · cases returned
    · cases told
    · cases returned

/-- **Every step reports what it does.** -/
theorem stepwise_reports (consistent : start.Consistent) : Stepwise (Reports start) where
  makeNode type := keeps_makeElement_reports consistent (Store.creates_createNode type)
    fun ran => ⟨_, rfl, (Store.createNode_ok ran).2.2⟩
  makeLink type := keeps_makeElement_reports consistent (Store.creates_createTypedLink type)
    fun ran => ⟨_, rfl, (Store.createTypedLink_ok ran).2.2⟩
  makeEdge := keeps_makeEdge_reports consistent
  bindSlot _ _ := .modify fun _ reports =>
    reports.remember (reports.grows.remember rfl rfl) rfl rfl

/-- **A generation reports of every address what there is to tell**, however it ends. -/
theorem reports_generate (consistent : start.Consistent) (template : Template)
    (parameters : Assignment) :
    (∀ address, storyOf address (template.generate start parameters).changes =
        start.news (template.generate start parameters).store address) ∧
      writes (template.generate start parameters).changes = [] := by
  cases outcome : (template.generate start parameters).outcome with
  | error error =>
    obtain ⟨silent, allocated, -, restored⟩ := generate_error_restores consistent outcome
    rw [silent, restored]
    exact ⟨fun address => (news_of_same rfl).symm, rfl⟩
  | ok made =>
    unfold generate at outcome ⊢
    split at outcome
    · rename_i valuation prepared
      unfold generateFrom at outcome ⊢
      split at outcome
      · rename_i triples state ran
        have reports := (keeps_generateTriples (stepwise_reports consistent) template).ok
          (reports_start consistent valuation) ran
        exact ⟨reports.story, reports.writes⟩
      · cases outcome
    · cases outcome

end SemanticNetwork.Template
