/-
**What is heard of an operation.** While changes are told, observers may erase, and what that changes is
told to all in between; yet in the end every observer has heard of every change once. So of every
address observers hear what there is to tell, whatever is done to the network, and of every payload
that was written that it was. What a recorder hears stands in its journal.

* `Network.Settles`, `settles_tell`: while changes are told, elements go and none comes;
* `story_told`, `writes_told`: **telling, however it nests, leaves out nothing and repeats nothing**;
* `Deed`, `Network.carry`, `Network.prepare`: what is done to a network, one operation at a time, and
  what is to be told of it;
* `Network.Reports`, `reports_prepare`: of every operation the news are to be told;
* `Network.overheard`, `story_overheard`: **of every operation observers hear the news**;
* `Network.Logs`, `logs_carry`: so recorders write them down.
-/
import SemanticNetwork.Proofs.Network.Generation
import SemanticNetwork.Proofs.Template.Reporting

namespace SemanticNetwork

open Change Store

namespace Network

variable {network after done : Network} {waiting : List (Change × Observer)} {address : Address}
  {ear : Observer → Bool} {changes : List Change} {links : List Address}

/-! ### Telling -/

/-- **What becomes of a network while changes are told**: elements go, and none comes. -/
structure Settles (network after : Network) : Prop where
  consistent : after.store.Consistent
  observers : after.observers = network.observers
  allocated : after.store.allocated = network.store.allocated
  kept : ∀ {address element}, after.store.get? address = some element →
    network.store.get? address = some element

theorem Settles.refl (consistent : network.store.Consistent) : network.Settles network :=
  ⟨consistent, rfl, rfl, id⟩

theorem Settles.trans {last : Network} (first : network.Settles after) (second : after.Settles last) :
    network.Settles last :=
  ⟨second.consistent, second.observers.trans first.observers,
    second.allocated.trans first.allocated, fun found => first.kept (second.kept found)⟩

theorem Settles.precedes (settles : network.Settles after) : network.store.Precedes after.store :=
  ⟨Nat.le_of_eq settles.allocated.symm, fun found _ => ⟨_, settles.kept found, rfl, rfl⟩⟩

section Telling

variable (consistent : network.store.Consistent)

include consistent

theorem settles_react (change : Change) (observer : Observer) :
    network.Settles (network.react change observer).1 := by
  have observers := observers_react network change observer
  rcases network.react_cases change observer with ⟨-, -, alike⟩ | ⟨victim, -, store, -⟩
  · rw [← alike.store] at consistent
    exact ⟨consistent, observers, by rw [alike.store], fun found => alike.store ▸ found⟩
  · have shrinks := shrinks_erase consistent victim
    exact ⟨store ▸ consistent_erase consistent victim, observers, by rw [store, shrinks.allocated],
      fun found => shrinks.kept (store ▸ found)⟩

/-- **An observer reports of every address what there is to tell**, and of no written payload. -/
theorem story_react (change : Change) (observer : Observer) (address : Address) :
    storyOf address (network.react change observer).2 =
        network.store.news (network.react change observer).1.store address ∧
      writes (network.react change observer).2 = [] := by
  rcases network.react_cases change observer with ⟨-, silent, alike⟩ | ⟨victim, -, store, reported⟩
  · rw [silent, alike.store, news_of_same rfl]
    exact ⟨rfl, rfl⟩
  · rw [reported, store]
    exact ⟨storyOf_erase consistent victim address, writes_erase consistent victim⟩

theorem settles_tell (waiting : List (Change × Observer)) :
    network.Settles (network.tell waiting) := by
  fun_induction tell network waiting with
  | case1 network => exact .refl consistent
  | case2 network change observer waiting reaction hypothesis =>
    have settles := settles_react consistent change observer
    exact settles.trans (hypothesis settles.consistent)

/-- **Telling, however it nests, leaves out nothing and repeats nothing**: observers of a kind hear of
an address what waited to be told them, and each that its element went, if it did. -/
theorem story_told (waiting : List (Change × Observer)) (address : Address) :
    (storyOf address (toldTo ear (network.told waiting))).Perm
      (storyOf address (toldTo ear waiting) ++
        repeated (network.ears ear) (network.store.news (network.tell waiting).store address)) := by
  -- The induction follows the telling; what an observer changes is told before what waited already.
  fun_induction tell network waiting with
  | case1 network =>
    rw [told, news_of_same rfl, repeated_nil, List.append_nil]
  | case2 network change observer waiting reaction hypothesis =>
    have settles := settles_react consistent change observer
    have later := hypothesis settles.consistent
    have settled := settles_tell settles.consistent (reaction.1.audience reaction.2 ++ waiting)
    have whole : network.store.news reaction.1.store address ++
        reaction.1.store.news (reaction.1.tell (reaction.1.audience reaction.2 ++ waiting)).store
          address =
        network.store.news (reaction.1.tell (reaction.1.audience reaction.2 ++ waiting)).store address :=
      news_trans settles.kept settled.kept
    rw [toldTo_append, toldTo_audience, ears_congr settles.observers, storyOf_append,
      storyOf_repeated, (story_react consistent change observer address).1] at later
    rw [told, toldTo_cons, toldTo_cons, storyOf_append, storyOf_append, List.append_assoc,
      ← whole, repeated_append]
    refine .append_left _ (later.trans ?_)
    rw [← List.append_assoc]
    exact List.perm_append_comm.append_right _

/-- Of written payloads observers hear what waited to be told them. -/
theorem writes_told (waiting : List (Change × Observer)) :
    writes (toldTo ear (network.told waiting)) = writes (toldTo ear waiting) := by
  fun_induction tell network waiting with
  | case1 network => rw [told]
  | case2 network change observer waiting reaction hypothesis =>
    have later := hypothesis (settles_react consistent change observer).consistent
    rw [toldTo_append, toldTo_audience, writes_append, writes_repeated,
      (story_react consistent change observer .invalid).2, repeated_nil, List.nil_append] at later
    rw [told, toldTo_cons, toldTo_cons, writes_append, writes_append, later]

theorem settles_publish (changes : List Change) : network.Settles (network.publish changes) :=
  settles_tell consistent _

/-- **Of what is told to all** each observer hears once, and of all that follows. -/
theorem story_echo (changes : List Change) (address : Address) :
    (storyOf address (network.echo ear changes)).Perm
      (repeated (network.ears ear)
        (storyOf address changes ++ network.store.news (network.publish changes).store address)) := by
  refine (story_told consistent (network.audience changes) address).trans ?_
  rw [toldTo_audience, storyOf_repeated, ← repeated_append]
  rfl

theorem writes_echo (changes : List Change) :
    writes (network.echo ear changes) = repeated (network.ears ear) (writes changes) := by
  rw [echo, writes_told consistent, toldTo_audience, writes_repeated]

end Telling

/-! ### What there is to tell -/

/-- **Changes report what was done to a store**: of every address they say what there is to tell, with
what follows from telling it, and of the payloads that were written. -/
structure Reports (network : Network) (wrote : List Address) (done : Network)
    (changes : List Change) : Prop where
  consistent : done.store.Consistent
  observers : done.observers = network.observers
  precedes : network.store.Precedes done.store
  story : ∀ address, storyOf address changes ++
      done.store.news (done.publish changes).store address =
    network.store.news (done.publish changes).store address
  writes : writes changes = wrote.map .payloadChanged

namespace Reports

/-- **What is reported is heard**, once by each observer. -/
theorem story_echo (reports : network.Reports links done changes) (address : Address) :
    (storyOf address (done.echo ear changes)).Perm
      (repeated (network.ears ear) (network.store.news (done.publish changes).store address)) := by
  refine (Network.story_echo reports.consistent changes address).trans ?_
  rw [reports.story, ears_congr reports.observers]

theorem writes_echo (reports : network.Reports links done changes) :
    Change.writes (done.echo ear changes) =
      repeated (network.ears ear) (links.map .payloadChanged) := by
  rw [Network.writes_echo reports.consistent, reports.writes, ears_congr reports.observers]

theorem settles (reports : network.Reports links done changes) : done.Settles (done.publish changes) :=
  settles_publish reports.consistent changes

/-- Where elements were added, and are told of by arrivals. -/
theorem of_arrivals {store : Store} (consistent : store.Consistent)
    (precedes : network.store.Precedes store) (arrivals : ∀ change ∈ changes, change.IsArrival)
    (story : ∀ address, storyOf address changes = network.store.news store address) :
    network.Reports [] { network with store := store } changes where
  consistent := consistent
  observers := rfl
  precedes := precedes
  story address := by
    rw [(publish_arrivals arrivals _).2.store, story address, news_of_same rfl, List.append_nil]
  writes := by
    refine List.filter_eq_nil_iff.2 fun change member write => ?_
    obtain ⟨edge, source, target, type, rfl⟩ := arrivals change member
    cases write

/-- Of a refusal there is nothing to tell. -/
theorem of_spends {store : Store} (consistent : network.store.Consistent)
    (spends : network.store.Spends store) :
    network.Reports [] { network with store := store } [] := by
  refine .of_arrivals (spends.consistent consistent) spends.precedes nofun fun address => ?_
  have same : store.get? address = network.store.get? address :=
    congrArg (fun elements : AddressMap Element => elements.get? address) spends.elements
  exact (news_of_same same).symm

/-- **What is added is told of by its arrival.** -/
theorem of_adds {store : Store} {element : Element} (consistent : network.store.Consistent)
    (consistent' : store.Consistent) (adds : network.store.Adds element store) :
    network.Reports [] { network with store := store } element.arrival := by
  refine .of_arrivals consistent' adds.precedes (fun _ => isArrival_of_mem_arrival) fun address => ?_
  rw [Element.storyOf_arrival]
  by_cases here : element.address = address
  · subst here
    have missing := consistent.get?_nextAddress
    rw [← adds.address] at missing
    rw [if_pos rfl, news_of_came missing adds.get?_self]
  · rw [if_neg here, news_of_same ((adds.get?_eq address).trans (if_neg (Ne.symm here)))]

end Reports

/-- A written payload is no news. -/
theorem news_hold {store last : Store} {link : Address} {element : Element} {payload : Payload}
    (found : store.get? link = some element) (isLink : element.isLink = true) (address : Address) :
    (store.hold link element payload).news last address = store.news last address := by
  have like : ({ element with body := .link (some payload) } : Element).IsLike element := by
    obtain ⟨_, _, _ | _ | _⟩ := element
    · exact ⟨rfl, rfl, rfl⟩
    · cases isLink
    · exact ⟨rfl, rfl, rfl⟩
  by_cases here : address = link
  · subst here
    have held := (get?_hold store address address element payload).trans (if_pos rfl)
    cases there : last.get? address with
    | none => rw [news_of_went held there, news_of_went found there, like.departure]
    | some other => rw [news_of_stays held there, news_of_stays found there]
  · have same := (get?_hold store link address element payload).trans (if_neg here)
    rw [news, news, same]

/-! ### One operation after another -/

/-- What is done to a network, one operation at a time. -/
inductive Deed where
  | createNode (type : ElementType)
  | createTypedLink (type : ElementType)
  | createEdge (type : ElementType) (source target : Address)
  | setPayload (link : Address) (payload : Payload)
  | erase (address : Address)
  | generate (template : Template) (parameters : Assignment)
  /-- Keep track of other links. -/
  | track (links : List Address)

/-- The network after a deed, which may be refused. -/
def carry (network : Network) : Deed → Network
  | .createNode type => network.attempt (createNode type)
  | .createTypedLink type => network.attempt (createTypedLink type)
  | .createEdge type source target => network.attempt (createEdge type source target)
  | .setPayload link payload => network.attempt (setPayload link payload)
  | .erase address => network.erase address
  | .generate template parameters => (network.generate template parameters).2
  | .track links => { network with identifierLinks := links }

/-- The link that a deed writes, if it is not refused. -/
def wrote (network : Network) : Deed → List Address
  | .setPayload link payload =>
    match (setPayload link payload).run network with
    | .ok _ _ => [link]
    | .error _ _ => []
  | _ => []

theorem carry_createLink (network : Network) :
    network.carry (.createTypedLink .constantLink) = network.attempt createLink := by
  rw [carry, createLink, Store.createLink_eq]
  rfl

/-- A network in which something was done to the store, with what is to be told of it if it was not
refused. -/
def prepareWith {α : Type} (network : Network) (action : Store.Action α) (changes : α → List Change) :
    Network × List Change :=
  match action.run network.store with
  | .ok value store => ({ network with store := store }, changes value)
  | .error _ store => ({ network with store := store }, [])

/-- What a deed does before anything is told, and what is to be told of it. -/
def prepare (network : Network) : Deed → Network × List Change
  | .createNode type => network.prepareWith (Store.createNode type) fun _ => []
  | .createTypedLink type => network.prepareWith (Store.createTypedLink type) fun _ => []
  | .createEdge type source target =>
    network.prepareWith (Store.createEdge type source target)
      fun edge => [.edgeAdded edge source target type]
  | .setPayload link payload =>
    network.prepareWith (Store.setPayload link payload) fun _ => [.payloadChanged link]
  | .erase address => network.eraseSilently address
  | .generate template parameters =>
    let made := template.generate network.store parameters
    ({ network with store := made.store }, made.changes)
  | .track links => ({ network with identifierLinks := links }, [])

/-- **A deed is done and then told.** -/
theorem carry_eq (network : Network) (deed : Deed) :
    network.carry deed = (network.prepare deed).1.publish (network.prepare deed).2 := by
  cases deed with
  | createNode type =>
    rw [carry, attempt, createNode, run_onStore, prepare, prepareWith]
    cases (Store.createNode type).run network.store <;> exact (publish_nil _).symm
  | createTypedLink type =>
    rw [carry, attempt, createTypedLink, run_onStore, prepare, prepareWith]
    cases (Store.createTypedLink type).run network.store <;> exact (publish_nil _).symm
  | createEdge type source target =>
    rw [carry, attempt, run_createEdge, prepare, prepareWith]
    cases (Store.createEdge type source target).run network.store with
    | ok edge store => rfl
    | error error store => exact (publish_nil _).symm
  | setPayload link payload =>
    rw [carry, attempt, run_setPayload, prepare, prepareWith]
    cases (Store.setPayload link payload).run network.store with
    | ok value store => rfl
    | error error store => exact (publish_nil _).symm
  | erase address => rfl
  | generate template parameters => rfl
  | track links => exact (publish_nil _).symm

/-- What observers of a kind hear of a deed. -/
def overheard (network : Network) (ear : Observer → Bool) (deed : Deed) : List Change :=
  (network.prepare deed).1.echo ear (network.prepare deed).2

/-- Before anything is told, nothing is remembered. -/
theorem remembered_prepare (network : Network) (deed : Deed) :
    (network.prepare deed).1.journals = network.journals ∧
      (network.prepare deed).1.events = network.events := by
  have prepared : ∀ {α : Type} (action : Store.Action α) (changes : α → List Change),
      (network.prepareWith action changes).1.journals = network.journals ∧
        (network.prepareWith action changes).1.events = network.events := by
    intro α action changes
    unfold prepareWith
    split <;> exact ⟨rfl, rfl⟩
  cases deed with
  | createNode | createTypedLink | createEdge | setPayload => exact prepared _ _
  | erase | generate | track => exact ⟨rfl, rfl⟩

/-- **In a journal stands what its recorders hear.** -/
theorem journal_carry (network : Network) (deed : Deed) (number : Nat) :
    (network.carry deed).journal number =
      network.journal number ++ network.overheard (Observer.isRecorder number) deed := by
  rw [carry_eq, journal_publish, overheard, journal, (network.remembered_prepare deed).1]
  rfl

/-- **The hub has published what it heard.** -/
theorem events_carry (network : Network) (deed : Deed) : (network.carry deed).events =
    (network.overheard Observer.isEvents deed).foldl EventHub.publish network.events := by
  rw [carry_eq, events_publish, overheard, (network.remembered_prepare deed).2]

section Deeds

variable (consistent : network.store.Consistent)

include consistent

/-- Of what an operation creates its arrival is to be told. -/
theorem reports_prepareWith {action : Store.Action Address} {told : Address → List Change}
    (creates : Store.Creates action)
    (arrives : ∀ {store created}, action.run network.store = .ok created store →
      ∃ element, network.store.Adds element store ∧ element.arrival = told created) :
    network.Reports [] (network.prepareWith action told).1 (network.prepareWith action told).2 := by
  rw [prepareWith]
  cases ran : action.run network.store with
  | error error store => exact .of_spends consistent (creates.spends ran)
  | ok created store =>
    obtain ⟨element, adds, arrival⟩ := arrives ran
    have reports := Reports.of_adds consistent (creates.keeps.ok consistent ran) adds
    rwa [arrival] at reports

/-- An erasure leaves to be told what it erased. -/
theorem reports_eraseSilently (address : Address) :
    network.Reports [] (network.eraseSilently address).1 (network.eraseSilently address).2 := by
  have shrinks := shrinks_erase consistent address
  refine ⟨consistent_erase consistent address, rfl, shrinks.precedes, fun other => ?_,
    writes_erase consistent address⟩
  have erased : (network.eraseSilently address).1.store.Consistent :=
    consistent_erase consistent address
  have settles := settles_publish erased (network.store.erase address).changes
  have story : storyOf other (network.store.erase address).changes =
      network.store.news (network.store.erase address).store other :=
    storyOf_erase consistent address other
  exact (congrArg (· ++ _) story).trans (news_trans shrinks.kept settles.kept)

/-- **Of every deed the news are to be told.** -/
theorem reports_prepare (deed : Deed) :
    network.Reports (network.wrote deed) (network.prepare deed).1 (network.prepare deed).2 := by
  cases deed with
  | createNode type =>
    exact reports_prepareWith consistent (creates_createNode type) fun ran =>
      ⟨_, (createNode_ok ran).2.2, Element.arrival_eq_nil rfl⟩
  | createTypedLink type =>
    exact reports_prepareWith consistent (creates_createTypedLink type) fun ran =>
      ⟨_, (createTypedLink_ok ran).2.2, Element.arrival_eq_nil rfl⟩
  | createEdge type source target =>
    exact reports_prepareWith consistent (creates_createEdge type source target) fun ran =>
      ⟨_, (createEdge_ok ran).2.2, rfl⟩
  | setPayload link payload =>
    rw [prepare, prepareWith, wrote, run_setPayload]
    cases ran : (Store.setPayload link payload).run network.store with
    | error error store => exact .of_spends consistent (setPayload_error ran)
    | ok value store =>
      obtain ⟨element, found, isLink, rfl⟩ := setPayload_ok ran
      refine ⟨consistent.hold found isLink, rfl, precedes_hold found isLink,
        fun address => ?_, rfl⟩
      have silent : storyOf address [.payloadChanged link] = [] := by simp [storyOf, isWrite]
      rw [silent, List.nil_append]
      exact news_hold found isLink address
  | erase address => exact reports_eraseSilently consistent address
  | generate template parameters =>
    exact .of_arrivals (Template.consistent_generate consistent template parameters)
      (precedes_generate consistent template parameters)
      (Template.announced_generate consistent template parameters).arrivals
      (Template.reports_generate consistent template parameters).1
  | track links =>
    refine ⟨consistent, rfl, .refl _, fun address => ?_, rfl⟩
    rw [prepare, publish_nil]
    rfl

/-- **Of every deed observers hear the news**, whatever other observers do. -/
theorem story_overheard (ear : Observer → Bool) (deed : Deed) (address : Address) :
    (storyOf address (network.overheard ear deed)).Perm
      (repeated (network.ears ear) (network.store.news (network.carry deed).store address)) := by
  rw [carry_eq]
  exact (reports_prepare consistent deed).story_echo address

theorem writes_overheard (ear : Observer → Bool) (deed : Deed) :
    writes (network.overheard ear deed) =
      repeated (network.ears ear) ((network.wrote deed).map .payloadChanged) :=
  (reports_prepare consistent deed).writes_echo

end Deeds

/-! ### What is written down -/

/-- **An operation leaves a faithful record**: recorders have written down of every address what there
is to tell, and of the payloads that were written. -/
structure Logs (network : Network) (wrote : List Address) (after : Network) : Prop where
  consistent : after.store.Consistent
  observers : after.observers = network.observers
  precedes : network.store.Precedes after.store
  heard : ∀ number, ∃ heard, after.journal number = network.journal number ++ heard ∧
    (∀ address, (storyOf address heard).Perm
      (repeated (network.recorders number) (network.store.news after.store address))) ∧
    writes heard = repeated (network.recorders number) (wrote.map .payloadChanged)

/-- **Of every operation recorders write down the news**, whatever other observers do. -/
theorem logs_carry (consistent : network.store.Consistent) (deed : Deed) :
    network.Logs (network.wrote deed) (network.carry deed) := by
  have reports := reports_prepare consistent deed
  have settles := reports.settles
  rw [← carry_eq] at settles
  exact {
    consistent := settles.consistent
    observers := settles.observers.trans reports.observers
    precedes := reports.precedes.trans settles.precedes
    heard := fun number => ⟨_, network.journal_carry deed number,
      story_overheard consistent _ deed, writes_overheard consistent _ deed⟩ }

end Network

end SemanticNetwork
