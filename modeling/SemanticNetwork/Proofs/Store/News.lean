/-
**What there is to tell about one address.** From one store to a later one, an element can have come to
an address, or can have gone from it. What is told about the address should be that it came or that
it went, and no more. A list of changes is read address by address, apart from what it says of
written payloads.

* `Change.storyOf`, `Change.writes`: what some changes say of one address, and of payloads;
* `Change.repeated`: what several recorders write down of them;
* `Store.news`: what there is to tell about an address;
* `storyOf_cascade`: **an erasure tells of every address just that**;
* `news_trans`: while elements only go, the news of two steps are the news of both.
-/
import SemanticNetwork.Proofs.Store.Dependency
import SemanticNetwork.Proofs.Store.Stability
import SemanticNetwork.Proofs.Template.Origins

namespace SemanticNetwork

namespace Change

/-- A change of a payload. -/
def isWrite : Change → Bool
  | payloadChanged _ => true
  | _ => false

/-- What some changes say of an address, apart from what was written there. -/
def storyOf (address : Address) (changes : List Change) : List Change :=
  changes.filter fun change => change.subject == address && !change.isWrite

/-- What some changes say of written payloads. -/
def writes (changes : List Change) : List Change := changes.filter isWrite

/-- Changes as some recorders write them down, each of them once. -/
def repeated (recorders : Nat) (changes : List Change) : List Change :=
  changes.flatMap (List.replicate recorders)

variable {address : Address} {first second : List Change} {recorders : Nat}

@[simp] theorem storyOf_append :
    storyOf address (first ++ second) = storyOf address first ++ storyOf address second :=
  List.filter_append ..

@[simp] theorem writes_append : writes (first ++ second) = writes first ++ writes second :=
  List.filter_append ..

@[simp] theorem repeated_nil : repeated recorders [] = [] := rfl

@[simp] theorem repeated_append :
    repeated recorders (first ++ second) = repeated recorders first ++ repeated recorders second :=
  List.flatMap_append

@[simp] theorem repeated_singleton (change : Change) :
    repeated recorders [change] = List.replicate recorders change :=
  List.append_nil _

theorem mem_of_mem_repeated {change : Change} {changes : List Change}
    (member : change ∈ repeated recorders changes) : change ∈ changes := by
  obtain ⟨other, member, copy⟩ := List.mem_flatMap.1 member
  exact List.eq_of_mem_replicate copy ▸ member

theorem count_repeated (change : Change) (changes : List Change) :
    (repeated recorders changes).count change = recorders * changes.count change := by
  induction changes with
  | nil => rfl
  | cons other rest hypothesis =>
    rw [repeated, List.flatMap_cons, List.count_append, List.count_replicate, List.count_cons,
      Nat.mul_add, Nat.add_comm]
    refine congrArg₂ _ hypothesis ?_
    split <;> simp

/-- What is picked out of what all recorders write down is picked by each of them. -/
theorem filter_repeated (select : Change → Bool) (changes : List Change) :
    (repeated recorders changes).filter select = repeated recorders (changes.filter select) := by
  induction changes with
  | nil => rfl
  | cons change rest hypothesis =>
    rw [repeated, List.flatMap_cons, List.filter_append, List.filter_replicate]
    refine (congrArg _ hypothesis).trans ?_
    by_cases picked : select change = true
    · rw [if_pos picked, List.filter_cons_of_pos picked]
      rfl
    · rw [if_neg picked, List.filter_cons_of_neg picked]
      rfl

@[simp] theorem storyOf_repeated (changes : List Change) :
    storyOf address (repeated recorders changes) = repeated recorders (storyOf address changes) :=
  filter_repeated _ _

@[simp] theorem writes_repeated (changes : List Change) :
    writes (repeated recorders changes) = repeated recorders (writes changes) :=
  filter_repeated _ _

/-- A change tells that an edge was created. -/
def IsArrivalOf (edge : Address) (change : Change) : Prop :=
  ∃ source target type, change = .edgeAdded edge source target type

/-- A change tells that an edge went. -/
def IsRemovalOf (edge : Address) (change : Change) : Prop :=
  ∃ source target type, change = .edgeRemoved edge source target type

theorem IsArrivalOf.mem_storyOf {edge : Address} {change : Change} {told : List Change}
    (arrival : IsArrivalOf edge change) (member : change ∈ told) : change ∈ storyOf edge told := by
  obtain ⟨source, target, type, rfl⟩ := arrival
  exact List.mem_filter.2 ⟨member, by simp [subject, isWrite]⟩

theorem IsRemovalOf.mem_storyOf {edge : Address} {change : Change} {told : List Change}
    (removal : IsRemovalOf edge change) (member : change ∈ told) : change ∈ storyOf edge told := by
  obtain ⟨source, target, type, rfl⟩ := removal
  exact List.mem_filter.2 ⟨member, by simp [subject, isWrite]⟩

/-- Where nothing is written, all that is said of an address is its story. -/
theorem storyOf_eq_filter {changes : List Change}
    (unwritten : ∀ change ∈ writes changes, change.subject ≠ address) :
    changes.filter (fun change => change.subject == address) = storyOf address changes := by
  refine List.filter_congr fun change member => ?_
  cases write : change.isWrite with
  | false => simp
  | true =>
    have elsewhere := unwritten change (List.mem_filter.2 ⟨member, write⟩)
    simp [elsewhere]

end Change

open Change

namespace Element

variable {element other : Element} {address : Address}

/-- What an element is to those who are told of it: where it is, of which type, and between what. -/
def IsLike (element other : Element) : Prop :=
  element.address = other.address ∧ element.type = other.type ∧ element.ends? = other.ends?

theorem IsLike.symm (like : element.IsLike other) : other.IsLike element :=
  ⟨like.1.symm, like.2.1.symm, like.2.2.symm⟩

theorem IsLike.trans {last : Element} (like : element.IsLike other) (like' : other.IsLike last) :
    element.IsLike last :=
  ⟨like.1.trans like'.1, like.2.1.trans like'.2.1, like.2.2.trans like'.2.2⟩

theorem arrival_eq (element : Element) : element.arrival =
    (element.ends?.map fun ends =>
      Change.edgeAdded element.address ends.1 ends.2 element.type).toList := by
  obtain ⟨_, _, _ | _ | _⟩ := element <;> rfl

/-- The arrival of an edge tells what the edge is. -/
theorem eq_of_mem_arrival {edge source target : Address} {type : ElementType}
    (member : .edgeAdded edge source target type ∈ element.arrival) :
    element = ⟨edge, type, .edge source target⟩ := by
  obtain ⟨_, _, _ | _ | _⟩ := element
  · cases member
  · cases List.mem_singleton.1 member
    rfl
  · cases member

theorem departure_eq (element : Element) : element.departure =
    (element.ends?.map fun ends =>
      Change.edgeRemoved element.address ends.1 ends.2 element.type).toList ++
        [.erased element.address] := by
  obtain ⟨_, _, _ | _ | _⟩ := element <;> rfl

theorem IsLike.arrival (like : element.IsLike other) : element.arrival = other.arrival := by
  obtain ⟨address, type, ends⟩ := like
  rw [arrival_eq, arrival_eq, address, type, ends]

theorem IsLike.departure (like : element.IsLike other) : element.departure = other.departure := by
  obtain ⟨address, type, ends⟩ := like
  rw [departure_eq, departure_eq, address, type, ends]

theorem storyOf_arrival (element : Element) (address : Address) :
    storyOf address element.arrival = if element.address = address then element.arrival else [] := by
  obtain ⟨place, _, _ | _ | _⟩ := element <;> by_cases here : place = address <;>
    simp [Element.arrival, storyOf, Change.subject, Change.isWrite, here]

theorem storyOf_departure (element : Element) (address : Address) :
    storyOf address element.departure =
      if element.address = address then element.departure else [] := by
  obtain ⟨place, _, _ | _ | _⟩ := element <;> by_cases here : place = address <;>
    simp [Element.departure, storyOf, Change.subject, Change.isWrite, here]

end Element

namespace Store

variable {store before after last : Store} {address : Address} {element : Element}
  {waiting : List Address}

/-- **What there is to tell about an address** when one store has become another: that an element
came, or that it went. -/
def news (before after : Store) (address : Address) : List Change :=
  match before.get? address, after.get? address with
  | none, some element => element.arrival
  | some element, none => element.departure
  | _, _ => []

theorem news_of_same (same : after.get? address = before.get? address) :
    before.news after address = [] := by
  unfold news
  rw [same]
  cases before.get? address <;> rfl

theorem news_of_stays {other : Element} (found : before.get? address = some element)
    (found' : after.get? address = some other) : before.news after address = [] := by
  rw [news, found, found']

theorem news_of_came (missing : before.get? address = none)
    (found : after.get? address = some element) : before.news after address = element.arrival := by
  rw [news, missing, found]

theorem news_of_went (found : before.get? address = some element)
    (gone : after.get? address = none) : before.news after address = element.departure := by
  rw [news, found, gone]

/-- An edge that is told to have been created came as it is told of. -/
theorem came_of_mem_news {edge source target : Address} {type : ElementType}
    (member : .edgeAdded edge source target type ∈ before.news after address) :
    before.get? address = none ∧ after.get? address = some ⟨edge, type, .edge source target⟩ := by
  unfold news at member
  split at member
  · rename_i element missing found
    exact ⟨missing, Element.eq_of_mem_arrival member ▸ found⟩
  · rw [Element.departure_eq] at member
    simp at member
  · cases member

/-- An edge that is told to have gone went. -/
theorem went_of_mem_news {edge : Address} {change : Change} (removal : IsRemovalOf edge change)
    (member : change ∈ before.news after address) :
    (∃ element, before.get? address = some element) ∧ after.get? address = none := by
  obtain ⟨source, target, type, rfl⟩ := removal
  unfold news at member
  split at member
  · rw [Element.arrival_eq] at member
    simp at member
  · exact ⟨⟨_, ‹_›⟩, ‹_›⟩
  · cases member

/-- **While elements only go, the news of two steps are the news of both.** -/
theorem news_trans (kept : ∀ {element}, after.get? address = some element →
      before.get? address = some element)
    (kept' : ∀ {element}, last.get? address = some element → after.get? address = some element) :
    before.news after address ++ after.news last address = before.news last address := by
  cases there : after.get? address with
  | some element =>
    have first := kept there
    rw [news_of_stays first there, List.nil_append, news, news, there, first]
  | none =>
    have gone : last.get? address = none := by
      cases found : last.get? address with
      | none => rfl
      | some element => rw [kept' found] at there; cases there
    rw [news_of_same (gone.trans there.symm), List.append_nil, news, news, there, gone]

/-! ### What an erasure tells -/

/-- **Of every address an erasure tells that its element went, if it did**, and no more. -/
theorem storyOf_cascade (consistent : store.ConsistentBut waiting) (address : Address) :
    storyOf address (store.cascade waiting).changes =
      store.news (store.cascade waiting).store address := by
  fun_induction cascade store waiting with
  | case1 store => exact (news_of_same rfl).symm
  | case2 store head waiting missing hypothesis => exact hypothesis (consistent.pass missing)
  | case3 store head waiting element found struck rest hypothesis =>
    have told := hypothesis (consistent.remove found)
    have shrinks := shrinks_cascade (consistent.remove found)
    have first := consistent.shrinks_remove found
    obtain rfl : element.address = head := consistent.keyed found
    rw [storyOf_append, told, Element.storyOf_departure, ← news_trans first.kept shrinks.kept]
    refine congrArg (· ++ _) ?_
    by_cases here : element.address = address
    · subst here
      rw [if_pos rfl, news_of_went found (by rw [get?_sever, get?_strike, if_pos rfl])]
    · rw [if_neg here, news_of_same]
      rw [get?_sever, get?_strike, if_neg (Ne.symm here)]

/-- An erasure tells of no written payload. -/
theorem writes_cascade (consistent : store.ConsistentBut waiting) :
    writes (store.cascade waiting).changes = [] := by
  refine List.filter_eq_nil_iff.2 fun change member write => ?_
  cases change with
  | payloadChanged link => exact payloadChanged_not_mem_cascade consistent link member
  | edgeAdded edge source target type => cases write
  | edgeRemoved edge source target type => cases write
  | erased element => cases write

theorem storyOf_erase (consistent : store.Consistent) (address other : Address) :
    storyOf other (store.erase address).changes = store.news (store.erase address).store other := by
  rw [consistent.erase_eq_cascade]
  exact storyOf_cascade (consistent.anyWaiting _) other

theorem writes_erase (consistent : store.Consistent) (address : Address) :
    writes (store.erase address).changes = [] := by
  rw [consistent.erase_eq_cascade]
  exact writes_cascade (consistent.anyWaiting _)

/-! ### What becomes of an element -/

/-- An element that is still there is like what it was. -/
theorem Precedes.isLike (precedes : before.Precedes after) (consistent : before.Consistent)
    (consistent' : after.Consistent) (found : before.get? address = some element) {other : Element}
    (found' : after.get? address = some other) : element.IsLike other := by
  have older := (consistent.numbered found).2
  obtain ⟨former, there, type, ends⟩ := precedes.old found' older
  obtain rfl : element = former := Option.some.inj (found.symm.trans there)
  exact ⟨(consistent.keyed found).trans (consistent'.keyed found').symm, type, ends⟩

end Store

end SemanticNetwork
