/-
**Hearing of changes.** While changes are told, who is told of what, and in which order, is all that
observers remember afterwards: a recorder has written it down, and the hub has published it. Most
changes move no observer to do anything. Of such changes every observer hears in turn, nothing
follows, and the store stays as it is.

* `Network.told`: who is told of what, in order;
* `journal_tell`, `events_tell`: **what is remembered is what was told**;
* `Network.echo`: what observers of a kind hear when some changes are told to all;
* `Alike`: networks that differ at most in what their observers remember;
* `Unmoved`: no observer has anything to do about a change;
* `publish_of_unmoved`: **where nobody is moved, telling is hearing**;
* `publish_arrivals`: new edges move nobody;
* `exists_turns`: **telling ends**, with a bound on how many observers hear of something.
-/
import Mathlib.Logic.Function.Iterate
import SemanticNetwork.Network.Operations
import SemanticNetwork.Proofs.Store.News
import SemanticNetwork.Proofs.Template.Announcement

namespace SemanticNetwork.Network

open Change (repeated)

variable {network other : Network} {change : Change} {observer : Observer} {ear : Observer → Bool}
  {waiting : List (Change × Observer)}

/-! ### Who is told of what -/

/-- Who is told of what, in order, while some changes are told. -/
def told (network : Network) : List (Change × Observer) → List (Change × Observer)
  | [] => []
  | (change, observer) :: waiting =>
    let reaction := network.react change observer
    (change, observer) :: told reaction.1 (reaction.1.audience reaction.2 ++ waiting)
termination_by waiting => network.turnsLeft waiting
decreasing_by exact turnsLeft_react_lt network change observer waiting

/-- The changes that observers of a kind are told of. -/
def toldTo (ear : Observer → Bool) (told : List (Change × Observer)) : List Change :=
  (told.filter fun pair => ear pair.2).map Prod.fst

/-- How many observers of a kind there are. -/
def ears (network : Network) (ear : Observer → Bool) : Nat := network.observers.countP ear

/-- How many recorders write into the journal of a number. -/
def recorders (network : Network) (number : Nat) : Nat := network.ears (Observer.isRecorder number)

theorem ears_congr (same : other.observers = network.observers) : other.ears ear = network.ears ear := by
  rw [ears, ears, same]

@[simp] theorem toldTo_nil : toldTo ear [] = [] := rfl

theorem toldTo_cons (change : Change) (observer : Observer) (rest : List (Change × Observer)) :
    toldTo ear ((change, observer) :: rest) =
      (if ear observer = true then [change] else []) ++ toldTo ear rest := by
  by_cases hears : ear observer = true <;> simp [toldTo, hears]

theorem toldTo_append (first second : List (Change × Observer)) :
    toldTo ear (first ++ second) = toldTo ear first ++ toldTo ear second := by
  rw [toldTo, List.filter_append, List.map_append]
  rfl

/-- Every observer of a kind is to be told of every change once. -/
theorem toldTo_audience (network : Network) (changes : List Change) :
    toldTo ear (network.audience changes) = repeated (network.ears ear) changes := by
  rw [toldTo, audience, List.filter_flatMap, List.map_flatMap]
  refine congrArg (changes.flatMap ·) (funext fun change => ?_)
  rw [List.filter_map, List.map_map, ears, List.countP_eq_length_filter]
  exact List.map_const'

/-! ### What is remembered -/

theorem journal_writeDown (network : Network) (number other : Nat) (change : Change) :
    (network.writeDown number change).journal other =
      network.journal other ++ if number = other then [change] else [] := by
  simp only [journal, writeDown, KeyMap.get?_insert]
  by_cases same : number = other
  · subst same
    simp
  · rw [if_neg (Ne.symm same), if_neg same, List.append_nil]

/-- A recorder writes down what it hears, and no one else does. -/
theorem journal_react (network : Network) (change : Change) (observer : Observer) (number : Nat) :
    (network.react change observer).1.journal number =
      network.journal number ++ if observer.isRecorder number = true then [change] else [] := by
  cases observer with
  | recorder other =>
    refine (network.journal_writeDown other number change).trans ?_
    simp [Observer.isRecorder]
  | events => exact (List.append_nil _).symm
  | linkReaper =>
    unfold react
    simp only
    split <;> exact (List.append_nil _).symm
  | eraser eraser =>
    unfold react
    simp only
    split <;> exact (List.append_nil _).symm

/-- The hub publishes what it hears. -/
theorem events_react (network : Network) (change : Change) (observer : Observer) :
    (network.react change observer).1.events =
      (if observer.isEvents = true then [change] else []).foldl EventHub.publish network.events := by
  cases observer with
  | recorder number => rfl
  | events => rfl
  | linkReaper =>
    unfold react
    simp only
    split <;> rfl
  | eraser eraser =>
    unfold react
    simp only
    split <;> rfl

/-- **In a journal stands what its recorders were told**, in order. -/
theorem journal_tell (network : Network) (waiting : List (Change × Observer)) (number : Nat) :
    (network.tell waiting).journal number =
      network.journal number ++ toldTo (Observer.isRecorder number) (network.told waiting) := by
  fun_induction tell network waiting with
  | case1 network => rw [told, toldTo_nil, List.append_nil]
  | case2 network change observer waiting reaction hypothesis =>
    rw [hypothesis, journal_react, told, toldTo_cons, List.append_assoc]

/-- **The hub has published what it was told**, in order. -/
theorem events_tell (network : Network) (waiting : List (Change × Observer)) :
    (network.tell waiting).events =
      (toldTo Observer.isEvents (network.told waiting)).foldl EventHub.publish network.events := by
  fun_induction tell network waiting with
  | case1 network => rw [told]; rfl
  | case2 network change observer waiting reaction hypothesis =>
    rw [hypothesis, events_react, told, toldTo_cons, List.foldl_append]

/-- What observers of a kind hear when some changes are told to all. -/
def echo (network : Network) (ear : Observer → Bool) (changes : List Change) : List Change :=
  toldTo ear (network.told (network.audience changes))

theorem journal_publish (network : Network) (changes : List Change) (number : Nat) :
    (network.publish changes).journal number =
      network.journal number ++ network.echo (Observer.isRecorder number) changes :=
  network.journal_tell _ number

theorem events_publish (network : Network) (changes : List Change) :
    (network.publish changes).events =
      (network.echo Observer.isEvents changes).foldl EventHub.publish network.events :=
  network.events_tell _

/-- Of nothing nobody hears. -/
theorem echo_nil (network : Network) (ear : Observer → Bool) : network.echo ear [] = [] := by
  rw [echo, audience, List.flatMap_nil, told]
  rfl

/-! ### Changes that move nobody -/

/-- Where there is nothing to tell, nobody hears anything. -/
theorem publish_nil (network : Network) : network.publish [] = network := by
  unfold publish audience
  rw [List.flatMap_nil, tell]

/-- Networks that differ at most in what their observers remember. -/
structure Alike (network other : Network) : Prop where
  store : other.store = network.store
  observers : other.observers = network.observers
  identifierLinks : other.identifierLinks = network.identifierLinks

theorem Alike.refl (network : Network) : network.Alike network := ⟨rfl, rfl, rfl⟩

theorem Alike.trans {third : Network} (first : network.Alike other) (second : other.Alike third) :
    network.Alike third :=
  ⟨second.store.trans first.store, second.observers.trans first.observers,
    second.identifierLinks.trans first.identifierLinks⟩

/-- What an observer erases on hearing of a change. -/
def victim? (network : Network) (change : Change) : Observer → Option Address
  | .recorder _ | .events => none
  | .linkReaper => network.orphanedLink? change
  | .eraser eraser => eraser.chooses network.store change

/-- **An observer leaves the store alone, or erases an element** and tells what went. -/
theorem react_cases (network : Network) (change : Change) (observer : Observer) :
    (network.victim? change observer = none ∧ (network.react change observer).2 = [] ∧
        network.Alike (network.react change observer).1) ∨
      ∃ address, network.victim? change observer = some address ∧
        (network.react change observer).1.store = (network.store.erase address).store ∧
        (network.react change observer).2 = (network.store.erase address).changes := by
  cases observer with
  | recorder number => exact .inl ⟨rfl, rfl, rfl, rfl, rfl⟩
  | events => exact .inl ⟨rfl, rfl, rfl, rfl, rfl⟩
  | linkReaper =>
    simp only [react, victim?]
    cases network.orphanedLink? change with
    | some link => exact .inr ⟨link, rfl, rfl, rfl⟩
    | none => exact .inl ⟨rfl, rfl, .refl network⟩
  | eraser eraser =>
    simp only [react, victim?]
    cases eraser.chooses network.store change with
    | some address => exact .inr ⟨address, rfl, rfl, rfl⟩
    | none => exact .inl ⟨rfl, rfl, .refl network⟩

/-- No observer has anything to do about a change. -/
def Unmoved (network : Network) (change : Change) : Prop :=
  ∀ observer ∈ network.observers, network.victim? change observer = none

/-- Whether anybody is moved does not depend on what the observers remember. -/
theorem Unmoved.of_alike (unmoved : network.Unmoved change) (alike : network.Alike other) :
    other.Unmoved change := by
  obtain ⟨store, observers, journals, events, links⟩ := network
  obtain ⟨store', observers', journals', events', links'⟩ := other
  obtain ⟨rfl, rfl, rfl⟩ := alike
  exact unmoved

theorem react_of_unmoved (unmoved : network.Unmoved change) (member : observer ∈ network.observers) :
    (network.react change observer).2 = [] ∧ network.Alike (network.react change observer).1 := by
  rcases network.react_cases change observer with ⟨-, silent, alike⟩ | ⟨address, moved, -⟩
  · exact ⟨silent, alike⟩
  · cases (unmoved observer member).symm.trans moved

/-- The network after observers heard of changes, each in turn, if nothing follows from that. -/
def hear (network : Network) (told : List (Change × Observer)) : Network :=
  told.foldl (fun network (change, observer) => (network.react change observer).1) network

theorem tell_of_unmoved
    (unmoved : ∀ told ∈ waiting, network.Unmoved told.1 ∧ told.2 ∈ network.observers) :
    network.tell waiting = network.hear waiting ∧ network.Alike (network.hear waiting) ∧
      network.told waiting = waiting := by
  induction waiting generalizing network with
  | nil => exact ⟨by rw [tell]; rfl, .refl network, by rw [told]⟩
  | cons pair rest hypothesis =>
    obtain ⟨change, observer⟩ := pair
    obtain ⟨unmovedHere, member⟩ := unmoved _ List.mem_cons_self
    obtain ⟨nothing, alike⟩ := react_of_unmoved unmovedHere member
    have later : ∀ told ∈ rest, (network.react change observer).1.Unmoved told.1 ∧
        told.2 ∈ (network.react change observer).1.observers := by
      intro told inRest
      obtain ⟨unmovedThere, member⟩ := unmoved told (List.mem_cons_of_mem _ inRest)
      exact ⟨unmovedThere.of_alike alike, alike.observers ▸ member⟩
    obtain ⟨same, alike', others⟩ := hypothesis later
    refine ⟨?_, alike.trans alike', ?_⟩
    · rw [tell, nothing]
      exact same
    · rw [told, nothing]
      exact congrArg _ others

theorem mem_audience_iff {changes : List Change} :
    (change, observer) ∈ network.audience changes ↔
      change ∈ changes ∧ observer ∈ network.observers := by
  simp [audience, List.mem_flatMap]

theorem unmoved_audience {changes : List Change}
    (unmoved : ∀ change ∈ changes, network.Unmoved change) :
    ∀ told ∈ network.audience changes, network.Unmoved told.1 ∧ told.2 ∈ network.observers := by
  rintro ⟨change, observer⟩ member
  obtain ⟨inChanges, member⟩ := mem_audience_iff.1 member
  exact ⟨unmoved change inChanges, member⟩

/-- **Where nobody is moved, telling is hearing.** -/
theorem publish_of_unmoved {changes : List Change}
    (unmoved : ∀ change ∈ changes, network.Unmoved change) :
    network.publish changes = network.hear (network.audience changes) ∧
      network.Alike (network.publish changes) := by
  obtain ⟨same, alike, -⟩ := tell_of_unmoved (unmoved_audience unmoved)
  rw [publish, same]
  exact ⟨rfl, alike⟩

/-- **Of changes that move nobody observers hear once, in order.** -/
theorem echo_of_unmoved {changes : List Change}
    (unmoved : ∀ change ∈ changes, network.Unmoved change) (ear : Observer → Bool) :
    network.echo ear changes = repeated (network.ears ear) changes := by
  rw [echo, (tell_of_unmoved (unmoved_audience unmoved)).2.2, toldTo_audience]

/-- **Every journal has every change that moves nobody once, in order.** -/
theorem journal_publish_of_unmoved {changes : List Change}
    (unmoved : ∀ change ∈ changes, network.Unmoved change) (number : Nat) :
    (network.publish changes).journal number =
      network.journal number ++ repeated (network.recorders number) changes := by
  rw [journal_publish, echo_of_unmoved unmoved, recorders]

/-- **A new edge moves nobody.** -/
theorem unmoved_of_arrival (arrival : change.IsArrival) :
    network.Unmoved change := by
  obtain ⟨edge, source, target, type, rfl⟩ := arrival
  intro observer _
  cases observer with
  | recorder number => rfl
  | events => rfl
  | linkReaper => rfl
  | eraser eraser => exact eraser.patient

/-- **Of new edges every observer hears once, and nothing follows.** -/
theorem publish_arrivals {changes : List Change} (arrivals : ∀ change ∈ changes, change.IsArrival)
    (network : Network) : network.publish changes = network.hear (network.audience changes) ∧
      network.Alike (network.publish changes) :=
  publish_of_unmoved fun change member => unmoved_of_arrival (arrivals change member)

/-! ### Turn by turn -/

/-- One turn: the observer in front hears of its change, and what follows from that comes to the front. -/
def turn : Network × List (Change × Observer) → Network × List (Change × Observer)
  | (network, []) => (network, [])
  | (network, (change, observer) :: waiting) =>
    ((network.react change observer).1,
      (network.react change observer).1.audience (network.react change observer).2 ++ waiting)

/-- **Telling ends**, after no more turns than that. -/
theorem exists_turns (network : Network) (waiting : List (Change × Observer)) :
    ∃ turns ≤ network.turnsLeft waiting,
      turn^[turns] (network, waiting) = (network.tell waiting, []) := by
  fun_induction Network.tell network waiting with
  | case1 network => exact ⟨0, Nat.zero_le _, rfl⟩
  | case2 network change observer waiting reaction hypothesis =>
    obtain ⟨turns, bound, ended⟩ := hypothesis
    refine ⟨turns + 1, ?_, ended⟩
    exact Nat.lt_of_le_of_lt bound (turnsLeft_react_lt network change observer waiting)

end SemanticNetwork.Network
