/-
**What happens at a hub, one thing at a time.** A dispatch is not one thing: a notification is taken
from the queue, and those who wait for it have their turns one after another. A call begins, and
returns later. In between anything can happen, for it is then that callbacks do what they do. A desk
is a hub together with the history that a hub does not keep: which changes were published, which
notifications were queued for them, and who was called with which.

* `Desk.step`, `Desk.run`: a desk after an incident, and after many;
* `Desk.Sound`: what is true of the history of a desk;
* `sound_step`, `sound_run`: **every incident keeps a history sound**, and so does a whole run.
-/
import SemanticNetwork.Proofs.Event.Registry

namespace SemanticNetwork

/-- A notification that was queued, with the number of the change that it tells of. -/
structure Letter where
  change : Nat
  notification : Notification
  deriving DecidableEq, Repr

namespace Letter

/-- A letter tells of an earlier change than another, or of the same to others. -/
def IsBefore (letter other : Letter) : Prop :=
  letter.change < other.change ∨
    letter.change = other.change ∧ letter.notification.kind ≠ other.notification.kind

theorem IsBefore.ne {letter other : Letter} (before : letter.IsBefore other) : letter ≠ other := by
  rintro rfl
  rcases before with before | ⟨-, before⟩
  · exact Nat.lt_irrefl _ before
  · exact before rfl

end Letter

/-- The hub without the notification that waits longest. -/
def EventHub.tail (hub : EventHub) : EventHub :=
  { hub with channel := { hub.channel with messages := hub.channel.messages.tail } }

theorem EventHub.take?_eq {hub : EventHub} {notification : Notification} {rest : List Notification}
    (queue : hub.queue = notification :: rest) : hub.take? = some (notification, hub.tail) := by
  have messages : hub.channel.messages = notification :: rest := queue
  simp only [take?, Channel.receive?, tail, messages]
  rfl

theorem EventHub.take?_eq_none {hub : EventHub} (queue : hub.queue = []) : hub.take? = none := by
  have messages : hub.channel.messages = [] := queue
  simp only [take?, Channel.receive?, messages]
  rfl

/-- What can happen at a hub. -/
inductive Incident where
  | publish (change : Change)
  | subscribe (request : SubscriptionRequest)
  | unsubscribe (label : String)
  | release (label : String)
  /-- The first notification of the queue is taken, and those who wait for it are to have a turn. -/
  | take
  /-- The first of those who are to have a turn has it. -/
  | offer
  /-- The call that began last, of those that are not over, is over. -/
  | returns

/-- A hub with its history. -/
structure Desk where
  hub : EventHub
  /-- The changes that were published, in order. -/
  published : List Change
  /-- The letters that were taken from the queue. -/
  handled : List Letter
  /-- The letters in the queue. -/
  waiting : List Letter
  /-- Who is still to have a turn, with the letter that was taken last. -/
  turns : List (Nat × Letter)
  /-- The calls that are not over, the latest first. -/
  running : List (Nat × Letter)
  /-- Who was called, and with which letter. -/
  calls : List (Nat × Letter)

namespace Desk

/-- A hub before anything has happened. -/
def start (hub : EventHub) : Desk := ⟨hub, [], [], [], [], [], []⟩

/-- The same history with another hub. -/
def withHub (desk : Desk) (hub : EventHub) : Desk := { desk with hub := hub }

/-- The letters that a change adds to the queue. -/
def lettersOf (desk : Desk) (change : Change) : List Letter :=
  ((desk.hub.publish change).queue.drop desk.hub.queue.length).map (.mk desk.published.length)

/-- A change is published. -/
def publish (desk : Desk) (change : Change) : Desk :=
  { desk with
    hub := desk.hub.publish change
    published := desk.published ++ [change]
    waiting := desk.waiting ++ desk.lettersOf change }

/-- The first letter is taken from the queue, if the last one is dealt with. -/
def take (desk : Desk) : Desk :=
  match desk.turns, desk.waiting with
  | [], letter :: rest =>
    { desk with
      hub := desk.hub.tail
      handled := desk.handled ++ [letter]
      waiting := rest
      turns := (desk.hub.targets letter.notification).map fun number => (number, letter) }
  | _, _ => desk

/-- Who is called with a notification when it has its turn. -/
def callee? (desk : Desk) (number : Nat) (notification : Notification) : Option Subscription :=
  (desk.hub.find? number).filter fun subscription =>
    subscription.isActive && subscription.admits notification

/-- The first of those who are to have a turn has it, and is called if it still listens and the
notification is of its type. The call is not over then. -/
def offer (desk : Desk) : Desk :=
  match desk.turns with
  | [] => desk
  | (number, letter) :: rest =>
    match desk.callee? number letter.notification with
    | none => { desk with turns := rest }
    | some subscription =>
      { desk with
        hub := desk.hub.beginCall subscription letter.notification
        turns := rest
        running := (number, letter) :: desk.running
        calls := desk.calls ++ [(number, letter)] }

/-- A call is over. -/
def finish (desk : Desk) : Desk :=
  match desk.running with
  | [] => desk
  | _ :: rest => { desk with hub := desk.hub.endCall, running := rest }

/-- The hub after a request for a subscription, which may be refused. -/
def subscribed (hub : EventHub) (request : SubscriptionRequest) : EventHub :=
  match hub.subscribe request with
  | .ok (_, after) => after
  | .error _ => hub

/-- A desk after an incident. -/
def step (desk : Desk) : Incident → Desk
  | .publish change => desk.publish change
  | .subscribe request => desk.withHub (subscribed desk.hub request)
  | .unsubscribe label => desk.withHub (desk.hub.unsubscribe label)
  | .release label => desk.withHub (desk.hub.release label)
  | .take => desk.take
  | .offer => desk.offer
  | .returns => desk.finish

/-- A desk after some incidents, one after another. -/
def run (desk : Desk) (incidents : List Incident) : Desk := incidents.foldl step desk

theorem run_append (desk : Desk) (earlier later : List Incident) :
    desk.run (earlier ++ later) = (desk.run earlier).run later :=
  List.foldl_append

/-- The letters that a subscription was called with, in order. -/
def heardBy (desk : Desk) (number : Nat) : List Letter :=
  (desk.calls.filter fun call => call.1 == number).map Prod.snd

/-- The subscription of a number has not ended. -/
def Listens (desk : Desk) (number : Nat) : Prop :=
  ∃ subscription, desk.hub.find? number = some subscription ∧ subscription.isActive = true

/-- The subscription of a number asked for a notification. -/
def Wants (desk : Desk) (number : Nat) (notification : Notification) : Prop :=
  ∃ subscription, desk.hub.find? number = some subscription ∧ subscription.Wants notification

/-- A letter is dealt with, as far as the subscription of a number is concerned. -/
def IsOver (desk : Desk) (number : Nat) (letter : Letter) : Prop :=
  letter ∈ desk.handled ∧ (number, letter) ∉ desk.turns

/-- The label of a number. -/
def labelOf (desk : Desk) (number : Nat) : String :=
  ((desk.hub.find? number).map Subscription.label).getD ""

/-! ### What is true of a history -/

/-- **The post of a desk**: the queue holds the letters that wait, letters stand in the order of the
changes they tell of, and each of them tells of its change. -/
structure Posted (desk : Desk) : Prop where
  queue : desk.waiting.map Letter.notification = desk.hub.queue
  ordered : (desk.handled ++ desk.waiting).Pairwise Letter.IsBefore
  genuine : ∀ letter ∈ desk.handled ++ desk.waiting, ∃ change,
    desk.published[letter.change]? = some change ∧
      letter.notification ∈ Notification.ofChange change

/-- **The service of a desk**: whoever has a turn is concerned and has it with the letter taken last;
whoever was called wanted the letter, had no call with it before, and had calls with earlier letters
before. -/
structure Served (desk : Desk) : Prop where
  turnsOnce : desk.turns.Nodup
  turnsLast : ∀ turn ∈ desk.turns, desk.handled.getLast? = some turn.2
  turnsConcern : ∀ turn ∈ desk.turns, ∃ subscription, desk.hub.find? turn.1 = some subscription ∧
    subscription.Concerns turn.2.notification
  callsOver : ∀ call ∈ desk.calls, desk.IsOver call.1 call.2
  callsWanted : ∀ call ∈ desk.calls, desk.Wants call.1 call.2.notification
  callsOrdered : desk.calls.Pairwise fun call other =>
    call.1 = other.1 → call.2.change < other.2.change
  logged : desk.hub.log = desk.calls.map fun call => (desk.labelOf call.1, call.2.notification)

/-- What is true of the history of a desk. -/
structure Sound (desk : Desk) : Prop where
  orderly : desk.hub.IsOrderly
  posted : desk.Posted
  served : desk.Served

variable {desk : Desk} {hub : EventHub} {number : Nat} {letter : Letter}
  {notification : Notification}

/-- A label stays with its number. -/
theorem labelOf_of_succeeds {later : Desk} (succeeds : desk.hub.Succeeds later.hub)
    (wants : desk.Wants number notification) : later.labelOf number = desk.labelOf number := by
  obtain ⟨subscription, found, -⟩ := wants
  obtain ⟨after, found', becomes⟩ := succeeds _ _ found
  rw [labelOf, labelOf, found, found', Option.map_some, Option.map_some, becomes.label]

theorem Wants.of_succeeds (wants : desk.Wants number notification)
    (succeeds : desk.hub.Succeeds hub) {later : Desk} (same : later.hub = hub) :
    later.Wants number notification := by
  obtain ⟨subscription, found, wants⟩ := wants
  obtain ⟨after, found, becomes⟩ := succeeds _ _ found
  exact ⟨after, same ▸ found, becomes.wants_iff.2 wants⟩

/-- Who listens later listened before, if it was there. -/
theorem Listens.of_succeeds {later : Desk} (listens : later.Listens number)
    (succeeds : desk.hub.Succeeds later.hub) {subscription : Subscription}
    (there : desk.hub.find? number = some subscription) : desk.Listens number := by
  obtain ⟨other, found', active⟩ := listens
  obtain ⟨after, found, becomes⟩ := succeeds _ _ there
  obtain rfl : after = other := Option.some.inj (found.symm.trans found')
  exact ⟨subscription, there, becomes.active active⟩

/-! ### Incidents that concern the hub alone -/

/-- A history stays what it is while its hub has a successor with the same log. -/
theorem Served.of_succeeds {later : Desk} (served : desk.Served)
    (succeeds : desk.hub.Succeeds later.hub) (log : later.hub.log = desk.hub.log)
    (handled : later.handled = desk.handled) (turns : later.turns = desk.turns)
    (calls : later.calls = desk.calls) : later.Served := by
  constructor
  · exact turns ▸ served.turnsOnce
  · rw [handled, turns]
    exact served.turnsLast
  · intro turn member
    obtain ⟨subscription, found, concerns⟩ := served.turnsConcern turn (turns ▸ member)
    obtain ⟨after, found, becomes⟩ := succeeds _ _ found
    exact ⟨after, found, becomes.concerns_iff.2 concerns⟩
  · intro call member
    rw [IsOver, handled, turns]
    exact served.callsOver call (calls ▸ member)
  · intro call member
    exact (served.callsWanted call (calls ▸ member)).of_succeeds succeeds rfl
  · exact calls ▸ served.callsOrdered
  · rw [log, calls, served.logged]
    refine List.map_congr_left fun call member => ?_
    rw [labelOf_of_succeeds succeeds (served.callsWanted call member)]

theorem sound_withHub (sound : desk.Sound) (orderly : hub.IsOrderly)
    (succeeds : desk.hub.Succeeds hub) (same : hub.CountsAs desk.hub) :
    (desk.withHub hub).Sound where
  orderly := orderly
  posted := by
    have queue : hub.queue = desk.hub.queue := congrArg Channel.messages same.channel
    exact ⟨sound.posted.queue.trans queue.symm, sound.posted.ordered, sound.posted.genuine⟩
  served := sound.served.of_succeeds succeeds same.log rfl rfl rfl

theorem sound_subscribe (sound : desk.Sound) (request : SubscriptionRequest) :
    (desk.step (.subscribe request)).Sound := by
  unfold step subscribed
  simp only
  cases made : desk.hub.subscribe request with
  | error error => exact sound
  | ok answer =>
    exact sound_withHub sound (sound.orderly.subscribe made) (EventHub.succeeds_subscribe made)
      (EventHub.countsAs_subscribe made)

theorem sound_unsubscribe (sound : desk.Sound) (label : String) :
    (desk.step (.unsubscribe label)).Sound :=
  sound_withHub sound (sound.orderly.unsubscribe label) (desk.hub.succeeds_unsubscribe label)
    (desk.hub.countsAs_unsubscribe label)

theorem sound_release (sound : desk.Sound) (label : String) :
    (desk.step (.release label)).Sound :=
  sound_withHub sound (sound.orderly.release label) (desk.hub.succeeds_release label)
    (desk.hub.countsAs_release label)

/-! ### Publishing -/

/-- What a change tells, it tells in different kinds. -/
theorem kinds_ofChange (change : Change) :
    ((Notification.ofChange change).map Notification.kind).Nodup := by
  cases change <;> simp [Notification.ofChange, Notification.ofElement]

theorem lettersOf_spec (desk : Desk) (change : Change) :
    ∃ told, (desk.hub.publish change).queue = desk.hub.queue ++ told ∧
      desk.lettersOf change = told.map (.mk desk.published.length) ∧
        told.Sublist (Notification.ofChange change) ∧
          ∀ queued ∈ told, desk.hub.isWatched queued = true := by
  obtain ⟨told, queue, sublist, watched⟩ := (desk.hub.queues_publish change).queue
  refine ⟨told, queue, ?_, sublist, watched⟩
  rw [lettersOf, queue, List.drop_left]

/-- A letter of a change tells of that change, and someone waits for it. -/
theorem mem_lettersOf {change : Change} (member : letter ∈ desk.lettersOf change) :
    letter.change = desk.published.length ∧
      letter.notification ∈ Notification.ofChange change ∧
        desk.hub.isWatched letter.notification = true := by
  obtain ⟨told, -, letters, sublist, watched⟩ := desk.lettersOf_spec change
  rw [letters] at member
  obtain ⟨queued, inTold, rfl⟩ := List.mem_map.1 member
  exact ⟨rfl, sublist.subset inTold, watched queued inTold⟩

/-- Every letter tells of a change that was published. -/
theorem Posted.change_lt (posted : desk.Posted) (member : letter ∈ desk.handled ++ desk.waiting) :
    letter.change < desk.published.length := by
  obtain ⟨change, found, -⟩ := posted.genuine letter member
  exact (List.getElem?_eq_some_iff.1 found).1

theorem posted_publish (posted : desk.Posted) (change : Change) :
    (desk.publish change).Posted where
  queue := by
    obtain ⟨told, queue, letters, -, -⟩ := desk.lettersOf_spec change
    have same : told.map (Letter.notification ∘ Letter.mk desk.published.length) = told :=
      List.map_id told
    simp only [publish, List.map_append, posted.queue, queue, letters, List.map_map, same]
  ordered := by
    obtain ⟨told, -, letters, sublist, -⟩ := desk.lettersOf_spec change
    simp only [publish]
    rw [← List.append_assoc]
    refine List.pairwise_append.2 ⟨posted.ordered, ?_, fun letter member new member' => .inl ?_⟩
    · have distinct := (kinds_ofChange change).sublist (sublist.map Notification.kind)
      rw [letters]
      rw [List.Nodup, List.pairwise_map] at distinct
      exact List.pairwise_map.2 (distinct.imp fun differ => .inr ⟨rfl, differ⟩)
    · rw [(mem_lettersOf member').1]
      exact posted.change_lt member
  genuine := by
    simp only [publish]
    rw [← List.append_assoc]
    intro letter member
    rcases List.mem_append.1 member with member | member
    · obtain ⟨earlier, found, tells⟩ := posted.genuine letter member
      refine ⟨earlier, ?_, tells⟩
      rw [List.getElem?_append_left (posted.change_lt member)]
      exact found
    · obtain ⟨number, tells, -⟩ := mem_lettersOf member
      refine ⟨change, ?_, tells⟩
      rw [number, List.getElem?_append_right (Nat.le_refl _), Nat.sub_self]
      rfl

theorem sound_publish (sound : desk.Sound) (change : Change) : (desk.publish change).Sound where
  orderly := sound.orderly.queues (desk.hub.queues_publish change)
  posted := posted_publish sound.posted change
  served := sound.served.of_succeeds
    (EventHub.succeeds_of_subscriptions (desk.hub.queues_publish change).subscriptions)
    (desk.hub.queues_publish change).log rfl rfl rfl

/-! ### Taking a letter -/

/-- A letter is taken if the last one is dealt with and another one waits. -/
theorem take_eq {rest : List Letter} (idle : desk.turns = [])
    (waits : desk.waiting = letter :: rest) : desk.take =
      { desk with
        hub := desk.hub.tail
        handled := desk.handled ++ [letter]
        waiting := rest
        turns := (desk.hub.targets letter.notification).map fun number => (number, letter) } := by
  simp only [take, idle, waits]

/-- Otherwise nothing happens. -/
theorem take_cases (desk : Desk) : desk.take = desk ∨
    ∃ letter rest, desk.turns = [] ∧ desk.waiting = letter :: rest := by
  cases turns : desk.turns with
  | cons turn rest => exact .inl (by simp only [take, turns])
  | nil =>
    cases waits : desk.waiting with
    | nil => exact .inl (by simp only [take, turns, waits])
    | cons letter rest => exact .inr ⟨letter, rest, rfl, rfl⟩

theorem sound_take (sound : desk.Sound) : desk.take.Sound := by
  rcases desk.take_cases with same | ⟨letter, rest, idle, waits⟩
  · exact same.symm ▸ sound
  have ordered := sound.posted.ordered
  have all : desk.handled ++ desk.waiting = desk.handled ++ [letter] ++ rest := by simp [waits]
  rw [take_eq idle waits]
  refine ⟨sound.orderly.congr rfl rfl, ⟨?_, ?_, ?_⟩, ?_⟩
  · show rest.map Letter.notification = desk.hub.queue.tail
    rw [← sound.posted.queue, waits]
    rfl
  · exact all ▸ ordered
  · exact all ▸ sound.posted.genuine
  · constructor
    · refine List.Nodup.map (fun number other same => congrArg Prod.fst same) ?_
      exact sound.orderly.nodup_targets letter.notification
    · intro turn member
      obtain ⟨number, -, rfl⟩ := List.mem_map.1 member
      exact List.getLast?_concat
    · intro turn member
      obtain ⟨number, target, rfl⟩ := List.mem_map.1 member
      obtain ⟨subscription, found, -, concerns⟩ := sound.orderly.mem_targets_iff.1 target
      exact ⟨subscription, found, concerns⟩
    · intro call member
      obtain ⟨handled, -⟩ := sound.served.callsOver call member
      refine ⟨List.mem_append_left _ handled, fun inTurns => ?_⟩
      obtain ⟨number, -, same⟩ := List.mem_map.1 inTurns
      obtain rfl : letter = call.2 := congrArg Prod.snd same
      -- The letter that is taken waited, so that nobody can have been called with it.
      have apart := (List.pairwise_append.1 ordered).2.2 _ handled call.2
      exact (apart (waits ▸ List.mem_cons_self)).ne rfl
    · exact sound.served.callsWanted
    · exact sound.served.callsOrdered
    · exact sound.served.logged

/-! ### Turns -/

theorem callee?_eq_some_iff {subscription : Subscription} :
    desk.callee? number notification = some subscription ↔
      desk.hub.find? number = some subscription ∧ subscription.isActive = true ∧
        subscription.admits notification = true := by
  rw [callee?, Option.filter_eq_some_iff, Bool.and_eq_true]

/-- What becomes of a desk when someone has a turn. -/
theorem offer_cases (desk : Desk) : desk.offer = desk ∨
    ∃ number letter rest, desk.turns = (number, letter) :: rest ∧
      (desk.callee? number letter.notification = none ∧ desk.offer = { desk with turns := rest } ∨
        ∃ subscription, desk.callee? number letter.notification = some subscription ∧
          desk.offer = { desk with
            hub := desk.hub.beginCall subscription letter.notification
            turns := rest
            running := (number, letter) :: desk.running
            calls := desk.calls ++ [(number, letter)] }) := by
  cases turns : desk.turns with
  | nil => exact .inl (by simp only [offer, turns])
  | cons turn rest =>
    obtain ⟨number, letter⟩ := turn
    refine .inr ⟨number, letter, rest, rfl, ?_⟩
    cases callee : desk.callee? number letter.notification with
    | none => exact .inl ⟨rfl, by simp only [offer, turns, callee]⟩
    | some subscription =>
      exact .inr ⟨subscription, rfl, by simp only [offer, turns, callee]⟩

/-- Who has a turn has had calls with earlier letters only. -/
theorem Served.change_lt {rest : List (Nat × Letter)} (served : desk.Served)
    (posted : desk.Posted) (turns : desk.turns = (number, letter) :: rest) {call : Nat × Letter}
    (member : call ∈ desk.calls) (same : call.1 = number) : call.2.change < letter.change := by
  obtain ⟨handled, past⟩ := served.callsOver call member
  obtain ⟨subscription, found, concerns⟩ :=
    served.turnsConcern (number, letter) (turns ▸ List.mem_cons_self)
  obtain ⟨other, found', concerned, -⟩ := served.callsWanted call member
  obtain rfl : other = subscription := Option.some.inj (found'.symm.trans (same ▸ found))
  have other : call.2 ≠ letter := by
    rintro rfl
    exact past (turns ▸ same ▸ List.mem_cons_self)
  obtain ⟨earlier, split⟩ :=
    List.getLast?_eq_some_iff.1 (served.turnsLast (number, letter) (turns ▸ List.mem_cons_self))
  have inEarlier : call.2 ∈ earlier := by
    rw [split, List.mem_append, List.mem_singleton] at handled
    exact handled.resolve_right other
  have ordered := (List.pairwise_append.1 posted.ordered).1
  rw [split] at ordered
  rcases (List.pairwise_append.1 ordered).2.2 _ inEarlier letter (List.mem_singleton_self _) with
    before | ⟨-, kinds⟩
  · exact before
  · exact absurd (concerned.2.symm.trans concerns.2) kinds

/-- Turns that are left when the first one is over. -/
theorem Served.of_turns_cons {turn : Nat × Letter} {rest : List (Nat × Letter)}
    (served : desk.Served) (turns : desk.turns = turn :: rest) :
    Served { desk with turns := rest } where
  turnsOnce := (List.nodup_cons.1 (turns ▸ served.turnsOnce)).2
  turnsLast other member := served.turnsLast other (turns ▸ List.mem_cons_of_mem _ member)
  turnsConcern other member := served.turnsConcern other (turns ▸ List.mem_cons_of_mem _ member)
  callsOver call member := by
    obtain ⟨handled, past⟩ := served.callsOver call member
    exact ⟨handled, fun inRest => past (turns ▸ List.mem_cons_of_mem _ inRest)⟩
  callsWanted := served.callsWanted
  callsOrdered := served.callsOrdered
  logged := served.logged

/-- A call begins. -/
theorem Served.beginCall {rest : List (Nat × Letter)} {subscription : Subscription}
    (served : desk.Served) (posted : desk.Posted) (turns : desk.turns = (number, letter) :: rest)
    (callee : desk.callee? number letter.notification = some subscription) :
    Served { desk with
      hub := desk.hub.beginCall subscription letter.notification
      turns := rest
      running := (number, letter) :: desk.running
      calls := desk.calls ++ [(number, letter)] } := by
  obtain ⟨found, -, admits⟩ := callee?_eq_some_iff.1 callee
  have inTurns : (number, letter) ∈ desk.turns := turns ▸ List.mem_cons_self
  have wants : desk.Wants number letter.notification := by
    obtain ⟨other, known, concerns⟩ := served.turnsConcern (number, letter) inTurns
    obtain rfl : subscription = other := Option.some.inj (found.symm.trans known)
    exact ⟨subscription, found, concerns, admits⟩
  have succeeds := desk.hub.succeeds_beginCall subscription letter.notification
  have left := served.of_turns_cons turns
  constructor
  · exact left.turnsOnce
  · exact left.turnsLast
  · intro turn member
    obtain ⟨other, known, concerns⟩ := left.turnsConcern turn member
    obtain ⟨after, known, becomes⟩ := succeeds _ _ known
    exact ⟨after, known, becomes.concerns_iff.2 concerns⟩
  · refine List.forall_mem_append.2 ⟨left.callsOver, List.forall_mem_singleton.2 ⟨?_, ?_⟩⟩
    · exact List.mem_of_getLast? (served.turnsLast _ inTurns)
    · exact (List.nodup_cons.1 (turns ▸ served.turnsOnce)).1
  · refine List.forall_mem_append.2 ⟨fun call member => ?_, List.forall_mem_singleton.2 ?_⟩
    · exact (served.callsWanted call member).of_succeeds succeeds rfl
    · exact wants.of_succeeds succeeds rfl
  · refine List.pairwise_append.2 ⟨served.callsOrdered, List.pairwise_singleton _ _, ?_⟩
    intro call member other last same
    rw [List.mem_singleton.1 last] at same ⊢
    exact served.change_lt posted turns member same
  · have before : (desk.hub.beginCall subscription letter.notification).log =
        desk.hub.log ++ [(subscription.label, letter.notification)] := rfl
    rw [before, served.logged, List.map_append]
    congr 1
    · refine List.map_congr_left fun call member => congrArg (·, call.2.notification) ?_
      exact (labelOf_of_succeeds succeeds (served.callsWanted call member)).symm
    · rw [List.map_singleton, labelOf_of_succeeds succeeds wants, labelOf, found]
      rfl

theorem sound_offer (sound : desk.Sound) : desk.offer.Sound := by
  have posted := sound.posted
  rcases desk.offer_cases with same | ⟨number, letter, rest, turns, cases⟩
  · exact same.symm ▸ sound
  rcases cases with ⟨-, offered⟩ | ⟨subscription, callee, offered⟩
  · rw [offered]
    exact ⟨sound.orderly, ⟨posted.queue, posted.ordered, posted.genuine⟩,
      sound.served.of_turns_cons turns⟩
  · rw [offered]
    exact ⟨sound.orderly.beginCall _ _, ⟨posted.queue, posted.ordered, posted.genuine⟩,
      sound.served.beginCall posted turns callee⟩

/-- What becomes of a desk when a call is over. -/
theorem finish_cases (desk : Desk) : desk.finish = desk ∨
    ∃ call rest, desk.running = call :: rest ∧
      desk.finish = { desk with hub := desk.hub.endCall, running := rest } := by
  cases running : desk.running with
  | nil => exact .inl (by simp only [finish, running])
  | cons call rest => exact .inr ⟨call, rest, rfl, by simp only [finish, running]⟩

theorem sound_finish (sound : desk.Sound) : desk.finish.Sound := by
  rcases desk.finish_cases with same | ⟨call, rest, -, finished⟩
  · exact same.symm ▸ sound
  · rw [finished]
    exact ⟨sound.orderly.congr rfl rfl,
      ⟨sound.posted.queue, sound.posted.ordered, sound.posted.genuine⟩,
      sound.served.of_succeeds (EventHub.succeeds_of_subscriptions rfl) rfl rfl rfl rfl⟩

/-! ### Whole runs -/

/-- **Every incident keeps a history sound.** -/
theorem sound_step (sound : desk.Sound) (incident : Incident) : (desk.step incident).Sound := by
  cases incident with
  | publish change => exact sound_publish sound change
  | subscribe request => exact sound_subscribe sound request
  | unsubscribe label => exact sound_unsubscribe sound label
  | release label => exact sound_release sound label
  | take => exact sound_take sound
  | offer => exact sound_offer sound
  | returns => exact sound_finish sound

/-- **The history of every run is sound.** -/
theorem sound_run (sound : desk.Sound) (incidents : List Incident) : (desk.run incidents).Sound := by
  induction incidents generalizing desk with
  | nil => exact sound
  | cons incident rest hypothesis => exact hypothesis (sound_step sound incident)

end Desk

end SemanticNetwork
