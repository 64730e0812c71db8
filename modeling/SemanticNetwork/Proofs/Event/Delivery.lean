/-
**Who is called with what.** Whatever happens between the turns of a dispatch, a subscription that
listens from before a letter is queued until the letter is dealt with is called with it once; it is
called in the order of the changes, with nothing that it did not ask for, and never again when it has
ended. What waits in the queue when a subscription is made may be from before its time.

* `Desk.owed_step`, `Desk.owed_run`: a listener keeps its claim on a letter until it is called;
* `Desk.Faithful`, `Desk.faithful_run`: **every run delivers faithfully**;
* `Desk.HearsWhatWaited`, `Desk.hearsWhatWaited_run`: **of the past, a subscription hears what still
  waited for others when it was made, and nothing else.**
-/
import Mathlib.Data.List.Induction
import SemanticNetwork.Proofs.Event.Desk

namespace SemanticNetwork.Desk

variable {desk : Desk} {hub : EventHub} {incidents : List Incident} {number : Nat}
  {letter : Letter}

/-- A hub in which nothing has happened has a sound history. -/
theorem sound_start (fresh : hub.IsFresh) : (start hub).Sound where
  orderly := fresh.isOrderly
  posted := ⟨fresh.queue.symm, .nil, nofun⟩
  served := ⟨.nil, nofun, nofun, nofun, nofun, .nil, fresh.log⟩

/-! ### What a run leaves as it was -/

/-- Whatever happens, subscriptions stay what they are, or end. -/
theorem succeeds_step (desk : Desk) (incident : Incident) :
    desk.hub.Succeeds (desk.step incident).hub := by
  cases incident with
  | publish change => exact 
    EventHub.succeeds_of_subscriptions (desk.hub.queues_publish change).subscriptions
  | subscribe request =>
    simp only [step, subscribed, withHub]
    cases made : desk.hub.subscribe request with
    | error error => exact .refl desk.hub
    | ok answer => exact EventHub.succeeds_subscribe made
  | unsubscribe label => exact desk.hub.succeeds_unsubscribe label
  | release label => exact desk.hub.succeeds_release label
  | take =>
    simp only [step]
    rcases desk.take_cases with same | ⟨letter, rest, idle, waits⟩
    · rw [same]
      exact .refl desk.hub
    · rw [take_eq idle waits]
      exact .refl desk.hub
  | offer =>
    simp only [step]
    rcases desk.offer_cases with same | ⟨number, letter, rest, -, ⟨-, offered⟩ | ⟨_, -, offered⟩⟩
    · rw [same]
      exact .refl desk.hub
    · rw [offered]
      exact .refl desk.hub
    · rw [offered]
      exact desk.hub.succeeds_beginCall _ _
  | returns =>
    simp only [step]
    rcases desk.finish_cases with same | ⟨call, rest, -, finished⟩
    · rw [same]
      exact .refl desk.hub
    · rw [finished]
      exact .refl desk.hub

theorem succeeds_run (desk : Desk) (incidents : List Incident) :
    desk.hub.Succeeds (desk.run incidents).hub := by
  induction incidents generalizing desk with
  | nil => exact .refl desk.hub
  | cons incident rest hypothesis => exact (desk.succeeds_step incident).trans (hypothesis _)

/-- Calls are made in turns only, and to those who listen. -/
theorem calls_step (desk : Desk) (incident : Incident) :
    (desk.step incident).calls = desk.calls ∨ ∃ number letter, (number, letter) ∈ desk.turns ∧
      desk.Listens number ∧ (desk.step incident).calls = desk.calls ++ [(number, letter)] := by
  cases incident with
  | publish change => exact .inl rfl
  | subscribe request => exact .inl rfl
  | unsubscribe label => exact .inl rfl
  | release label => exact .inl rfl
  | take =>
    refine .inl ?_
    simp only [step]
    rcases desk.take_cases with same | ⟨letter, rest, idle, waits⟩
    · rw [same]
    · rw [take_eq idle waits]
  | offer =>
    simp only [step]
    rcases desk.offer_cases with
      same | ⟨number, letter, rest, turns, ⟨-, offered⟩ | ⟨subscription, callee, offered⟩⟩
    · exact .inl (by rw [same])
    · exact .inl (by rw [offered])
    · obtain ⟨found, active, -⟩ := callee?_eq_some_iff.1 callee
      refine .inr ⟨number, letter, ?_, ⟨subscription, found, active⟩, by rw [offered]⟩
      rw [turns]
      exact List.mem_cons_self
  | returns =>
    refine .inl ?_
    simp only [step]
    rcases desk.finish_cases with same | ⟨call, rest, -, finished⟩
    · rw [same]
    · rw [finished]

theorem calls_run (desk : Desk) (incidents : List Incident) :
    desk.calls <+: (desk.run incidents).calls := by
  induction incidents generalizing desk with
  | nil => exact List.prefix_refl _
  | cons incident rest hypothesis =>
    refine .trans ?_ (hypothesis (desk.step incident))
    rcases desk.calls_step incident with same | ⟨number, letter, -, -, more⟩
    · exact same ▸ List.prefix_refl _
    · exact more ▸ List.prefix_append _ _

/-- **Who has ended is never called again.** -/
theorem heardBy_run_of_ended {subscription : Subscription}
    (found : desk.hub.find? number = some subscription) (ended : subscription.isActive = false)
    (incidents : List Incident) :
    (desk.run incidents).heardBy number = desk.heardBy number := by
  induction incidents generalizing desk subscription with
  | nil => rfl
  | cons incident rest hypothesis =>
    obtain ⟨after, found', becomes⟩ := desk.succeeds_step incident number subscription found
    have ended' : after.isActive = false := by
      rw [← Bool.not_eq_true] at ended ⊢
      exact fun active => ended (becomes.active active)
    refine (hypothesis found' ended').trans ?_
    rcases desk.calls_step incident with same | ⟨other, letter, -, ⟨listener, known, active⟩, more⟩
    · rw [heardBy, same]
      rfl
    · have others : number ≠ other := by
        rintro rfl
        obtain rfl : subscription = listener := Option.some.inj (found.symm.trans known)
        exact Bool.noConfusion (ended.symm.trans active)
      have apart : (other == number) = false := beq_eq_false_iff_ne.2 others.symm
      rw [heardBy, more, List.filter_append, List.filter_singleton, apart]
      simp [heardBy]

/-! ### A listener keeps its claim -/

/-- A letter waits, or is to have a turn, or was called with. -/
def Owed (desk : Desk) (number : Nat) (letter : Letter) : Prop :=
  letter ∈ desk.waiting ∨ (number, letter) ∈ desk.turns ∨ (number, letter) ∈ desk.calls

theorem owed_take (sound : desk.Sound) (wants : desk.Wants number letter.notification)
    (listens : desk.Listens number) (owed : desk.Owed number letter) :
    desk.take.Owed number letter := by
  rcases desk.take_cases with same | ⟨first, rest, idle, waits⟩
  · rwa [same]
  rw [take_eq idle waits]
  rcases owed with waiting | inTurns | called
  · rcases List.mem_cons.1 (waits ▸ waiting) with rfl | later
    · obtain ⟨subscription, found, concerns, -⟩ := wants
      obtain ⟨listener, known, active⟩ := listens
      obtain rfl : subscription = listener := Option.some.inj (found.symm.trans known)
      have target := sound.orderly.mem_targets_iff.2 ⟨subscription, found, active, concerns⟩
      exact .inr (.inl (List.mem_map_of_mem target))
    · exact .inl later
  · rw [idle] at inTurns
    cases inTurns
  · exact .inr (.inr called)

theorem owed_offer (wants : desk.Wants number letter.notification) (listens : desk.Listens number)
    (owed : desk.Owed number letter) : desk.offer.Owed number letter := by
  rcases desk.offer_cases with same | ⟨other, first, rest, turns, cases⟩
  · rwa [same]
  obtain ⟨subscription, found, -, admits⟩ := wants
  obtain ⟨listener, known, active⟩ := listens
  obtain rfl : subscription = listener := Option.some.inj (found.symm.trans known)
  rcases cases with ⟨nobody, offered⟩ | ⟨callee, -, offered⟩
  · rw [offered]
    rcases owed with waiting | inTurns | called
    · exact .inl waiting
    · rcases List.mem_cons.1 (turns ▸ inTurns) with same | later
      · -- The listener would have been called.
        cases same
        rw [callee?_eq_some_iff.2 ⟨found, active, admits⟩] at nobody
        cases nobody
      · exact .inr (.inl later)
    · exact .inr (.inr called)
  · rw [offered]
    rcases owed with waiting | inTurns | called
    · exact .inl waiting
    · rcases List.mem_cons.1 (turns ▸ inTurns) with same | later
      · exact .inr (.inr (same ▸ List.mem_concat_self))
      · exact .inr (.inl later)
    · exact .inr (.inr (List.mem_append_left _ called))

/-- **While a subscription listens, a letter that it wants is not lost.** -/
theorem owed_step (sound : desk.Sound) (wants : desk.Wants number letter.notification)
    (listens : desk.Listens number) (owed : desk.Owed number letter) (incident : Incident) :
    (desk.step incident).Owed number letter := by
  cases incident with
  | publish change => exact owed.imp_left (List.mem_append_left _)
  | subscribe request => exact owed
  | unsubscribe label => exact owed
  | release label => exact owed
  | take => exact owed_take sound wants listens owed
  | offer => exact owed_offer wants listens owed
  | returns =>
    simp only [step]
    rcases desk.finish_cases with same | ⟨call, rest, -, finished⟩
    · rwa [same]
    · rw [finished]
      exact owed

/-- A subscription that listens after a run has listened all the time, and its letters are safe. -/
theorem owed_run (sound : desk.Sound) (wants : desk.Wants number letter.notification)
    (owed : desk.Owed number letter) (listens : (desk.run incidents).Listens number) :
    (desk.run incidents).Owed number letter := by
  induction incidents generalizing desk with
  | nil => exact owed
  | cons incident rest hypothesis =>
    obtain ⟨subscription, found, -⟩ := id wants
    have here : desk.Listens number :=
      listens.of_succeeds (desk.succeeds_run (incident :: rest)) found
    exact hypothesis (sound_step sound incident)
      (wants.of_succeeds (desk.succeeds_step incident) rfl)
      (owed_step sound wants here owed incident) listens

/-! ### Faithful delivery -/

theorem mem_heardBy : letter ∈ desk.heardBy number ↔ (number, letter) ∈ desk.calls := by
  constructor
  · intro member
    obtain ⟨⟨other, letter⟩, inCalls, rfl⟩ := List.mem_map.1 member
    obtain ⟨inCalls, same⟩ := List.mem_filter.1 inCalls
    exact beq_iff_eq.1 same ▸ inCalls
  · intro called
    exact List.mem_map.2 ⟨_, List.mem_filter.2 ⟨called, beq_self_eq_true _⟩, rfl⟩

/-- **The calls of a subscription follow the order of the changes.** -/
theorem Sound.heardBy_ordered (sound : desk.Sound) (number : Nat) :
    (desk.heardBy number).Pairwise fun letter other => letter.change < other.change := by
  refine List.pairwise_map.2 ?_
  have ordered := sound.served.callsOrdered.sublist
    (List.filter_sublist (p := fun call => call.1 == number))
  refine ordered.imp_of_mem fun member member' before => before ?_
  have same := beq_iff_eq.1 (List.mem_filter.1 member).2
  exact same.trans (beq_iff_eq.1 (List.mem_filter.1 member').2).symm

/-- A letter that was owed and is dealt with was called with. -/
theorem called_of_owed (sound : desk.Sound) (owed : desk.Owed number letter)
    (ended : desk.IsOver number letter) : (number, letter) ∈ desk.calls := by
  rcases owed with waiting | inTurns | called
  · have apart := (List.pairwise_append.1 sound.posted.ordered).2.2 letter ended.1 letter waiting
    exact absurd rfl apart.ne
  · exact absurd inTurns ended.2
  · exact called

/-- **Nobody is called with a letter twice.** -/
theorem Sound.count_eq_one (sound : desk.Sound) (called : (number, letter) ∈ desk.calls) :
    (desk.heardBy number).count letter = 1 := by
  have once : (desk.heardBy number).Nodup := by
    refine (sound.heardBy_ordered number).imp ?_
    rintro letter _ before rfl
    exact Nat.lt_irrefl _ before
  exact List.count_eq_one_of_mem once (mem_heardBy.2 called)

/-- **Faithful delivery**, in a run of incidents from a desk. -/
structure Faithful (desk : Desk) (incidents : List Incident) : Prop where
  /-- Who listens from before a letter that it wants is queued until the letter is dealt with, is
  called with it once. -/
  once : ∀ {past change middle last later number letter},
    incidents = past ++ .publish change :: (middle ++ last :: later) →
      letter ∈ (desk.run past).lettersOf change → (desk.run past).Listens number →
        (desk.run past).Wants number letter.notification →
          (desk.run (past ++ .publish change :: middle)).Listens number →
            (desk.run (past ++ .publish change :: (middle ++ [last]))).IsOver number letter →
              ((desk.run incidents).heardBy number).count letter = 1
  /-- Calls follow the order in which the changes were published. -/
  ordered : ∀ number, ((desk.run incidents).heardBy number).Pairwise fun letter other =>
    letter.change < other.change
  /-- Nobody is called with anything but what it asked for and a change tells. -/
  wanted : ∀ {number letter}, letter ∈ (desk.run incidents).heardBy number →
    (desk.run incidents).Wants number letter.notification ∧ ∃ change,
      (desk.run incidents).published[letter.change]? = some change ∧
        letter.notification ∈ Notification.ofChange change
  /-- Whose handle was used to unsubscribe, or was let go of, is not called any more. -/
  ended : ∀ {past ending later label subscription}, incidents = past ++ ending :: later →
    ending = .unsubscribe label ∨ ending = .release label →
      (desk.run past).hub.heldSubscription? label = some subscription →
        (desk.run incidents).heardBy subscription.number =
          (desk.run past).heardBy subscription.number
  /-- The log shows every call. -/
  logged : (desk.run incidents).hub.log =
    (desk.run incidents).calls.map fun call =>
      ((desk.run incidents).labelOf call.1, call.2.notification)

/-- Ending the subscription that is held under a label. -/
theorem heardBy_run_of_ending {ending : Incident} {label : String} {subscription : Subscription}
    (ends : ending = .unsubscribe label ∨ ending = .release label)
    (held : desk.hub.heldSubscription? label = some subscription) (later : List Incident) :
    (desk.run (ending :: later)).heardBy subscription.number =
      desk.heardBy subscription.number := by
  obtain ⟨number, holds, found⟩ := Option.bind_eq_some_iff.1 held
  obtain rfl := EventHub.number_of_find? found
  obtain ⟨after, found', -⟩ := desk.hub.succeeds_unsubscribe label _ _ found
  have ended := EventHub.ended_of_unsubscribe held found'
  rcases ends with rfl | rfl
  · have there : (desk.step (.unsubscribe label)).hub.find? subscription.number = some after :=
      found'
    exact heardBy_run_of_ended there ended later
  · have there : (desk.step (.release label)).hub.find? subscription.number = some after := found'
    exact heardBy_run_of_ended there ended later

/-- **Every run delivers faithfully.** -/
theorem faithful_run (sound : desk.Sound) (incidents : List Incident) :
    desk.Faithful incidents where
  once {past change middle last later number letter} := by
    rintro rfl queued listens wants listens' ended
    have soundPast := sound_run sound past
    have soundThen := sound_step soundPast (.publish change)
    have wantsThen := wants.of_succeeds ((desk.run past).succeeds_step (.publish change)) rfl
    have owed : ((desk.run past).step (.publish change)).Owed number letter :=
      .inl (List.mem_append_right _ queued)
    have split : ∀ rest, desk.run (past ++ .publish change :: rest) =
        ((desk.run past).step (.publish change)).run rest := fun rest => desk.run_append past _
    rw [split] at listens' ended ⊢
    rw [run_append] at ended ⊢
    generalize (desk.run past).step (.publish change) = published at *
    have wantsLast := wantsThen.of_succeeds (published.succeeds_run middle) rfl
    have owedLast := owed_run soundThen wantsThen owed listens'
    have soundLast := sound_run soundThen middle
    -- The last moment at which the letter is not dealt with yet.
    generalize published.run middle = moment at *
    have called := called_of_owed (sound_step soundLast last)
      (owed_step soundLast wantsLast listens' owedLast last) ended
    have calledAfter := ((moment.step last).calls_run later).subset called
    exact (sound_run soundLast (last :: later)).count_eq_one calledAfter
  ordered number := (sound_run sound incidents).heardBy_ordered number
  wanted {number letter} member := by
    have after := sound_run sound incidents
    have called := mem_heardBy.1 member
    obtain ⟨handled, -⟩ := after.served.callsOver _ called
    exact ⟨after.served.callsWanted _ called,
      after.posted.genuine letter (List.mem_append_left _ handled)⟩
  ended {past ending later label subscription} := by
    rintro rfl ends held
    rw [run_append]
    exact heardBy_run_of_ending ends held later
  logged := (sound_run sound incidents).served.logged

/-! ### What is from before a subscription's time -/

/-- No subscription hears of the past: what it is called with tells of changes that were published
after it was made. -/
def HearsNoPast (desk : Desk) (incidents : List Incident) : Prop :=
  ∀ past request later subscription hub, incidents = past ++ .subscribe request :: later →
    (desk.run past).hub.subscribe request = .ok (subscription, hub) →
      ∀ letter ∈ (desk.run incidents).heardBy subscription.number,
        (desk.run past).published.length ≤ letter.change

/-- A letter still waits after some incidents, and it was queued because someone waited for it. -/
def StillWaits (desk : Desk) (past : List Incident) (letter : Letter) : Prop :=
  letter ∈ (desk.run past).waiting ∧ ∃ earlier change between,
    past = earlier ++ .publish change :: between ∧ letter ∈ (desk.run earlier).lettersOf change ∧
      (desk.run earlier).hub.isWatched letter.notification = true

/-- **Of the past, a subscription hears what still waited when it was made**: what it is called with
tells of changes that were published later, or waited in the queue then, for those who listened
before. -/
def HearsWhatWaited (desk : Desk) (incidents : List Incident) : Prop :=
  ∀ past request later subscription hub, incidents = past ++ .subscribe request :: later →
    (desk.run past).hub.subscribe request = .ok (subscription, hub) →
      ∀ letter ∈ (desk.run incidents).heardBy subscription.number,
        (desk.run past).published.length ≤ letter.change ∨ desk.StillWaits past letter

/-- Letters come from changes that are published, and from nowhere else. -/
theorem letters_step (desk : Desk) (incident : Incident) :
    (desk.step incident).handled ++ (desk.step incident).waiting = desk.handled ++ desk.waiting ∨
      ∃ change, incident = .publish change ∧
        (desk.step incident).handled ++ (desk.step incident).waiting =
          desk.handled ++ desk.waiting ++ desk.lettersOf change := by
  cases incident with
  | publish change => exact .inr ⟨change, rfl, (List.append_assoc ..).symm⟩
  | subscribe request => exact .inl rfl
  | unsubscribe label => exact .inl rfl
  | release label => exact .inl rfl
  | take =>
    refine .inl ?_
    simp only [step]
    rcases desk.take_cases with same | ⟨letter, rest, idle, waits⟩
    · rw [same]
    · simp [take_eq idle waits, waits]
  | offer =>
    refine .inl ?_
    simp only [step]
    rcases desk.offer_cases with same | ⟨_, _, _, -, ⟨-, offered⟩ | ⟨_, -, offered⟩⟩
    · rw [same]
    · rw [offered]
    · rw [offered]
  | returns =>
    refine .inl ?_
    simp only [step]
    rcases desk.finish_cases with same | ⟨call, rest, -, finished⟩
    · rw [same]
    · rw [finished]

/-- **Every letter was queued when its change was published.** -/
theorem exists_publish (past : List Incident)
    (member : letter ∈ ((start hub).run past).handled ++ ((start hub).run past).waiting) :
    ∃ earlier change between, past = earlier ++ .publish change :: between ∧
      letter ∈ ((start hub).run earlier).lettersOf change := by
  induction past using List.reverseRecOn with
  | nil => cases member
  | append_singleton past incident hypothesis =>
    have last : (start hub).run (past ++ [incident]) = ((start hub).run past).step incident :=
      (start hub).run_append past [incident]
    have before : letter ∈ ((start hub).run past).handled ++ ((start hub).run past).waiting →
        ∃ earlier change between, past ++ [incident] = earlier ++ .publish change :: between ∧
          letter ∈ ((start hub).run earlier).lettersOf change := by
      intro member
      obtain ⟨earlier, change, between, rfl, queued⟩ := hypothesis member
      exact ⟨earlier, change, between ++ [incident], by simp, queued⟩
    rw [last] at member
    rcases ((start hub).run past).letters_step incident with same | ⟨change, rfl, more⟩
    · exact before (same ▸ member)
    · rcases List.mem_append.1 (more ▸ member) with member | queued
      · exact before member
      · exact ⟨past, change, [], rfl, queued⟩

/-- A subscription has to do with letters that are allowed only: those that wait, those it is to have
a turn with, and those it was called with. What comes later is allowed. -/
structure Within (desk : Desk) (number bound : Nat) (allowed : Letter → Prop) : Prop where
  published : bound ≤ desk.published.length
  later : ∀ letter, bound ≤ letter.change → allowed letter
  waiting : ∀ letter ∈ desk.waiting, allowed letter
  turns : ∀ letter, (number, letter) ∈ desk.turns → allowed letter
  calls : ∀ letter, (number, letter) ∈ desk.calls → allowed letter

theorem within_step {bound : Nat} {allowed : Letter → Prop}
    (within : desk.Within number bound allowed) (incident : Incident) :
    (desk.step incident).Within number bound allowed := by
  cases incident with
  | publish change =>
    refine ⟨?_, within.later, List.forall_mem_append.2 ⟨within.waiting, ?_⟩, within.turns,
      within.calls⟩
    · exact Nat.le_trans within.published (List.length_append ▸ Nat.le_add_right _ _)
    · intro letter queued
      exact within.later letter ((mem_lettersOf queued).1 ▸ within.published)
  | subscribe request => exact ⟨within.1, within.2, within.3, within.4, within.5⟩
  | unsubscribe label => exact ⟨within.1, within.2, within.3, within.4, within.5⟩
  | release label => exact ⟨within.1, within.2, within.3, within.4, within.5⟩
  | take =>
    simp only [step]
    rcases desk.take_cases with same | ⟨first, rest, idle, waits⟩
    · rwa [same]
    rw [take_eq idle waits]
    refine ⟨within.published, within.later, fun letter member => ?_, fun letter member => ?_,
      within.calls⟩
    · exact within.waiting letter (waits ▸ List.mem_cons_of_mem _ member)
    · obtain ⟨other, -, same⟩ := List.mem_map.1 member
      obtain rfl : first = letter := congrArg Prod.snd same
      exact within.waiting first (waits ▸ List.mem_cons_self)
  | offer =>
    simp only [step]
    rcases desk.offer_cases with same | ⟨other, first, rest, turns, cases⟩
    · rwa [same]
    have left : ∀ letter, (number, letter) ∈ rest → allowed letter := fun letter member =>
      within.turns letter (turns ▸ List.mem_cons_of_mem _ member)
    rcases cases with ⟨-, offered⟩ | ⟨callee, -, offered⟩
    · rw [offered]
      exact ⟨within.published, within.later, within.waiting, left, within.calls⟩
    · rw [offered]
      refine ⟨within.published, within.later, within.waiting, left, fun letter member => ?_⟩
      rcases List.mem_append.1 member with called | last
      · exact within.calls letter called
      · exact within.turns letter (turns ▸ List.mem_singleton.1 last ▸ List.mem_cons_self)
  | returns =>
    simp only [step]
    rcases desk.finish_cases with same | ⟨call, rest, -, finished⟩
    · rwa [same]
    · rw [finished]
      exact ⟨within.1, within.2, within.3, within.4, within.5⟩

theorem within_run {bound : Nat} {allowed : Letter → Prop}
    (within : desk.Within number bound allowed) (incidents : List Incident) :
    (desk.run incidents).Within number bound allowed := by
  induction incidents generalizing desk with
  | nil => exact within
  | cons incident rest hypothesis => exact hypothesis (within_step within incident)

/-- A number that is not given yet has no turns and no calls. -/
theorem Served.unknown (served : desk.Served) (unknown : desk.hub.find? number = none)
    (letter : Letter) : (number, letter) ∉ desk.turns ∧ (number, letter) ∉ desk.calls := by
  constructor
  · intro member
    obtain ⟨subscription, found, -⟩ := served.turnsConcern _ member
    exact Option.some_ne_none _ (found.symm.trans unknown)
  · intro member
    obtain ⟨subscription, found, -⟩ := served.callsWanted _ member
    exact Option.some_ne_none _ (found.symm.trans unknown)

/-- **Of the past, a subscription hears what still waited when it was made, and nothing else.** -/
theorem hearsWhatWaited_run (fresh : hub.IsFresh) (incidents : List Incident) :
    (start hub).HearsWhatWaited incidents := by
  rintro past request later subscription made rfl subscribed letter member
  have sound := sound_run (sound_start fresh) past
  obtain ⟨unknown, -, -⟩ := EventHub.find?_of_subscribe sound.orderly.numbered subscribed
  have nothing := sound.served.unknown unknown
  have within : Within ((start hub).run past) subscription.number
      ((start hub).run past).published.length fun letter =>
        ((start hub).run past).published.length ≤ letter.change ∨
          letter ∈ ((start hub).run past).waiting :=
    ⟨Nat.le_refl _, fun _ => .inl, fun _ => .inr, fun letter turn => absurd turn (nothing letter).1,
      fun letter call => absurd call (nothing letter).2⟩
  rw [run_append] at member
  refine ((within_run within (.subscribe request :: later)).calls letter
    (mem_heardBy.1 member)).imp_right fun waits => ⟨waits, ?_⟩
  obtain ⟨earlier, change, between, rfl, queued⟩ :=
    exists_publish past (List.mem_append_right _ waits)
  exact ⟨earlier, change, between, rfl, queued, (mem_lettersOf queued).2.2⟩

end SemanticNetwork.Desk
