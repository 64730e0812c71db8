/-
**What is heard of a run.** What is done to a network, operation after operation, is heard by its
observers; and what they hear is the life of every element. Of an edge that came they hear so once, and
if it went, that it went once and later. Of what was never there, and so of what a refused generation
made and took back, they hear nothing. Of written payloads they hear write by write.

* `Network.carryAll`, `Network.heard`: a run, and what observers of a kind hear of it;
* `journal_carryAll`, `events_carryAll`: **what recorders hear is in their journals, and what the hub
  hears it has published**;
* `storyOf_of_spent`, `storyOf_of_there`, `storyOf_of_came`: an address that was used up, an element
  that was there, an element that came;
* `Network.Chronicled`, `chronicled`: **of every run observers hear faithfully.**
-/
import SemanticNetwork.Proofs.Network.Recording

namespace SemanticNetwork.Network

open Change Store

/-- The network after some deeds, one after another. -/
def carryAll (network : Network) (deeds : List Deed) : Network := deeds.foldl carry network

/-- What observers of a kind hear of some deeds. -/
def heard (network : Network) (ear : Observer → Bool) : List Deed → List Change
  | [] => []
  | deed :: rest => network.overheard ear deed ++ (network.carry deed).heard ear rest

/-- All that observers of a kind hear of one address. -/
def heardOf (network : Network) (ear : Observer → Bool) (deeds : List Deed) (address : Address) :
    List Change :=
  (network.heard ear deeds).filter fun change => change.subject == address

/-- The links that some deeds write, write by write. -/
def written (network : Network) : List Deed → List Address
  | [] => []
  | deed :: rest => network.wrote deed ++ (network.carry deed).written rest

variable {network : Network} {deeds earlier later : List Deed} {deed : Deed} {address : Address}
  {element other : Element} {ear : Observer → Bool}

theorem carryAll_append (network : Network) (earlier later : List Deed) :
    network.carryAll (earlier ++ later) = (network.carryAll earlier).carryAll later :=
  List.foldl_append

theorem carryAll_cons (network : Network) (deed : Deed) (rest : List Deed) :
    network.carryAll (deed :: rest) = (network.carry deed).carryAll rest := rfl

theorem heard_append (network : Network) (ear : Observer → Bool) (earlier later : List Deed) :
    network.heard ear (earlier ++ later) =
      network.heard ear earlier ++ (network.carryAll earlier).heard ear later := by
  induction earlier generalizing network with
  | nil => rfl
  | cons deed rest hypothesis =>
    rw [List.cons_append, heard, heard, hypothesis, List.append_assoc]
    rfl

/-! ### What is heard, deed by deed -/

/-- A run of deeds keeps the store consistent, the observers, and the order of addresses. -/
theorem carryAll_keeps (consistent : network.store.Consistent) (deeds : List Deed) :
    (network.carryAll deeds).store.Consistent ∧
      (network.carryAll deeds).observers = network.observers ∧
        network.store.Precedes (network.carryAll deeds).store := by
  induction deeds generalizing network with
  | nil => exact ⟨consistent, rfl, .refl _⟩
  | cons deed rest hypothesis =>
    have logs := logs_carry consistent deed
    obtain ⟨consistent', observers, precedes⟩ := hypothesis logs.consistent
    exact ⟨consistent', observers.trans logs.observers, logs.precedes.trans precedes⟩

theorem consistent_carryAll (consistent : network.store.Consistent) (deeds : List Deed) :
    (network.carryAll deeds).store.Consistent :=
  (carryAll_keeps consistent deeds).1

theorem precedes_carryAll (consistent : network.store.Consistent) (deeds : List Deed) :
    network.store.Precedes (network.carryAll deeds).store :=
  (carryAll_keeps consistent deeds).2.2

theorem ears_carry (consistent : network.store.Consistent) (deed : Deed) :
    (network.carry deed).ears ear = network.ears ear :=
  ears_congr (logs_carry consistent deed).observers

/-- **What recorders hear of some deeds is added to their journal.** -/
theorem journal_carryAll (network : Network) (deeds : List Deed) (number : Nat) :
    (network.carryAll deeds).journal number =
      network.journal number ++ network.heard (Observer.isRecorder number) deeds := by
  induction deeds generalizing network with
  | nil => exact (List.append_nil _).symm
  | cons deed rest hypothesis =>
    rw [carryAll_cons, hypothesis, journal_carry, heard, List.append_assoc]

/-- **What the hub hears of some deeds it has published.** -/
theorem events_carryAll (network : Network) (deeds : List Deed) :
    (network.carryAll deeds).events =
      (network.heard Observer.isEvents deeds).foldl EventHub.publish network.events := by
  induction deeds generalizing network with
  | nil => rfl
  | cons deed rest hypothesis =>
    rw [carryAll_cons, hypothesis, events_carry, heard, List.foldl_append]

/-- **Of written payloads observers hear write by write.** -/
theorem writes_heard (consistent : network.store.Consistent) (ear : Observer → Bool)
    (deeds : List Deed) : writes (network.heard ear deeds) =
      repeated (network.ears ear) ((network.written deeds).map .payloadChanged) := by
  induction deeds generalizing network with
  | nil => rfl
  | cons deed rest hypothesis =>
    rw [heard, writes_append, writes_overheard consistent,
      hypothesis (logs_carry consistent deed).consistent, ears_carry consistent, written,
      List.map_append, repeated_append]

/-! ### The life of an element -/

/-- Nothing comes to an address that was used up, and nothing is told of it. -/
theorem storyOf_of_spent (consistent : network.store.Consistent)
    (older : address.value ≤ network.store.allocated) (gone : network.store.get? address = none)
    (ear : Observer → Bool) (deeds : List Deed) :
    (network.carryAll deeds).store.get? address = none ∧
      storyOf address (network.heard ear deeds) = [] := by
  induction deeds generalizing network with
  | nil => exact ⟨gone, rfl⟩
  | cons deed rest hypothesis =>
    obtain ⟨consistent', -, precedes, -⟩ := logs_carry consistent deed
    have still : (network.carry deed).store.get? address = none := by
      cases found : (network.carry deed).store.get? address with
      | none => rfl
      | some element =>
        obtain ⟨former, there, -⟩ := precedes.old found older
        rw [gone] at there
        cases there
    have silent := story_overheard consistent ear deed address
    rw [news_of_same (still.trans gone.symm)] at silent
    obtain ⟨gone', rest'⟩ := hypothesis consistent' (Nat.le_trans older precedes.allocated) still
    refine ⟨gone', ?_⟩
    rw [heard, storyOf_append, silent.eq_nil, rest']
    rfl

/-- **An element that was there** is there still, and nothing was told of it; or it is gone, and that
was told. -/
theorem storyOf_of_there (consistent : network.store.Consistent)
    (found : network.store.get? address = some element) (ear : Observer → Bool) (deeds : List Deed) :
    (∃ other, (network.carryAll deeds).store.get? address = some other ∧ element.IsLike other ∧
        storyOf address (network.heard ear deeds) = []) ∨
      (network.carryAll deeds).store.get? address = none ∧
        (storyOf address (network.heard ear deeds)).Perm
          (repeated (network.ears ear) element.departure) := by
  induction deeds generalizing network element with
  | nil => exact .inl ⟨element, found, ⟨rfl, rfl, rfl⟩, rfl⟩
  | cons deed rest hypothesis =>
    obtain ⟨consistent', -, precedes, -⟩ := logs_carry consistent deed
    have here := story_overheard consistent ear deed address
    rw [heard, storyOf_append]
    cases next : (network.carry deed).store.get? address with
    | some between =>
      have like := precedes.isLike consistent consistent' found next
      rw [news_of_stays found next, repeated_nil] at here
      rw [here.eq_nil, List.nil_append]
      rcases hypothesis consistent' next with ⟨other, stays, like', silent⟩ | ⟨gone, story'⟩
      · exact .inl ⟨other, stays, like.trans like', silent⟩
      · rw [ears_carry consistent, ← like.departure] at story'
        exact .inr ⟨gone, story'⟩
    | none =>
      have older := Nat.le_trans (consistent.numbered found).2 precedes.allocated
      obtain ⟨gone, silent⟩ := storyOf_of_spent consistent' older next ear rest
      rw [news_of_went found next] at here
      rw [silent, List.append_nil]
      exact .inr ⟨gone, here⟩

/-- An arrival is told in one way. -/
theorem eq_arrival_of_perm {told : List Change} {hearers : Nat}
    (perm : told.Perm (repeated hearers element.arrival)) :
    told = repeated hearers element.arrival := by
  rw [Element.arrival_eq] at perm ⊢
  cases ends : element.ends? with
  | none =>
    rw [ends] at perm
    exact perm.eq_nil
  | some between =>
    rw [ends, Option.map_some, Option.toList_some, repeated_singleton] at perm
    exact (List.perm_replicate.1 perm).trans (repeated_singleton _).symm

/-- **An element that came** was told of by its arrival. -/
theorem storyOf_of_came (consistent : network.store.Consistent)
    (newer : network.store.allocated < address.value)
    (found : (network.carryAll deeds).store.get? address = some element) (ear : Observer → Bool) :
    storyOf address (network.heard ear deeds) = repeated (network.ears ear) element.arrival := by
  have missing := consistent.get?_of_newer newer
  induction deeds generalizing network with
  | nil => rw [show network.store.get? address = _ from found] at missing; cases missing
  | cons deed rest hypothesis =>
    obtain ⟨consistent', -, precedes, -⟩ := logs_carry consistent deed
    have here := story_overheard consistent ear deed address
    rw [heard, storyOf_append]
    cases next : (network.carry deed).store.get? address with
    | some between =>
      rw [news_of_came missing next] at here
      rcases storyOf_of_there consistent' next ear rest with ⟨other, stays, like, silent⟩ | ⟨gone, -⟩
      · obtain rfl : element = other := Option.some.inj (found.symm.trans stays)
        rw [silent, List.append_nil, ← like.arrival]
        exact eq_arrival_of_perm here
      · cases found.symm.trans gone
    | none =>
      rw [news_of_same (next.trans missing.symm)] at here
      rw [here.eq_nil, List.nil_append, ← ears_carry consistent deed]
      refine hypothesis consistent' (Nat.lt_of_not_le fun older => ?_) found next
      cases found.symm.trans (storyOf_of_spent consistent' older next ear rest).1

/-! ### Moments of a run -/

/-- After some of the deeds, an element was there. -/
def WasThere (network : Network) (deeds : List Deed) (address : Address) (element : Element) : Prop :=
  ∃ earlier later, deeds = earlier ++ later ∧
    (network.carryAll earlier).store.get? address = some element

theorem WasThere.keyed (consistent : network.store.Consistent)
    (there : network.WasThere deeds address element) : element.address = address := by
  obtain ⟨earlier, later, -, found⟩ := there
  exact (consistent_carryAll consistent earlier).keyed found

/-- What was there at two moments of a run is alike. -/
theorem WasThere.isLike (consistent : network.store.Consistent)
    (first : network.WasThere deeds address element)
    (second : network.WasThere deeds address other) : element.IsLike other := by
  -- One of the two moments is not later than the other.
  have alike : ∀ {earlier later} {former latter : Element},
      (network.carryAll earlier).store.get? address = some former →
        (network.carryAll (earlier ++ later)).store.get? address = some latter →
          former.IsLike latter := by
    intro earlier later former latter found found'
    rw [carryAll_append] at found'
    have consistent' := consistent_carryAll consistent earlier
    exact (precedes_carryAll consistent' later).isLike consistent'
      (consistent_carryAll consistent' later) found found'
  obtain ⟨earlier, later, split, found⟩ := first
  obtain ⟨earlier', later', split', found'⟩ := second
  rcases List.append_eq_append_iff.1 (split.symm.trans split') with
    ⟨between, rfl, -⟩ | ⟨between, rfl, -⟩
  · exact alike found found'
  · exact (alike found' found).symm

/-- What is written is a link that is there. -/
theorem mem_wrote {link : Address} (wrote : link ∈ network.wrote deed) :
    ∃ element, network.store.get? link = some element ∧ element.isLink = true := by
  cases deed with
  | setPayload place payload =>
    simp only [Network.wrote, run_setPayload] at wrote
    cases ran : (Store.setPayload place payload).run network.store with
    | error error store =>
      rw [ran] at wrote
      cases wrote
    | ok _ store =>
      rw [ran] at wrote
      obtain ⟨element, found, isLink, -⟩ := setPayload_ok ran
      exact List.mem_singleton.1 wrote ▸ ⟨element, found, isLink⟩
  | _ => cases wrote

/-- What some deeds wrote was a link that was there. -/
theorem mem_written {link : Address} (written : link ∈ network.written deeds) :
    ∃ element, network.WasThere deeds link element ∧ element.isLink = true := by
  induction deeds generalizing network with
  | nil => cases written
  | cons deed rest hypothesis =>
    rcases List.mem_append.1 written with now | later
    · obtain ⟨element, found, isLink⟩ := mem_wrote now
      exact ⟨element, ⟨[], deed :: rest, rfl, found⟩, isLink⟩
    · obtain ⟨element, ⟨before, after, split, found⟩, isLink⟩ := hypothesis later
      exact ⟨element, ⟨deed :: before, after, by rw [split]; rfl, found⟩, isLink⟩

/-- Of what was never there as a link, all that is said is its story. -/
theorem heardOf_eq_storyOf (consistent : network.store.Consistent)
    (noLink : ∀ element, network.WasThere deeds address element → element.isLink = false) :
    network.heardOf ear deeds address = storyOf address (network.heard ear deeds) := by
  refine storyOf_eq_filter fun change member here => ?_
  rw [writes_heard consistent] at member
  obtain ⟨link, written, rfl⟩ := List.mem_map.1 (mem_of_mem_repeated member)
  obtain ⟨element, there, isLink⟩ := mem_written written
  obtain rfl : link = address := here
  rw [noLink element there] at isLink
  cases isLink

/-- An edge is no link at any moment. -/
theorem noLink_of_edge (consistent : network.store.Consistent) {ends : Address × Address}
    (there : network.WasThere deeds address element) (edge : element.ends? = some ends)
    (other : Element) (there' : network.WasThere deeds address other) : other.isLink = false := by
  have same : other.ends? = some ends := (there'.isLike consistent there).2.2.trans edge
  obtain ⟨_, _, _ | _ | _⟩ := other
  · cases same
  · rfl
  · cases same

/-- Of an address at which there was never anything, nothing is told. -/
theorem heardOf_of_never (consistent : network.store.Consistent)
    (never : ∀ element, ¬ network.WasThere deeds address element) :
    network.heardOf ear deeds address = [] := by
  rw [heardOf_eq_storyOf consistent fun element there => absurd there (never element)]
  induction deeds generalizing network with
  | nil => rfl
  | cons deed rest hypothesis =>
    have missing : network.store.get? address = none :=
      Option.eq_none_iff_forall_ne_some.2 fun element found =>
        never element ⟨[], deed :: rest, rfl, found⟩
    have missing' : (network.carry deed).store.get? address = none :=
      Option.eq_none_iff_forall_ne_some.2 fun element found =>
        never element ⟨[deed], rest, rfl, found⟩
    have silent := story_overheard consistent ear deed address
    rw [news_of_same (missing'.trans missing.symm)] at silent
    rw [heard, storyOf_append, silent.eq_nil, List.nil_append]
    refine hypothesis (logs_carry consistent deed).consistent fun element there => ?_
    obtain ⟨before, after, parts, found⟩ := there
    exact never element ⟨deed :: before, after, by rw [parts]; rfl, found⟩

/-- An edge that is created is there afterwards, as it was asked for. -/
theorem get?_of_createEdge {type : ElementType} {source target edge : Address} {after : Network}
    (created : (createEdge type source target).run network = .ok edge after) :
    after.store.get? edge = some ⟨edge, type, .edge source target⟩ := by
  rw [run_createEdge] at created
  cases ran : (Store.createEdge type source target).run network.store with
  | error error store =>
    rw [ran] at created
    cases created
  | ok address store =>
    rw [ran] at created
    cases created
    have arrivals : ∀ change ∈ [edgeAdded edge source target type], change.IsArrival :=
      fun change member => ⟨_, _, _, _, List.mem_singleton.1 member⟩
    rw [(publish_arrivals arrivals _).2.store]
    exact (createEdge_ok ran).2.2.get?_self

/-- **An element that came and went** was told of by its arrival, and later by its departure. -/
theorem storyOf_of_gone (consistent : network.store.Consistent)
    (newer : network.store.allocated < address.value)
    (there : network.WasThere deeds address element)
    (gone : (network.carryAll deeds).store.get? address = none) (ear : Observer → Bool) :
    ∃ last, storyOf address (network.heard ear deeds) =
        repeated (network.ears ear) element.arrival ++ last ∧
      last.Perm (repeated (network.ears ear) element.departure) := by
  obtain ⟨earlier, later, rfl, found⟩ := there
  rw [carryAll_append] at gone
  rw [heard_append, storyOf_append, storyOf_of_came consistent newer found]
  rcases storyOf_of_there (consistent_carryAll consistent earlier) found ear later with
    ⟨other, stays, -⟩ | ⟨-, departs⟩
  · cases gone.symm.trans stays
  · rw [ears_congr (carryAll_keeps consistent earlier).2.1] at departs
    exact ⟨_, rfl, departs⟩

/-- A refused generation leaves no element behind. -/
theorem get?_carry_of_refused {template : Template} {parameters : Assignment}
    {error : TemplateError} (consistent : network.store.Consistent)
    (refused : (network.generate template parameters).1 = .error error) (address : Address) :
    (network.carry (.generate template parameters)).store.get? address =
      network.store.get? address := by
  obtain ⟨silent, allocated, -, restored⟩ :=
    Template.generate_error_restores consistent refused
  simp only [Network.carry, generate, silent, restored, publish_nil]
  rfl

/-- What a refused generation used up was never there. -/
theorem not_wasThere_of_unmade {template : Template} {parameters : Assignment}
    {error : TemplateError} (consistent : network.store.Consistent)
    (refused : ((network.carryAll earlier).generate template parameters).1 = .error error)
    (newer : (network.carryAll earlier).store.allocated < address.value)
    (older : address.value ≤
      (network.carryAll (earlier ++ [.generate template parameters])).store.allocated)
    (element : Element) :
    ¬ network.WasThere (earlier ++ .generate template parameters :: later) address element := by
  rintro ⟨before, after, split, found⟩
  have consistent' := consistent_carryAll consistent earlier
  rcases List.append_eq_append_iff.1 split with ⟨between, rfl, parts⟩ | ⟨between, rfl, -⟩
  · cases between with
    | nil =>
      rw [List.append_nil, consistent'.get?_of_newer newer] at found
      cases found
    | cons deed rest =>
      obtain ⟨rfl, -⟩ := List.cons.inj parts
      have restored : (network.carryAll (earlier ++ [.generate template parameters])).store.get?
          address = none := by
        rw [carryAll_append]
        exact (get?_carry_of_refused consistent' refused address).trans
          (consistent'.get?_of_newer newer)
      rw [List.append_cons, carryAll_append] at found
      have handedOut : (network.carryAll (earlier ++ [.generate template parameters])).store.HandedOut
          address := ⟨Nat.lt_of_le_of_lt (Nat.zero_le _) newer, older⟩
      have never := (precedes_carryAll (consistent_carryAll consistent _) rest).get?_eq_none handedOut
        restored
      cases found.symm.trans never
  · have consistentBefore := consistent_carryAll consistent before
    have precedes := precedes_carryAll consistentBefore between
    rw [← carryAll_append] at precedes
    rw [consistentBefore.get?_of_newer (Nat.lt_of_le_of_lt precedes.allocated newer)] at found
    cases found

/-! ### What is heard -/

/-- **Observers of a kind hear faithfully of some deeds.** Of the elements that were created meanwhile,
each hears what became of them, and no more. -/
structure Chronicled (network : Network) (ear : Observer → Bool) (deeds : List Deed) : Prop where
  /-- An edge that is created is there, with the type and the ends that were asked for. -/
  made : ∀ {earlier later type source target edge after},
    deeds = earlier ++ .createEdge type source target :: later →
      (createEdge type source target).run (network.carryAll earlier) = .ok edge after →
        network.WasThere deeds edge ⟨edge, type, .edge source target⟩
  /-- Of an edge that is there, each hears once that it came. -/
  standing : ∀ {edge element source target}, network.store.allocated < edge.value →
    (network.carryAll deeds).store.get? edge = some element → element.ends? = some (source, target) →
      network.heardOf ear deeds edge =
        List.replicate (network.ears ear) (.edgeAdded edge source target element.type)
  /-- Of an edge that is gone, each hears once that it came, and later once that it went. -/
  gone : ∀ {edge element source target}, network.store.allocated < edge.value →
    network.WasThere deeds edge element → element.ends? = some (source, target) →
      (network.carryAll deeds).store.get? edge = none →
        ∃ last, network.heardOf ear deeds edge =
            List.replicate (network.ears ear) (.edgeAdded edge source target element.type) ++ last ∧
          last.Perm
            (List.replicate (network.ears ear) (.edgeRemoved edge source target element.type) ++
              List.replicate (network.ears ear) (.erased edge))
  /-- Of every element that is gone, each hears once that it was erased. -/
  erased : ∀ {address element}, network.store.allocated < address.value →
    network.WasThere deeds address element → (network.carryAll deeds).store.get? address = none →
      (network.heard ear deeds).count (.erased address) = network.ears ear
  /-- Of what was never there, they hear nothing. -/
  unseen : ∀ {address}, (∀ element, ¬ network.WasThere deeds address element) →
    network.heardOf ear deeds address = []
  /-- Of what a refused generation made, they hear nothing. -/
  unmade : ∀ {earlier later template parameters error address},
    deeds = earlier ++ .generate template parameters :: later →
      ((network.carryAll earlier).generate template parameters).1 = .error error →
        (network.carryAll earlier).store.allocated < address.value →
          address.value ≤
            (network.carryAll (earlier ++ [.generate template parameters])).store.allocated →
              network.heardOf ear deeds address = []
  /-- Of every write that was not refused, each hears once and in order. -/
  written : writes (network.heard ear deeds) =
    repeated (network.ears ear) ((network.written deeds).map .payloadChanged)

/-- **Of every run observers hear faithfully**, whatever they or others erase meanwhile. -/
theorem chronicled (consistent : network.store.Consistent) (ear : Observer → Bool)
    (deeds : List Deed) : network.Chronicled ear deeds where
  made {earlier later type source target edge after} split created := by
    refine ⟨earlier ++ [.createEdge type source target], later, by rw [split, List.append_cons], ?_⟩
    rw [carryAll_append]
    show ((network.carryAll earlier).attempt (createEdge type source target)).store.get? edge = _
    rw [attempt, created]
    exact get?_of_createEdge created
  standing {edge element source target} newer found edges := by
    have there : network.WasThere deeds edge element := ⟨deeds, [], (List.append_nil _).symm, found⟩
    rw [heardOf_eq_storyOf consistent (noLink_of_edge consistent there edges),
      storyOf_of_came consistent newer found, Element.arrival_eq, edges, there.keyed consistent]
    exact repeated_singleton _
  gone {edge element source target} newer there edges gone := by
    obtain ⟨last, story, departs⟩ := storyOf_of_gone consistent newer there gone ear
    have keyed := there.keyed consistent
    rw [Element.arrival_eq, edges, keyed] at story
    rw [Element.departure_eq, edges, keyed, repeated_append, repeated_singleton] at departs
    rw [heardOf_eq_storyOf consistent (noLink_of_edge consistent there edges), story]
    refine ⟨last, congrArg (· ++ last) (repeated_singleton _), departs.trans ?_⟩
    exact .of_eq (congrArg (· ++ _) (repeated_singleton _))
  erased {address element} newer there gone := by
    obtain ⟨last, story, departs⟩ := storyOf_of_gone consistent newer there gone ear
    have keyed := there.keyed consistent
    have counted : (network.heard ear deeds).count (.erased address) =
        (storyOf address (network.heard ear deeds)).count (.erased address) := by
      refine (List.count_filter ?_).symm
      simp [Change.subject, isWrite]
    rw [counted, story, List.count_append, departs.count_eq, count_repeated, count_repeated,
      Element.arrival_eq, Element.departure_eq, keyed]
    cases element.ends? <;> simp
  unseen never := heardOf_of_never consistent never
  unmade split refused newer older :=
    heardOf_of_never consistent (split ▸ not_wasThere_of_unmade consistent refused newer older)
  written := writes_heard consistent ear deeds

end SemanticNetwork.Network
