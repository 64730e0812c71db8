/-
**What a plan makes sure of.** A plan walks through the triples as a generation will, with only the
knowledge of which variables will have an element by then, and which of these elements exist already.
A generation that follows an accepted plan has what was foreseen: an existing element where one was
expected, and one that it has created otherwise. So nothing is missing, nothing is refused by the
store, and existing edges connect the ends that they were asked for. What a plan does not look at is
whether an element that a variable has already suits a further slot.

* `Foretold`: **what was foreseen is what there is**;
* `Proceeds`: a step goes on in a certain way, or ends in a dispute;
* `Slot.Disputes`, `Slot.Misplaces`: the disputes that a plan leaves open;
* `proceeds_resolveEnd`, `proceeds_resolveEdge`: **a planned slot is resolved, or disputed**;
* `Contests`, `proceeds_generateTriples`: so an accepted template is generated, unless a slot that
  does not lead is contested;
* `Dispute`, `dispute_of_prepared`: **what may still stop a generation when its plan was accepted.**
-/
import SemanticNetwork.Proofs.Template.Interning
import SemanticNetwork.Proofs.Template.Materialization

namespace SemanticNetwork

/-- A refusal that a plan foresees: something is missing or cannot be created, the store refuses, or
an edge that exists already does not connect what it should. -/
def TemplateError.IsForeseen (store : Store) : TemplateError → Prop
  | .missingBinding .. | .cannotCreate .. | .store _ => True
  | .endpointMismatch edge _ _ => store.contains edge = true
  | _ => False

namespace Template

variable {start : Store} {template : Template} {covered : List Nat}
  {known known' : List Prospect} {state after : Generation} {slot : Slot} {address : Address}
  {count triple position : Nat}

/-! ### What was foreseen -/

/-- An element is the existing one that was expected, or it was created where none was. -/
def IsExpected (start : Store) (created : List Address) (expected : Option Address)
    (address : Address) : Prop :=
  match expected with
  | some wanted => address = wanted ∧ start.contains wanted = true
  | none => address ∈ created

/-- What a variable has is what its prospect said. -/
def Prospect.Fits (start : Store) (created : List Address) (prospect : Prospect)
    (found : Option Address) : Prop :=
  if prospect.isAvailable then
    ∃ address, found = some address ∧ IsExpected start created prospect.address? address
  else found = none

/-- **What was foreseen is what there is**: of the covered variables that they have elements, and
which. -/
structure Foretold (start : Store) (count : Nat) (covered : List Nat) (known : List Prospect)
    (state : Generation) : Prop where
  grows : Grows start state
  length : state.valuation.values.length = count
  foresees : Foresees count covered known
  fits : ∀ {var : Nat} {prospect : Prospect}, known[var]? = some prospect →
    prospect.Fits start state.created (state.valuation.get? var)

theorem IsExpected.mono {created created' : List Address} {expected : Option Address}
    (isExpected : IsExpected start created expected address) (more : created ⊆ created') :
    IsExpected start created' expected address := by
  cases expected with
  | some wanted => exact isExpected
  | none => exact more isExpected

theorem Prospect.Fits.mono {created created' : List Address} {prospect : Prospect}
    {found : Option Address} (fits : prospect.Fits start created found)
    (more : created ⊆ created') : prospect.Fits start created' found := by
  unfold Prospect.Fits at fits ⊢
  split
  · rw [if_pos ‹_›] at fits
    obtain ⟨address, here, isExpected⟩ := fits
    exact ⟨address, here, isExpected.mono more⟩
  · rwa [if_neg ‹_›] at fits

/-- What is there at the start of a generation stays as it is. -/
theorem Grows.get?_of_contains (grows : Grows start state) (consistent : start.Consistent)
    (there : start.contains address = true) : state.store.get? address = start.get? address := by
  obtain ⟨element, found⟩ := Store.contains_iff.1 there
  exact grows.spared (consistent.numbered found).2

theorem IsExpected.contains {expected : Option Address}
    (isExpected : IsExpected start state.created expected address) (grows : Grows start state)
    (consistent : start.Consistent) : state.store.contains address = true := by
  cases expected with
  | none => exact (grows.created (grows.younger address isExpected)).2 isExpected
  | some wanted =>
    obtain ⟨same, there⟩ := isExpected
    subst same
    obtain ⟨element, found⟩ := Store.contains_iff.1 there
    exact Store.contains_of_get? ((grows.get?_of_contains consistent there).trans found)

/-- At the start it is foreseen what the parameters give. -/
theorem foretold_start {valuation : Valuation} (consistent : start.Consistent)
    (length : valuation.values.length = count)
    (bound : ∀ var, var ∈ covered ↔ ∃ address, valuation.get? var = some address)
    (existing : ∀ var address, valuation.get? var = some address →
      start.contains address = true) :
    Foretold start count covered (prospects valuation) ⟨start, valuation, [], []⟩ where
  grows := grows_start consistent valuation
  length := length
  foresees := foresees_prospects length bound
  fits {var prospect} here := by
    rw [prospects, List.getElem?_map] at here
    obtain ⟨value, found, same⟩ := Option.map_eq_some_iff.1 here
    have get? : valuation.get? var = value := by
      rw [Valuation.get?, found]
      rfl
    subst same
    cases value with
    | none => exact get?
    | some address => exact ⟨address, get?, rfl, existing var address get?⟩

/-! ### One slot more -/

/-- A variable that will have an element has it, and it is the one that was foreseen. -/
theorem Foretold.exists_ofSlot? {prospect : Prospect}
    (foretold : Foretold start count covered known state)
    (available : available? known slot = some prospect) :
    slot.leads covered = false ∧ ∃ address, state.valuation.ofSlot? slot = some address ∧
      IsExpected start state.created prospect.address? address := by
  obtain ⟨var, here, inside, isAvailable⟩ := available?_eq_some_iff.1 available
  constructor
  · rw [← Bool.not_eq_true, leads_iff]
    intro free
    exact free var here ((foretold.foresees.available var).1 ⟨prospect, inside, isAvailable⟩)
  · have fits := foretold.fits inside
    rw [Prospect.Fits, if_pos isAvailable] at fits
    rwa [Valuation.ofSlot?, here, Option.bind_some]

/-- A variable for which nothing is foreseen has no element. -/
theorem Foretold.ofSlot?_eq_none (foretold : Foretold start count covered known state)
    (unavailable : available? known slot = none) : state.valuation.ofSlot? slot = none := by
  unfold Valuation.ofSlot?
  cases here : slot.var with
  | none => rfl
  | some var =>
    rw [Option.bind_some]
    by_cases inside : var < known.length
    · have found := List.getElem?_eq_getElem inside
      have fits := foretold.fits found
      have notAvailable : ¬ (known[var]).isAvailable = true := by
        intro isAvailable
        rw [available?_eq_some_iff.2 ⟨var, here, found, isAvailable⟩] at unavailable
        cases unavailable
      rwa [Prospect.Fits, if_neg notAvailable] at fits
    · rw [foretold.foresees.length, ← foretold.length] at inside
      rw [Valuation.get?, List.getElem?_eq_none (Nat.le_of_not_lt inside)]
      rfl

/-- What else is created does not matter for what was foreseen. -/
theorem Foretold.grow (foretold : Foretold start count covered known state)
    (grows : Grows start after)
    (valuation : after.valuation = state.valuation) (more : state.created ⊆ after.created) :
    Foretold start count covered known after where
  grows := grows
  length := valuation ▸ foretold.length
  foresees := foretold.foresees
  fits here := by
    rw [valuation]
    exact (foretold.fits here).mono more

/-- **One more variable has the element that is foreseen for it.** -/
theorem Foretold.bindSlot {prospect : Prospect} {covered' : List Nat}
    (foretold : Foretold start count covered known state) (isAvailable : prospect.isAvailable = true)
    (isExpected : IsExpected start state.created prospect.address? address)
    (foresees : Foresees count covered'
      (slot.var.elim known fun var => known.set var prospect)) :
    Foretold start count covered' (slot.var.elim known fun var => known.set var prospect)
      { state with valuation := state.valuation.bindSlot slot address } where
  grows := foretold.grows.remember rfl rfl
  length := by
    show (state.valuation.bindSlot slot address).values.length = count
    unfold Valuation.bindSlot
    cases slot.var with
    | none => exact foretold.length
    | some var => exact (Valuation.length_bind _ _ _).trans foretold.length
  foresees := foresees
  fits {var other} here := by
    unfold Valuation.bindSlot
    cases shared : slot.var with
    | none =>
      rw [shared] at here
      exact foretold.fits here
    | some bound =>
      rw [shared, Option.elim_some, List.getElem?_set] at here
      show other.Fits start state.created ((state.valuation.bind bound address).get? var)
      rw [Valuation.get?_bind, foretold.length, ← foretold.foresees.length]
      by_cases same : bound = var
      · rw [if_pos same] at here
        obtain ⟨inside, rest⟩ := Option.ite_none_right_eq_some.1 here
        cases rest
        rw [if_pos ⟨same, inside⟩, Prospect.Fits, if_pos isAvailable]
        exact ⟨address, rfl, isExpected⟩
      · rw [if_neg same] at here
        rw [if_neg fun both => same both.1]
        exact foretold.fits here

/-! ### Steps that may be disputed -/

section Proceeds

variable {α β : Type} {disputes disputes' : Generation → TemplateError → Prop}
  {ends : α → Generation → Prop} {ends' : β → Generation → Prop} {step : Step α}

/-- **A step goes on in a certain way, or ends in a dispute.** -/
def Proceeds (disputes : Generation → TemplateError → Prop) (step : Step α) (state : Generation)
    (ends : α → Generation → Prop) : Prop :=
  (∃ value after, step.run state = .ok value after ∧ ends value after) ∨
    ∃ error after, step.run state = .error error after ∧ disputes after error

theorem Proceeds.bind {next : α → Step β} (first : Proceeds disputes step state ends)
    (second : ∀ value after, ends value after → Proceeds disputes (next value) after ends') :
    Proceeds disputes (step >>= next) state ends' := by
  rcases first with ⟨value, after, ran, holds⟩ | ⟨error, after, ran, disputed⟩
  · rcases second value after holds with ⟨value', last, ran', holds'⟩ | ⟨error, last, ran', disputed⟩
    · exact .inl ⟨value', last, run_bind_ok_iff.2 ⟨value, after, ran, ran'⟩, holds'⟩
    · exact .inr ⟨error, last, run_bind_error_iff.2 (.inr ⟨value, after, ran, ran'⟩), disputed⟩
  · exact .inr ⟨error, after, run_bind_error_iff.2 (.inl ran), disputed⟩

theorem Proceeds.mono (proceeds : Proceeds disputes step state ends)
    (weaker : ∀ after error, disputes after error → disputes' after error) :
    Proceeds disputes' step state ends := by
  rcases proceeds with succeeds | ⟨error, after, ran, disputed⟩
  · exact .inl succeeds
  · exact .inr ⟨error, after, ran, weaker after error disputed⟩

end Proceeds

/-- **What a plan does not look at**: an element that a variable has already is not the one that a
slot fixes, or not of the type that the slot asks for. -/
inductive Slot.Disputes (template : Template) (slot : Slot) (state : Generation) :
    TemplateError → Prop where
  | binding {address fixed : Address} (bound : state.valuation.ofSlot? slot = some address)
    (asked : slot.constraint = .fixed fixed) (apart : fixed ≠ address) :
    Disputes template slot state (.conflictingBinding (template.labelOf slot) address fixed)
  | type {address : Address} {type actual : ElementType}
    (bound : state.valuation.ofSlot? slot = some address) (asked : slot.constraint = .typed type)
    (stored : state.store.type? address = some actual)
    (lacks : actual.carries (soughtType type) = false) :
    Disputes template slot state
      (.invalidParameter (template.labelOf slot) (.wrongType address actual type))

/-- Nor does it look at the ends of an edge that is only created. -/
inductive Slot.Misplaces (slot : Slot) (state : Generation) : TemplateError → Prop where
  | ends {edge source target : Address} (bound : state.valuation.ofSlot? slot = some edge)
    (created : edge ∈ state.created) (apart : state.store.ends? edge ≠ some (source, target)) :
    Misplaces slot state (.endpointMismatch edge source target)

/-- An element that a variable has already is used in a slot, or disputed. -/
theorem proceeds_boundElement (bound : state.valuation.ofSlot? slot = some address)
    (there : state.store.contains address = true) :
    Proceeds (slot.Disputes template) (template.boundElement slot) state fun found after =>
      found = some address ∧ after = state := by
  have refused : ∀ {error}, template.boundElement? slot state = .error error →
      (template.boundElement slot).run state = .error error state := by
    intro error raised
    refine run_bind_error_iff.2 (.inr ⟨state, state, rfl, ?_⟩)
    rw [raised]
    rfl
  have used : slot.Admits state.store address → Proceeds (slot.Disputes template)
      (template.boundElement slot) state fun found after => found = some address ∧ after = state :=
    fun admits => .inl ⟨_, _, run_boundElement_of_bound bound admits, rfl, rfl⟩
  cases asked : slot.constraint with
  | fixed fixed =>
    by_cases same : fixed = address
    · apply used
      rw [Slot.Admits, asked, same]
    · refine .inr ⟨_, _, refused ?_, .binding bound asked same⟩
      simp only [boundElement?, bound, asked, if_neg same]
  | typed type =>
    obtain ⟨element, found⟩ := Store.contains_iff.1 there
    have stored : state.store.type? address = some element.type := by
      rw [Store.type?, found, Option.map_some]
    cases carried : element.type.carries (soughtType type) with
    | true =>
      apply used
      rw [Slot.Admits, asked]
      exact ⟨element.type, stored, carried⟩
    | false =>
      refine .inr ⟨_, _, refused ?_, .type bound asked stored carried⟩
      simp only [boundElement?, bound, asked, stored, carried]
      rfl
  | any =>
    apply used
    rw [Slot.Admits, asked]
    trivial

theorem run_makeElement_of_ok {action : Store.Action Address} {store : Store}
    (ran : action.run state.store = .ok address store) : (makeElement action).run state =
      .ok address { state with store := store, created := state.created ++ [address] } := by
  simp only [makeElement, EStateM.run_bind, run_withStore, ran]
  rfl

/-- An element that can be created is created, and it is the one that was foreseen. -/
theorem Foretold.exists_makeElement {action : Store.Action Address} {store : Store}
    (foretold : Foretold start count covered known state) (creates : Store.Creates action)
    (ran : action.run state.store = .ok address store) :
    ∃ after, (makeElement action).run state = .ok address after ∧
      Foretold start count covered known after ∧ after.valuation = state.valuation ∧
      state.created ⊆ after.created ∧ address ∈ after.created := by
  have made := run_makeElement_of_ok ran
  have grows := (keeps_makeElement creates).ok foretold.grows made
  have more : state.created ⊆ state.created ++ [address] := List.subset_append_left _ _
  exact ⟨_, made, foretold.grow grows rfl more, rfl, more, List.mem_concat_self⟩

/-- What a slot itself says of an end is there, or it is made. -/
theorem Foretold.exists_makeEnd {prospect : Prospect} (consistent : start.Consistent)
    (foretold : Foretold start count covered known state) (notEdge : position ≠ 1)
    (said : template.slotProspect start triple position slot = .ok prospect) :
    ∃ address after, (template.makeEnd triple position slot).run state = .ok address after ∧
      Foretold start count covered known after ∧ after.valuation = state.valuation ∧
      state.created ⊆ after.created ∧ IsExpected start after.created prospect.address? address := by
  unfold slotProspect at said
  unfold makeEnd
  cases asked : slot.constraint with
  | fixed fixed =>
    rw [asked] at said
    simp only at said ⊢
    split at said
    · rename_i there
      cases said
      have isExpected : IsExpected start state.created (some fixed) fixed := ⟨rfl, there⟩
      have stays := isExpected.contains foretold.grows consistent
      refine ⟨fixed, state, ?_, foretold, rfl, List.Subset.refl _, isExpected⟩
      refine run_bind_ok_iff.2 ⟨state, state, rfl, ?_⟩
      rw [if_pos stays]
      rfl
    · cases said
  | typed type =>
    rw [asked] at said
    simp only at said ⊢
    split at said
    · rename_i creatable
      cases said
      rw [isCreatable, if_neg notEdge] at creatable
      by_cases isLink : type.isLink = true
      · rw [if_pos isLink] at creatable ⊢
        obtain ⟨after, made, rest⟩ := foretold.exists_makeElement
          (Store.creates_createTypedLink type) (Store.run_createTypedLink_of_isLink isLink creatable)
        exact ⟨_, after, made, rest⟩
      · rw [if_neg isLink] at creatable ⊢
        have notEdgeType : ¬ type.isEdge = true := by
          intro isEdge
          simp [ElementType.isNodeType, isEdge] at creatable
        rw [if_neg notEdgeType]
        obtain ⟨after, made, rest⟩ := foretold.exists_makeElement
          (Store.creates_createNode type) (Store.run_createNode_of_suits creatable)
        exact ⟨_, after, made, rest⟩
    · cases said
  | any =>
    rw [asked] at said
    cases said

/-- **An end that was planned is resolved, or disputed** where its slot does not lead. -/
theorem Foretold.proceeds_resolveEnd {expected : Option Address} (consistent : start.Consistent)
    (foretold : Foretold start count covered known state) (notEdge : position ≠ 1)
    (declared : ∀ var, slot.var = some var → var < count)
    (planned : template.foresee start triple position slot known = .ok (expected, known')) :
    Proceeds (fun after error => slot.leads covered = false ∧ slot.Disputes template after error)
      (template.resolveEnd triple position slot) state fun address after =>
        Foretold start count (covered ++ slot.var.toList) known' after ∧
          IsExpected start after.created expected address ∧ state.created ⊆ after.created := by
  have foresees := (foresee_ok foretold.foresees declared planned).1
  unfold foresee at planned
  cases available : available? known slot with
  | some prospect =>
    rw [available] at planned
    cases planned
    obtain ⟨revisited, address, bound, isExpected⟩ := foretold.exists_ofSlot? available
    have there := isExpected.contains foretold.grows consistent
    have asked : Proceeds (slot.Disputes template) (template.boundElement slot) state _ :=
      proceeds_boundElement bound there
    refine (asked.mono fun after error disputed => ⟨revisited, disputed⟩).bind
      fun found after same => ?_
    obtain ⟨rfl, rfl⟩ := same
    exact .inl ⟨address, after, rfl, { foretold with foresees := foresees }, isExpected,
      List.Subset.refl _⟩
  | none =>
    rw [available] at planned
    obtain ⟨prospect, said, same⟩ := bind_eq_ok_iff.1 planned
    cases same
    have free := foretold.ofSlot?_eq_none available
    obtain ⟨address, after, made, foretold', -, more, isExpected⟩ :=
      foretold.exists_makeEnd consistent notEdge said
    have isAvailable := (slotProspect_ok said).1
    refine .inl ⟨address, _, ?_, foretold'.bindSlot isAvailable isExpected foresees, isExpected,
      more⟩
    refine run_bind_ok_iff.2 ⟨none, state, run_boundElement_of_free free, ?_⟩
    exact run_bind_ok_iff.2 ⟨address, after, made, rfl⟩

/-! ### Edges -/

section Edges

variable {source target edge : Address} {foreseenSource foreseenTarget : Option Address}

/-- An existing edge was planned between its own ends, and these are what there is. -/
theorem Foretold.ends?_of_foreseeEdge (consistent : start.Consistent)
    (foretold : Foretold start count covered known state)
    (sourceExpected : IsExpected start state.created foreseenSource source)
    (targetExpected : IsExpected start state.created foreseenTarget target)
    (there : start.contains edge = true)
    (placed : foreseeEdge start foreseenSource (some edge) foreseenTarget = .ok ()) :
    state.store.ends? edge = some (source, target) := by
  rw [Store.ends?, foretold.grows.get?_of_contains consistent there]
  show start.ends? edge = some (source, target)
  unfold foreseeEdge at placed
  cases foreseenSource with
  | none => simp at placed
  | some wantedSource =>
    cases foreseenTarget with
    | none => simp at placed
    | some wantedTarget =>
      obtain ⟨rfl, -⟩ := sourceExpected
      obtain ⟨rfl, -⟩ := targetExpected
      simp only [Option.pure_def, Option.bind_eq_bind, Option.bind_some, Option.isSome_some,
        Bool.true_and] at placed
      split at placed
      · exact beq_iff_eq.1 ‹_›
      · cases placed

/-- An edge that exists is used between its ends. -/
theorem run_resolveEdge_of_existing
    (existing : (template.existingEdge slot).run state = .ok (some edge) state)
    (ends : state.store.ends? edge = some (source, target)) :
    (template.resolveEdge triple slot source target).run state =
      .ok edge { state with valuation := state.valuation.bindSlot slot edge } := by
  refine run_bind_ok_iff.2 ⟨some edge, state, existing, ?_⟩
  refine run_bind_ok_iff.2 ⟨state, state, rfl, ?_⟩
  rw [if_pos ends]
  rfl

/-- An edge that a variable has already is used between its ends, or disputed. -/
theorem proceeds_resolveEdge_of_bound (bound : state.valuation.ofSlot? slot = some edge)
    (there : state.store.contains edge = true)
    (placed : edge ∈ state.created ∨ state.store.ends? edge = some (source, target)) :
    Proceeds (fun after error => slot.Disputes template after error ∨ slot.Misplaces after error)
      (template.resolveEdge triple slot source target) state fun _ after => after = state := by
  have asked : Proceeds (slot.Disputes template) (template.boundElement slot) state _ :=
    proceeds_boundElement bound there
  rcases asked with ⟨found, after, ran, rfl, rfl⟩ | ⟨error, after, ran, disputed⟩
  · have existing : (template.existingEdge slot).run after = .ok (some edge) after :=
      run_bind_ok_iff.2 ⟨some edge, after, ran, rfl⟩
    by_cases ends : after.store.ends? edge = some (source, target)
    · refine .inl ⟨edge, _, run_resolveEdge_of_existing existing ends, ?_⟩
      rw [bindSlot_of_bound bound]
    · have created : edge ∈ after.created := placed.resolve_right ends
      refine .inr ⟨_, after, ?_, .inr (.ends bound created ends)⟩
      refine run_bind_error_iff.2 (.inr ⟨some edge, after, existing, ?_⟩)
      refine run_bind_error_iff.2 (.inr ⟨after, after, rfl, ?_⟩)
      rw [if_neg ends]
      rfl
  · refine .inr ⟨error, after, ?_, .inl disputed⟩
    exact run_bind_error_iff.2 (.inl (run_bind_error_iff.2 (.inl ran)))

/-- An edge can be made between elements that are there, and it is the one that was foreseen. -/
theorem Foretold.exists_makeEdge {type : ElementType} (consistent : start.Consistent)
    (foretold : Foretold start count covered known state) (creatable : type.isEdgeType = true)
    (sourceExpected : IsExpected start state.created foreseenSource source)
    (targetExpected : IsExpected start state.created foreseenTarget target) :
    ∃ edge after, (makeEdge type source target).run state = .ok edge after ∧
      Foretold start count covered known after ∧ edge ∈ after.created := by
  have created := Store.run_createEdge_of_ends foretold.grows.consistent creatable
    (sourceExpected.contains foretold.grows consistent)
    (targetExpected.contains foretold.grows consistent)
  obtain ⟨after, made, foretold', -, -, isCreated⟩ :=
    foretold.exists_makeElement (Store.creates_createEdge type source target) created
  refine ⟨_, _, run_bind_ok_iff.2 ⟨_, after, made, rfl⟩, ?_, isCreated⟩
  exact foretold'.grow (foretold'.grows.remember rfl rfl) rfl (List.Subset.refl after.created)

/-- **An edge whose variable has none yet** exists, if the slot is fixed, or is made for it. -/
theorem Foretold.exists_resolveEdge_of_free {prospect : Prospect} (consistent : start.Consistent)
    (foretold : Foretold start count covered known state)
    (free : state.valuation.ofSlot? slot = none)
    (sourceExpected : IsExpected start state.created foreseenSource source)
    (targetExpected : IsExpected start state.created foreseenTarget target)
    (said : template.slotProspect start triple 1 slot = .ok prospect)
    (placed : foreseeEdge start foreseenSource prospect.address? foreseenTarget = .ok ()) :
    ∃ edge after, (template.resolveEdge triple slot source target).run state =
        .ok edge { after with valuation := after.valuation.bindSlot slot edge } ∧
      Foretold start count covered known after ∧
      IsExpected start after.created prospect.address? edge := by
  have unbound : (template.boundElement slot).run state = .ok none state :=
    run_boundElement_of_free free
  unfold slotProspect at said
  cases asked : slot.constraint with
  | fixed edge =>
    rw [asked] at said
    simp only at said
    split at said
    · rename_i there
      cases said
      have existing : (template.existingEdge slot).run state = .ok (some edge) state := by
        refine run_bind_ok_iff.2 ⟨none, state, unbound, ?_⟩
        rw [asked]
        rfl
      have ends := foretold.ends?_of_foreseeEdge consistent sourceExpected targetExpected there placed
      exact ⟨edge, state, run_resolveEdge_of_existing existing ends, foretold, rfl, there⟩
    · cases said
  | typed type =>
    rw [asked] at said
    simp only at said
    split at said
    · rename_i creatable
      cases said
      have absent : (template.existingEdge slot).run state = .ok none state := by
        refine run_bind_ok_iff.2 ⟨none, state, unbound, ?_⟩
        rw [asked]
        rfl
      obtain ⟨edge, after, made, foretold', isCreated⟩ :=
        foretold.exists_makeEdge consistent creatable sourceExpected targetExpected
      refine ⟨edge, after, ?_, foretold', isCreated⟩
      refine run_bind_ok_iff.2 ⟨none, state, absent, ?_⟩
      rw [asked]
      exact run_bind_ok_iff.2 ⟨edge, after, made, rfl⟩
    · cases said
  | any =>
    rw [asked] at said
    cases said

/-- **An edge that was planned is resolved, or disputed** where its slot does not lead. -/
theorem Foretold.proceeds_resolveEdge {foreseenEdge : Option Address}
    (consistent : start.Consistent) (foretold : Foretold start count covered known state)
    (declared : ∀ var, slot.var = some var → var < count)
    (sourceExpected : IsExpected start state.created foreseenSource source)
    (targetExpected : IsExpected start state.created foreseenTarget target)
    (planned : template.foresee start triple 1 slot known = .ok (foreseenEdge, known'))
    (placed : foreseeEdge start foreseenSource foreseenEdge foreseenTarget = .ok ()) :
    Proceeds (fun after error => slot.leads covered = false ∧
        (slot.Disputes template after error ∨ slot.Misplaces after error))
      (template.resolveEdge triple slot source target) state fun _ after =>
        Foretold start count (covered ++ slot.var.toList) known' after := by
  have foresees := (foresee_ok foretold.foresees declared planned).1
  unfold foresee at planned
  cases available : available? known slot with
  | some prospect =>
    rw [available] at planned
    cases planned
    obtain ⟨revisited, edge, bound, isExpected⟩ := foretold.exists_ofSlot? available
    have there := isExpected.contains foretold.grows consistent
    have createdOrPlaced : edge ∈ state.created ∨
        state.store.ends? edge = some (source, target) := by
      cases expected : prospect.address? with
      | none =>
        rw [expected] at isExpected
        exact .inl isExpected
      | some wanted =>
        rw [expected] at isExpected placed
        obtain ⟨rfl, existing⟩ := isExpected
        exact .inr (foretold.ends?_of_foreseeEdge consistent sourceExpected targetExpected
          existing placed)
    rcases proceeds_resolveEdge_of_bound bound there createdOrPlaced with
      ⟨found, after, ran, rfl⟩ | ⟨error, after, ran, disputed⟩
    · exact .inl ⟨found, after, ran, { foretold with foresees := foresees }⟩
    · exact .inr ⟨error, after, ran, revisited, disputed⟩
  | none =>
    rw [available] at planned
    obtain ⟨prospect, said, same⟩ := bind_eq_ok_iff.1 planned
    cases same
    obtain ⟨edge, after, ran, foretold', isExpected⟩ :=
      foretold.exists_resolveEdge_of_free consistent (foretold.ofSlot?_eq_none available)
        sourceExpected targetExpected said placed
    exact .inl ⟨edge, _, ran,
      foretold'.bindSlot (slotProspect_ok said).1 isExpected foresees⟩

end Edges

/-! ### Triples -/

/-- **A slot of some triples is contested** when some variables are covered: it does not lead, and
what its variable has is disputed. -/
inductive Contests (template : Template) (state : Generation) (error : TemplateError) :
    List Nat → List SlotTriple → Prop where
  | source {covered : List Nat} {slots : SlotTriple} {rest : List SlotTriple}
    (revisited : slots.source.leads covered = false)
    (disputed : slots.source.Disputes template state error) :
    Contests template state error covered (slots :: rest)
  | target {covered : List Nat} {slots : SlotTriple} {rest : List SlotTriple}
    (revisited : slots.target.leads (covered ++ slots.source.var.toList) = false)
    (disputed : slots.target.Disputes template state error) :
    Contests template state error covered (slots :: rest)
  | edge {covered : List Nat} {slots : SlotTriple} {rest : List SlotTriple}
    (revisited : slots.edge.leads
      (covered ++ slots.source.var.toList ++ slots.target.var.toList) = false)
    (disputed : slots.edge.Disputes template state error ∨ slots.edge.Misplaces state error) :
    Contests template state error covered (slots :: rest)
  | later {covered : List Nat} {slots : SlotTriple} {rest : List SlotTriple}
    (contested : Contests template state error (covered ++ slots.vars) rest) :
    Contests template state error covered (slots :: rest)

/-- **A triple that was planned is generated**, unless one of its slots is contested. -/
theorem Foretold.proceeds_generateTriple {slots : SlotTriple} (rest : List SlotTriple)
    (consistent : start.Consistent) (foretold : Foretold start count covered known state)
    (declared : ∀ slot ∈ slots.toList, ∀ var, slot.var = some var → var < count)
    (planned : template.foreseeTriple start known (slots, triple) = .ok known') :
    Proceeds (fun after error => Contests template after error covered (slots :: rest))
      (template.generateTriple (slots, triple)) state fun _ after =>
        Foretold start count (covered ++ slots.vars) known' after := by
  simp only [foreseeTriple, bind_eq_ok_iff, Prod.exists] at planned
  obtain ⟨source, _, first, target, _, second, edge, _, third, _, placed, same⟩ := planned
  cases same
  have declaredAt := fun slot (member : slot ∈ slots.toList) => declared slot member
  simp only [SlotTriple.toList, List.mem_cons, List.not_mem_nil, or_false] at declaredAt
  refine ((foretold.proceeds_resolveEnd consistent (by decide) (declaredAt _ (.inl rfl))
    first).mono fun after error contested => .source contested.1 contested.2).bind ?_
  rintro sourceAt after ⟨foretold, sourceExpected, -⟩
  refine ((foretold.proceeds_resolveEnd consistent (by decide) (declaredAt _ (.inr (.inr rfl)))
    second).mono fun after error contested => .target contested.1 contested.2).bind ?_
  rintro targetAt after ⟨foretold, targetExpected, more⟩
  refine ((foretold.proceeds_resolveEdge consistent (declaredAt _ (.inr (.inl rfl)))
    (sourceExpected.mono more) targetExpected third placed).mono
      fun after error contested => .edge contested.1 contested.2).bind ?_
  intro edgeAt after foretold
  refine .inl ⟨_, after, rfl, ?_⟩
  rwa [SlotTriple.vars, ← List.append_assoc, ← List.append_assoc]

/-- **Triples that were planned are generated**, unless one of their slots is contested. -/
theorem Foretold.proceeds_mapM {indexed : List (SlotTriple × Nat)} (consistent : start.Consistent)
    (foretold : Foretold start count covered known state)
    (declared : ∀ slots triple, (slots, triple) ∈ indexed → ∀ slot ∈ slots.toList,
      ∀ var, slot.var = some var → var < count)
    (planned : indexed.foldlM (template.foreseeTriple start) known = .ok known') :
    Proceeds (fun after error => Contests template after error covered (indexed.map Prod.fst))
      (indexed.mapM template.generateTriple) state fun _ _ => True := by
  induction indexed generalizing covered known state with
  | nil => exact .inl ⟨[], state, rfl, trivial⟩
  | cons head rest hypothesis =>
    obtain ⟨slots, triple⟩ := head
    rw [List.foldlM_cons, bind_eq_ok_iff] at planned
    obtain ⟨between, first, planned⟩ := planned
    rw [List.mapM_cons, List.map_cons]
    refine (foretold.proceeds_generateTriple (rest.map Prod.fst) consistent
      (declared slots triple List.mem_cons_self) first).bind ?_
    intro row after foretold
    refine ((hypothesis foretold
      (fun slots triple member => declared slots triple (List.mem_cons_of_mem _ member))
      planned).mono fun after error => Contests.later).bind ?_
    intro rows last _
    exact .inl ⟨row :: rows, last, rfl, trivial⟩

/-! ### Templates -/

variable {valuation : Valuation} {parameters : Assignment} {error : TemplateError}

/-- **What may still stop a generation when its plan was accepted**: a slot is disputed, or an edge
that was just created has a name by which it is used again between other ends. -/
inductive Dispute (template : Template) (state : Generation) : TemplateError → Prop where
  | slot {slot : Slot} {error : TemplateError} (member : slot ∈ template.slots)
    (disputed : slot.Disputes template state error) : Dispute template state error
  | ends {slots : SlotTriple} {name : String} {var : Nat} {edge source target : Address}
    (member : slots ∈ template.triples) (named : template.varNamed? name = some var)
    (shared : slots.edge.var = some var) (bound : state.valuation.get? var = some edge)
    (created : edge ∈ state.created) (apart : state.store.ends? edge ≠ some (source, target)) :
    Dispute template state (.endpointMismatch edge source target)

/-- **What is contested is a dispute**, since the edges that occur before have names. -/
theorem Contests.dispute {triples : List SlotTriple} {seen : List Nat}
    (contested : Contests template state error covered triples)
    (included : triples ⊆ template.triples) (names : template.NamesEdges seen triples)
    (coverage : ∀ var ∈ covered, template.IsNamed var ∨ var ∈ seen) :
    template.Dispute state error := by
  have slotOf : ∀ {slots : SlotTriple} {slot : Slot}, slots ∈ template.triples →
      slot ∈ slots.toList → slot ∈ template.slots :=
    fun inTriples inSlots => List.mem_flatMap.2 ⟨_, inTriples, inSlots⟩
  induction contested generalizing seen with
  | source revisited disputed =>
    have here := included List.mem_cons_self
    exact .slot (slotOf here (by simp [SlotTriple.toList])) disputed
  | target revisited disputed =>
    have here := included List.mem_cons_self
    exact .slot (slotOf here (by simp [SlotTriple.toList])) disputed
  | @edge covered slots rest revisited disputed =>
    have here := included List.mem_cons_self
    rcases disputed with disputed | ⟨bound, created, apart⟩
    · exact .slot (slotOf here (by simp [SlotTriple.toList])) disputed
    · obtain ⟨var, shared, bound⟩ := Option.bind_eq_some_iff.1 bound
      have occurs : var ∈ covered ++ slots.source.var.toList ++ slots.target.var.toList := by
        refine Decidable.byContradiction fun unseen => ?_
        rw [← Bool.not_eq_true] at revisited
        refine revisited (leads_iff.2 fun other here => ?_)
        rw [shared] at here
        exact Option.some.inj here ▸ unseen
      have named : template.IsNamed var := by
        have before := names.1 var shared
        simp only [List.append_assoc, List.mem_append] at occurs before
        rcases occurs with known | inSlots
        · rcases coverage var known with named | inSeen
          · exact named
          · exact before (.inl inSeen)
        · exact before (.inr inSlots)
      obtain ⟨name, named⟩ := named
      exact .ends here named shared bound created apart
  | @later covered slots rest contested hypothesis =>
    refine hypothesis (fun _ member => included (List.mem_cons_of_mem _ member)) names.2 ?_
    intro var member
    rcases List.mem_append.1 member with known | inSlots
    · rcases coverage var known with named | inSeen
      · exact .inl named
      · exact .inr (List.mem_append_left _ inSeen)
    · exact .inr (List.mem_append_right _ inSlots)

/-- **A template whose plan is accepted is generated**, unless one of its slots is contested. -/
theorem proceeds_generateTriples (consistent : start.Consistent)
    (covers : template.Covers template.slots)
    (prepared : template.prepare start parameters = .ok valuation) :
    Proceeds (fun after error =>
        Contests template after error (template.givenVars parameters) template.triples)
      template.generateTriples ⟨start, valuation, [], []⟩ fun _ _ => True := by
  simp only [prepare, bind_eq_ok_iff] at prepared
  obtain ⟨_, -, _, bound, _, planned, same⟩ := prepared
  cases same
  obtain ⟨length, -, only⟩ := bound_of_bindParameters covers bound
  obtain ⟨prospects, planned, -⟩ := bind_eq_ok_iff.1 planned
  have foretold := foretold_start consistent length (mem_givenVars_iff_bound covers bound)
    fun var address found => (only var address found).2
  have proceeds := foretold.proceeds_mapM consistent (fun _ _ => declared_of_mem covers) planned
  rwa [List.zipIdx_map_fst] at proceeds

/-- **Once a plan was accepted, a generation can only be stopped by a dispute.** -/
theorem dispute_of_prepared (consistent : start.Consistent) (built : template.IsBuilt)
    (prepared : template.prepare start parameters = .ok valuation)
    (ran : template.generateTriples.run ⟨start, valuation, [], []⟩ = .error error state) :
    template.Dispute state error := by
  rcases proceeds_generateTriples consistent built.covers prepared with
    ⟨_, _, ran', -⟩ | ⟨_, _, ran', contested⟩
  · rw [ran] at ran'
    cases ran'
  · rw [ran] at ran'
    cases ran'
    refine contested.dispute (List.Subset.refl _) built.namesEdges fun var given => .inl ?_
    obtain ⟨⟨name, address⟩, -, named⟩ := List.mem_filterMap.1 given
    exact ⟨name, named⟩

/-- **No dispute is about what a plan foresees.** -/
theorem Dispute.not_isForeseen (dispute : template.Dispute state error) (grows : Grows start state)
    (consistent : start.Consistent) : ¬ error.IsForeseen start := by
  cases dispute with
  | slot member disputed => cases disputed <;> exact id
  | ends member named shared bound created apart =>
    exact Store.not_contains_iff.2 (consistent.get?_of_newer (grows.younger _ created))

/-- A generation that is refused after its plan was accepted ends with a triple. -/
theorem exists_run_of_generateFrom
    (failed : (template.generateFrom start valuation).outcome = .error error) :
    ∃ state, template.generateTriples.run ⟨start, valuation, [], []⟩ = .error error state := by
  unfold generateFrom at failed
  split at failed
  · cases failed
  · rename_i reason state ran
    cases failed
    exact ⟨state, ran⟩

end Template

end SemanticNetwork
