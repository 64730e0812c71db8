/-
**Valuations.** What a valuation gives is a partial function from variables to elements. A valuation
joins what another gives with what stands in some slots if it gives both and nothing else. There is
at most one such valuation, and whatever order the slots are fitted in, it is the one that comes out.

* `Valuation.Joins`, with `Joins.unique`, `Joins.trans`, `Joins.rest` and `Joins.exists_part`;
* `fit?_eq_some_iff`, `foldlM_fit?_eq_some_iff`: **fitting slots joins what stands in them**;
* `bound_of_bindParameters`, `exists_bindParameters`: what parameters give to the variables.
-/
import SemanticNetwork.Proofs.Template.Building
import SemanticNetwork.Template.Search

namespace SemanticNetwork

open Template (Slot)

namespace Valuation

@[simp] theorem length_bind (valuation : Valuation) (var : Nat) (address : Address) :
    (valuation.bind var address).values.length = valuation.values.length :=
  List.length_set

theorem lt_of_get? {valuation : Valuation} {var : Nat} {address : Address}
    (found : valuation.get? var = some address) : var < valuation.values.length :=
  (List.getElem?_eq_some_iff.1 (Option.join_eq_some_iff.1 found)).1

theorem ext_get? {first second : Valuation} (length : first.values.length = second.values.length)
    (same : ∀ var address, first.get? var = some address ↔ second.get? var = some address) :
    first = second := by
  have values : first.values = second.values := by
    refine List.ext_getElem length fun var bound bound' => Option.ext fun address => ?_
    have sameAt := same var address
    simpa [get?, List.getElem?_eq_getElem, bound, bound'] using sameAt
  exact Valuation.ext values

/-- Any partial function on the variables is what some valuation gives. -/
theorem exists_of_graph (count : Nat) (graph : Nat → Address → Prop)
    (functional : ∀ {var first second}, graph var first → graph var second → first = second)
    (bounded : ∀ {var address}, graph var address → var < count) :
    ∃ valuation : Valuation, valuation.values.length = count ∧
      ∀ var address, valuation.get? var = some address ↔ graph var address := by
  classical
  let value : Nat → Option Address := fun var =>
    if given : ∃ address, graph var address then some given.choose else none
  refine ⟨⟨(List.range count).map value⟩, by simp, fun var address => ?_⟩
  have valueIff : value var = some address ↔ graph var address := by
    by_cases given : ∃ address, graph var address
    · simp only [value, dif_pos given, Option.some.injEq]
      exact ⟨fun same => same ▸ given.choose_spec, fun here => functional given.choose_spec here⟩
    · simp only [value, dif_neg given, reduceCtorEq, false_iff]
      exact fun here => given ⟨address, here⟩
  rw [← valueIff]
  by_cases inside : var < count
  · simp [get?, inside]
  · have outside : value var ≠ some address := fun here => inside (bounded (valueIff.1 here))
    simp [get?, inside, outside]

/-! ### Joining what stands in slots -/

/-- A valuation gives what another gives, and to the variables of some slots what stands there, and
nothing else. -/
structure Joins (before : Valuation) (stands : Slot → Address → Prop) (after : Valuation) :
    Prop where
  length : after.values.length = before.values.length
  graph : ∀ var address, after.get? var = some address ↔
    before.get? var = some address ∨ ∃ slot, slot.var = some var ∧ stands slot address

variable {before middle after : Valuation} {stands stands' : Slot → Address → Prop}

/-- **There is at most one join.** -/
theorem Joins.unique {other : Valuation} (joins : before.Joins stands after)
    (joins' : before.Joins stands other) : after = other := by
  refine ext_get? (joins.length.trans joins'.length.symm) fun var address => ?_
  rw [joins.graph, joins'.graph]

theorem Joins.congr (joins : before.Joins stands after)
    (same : ∀ slot address, stands slot address ↔ stands' slot address) :
    before.Joins stands' after where
  length := joins.length
  graph var address := by simp only [joins.graph, same]

theorem Joins.refl (valuation : Valuation) : valuation.Joins (fun _ _ => False) valuation where
  length := rfl
  graph var address := by simp

/-- Slots may be joined one after another. -/
theorem Joins.trans (first : before.Joins stands middle) (second : middle.Joins stands' after) :
    before.Joins (fun slot address => stands slot address ∨ stands' slot address) after where
  length := second.length.trans first.length
  graph var address := by
    rw [second.graph, first.graph, or_assoc]
    refine or_congr_right ?_
    simp only [and_or_left, exists_or]

/-- What is left to join after a part was joined. -/
theorem Joins.rest
    (whole : before.Joins (fun slot address => stands slot address ∨ stands' slot address) after)
    (part : before.Joins stands middle) : middle.Joins stands' after where
  length := whole.length.trans part.length.symm
  graph var address := by
    rw [whole.graph, part.graph, or_assoc]
    refine or_congr_right ?_
    simp only [and_or_left, exists_or]

/-- If all slots can be joined, so can a part of them. -/
theorem Joins.exists_part (whole : before.Joins stands' after)
    (part : ∀ {slot address}, stands slot address → stands' slot address) :
    ∃ middle, before.Joins stands middle := by
  have included : ∀ {var address}, (before.get? var = some address ∨
      ∃ slot, slot.var = some var ∧ stands slot address) → after.get? var = some address := by
    rintro var address (found | ⟨slot, here, holds⟩)
    · exact (whole.graph var address).2 (.inl found)
    · exact (whole.graph var address).2 (.inr ⟨slot, here, part holds⟩)
  obtain ⟨middle, length, graph⟩ := exists_of_graph before.values.length
    (fun var address => before.get? var = some address ∨
      ∃ slot, slot.var = some var ∧ stands slot address)
    (fun first second => Option.some.inj ((included first).symm.trans (included second)))
    (fun given => whole.length ▸ lt_of_get? (included given))
  exact ⟨middle, length, graph⟩

theorem Joins.get?_of_stands {slot : Slot} {var : Nat} {address : Address}
    (joins : before.Joins stands after) (here : slot.var = some var)
    (holds : stands slot address) : after.get? var = some address :=
  (joins.graph var address).2 (.inr ⟨slot, here, holds⟩)

end Valuation

namespace Template

variable {store : Store} {valuation after : Valuation} {slot : Slot} {address : Address}

/-! ### Fitting -/

/-- A variable that is given an element joins what stands in its slot. -/
theorem joins_bindSlot (bounded : ∀ var, slot.var = some var → var < valuation.values.length)
    (free : valuation.ofSlot? slot = none) :
    valuation.Joins (fun other place => other = slot ∧ place = address)
      (valuation.bindSlot slot address) := by
  unfold Valuation.bindSlot
  cases here : slot.var with
  | none =>
    refine ⟨rfl, fun var place => ?_⟩
    simp only [Option.elim_none, iff_self_or]
    rintro ⟨_, standsHere, rfl, -⟩
    rw [here] at standsHere
    cases standsHere
  | some var =>
    refine ⟨Valuation.length_bind .., fun other place => ?_⟩
    have unbound : valuation.get? var = none := by
      simpa [Valuation.ofSlot?, here] using free
    rw [Option.elim_some, Valuation.get?_bind]
    by_cases same : var = other
    · subst same
      rw [if_pos ⟨rfl, bounded var here⟩, unbound]
      constructor
      · rintro ⟨⟩
        exact .inr ⟨slot, here, rfl, rfl⟩
      · rintro (given | ⟨_, -, -, rfl⟩)
        · cases given
        · rfl
    · rw [if_neg fun both => same both.1]
      simp only [iff_self_or]
      rintro ⟨_, standsHere, rfl, -⟩
      rw [here] at standsHere
      exact absurd (Option.some.inj standsHere) same

theorem joins_self (bound : valuation.ofSlot? slot = some address) :
    valuation.Joins (fun other place => other = slot ∧ place = address) valuation := by
  obtain ⟨var, here, given⟩ := Option.bind_eq_some_iff.1 bound
  refine ⟨rfl, fun other place => ?_⟩
  simp only [iff_self_or]
  rintro ⟨_, standsHere, rfl, rfl⟩
  rw [here] at standsHere
  cases standsHere
  exact given

theorem bindSlot_of_bound (bound : valuation.ofSlot? slot = some address) :
    valuation.bindSlot slot address = valuation := by
  obtain ⟨var, here, given⟩ := Option.bind_eq_some_iff.1 bound
  rw [Valuation.bindSlot, here, Option.elim_some]
  refine Valuation.ext_get? (Valuation.length_bind ..) fun other place => ?_
  rw [Valuation.get?_bind]
  split
  · rename_i same
    rw [← same.1, given]
  · rfl

/-- **Fitting an element to a slot** checks its type and joins it to the valuation. -/
theorem fit?_eq_some_iff (bounded : ∀ var, slot.var = some var → var < valuation.values.length) :
    fit? store valuation (slot, address) = some after ↔ suits store slot address = true ∧
      valuation.Joins (fun other place => other = slot ∧ place = address) after := by
  unfold fit?
  by_cases suitable : suits store slot address = true
  · simp only [suitable, if_true, true_and]
    cases bound : valuation.ofSlot? slot with
    | none =>
      simp only [Option.some.injEq]
      constructor
      · rintro rfl
        exact joins_bindSlot bounded bound
      · exact fun joins => (joins_bindSlot bounded bound).unique joins
    | some existing =>
      constructor
      · intro kept
        simp only at kept
        split at kept
        · rename_i same
          subst same
          cases kept
          exact joins_self bound
        · cases kept
      · intro joins
        obtain ⟨var, here, given⟩ := Option.bind_eq_some_iff.1 bound
        have already := (joins.graph var existing).2 (.inl given)
        have joined := joins.get?_of_stands here ⟨rfl, rfl⟩
        have same : existing = address := Option.some.inj (already.symm.trans joined)
        subst same
        simp only [if_true, Option.some.injEq]
        exact (joins_self bound).unique joins
  · simp [suitable]

/-- **Fitting several elements** checks their types and joins them all. -/
theorem foldlM_fit?_eq_some_iff {placed : List (Slot × Address)}
    (bounded : ∀ slot address, (slot, address) ∈ placed → ∀ var, slot.var = some var →
      var < valuation.values.length) :
    placed.foldlM (fit? store) valuation = some after ↔
      (∀ slot address, (slot, address) ∈ placed → suits store slot address = true) ∧
        valuation.Joins (fun slot address => (slot, address) ∈ placed) after := by
  induction placed generalizing valuation with
  | nil =>
    simp only [List.foldlM_nil, List.not_mem_nil, false_implies, implies_true, true_and]
    constructor
    · intro same
      cases same
      exact .refl _
    · exact fun joins => congrArg some ((Valuation.Joins.refl valuation).unique joins)
  | cons head rest hypothesis =>
    obtain ⟨slot, address⟩ := head
    have boundedHead := bounded slot address List.mem_cons_self
    simp only [List.foldlM_cons, Option.bind_eq_bind, Option.bind_eq_some_iff,
      fit?_eq_some_iff boundedHead]
    have sameMembers : ∀ other place, ((other = slot ∧ place = address) ∨ (other, place) ∈ rest) ↔
        (other, place) ∈ (slot, address) :: rest := by
      intro other place
      rw [List.mem_cons, Prod.mk.injEq]
    have boundedRest : ∀ {middle : Valuation}, middle.values.length = valuation.values.length →
        ∀ slot address, (slot, address) ∈ rest → ∀ var, slot.var = some var →
          var < middle.values.length := by
      intro middle length slot address member var here
      rw [length]
      exact bounded slot address (List.mem_cons_of_mem _ member) var here
    constructor
    · rintro ⟨middle, ⟨suitable, joins⟩, fitted⟩
      rw [hypothesis (boundedRest joins.length)] at fitted
      refine ⟨fun other place member => ?_, (joins.trans fitted.2).congr sameMembers⟩
      rcases (sameMembers other place).2 member with ⟨rfl, rfl⟩ | member
      · exact suitable
      · exact fitted.1 other place member
    · rintro ⟨suitable, joins⟩
      have first : ∃ middle, valuation.Joins (fun other place => other = slot ∧ place = address)
          middle := joins.exists_part fun same => (sameMembers _ _).1 (.inl same)
      obtain ⟨middle, part⟩ := first
      refine ⟨middle, ⟨suitable slot address List.mem_cons_self, part⟩, ?_⟩
      rw [hypothesis (boundedRest part.length)]
      exact ⟨fun other place member => suitable other place (List.mem_cons_of_mem _ member),
        (joins.congr fun other place => (sameMembers other place).symm).rest part⟩

/-! ### Parameters -/

variable {template : Template} {parameters : Assignment}

/-- A parameter gives an element to a variable, by one of its names. -/
def Gives (template : Template) (entries : List (String × Address)) (var : Nat)
    (address : Address) : Prop :=
  ∃ name, (name, address) ∈ entries ∧ template.varNamed? name = some var

/-- One parameter is bound if its name occurs and its element exists. -/
theorem bindParameter_eq_ok_iff {name : String} :
    bindParameter store template valuation (name, address) = .ok after ↔
      ∃ var, template.varNamed? name = some var ∧ store.contains address = true ∧
        after = valuation.bind var address := by
  simp only [bindParameter]
  cases template.varNamed? name with
  | none => simp
  | some var =>
    by_cases there : store.contains address = true
    · simp [there, eq_comm]
    · simp [there]

theorem bound_of_foldlM {slots : List Slot} (covers : template.Covers slots)
    {entries : List (String × Address)} (length : valuation.values.length = template.vars.length)
    (bound : entries.foldlM (bindParameter store template) valuation = .ok after) :
    after.values.length = template.vars.length ∧
      (∀ var, (∃ address, valuation.get? var = some address ∨ template.Gives entries var address) →
        ∃ address, after.get? var = some address) ∧
      ∀ var address, after.get? var = some address → valuation.get? var = some address ∨
        (template.Gives entries var address ∧ store.contains address = true) := by
  induction entries generalizing valuation with
  | nil =>
    cases bound
    refine ⟨length, ?_, fun var address found => .inl found⟩
    rintro var ⟨address, found | ⟨name, member, -⟩⟩
    · exact ⟨address, found⟩
    · cases member
  | cons entry rest hypothesis =>
    obtain ⟨name, place⟩ := entry
    rw [List.foldlM_cons] at bound
    cases first : bindParameter store template valuation (name, place) with
    | error error =>
      rw [first] at bound
      cases bound
    | ok middle =>
      rw [first] at bound
      obtain ⟨var, named, there, rfl⟩ := bindParameter_eq_ok_iff.1 first
      have inside : var < valuation.values.length := length ▸ lt_of_varNamed? covers named
      obtain ⟨lengthAfter, still, only⟩ :=
        hypothesis ((Valuation.length_bind ..).trans length) bound
      refine ⟨lengthAfter, fun other given => still other ?_, fun other address found => ?_⟩
      · by_cases same : var = other
        · exact ⟨place, .inl (by rw [Valuation.get?_bind, if_pos ⟨same, inside⟩])⟩
        · rw [Valuation.get?_bind, if_neg fun both => same both.1]
          obtain ⟨address, found | ⟨name', member, named'⟩⟩ := given
          · exact ⟨address, .inl found⟩
          · refine ⟨address, .inr ⟨name', ?_, named'⟩⟩
            rcases List.mem_cons.1 member with equal | member
            · cases equal
              exact absurd (Option.some.inj (named.symm.trans named')) same
            · exact member
      · rcases only other address found with found | ⟨⟨name', member, named'⟩, there'⟩
        · rw [Valuation.get?_bind] at found
          split at found
          · rename_i here
            cases found
            exact .inr ⟨⟨name, List.mem_cons_self, here.1 ▸ named⟩, there⟩
          · exact .inl found
        · exact .inr ⟨⟨name', List.mem_cons_of_mem _ member, named'⟩, there'⟩

theorem get?_unbound (count var : Nat) : (Valuation.unbound count).get? var = none := by
  simp only [Valuation.get?, Valuation.unbound, List.getElem?_replicate]
  split <;> rfl

/-- **Whatever parameters are bound**, a variable is bound if a parameter gives it an element, and
then to an element that some parameter gives it and that exists. -/
theorem bound_of_bindParameters {slots : List Slot} (covers : template.Covers slots)
    (bound : template.bindParameters store parameters = .ok valuation) :
    valuation.values.length = template.vars.length ∧
      (∀ var, (∃ address, template.Gives parameters.entries var address) →
        ∃ address, valuation.get? var = some address) ∧
      ∀ var address, valuation.get? var = some address →
        template.Gives parameters.entries var address ∧ store.contains address = true := by
  obtain ⟨length, still, only⟩ :=
    bound_of_foldlM covers List.length_replicate bound
  refine ⟨length, fun var given => ?_, fun var address found => ?_⟩
  · obtain ⟨address, gives⟩ := given
    exact still var ⟨address, .inr gives⟩
  · rcases only var address found with unbound | gives
    · cases (get?_unbound _ var).symm.trans unbound
    · exact gives

/-- Parameters are all bound if each has a name of the template and an element that exists. -/
theorem exists_bound {entries : List (String × Address)}
    (named : ∀ entry ∈ entries, template.hasName entry.1 = true)
    (existing : ∀ entry ∈ entries, store.contains entry.2 = true) (start : Valuation) :
    ∃ valuation, entries.foldlM (bindParameter store template) start = .ok valuation := by
  induction entries generalizing start with
  | nil => exact ⟨start, rfl⟩
  | cons entry rest hypothesis =>
    obtain ⟨var, found⟩ := Option.isSome_iff_exists.1 (named entry List.mem_cons_self)
    have first : bindParameter store template start entry = .ok (start.bind var entry.2) :=
      bindParameter_eq_ok_iff.2 ⟨var, found, existing entry List.mem_cons_self, rfl⟩
    rw [List.foldlM_cons, first]
    exact hypothesis (fun other member => named other (List.mem_cons_of_mem _ member))
      (fun other member => existing other (List.mem_cons_of_mem _ member)) _

/-- **Parameters that agree are all bound.** Each must have a name of the template and an element
that exists, and no two may give different elements to one variable. -/
theorem exists_bindParameters {slots : List Slot} (covers : template.Covers slots)
    (named : ∀ name address, (name, address) ∈ parameters.entries → template.hasName name = true)
    (existing : ∀ name address, (name, address) ∈ parameters.entries →
      store.contains address = true)
    (agreeing : ∀ var first second, template.Gives parameters.entries var first →
      template.Gives parameters.entries var second → first = second) :
    ∃ valuation, template.bindParameters store parameters = .ok valuation ∧
      valuation.values.length = template.vars.length ∧
      ∀ var address, valuation.get? var = some address ↔
        template.Gives parameters.entries var address := by
  obtain ⟨valuation, bound⟩ := exists_bound (fun entry => named entry.1 entry.2)
    (fun entry => existing entry.1 entry.2) (.unbound template.vars.length)
  obtain ⟨length, given, only⟩ := bound_of_bindParameters covers bound
  refine ⟨valuation, bound, length, fun var address => ⟨fun found => (only var address found).1, ?_⟩⟩
  intro gives
  obtain ⟨other, found⟩ := given var ⟨address, gives⟩
  rw [found, agreeing var other address (only var other found).1 gives]

/-! ### Names -/

/-- **An instance has for a name the element of the name's variable**, if the variables of all names
have elements. -/
theorem get?_ofValuation (rows : List Triple) (name : String)
    (bound : ∀ name var, (name, var) ∈ template.names → ∃ address, valuation.get? var = some address) :
    (Instance.ofValuation template valuation rows).get? name =
      (template.varNamed? name).bind valuation.get? := by
  unfold Instance.get? Instance.ofValuation varNamed?
  generalize template.names = names at bound
  induction names with
  | nil => rfl
  | cons entry rest hypothesis =>
    obtain ⟨known, var⟩ := entry
    obtain ⟨address, found⟩ := bound known var List.mem_cons_self
    have restBound := hypothesis fun name var member => bound name var (List.mem_cons_of_mem _ member)
    by_cases same : known = name
    · simp [found, same]
    · have skipped : (known == name) = false := by simpa using same
      simpa [found, skipped] using restBound

end Template

end SemanticNetwork
