/-
**What becomes of parameters.** A template can call one variable by several names, and parameters
give elements to names. What a variable gets is what the last of the parameters for it says, and it
keeps that while the template is generated or searched. So a parameter is honoured if no other gives
another element to its variable; but where two do, nothing is refused, and one of them is passed over.

* `lastGiven?`, `get?_of_bindParameters`: of several parameters for a variable the last counts;
* `reconciled`, `bindParameters_reconciled`: parameters that disagree are read as if they all said
  what the last one says;
* `honours_parameters`: **parameters that do not disagree are honoured**, and others are never
  refused for it;
* `accepts_disagreement`: two elements for two names of one variable, and no refusal.
-/
import SemanticNetwork.Proofs.Template.Materialization
import SemanticNetwork.Proofs.Template.Search

namespace SemanticNetwork.Template

variable {store : Store} {template : Template} {parameters : Assignment}
  {entries rest : List (String × Address)} {valuation after : Valuation} {var : Nat}
  {address : Address} {name : String}

/-- The element that some parameters give to a variable; of several the last counts. -/
def lastGiven? (template : Template) (entries : List (String × Address)) (var : Nat) :
    Option Address :=
  (entries.reverse.find? fun entry => template.varNamed? entry.1 == some var).map Prod.snd

theorem lastGiven?_cons (entry : String × Address) : template.lastGiven? (entry :: rest) var =
    (template.lastGiven? rest var).or
      (if template.varNamed? entry.1 = some var then some entry.2 else none) := by
  unfold lastGiven?
  rw [List.reverse_cons, List.find?_append]
  cases rest.reverse.find? fun entry => template.varNamed? entry.1 == some var with
  | some later => rfl
  | none =>
    by_cases here : template.varNamed? entry.1 = some var
    · simp [here]
    · simp [here]

/-- The last parameter for a variable is one of the parameters for it. -/
theorem gives_of_lastGiven? (given : template.lastGiven? entries var = some address) :
    template.Gives entries var address := by
  obtain ⟨⟨name, _⟩, found, rfl⟩ := Option.map_eq_some_iff.1 given
  have here := List.find?_some found
  exact ⟨name, List.mem_reverse.1 (List.mem_of_find?_eq_some found), beq_iff_eq.1 here⟩

theorem exists_lastGiven? (gives : template.Gives entries var address) :
    ∃ last, template.lastGiven? entries var = some last := by
  obtain ⟨name, member, here⟩ := gives
  have found : (entries.reverse.find?
      fun entry => template.varNamed? entry.1 == some var).isSome = true :=
    List.find?_isSome.2 ⟨_, List.mem_reverse.2 member, beq_iff_eq.2 here⟩
  obtain ⟨entry, found⟩ := Option.isSome_iff_exists.1 found
  exact ⟨entry.2, Option.map_eq_some_iff.2 ⟨entry, found, rfl⟩⟩

/-! ### What the variables get -/

theorem get?_of_foldlM {slots : List Slot} (covers : template.Covers slots)
    (length : valuation.values.length = template.vars.length)
    (bound : entries.foldlM (bindParameter store template) valuation = .ok after) :
    (∀ entry ∈ entries, ∃ var, template.varNamed? entry.1 = some var) ∧
      ∀ var, after.get? var = (template.lastGiven? entries var).or (valuation.get? var) := by
  induction entries generalizing valuation with
  | nil =>
    cases bound
    exact ⟨nofun, fun var => rfl⟩
  | cons entry rest hypothesis =>
    rw [List.foldlM_cons, bind_eq_ok_iff] at bound
    obtain ⟨middle, first, bound⟩ := bound
    obtain ⟨var, named, -, rfl⟩ := bindParameter_eq_ok_iff.1 first
    have inside : var < valuation.values.length := length ▸ lt_of_varNamed? covers named
    obtain ⟨known, given⟩ := hypothesis ((Valuation.length_bind ..).trans length) bound
    refine ⟨List.forall_mem_cons.2 ⟨⟨var, named⟩, known⟩, fun other => ?_⟩
    rw [given, Valuation.get?_bind, lastGiven?_cons, named, Option.or_assoc]
    by_cases same : var = other
    · simp [same, same ▸ inside]
    · simp [same]

/-- **Of several parameters for a variable the last counts.** -/
theorem get?_of_bindParameters {slots : List Slot} (covers : template.Covers slots)
    (bound : template.bindParameters store parameters = .ok valuation) :
    (∀ entry ∈ parameters.entries, ∃ var, template.varNamed? entry.1 = some var) ∧
      ∀ var, valuation.get? var = template.lastGiven? parameters.entries var := by
  have length : (Valuation.unbound template.vars.length).values.length = template.vars.length :=
    List.length_replicate
  obtain ⟨known, given⟩ := get?_of_foldlM covers length bound
  refine ⟨known, fun var => ?_⟩
  rw [given, get?_unbound, Option.or_none]

/-! ### Parameters that disagree -/

/-- Parameters in which every name has what the last parameter for its variable says. -/
def reconciled (template : Template) (parameters : Assignment) : Assignment where
  entries := parameters.entries.map fun (name, address) =>
    (name, ((template.varNamed? name).bind (template.lastGiven? parameters.entries)).getD address)
  nodup := by
    rw [List.map_map]
    exact parameters.nodup

theorem lastGiven?_reconciled (var : Nat) :
    template.lastGiven? (template.reconciled parameters).entries var =
      template.lastGiven? parameters.entries var := by
  cases given : template.lastGiven? parameters.entries var with
  | none =>
    unfold lastGiven? at given
    simp only [lastGiven?, reconciled, ← List.map_reverse, List.find?_map, Function.comp_def,
      Option.map_eq_none_iff.1 given, Option.map_none]
  | some last =>
    obtain ⟨entry, found, -⟩ := Option.map_eq_some_iff.1 given
    have here := List.find?_some found
    rw [beq_iff_eq] at here
    rw [lastGiven?, reconciled, ← List.map_reverse, List.find?_map]
    simp only [Function.comp_def, found, Option.map_some, here, Option.bind_some, given,
      Option.getD_some]

/-- **Parameters that disagree are read as if they all said what the last one says.** -/
theorem bindParameters_reconciled {slots : List Slot} (covers : template.Covers slots)
    (named : ∀ entry ∈ parameters.entries, template.hasName entry.1 = true)
    (existing : ∀ entry ∈ parameters.entries, store.contains entry.2 = true) :
    template.bindParameters store (template.reconciled parameters) =
      template.bindParameters store parameters := by
  have named' : ∀ entry ∈ (template.reconciled parameters).entries,
      template.hasName entry.1 = true := by
    intro entry member
    obtain ⟨given, inEntries, rfl⟩ := List.mem_map.1 member
    exact named given inEntries
  have existing' : ∀ entry ∈ (template.reconciled parameters).entries,
      store.contains entry.2 = true := by
    intro entry member
    obtain ⟨⟨name, address⟩, inEntries, rfl⟩ := List.mem_map.1 member
    simp only
    cases last : (template.varNamed? name).bind (template.lastGiven? parameters.entries) with
    | none => exact existing _ inEntries
    | some other =>
      obtain ⟨var, -, last⟩ := Option.bind_eq_some_iff.1 last
      obtain ⟨name', inEntries', -⟩ := gives_of_lastGiven? last
      exact existing _ inEntries'
  obtain ⟨valuation, bound⟩ := exists_bound named existing (.unbound template.vars.length)
  obtain ⟨valuation', bound'⟩ := exists_bound named' existing' (.unbound template.vars.length)
  have same : valuation' = valuation := by
    refine Valuation.ext_get? ?_ fun var address => ?_
    · rw [(bound_of_bindParameters covers bound').1, (bound_of_bindParameters covers bound).1]
    · rw [(get?_of_bindParameters covers bound').2, (get?_of_bindParameters covers bound).2,
        lastGiven?_reconciled]
  exact bound'.trans (same ▸ bound.symm)

/-! ### What an instance has for the names -/

/-- A name has the element of its variable, if that has one. -/
theorem get?_ofValuation_of_bound (rows : List Triple) (here : template.varNamed? name = some var)
    (found : valuation.get? var = some address) :
    (Instance.ofValuation template valuation rows).get? name = some address := by
  unfold varNamed? at here
  unfold Instance.get? Instance.ofValuation
  generalize template.names = names at here
  induction names with
  | nil => cases here
  | cons entry rest hypothesis =>
    obtain ⟨known, other⟩ := entry
    by_cases same : known = name
    · obtain rfl : other = var := by simpa [same] using here
      simp [found, same]
    · have later := hypothesis (by simpa [same] using here)
      cases given : valuation.get? other with
      | none =>
        rw [List.filterMap_cons_none (by simp [given])]
        exact later
      | some place =>
        rw [List.filterMap_cons_some (by simp [given]; rfl), List.find?_cons_of_neg (by simpa)]
        exact later

/-- **What an instance makes of parameters.** A name that they mention has the element that the last
of the parameters for its variable says; and that is the element of its own parameter, if no
parameter gives another element to the variable. -/
structure Heeds (template : Template) (parameters : Assignment) (made : Instance) : Prop where
  last : ∀ {name address}, (name, address) ∈ parameters.entries → ∃ var,
    template.varNamed? name = some var ∧
      made.get? name = template.lastGiven? parameters.entries var
  honoured : ∀ {name address}, (name, address) ∈ parameters.entries →
    (∀ other place, (other, place) ∈ parameters.entries →
      template.varNamed? other = template.varNamed? name → place = address) →
    made.get? name = some address

/-- What keeps the parameters heeds them. -/
theorem heeds_of_kept {slots : List Slot} {start : Valuation} (covers : template.Covers slots)
    (bound : template.bindParameters store parameters = .ok start)
    (kept : ∀ {var address}, start.get? var = some address → valuation.get? var = some address)
    (rows : List Triple) : template.Heeds parameters (.ofValuation template valuation rows) := by
  obtain ⟨known, given⟩ := get?_of_bindParameters covers bound
  have last : ∀ {name address}, (name, address) ∈ parameters.entries → ∃ var chosen,
      template.varNamed? name = some var ∧
        template.lastGiven? parameters.entries var = some chosen ∧
          (Instance.ofValuation template valuation rows).get? name = some chosen := by
    intro name address member
    obtain ⟨var, here⟩ := known _ member
    obtain ⟨chosen, last⟩ := exists_lastGiven? ⟨name, member, here⟩
    exact ⟨var, chosen, here, last,
      get?_ofValuation_of_bound rows here (kept ((given var).trans last))⟩
  refine ⟨fun member => ?_, fun {name address} member alone => ?_⟩
  · obtain ⟨var, chosen, here, last, found⟩ := last member
    exact ⟨var, here, found.trans last.symm⟩
  · obtain ⟨var, chosen, here, last, found⟩ := last member
    obtain ⟨other, member', here'⟩ := gives_of_lastGiven? last
    rw [found, alone other chosen member' (here'.trans here.symm)]

theorem heeds_generate {made : Instance} (consistent : store.Consistent)
    (covers : template.Covers template.slots)
    (generated : (template.generate store parameters).outcome = .ok made) :
    template.Heeds parameters made := by
  obtain ⟨start, state, -, bound, -, ran, instanceOf, -, -⟩ := generate_ok generated
  have sized := (bound_of_bindParameters covers bound).1
  obtain ⟨-, progress⟩ := progress_generateTriples covers consistent sized
    (mem_givenVars_iff_bound covers bound) ran
  rw [instanceOf]
  exact heeds_of_kept covers bound (fun found => (progress.joins.graph _ _).2 (.inl found)) _

theorem heeds_search {found : List Instance} (consistent : store.Consistent)
    (covers : template.Covers template.slots)
    (searched : template.search store parameters = .ok found) :
    ∀ made ∈ found, template.Heeds parameters made := by
  simp only [search, searchIn, bind_eq_ok_iff] at searched
  obtain ⟨_, valid, start, bound, returned⟩ := searched
  cases returned
  intro made member
  obtain ⟨partialMatch, inMatches, complete⟩ := List.mem_filterMap.1 member
  obtain ⟨rows, -, rfl⟩ := Option.map_eq_some_iff.1 complete
  have all : (List.range template.size ++ []).Perm (List.range template.size) := by
    rw [List.append_nil]
  obtain ⟨order, perm, handled⟩ := exists_order store all [template.unmatched start]
  rw [List.length_range] at handled
  have distinct : (order.reverse ++ []).Nodup := by
    rw [List.append_nil]
    exact (List.reverse_perm order).nodup_iff.2 (perm.nodup_iff.2 List.nodup_range)
  have enumerates := enumerates_inOrder consistent (makesSense_of_validate valid) covers
    (bound_of_bindParameters covers bound).1 (enumerates_unmatched store template start)
    (fun position member => List.mem_range.1 (perm.mem_iff.1 member)) distinct
  have solves := (enumerates.mem_iff partialMatch).1 (handled ▸ inMatches)
  exact heeds_of_kept covers bound (fun found => (solves.joins.graph _ _).2 (.inl found)) rows

/-- **Parameters that do not disagree are honoured** by every instance, be it generated or found.
Parameters that do are never refused for it: whatever comes of them is what comes of the parameters
that all say what the last one for the variable says. -/
theorem honours_parameters (reachable : store.Reachable) (built : template.IsBuilt)
    (parameters : Assignment) :
    (∀ made, (template.generate store parameters).outcome = .ok made →
        template.Heeds parameters made) ∧
      (∀ found, template.search store parameters = .ok found →
        ∀ made ∈ found, template.Heeds parameters made) ∧
      ((∀ entry ∈ parameters.entries,
          template.hasName entry.1 = true ∧ store.contains entry.2 = true) →
        template.generate store parameters =
            template.generate store (template.reconciled parameters) ∧
          template.search store parameters =
            template.search store (template.reconciled parameters)) := by
  refine ⟨fun made => heeds_generate reachable.consistent built.covers,
    fun found => heeds_search reachable.consistent built.covers, fun proper => ?_⟩
  have same := bindParameters_reconciled built.covers (fun entry member => (proper entry member).1)
    fun entry member => (proper entry member).2
  constructor
  · simp only [generate, prepare, same]
  · simp only [search, searchIn, same]

/-- A store with three nodes and an edge from the first to each of the others. -/
def forkedNodes : Store :=
  ((Session.start (.new 4 .manual) []).run
    [.createNode .constantNode, .createNode .constantNode, .createNode .constantNode,
      .createEdgeIn 0 .membership ⟨1⟩ ⟨2⟩, .createEdgeIn 0 .constantDirected ⟨1⟩ ⟨3⟩]).network.store

/-- A template for a node that two edges lead to, which calls it by another name the second time. -/
def twiceNamed : Template :=
  ofClauses [
    .triple (.fixed ⟨1⟩) (.typed .access) ((Item.typed .node).named "member"),
    .triple (.fixed ⟨1⟩) (.typed .constantDirected) ((Item.reference "member").named "part")]

/-- Nodes for both names. -/
def memberAndPart (member part : Address) : Assignment where
  entries := [("member", member), ("part", part)]
  nodup := by simp

/-- Where both names are given the same node, it is the one in the instance. -/
theorem honours_twiceNamed : forkedNodes.Reachable ∧ twiceNamed.IsBuilt ∧
    ∃ made, (twiceNamed.generate forkedNodes (memberAndPart ⟨2⟩ ⟨2⟩)).outcome = .ok made ∧
      made.get? "member" = some ⟨2⟩ ∧ made.get? "part" = some ⟨2⟩ := by
  have reachable : forkedNodes.Reachable := ⟨_, _, _, rfl⟩
  have built : twiceNamed.IsBuilt := ⟨_, rfl⟩
  obtain ⟨generated, -, -⟩ :=
    honours_parameters reachable built (memberAndPart ⟨2⟩ ⟨2⟩)
  have agree : ∀ other place, (other, place) ∈ [("member", Address.mk 2), ("part", Address.mk 2)] →
      place = ⟨2⟩ := by
    intro other place member
    simp only [List.mem_cons, Prod.mk.injEq, List.not_mem_nil, or_false] at member
    rcases member with ⟨-, same⟩ | ⟨-, same⟩ <;> exact same
  have heeds := generated _ rfl
  exact ⟨reachable, built, _, rfl,
    heeds.honoured List.mem_cons_self fun other place member _ => agree other place member,
    heeds.honoured (List.mem_cons_of_mem _ List.mem_cons_self)
      fun other place member _ => agree other place member⟩

/-- **Two elements for two names of one variable are not refused.** A generation passes over the
first of them, and a search finds nothing instead of refusing. -/
theorem accepts_disagreement :
    twiceNamed.varNamed? "member" = twiceNamed.varNamed? "part" ∧
      (∃ made, (twiceNamed.generate forkedNodes (memberAndPart ⟨2⟩ ⟨3⟩)).outcome = .ok made ∧
        made.get? "member" = some ⟨3⟩) ∧
      twiceNamed.search forkedNodes (memberAndPart ⟨2⟩ ⟨3⟩) = .ok [] ∧
      twiceNamed.search forkedNodes (memberAndPart ⟨3⟩ ⟨2⟩) = .ok [] := by
  exact ⟨rfl, ⟨_, rfl, rfl⟩, rfl, rfl⟩

end SemanticNetwork.Template
