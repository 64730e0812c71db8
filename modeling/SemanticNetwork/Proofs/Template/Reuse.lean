/-
**Generating what is there.** A template is fully named if every position that asks for a type has a
name. If all names have elements, no slot is left for which something would have to be made. Such a
generation only looks whether what it is given fits, and that is what a search does.

* `Settles`: it is settled which element stands in a slot, with `foresee_of_settles`,
  `resolveEnd_of_settles`, `resolveEdge_of_settles`;
* `Reads`, `reads_triples`: **the triples are read in order**, and every slot is settled in its turn;
* `generate_of_satisfying`: **a satisfying match is generated from its names, and nothing is made**;
* `exists_match_of_named`: and nothing else is generated from elements for all names;
* `Match.Satisfies.lasts`, `generate_again`: so what was found or made once can be generated again.
-/
import SemanticNetwork.Proofs.Template.Interning
import SemanticNetwork.Proofs.Template.Rediscovery

namespace SemanticNetwork.Template

variable {store : Store} {template : Template} {parameters : Assignment}
  {valuation start : Valuation} {slot : Slot} {address source target : Address}
  {triple position var : Nat} {known : List Nat}

/-! ### Slots for which nothing is made -/

/-- It is settled which element stands in a slot: the one that its variable has, or else the fixed
one. The element exists, and the slot admits it. -/
structure Settles (store : Store) (valuation : Valuation) (slot : Slot) (address : Address) :
    Prop where
  either : valuation.ofSlot? slot = some address ∨
    valuation.ofSlot? slot = none ∧ slot.constraint = .fixed address
  there : store.contains address = true
  admits : slot.Admits store address

/-- What is known of a variable is the element that it has. -/
theorem available?_prospects (valuation : Valuation) (slot : Slot) :
    available? (prospects valuation) slot = (valuation.ofSlot? slot).map .existing := by
  unfold available? Valuation.ofSlot?
  cases slot.var with
  | none => rfl
  | some var =>
    simp only [Option.bind_eq_bind, Option.bind_some, prospects, List.getElem?_map, Valuation.get?]
    cases valuation.values[var]? with
    | none => rfl
    | some value => cases value <;> rfl

theorem prospects_bindSlot (valuation : Valuation) (slot : Slot) (address : Address) :
    prospects (valuation.bindSlot slot address) =
      slot.var.elim (prospects valuation) fun var =>
        (prospects valuation).set var (.existing address) := by
  unfold Valuation.bindSlot
  cases slot.var with
  | none => rfl
  | some var => simp [prospects, Valuation.bind, List.map_set]

/-- **The element of a settled slot is foreseen.** -/
theorem foresee_of_settles (settles : Settles store valuation slot address) :
    template.foresee store triple position slot (prospects valuation) =
      .ok (some address, prospects (valuation.bindSlot slot address)) := by
  unfold foresee
  rw [available?_prospects]
  rcases settles.either with bound | ⟨free, fixed⟩
  · rw [bound, bindSlot_of_bound bound]
    rfl
  · rw [free, prospects_bindSlot]
    simp only [Option.map_none, slotProspect, fixed, settles.there, if_true]
    rfl

/-- **The element of a settled end is used.** -/
theorem resolveEnd_of_settles (settles : Settles store valuation slot address) :
    (template.resolveEnd triple position slot).run ⟨store, valuation, [], []⟩ =
      .ok address ⟨store, valuation.bindSlot slot address, [], []⟩ := by
  rcases settles.either with bound | ⟨free, fixed⟩
  · rw [bindSlot_of_bound bound]
    exact run_bind_ok_iff.2 ⟨_, _, run_boundElement_of_bound bound settles.admits, rfl⟩
  · refine run_bind_ok_iff.2 ⟨_, _, run_boundElement_of_free free, ?_⟩
    refine run_bind_ok_iff.2 ⟨address, ⟨store, valuation, [], []⟩, ?_, rfl⟩
    unfold makeEnd
    rw [fixed]
    refine run_bind_ok_iff.2 ⟨_, _, rfl, ?_⟩
    rw [if_pos settles.there]
    rfl

/-- **The edge of a settled slot is used** between its ends. -/
theorem resolveEdge_of_settles (settles : Settles store valuation slot address)
    (ends : store.ends? address = some (source, target)) :
    (template.resolveEdge triple slot source target).run ⟨store, valuation, [], []⟩ =
      .ok address ⟨store, valuation.bindSlot slot address, [], []⟩ := by
  have existing : (template.existingEdge slot).run ⟨store, valuation, [], []⟩ =
      .ok (some address) ⟨store, valuation, [], []⟩ := by
    rcases settles.either with bound | ⟨free, fixed⟩
    · exact run_bind_ok_iff.2 ⟨_, _, run_boundElement_of_bound bound settles.admits, rfl⟩
    · refine run_bind_ok_iff.2 ⟨_, _, run_boundElement_of_free free, ?_⟩
      rw [fixed]
      rfl
  refine run_bind_ok_iff.2 ⟨_, _, existing, ?_⟩
  refine run_bind_ok_iff.2 ⟨_, _, rfl, ?_⟩
  rw [if_pos ends]
  rfl

/-- The valuation in which a row stands in the slots of a triple, the ends before the edge. -/
def bindRow (valuation : Valuation) (slots : SlotTriple) (row : Triple) : Valuation :=
  ((valuation.bindSlot slots.source row.source).bindSlot slots.target row.target).bindSlot
    slots.edge row.edge

/-- The slots of a triple are settled, one after another. -/
structure SettlesRow (store : Store) (valuation : Valuation) (slots : SlotTriple) (row : Triple) :
    Prop where
  source : Settles store valuation slots.source row.source
  target : Settles store (valuation.bindSlot slots.source row.source) slots.target row.target
  edge : Settles store ((valuation.bindSlot slots.source row.source).bindSlot slots.target
    row.target) slots.edge row.edge
  ends : store.ends? row.edge = some (row.source, row.target)

theorem foreseeTriple_of_settles {slots : SlotTriple} {row : Triple}
    (settles : SettlesRow store valuation slots row) :
    template.foreseeTriple store (prospects valuation) (slots, triple) =
      .ok (prospects (bindRow valuation slots row)) := by
  have connects : foreseeEdge store (some row.source) (some row.edge) (some row.target) =
      .ok () := by
    simp [foreseeEdge, settles.ends]
  simp only [foreseeTriple, foresee_of_settles settles.source, foresee_of_settles settles.target,
    foresee_of_settles settles.edge, bind, Except.bind, connects]
  rfl

theorem generateTriple_of_settles {slots : SlotTriple} {row : Triple}
    (settles : SettlesRow store valuation slots row) :
    (template.generateTriple (slots, triple)).run ⟨store, valuation, [], []⟩ =
      .ok row ⟨store, bindRow valuation slots row, [], []⟩ := by
  refine run_bind_ok_iff.2 ⟨_, _, resolveEnd_of_settles settles.source, ?_⟩
  refine run_bind_ok_iff.2 ⟨_, _, resolveEnd_of_settles settles.target, ?_⟩
  exact run_bind_ok_iff.2 ⟨_, _, resolveEdge_of_settles settles.edge settles.ends, rfl⟩

/-! ### Templates in which all types have names -/

/-- Every position that asks for a type has a name. -/
def IsFullyNamed (template : Template) : Prop :=
  ∀ slot ∈ template.slots, ∀ type, slot.constraint = .typed type →
    ∃ var, slot.var = some var ∧ template.IsNamed var

/-- A valuation reads a match: it gives nothing else than the match, and it gives something to all
variables that have names, and to some others. -/
structure Reads (template : Template) (found : Match) (known : List Nat) (valuation : Valuation) :
    Prop where
  length : valuation.values.length = template.vars.length
  agrees : ∀ var address, valuation.get? var = some address → found.values[var]? = some address
  named : ∀ var, template.IsNamed var → ∃ address, valuation.get? var = some address
  known : ∀ var ∈ known, ∃ address, valuation.get? var = some address

theorem contains_of_stands {found : Match} (consistent : store.Consistent)
    (edges : ∀ row ∈ found.rows, store.ends? row.edge = some (row.source, row.target))
    (stands : template.Stands found.rowAt slot address) : store.contains address = true := by
  obtain ⟨position, slots, row, -, rowAt, member⟩ := stands
  obtain ⟨edge, source, target⟩ :=
    consistent.contains_of_ends? (edges row (List.mem_of_getElem? rowAt))
  rcases SlotTriple.mem_place_iff.1 member with ⟨-, rfl⟩ | ⟨-, rfl⟩ | ⟨-, rfl⟩
  · exact source
  · exact edge
  · exact target

section Reading

variable {found : Match} (consistent : store.Consistent) (fullyNamed : template.IsFullyNamed)
  (covers : template.Covers template.slots) (satisfies : found.Satisfies store template parameters)

/-- One variable more is read where an element stands in its slot. -/
theorem Reads.bindSlot (reads : Reads template found known valuation)
    (declared : ∀ var, slot.var = some var → var < template.vars.length)
    (shared : ∀ var, slot.var = some var → found.values[var]? = some address) :
    Reads template found (known ++ slot.var.toList) (valuation.bindSlot slot address) := by
  unfold Valuation.bindSlot
  cases here : slot.var with
  | none => simpa using reads
  | some var =>
    have inside : var < valuation.values.length := reads.length ▸ declared var here
    have still : ∀ other, (∃ place, valuation.get? other = some place) →
        ∃ place, (valuation.bind var address).get? other = some place := by
      rintro other ⟨place, given⟩
      rw [Valuation.get?_bind]
      split
      · exact ⟨address, rfl⟩
      · exact ⟨place, given⟩
    refine ⟨(Valuation.length_bind ..).trans reads.length, fun other place given => ?_,
      fun other named => still other (reads.named other named), fun other member => ?_⟩
    · rw [Option.elim_some, Valuation.get?_bind] at given
      split at given
      · rename_i same
        cases given
        exact same.1 ▸ shared var here
      · exact reads.agrees other place given
    · rcases List.mem_append.1 member with member | member
      · exact still other (reads.known other member)
      · obtain rfl : other = var := by simpa using member
        exact ⟨address, by rw [Option.elim_some, Valuation.get?_bind, if_pos ⟨rfl, inside⟩]⟩

include consistent fullyNamed satisfies in
/-- **Every slot is settled in its turn**: a type has a name, and what has no constraint of its own
has a name or is known. -/
theorem Reads.settles (reads : Reads template found known valuation)
    (grounded : slot.IsGrounded template known)
    (stands : template.Stands found.rowAt slot address) : Settles store valuation slot address := by
  have admits := satisfies.admitted slot address stands
  refine ⟨?_, contains_of_stands consistent satisfies.edges stands, admits⟩
  cases bound : valuation.ofSlot? slot with
  | some other =>
    obtain ⟨var, here, given⟩ := Option.bind_eq_some_iff.1 bound
    have same := (reads.agrees var other given).symm.trans (satisfies.shared slot address var stands here)
    exact .inl same
  | none =>
    have unbound : ∀ var, slot.var = some var → ¬ ∃ place, valuation.get? var = some place := by
      rintro var here ⟨place, given⟩
      rw [Valuation.ofSlot?, here, Option.bind_some, given] at bound
      cases bound
    cases constraint : slot.constraint with
    | fixed wanted =>
      rw [Slot.Admits, constraint] at admits
      exact .inr ⟨rfl, admits ▸ rfl⟩
    | typed type =>
      obtain ⟨position, slots, row, slotsAt, -, member⟩ := stands
      obtain ⟨var, here, named⟩ := fullyNamed slot (mem_slots_of_mem slotsAt member) type constraint
      exact absurd (reads.named var named) (unbound var here)
    | any =>
      obtain ⟨var, here, named | member⟩ := grounded constraint
      · exact absurd (reads.named var named) (unbound var here)
      · exact absurd (reads.known var member) (unbound var here)

include consistent fullyNamed covers satisfies in
/-- **The slots of a triple are settled**, the ends before the edge, and then its variables are
read. -/
theorem Reads.row {slots : SlotTriple} {row : Triple}
    (reads : Reads template found known valuation)
    (grounded : ∀ slot ∈ slots.toList, slot.IsGrounded template known)
    (placed : ∀ slot address, (slot, address) ∈ slots.place row →
      template.Stands found.rowAt slot address)
    (ends : store.ends? row.edge = some (row.source, row.target)) :
    SettlesRow store valuation slots row ∧
      Reads template found (known ++ mentioned (slots.placements row))
        (bindRow valuation slots row) := by
  have declared : ∀ {slot address}, template.Stands found.rowAt slot address →
      ∀ var, slot.var = some var → var < template.vars.length := by
    rintro slot address ⟨position, slots, row, slotsAt, -, member⟩
    exact covers.declared slot (mem_slots_of_mem slotsAt member)
  have source := placed _ _ (SlotTriple.mem_place_iff.2 (.inl ⟨rfl, rfl⟩))
  have edge := placed _ _ (SlotTriple.mem_place_iff.2 (.inr (.inl ⟨rfl, rfl⟩)))
  have target := placed _ _ (SlotTriple.mem_place_iff.2 (.inr (.inr ⟨rfl, rfl⟩)))
  have groundedAt : ∀ {slot}, slot ∈ slots.toList → ∀ more,
      slot.IsGrounded template (known ++ more) := fun member more =>
    (grounded _ member).mono (.of_eq rfl) (List.subset_append_left known more)
  have readsSource := reads.bindSlot (declared source) fun var => satisfies.shared _ _ var source
  have readsTarget :=
    readsSource.bindSlot (declared target) fun var => satisfies.shared _ _ var target
  have readsEdge := readsTarget.bindSlot (declared edge) fun var => satisfies.shared _ _ var edge
  refine ⟨{
    source := reads.settles consistent fullyNamed satisfies
      (grounded _ (by simp [SlotTriple.toList])) source
    target := readsSource.settles consistent fullyNamed satisfies
      (groundedAt (by simp [SlotTriple.toList]) _) target
    edge := readsTarget.settles consistent fullyNamed satisfies
      (List.append_assoc .. ▸ groundedAt (by simp [SlotTriple.toList]) _) edge
    ends := ends }, ?_⟩
  simpa [mentioned, SlotTriple.placements, bindRow] using readsEdge

include consistent fullyNamed covers satisfies in
/-- **The triples are read in order**, by the plan and by the generation alike. -/
theorem reads_triples {triples : List SlotTriple} {rows : List Triple} {grounds : List Nat}
    (offset : Nat) (reads : Reads template found known valuation)
    (grounded : template.GroundedFrom grounds triples) (included : grounds ⊆ known)
    (length : triples.length = rows.length)
    (placed : ∀ slots row, (slots, row) ∈ triples.zip rows → ∀ slot address,
      (slot, address) ∈ slots.place row → template.Stands found.rowAt slot address)
    (edges : ∀ row ∈ rows, store.ends? row.edge = some (row.source, row.target)) :
    ∃ after, Reads template found (known ++ mentioned ((triples.zip rows).flatMap
        fun (slots, row) => slots.placements row)) after ∧
      (triples.zipIdx offset).foldlM (template.foreseeTriple store) (prospects valuation) =
        .ok (prospects after) ∧
      ((triples.zipIdx offset).mapM template.generateTriple).run ⟨store, valuation, [], []⟩ =
        .ok rows ⟨store, after, [], []⟩ := by
  induction triples generalizing rows grounds known valuation offset with
  | nil =>
    obtain rfl : rows = [] := List.eq_nil_of_length_eq_zero length.symm
    exact ⟨valuation, by simpa [mentioned] using reads, rfl, rfl⟩
  | cons slots others hypothesis =>
    cases rows with
    | nil => cases length
    | cons row rows =>
      obtain ⟨first, later⟩ := grounded
      obtain ⟨settles, readsRow⟩ := reads.row consistent fullyNamed covers satisfies
        (fun slot member => (first slot member).mono (.of_eq rfl) included)
        (placed slots row List.mem_cons_self) (edges row List.mem_cons_self)
      have includedRow : grounds ++ slots.edge.var.toList ⊆
          known ++ mentioned (slots.placements row) := by
        refine List.append_subset.2 ⟨fun _ member => List.mem_append_left _ (included member), ?_⟩
        intro var member
        refine List.mem_append_right _ (mem_mentioned_iff.2 ⟨⟨slots.edge, row.edge,
          some (row.source, row.target)⟩, ?_, ?_⟩)
        · exact List.mem_cons_of_mem _ (List.mem_cons_of_mem _ List.mem_cons_self)
        · exact Option.mem_toList.1 member
      obtain ⟨after, readsRest, planned, ran⟩ := hypothesis (offset + 1) readsRow later includedRow
        (Nat.succ.inj length)
        (fun slots row member => placed slots row (List.mem_cons_of_mem _ member))
        fun row member => edges row (List.mem_cons_of_mem _ member)
      refine ⟨after, ?_, ?_, ?_⟩
      · simpa [mentioned] using readsRest
      · rw [List.zipIdx_cons, List.foldlM_cons, foreseeTriple_of_settles settles]
        exact planned
      · rw [List.zipIdx_cons, List.mapM_cons]
        refine run_bind_ok_iff.2 ⟨_, _, generateTriple_of_settles settles, ?_⟩
        exact run_bind_ok_iff.2 ⟨_, _, ran, rfl⟩

end Reading

/-! ### Generations that make nothing -/

/-- **A satisfying match is generated from its names, and nothing is made.** -/
theorem generate_of_satisfying {found : Match} {others : Assignment} (consistent : store.Consistent)
    (built : template.IsBuilt) (fullyNamed : template.IsFullyNamed)
    (valid : template.validate = .ok ())
    (bound : template.bindParameters store parameters = .ok start)
    (satisfies : found.Satisfies store template others)
    (agrees : ∀ var address, start.get? var = some address → found.values[var]? = some address)
    (total : ∀ var, template.IsNamed var → ∃ address, start.get? var = some address) :
    template.generate store parameters = ⟨.ok (found.toInstance template), store, []⟩ := by
  have covers := built.covers
  have length : template.triples.length = found.rows.length := satisfies.triples.symm
  have reads : Reads template found [] start :=
    ⟨(bound_of_bindParameters covers bound).1, agrees, total, nofun⟩
  obtain ⟨after, readsAll, planned, ran⟩ := reads_triples consistent fullyNamed covers satisfies 0
    reads built.orderly.grounded (List.Subset.refl []) length (by
      intro slots row member slot address inRow
      obtain ⟨position, here⟩ := List.mem_iff_getElem?.1 member
      obtain ⟨slotsAt, rowAt⟩ := List.getElem?_zip_eq_some.1 here
      exact ⟨position, slots, row, slotsAt, rowAt, inRow⟩) satisfies.edges
  have prepared : template.prepare store parameters = .ok start := by
    unfold prepare
    rw [valid, bound]
    show (template.plan store start >>= fun _ => pure start) = _
    unfold plan
    rw [planned]
    rfl
  -- Every variable stands in a slot, so all of them are read at the end.
  have everything : after = found.toPartial.valuation := by
    refine Valuation.ext_get? ?_ fun var address => ?_
    · rw [readsAll.length, ← satisfies.valued]
      exact (List.length_map some).symm
    rw [get?_toPartial]
    constructor
    · exact readsAll.agrees var address
    · intro value
      obtain ⟨placement, placed, here, -⟩ :=
        satisfies.exists_placement_of_value (makesSense_of_validate valid) covers value
      obtain ⟨other, given⟩ := readsAll.known var
        (List.mem_append_right _ (mem_mentioned_iff.2 ⟨placement, placed, here⟩))
      rw [given, ← readsAll.agrees var other given, value]
  unfold generate
  rw [prepared]
  show template.generateFrom store start = _
  unfold generateFrom
  have ran : template.generateTriples.run ⟨store, start, [], []⟩ =
      .ok found.rows ⟨store, after, [], []⟩ := ran
  rw [ran, everything]
  rfl

/-- Where a slot leads, its variable was not known. -/
theorem not_mem_of_mem_leading {placement : Placement} {placed : List Placement}
    (leads : placement ∈ leading known placed) (here : placement.slot.var = some var) :
    var ∉ known := by
  induction placed generalizing known with
  | nil => cases leads
  | cons head rest hypothesis =>
    rcases mem_leading_cons.1 leads with ⟨rfl, leads⟩ | leads
    · exact leads_iff.1 leads var here
    · exact fun member => hypothesis leads (List.mem_append_left _ member)

theorem slot_mem_of_mem_placements {placement : Placement} {rows : List Triple}
    (member : placement ∈ template.placements rows) : placement.slot ∈ template.slots := by
  obtain ⟨position, slots, row, slotsAt, -, member⟩ := mem_placements_iff.1 member
  refine List.mem_flatMap.2 ⟨slots, List.mem_of_getElem? slotsAt, ?_⟩
  simp only [SlotTriple.placements, List.mem_cons, List.not_mem_nil, or_false] at member
  rcases member with rfl | rfl | rfl <;> simp [SlotTriple.toList]

/-- **Nothing is made if all names are given elements.** -/
theorem newElements_eq_nil (fullyNamed : template.IsFullyNamed)
    (total : ∀ var, template.IsNamed var → ∃ address, template.Gives parameters.entries var address)
    (rows : List Triple) : template.newElements parameters rows = [] := by
  refine List.filterMap_eq_nil_iff.2 fun placement leads => ?_
  cases made : placement.made? with
  | none => rfl
  | some element =>
    obtain ⟨-, -, type, typed, -⟩ := of_made? made
    obtain ⟨var, here, named⟩ :=
      fullyNamed _ (slot_mem_of_mem_placements (mem_of_mem_leading leads)) type typed
    exact absurd (mem_givenVars_iff.2 (total var named)) (not_mem_of_mem_leading leads here)

/-- **From elements for all names nothing is generated but matches** that satisfy the template before
anything is generated. -/
theorem exists_match_of_named {made : Instance} (consistent : store.Consistent)
    (covers : template.Covers template.slots) (fullyNamed : template.IsFullyNamed)
    (total : ∀ var, template.IsNamed var → ∃ address, template.Gives parameters.entries var address)
    (generated : (template.generate store parameters).outcome = .ok made) :
    ∃ whole : Match, made = whole.toInstance template ∧
      whole.Satisfies store template (template.reconciled parameters) := by
  obtain ⟨whole, same, satisfies⟩ := exists_match_of_generate consistent covers generated
  have materializes := (materializes_of_generate consistent covers generated).1
  have kept : ∀ {address element},
      (template.generate store parameters).store.get? address = some element →
        store.get? address = some element := by
    intro address element found
    rcases (materializes.table address element).1 found with old | ⟨new, -⟩
    · exact old
    · rw [newElements_eq_nil fullyNamed total] at new
      cases new
  refine ⟨whole, same, { satisfies with edges := fun row member => ?_, admitted := ?_ }⟩
  · obtain ⟨element, found, ends⟩ := Option.bind_eq_some_iff.1 (satisfies.edges row member)
    exact Option.bind_eq_some_iff.2 ⟨element, kept found, ends⟩
  · exact fun slot address stands => (satisfies.admitted slot address stands).mono kept

section FullyNamed

variable (consistent : store.Consistent) (built : template.IsBuilt)
  (fullyNamed : template.IsFullyNamed)
  (total : ∀ var, template.IsNamed var → ∃ address, template.Gives parameters.entries var address)

include consistent built fullyNamed total

/-- Whatever satisfies the template with elements for all names is generated from these. -/
theorem generate_of_named {found : Match} (valid : template.validate = .ok ())
    (bound : template.bindParameters store parameters = .ok start)
    (satisfies : found.Satisfies store template (template.reconciled parameters)) :
    template.generate store parameters = ⟨.ok (found.toInstance template), store, []⟩ := by
  refine generate_of_satisfying consistent built fullyNamed valid bound satisfies ?_ ?_
  · exact fun var address given => satisfies.parameters var address
      ((get?_iff_gives_reconciled built.covers bound var address).1 given)
  · exact fun var named => (bound_of_bindParameters built.covers bound).2.1 var (total var named)

/-- **What is found with elements for all names is generated from them.** -/
theorem generate_of_found {found : List Instance} {made : Instance}
    (searched : template.search store parameters = .ok found) (member : made ∈ found) :
    template.generate store parameters = ⟨.ok made, store, []⟩ := by
  obtain ⟨valid, start, bound⟩ := search_ok searched
  obtain ⟨whole, rfl, satisfies⟩ :=
    exists_match_of_search consistent built.covers searched member
  exact generate_of_named consistent built fullyNamed total valid bound satisfies

/-- **What is generated from elements for all names is all that is found with them**, and nothing is
made for it. -/
theorem search_of_generated {made : Instance}
    (generated : (template.generate store parameters).outcome = .ok made) :
    template.search store parameters = .ok [made] ∧
      template.generate store parameters = ⟨.ok made, store, []⟩ := by
  obtain ⟨start, _, valid, bound, -⟩ := generate_ok generated
  obtain ⟨whole, rfl, satisfies⟩ :=
    exists_match_of_named consistent built.covers fullyNamed total generated
  obtain ⟨found, searched, distinct, mem_iff⟩ := exists_found consistent built.covers valid bound
  refine ⟨searched.trans (congrArg _ ?_),
    generate_of_named consistent built fullyNamed total valid bound satisfies⟩
  have member := List.mem_map_of_mem (f := Match.toInstance template) ((mem_iff whole).2 satisfies)
  have only : ∀ other ∈ found.map (Match.toInstance template),
      other = whole.toInstance template := by
    intro other inFound
    have again := generate_of_found consistent built fullyNamed total searched inFound
    rw [again] at generated
    exact Except.ok.inj generated
  refine List.perm_singleton.1 ((List.perm_ext_iff_of_nodup distinct (List.pairwise_singleton _ _)).2 ?_)
  intro other
  rw [List.mem_singleton]
  exact ⟨only other, fun same => same ▸ member⟩

end FullyNamed

/-! ### Generating again -/

/-- **A match stays a match until one of its edges is erased.** -/
theorem Match.Satisfies.lasts {before after : Store} {found : Match}
    (satisfies : found.Satisfies before template parameters) (consistent : before.Consistent)
    (consistent' : after.Consistent) (precedes : before.Precedes after)
    (there : ∀ row ∈ found.rows, after.contains row.edge = true) :
    found.Satisfies after template parameters := by
  have edges : ∀ row ∈ found.rows, after.ends? row.edge = some (row.source, row.target) := by
    intro row member
    have ends := satisfies.edges row member
    have handedOut := consistent.handedOut (consistent.contains_of_ends? ends).1
    exact (precedes.kept handedOut (there row member)).2.2.trans ends
  refine { satisfies with edges := edges, admitted := fun slot address stands => ?_ }
  have admits := satisfies.admitted slot address stands
  have handedOut := consistent.handedOut (contains_of_stands consistent satisfies.edges stands)
  have type := (precedes.kept handedOut (contains_of_stands consistent' edges stands)).2.1
  unfold Slot.Admits at admits ⊢
  rwa [type]

theorem mem_names_toInstance {found : Match} {name : String} :
    (name, address) ∈ (found.toInstance template).names ↔
      ∃ var, (name, var) ∈ template.names ∧ found.values[var]? = some address := by
  show _ ∈ (Instance.ofValuation template found.toPartial.valuation found.rows).names ↔ _
  simp only [Instance.ofValuation, get?_toPartial, List.mem_filterMap, Option.map_eq_some_iff,
    Prod.exists, Prod.mk.injEq]
  constructor
  · rintro ⟨_, var, member, _, here, rfl, rfl⟩
    exact ⟨var, member, here⟩
  · rintro ⟨var, member, here⟩
    exact ⟨name, var, member, address, here, rfl, rfl⟩

/-- What the names of a match give is what the match has. -/
theorem value_of_gives_names {found : Match} (once : template.NamesOnce)
    (gives : template.Gives (found.toInstance template).assignment.entries var address) :
    found.values[var]? = some address := by
  obtain ⟨name, member, here⟩ := gives
  obtain ⟨var', inNames, value⟩ := mem_names_toInstance.1 (Assignment.mem_of_mem_ofList member)
  have same := (once name var' inNames).symm.trans here
  exact Option.some.inj same ▸ value

/-- **What the names of a match have can be given as parameters.** -/
theorem exists_bound_names {found : Match} (consistent : store.Consistent)
    (covers : template.Covers template.slots) (once : template.NamesOnce)
    (valid : template.validate = .ok ()) (satisfies : found.Satisfies store template parameters) :
    ∃ start, template.bindParameters store (found.toInstance template).assignment = .ok start := by
  apply exists_bound
  · rintro ⟨name, address⟩ member
    obtain ⟨var, inNames, -⟩ := mem_names_toInstance.1 (Assignment.mem_of_mem_ofList member)
    exact Option.isSome_iff_exists.2 ⟨var, once name var inNames⟩
  · rintro ⟨name, address⟩ member
    obtain ⟨var, -, value⟩ := mem_names_toInstance.1 (Assignment.mem_of_mem_ofList member)
    obtain ⟨placement, placed, -, same⟩ :=
      satisfies.exists_placement_of_value (makesSense_of_validate valid) covers value
    have stands := stands_iff_placed.2 ⟨placement, placed, rfl, same⟩
    exact contains_of_stands consistent satisfies.edges stands

/-- **A satisfying match is generated again from what its names have**, and nothing is made. -/
theorem generate_again {found : Match} (consistent : store.Consistent) (built : template.IsBuilt)
    (fullyNamed : template.IsFullyNamed) (valid : template.validate = .ok ())
    (satisfies : found.Satisfies store template parameters) :
    template.generate store (found.toInstance template).assignment =
      ⟨.ok (found.toInstance template), store, []⟩ := by
  have covers := built.covers
  have once := built.orderly.once
  obtain ⟨start, bound⟩ := exists_bound_names consistent covers once valid satisfies
  obtain ⟨-, still, only⟩ := bound_of_bindParameters covers bound
  refine generate_of_satisfying consistent built fullyNamed valid bound satisfies
    (fun var address here => value_of_gives_names once (only var address here).1)
    fun var named => still var ?_
  obtain ⟨name, here⟩ := named
  obtain ⟨⟨name', var'⟩, entry, same⟩ := Option.map_eq_some_iff.1 here
  obtain rfl : var' = var := same
  have inNames := List.mem_of_find?_eq_some entry
  obtain ⟨address, value⟩ := exists_value_of_name covers satisfies inNames
  obtain ⟨other, member⟩ := Assignment.exists_mem_ofList
    (mem_names_toInstance.2 ⟨var', inNames, value⟩)
  exact ⟨other, name', member, once name' var' inNames⟩

end SemanticNetwork.Template
