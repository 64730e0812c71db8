/-
**Templates of structures.** The template of a structure is written down edge by edge. The members
that occur are numbered as they are met, and their numbers are the variables; where a member is met
first its slot says what it is, and later only that it is the same. So the template can be written
down at once from the rows of the structure.

* `occurring`: the members that occur in some rows, in the order in which they are met;
* `mirror`, `intern_memberItem`: **names and variables while a structure is written down**;
* `reconstruct`, `foldlM_addMemberTriple`: the template of some rows;
* `ofStructure_eq_ok_iff`: **which structures have a template, and which one**;
* `exists_ofStructure_iff`: in terms of the store, the former.
-/
import SemanticNetwork.Proofs.Template.Interning
import SemanticNetwork.Proofs.Template.Membership

namespace SemanticNetwork.Template

variable {store : Store} {structureNode member : Address} {row : Triple} {rows : List Triple}
  {seen vars introduced : List Address} {triples : List SlotTriple}

/-! ### Members that occur -/

/-- Some members, and one more if it is new. -/
def meet (seen : List Address) (member : Address) : List Address :=
  if member ∈ seen then seen else seen ++ [member]

/-- Some members, and those of a row that are new. -/
def meetRow (seen : List Address) (row : Triple) : List Address :=
  row.toList.foldl meet seen

/-- **The members that occur in some rows**, in the order in which they are met. -/
def occurring (rows : List Triple) : List Address := rows.foldl meetRow []

theorem mem_meet_iff {other : Address} : other ∈ meet seen member ↔ other ∈ seen ∨ other = member := by
  unfold meet
  by_cases known : member ∈ seen
  · rw [if_pos known, or_iff_left_of_imp]
    intro same
    exact same ▸ known
  · rw [if_neg known, List.mem_append, List.mem_singleton]

theorem prefix_meet (seen : List Address) (member : Address) : seen <+: meet seen member := by
  unfold meet
  split
  · exact List.prefix_rfl
  · exact List.prefix_append _ _

theorem mem_meetRow_iff : member ∈ meetRow seen row ↔ member ∈ seen ∨ member ∈ row.toList := by
  simp [meetRow, Triple.toList, mem_meet_iff, or_assoc]

theorem prefix_meetRow (seen : List Address) (row : Triple) : seen <+: meetRow seen row :=
  ((prefix_meet _ _).trans (prefix_meet _ _)).trans (prefix_meet _ _)

theorem prefix_foldl_meetRow (seen : List Address) (rows : List Triple) :
    seen <+: rows.foldl meetRow seen := by
  induction rows generalizing seen with
  | nil => exact List.prefix_rfl
  | cons row rest hypothesis => exact (prefix_meetRow seen row).trans (hypothesis _)

theorem mem_foldl_meetRow_iff : member ∈ rows.foldl meetRow seen ↔
    member ∈ seen ∨ ∃ row ∈ rows, member ∈ row.toList := by
  induction rows generalizing seen with
  | nil => simp
  | cons row rest hypothesis =>
    rw [List.foldl_cons, hypothesis, mem_meetRow_iff, or_assoc]
    simp

theorem mem_occurring_iff : member ∈ occurring rows ↔ ∃ row ∈ rows, member ∈ row.toList :=
  mem_foldl_meetRow_iff.trans (or_iff_right List.not_mem_nil)

theorem nodup_meet (distinct : seen.Nodup) (member : Address) : (meet seen member).Nodup := by
  unfold meet
  split
  · exact distinct
  · exact List.nodup_append.2 ⟨distinct, List.nodup_singleton _, by grind⟩

theorem nodup_occurring (rows : List Triple) : (occurring rows).Nodup := by
  have kept : ∀ {seen : List Address}, seen.Nodup → (rows.foldl meetRow seen).Nodup := by
    induction rows with
    | nil => exact fun distinct => distinct
    | cons row rest hypothesis =>
      intro seen distinct
      exact hypothesis (nodup_meet (nodup_meet (nodup_meet distinct _) _) _)
  exact kept .nil

/-! ### Slots of members -/

/-- What the slot of a member says where the member is met first. -/
def ownConstraint (store : Store) (member : Address) : Constraint :=
  match store.type? member with
  | some type => if type.isVariable then .typed type else .fixed member
  | none => .fixed member

/-- The slot of a member, when some are introduced. -/
def memberSlot (store : Store) (vars introduced : List Address) (member : Address) : Slot where
  constraint := if member ∈ introduced then .any else ownConstraint store member
  var := some (vars.idxOf member)

/-- The slots of a row, when some members are introduced; its edge is introduced after its ends. -/
def rowSlots (store : Store) (vars introduced : List Address) (row : Triple) : SlotTriple where
  source := memberSlot store vars introduced row.source
  edge := memberSlot store vars (row.target :: row.source :: introduced) row.edge
  target := memberSlot store vars (row.source :: introduced) row.target

/-- The slots of some rows, when some members are introduced. -/
def slotsOfRows (store : Store) (vars : List Address) : List Address → List Triple → List SlotTriple
  | _, [] => []
  | introduced, row :: rest =>
    rowSlots store vars introduced row :: slotsOfRows store vars (meetRow introduced row) rest

/-- The template in which some members are the variables. -/
def mirror (vars : List Address) (triples : List SlotTriple) : Template where
  triples := triples
  vars := vars.map fun member => ⟨some (memberName member), true⟩
  names := vars.zipIdx.map fun (member, var) => (memberName member, var)
  redefined := []

/-- **The template of some rows**, written down at once. -/
def reconstruct (store : Store) (rows : List Triple) : Template :=
  mirror (occurring rows) (slotsOfRows store (occurring rows) [] rows)

/-! ### Names -/

theorem memberName_injective : Function.Injective memberName := by
  intro first second same
  apply Address.ext_value
  have digits := congrArg String.toList ((String.append_right_inj _).1 same)
  simp only [Nat.toString_eq_ofList_toDigits, String.toList_ofList] at digits
  rw [← @Nat.ofDigitChars_ten_toDigits first.value, digits, Nat.ofDigitChars_ten_toDigits]

/-- **The names are those of the members**, each with its number. -/
theorem varNamed?_mirror (vars : List Address) (triples : List SlotTriple) (member : Address) :
    (mirror vars triples).varNamed? (memberName member) =
      if member ∈ vars then some (vars.idxOf member) else none := by
  have counted : ∀ start, (((vars.zipIdx start).map fun (member, var) =>
      (memberName member, var)).find? fun entry => entry.1 == memberName member).map Prod.snd =
        if member ∈ vars then some (start + vars.idxOf member) else none := by
    induction vars with
    | nil => simp
    | cons head rest hypothesis =>
      intro start
      by_cases same : head = member
      · subst same
        simp
      · have apart : (memberName head == memberName member) = false := by
          simpa using fun equal => same (memberName_injective equal)
        rw [List.zipIdx_cons, List.map_cons, List.find?_cons_of_neg (by simpa using apart),
          hypothesis, List.idxOf_cons_ne _ same]
        have other : member ≠ head := fun equal => same equal.symm
        simp only [List.mem_cons, other, false_or]
        split
        · congr 1
          omega
        · rfl
  unfold varNamed? mirror
  rw [counted 0, Nat.zero_add]

/-- What the names are names of. -/
theorem exists_of_mem_names {name : String} {var : Nat}
    (listed : (name, var) ∈ (mirror vars triples).names) :
    ∃ member, vars[var]? = some member ∧ name = memberName member := by
  obtain ⟨⟨member, number⟩, inVars, same⟩ := List.mem_map.1 listed
  cases same
  exact ⟨member, List.mem_zipIdx_iff_getElem?.1 inVars, rfl⟩

/-! ### Writing a structure down -/

/-- A reference to a member that was met adds nothing. -/
theorem intern_reference_mirror (met : member ∈ vars) :
    (mirror vars triples).intern (.reference (memberName member)) =
      (⟨.any, some (vars.idxOf member)⟩, mirror vars triples) := by
  show (mirror vars triples).internReference (memberName member) none = _
  have found := varNamed?_mirror vars triples member
  rw [if_pos met] at found
  simp only [internReference, varFor, found, Option.elim_none]

theorem modify_concat {α : Type} (list : List α) (last : α) (change : α → α) :
    (list ++ [last]).modify list.length change = list ++ [change last] := by
  induction list with
  | nil => rfl
  | cons head rest hypothesis => simpa using hypothesis

/-- **A member that is new becomes the next variable**, and is introduced. -/
theorem intern_named_mirror (new : member ∉ vars) (constraint : Constraint) :
    (mirror vars triples).internConstrained constraint (some (memberName member)) =
      (⟨constraint, some vars.length⟩, mirror (vars ++ [member]) triples) := by
  have found := varNamed?_mirror vars triples member
  rw [if_neg new] at found
  simp only [internConstrained, varFor, found]
  have number : (mirror vars triples).vars.length = vars.length := List.length_map _
  have declared := modify_concat (mirror vars triples).vars ⟨some (memberName member), false⟩
    fun known => { known with introduced := true }
  rw [number] at declared
  refine Prod.ext (by rw [number]) ?_
  simp only [introduce, addName, addVariable, number, declared]
  simp [mirror, List.zipIdx_append]

/-- **An item of a member is interned as its slot**, if what counts as introduced is what was met. -/
theorem intern_memberItem {after : List Address} {item : Item} (triples : List SlotTriple)
    (same : member ∈ introduced ↔ member ∈ vars)
    (said : memberItem store member introduced = .ok (item, after)) :
    (mirror vars triples).intern item =
      (memberSlot store (meet vars member) introduced member, mirror (meet vars member) triples) := by
  unfold memberItem at said
  by_cases known : member ∈ introduced
  · have met := same.1 known
    rw [if_pos (by simpa using known)] at said
    cases said
    rw [meet, if_pos met, memberSlot, if_pos known]
    exact intern_reference_mirror met
  · have new : member ∉ vars := fun met => known (same.2 met)
    have number : (vars ++ [member]).idxOf member = vars.length := by
      rw [List.idxOf_append_of_notMem new]
      simp
    rw [if_neg (by simpa using known)] at said
    rw [meet, if_neg new, memberSlot, if_neg known, number, ownConstraint]
    cases found : store.type? member with
    | none =>
      rw [found] at said
      cases said
    | some type =>
      rw [found] at said
      cases said
      by_cases isVariable : type.isVariable = true
      · simp only [isVariable, if_true]
        exact intern_named_mirror new (.typed type)
      · simp only [if_neg isVariable]
        exact intern_named_mirror new (.fixed member)

/-- An item can be written for every member that exists, and then the member is introduced. -/
theorem exists_memberItem (there : store.contains member = true) (introduced : List Address) :
    ∃ item after, memberItem store member introduced = .ok (item, after) ∧
      ∀ other, other ∈ after ↔ other = member ∨ other ∈ introduced := by
  obtain ⟨element, found⟩ := Store.contains_iff.1 there
  unfold memberItem
  by_cases known : member ∈ introduced
  · refine ⟨_, introduced, if_pos (by simpa using known), fun other => ?_⟩
    rw [or_iff_right_of_imp]
    intro same
    exact same ▸ known
  · rw [if_neg (by simpa using known), Store.type?, found, Option.map_some]
    exact ⟨_, _, rfl, fun other => List.mem_cons⟩

/-- The slot of a member depends on whether it is introduced, and on its number. -/
theorem memberSlot_congr {final introduced' : List Address} (met : member ∈ vars)
    (longer : vars <+: final) (same : member ∈ introduced ↔ member ∈ introduced') :
    memberSlot store vars introduced member = memberSlot store final introduced' member := by
  obtain ⟨later, rfl⟩ := longer
  simp only [memberSlot, List.idxOf_append_of_mem met, same]

theorem rowSlots_congr {final introduced' : List Address}
    (met : ∀ member ∈ row.toList, member ∈ vars) (longer : vars <+: final)
    (same : ∀ member, member ∈ introduced ↔ member ∈ introduced') :
    rowSlots store vars introduced row = rowSlots store final introduced' row := by
  simp only [Triple.toList, List.forall_mem_cons] at met
  obtain ⟨source, edge, target, -⟩ := met
  simp only [rowSlots]
  congr 1
  · exact memberSlot_congr source longer (same _)
  · exact memberSlot_congr edge longer (by simp only [List.mem_cons, same])
  · exact memberSlot_congr target longer (by simp only [List.mem_cons, same])

/-- **One row is written down**: its slots are appended, and its members are introduced. The ends are
older than the edge, so no position refers to one that comes later. -/
theorem addMemberTriple_mirror (triples : List SlotTriple)
    (there : ∀ member ∈ row.toList, store.contains member = true)
    (younger : row.source < row.edge ∧ row.target < row.edge)
    (same : ∀ member, member ∈ introduced ↔ member ∈ vars) :
    ∃ after, addMemberTriple store (mirror vars triples, introduced) row =
        .ok (mirror (meetRow vars row)
          (triples ++ [rowSlots store (meetRow vars row) introduced row]), after) ∧
      ∀ member, member ∈ after ↔ member ∈ meetRow vars row := by
  simp only [Triple.toList, List.forall_mem_cons] at there
  obtain ⟨sourceThere, edgeThere, targetThere, -⟩ := there
  have apart : row.edge ≠ row.target := by
    intro equal
    exact Key.lt_irrefl _ (equal ▸ younger.2)
  obtain ⟨source, withSource, first, noted⟩ := exists_memberItem sourceThere introduced
  obtain ⟨target, withTarget, second, noted'⟩ := exists_memberItem targetThere withSource
  obtain ⟨edge, withEdge, third, noted''⟩ := exists_memberItem edgeThere withTarget
  have internSource := intern_memberItem triples (same row.source) first
  have internEdge : (mirror (meet vars row.source) triples).intern edge = _ :=
    intern_memberItem triples (by simp only [noted', noted, same, mem_meet_iff]; grind) third
  have internTarget : (mirror (meet (meet vars row.source) row.edge) triples).intern target = _ :=
    intern_memberItem triples (by simp only [noted, same, mem_meet_iff]; grind) second
  have sourceSlot : memberSlot store (meet vars row.source) introduced row.source =
      memberSlot store (meetRow vars row) introduced row.source :=
    memberSlot_congr (mem_meet_iff.2 (.inr rfl)) ((prefix_meet _ _).trans (prefix_meet _ _)) .rfl
  have edgeSlot : memberSlot store (meet (meet vars row.source) row.edge) withTarget row.edge =
      memberSlot store (meetRow vars row) (row.target :: row.source :: introduced) row.edge :=
    memberSlot_congr (mem_meet_iff.2 (.inr rfl)) (prefix_meet _ _)
      (by simp only [noted', noted, List.mem_cons])
  have targetSlot : memberSlot store (meetRow vars row) withSource row.target =
      memberSlot store (meetRow vars row) (row.source :: introduced) row.target :=
    memberSlot_congr (mem_meetRow_iff.2 (.inr (by simp [Triple.toList]))) List.prefix_rfl
      (by simp only [noted, List.mem_cons])
  refine ⟨withEdge, ?_, fun member => ?_⟩
  · refine bind_eq_ok_iff.2 ⟨_, first, bind_eq_ok_iff.2 ⟨_, second, bind_eq_ok_iff.2 ⟨_, third, ?_⟩⟩⟩
    show Except.ok ((mirror vars triples).triple source edge target, withEdge) = _
    simp only [triple, internSource, internEdge, internTarget, sourceSlot, edgeSlot]
    rw [rowSlots, ← targetSlot]
    rfl
  · simp only [noted'', noted', noted, same, mem_meetRow_iff, Triple.toList, List.mem_cons,
      List.not_mem_nil, or_false]
    grind

/-- **All rows are written down**, one after another. -/
theorem foldlM_addMemberTriple (vars introduced : List Address) (triples : List SlotTriple)
    (there : ∀ row ∈ rows, ∀ member ∈ row.toList, store.contains member = true)
    (younger : ∀ row ∈ rows, row.source < row.edge ∧ row.target < row.edge)
    (same : ∀ member, member ∈ introduced ↔ member ∈ vars) :
    ∃ after, rows.foldlM (addMemberTriple store) (mirror vars triples, introduced) =
      .ok (mirror (rows.foldl meetRow vars)
        (triples ++ slotsOfRows store (rows.foldl meetRow vars) vars rows), after) := by
  induction rows generalizing vars triples introduced with
  | nil =>
    refine ⟨introduced, ?_⟩
    simp only [List.foldlM_nil, List.foldl_nil, slotsOfRows, List.append_nil]
    rfl
  | cons row rest hypothesis =>
    obtain ⟨between, first, same'⟩ := addMemberTriple_mirror triples (there row List.mem_cons_self)
      (younger row List.mem_cons_self) same
    obtain ⟨after, ran⟩ := hypothesis _ _ _
      (fun row member => there row (List.mem_cons_of_mem _ member))
      (fun row member => younger row (List.mem_cons_of_mem _ member)) same'
    refine ⟨after, ?_⟩
    rw [List.foldlM_cons, first]
    refine ran.trans ?_
    have slots : rowSlots store (meetRow vars row) introduced row =
        rowSlots store (rest.foldl meetRow (meetRow vars row)) vars row :=
      rowSlots_congr (fun member inRow => mem_meetRow_iff.2 (.inr inRow))
        (prefix_foldl_meetRow _ rest) same
    rw [List.foldl_cons, slotsOfRows, slots, List.append_assoc, List.singleton_append]

/-! ### Structures that have a template -/

/-- The rows of a structure lead from older elements to older elements, which exist. -/
theorem older_of_mem_memberRows (consistent : store.Consistent)
    (member : row ∈ memberRows store structureNode) :
    (∀ member ∈ row.toList, store.contains member = true) ∧
      row.source < row.edge ∧ row.target < row.edge := by
  have ends := ((mem_memberRows_iff consistent).1 member).2
  obtain ⟨edge, source, target⟩ := consistent.contains_of_ends? ends
  obtain ⟨type, found⟩ := (consistent.ends?_eq_some_iff).1 ends
  refine ⟨?_, consistent.ordered found⟩
  simp only [Triple.toList, List.forall_mem_cons]
  exact ⟨source, edge, target, nofun⟩

/-- The rows of a structure are written down as they are. -/
theorem exists_written (consistent : store.Consistent) (structureNode : Address) :
    ∃ after, (orderEdges (memberRows store structureNode)).foldlM (addMemberTriple store)
      (Template.empty, []) = .ok (reconstruct store (memberRows store structureNode), after) := by
  have older := fun row (member : row ∈ memberRows store structureNode) =>
    older_of_mem_memberRows consistent member
  rw [orderEdges_eq_self (memberRows_ascending store structureNode)
    fun row member => (older row member).2]
  exact foldlM_addMemberTriple [] [] [] (fun row member => (older row member).1)
    (fun row member => (older row member).2) fun member => Iff.rfl

/-- **Which structures have a template, and which one**: that of their rows. -/
theorem ofStructure_eq_ok_iff (consistent : store.Consistent) {template : Template} :
    ofStructure store structureNode = .ok template ↔ store.contains structureNode = true ∧
      IsClosed store structureNode ∧ memberRows store structureNode ≠ [] ∧
        reconstruct store (memberRows store structureNode) = template := by
  obtain ⟨after, written⟩ := exists_written consistent structureNode
  unfold ofStructure
  by_cases there : store.contains structureNode = true
  · simp only [there, Bool.not_true, Bool.false_eq_true, if_false, bind_eq_ok_iff,
      memberTriples_eq_ok_iff consistent, true_and]
    constructor
    · intro ⟨rows, ⟨closed, same⟩, built⟩
      subst same
      split at built
      · cases built
      · rename_i notEmpty
        rw [written] at built
        cases built
        refine ⟨closed, fun empty => notEmpty ?_, rfl⟩
        rw [empty]
        rfl
    · intro ⟨closed, notEmpty, same⟩
      refine ⟨_, ⟨closed, rfl⟩, ?_⟩
      rw [if_neg (by simpa using notEmpty), written, ← same]
      rfl
  · rw [Bool.not_eq_true] at there
    simp only [there, Bool.not_false, if_true]
    constructor
    · intro built
      cases built
    · intro ⟨there', _⟩
      cases there'

/-- **A structure has a template** if it exists, one of its members is an edge, and the ends of all
such members are members. -/
theorem exists_ofStructure_iff (consistent : store.Consistent) :
    (∃ template, ofStructure store structureNode = .ok template) ↔
      store.contains structureNode = true ∧
        (∃ edge ends, store.HasMember structureNode edge ∧ store.ends? edge = some ends) ∧
        ∀ edge source target, store.HasMember structureNode edge →
          store.ends? edge = some (source, target) →
            store.HasMember structureNode source ∧ store.HasMember structureNode target := by
  simp only [ofStructure_eq_ok_iff consistent]
  have closed : IsClosed store structureNode ↔ ∀ edge source target,
      store.HasMember structureNode edge → store.ends? edge = some (source, target) →
        store.HasMember structureNode source ∧ store.HasMember structureNode target := by
    unfold IsClosed
    simp only [mem_memberRows_iff consistent]
    constructor
    · intro ends edge source target hasMember here
      exact ends ⟨source, edge, target⟩ ⟨hasMember, here⟩
    · intro ends row ⟨hasMember, here⟩
      exact ends row.edge row.source row.target hasMember here
  have inhabited : memberRows store structureNode ≠ [] ↔
      ∃ edge ends, store.HasMember structureNode edge ∧ store.ends? edge = some ends := by
    constructor
    · intro notEmpty
      obtain ⟨row, member⟩ := List.exists_mem_of_ne_nil _ notEmpty
      obtain ⟨hasMember, ends⟩ := (mem_memberRows_iff consistent).1 member
      exact ⟨row.edge, _, hasMember, ends⟩
    · intro ⟨edge, (source, target), hasMember, ends⟩
      have member : (⟨source, edge, target⟩ : Triple) ∈ memberRows store structureNode :=
        (mem_memberRows_iff consistent).2 ⟨hasMember, ends⟩
      exact List.ne_nil_of_mem member
  rw [← closed, ← inhabited]
  constructor
  · intro ⟨template, there, isClosed, notEmpty, _⟩
    exact ⟨there, notEmpty, isClosed⟩
  · intro ⟨there, notEmpty, isClosed⟩
    exact ⟨_, there, isClosed, notEmpty, rfl⟩

end SemanticNetwork.Template
