/-
**A template of a relation is a walk over quintuples.** Five patterns can be walked over, and they can
be written down as the two triples of a template: one for the triple, and one that leads from the
relation to its edge, which both share without a name. The walk goes from triples to what enters
their edges; the search may begin at either triple, whichever is better anchored, and joins on the
shared edge. But the matches of this template are the rows that the patterns accept.

* `Pattern.IsPlain`: an address or a consistent type that says nothing of variables;
* `satisfies_relating_iff`: **a match of the template is an accepted row**;
* `search_relating_eq_walk`: **search and walk give the same, each once.**
-/
import SemanticNetwork.Proofs.Pattern.Quintuples
import SemanticNetwork.Proofs.Template.Rediscovery

namespace SemanticNetwork

/-- A pattern for an address that denotes something, or for a consistent type without the flag for
variables. -/
def Pattern.IsPlain : Pattern → Prop
  | .fixed address => address.isValid = true
  | .typed type => type.conflict? = none ∧ type.isVariable = false

instance : DecidablePred Pattern.IsPlain := fun pattern =>
  match pattern with
  | .fixed address => inferInstanceAs (Decidable (address.isValid = true))
  | .typed type =>
    inferInstanceAs (Decidable (type.conflict? = none ∧ type.isVariable = false))

/-- A plain pattern is not refused. -/
theorem Pattern.IsPlain.fault?_eq_none {pattern : Pattern} (plain : pattern.IsPlain) :
    pattern.fault? = none := by
  cases pattern with
  | fixed address => exact if_pos plain
  | typed type => simp [fault?, plain.1]

/-- The instance without names that has the two triples of a row. -/
def Instance.ofQuintuple (row : Quintuple) : Instance := ⟨[], [row.main, row.related]⟩

namespace Template

/-- A position that asks for what a pattern accepts. -/
def Item.ofPattern : Pattern → Item
  | .fixed address => .fixed address
  | .typed type => .typed type

/-- What such a position says of its element. -/
def Constraint.ofPattern : Pattern → Constraint
  | .fixed address => .fixed address
  | .typed type => .typed type

/-- The template of a triple with a relation to its edge. -/
def relating (pattern : QuintuplePattern) : Template :=
  ofClauses [.withRelation (.ofPattern pattern.main.source) (.ofPattern pattern.main.edge)
    (.ofPattern pattern.main.target) (.ofPattern pattern.relationEdge)
    (.ofPattern pattern.relation)]

variable {store : Store} {pattern : QuintuplePattern} {slot : Slot} {address : Address}

/-! ### The template -/

theorem intern_ofPattern (template : Template) (position : Pattern) :
    template.intern (.ofPattern position) = (⟨.ofPattern position, none⟩, template) := by
  cases position <;> rfl

/-- The slots of the triple; those of its edge and of the second target share a variable. -/
def mainSlots (pattern : QuintuplePattern) : SlotTriple :=
  ⟨⟨.ofPattern pattern.main.source, none⟩, ⟨.ofPattern pattern.main.edge, some 0⟩,
    ⟨.ofPattern pattern.main.target, none⟩⟩

/-- The slots of the triple that leads from the relation. -/
def relationSlots (pattern : QuintuplePattern) : SlotTriple :=
  ⟨⟨.ofPattern pattern.relation, none⟩, ⟨.ofPattern pattern.relationEdge, none⟩, ⟨.any, some 0⟩⟩

theorem relating_eq (pattern : QuintuplePattern) :
    relating pattern = ⟨[mainSlots pattern, relationSlots pattern], [⟨none, true⟩], [], []⟩ := by
  simp only [relating, ofClauses, List.foldl_cons, List.foldl_nil, append, tripleWithRelation,
    intern_ofPattern]
  rfl

/-- What a plain pattern accepts meets the constraint, and nothing else does. -/
theorem admits_ofPattern_iff {position : Pattern} (plain : position.IsPlain) {var : Option Nat} :
    (Slot.mk (.ofPattern position) var).Admits store address ↔
      position.accepts store address = true := by
  cases position with
  | fixed wanted =>
    show address = wanted ↔ (wanted == address) = true
    rw [beq_iff_eq, eq_comm]
  | typed type =>
    have sought : soughtType type = type :=
      ElementType.without_varying_of_isVariable_eq_false plain.2
    show (∃ actual, store.type? address = some actual ∧ actual.carries (soughtType type) = true) ↔
      (store.type? address).any (fun actual => actual.carries type) = true
    rw [sought]
    cases store.type? address with
    | none => simp
    | some actual => simp

/-- A template of plain patterns makes sense. -/
theorem validate_relating (plain : ∀ position ∈ pattern.toList, position.IsPlain) :
    (relating pattern).validate = .ok () := by
  have constrained : ∀ slot ∈ (relating pattern).slots, slot.constraint = .any ∨
      ∃ position ∈ pattern.toList, slot.constraint = .ofPattern position := by
    rw [relating_eq]
    simp [slots, SlotTriple.toList, mainSlots, relationSlots, QuintuplePattern.toList,
      TriplePattern.toList]
  have sense : (relating pattern).MakesSense := {
    introduced := by
      rw [relating_eq]
      simp
    valid := fun slot member address fixed => by
      obtain shared | ⟨position, listed, same⟩ := constrained slot member
      · cases shared.symm.trans fixed
      · cases position with
        | fixed wanted =>
          cases same.symm.trans fixed
          exact plain _ listed
        | typed type => cases same.symm.trans fixed
    consistent := fun slot member type typed => by
      obtain shared | ⟨position, listed, same⟩ := constrained slot member
      · cases shared.symm.trans typed
      · cases position with
        | fixed wanted => cases same.symm.trans typed
        | typed type =>
          cases same.symm.trans typed
          exact (plain _ listed).1 }
  apply validate_of_makesSense sense
  · rw [relating_eq]
    exact List.cons_ne_nil _ _
  · rw [relating_eq]

/-! ### Its matches -/

/-- The match that a row is. -/
def Match.ofQuintuple (row : Quintuple) : Match := ⟨[row.main.edge], [row.main, row.related]⟩

theorem ofQuintuple_injective : Function.Injective Match.ofQuintuple := by
  intro row other same
  obtain ⟨main, relationEdge, relation⟩ := row
  obtain ⟨main', relationEdge', relation'⟩ := other
  simp only [Match.ofQuintuple, Quintuple.related, Match.mk.injEq, List.cons.injEq,
    Triple.mk.injEq] at same
  obtain ⟨-, rfl, ⟨rfl, rfl, -⟩, -⟩ := same
  rfl

theorem toInstance_ofQuintuple (row : Quintuple) :
    (Match.ofQuintuple row).toInstance (relating pattern) = Instance.ofQuintuple row := by
  rw [relating_eq]
  rfl

theorem stands_relating_iff {main relation : Triple} {values : List Address} :
    (relating pattern).Stands (Match.mk values [main, relation]).rowAt slot address ↔
      (slot, address) ∈ (mainSlots pattern).place main ∨
        (slot, address) ∈ (relationSlots pattern).place relation := by
  rw [relating_eq]
  constructor
  · intro ⟨position, slots, row, slotsAt, rowAt, member⟩
    match position with
    | 0 =>
      cases slotsAt
      cases rowAt
      exact .inl member
    | 1 =>
      cases slotsAt
      cases rowAt
      exact .inr member
    | position + 2 => cases slotsAt
  · intro stands
    rcases stands with member | member
    · exact ⟨0, _, _, rfl, rfl, member⟩
    · exact ⟨1, _, _, rfl, rfl, member⟩

/-- What holds of all slots of two rows, slot by slot. -/
theorem forall_stands_relating_iff {main relation : Triple} {values : List Address}
    {holds : Slot → Address → Prop} :
    (∀ slot address, (relating pattern).Stands (Match.mk values [main, relation]).rowAt slot address →
        holds slot address) ↔
      (holds (mainSlots pattern).source main.source ∧ holds (mainSlots pattern).edge main.edge ∧
        holds (mainSlots pattern).target main.target) ∧
      (holds (relationSlots pattern).source relation.source ∧
        holds (relationSlots pattern).edge relation.edge ∧
        holds (relationSlots pattern).target relation.target) := by
  simp only [stands_relating_iff, SlotTriple.mem_place_iff, or_imp, forall_and, and_imp,
    forall_eq_apply_imp_iff, forall_eq]

/-- **A match of the template is an accepted row.** The shared variable has the edge of the first
row, which is the target of the second. -/
theorem satisfies_relating_iff (plain : ∀ position ∈ pattern.toList, position.IsPlain)
    {candidate : Match} : candidate.Satisfies store (relating pattern) .empty ↔
      ∃ row, pattern.Accepts store row ∧ candidate = .ofQuintuple row := by
  have source := plain pattern.main.source (by simp [QuintuplePattern.toList, TriplePattern.toList])
  have edge := plain pattern.main.edge (by simp [QuintuplePattern.toList, TriplePattern.toList])
  have target := plain pattern.main.target (by simp [QuintuplePattern.toList, TriplePattern.toList])
  have relationEdge := plain pattern.relationEdge (by simp [QuintuplePattern.toList])
  have relation := plain pattern.relation (by simp [QuintuplePattern.toList])
  constructor
  · intro satisfies
    obtain ⟨values, rows⟩ := candidate
    have valued : values.length = 1 := by
      rw [satisfies.valued, relating_eq]
      rfl
    have sized : rows.length = 2 := by
      rw [satisfies.triples, relating_eq]
      rfl
    obtain ⟨value, rfl⟩ := List.length_eq_one_iff.1 valued
    obtain ⟨main, other, rfl⟩ := List.length_eq_two.1 sized
    obtain ⟨⟨admitsSource, admitsEdge, admitsTarget⟩, admitsRelation, admitsRelationEdge, -⟩ :=
      forall_stands_relating_iff.1 satisfies.admitted
    have shared := fun slot address stands var => satisfies.shared slot address var stands
    obtain ⟨⟨-, atEdge, -⟩, -, -, atTarget⟩ := forall_stands_relating_iff.1 shared
    have onEdge : value = main.edge := Option.some.inj (atEdge 0 rfl)
    have onTarget : value = other.target := Option.some.inj (atTarget 0 rfl)
    have entered : other.target = main.edge := onTarget.symm.trans onEdge
    have mainEnds := satisfies.edges main (by simp)
    have otherEnds := satisfies.edges other (by simp)
    refine ⟨⟨main, other.edge, other.source⟩, ⟨⟨mainEnds, ?_, ?_, ?_⟩, ?_, ?_, ?_⟩, ?_⟩
    · exact (admits_ofPattern_iff source).1 admitsSource
    · exact (admits_ofPattern_iff edge).1 admitsEdge
    · exact (admits_ofPattern_iff target).1 admitsTarget
    · exact entered ▸ otherEnds
    · exact (admits_ofPattern_iff relationEdge).1 admitsRelationEdge
    · exact (admits_ofPattern_iff relation).1 admitsRelation
    · rw [Match.ofQuintuple, Quintuple.related, onEdge, ← entered]
  · rintro ⟨row, accepts, rfl⟩
    exact {
      valued := by
        rw [relating_eq]
        rfl
      triples := by
        rw [relating_eq]
        rfl
      edges := by
        simpa [Match.ofQuintuple] using ⟨accepts.main.ends, accepts.ends⟩
      admitted := forall_stands_relating_iff.2
        ⟨⟨(admits_ofPattern_iff source).2 accepts.main.source,
          (admits_ofPattern_iff edge).2 accepts.main.edge,
          (admits_ofPattern_iff target).2 accepts.main.target⟩,
          (admits_ofPattern_iff relation).2 accepts.relation,
          (admits_ofPattern_iff relationEdge).2 accepts.relationEdge, trivial⟩
      shared := by
        have shared : ∀ slot address, (relating pattern).Stands
            (Match.mk [row.main.edge] [row.main, row.related]).rowAt slot address →
            ∀ var, slot.var = some var → [row.main.edge][var]? = some address := by
          refine forall_stands_relating_iff.2 ?_
          simp [mainSlots, relationSlots, Quintuple.related]
        exact fun slot address var stands => shared slot address stands var
      parameters := fun var address gives => by
        obtain ⟨name, member, -⟩ := gives
        cases member }

/-! ### Search and walk -/

/-- **Search and walk give the same.** The template of a triple with a relation to its edge is
searched with success, the cursor over the same five patterns is opened, and what is found are the
rows that the cursor shows; both list each of them once. -/
theorem search_relating_eq_walk (reachable : store.Reachable)
    (plain : ∀ position ∈ pattern.toList, position.IsPlain) :
    ∃ found cursor rows, (relating pattern).search store .empty = .ok found ∧
      QuintupleCursor.tryOpen store pattern = .ok cursor ∧
      QuintupleCursor.walk.Exact (pattern.Accepts store) Quintuple.Before store cursor rows ∧
      found.Perm (rows.map Instance.ofQuintuple) ∧ found.Nodup := by
  have consistent := reachable.consistent
  have valid := validate_relating plain
  have built : (relating pattern).IsBuilt := ⟨_, rfl⟩
  have sound : pattern.error? = none :=
    firstFault?_eq_none_iff.2 fun position member => (plain position member).fault?_eq_none
  have opened : QuintupleCursor.tryOpen store pattern = .ok (.openOn store pattern) := by
    simp only [QuintupleCursor.tryOpen, sound]
  have exactly := QuintupleCursor.exact_openOn consistent pattern
  have accepted : ∀ {row}, row ∈ (QuintupleCursor.openOn store pattern).drain store ↔
      pattern.Accepts store row := by
    intro row
    apply exactly.mem_iff.trans
    exact ⟨QuintuplePattern.Matches.accepts, fun accepts => accepts.matches consistent sound⟩
  obtain ⟨found, searched, distinct, mem_iff⟩ := exists_found consistent built.covers valid
    (show (relating pattern).bindParameters store .empty = .ok (.unbound _) from rfl)
  have same : found.Perm
      (((QuintupleCursor.openOn store pattern).drain store).map Match.ofQuintuple) := by
    apply (List.perm_ext_iff_of_nodup distinct.of_map
      (exactly.nodup.map ofQuintuple_injective)).2
    intro candidate
    apply (mem_iff candidate).trans
    apply (satisfies_relating_iff plain).trans
    simp only [List.mem_map, accepted, eq_comm]
  refine ⟨_, _, _, searched, opened, ⟨accepted, exactly.ordered, exactly.nodup, exactly.steps⟩,
    ?_, distinct⟩
  have instances := same.map (Match.toInstance (relating pattern))
  rw [List.map_map] at instances
  have asInstance : Match.toInstance (relating pattern) ∘ Match.ofQuintuple =
      Instance.ofQuintuple := by
    funext row
    exact toInstance_ofQuintuple row
  rwa [asInstance] at instances

/-- Patterns for the membership edges of the first node that the second node is a relation of. -/
def qualifiedMemberships : QuintuplePattern :=
  ⟨⟨.fixed ⟨1⟩, .typed .access, .typed .unknown⟩, .typed .directed, .fixed ⟨2⟩⟩

/-- One of two parallel membership edges is entered by an edge from the second node. -/
theorem search_qualifiedMemberships_eq_walk :
    relatedNodes.Reachable ∧ (∀ position ∈ qualifiedMemberships.toList, position.IsPlain) ∧
      ∃ found cursor rows, (relating qualifiedMemberships).search relatedNodes .empty = .ok found ∧
        QuintupleCursor.tryOpen relatedNodes qualifiedMemberships = .ok cursor ∧
        QuintupleCursor.walk.Exact (qualifiedMemberships.Accepts relatedNodes) Quintuple.Before
          relatedNodes cursor rows ∧
        found.Perm (rows.map Instance.ofQuintuple) ∧ found.Nodup := by
  have reachable : relatedNodes.Reachable := ⟨_, _, _, rfl⟩
  have plain : ∀ position ∈ qualifiedMemberships.toList, position.IsPlain := by decide +kernel
  exact ⟨reachable, plain, search_relating_eq_walk reachable plain⟩

example : (relating qualifiedMemberships).search relatedNodes .empty =
    .ok [.ofQuintuple ⟨⟨⟨1⟩, ⟨3⟩, ⟨2⟩⟩, ⟨5⟩, ⟨2⟩⟩] := by
  rfl

end Template

end SemanticNetwork
