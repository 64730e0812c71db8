/-
**A template is a set of constraints.** What a search finds can be said without variables: elements
for the names that are mentioned, the same for synonyms, with a row for every triple of items such
that every element is right for its item. In another order of the triples the rows come in another
order, and the elements are the same. So the order matters only where names are interned: a reference
that is called by a further name is refused if that name has a variable of its own by then, while in
another order it makes the two names synonyms.

* `Answers`: **what a search asks for**, with `satisfies_ofItems_iff` and `exists_match_of_answers`;
* `exists_answers`: **a search finds the answers**, each once;
* `exists_rearrangement`: rows go with the triples they belong to;
* `search_ofItems_perm`: **search does not depend on the order of triples**, once both are accepted.
-/
import Mathlib.Data.List.Forall2
import SemanticNetwork.Proofs.Template.Remarks
import SemanticNetwork.Proofs.Template.Search

namespace SemanticNetwork.Template

/-- An element is right for an item, when names have elements. -/
def Item.Fits (store : Store) (elements : String → Option Address) (item : Item)
    (address : Address) : Prop :=
  (item.slot empty).Admits store address ∧
    ∀ name, item.key? = some name → elements name = some address

/-- A row is an edge with its ends, and its elements are right for the items of a triple. -/
def ItemTriple.Fits (store : Store) (elements : String → Option Address) (items : ItemTriple)
    (row : Triple) : Prop :=
  store.ends? row.edge = some (row.source, row.target) ∧
    items.source.Fits store elements row.source ∧ items.edge.Fits store elements row.edge ∧
    items.target.Fits store elements row.target

/-- Elements for exactly the names that are mentioned, the same for synonyms, and a row for every
triple of items. -/
structure Answers (store : Store) (triples : List ItemTriple) (rows : List Triple)
    (elements : String → Option Address) : Prop where
  fits : List.Forall₂ (ItemTriple.Fits store elements) triples rows
  equated : ∀ {name synonym}, .equates name synonym ∈ remarksOf triples →
    elements name = elements synonym
  unmentioned : ∀ {name}, .mentions name ∉ remarksOf triples → elements name = none

/-- The elements that a match has for the names of a template. -/
def Match.elements (template : Template) (found : Match) (name : String) : Option Address :=
  (template.varNamed? name).bind fun var => found.values[var]?

variable {store : Store} {template : Template} {found : Match} {item : Item} {name : String}
  {triples reordered : List ItemTriple} {rows : List Triple} {address : Address}
  {elements : String → Option Address} {remarks : List Remark}

/-! ### Matches are answers -/

/-- An element is right for a slot, when variables have values. -/
def Slot.Holds (store : Store) (values : List Address) (slot : Slot) (address : Address) : Prop :=
  slot.Admits store address ∧ ∀ var, slot.var = some var → values[var]? = some address

/-- A row is an edge with its ends, and its elements are right for the slots of a triple. -/
def SlotTriple.Holds (store : Store) (values : List Address) (slots : SlotTriple) (row : Triple) :
    Prop :=
  store.ends? row.edge = some (row.source, row.target) ∧
    slots.source.Holds store values row.source ∧ slots.edge.Holds store values row.edge ∧
    slots.target.Holds store values row.target

/-- **A match satisfies a template if its rows hold, triple by triple.** -/
theorem satisfies_iff_forall₂ : found.Satisfies store template .empty ↔
    found.values.length = template.vars.length ∧
      List.Forall₂ (SlotTriple.Holds store found.values) template.triples found.rows := by
  rw [List.forall₂_iff_get]
  constructor
  · intro satisfies
    refine ⟨satisfies.valued, satisfies.triples.symm, fun position inTriples inRows => ?_⟩
    have holds : ∀ slot address,
        (slot, address) ∈ (template.triples[position]).place found.rows[position] →
          slot.Holds store found.values address := by
      intro slot address member
      have stands : template.Stands found.rowAt slot address := ⟨position, _, _,
        List.getElem?_eq_getElem inTriples, List.getElem?_eq_getElem inRows, member⟩
      exact ⟨satisfies.admitted slot address stands,
        fun var => satisfies.shared slot address var stands⟩
    refine ⟨satisfies.edges _ (List.getElem_mem inRows), holds _ _ ?_, holds _ _ ?_, holds _ _ ?_⟩
    · exact SlotTriple.mem_place_iff.2 (.inl ⟨rfl, rfl⟩)
    · exact SlotTriple.mem_place_iff.2 (.inr (.inl ⟨rfl, rfl⟩))
    · exact SlotTriple.mem_place_iff.2 (.inr (.inr ⟨rfl, rfl⟩))
  · rintro ⟨valued, triples, each⟩
    have holds : ∀ {slot address}, template.Stands found.rowAt slot address →
        slot.Holds store found.values address := by
      rintro slot address ⟨position, slots, row, slotsAt, rowAt, member⟩
      obtain ⟨inTriples, rfl⟩ := List.getElem?_eq_some_iff.1 slotsAt
      obtain ⟨inRows, rfl⟩ := List.getElem?_eq_some_iff.1 rowAt
      obtain ⟨-, source, edge, target⟩ := each position inTriples inRows
      rcases SlotTriple.mem_place_iff.1 member with ⟨rfl, rfl⟩ | ⟨rfl, rfl⟩ | ⟨rfl, rfl⟩
      · exact source
      · exact edge
      · exact target
    refine ⟨valued, triples.symm, fun row member => ?_, fun slot address stands => (holds stands).1,
      fun slot address var stands => (holds stands).2 var, nofun⟩
    obtain ⟨position, inRows, rfl⟩ := List.mem_iff_getElem.1 member
    exact (each position (triples ▸ inRows) inRows).1

/-- An element is right for an item if it is right for its slot. -/
theorem fits_iff_holds
    (named : ∀ name, item.key? = some name → ∃ var, template.varNamed? name = some var) :
    item.Fits store (found.elements template) address ↔
      (item.slot template).Holds store found.values address := by
  refine and_congr_right fun _ => ?_
  simp only [Item.slot, Match.elements]
  cases key : item.key? with
  | none => simp
  | some name =>
    obtain ⟨var, here⟩ := named name key
    simp [here]

theorem forall₂_congr_of_mem {α β : Type} {first second : α → β → Prop} {items : List α}
    {others : List β} (same : ∀ item ∈ items, ∀ other, first item other ↔ second item other) :
    List.Forall₂ first items others ↔ List.Forall₂ second items others := by
  simp only [List.forall₂_iff_zip]
  refine and_congr_right fun _ => forall_congr' fun item => forall_congr' fun other => ?_
  exact forall_congr' fun member => same item (List.of_mem_zip member).1 other

/-- **A match satisfies a template of items if its rows fit**, with the elements that it has for the
names. -/
theorem satisfies_ofItems_iff (clean : (ofItems triples).redefined = []) :
    found.Satisfies store (ofItems triples) .empty ↔
      found.values.length = (ofItems triples).vars.length ∧
        List.Forall₂ (ItemTriple.Fits store (found.elements (ofItems triples))) triples
          found.rows := by
  rw [satisfies_iff_forall₂, triples_ofItems, List.forall₂_map_left_iff]
  refine and_congr_right fun _ => forall₂_congr_of_mem fun items member row => ?_
  have same : ∀ item ∈ items.toList, ∀ address,
      (item.slot (ofItems triples)).Holds store found.values address ↔
        item.Fits store (found.elements (ofItems triples)) address := by
    intro item inItems address
    refine (fits_iff_holds fun name key => (interns_ofItems clean).mentioned.1 ?_).symm
    exact List.mem_flatMap.2 ⟨item, List.mem_flatMap.2 ⟨items, member, inItems⟩,
      mentions_mem_remarks key⟩
  refine and_congr_right fun _ => ?_
  exact and_congr (same items.source (by simp [ItemTriple.toList]) _)
    (and_congr (same items.edge (by simp [ItemTriple.toList]) _)
      (same items.target (by simp [ItemTriple.toList]) _))

/-- **A match that satisfies a template of items is an answer.** -/
theorem answers_of_satisfies (clean : (ofItems triples).redefined = [])
    (satisfies : found.Satisfies store (ofItems triples) .empty) :
    Answers store triples found.rows (found.elements (ofItems triples)) where
  fits := ((satisfies_ofItems_iff clean).1 satisfies).2
  equated member := by
    obtain ⟨var, atName, atSynonym⟩ := (interns_ofItems clean).equated member
    rw [Match.elements, atName, Match.elements, atSynonym]
  unmentioned unmentioned := by
    rw [(interns_ofItems clean).mentioned, not_exists] at unmentioned
    rw [Match.elements, Option.eq_none_iff_forall_ne_some.2 unmentioned, Option.bind_none]

/-- In rows that fit, a name that is constrained has an element. -/
theorem exists_element_of_constrains
    (fits : List.Forall₂ (ItemTriple.Fits store elements) triples rows)
    (member : .constrains name ∈ remarksOf triples) : ∃ address, elements name = some address := by
  obtain ⟨item, inItems, constrains⟩ := List.mem_flatMap.1 member
  obtain ⟨items, inTriples, inTriple⟩ := List.mem_flatMap.1 inItems
  have key := key?_of_constrains constrains
  obtain ⟨position, inside, rfl⟩ := List.mem_iff_getElem.1 inTriples
  obtain ⟨-, source, edge, target⟩ := fits.get inside (fits.length_eq ▸ inside)
  simp only [ItemTriple.toList, List.mem_cons, List.not_mem_nil, or_false] at inTriple
  rcases inTriple with rfl | rfl | rfl
  · exact ⟨_, source.2 name key⟩
  · exact ⟨_, edge.2 name key⟩
  · exact ⟨_, target.2 name key⟩

/-- **An answer is a match that satisfies the template**, if every name is constrained. -/
theorem exists_match_of_answers (clean : (ofItems triples).redefined = [])
    (acceptable : Acceptable triples) (answers : Answers store triples rows elements) :
    ∃ found : Match, found.Satisfies store (ofItems triples) .empty ∧ found.rows = rows ∧
      found.elements (ofItems triples) = elements := by
  have interns := interns_ofItems clean
  -- The names of a variable are synonyms, so each of them has the element of the variable.
  have value : ∀ var : Fin (ofItems triples).vars.length, ∃ address, ∀ name,
      (ofItems triples).varNamed? name = some var.1 → elements name = some address := by
    intro var
    obtain ⟨owner, owned⟩ := interns.owned var.2
    obtain ⟨other, constrained, synonyms⟩ := acceptable.constrained owner
      (interns.mentioned.2 ⟨var, owned⟩)
    obtain ⟨address, here⟩ := exists_element_of_constrains answers.fits constrained
    refine ⟨address, fun name named => ?_⟩
    rw [(interns.shared named owned).apply_eq answers.equated,
      synonyms.apply_eq answers.equated, here]
  choose value valued using value
  have same : (⟨List.ofFn value, rows⟩ : Match).elements (ofItems triples) = elements := by
    funext name
    cases here : (ofItems triples).varNamed? name with
    | none =>
      have unmentioned : .mentions name ∉ remarksOf triples := by
        rw [interns.mentioned, here]
        simp
      rw [Match.elements, here, answers.unmentioned unmentioned, Option.bind_none]
    | some var =>
      have declared := interns.declared here
      rw [Match.elements, here, valued ⟨var, declared⟩ name here]
      simp [declared]
  refine ⟨⟨List.ofFn value, rows⟩, (satisfies_ofItems_iff clean).2 ⟨by simp, ?_⟩, rfl, same⟩
  rw [same]
  exact answers.fits

/-! ### Searches find answers -/

/-- A match is determined by its rows and the elements it has for the names. -/
theorem eq_of_elements_eq (interns : template.Interns remarks) {first second : Match}
    (valuedFirst : first.values.length = template.vars.length)
    (valuedSecond : second.values.length = template.vars.length)
    (sameRows : first.rows = second.rows)
    (same : first.elements template = second.elements template) : first = second := by
  refine Match.ext (List.ext_getElem? fun var => ?_) sameRows
  by_cases declared : var < template.vars.length
  · obtain ⟨name, here⟩ := interns.owned declared
    have atName := congrFun same name
    rwa [Match.elements, here, Match.elements, here] at atName
  · rw [List.getElem?_eq_none (by omega), List.getElem?_eq_none (by omega)]

/-- An instance has for every name the element that its match has. -/
theorem get?_toInstance_eq_elements {slots : List Slot} {parameters : Assignment}
    (covers : template.Covers slots) (satisfies : found.Satisfies store template parameters) :
    (found.toInstance template).get? = found.elements template := by
  funext name
  have bound : ∀ name var, (name, var) ∈ template.names →
      ∃ address, found.toPartial.valuation.get? var = some address := by
    intro name var member
    rw [get?_toPartial]
    exact exists_value_of_name covers satisfies member
  refine (get?_ofValuation found.rows name bound).trans ?_
  exact congrArg (template.varNamed? name).bind (funext fun var => get?_toPartial found var)

/-- **A search finds the answers**, each once. -/
theorem exists_answers (reachable : store.Reachable)
    (passed : (ofItems triples).validate = .ok ()) :
    ∃ instances, (ofItems triples).search store .empty = .ok instances ∧
      ∃ answers : List (List Triple × (String → Option Address)), answers.Nodup ∧
        (∀ rows elements, (rows, elements) ∈ answers ↔ Answers store triples rows elements) ∧
        instances.map Instance.get? = answers.map Prod.snd := by
  obtain ⟨clean, acceptable⟩ := validate_ofItems_iff.1 passed
  have finds : ∃ found, (ofItems triples).Finds store .empty found :=
    search_finds_satisfying reachable (isBuilt_ofItems triples) passed nofun nofun nofun
  obtain ⟨found, finds⟩ := finds
  refine ⟨_, finds.search, found.map fun candidate =>
    (candidate.rows, candidate.elements (ofItems triples)), ?_, fun rows elements => ?_, ?_⟩
  · refine List.Nodup.map_on (fun first inFirst second inSecond same => ?_) finds.nodup.of_map
    obtain ⟨sameRows, sameElements⟩ := Prod.mk.inj same
    exact eq_of_elements_eq (interns_ofItems clean) ((finds.mem_iff first).1 inFirst).valued
      ((finds.mem_iff second).1 inSecond).valued sameRows sameElements
  · simp only [List.mem_map, Prod.mk.injEq]
    constructor
    · rintro ⟨candidate, member, rfl, rfl⟩
      exact answers_of_satisfies clean ((finds.mem_iff candidate).1 member)
    · intro answers
      obtain ⟨candidate, satisfies, sameRows, sameElements⟩ :=
        exists_match_of_answers clean acceptable answers
      exact ⟨candidate, (finds.mem_iff candidate).2 satisfies, sameRows, sameElements⟩
  · rw [List.map_map, List.map_map]
    refine List.map_congr_left fun candidate member => ?_
    exact get?_toInstance_eq_elements (isBuilt_ofItems triples).covers
      ((finds.mem_iff candidate).1 member)

/-! ### Other orders -/

/-- Rows that belong to items are carried to a reordering of the items, and back. -/
def Carries {α β : Type} (items reordered : List α) (carry back : List β → List β) : Prop :=
  ∀ (related : α → β → Prop) rows, List.Forall₂ related items rows →
    List.Forall₂ related reordered (carry rows) ∧ back (carry rows) = rows

section Carries

variable {α β : Type} {items reordered last : List α} {carry back carry' back' : List β → List β}

/-- The first row stays where it is. -/
theorem Carries.cons (carries : Carries items reordered carry back) (item : α) :
    Carries (item :: items) (item :: reordered) (fun rows => rows.take 1 ++ carry (rows.drop 1))
      (fun rows => rows.take 1 ++ back (rows.drop 1)) := by
  rintro related rows (_ | ⟨head, rest⟩)
  obtain ⟨rest, same⟩ := carries related _ rest
  exact ⟨.cons head rest, congrArg (List.cons _) same⟩

/-- The first two rows change places. -/
theorem carries_swap (first second : α) (rest : List α) :
    Carries (second :: first :: rest) (first :: second :: rest)
      (fun rows : List β => (rows.take 2).reverse ++ rows.drop 2)
      (fun rows => (rows.take 2).reverse ++ rows.drop 2) := by
  rintro related rows (_ | ⟨head, _ | ⟨next, rest⟩⟩)
  exact ⟨.cons next (.cons head rest), rfl⟩

theorem Carries.trans (first : Carries items reordered carry back)
    (second : Carries reordered last carry' back') :
    Carries items last (carry' ∘ carry) (back ∘ back') := by
  intro related rows holds
  obtain ⟨middle, same⟩ := first related rows holds
  obtain ⟨final, same'⟩ := second related _ middle
  refine ⟨final, ?_⟩
  rw [Function.comp_apply, Function.comp_apply, same', same]

/-- **Rows go with the items they belong to**, when the items are reordered. -/
theorem exists_rearrangement (perm : items.Perm reordered) : ∃ carry back : List β → List β,
    Carries items reordered carry back ∧ Carries reordered items back carry := by
  induction perm with
  | nil => exact ⟨id, id, fun _ _ related => ⟨related, rfl⟩, fun _ _ related => ⟨related, rfl⟩⟩
  | cons item _ hypothesis =>
    obtain ⟨carry, back, there, here⟩ := hypothesis
    exact ⟨_, _, there.cons item, here.cons item⟩
  | swap first second rest =>
    exact ⟨_, _, carries_swap first second rest, carries_swap second first rest⟩
  | trans _ _ first second =>
    obtain ⟨carry, back, there, here⟩ := first
    obtain ⟨carry', back', there', here'⟩ := second
    exact ⟨_, _, there.trans there', here'.trans here⟩

end Carries

/-- **Answers to triples in one order are answers in another**, with the rows in that order. -/
theorem Answers.carry (answers : Answers store triples rows elements)
    (perm : triples.Perm reordered) {carry back : List Triple → List Triple}
    (carries : Carries triples reordered carry back) :
    Answers store reordered (carry rows) elements where
  fits := (carries _ _ answers.fits).1
  equated member := answers.equated ((remarksOf_perm perm).mem_iff.2 member)
  unmentioned unmentioned :=
    answers.unmentioned fun member => unmentioned ((remarksOf_perm perm).mem_iff.1 member)

/-- Accepted in one order, triples are accepted in another, unless a name is redefined there. -/
theorem validate_perm (perm : triples.Perm reordered)
    (passed : (ofItems triples).validate = .ok ()) :
    (ofItems reordered).validate = .ok () ∨
      ∃ name, (ofItems reordered).validate = .error (.nameRedefined name) := by
  have acceptable := (validate_ofItems_iff.1 passed).2.perm perm
  by_cases clean : (ofItems reordered).redefined = []
  · exact .inl (validate_ofItems_iff.2 ⟨clean, acceptable⟩)
  · exact .inr (validate_of_redefined (triples_ofItems_ne_nil_iff.2 acceptable.nonempty) clean)

/-- Where no reference is called by a name of its own, triples are accepted in every order or in
none. -/
theorem validate_perm_iff (perm : triples.Perm reordered)
    (plain : ∀ item ∈ itemsOf triples, ∀ name, item.value = .reference name → item.name? = none) :
    (ofItems triples).validate = .ok () ↔ (ofItems reordered).validate = .ok () := by
  have noSynonyms : ∀ name synonym, .equates name synonym ∉ remarksOf triples := by
    intro name synonym member
    obtain ⟨item, inItems, equates⟩ := List.mem_flatMap.1 member
    obtain ⟨reference, called⟩ := reference_of_equates equates
    rw [plain item inItems name reference] at called
    cases called
  have noSynonyms' : ∀ name synonym, .equates name synonym ∉ remarksOf reordered :=
    fun name synonym member => noSynonyms name synonym ((remarksOf_perm perm).mem_iff.2 member)
  simp only [validate_ofItems_iff, clean_ofItems noSynonyms, clean_ofItems noSynonyms', true_and]
  exact ⟨fun acceptable => acceptable.perm perm, fun acceptable => acceptable.perm perm.symm⟩

/-- **Lists of all answers to triples in two orders have the same elements for names**, each as
often. -/
theorem perm_elements (perm : triples.Perm reordered)
    {answers others : List (List Triple × (String → Option Address))} (distinct : answers.Nodup)
    (distinct' : others.Nodup)
    (mem_iff : ∀ rows elements, (rows, elements) ∈ answers ↔ Answers store triples rows elements)
    (mem_iff' : ∀ rows elements, (rows, elements) ∈ others ↔ Answers store reordered rows elements) :
    (answers.map Prod.snd).Perm (others.map Prod.snd) := by
  have rearranged : ∃ carry back : List Triple → List Triple,
      Carries triples reordered carry back ∧ Carries reordered triples back carry :=
    exists_rearrangement perm
  obtain ⟨carry, back, carries, carriesBack⟩ := rearranged
  have carried : (answers.map (Prod.map carry id)).Perm others := by
    refine (List.perm_ext_iff_of_nodup (distinct.map_on ?_) distinct').2 fun answer => ?_
    · rintro ⟨rows, elements⟩ first ⟨rows', elements'⟩ second equal
      obtain ⟨sameRows, sameElements⟩ := Prod.mk.inj equal
      have backRows := (carries _ _ ((mem_iff rows elements).1 first).fits).2
      have backRows' := (carries _ _ ((mem_iff rows' elements').1 second).fits).2
      have sameRows : carry rows = carry rows' := sameRows
      exact Prod.ext (backRows.symm.trans ((congrArg back sameRows).trans backRows')) sameElements
    · obtain ⟨rows, elements⟩ := answer
      rw [mem_iff', List.mem_map]
      constructor
      · rintro ⟨⟨rows', elements'⟩, member, equal⟩
        cases equal
        exact ((mem_iff rows' elements').1 member).carry perm carries
      · intro holds
        refine ⟨(back rows, elements), (mem_iff _ _).2 (holds.carry perm.symm carriesBack), ?_⟩
        exact Prod.ext (carriesBack _ _ holds.fits).2 rfl
  have projected := carried.map Prod.snd
  have kept : (Prod.snd ∘ Prod.map carry id : List Triple × (String → Option Address) → _) =
      Prod.snd := rfl
  rwa [List.map_map, kept] at projected

/-- Two orders that are accepted have the same instances for names, up to reordering. -/
theorem search_perm (perm : triples.Perm reordered) (reachable : store.Reachable)
    (passed : (ofItems triples).validate = .ok ())
    (passed' : (ofItems reordered).validate = .ok ()) :
    ∃ instances others, (ofItems triples).search store .empty = .ok instances ∧
      (ofItems reordered).search store .empty = .ok others ∧
      (instances.map Instance.get?).Perm (others.map Instance.get?) := by
  obtain ⟨instances, searched, answers, distinct, mem_iff, same⟩ := exists_answers reachable passed
  obtain ⟨others, searched', answers', distinct', mem_iff', same'⟩ :=
    exists_answers reachable passed'
  refine ⟨instances, others, searched, searched', ?_⟩
  rw [same, same']
  exact perm_elements perm distinct distinct' mem_iff mem_iff'

/-- **The order of triples does not matter for search.** A list of triples that is accepted in one
order is accepted in any other, unless a name is redefined in that order; without references that are
called by names of their own it is accepted in every order or in none. Accepted in both orders, it has
the same bindings of names in every store, up to reordering. -/
theorem search_ofItems_perm {triples reordered : List ItemTriple} (perm : triples.Perm reordered) :
    ((ofItems triples).validate = .ok () → (ofItems reordered).validate = .ok () ∨
      ∃ name, (ofItems reordered).validate = .error (.nameRedefined name)) ∧
    ((∀ item ∈ itemsOf triples, ∀ name, item.value = .reference name → item.name? = none) →
      ((ofItems triples).validate = .ok () ↔ (ofItems reordered).validate = .ok ())) ∧
    ∀ store : Store, store.Reachable → (ofItems triples).validate = .ok () →
      (ofItems reordered).validate = .ok () →
      ∃ instances others, (ofItems triples).search store .empty = .ok instances ∧
        (ofItems reordered).search store .empty = .ok others ∧
        (instances.map Instance.get?).Perm (others.map Instance.get?) :=
  ⟨validate_perm perm, validate_perm_iff perm, fun _ => search_perm perm⟩

/-- Two edges between the same ends, where the source of the second is called by a further name. -/
def parallelEdges : List ItemTriple :=
  [⟨(Item.typed .constantNode).named "source", (Item.typed .access).named "edge",
      (Item.typed .constantNode).named "target"⟩,
    ⟨(Item.reference "source").named "start", (Item.typed .access).named "other",
      Item.reference "target"⟩]

/-- In both orders four pairs of edges are found. -/
theorem search_parallelEdges_perm : parallelEdges.Perm parallelEdges.reverse ∧
    relatedNodes.Reachable ∧ (ofItems parallelEdges).validate = .ok () ∧
      (ofItems parallelEdges.reverse).validate = .ok () ∧
      ∃ instances others, (ofItems parallelEdges).search relatedNodes .empty = .ok instances ∧
        (ofItems parallelEdges.reverse).search relatedNodes .empty = .ok others ∧
        (instances.map Instance.get?).Perm (others.map Instance.get?) := by
  have perm : parallelEdges.Perm parallelEdges.reverse := (List.reverse_perm _).symm
  have reachable : relatedNodes.Reachable := ⟨_, _, _, rfl⟩
  have valid : (ofItems parallelEdges).validate = .ok () := by rfl
  have validReversed : (ofItems parallelEdges.reverse).validate = .ok () := by rfl
  exact ⟨perm, reachable, valid, validReversed,
    (search_ofItems_perm perm).2.2 relatedNodes reachable valid validReversed⟩

example : ((ofItems parallelEdges).search relatedNodes .empty).map
    (·.map fun made => (made.get? "edge", made.get? "other")) =
      .ok [(some ⟨3⟩, some ⟨3⟩), (some ⟨3⟩, some ⟨4⟩), (some ⟨4⟩, some ⟨3⟩),
        (some ⟨4⟩, some ⟨4⟩)] := by
  rfl

/-- Edges that start at two positions, and at a reference to the first by the name of the second. -/
def startsRenamed : List ItemTriple :=
  [⟨(Item.typed .constantNode).named "a", Item.typed .membership, Item.typed .constantNode⟩,
    ⟨(Item.reference "a").named "b", Item.typed .membership, Item.typed .constantNode⟩,
    ⟨(Item.typed .constantNode).named "b", Item.typed .membership, Item.typed .constantNode⟩]

/-- The same edges, with the reference after both positions. -/
def startsRenamedLate : List ItemTriple :=
  [⟨(Item.typed .constantNode).named "a", Item.typed .membership, Item.typed .constantNode⟩,
    ⟨(Item.typed .constantNode).named "b", Item.typed .membership, Item.typed .constantNode⟩,
    ⟨(Item.reference "a").named "b", Item.typed .membership, Item.typed .constantNode⟩]

/-- **Whether a name is redefined depends on the order**: a new name becomes a synonym, and one that
has a variable is refused. -/
theorem startsRenamed_refused_late : startsRenamed.Perm startsRenamedLate ∧
    (ofItems startsRenamed).validate = .ok () ∧
      (ofItems startsRenamedLate).validate = .error (.nameRedefined "b") :=
  ⟨.cons _ (.swap _ _ _), by rfl, by rfl⟩

end SemanticNetwork.Template
