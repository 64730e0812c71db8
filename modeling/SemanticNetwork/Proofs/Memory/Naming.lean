/-
**How naming runs.** Each operation of naming, spelled out: what it refuses and with which error, and
what it leaves behind, be it refused or not. Naming is made of the same operations on the store as
everything else, so it keeps what these keep.

* `run_assign`, `run_attach`, `run_createNamed`, `run_resolve`: one equation for each operation;
* `keeps_assign`, `keeps_resolve`: **naming keeps a durable property of the network**;
* `keeps_populate`: and so does the start of a memory.
-/
import SemanticNetwork.Memory.Basic
import SemanticNetwork.Proofs.Network.Stability

namespace SemanticNetwork.Naming

variable {network : Network} {relation element link : Address} {identifier : String}

theorem run_onNetwork {α : Type} (action : Network.Action α) (network : Network) :
    (onNetwork action).run network =
      match action.run network with
      | .ok value after => EStateM.Result.ok value after
      | .error error after => EStateM.Result.error (.store error) after := by
  show EStateM.adaptExcept MemoryError.store action network = _
  unfold EStateM.adaptExcept EStateM.run
  cases action network <;> rfl

theorem run_orElseUndo (action : Action Unit) (undo : Network → Network) (network : Network) :
    (orElseUndo action undo).run network =
      match action.run network with
      | .ok value after => .ok value after
      | .error error after => .error error (undo after) := rfl

theorem run_requireIdentifier (identifier : String) (network : Network) :
    (requireIdentifier identifier).run network =
      if Text.isBlankText identifier = true then .error .blankIdentifier network
      else .ok () network := by
  unfold requireIdentifier
  split <;> rfl

/-- A new link is tracked, and is filled. If that is refused, the link is forgotten and erased. -/
theorem run_attach (network : Network) (relation element : Address) (identifier : String) :
    (attach relation element identifier).run network =
      match Network.createLink.run network with
      | .error error after => .error (.store error) after
      | .ok link after =>
        match (fillLink relation link element identifier).run
            { after with identifierLinks := after.identifierLinks ++ [link] } with
        | .ok value after => .ok value after
        | .error error after => .error error ((after.forgetLink link).erase link) := by
  simp only [attach, trackLink, EStateM.run_bind, run_onNetwork]
  cases Network.createLink.run network with
  | error error after => rfl
  | ok link after => exact run_orElseUndo _ _ _

/-- A link is written, a naming edge is made to lead to it, and the relation to that edge. -/
theorem run_fillLink (network : Network) (relation link element : Address) (identifier : String) :
    (fillLink relation link element identifier).run network =
      match (Network.setPayload link (.text identifier)).run network with
      | .error error after => .error (.store error) after
      | .ok _ written =>
        match (Network.createEdge .constantDirected element link).run written with
        | .error error after => .error (.store error) after
        | .ok edge named =>
          match (Network.createEdge .membership relation edge).run named with
          | .error error after => .error (.store error) after
          | .ok _ after => .ok () after := by
  rw [fillLink, run_onNetwork]
  simp only [EStateM.run_bind]
  cases (Network.setPayload link (.text identifier)).run network with
  | error error after => rfl
  | ok _ written =>
    cases ranEdge : (Network.createEdge .constantDirected element link).run written with
    | error error after => simp only [ranEdge]
    | ok edge named =>
      cases ranMembership : (Network.createEdge .membership relation edge).run named with
      | error error after => simp only [ranEdge, ranMembership]
      | ok membership after =>
        simp only [ranEdge, ranMembership]
        rfl

/-- A blank identifier, a missing element and the identifier of another element are refused. An
element keeps an identifier that it has; else it gets a new link, and its former links go. -/
theorem run_assign (network : Network) (relation : Address) (identifier : String)
    (element : Address) :
    (assign relation identifier element).run network =
      if Text.isBlankText identifier = true then .error .blankIdentifier network
      else if network.store.contains element = false then .error (.elementNotFound element) network
      else match find? network.store relation identifier with
        | some existing =>
          if existing = element then .ok () network
          else .error (.identifierConflict identifier existing) network
        | none =>
          match (attach relation element identifier).run network with
          | .ok _ after =>
            .ok () ((linksOf network.store relation element).foldl Network.erase after)
          | .error error after => .error error after := by
  by_cases blank : Text.isBlankText identifier = true
  · simp [assign, EStateM.run_bind, run_requireIdentifier, blank]
  by_cases there : network.store.contains element = true
  · cases found : find? network.store relation identifier with
    | some existing =>
      by_cases same : existing = element
      · simp [assign, EStateM.run_bind, run_requireIdentifier, blank, there, found, same]
      · simp [assign, EStateM.run_bind, run_requireIdentifier, blank, there, found, same]
    | none =>
      cases attached : (attach relation element identifier).run network <;>
        simp [assign, EStateM.run_bind, run_requireIdentifier, blank, there, found, attached]
  · simp [assign, EStateM.run_bind, run_requireIdentifier, blank, there]

/-- A blank identifier and a type that is not of a node are refused. If the new node cannot be named,
it goes again. -/
theorem run_createNamed (network : Network) (relation : Address) (identifier : String)
    (type : ElementType) :
    (createNamed relation identifier type).run network =
      if Text.isBlankText identifier = true then .error .blankIdentifier network
      else match (Network.createNode type).run network with
        | .error error after => .error (.store error) after
        | .ok element between =>
          match (assign relation identifier element).run between with
          | .ok _ after => .ok element after
          | .error error after => .error error (after.erase element) := by
  by_cases blank : Text.isBlankText identifier = true
  · simp [createNamed, EStateM.run_bind, run_requireIdentifier, blank]
  cases created : (Network.createNode type).run network with
  | error error after =>
    simp [createNamed, EStateM.run_bind, run_requireIdentifier, blank, run_onNetwork, created]
  | ok element between =>
    cases named : (assign relation identifier element).run between <;>
      simp [createNamed, EStateM.run_bind, run_requireIdentifier, blank, run_onNetwork, created,
        run_orElseUndo, named, -bind_pure_comp]

/-- The element of an identifier is the answer if there is one; else a type decides. -/
theorem run_resolve (network : Network) (relation : Address) (identifier : String)
    (type? : Option ElementType) :
    (resolve relation identifier type?).run network =
      match find? network.store relation identifier, type? with
      | some element, _ => .ok (some element) network
      | none, none => .ok none network
      | none, some type =>
        match (createNamed relation identifier type).run network with
        | .ok element after => .ok (some element) after
        | .error error after => .error error after := by
  simp only [resolve, EStateM.run_bind, EStateM.run_get]
  cases find? network.store relation identifier with
  | some element => rfl
  | none =>
    cases type? with
    | none => rfl
    | some type =>
      simp only [EStateM.run_bind]
      cases (createNamed relation identifier type).run network <;> rfl

/-! ### What naming keeps -/

section Keeping

variable {α : Type} {property : Network → Prop}

theorem keeps_onNetwork {action : Network.Action α} (keeps : Keeps property action) :
    Keeps property (onNetwork action) where
  ok {network value after} holds ran := by
    rw [run_onNetwork] at ran
    split at ran
    · cases ran
      exact keeps.ok holds ‹_›
    · cases ran
  error {network error after} holds ran := by
    rw [run_onNetwork] at ran
    split at ran
    · cases ran
    · cases ran
      exact keeps.error holds ‹_›

/-- What an operation keeps is kept with the operation undone, if undoing keeps it. -/
theorem keeps_orElseUndo {action : Action Unit} {undo : Network → Network}
    (keeps : Keeps property action) (undone : ∀ network, property network → property (undo network)) :
    Keeps property (orElseUndo action undo) where
  ok {network value after} holds ran := by
    rw [run_orElseUndo] at ran
    split at ran
    · cases ran
      exact keeps.ok holds ‹_›
    · cases ran
  error {network error after} holds ran := by
    rw [run_orElseUndo] at ran
    split at ran
    · cases ran
    · cases ran
      exact undone _ (keeps.error holds ‹_›)

theorem keeps_requireIdentifier (identifier : String) :
    Keeps property (requireIdentifier identifier) := by
  unfold requireIdentifier
  split
  · exact .throw _
  · exact .pure _

theorem keeps_fillLink (durable : Network.Durable property) (relation link element : Address)
    (identifier : String) : Keeps property (fillLink relation link element identifier) :=
  keeps_onNetwork <| (durable.setPayload _ _).bind fun _ =>
    (durable.createEdge _ _ _).bind fun _ =>
      (durable.createEdge _ _ _).bind fun _ => .pure _

theorem keeps_attach (durable : Network.Durable property) (relation element : Address)
    (identifier : String) : Keeps property (attach relation element identifier) := by
  have keepsTrack : ∀ link, Keeps property (trackLink link) := fun link =>
    .modify fun _ holds => durable.tracked _ holds
  refine (keeps_onNetwork durable.createLink).bind fun link => (keepsTrack link).bind fun _ => ?_
  refine keeps_orElseUndo (keeps_fillLink durable relation link element identifier) ?_
  intro network holds
  have forgotten : property (network.forgetLink link) := durable.tracked _ holds
  exact durable.erase link forgotten

theorem eraseLinks_of_durable (durable : Network.Durable property) (holds : property network)
    (links : List Address) : property (links.foldl Network.erase network) := by
  induction links generalizing network with
  | nil => exact holds
  | cons link rest hypothesis => exact hypothesis (durable.erase link holds)

/-- **Giving an identifier keeps a durable property.** -/
theorem keeps_assign (durable : Network.Durable property) (relation : Address) (identifier : String)
    (element : Address) : Keeps property (assign relation identifier element) where
  ok {network value after} holds ran := by
    rw [run_assign] at ran
    split at ran
    · cases ran
    split at ran
    · cases ran
    split at ran
    · split at ran <;> cases ran
      exact holds
    · split at ran <;> cases ran
      have attached := (keeps_attach durable relation element identifier).ok holds ‹_›
      exact eraseLinks_of_durable durable attached _
  error {network error after} holds ran := by
    rw [run_assign] at ran
    split at ran
    · cases ran
      exact holds
    split at ran
    · cases ran
      exact holds
    split at ran
    · split at ran <;> cases ran
      exact holds
    · split at ran <;> cases ran
      exact (keeps_attach durable relation element identifier).error holds ‹_›

theorem keeps_createNamed (durable : Network.Durable property) (relation : Address)
    (identifier : String) (type : ElementType) :
    Keeps property (createNamed relation identifier type) :=
  (keeps_requireIdentifier identifier).bind fun _ =>
    (keeps_onNetwork (durable.createNode type)).bind fun element =>
      (keeps_orElseUndo (keeps_assign durable relation identifier element)
        fun _ holds => durable.erase element holds).bind fun _ => .pure _

/-- **Resolving an identifier keeps a durable property.** -/
theorem keeps_resolve (durable : Network.Durable property) (relation : Address) (identifier : String)
    (type? : Option ElementType) : Keeps property (resolve relation identifier type?) := by
  refine Keeps.get.bind fun network => ?_
  split
  · exact .pure _
  · exact .pure _
  · exact (keeps_createNamed durable relation identifier _).bind fun _ => .pure _

theorem keeps_bootstrap (durable : Network.Durable property)
    (observed : ∀ network, property network → property (network.observe .linkReaper)) :
    Keeps property bootstrap :=
  (keeps_onNetwork (durable.createNode _)).bind fun relation =>
    Keeps.bind (.modify observed) fun _ =>
      (keeps_assign durable relation _ relation).bind fun _ => .pure _

/-- What resolving keeps, the seeding of a memory keeps. -/
theorem keeps_seed {relation : Address}
    (keeps : ∀ identifier type, Keeps property (resolve relation identifier (some type)))
    (keynodes : List (String × Address)) (identifiers : List String) :
    Keeps property (Memory.seed relation keynodes identifiers) := by
  induction identifiers generalizing keynodes with
  | nil => exact .pure _
  | cons identifier rest hypothesis =>
    unfold Memory.seed
    split
    · exact hypothesis keynodes
    · exact (keeps identifier _).bind fun _ => hypothesis _

theorem keeps_populate (durable : Network.Durable property)
    (observed : ∀ network, property network → property (network.observe .linkReaper))
    (identifiers : List String) : Keeps property (Memory.populate identifiers) :=
  (keeps_bootstrap durable observed).bind fun relation =>
    (keeps_seed (fun identifier type => keeps_resolve durable relation identifier (some type)) _
      identifiers).bind fun _ => .pure _

end Keeping

end SemanticNetwork.Naming
