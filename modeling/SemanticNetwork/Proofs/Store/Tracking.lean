/-
**Indexes that track a table.** An index tracks a table of elements if it files exactly the
elements of the table, each under its key. The indexes of a store by type and by payload track its
table at all times. An adjacency tracks the edges of a table at one of their ends; while elements
are erased it may lack edges that wait to be erased themselves.

* `Index.Tracks`, kept when an element is entered (`file`, `skip`), replaced (`keep`, `replace`) or
  taken out (`erase`);
* `Adjacency.Tracks`, where an element that is entered waits (`await`) until it is put on file
  (`file`) or turns out to be no edge (`settle`); kept by `strike` and `detach`;
* `Index.Tracks.unique`, `Adjacency.Tracks.unique`: the table determines what tracks it.
-/
import SemanticNetwork.Store.Erase

namespace SemanticNetwork

/-! ### Indexes -/

namespace Index

variable {κ : Type} [Key κ] [DecidableEq κ]

/-- The index files exactly the elements of a table that have a key, each under its key. -/
def Tracks (index : Index κ) (elements : AddressMap Element) (keyOf : Element → Option κ) : Prop :=
  ∀ (key : κ) (address : Address), index.files key address = true ↔
    ∃ element, elements.get? address = some element ∧ keyOf element = some key

variable {index : Index κ} {elements : AddressMap Element} {keyOf : Element → Option κ}
  {address : Address} {element : Element}

theorem Tracks.empty : (Index.empty : Index κ).Tracks .empty keyOf := by
  simp [Tracks]

/-- **The table determines the index that tracks it.** -/
theorem Tracks.unique {other : Index κ} (tracks : index.Tracks elements keyOf)
    (tracks' : other.Tracks elements keyOf) : index = other := by
  refine ext_files fun key address => ?_
  rw [Bool.eq_iff_iff, tracks, tracks']

theorem Tracks.file {key : κ} (tracks : index.Tracks elements keyOf)
    (fresh : elements.get? address = none) (keyed : keyOf element = some key) :
    (index.file key address).Tracks (elements.insert address element) keyOf := by
  intro other target
  rw [files_file, tracks, KeyMap.get?_insert]
  by_cases here : target = address
  · subst here
    simp [fresh, keyed, eq_comm]
  · simp [here]

/-- An element whose key is the one its predecessor had needs no change. -/
theorem Tracks.keep {old : Element} (tracks : index.Tracks elements keyOf)
    (found : elements.get? address = some old) (same : keyOf old = keyOf element) :
    index.Tracks (elements.insert address element) keyOf := by
  intro other target
  rw [tracks, KeyMap.get?_insert]
  by_cases here : target = address
  · subst here
    simp [found, same]
  · simp [here]

/-- A new element without a key is not filed. -/
theorem Tracks.skip (tracks : index.Tracks elements keyOf)
    (fresh : elements.get? address = none) (keyless : keyOf element = none) :
    index.Tracks (elements.insert address element) keyOf := by
  intro other target
  rw [tracks, KeyMap.get?_insert]
  by_cases here : target = address
  · subst here
    simp [fresh, keyless]
  · simp [here]

theorem Tracks.erase (tracks : index.Tracks elements keyOf)
    (found : elements.get? address = some element) :
    ((keyOf element).elim index fun key => index.unfile key address).Tracks
      (elements.erase address) keyOf := by
  intro other target
  rw [KeyMap.get?_erase]
  cases keyed : keyOf element with
  | none =>
    rw [Option.elim_none, tracks]
    by_cases here : target = address
    · subst here
      simp [found, keyed]
    · simp [here]
  | some key =>
    rw [Option.elim_some, files_unfile, tracks]
    by_cases here : target = address
    · subst here
      simp [found, keyed, eq_comm]
    · simp [here]

/-- An element that is replaced is filed under its new key instead of the one it had. -/
theorem Tracks.replace {old : Element} {key : κ} (tracks : index.Tracks elements keyOf)
    (found : elements.get? address = some old) (keyed : keyOf element = some key) :
    (((keyOf old).elim index fun key => index.unfile key address).file key address).Tracks
      (elements.insert address element) keyOf := by
  have freed : (elements.erase address).get? address = none := by
    rw [KeyMap.get?_erase, if_pos rfl]
  have same : (elements.erase address).insert address element = elements.insert address element := by
    refine KeyMap.ext_get? fun other => ?_
    rw [KeyMap.get?_insert, KeyMap.get?_insert, KeyMap.get?_erase]
    split <;> rfl
  rw [← same]
  exact (tracks.erase found).file freed keyed

end Index

/-! ### Adjacencies -/

namespace Adjacency

/-- The adjacency has on file, at the chosen end, the edges of a table, but perhaps not those that
wait to be erased. -/
structure Tracks (adjacency : Adjacency) (elements : AddressMap Element) (waiting : List Address)
    (endOf : Address × Address → Address) : Prop where
  sound : ∀ {element type edge}, adjacency.files element type edge = true →
    ∃ source target, elements.get? edge = some ⟨edge, type, .edge source target⟩ ∧
      endOf (source, target) = element
  complete : ∀ {edge type source target},
    elements.get? edge = some ⟨edge, type, .edge source target⟩ → edge ∉ waiting →
      adjacency.files (endOf (source, target)) type edge = true

variable {adjacency : Adjacency} {elements : AddressMap Element} {waiting : List Address}
  {endOf : Address × Address → Address} {address : Address} {element : Element}

theorem Tracks.empty : Adjacency.empty.Tracks .empty waiting endOf where
  sound filed := by simp at filed
  complete found := by simp at found

/-- Where nothing waits, exactly the edges of the table are on file. -/
theorem Tracks.files_iff {place edge : Address} {type : ElementType}
    (tracks : adjacency.Tracks elements [] endOf) : adjacency.files place type edge = true ↔
      ∃ source target, elements.get? edge = some ⟨edge, type, .edge source target⟩ ∧
        endOf (source, target) = place := by
  constructor
  · exact tracks.sound
  · rintro ⟨source, target, found, rfl⟩
    exact tracks.complete found List.not_mem_nil

/-- **The table determines the adjacency that tracks it.** -/
theorem Tracks.unique {other : Adjacency} (tracks : adjacency.Tracks elements [] endOf)
    (tracks' : other.Tracks elements [] endOf) : adjacency = other := by
  refine ext_files fun element type edge => ?_
  rw [Bool.eq_iff_iff, tracks.files_iff, tracks'.files_iff]

/-- The edges at an element are edges of the table with that end. -/
theorem Tracks.exists_of_mem_edgesAt {edge : Address}
    (tracks : adjacency.Tracks elements waiting endOf) (member : edge ∈ adjacency.edgesAt address) :
    ∃ type source target, elements.get? edge = some ⟨edge, type, .edge source target⟩ ∧
      endOf (source, target) = address := by
  obtain ⟨type, filed⟩ := mem_edgesAt_iff.1 member
  exact ⟨type, tracks.sound filed⟩

theorem Tracks.mono {more : List Address} (tracks : adjacency.Tracks elements waiting endOf)
    (included : ∀ edge ∈ waiting, edge ∈ more) : adjacency.Tracks elements more endOf where
  sound := tracks.sound
  complete found notWaiting := tracks.complete found fun member => notWaiting (included _ member)

/-- What is put into the table instead of no edge waits. -/
theorem Tracks.await (tracks : adjacency.Tracks elements waiting endOf)
    (noEdgeBefore : ∀ old, elements.get? address = some old → old.ends? = none) :
    adjacency.Tracks (elements.insert address element) (address :: waiting) endOf where
  sound {place type edge} filed := by
    obtain ⟨source, target, found, same⟩ := tracks.sound filed
    refine ⟨source, target, ?_, same⟩
    have elsewhere : edge ≠ address := by
      rintro rfl
      simpa [Element.ends?] using noEdgeBefore _ found
    rw [KeyMap.get?_insert, if_neg elsewhere, found]
  complete {edge type source target} found notWaiting := by
    obtain ⟨elsewhere, notWaiting⟩ := not_or.1 fun either => notWaiting (List.mem_cons.2 either)
    rw [KeyMap.get?_insert, if_neg elsewhere] at found
    exact tracks.complete found notWaiting

/-- What is no edge need not wait. -/
theorem Tracks.settle (tracks : adjacency.Tracks elements (address :: waiting) endOf)
    (noEdge : ∀ element, elements.get? address = some element → element.ends? = none) :
    adjacency.Tracks elements waiting endOf where
  sound := tracks.sound
  complete {edge type source target} found notWaiting := by
    have elsewhere : edge ≠ address := by
      rintro rfl
      simpa [Element.ends?] using noEdge _ found
    exact tracks.complete found (by simp [elsewhere, notWaiting])

theorem Tracks.file {type : ElementType} {source target : Address}
    (tracks : adjacency.Tracks elements (address :: waiting) endOf)
    (found : elements.get? address = some ⟨address, type, .edge source target⟩) :
    (adjacency.file (endOf (source, target)) type address).Tracks elements waiting endOf where
  sound {place requested edge} filed := by
    rcases files_file.1 filed with ⟨rfl, rfl, rfl⟩ | filed
    · exact ⟨source, target, found, rfl⟩
    · exact tracks.sound filed
  complete {edge requested source' target'} found' notWaiting := by
    by_cases here : edge = address
    · subst here
      rw [found] at found'
      cases found'
      exact files_file.2 (.inl ⟨rfl, rfl, rfl⟩)
    · exact files_file.2 (.inr (tracks.complete found' (by simp [here, notWaiting])))

theorem Tracks.strike (tracks : adjacency.Tracks elements (address :: waiting) endOf)
    (found : elements.get? address = some element) :
    (element.ends?.elim adjacency fun ends =>
      adjacency.unfile (endOf ends) element.type address).Tracks
        (elements.erase address) waiting endOf where
  sound {place type edge} filed := by
    have before : adjacency.files place type edge = true ∧ edge ≠ address := by
      cases ends : element.ends? with
      | none =>
        rw [ends, Option.elim_none] at filed
        refine ⟨filed, ?_⟩
        rintro rfl
        obtain ⟨source, target, found', -⟩ := tracks.sound filed
        rw [found] at found'
        cases found'
        simp [Element.ends?] at ends
      | some ends' =>
        rw [ends, Option.elim_some, files_unfile] at filed
        refine ⟨filed.1, ?_⟩
        rintro rfl
        obtain ⟨source, target, found', same⟩ := tracks.sound filed.1
        rw [found] at found'
        cases found'
        simp only [Element.ends?, Option.some.injEq] at ends
        exact filed.2 ⟨by rw [← ends, same], rfl, rfl⟩
    obtain ⟨source, target, found', same⟩ := tracks.sound before.1
    exact ⟨source, target, by rw [KeyMap.get?_erase, if_neg before.2, found'], same⟩
  complete {edge type source target} found' notWaiting := by
    rw [KeyMap.get?_erase] at found'
    split at found'
    · cases found'
    · rename_i elsewhere
      have filed := tracks.complete found' (by simp [elsewhere, notWaiting])
      cases element.ends? with
      | none => exact filed
      | some ends => exact files_unfile.2 ⟨filed, fun ⟨_, _, here⟩ => elsewhere here⟩

/-- The edges at an element that is forgotten wait. -/
theorem Tracks.detach (tracks : adjacency.Tracks elements waiting endOf)
    {more : List Address} (incident : ∀ edge ∈ adjacency.edgesAt address, edge ∈ more)
    (included : ∀ edge ∈ waiting, edge ∈ more) :
    (adjacency.detach address).Tracks elements more endOf where
  sound filed := tracks.sound (files_detach.1 filed).1
  complete found notWaiting := by
    have filed := tracks.complete found fun member => notWaiting (included _ member)
    refine files_detach.2 ⟨filed, fun here => ?_⟩
    exact notWaiting (incident _ (mem_edgesAt_iff.2 ⟨_, here ▸ filed⟩))

end Adjacency

end SemanticNetwork
