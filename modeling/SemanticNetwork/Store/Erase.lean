/-
**Erasing.** With an element go all edges at it, and the edges at those, to any depth. Elements to
erase wait in a list; each that is still there is taken out, is reported, and puts the edges at it
in front.

* `Store.erase`: erase an element and all that depends on it, with the changes to report and whether
  there was anything to erase;
* `Store.rollback`: erase what was created, and report only what else went with it.
-/
import SemanticNetwork.Change
import SemanticNetwork.Store.Basic

namespace SemanticNetwork.Store

/-- The edges at an element, those that enter it first. -/
def edgesAt (store : Store) (address : Address) : List Address :=
  store.incoming.edgesAt address ++ store.outgoing.edgesAt address

/-- Forget which edges there are at an element. -/
def sever (store : Store) (address : Address) : Store :=
  { store with
    outgoing := store.outgoing.detach address
    incoming := store.incoming.detach address }

/-- Taking out an element of the table makes the table smaller. -/
theorem size_sever_strike_lt {store : Store} {address : Address} {element : Element}
    (found : store.get? address = some element) :
    ((store.strike address element).sever address).elements.size < store.elements.size := by
  have smaller := KeyMap.size_erase_lt found
  unfold strike
  split <;> exact smaller

/-- What an erasure comes to: the store after it, the changes to report, and whether anything was
taken out. -/
structure Erasure where
  store : Store
  changes : List Change
  erasedAny : Bool

/-- The erasure that takes nothing out. -/
def Erasure.none (store : Store) : Erasure := ⟨store, [], false⟩

/-- Erase the elements that wait, and all that depends on them. -/
def cascade (store : Store) : List Address → Erasure
  | [] => .none store
  | address :: waiting =>
    match _ : store.get? address with
    | none => cascade store waiting
    | some element =>
      let struck := store.strike address element
      let rest := cascade (struck.sever address) (struck.edgesAt address ++ waiting)
      ⟨rest.store, element.departure ++ rest.changes, true⟩
termination_by waiting => (store.elements.size, waiting.length)
decreasing_by
  · exact Prod.Lex.right _ (Nat.lt_succ_self _)
  · exact Prod.Lex.left _ _ (size_sever_strike_lt ‹_›)

/-- Erase an element and all that depends on it. The reserved address is never looked for. -/
def erase (store : Store) (address : Address) : Erasure :=
  if address.isValid then store.cascade [address] else .none store

/-- Erase several elements one after another. -/
def eraseAll (store : Store) : List Address → Store × List Change
  | [] => (store, [])
  | address :: rest =>
    let first := store.erase address
    let (after, more) := first.store.eraseAll rest
    (after, first.changes ++ more)

/-- Erase what was created, the last first. Reported is only what else went with it. -/
def rollback (store : Store) (created : List Address) : Store × List Change :=
  let (after, changes) := store.eraseAll created.reverse
  (after, changes.filter fun change => !created.contains change.subject)

end SemanticNetwork.Store
