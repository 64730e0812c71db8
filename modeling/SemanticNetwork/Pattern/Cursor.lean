/-
**Cursors of either length.** A walk over triples or over quintuples, whose rows are lists of
addresses.
-/
import SemanticNetwork.Pattern.Quintuple

namespace SemanticNetwork

/-- A walk over triples or over quintuples. -/
inductive Cursor where
  | triples (cursor : TripleCursor)
  | quintuples (cursor : QuintupleCursor)

namespace Cursor

/-- Whether the pattern can match at all. -/
def isValid : Cursor → Bool
  | triples cursor => cursor.isValid
  | quintuples cursor => cursor.isValid

/-- Go on to the next row, in the store as it stands now. -/
def next (store : Store) : Cursor → Cursor
  | triples cursor => triples (cursor.next store)
  | quintuples cursor => quintuples (cursor.next store)

/-- The current row. -/
def row? : Cursor → Option (List Address)
  | triples cursor => cursor.current.map Triple.toList
  | quintuples cursor => cursor.current.map Quintuple.toList

/-- The address at a position of the current row, or the one that denotes nothing. -/
def get (cursor : Cursor) (position : Nat) : Address :=
  ((cursor.row?.getD [])[position]?).getD .invalid

/-- The rows that remain. -/
def drain (store : Store) : Cursor → List (List Address)
  | triples cursor => (cursor.drain store).map Triple.toList
  | quintuples cursor => (cursor.drain store).map Quintuple.toList

end Cursor

end SemanticNetwork
