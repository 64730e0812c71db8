/-
**Reports.** One line that shows the state of a store, a memory, its events, a subscription or a
context: a name, and fields with their values between braces.

* `Report.record`: the form of all reports.
-/
import SemanticNetwork.Memory.Basic
import SemanticNetwork.Text.Quoted

namespace SemanticNetwork.Report

/-- A name, and fields with their values between braces. -/
def record (name : String) (fields : List (String × String)) : String :=
  name ++ " \x7b " ++
    ", ".intercalate (fields.map fun (field, value) => field ++ ": " ++ value) ++ " \x7d"

/-- Values between brackets. -/
def list (values : List String) : String := "[" ++ ", ".intercalate values ++ "]"

/-- An address. -/
def address (address : Address) : String := "Addr(" ++ toString address.value ++ ")"

/-- How many elements of each kind there are. -/
def counts (counts : Store.Counts) : String :=
  record "StoreStats"
    [("nodes", toString counts.nodes), ("edges", toString counts.edges),
      ("links", toString counts.links)]

/-- The elements of a network, and the number of its observers. -/
def store (network : Network) : String :=
  record "Store"
    [("stats", counts network.store.counts), ("sinks", toString network.observers.length)]

/-- How a memory is set up. -/
def settings (settings : Settings) : String :=
  record "MemoryConfig"
    [("event_queue_capacity", toString settings.queueCapacity),
      ("enqueue_timeout_ms", toString settings.enqueueTimeout),
      ("dispatch", settings.dispatch.name),
      ("keynodes", list (settings.keynodes.map Text.shown))]

/-- How a memory is set up, and what is in it. -/
def memory (memory : Memory) : String :=
  record "Memory"
    [("config", settings memory.settings), ("stats", counts memory.network.store.counts),
      ("keynodes", toString memory.keynodes.length)]

/-- What waits in the queue, and what has been delivered and dropped. -/
def events (hub : EventHub) : String :=
  record "EventManager"
    [("mode", hub.mode.name), ("queued", toString hub.queue.length),
      ("stats", record "EventStats"
        [("delivered", toString hub.delivered), ("dropped", toString hub.dropped),
          ("subscriptions", toString hub.subscriptionCount)])]

/-- What a subscription waits for. -/
def subscription (subscription : Subscription) : String :=
  record "Subscription"
    [("id", toString subscription.number), ("subject", address subscription.subject),
      ("kind", subscription.kind.name), ("state", subscription.state.name)]

/-- The name of a context. -/
def context (name : String) : String := record "MemoryContext" [("name", Text.shown name)]

end SemanticNetwork.Report
