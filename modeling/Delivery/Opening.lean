import Delivery.Courier
import Delivery.Registry
import Delivery.DeadLetter.Memory
import Delivery.Relational.Store
import Delivery.Settings.Courier

/-!
# Opening a courier

The settings say how calls are retried, which breakers there are, and where dead letters are kept.
In memory there is no retention plan; a database is connected first, and its settings have the plan.
-/

namespace Delivery

variable {m : Type → Type} [Monad m]

def MemoryStore.keeping (now : Instant) : Store (StateM MemoryStore) where
  serve request s :=
    let (reply, s) := MemoryStore.serve now request s
    (.ok reply, s)

namespace DeadLetterQueue

/-- A queue in memory without a handler, where time stands still and nothing is broken off. -/
def inMemory (now : Timestamp) : DeadLetterQueue (StateM MemoryStore) where
  store := MemoryStore.keeping 0
  handler := none
  plan := none
  newId := return ⟨0⟩
  wallClock := return now
  claims := ⟨fun _ => return (), fun _ => return (), fun _ => return ()⟩

def ofSettings (connector : Connector m) (memory : DeadLetterQueue m) :
    DeadLetterSettings → ExceptT DeadLetterError m (DeadLetterQueue m)
  | .memory => return memory
  | .database s => do
    ExceptT.mk (pure s.validate)
    let (store, connection) ← RelationalStore.connect connector s
    return { memory with
      store := store.toStore connection
      plan := some ⟨s.retention, s.purgeInterval⟩ }

end DeadLetterQueue

structure CourierParts (m : Type → Type) (listener : Type) where
  retry : RetryPolicy
  breakers : Registry listener
  deadLetters : DeadLetterQueue m

/-- Opens what settings describe: first the retry policy, then the breakers, then the queue. -/
def CourierSettings.openParts {listener : Type} (connector : Connector m)
    (memory : DeadLetterQueue m) (s : CourierSettings) :
    ExceptT DeliveryError m (CourierParts m listener) := do
  let retry ← ExceptT.mk (pure ((RetryPolicy.ofSettings s.retry).mapError .settings))
  let breakers ← ExceptT.mk (pure ((Registry.create s.breakers).mapError .registry))
  let deadLetters ← ExceptT.mk do
    return (← (DeadLetterQueue.ofSettings connector memory s.deadLetters).run).mapError .deadLetter
  return { retry, breakers, deadLetters }

end Delivery
