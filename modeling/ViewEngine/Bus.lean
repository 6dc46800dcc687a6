/-!
A topic bus: subscriptions in the order they were made, each with a topic and a number. An
emission goes to the subscribers of its topic as they stood when it began; removing a subscription
takes out only that one.
-/

namespace ViewEngine

/-- A subscription to a topic. -/
structure Subscription (S : Type) where
  /-- The topic. -/
  topic : String
  /-- The number given at subscription. -/
  id : Nat
  /-- Who receives the deliveries. -/
  subscriber : S
  deriving Inhabited

/-- A bus with subscribers of type `S`. -/
structure Bus (S : Type) where
  /-- The last number given out. -/
  next : Nat
  /-- The subscriptions, oldest first. -/
  subs : List (Subscription S)
  deriving Inhabited

namespace Bus

variable {S : Type}

/-- The bus with no subscriptions. -/
def empty : Bus S := ⟨0, []⟩

/-- Subscribes to a topic, returning the subscription's number. -/
def subscribe (b : Bus S) (topic : String) (s : S) : Bus S × Nat :=
  let id := b.next + 1
  (⟨id, b.subs ++ [⟨topic, id, s⟩]⟩, id)

/-- Removes the subscription with a number on a topic. -/
def remove (b : Bus S) (topic : String) (id : Nat) : Bus S :=
  { b with subs := b.subs.filter (fun s => !(s.topic == topic && s.id == id)) }

/-- The subscribers of a topic, oldest first. -/
def subscribers (b : Bus S) (topic : String) : List S :=
  (b.subs.filter (fun s => s.topic == topic)).map Subscription.subscriber

/-- How many subscriptions a topic has. -/
def count (b : Bus S) (topic : String) : Nat := (b.subscribers topic).length

theorem count_subscribe (b : Bus S) (topic : String) (s : S) :
    (b.subscribe topic s).1.count topic = b.count topic + 1 := by
  -- The new subscription is the last one of its topic.
  simp [subscribe, count, subscribers, List.filter_append]

end Bus

end ViewEngine
