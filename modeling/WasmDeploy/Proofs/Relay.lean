import WasmDeploy.Proofs.Congruence
import WasmDeploy.Proofs.Conversation

/-!
# Where faults come from

This file follows the faults of an endpoint through the operations that talk to it. An operation relays failures
of some kind if it makes no request after one that failed and ends with a failure of the kind only if a request
has failed with one. Every way of composing operations keeps this.
-/

namespace WasmDeploy

/-- A conversation in which no request but the last one can have failed. -/
def Unbroken (exchanges : List Exchange) : Prop :=
  ∀ exchange ∈ exchanges.dropLast, exchange.isAnswered = true

/-- The end of an operation that hears the end of each request it makes, makes none after a failed one, posts
nothing but its requests, and ends with a failure of a kind only if a request has failed with one. -/
structure Relayed {α : Type} (kind : Failure → Prop) (added : List Entry)
    (result : Except Fault α) : Prop where
  paired : requestsOf added = (exchangesOf added).map Exchange.request
  unbroken : Unbroken (exchangesOf added)
  answered : ∀ value, result = .ok value →
    ∀ exchange ∈ exchangesOf added, exchange.isAnswered = true
  posts : ∀ body ∈ postsOf added, ∃ request ∈ requestsOf added, ∃ id, body =
    JsonRpc.callBody (JsonRpc.methodOf request) (.list (JsonRpc.parametersOf request)) id
  origin : ∀ fault, result = .error fault → fault.IsOf kind →
    ∃ request raised, raised.IsOf kind ∧ ⟨request, .error raised⟩ ∈ exchangesOf added

namespace Relayed

variable {α β : Type} {kind : Failure → Prop} {first second : List Entry}

theorem ok (silent : Silent first) (noPosts : postsOf first = []) (value : α) :
    Relayed kind first (.ok value : Except Fault α) where
  paired := by simp [silent.requests, silent.exchanges]
  unbroken := by simp [silent.exchanges, Unbroken]
  answered := by simp [silent.exchanges]
  posts := by simp [noPosts]
  origin := by simp

theorem error (silent : Silent first) (noPosts : postsOf first = []) {fault : Fault}
    (other : ¬fault.IsOf kind) :
    Relayed kind first (.error fault : Except Fault α) where
  paired := by simp [silent.requests, silent.exchanges]
  unbroken := by simp [silent.exchanges, Unbroken]
  answered := by simp
  posts := by simp [noPosts]
  origin := by
    rintro _ ⟨⟩ isKind
    exact absurd isKind other

/-- What an operation says after another one that ended with a value. -/
theorem append {value : α} {result : Except Fault β} (left : Relayed kind first (.ok value : Except Fault α))
    (right : Relayed kind second result) : Relayed kind (first ++ second) result where
  paired := by simp [left.paired, right.paired]
  unbroken := by
    intro exchange mem
    rw [exchangesOf_append, List.dropLast_append] at mem
    split at mem
    · exact left.answered value rfl exchange (List.dropLast_subset _ mem)
    · rcases List.mem_append.mp mem with inFirst | inSecond
      · exact left.answered value rfl exchange inFirst
      · exact right.unbroken exchange inSecond
  answered := by
    intro value' ends exchange mem
    rw [exchangesOf_append] at mem
    rcases List.mem_append.mp mem with inFirst | inSecond
    · exact left.answered value rfl exchange inFirst
    · exact right.answered value' ends exchange inSecond
  posts := by
    intro body mem
    rw [requestsOf_append]
    rw [postsOf_append] at mem
    rcases List.mem_append.mp mem with inFirst | inSecond
    · rcases left.posts body inFirst with ⟨request, made, carried⟩
      exact ⟨request, List.mem_append_left _ made, carried⟩
    · rcases right.posts body inSecond with ⟨request, made, carried⟩
      exact ⟨request, List.mem_append_right _ made, carried⟩
  origin := by
    intro fault ends isKind
    rcases right.origin fault ends isKind with ⟨request, raised, isKind, mem⟩
    rw [exchangesOf_append]
    exact ⟨request, raised, isKind, List.mem_append_right _ mem⟩

/-- A fault may be replaced by one that is of the kind only if the replaced one is. -/
theorem replace {fault other : Fault} (relayed : Relayed kind first (.error fault : Except Fault α))
    (keeps : other.IsOf kind → fault.IsOf kind) : Relayed kind first (.error other : Except Fault β) where
  paired := relayed.paired
  unbroken := relayed.unbroken
  answered := by simp
  posts := relayed.posts
  origin := by
    rintro _ ⟨⟩ isKind
    exact relayed.origin fault rfl (keeps isKind)

end Relayed

namespace Run

variable {σ α β : Type} {kind : Failure → Prop}

/-- An operation makes no request after one that failed, and ends with a failure of a kind only if a request has
failed with one. -/
def Relays (kind : Failure → Prop) (operation : Run σ α) : Prop :=
  ∀ world, operation.Yields world fun added result _ => Relayed kind added result

theorem relays_pure (value : α) : Relays kind (pure value : Run σ α) :=
  fun _ => yields_pure (Relayed.ok .nil rfl value)

theorem relays_throw {fault : Fault} (other : ¬fault.IsOf kind) : Relays kind (throw fault : Run σ α) :=
  fun _ => yields_throw (Relayed.error .nil rfl other)

theorem relays_log (severity : Severity) (component : Component) (message : Message) :
    Relays kind (log severity component message : Run σ Unit) :=
  fun world => yields_record (Relayed.ok (.log world.now world.tracking _ _ _) rfl ())

theorem relays_recordSleep (duration : Measure) :
    Relays kind (Run.record (.sleep duration) : Run σ Unit) :=
  fun _ => yields_record ⟨rfl, by simp [Unbroken], by simp, by simp, by simp⟩

theorem relays_ask (client : Client σ) (request : Request) : Relays kind (client.ask request) := by
  intro world
  apply (client.ask_yields request).mono
  intro added result final asked
  refine ⟨by simp [asked.requests, asked.exchanges], by simp [asked.exchanges, Unbroken], ?_, ?_, ?_⟩
  · rintro value rfl exchange mem
    rw [asked.exchanges, List.mem_singleton] at mem
    rw [mem]
    rfl
  · rw [asked.requests]
    intro body mem
    exact ⟨request, List.mem_singleton_self _, asked.posts body mem⟩
  · rintro fault rfl isKind
    rw [asked.exchanges]
    exact ⟨request, fault, isKind, List.mem_singleton_self _⟩

theorem relays_get_bind {next : World σ → Run σ α} (relays : ∀ world, Relays kind (next world)) :
    Relays kind (get >>= next) :=
  fun world => yields_get_bind (relays world world)

/-- What follows an operation may rely on what the operation ensures of its value. -/
theorem relays_bind_of_ensures {first : Run σ α} {next : α → Run σ β} (ensured : α → Prop)
    (relays : Relays kind first) (ensures : first.Ensures ensured)
    (nextRelays : ∀ value, ensured value → Relays kind (next value)) :
    Relays kind (first >>= next) := by
  intro world
  apply yields_bind
  apply ((relays world).and_ensures ensures).mono
  rintro added (fault | value) middle ⟨relayed, isEnsured⟩
  · exact relayed.replace id
  · apply (nextRelays value (isEnsured value rfl) middle).mono
    intro more result final moreRelayed
    exact relayed.append moreRelayed

/-- A handler may replace a fault, unless that makes it one of the kind. -/
theorem relays_tryCatch {operation : Run σ α} {change : Fault → Fault} (relays : Relays kind operation)
    (keeps : ∀ fault, (change fault).IsOf kind → fault.IsOf kind) :
    Relays kind (tryCatch operation fun fault => throw (change fault)) := by
  intro world
  apply yields_tryCatch
  apply (relays world).mono
  rintro added (fault | value) middle relayed
  · apply yields_throw
    rw [List.append_nil]
    exact relayed.replace (keeps fault)
  · exact relayed

theorem relays_closing {operation : Run σ α} (relays : Relays kind operation) :
    Relays kind (closing operation) := by
  intro world
  apply yields_noting
  apply (relays world).mono
  intro added result middle relayed
  have silent : Silent [⟨middle.now, middle.tracking, .close⟩] := ⟨rfl, rfl, rfl⟩
  cases result with
  | ok value => exact relayed.append (.ok silent rfl value)
  | error fault =>
      have noPosts : postsOf [⟨middle.now, middle.tracking, .close⟩] = [] := rfl
      refine ⟨?_, ?_, by simp, ?_, ?_⟩
      · simpa [silent.requests, silent.exchanges] using relayed.paired
      · simpa [silent.exchanges] using relayed.unbroken
      · simpa [noPosts, silent.requests] using relayed.posts
      · simpa [silent.exchanges] using relayed.origin

/-- Relaying is kept by every way of composing operations. -/
def relaying (σ : Type) (kind : Failure → Prop) : Congruence σ kind where
  related operation _ := Relays kind operation
  pure := relays_pure
  throw := relays_throw
  log := relays_log
  recordSleep := relays_recordSleep
  modify unposted world := yields_modify (unposted.entries world) (Relayed.ok .nil rfl ())
  get_bind relates := relays_get_bind fun world => relates world world (.refl world)
  bind_of_ensures := relays_bind_of_ensures
  tryCatch := relays_tryCatch

end Run

end WasmDeploy
