import WasmDeploy.World

/-!
# How operations end

This file describes how an operation ends in a world: what it adds to the journal, its result, and the world
that is left. There is one rule for each way of composing operations. A description of a composed operation is
taken apart by these rules and never by looking into the monad.
-/

namespace WasmDeploy

/-- The entries of the journal, the oldest first. -/
def World.entries {σ : Type} (world : World σ) : List Entry :=
  world.journal.toList

@[simp]
theorem World.entries_record {σ : Type} (world : World σ) (event : Event) :
    (world.record event).entries = world.entries ++ [⟨world.now, world.tracking, event⟩] :=
  Array.toList_push

/-- A world without files, on a clock that starts at zero and on which every call takes the same time. -/
def World.steady (latency : Rat) (horizon : Nat) : World Unit where
  files := []
  elapse := fun _ time => time.add? (.exact latency)
  cancellation := none
  horizon
  now := .whole 0
  endpoint := ()
  calls := 0
  sleeps := 0
  posts := 0
  tracking := none
  journal := #[]

namespace Run

variable {σ α β : Type}

/-- How an operation ends in a world: with what result, and in what world. -/
def outcome (operation : Run σ α) (world : World σ) : Except Fault α × World σ :=
  operation.run.run world

theorem outcome_bind (first : Run σ α) (next : α → Run σ β) (world : World σ) :
    (first >>= next).outcome world =
      match first.outcome world with
      | (.ok value, middle) => (next value).outcome middle
      | (.error fault, middle) => (.error fault, middle) := by
  simp only [outcome, bind, ExceptT.bind, ExceptT.mk, ExceptT.run, StateT.bind, StateT.run]
  rcases first world with ⟨_ | value, middle⟩ <;> rfl

theorem outcome_tryCatch (operation : Run σ α) (handler : Fault → Run σ α) (world : World σ) :
    (tryCatch operation handler).outcome world =
      match operation.outcome world with
      | (.ok value, middle) => (.ok value, middle)
      | (.error fault, middle) => (handler fault).outcome middle := by
  simp only [outcome, tryCatch, tryCatchThe, MonadExceptOf.tryCatch, ExceptT.tryCatch, ExceptT.mk,
    ExceptT.run, bind, StateT.bind, StateT.run]
  rcases operation world with ⟨_ | value, middle⟩ <;> rfl

theorem outcome_modify_bind (change : World σ → World σ) (next : Unit → Run σ β) (world : World σ) :
    (modify change >>= next).outcome world = (next ()).outcome (change world) := by
  rw [outcome_bind]
  rfl

theorem outcome_ok_bind (value : α) (next : α → Run σ β) (world : World σ) :
    ((liftM (Except.ok value : Except Fault α) : Run σ α) >>= next).outcome world =
      (next value).outcome world := by
  rw [outcome_bind]
  rfl

theorem outcome_error_bind (fault : Fault) (next : α → Run σ β) (world : World σ) :
    ((liftM (Except.error fault : Except Fault α) : Run σ α) >>= next).outcome world =
      (.error fault, world) := by
  rw [outcome_bind]
  rfl

/-- An operation ends in a world as described: by what it adds to the journal, by its result, and by the
world that it leaves. -/
def Yields (operation : Run σ α) (world : World σ)
    (described : List Entry → Except Fault α → World σ → Prop) : Prop :=
  ∃ added, (operation.outcome world).2.entries = world.entries ++ added ∧
    described added (operation.outcome world).1 (operation.outcome world).2

variable {world : World σ} {described : List Entry → Except Fault α → World σ → Prop}

theorem Yields.mono {operation : Run σ α}
    {weaker : List Entry → Except Fault α → World σ → Prop}
    (yields : operation.Yields world described)
    (weakens : ∀ added result final, described added result final → weaker added result final) :
    operation.Yields world weaker := by
  rcases yields with ⟨added, entries, holds⟩
  exact ⟨added, entries, weakens _ _ _ holds⟩

/-- Two descriptions speak about the same additions to the journal. -/
theorem Yields.and {operation : Run σ α} {other : List Entry → Except Fault α → World σ → Prop}
    (left : operation.Yields world described) (right : operation.Yields world other) :
    operation.Yields world fun added result final =>
      described added result final ∧ other added result final := by
  rcases left with ⟨added, entries, holds⟩
  rcases right with ⟨_, sameEntries, otherHolds⟩
  rw [entries] at sameEntries
  rw [← List.append_cancel_left sameEntries] at otherHolds
  exact ⟨added, entries, holds, otherHolds⟩

/-- Any number of descriptions speak about the same additions to the journal. -/
theorem yields_forall {ι : Type} {operation : Run σ α}
    {each : ι → List Entry → Except Fault α → World σ → Prop} (yields : operation.Yields world described)
    (yieldsEach : ∀ index, operation.Yields world (each index)) :
    operation.Yields world fun added result final => ∀ index, each index added result final := by
  rcases yields with ⟨added, entries, _⟩
  refine ⟨added, entries, ?_⟩
  intro index
  rcases yieldsEach index with ⟨_, sameEntries, holds⟩
  rw [entries] at sameEntries
  rwa [← List.append_cancel_left sameEntries] at holds

theorem yields_pure {value : α} (holds : described [] (.ok value) world) :
    (pure value : Run σ α).Yields world described :=
  ⟨[], (List.append_nil _).symm, holds⟩

theorem yields_throw {fault : Fault} (holds : described [] (.error fault) world) :
    (throw fault : Run σ α).Yields world described :=
  ⟨[], (List.append_nil _).symm, holds⟩

theorem yields_lift {result : Except Fault α} (holds : described [] result world) :
    (liftM result : Run σ α).Yields world described :=
  ⟨[], (List.append_nil _).symm, holds⟩

theorem yields_get {described : List Entry → Except Fault (World σ) → World σ → Prop}
    (holds : described [] (.ok world) world) : (get : Run σ (World σ)).Yields world described :=
  ⟨[], (List.append_nil _).symm, holds⟩

theorem yields_modify {described : List Entry → Except Fault Unit → World σ → Prop}
    {change : World σ → World σ} (same : (change world).entries = world.entries)
    (holds : described [] (.ok ()) (change world)) :
    (modify change : Run σ Unit).Yields world described :=
  ⟨[], same.trans (List.append_nil _).symm, holds⟩

theorem yields_record {described : List Entry → Except Fault Unit → World σ → Prop} {event : Event}
    (holds : described [⟨world.now, world.tracking, event⟩] (.ok ()) (world.record event)) :
    (record event : Run σ Unit).Yields world described :=
  ⟨_, World.entries_record world event, holds⟩

theorem yields_bind {first : Run σ α} {next : α → Run σ β}
    {described : List Entry → Except Fault β → World σ → Prop}
    (yields : first.Yields world fun added result middle =>
      match result with
      | .ok value => (next value).Yields middle fun more => described (added ++ more)
      | .error fault => described added (.error fault) middle) :
    (first >>= next).Yields world described := by
  rcases yields with ⟨added, entries, holds⟩
  rw [Yields, outcome_bind]
  rcases ending : first.outcome world with ⟨_ | value, middle⟩
  · rw [ending] at entries holds
    exact ⟨added, entries, holds⟩
  · rw [ending] at entries holds
    rcases holds with ⟨more, moreEntries, holds⟩
    refine ⟨added ++ more, ?_, holds⟩
    rw [moreEntries, entries, List.append_assoc]

section

variable {described : List Entry → Except Fault β → World σ → Prop}

/-- Reading the world. -/
theorem yields_get_bind {next : World σ → Run σ β} (yields : (next world).Yields world described) :
    (get >>= next).Yields world described :=
  yields_bind (yields_get yields)

/-- Changing the world without a trace in the journal. -/
theorem yields_modify_bind {change : World σ → World σ} {next : Unit → Run σ β}
    (same : (change world).entries = world.entries)
    (yields : (next ()).Yields (change world) described) :
    (modify change >>= next).Yields world described :=
  yields_bind (yields_modify same yields)

/-- Recording an event. -/
theorem yields_record_bind {event : Event} {next : Unit → Run σ β}
    (yields : (next ()).Yields (world.record event) fun more =>
      described (⟨world.now, world.tracking, event⟩ :: more)) :
    (record event >>= next).Yields world described :=
  yields_bind (yields_record yields)

/-- Computing a value that there may not be. -/
theorem yields_lift_bind {result : Except Fault α} {next : α → Run σ β}
    (failed : ∀ fault, result = .error fault → described [] (.error fault) world)
    (went : ∀ value, result = .ok value → (next value).Yields world described) :
    (liftM result >>= next).Yields world described := by
  apply yields_bind
  apply yields_lift
  cases result with
  | error fault => exact failed fault rfl
  | ok value => exact went value rfl

end

theorem yields_tryCatch {operation : Run σ α} {handler : Fault → Run σ α}
    (yields : operation.Yields world fun added result middle =>
      match result with
      | .ok value => described added (.ok value) middle
      | .error fault => (handler fault).Yields middle fun more => described (added ++ more)) :
    (tryCatch operation handler).Yields world described := by
  rcases yields with ⟨added, entries, holds⟩
  rw [Yields, outcome_tryCatch]
  rcases ending : operation.outcome world with ⟨_ | value, middle⟩
  · rw [ending] at entries holds
    rcases holds with ⟨more, moreEntries, holds⟩
    refine ⟨added ++ more, ?_, holds⟩
    rw [moreEntries, entries, List.append_assoc]
  · rw [ending] at entries holds
    exact ⟨added, entries, holds⟩

theorem yields_noting {operation : Run σ α} {note : Except Fault α → Event}
    (yields : operation.Yields world fun added result middle =>
      described (added ++ [⟨middle.now, middle.tracking, note result⟩]) result
        (middle.record (note result))) :
    (noting note operation).Yields world described := by
  rcases yields with ⟨added, entries, holds⟩
  refine ⟨_, ?_, holds⟩
  rw [← List.append_assoc, ← entries]
  exact World.entries_record _ _

end Run

end WasmDeploy
