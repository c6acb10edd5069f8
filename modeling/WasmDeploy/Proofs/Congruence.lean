import WasmDeploy.Proofs.Defects
import WasmDeploy.Proofs.Run

/-!
# Relations that composing keeps

Some statements about a deployment hold because every stage of it keeps them, whatever else the stage does. This
file says what a relation between operations has to be kept by for that: the primitives of the world and the ways
of composing. The stages of a deployment are then gone through once for all such relations, be it that one
operation is followed on its own or that the same operation is compared over two clients.
-/

namespace WasmDeploy

variable {σ α β : Type}

/-- Two worlds differ at most in their journals and in how much was posted. -/
def World.Alike (world other : World σ) : Prop :=
  other = { world with posts := other.posts, journal := other.journal }

namespace World.Alike

variable {world other : World σ}

theorem refl (world : World σ) : world.Alike world := rfl

theorem surroundings (alike : world.Alike other) : other.toSurroundings = world.toSurroundings :=
  alike ▸ rfl

theorem now (alike : world.Alike other) : other.now = world.now := alike ▸ rfl

theorem calls (alike : world.Alike other) : other.calls = world.calls := alike ▸ rfl

theorem tracking (alike : world.Alike other) : other.tracking = world.tracking := alike ▸ rfl

theorem sleeps (alike : world.Alike other) : other.sleeps = world.sleeps := alike ▸ rfl

theorem endpoint (alike : world.Alike other) : other.endpoint = world.endpoint := alike ▸ rfl

theorem isCancelled (alike : world.Alike other) : other.isCancelled = world.isCancelled := alike ▸ rfl

end World.Alike

namespace Run

/-- An operation ends with no value but those that are ensured. -/
def Ensures (operation : Run σ α) (ensured : α → Prop) : Prop :=
  ∀ world value, (operation.outcome world).1 = .ok value → ensured value

theorem Yields.and_ensures {operation : Run σ α} {world : World σ} {ensured : α → Prop}
    {described : List Entry → Except Fault α → World σ → Prop}
    (yields : operation.Yields world described) (ensures : operation.Ensures ensured) :
    operation.Yields world fun added result final =>
      described added result final ∧ ∀ value, result = .ok value → ensured value := by
  rcases yields with ⟨added, entries, holds⟩
  exact ⟨added, entries, holds, ensures world⟩

/-- What follows an operation may rely on what the operation ensures of its value. -/
theorem ensures_bind_of_ensures {first : Run σ α} {next : α → Run σ β} {middle : α → Prop}
    {ensured : β → Prop} (ensures : first.Ensures middle)
    (nextEnsures : ∀ value, middle value → (next value).Ensures ensured) :
    (first >>= next).Ensures ensured := by
  intro world value ends
  rw [outcome_bind] at ends
  rcases ending : first.outcome world with ⟨_ | found, other⟩
  · rw [ending] at ends
    cases ends
  · rw [ending] at ends
    exact nextEnsures found (ensures world found (by rw [ending])) other value ends

/-- An operation ensures whatever its last part does. -/
theorem ensures_bind {first : Run σ α} {next : α → Run σ β} {ensured : β → Prop}
    (ensures : ∀ value, (next value).Ensures ensured) : (first >>= next).Ensures ensured :=
  ensures_bind_of_ensures (fun _ _ _ => trivial) fun value (_ : True) => ensures value

theorem ensures_lift_bind {result : Except Fault α} {next : α → Run σ β} {ensured : β → Prop}
    (ensures : ∀ value, result = .ok value → (next value).Ensures ensured) :
    (liftM result >>= next).Ensures ensured := by
  cases result with
  | error fault =>
      intro world value ends
      rw [outcome_error_bind] at ends
      cases ends
  | ok value =>
      intro world value' ends
      rw [outcome_ok_bind] at ends
      exact ensures value rfl world value' ends

/-- A change of the world that leaves alone the journal and the count of posts and does not depend on them. -/
structure Unposted (change : World σ → World σ) : Prop where
  entries : ∀ world, (change world).entries = world.entries
  posts : ∀ world, (change world).posts = world.posts
  alike : ∀ world other, world.Alike other → (change world).Alike (change other)

theorem unposted_entering (state : TrackingState) :
    Unposted fun world : World σ => world.entering state where
  entries _ := rfl
  posts _ := rfl
  alike world other alike := by
    rw [alike]
    rfl

theorem unposted_afterSleep (finish : Measure) :
    Unposted fun world : World σ => world.afterSleep finish where
  entries _ := rfl
  posts _ := rfl
  alike world other alike := by
    rw [alike]
    rfl

/-- A relation between operations that goes through what tracking is composed of: computations that begin no failure,
log records, states of the tracker, looks at the horizon, and one operation after another. -/
structure Composition (σ : Type) where
  related {α : Type} : Run σ α → Run σ α → Prop
  lift {α : Type} {result : Except Fault α} (defects : OnlyDefects result) :
    related (liftM result) (liftM result)
  unfinished {α : Type} : related (throw .unfinished : Run σ α) (throw .unfinished)
  log (severity : Severity) (component : Component) (message : Message) :
    related (Run.log severity component message) (Run.log severity component message)
  enter (state : TrackingState) : related (Run.enter state) (Run.enter state)
  get_bind {α : Type} {next next' : World σ → Run σ α}
    (relates : ∀ world other, other.horizon = world.horizon → related (next world) (next' other)) :
    related (get >>= next) (get >>= next')
  bind {α β : Type} {first first' : Run σ α} {next next' : α → Run σ β}
    (relates : related first first') (nextRelates : ∀ value, related (next value) (next' value)) :
    related (first >>= next) (first' >>= next')

namespace Composition

variable (composition : Composition σ)

theorem pure (value : α) : composition.related (Pure.pure value) (Pure.pure value) :=
  composition.lift (.ok value)

theorem repeatUntil {step step' : α → Run σ (α ⊕ β)}
    (relates : ∀ start, composition.related (step start) (step' start)) (times : Nat) (start : α) :
    composition.related (Run.repeatUntil step times start) (Run.repeatUntil step' times start) := by
  induction times generalizing start with
  | zero => exact composition.unfinished
  | succ times ih =>
      apply composition.bind (relates start)
      rintro (next | value)
      · exact ih next
      · exact composition.pure value

end Composition

/-- A relation between operations that every way of composing them keeps. Failures of a kind may be passed on but
are not begun. -/
structure Congruence (σ : Type) (kind : Failure → Prop) where
  related {α : Type} : Run σ α → Run σ α → Prop
  pure {α : Type} (value : α) : related (Pure.pure value) (Pure.pure value)
  throw {α : Type} {fault : Fault} (other : ¬fault.IsOf kind) :
    related (MonadExcept.throw fault : Run σ α) (MonadExcept.throw fault)
  log (severity : Severity) (component : Component) (message : Message) :
    related (Run.log severity component message) (Run.log severity component message)
  recordSleep (duration : Measure) :
    related (Run.record (.sleep duration)) (Run.record (.sleep duration))
  modify {change : World σ → World σ} (unposted : Unposted change) :
    related (modify change) (modify change)
  get_bind {α : Type} {next next' : World σ → Run σ α}
    (relates : ∀ world other, world.Alike other → related (next world) (next' other)) :
    related (get >>= next) (get >>= next')
  bind_of_ensures {α β : Type} {first first' : Run σ α} {next next' : α → Run σ β}
    (ensured : α → Prop) (relates : related first first') (ensures : first.Ensures ensured)
    (nextRelates : ∀ value, ensured value → related (next value) (next' value)) :
    related (first >>= next) (first' >>= next')
  tryCatch {α : Type} {operation operation' : Run σ α} {change : Fault → Fault}
    (relates : related operation operation')
    (keeps : ∀ fault, (change fault).IsOf kind → fault.IsOf kind) :
    related (MonadExcept.tryCatch operation fun fault => MonadExcept.throw (change fault))
      (MonadExcept.tryCatch operation' fun fault => MonadExcept.throw (change fault))

namespace Congruence

variable {kind : Failure → Prop} (congruence : Congruence σ kind)

theorem bind {first first' : Run σ α} {next next' : α → Run σ β}
    (relates : congruence.related first first')
    (nextRelates : ∀ value, congruence.related (next value) (next' value)) :
    congruence.related (first >>= next) (first' >>= next') :=
  congruence.bind_of_ensures (fun _ => True) relates (fun _ _ _ => trivial)
    fun value _ => nextRelates value

theorem enter (state : TrackingState) :
    congruence.related (Run.enter state) (Run.enter state) :=
  congruence.modify (unposted_entering state)

/-- A computation may end with any fault that is not of the kind. -/
theorem lift {result : Except Fault α} (avoids : Avoids kind result) :
    congruence.related (liftM result) (liftM result) := by
  cases result with
  | ok value => exact congruence.pure value
  | error fault => exact congruence.throw (avoids fault rfl)

/-- What follows a computation may rely on the value that it has. -/
theorem lift_bind {result : Except Fault α} {next next' : α → Run σ β} (avoids : Avoids kind result)
    (nextRelates : ∀ value, result = .ok value → congruence.related (next value) (next' value)) :
    congruence.related (liftM result >>= next) (liftM result >>= next') := by
  apply congruence.bind_of_ensures (fun value => result = .ok value) (congruence.lift avoids)
  · exact fun _ _ ends => ends
  · exact nextRelates

/-- What every way of composing keeps goes through what tracking is composed of. -/
def composition : Composition σ where
  related := congruence.related
  lift defects := congruence.lift (.of_onlyDefects defects)
  unfinished := congruence.throw (by simp [Fault.IsOf])
  log := congruence.log
  enter := congruence.enter
  get_bind relates := congruence.get_bind fun world other alike =>
    relates world other (congrArg Surroundings.horizon alike.surroundings)
  bind := congruence.bind

end Congruence

end Run

end WasmDeploy
