import WasmDeploy.Proofs.Congruence
import WasmDeploy.Proofs.Conversation

/-!
# Operations side by side

Two operations that run side by side from related worlds are coupled if they end in the same way and leave related
worlds, unless the first one ends with a fault that excuses it from that. Composing keeps this. Which worlds are
related is left open. A relation that recording, entering a state and letting a call pass keep is kept by making a
request as well, by whichever way the client reaches the endpoint.
-/

namespace WasmDeploy

variable {σ α β : Type}

namespace Run

/-- Side by side from related worlds, two operations end in the same way and leave related worlds, unless the first
one ends with a fault that is excused. -/
def Coupled (related : World σ → World σ → Prop) (excused : Fault → World σ → Prop)
    (operation operation' : Run σ α) : Prop :=
  ∀ world other, related world other →
    (∃ fault, (operation.outcome world).1 = .error fault ∧ excused fault (operation.outcome world).2) ∨
      (operation'.outcome other).1 = (operation.outcome world).1 ∧
        related (operation.outcome world).2 (operation'.outcome other).2

/-- No fault is excused. -/
def Unexcused (_ : Fault) (_ : World σ) : Prop :=
  False

variable {related : World σ → World σ → Prop} {excused : Fault → World σ → Prop}

theorem coupled_lift (result : Except Fault α) :
    Coupled related excused (liftM result : Run σ α) (liftM result) :=
  fun _ _ relates => Or.inr ⟨rfl, relates⟩

theorem coupled_pure (value : α) :
    Coupled related excused (pure value : Run σ α) (pure value) :=
  coupled_lift (.ok value)

theorem coupled_throw (fault : Fault) :
    Coupled related excused (throw fault : Run σ α) (throw fault) :=
  coupled_lift (.error fault)

theorem coupled_modify {change change' : World σ → World σ}
    (keeps : ∀ world other, related world other → related (change world) (change' other)) :
    Coupled related excused (modify change : Run σ Unit) (modify change') :=
  fun world other relates => Or.inr ⟨rfl, keeps world other relates⟩

theorem coupled_get_bind {next next' : World σ → Run σ α}
    (coupled : ∀ world other, related world other → Coupled related excused (next world) (next' other)) :
    Coupled related excused (get >>= next) (get >>= next') :=
  fun world other relates => coupled world other relates world other relates

theorem coupled_bind {first first' : Run σ α} {next next' : α → Run σ β}
    (coupled : Coupled related excused first first')
    (nextCoupled : ∀ value, Coupled related excused (next value) (next' value)) :
    Coupled related excused (first >>= next) (first' >>= next') := by
  intro world other relates
  have firstEnds := coupled world other relates
  rw [outcome_bind, outcome_bind]
  rcases ending : first.outcome world with ⟨fault | value, middle⟩ <;>
    rcases ending' : first'.outcome other with ⟨result', middle'⟩ <;>
    rw [ending, ending'] at firstEnds
  · rcases firstEnds with ⟨_, ⟨⟩, isExcused⟩ | ⟨rfl, relates⟩
    · exact Or.inl ⟨fault, rfl, isExcused⟩
    · exact Or.inr ⟨rfl, relates⟩
  · rcases firstEnds with ⟨_, ⟨⟩, _⟩ | ⟨rfl, relates⟩
    exact nextCoupled value middle middle' relates

/-! ## Requests -/

/-- A relation between worlds that lets requests be made on both sides: the worlds agree on what a request looks at,
and everything that a request or a tracker changes keeps the relation, except for sleeping. -/
structure Accompanies (related : World σ → World σ → Prop) : Prop where
  horizon : ∀ {world other}, related world other → other.horizon = world.horizon
  posts : ∀ {world other}, related world other → other.posts = world.posts
  endpoint : ∀ {world other}, related world other → other.endpoint = world.endpoint
  record : ∀ {world other}, related world other → ∀ event,
    related (world.record event) (other.record event)
  entering : ∀ {world other}, related world other → ∀ state,
    related (world.entering state) (other.entering state)
  posting : ∀ {world other}, related world other → ∀ posts : Nat,
    related { world with posts } { other with posts }
  answering : ∀ {world other}, related world other → ∀ endpoint : σ,
    related { world with endpoint } { other with endpoint }
  passCall : Coupled related Unexcused passCall passCall

namespace Accompanies

variable (accompanies : Accompanies related)

include accompanies

theorem coupled_record (event : Event) :
    Coupled related excused (Run.record event : Run σ Unit) (Run.record event) :=
  coupled_modify fun _ _ relates => accompanies.record relates event

theorem coupled_log (severity : Severity) (component : Component) (message : Message) :
    Coupled related excused (log severity component message : Run σ Unit)
      (log severity component message) :=
  accompanies.coupled_record _

theorem coupled_enter (state : TrackingState) :
    Coupled related excused (enter state : Run σ Unit) (enter state) :=
  coupled_modify fun _ _ relates => accompanies.entering relates state

theorem coupled_answer (reply : σ → Except Fault α × σ) :
    Coupled related excused (answer reply : Run σ α) (answer reply) := by
  intro world other relates
  change _ ∨ (reply other.endpoint).1 = (reply world.endpoint).1 ∧
    related { world with endpoint := (reply world.endpoint).2 }
      { other with endpoint := (reply other.endpoint).2 }
  rw [accompanies.endpoint relates]
  exact Or.inr ⟨rfl, accompanies.answering relates _⟩

/-- Noting the end of an operation leaves no room for an excuse. -/
theorem coupled_noting {operation operation' : Run σ α} {note : Except Fault α → Event}
    (coupled : Coupled related Unexcused operation operation') :
    Coupled related excused (noting note operation) (noting note operation') := by
  intro world other relates
  rcases coupled world other relates with ⟨_, _, isExcused⟩ | ⟨same, relates⟩
  · exact isExcused.elim
  · refine Or.inr ⟨same, ?_⟩
    change related ((operation.outcome world).2.record (note (operation.outcome world).1))
      ((operation'.outcome other).2.record (note (operation'.outcome other).1))
    rw [same]
    exact accompanies.record relates _

theorem coupled_nextId :
    Coupled related excused (JsonRpc.nextId : Run σ Nat) JsonRpc.nextId := by
  apply coupled_get_bind
  intro world other relates
  rw [accompanies.posts relates]
  apply coupled_bind (coupled_modify fun _ _ relates => accompanies.posting relates _)
  intro _
  exact coupled_pure _

theorem coupled_perform (client : Client σ) (request : Request) :
    Coupled related Unexcused (client.perform request) (client.perform request) := by
  cases client with
  | direct answer =>
      apply coupled_bind accompanies.passCall
      intro _
      exact accompanies.coupled_answer (answer request)
  | http endpoint =>
      apply coupled_bind
      · apply coupled_bind accompanies.coupled_nextId
        intro id
        apply coupled_bind (accompanies.coupled_log _ _ _)
        intro _
        apply coupled_bind (coupled_lift _)
        intro _
        apply coupled_bind (accompanies.coupled_record _)
        intro _
        apply coupled_bind accompanies.passCall
        intro _
        exact accompanies.coupled_answer _
      · intro result
        exact coupled_lift _

theorem coupled_ask (client : Client σ) (request : Request) :
    Coupled related excused (client.ask request) (client.ask request) := by
  apply coupled_bind (accompanies.coupled_record _)
  intro _
  exact accompanies.coupled_noting (accompanies.coupled_perform client request)

/-- Being coupled goes through what tracking is composed of. -/
def composition (excused : Fault → World σ → Prop) : Composition σ where
  related := Coupled related excused
  lift _ := coupled_lift _
  unfinished := coupled_throw _
  log := accompanies.coupled_log
  enter := accompanies.coupled_enter
  get_bind coupled := coupled_get_bind fun world other relates =>
    coupled world other (accompanies.horizon relates)
  bind := coupled_bind

end Accompanies

end Run

end WasmDeploy
