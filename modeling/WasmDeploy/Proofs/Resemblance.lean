import WasmDeploy.Proofs.Congruence
import WasmDeploy.Proofs.Conversation

/-!
# Operations that resemble each other

Two operations resemble each other if they do the same apart from what they log: from worlds that differ in log
records at most they end in the same way, and in worlds that differ in log records at most. Composing keeps that. Where
two loops carry different values from turn to turn, it is enough that these keep matching each other.
-/

namespace WasmDeploy

variable {σ α α' β β' : Type}

/-- Two worlds differ at most in what was logged. -/
structure World.Resembles (world other : World σ) : Prop where
  alike : world.Alike other
  posts : other.posts = world.posts
  acts : actsOf other.entries = actsOf world.entries

namespace World.Resembles

variable {world other : World σ}

theorem refl (world : World σ) : world.Resembles world :=
  ⟨.refl world, rfl, rfl⟩

theorem record (resembles : world.Resembles other) (event : Event) :
    (world.record event).Resembles (other.record event) where
  alike := by
    rw [resembles.alike]
    rfl
  posts := resembles.posts
  acts := by
    rw [entries_record, entries_record, actsOf_append, actsOf_append, resembles.acts,
      resembles.alike.now, resembles.alike.tracking]

/-- What is logged on the two sides need not be the same. -/
theorem log (resembles : world.Resembles other) (severity : Severity) (component : Component)
    (message message' : Message) :
    (world.record (.log severity component message)).Resembles
      (other.record (.log severity component message')) where
  alike := by
    rw [resembles.alike]
    rfl
  posts := resembles.posts
  acts := by rw [actsOf_record_log, actsOf_record_log, resembles.acts]

end World.Resembles

/-- Two results are the same fault, or values that match. -/
inductive Matched (accords : α → α' → Prop) : Except Fault α → Except Fault α' → Prop where
  | ok {value : α} {value' : α'} (accord : accords value value') :
      Matched accords (.ok value) (.ok value')
  | error (fault : Fault) : Matched accords (.error fault) (.error fault)

theorem Matched.eq {result result' : Except Fault α} (isMatched : Matched Eq result result') :
    result = result' := by
  cases isMatched with
  | ok accord => rw [accord]
  | error fault => rfl

theorem Matched.refl (result : Except Fault α) : Matched Eq result result := by
  cases result with
  | error fault => exact .error fault
  | ok value => exact .ok rfl

namespace Run

/-- Two operations do the same apart from what they log, and end with the same fault or with values that match. -/
def Resembles (accords : α → α' → Prop) (operation : Run σ α) (operation' : Run σ α') : Prop :=
  ∀ world other : World σ, world.Resembles other →
    Matched accords (operation.outcome world).1 (operation'.outcome other).1 ∧
      (operation.outcome world).2.Resembles (operation'.outcome other).2

variable {accords : α → α' → Prop} {accordsNext : β → β' → Prop}

theorem resembles_lift {result : Except Fault α} {result' : Except Fault α'}
    (isMatched : Matched accords result result') :
    Resembles accords (liftM result : Run σ α) (liftM result') :=
  fun _ _ resembles => ⟨isMatched, resembles⟩

theorem resembles_pure {value : α} {value' : α'} (accord : accords value value') :
    Resembles accords (pure value : Run σ α) (pure value') :=
  resembles_lift (.ok accord)

theorem resembles_throw (fault : Fault) :
    Resembles accords (throw fault : Run σ α) (throw fault) :=
  resembles_lift (.error fault)

theorem resembles_record (event : Event) :
    Resembles Eq (record event : Run σ Unit) (record event) :=
  fun _ _ resembles => ⟨.ok rfl, resembles.record event⟩

theorem resembles_log (severity : Severity) (component : Component) (message message' : Message) :
    Resembles Eq (log severity component message : Run σ Unit) (log severity component message') :=
  fun _ _ resembles => ⟨.ok rfl, resembles.log severity component message message'⟩

theorem resembles_modify {change : World σ → World σ}
    (resembles : ∀ world other, world.Resembles other → (change world).Resembles (change other)) :
    Resembles Eq (modify change : Run σ Unit) (modify change) :=
  fun world other same => ⟨.ok rfl, resembles world other same⟩

theorem resembles_get_bind {next : World σ → Run σ α} {next' : World σ → Run σ α'}
    (resembles : ∀ world other, world.Resembles other → Resembles accords (next world) (next' other)) :
    Resembles accords (get >>= next) (get >>= next') :=
  fun world other same => resembles world other same world other same

/-- What follows an operation may rely on what the operation ensures of its value. -/
theorem resembles_bind_of_ensures {first : Run σ α} {first' : Run σ α'} {next : α → Run σ β}
    {next' : α' → Run σ β'} (ensured : α → Prop) (resembles : Resembles accords first first')
    (ensures : first.Ensures ensured)
    (nextResembles : ∀ value value', accords value value' → ensured value →
      Resembles accordsNext (next value) (next' value')) :
    Resembles accordsNext (first >>= next) (first' >>= next') := by
  intro world other same
  rcases resembles world other same with ⟨isMatched, middle⟩
  rw [outcome_bind, outcome_bind]
  have ensuredHere := ensures world
  generalize first.outcome world = ended at isMatched middle ensuredHere ⊢
  generalize first'.outcome other = ended' at isMatched middle ⊢
  rcases ended with ⟨result, final⟩
  rcases ended' with ⟨result', final'⟩
  dsimp only at isMatched middle ensuredHere
  cases isMatched with
  | ok accord => exact nextResembles _ _ accord (ensuredHere _ rfl) final final' middle
  | error fault => exact ⟨.error fault, middle⟩

theorem resembles_bind {first : Run σ α} {first' : Run σ α'} {next : α → Run σ β}
    {next' : α' → Run σ β'} (resembles : Resembles accords first first')
    (nextResembles : ∀ value value', accords value value' →
      Resembles accordsNext (next value) (next' value')) :
    Resembles accordsNext (first >>= next) (first' >>= next') :=
  resembles_bind_of_ensures (fun _ => True) resembles (fun _ _ _ => trivial)
    fun value value' accord _ => nextResembles value value' accord

theorem resembles_noting {operation operation' : Run σ α} {note : Except Fault α → Event}
    (resembles : Resembles Eq operation operation') :
    Resembles Eq (noting note operation) (noting note operation') := by
  intro world other same
  rcases resembles world other same with ⟨isMatched, middle⟩
  refine ⟨isMatched, ?_⟩
  change ((operation.outcome world).2.record (note (operation.outcome world).1)).Resembles
    ((operation'.outcome other).2.record (note (operation'.outcome other).1))
  rw [isMatched.eq]
  exact middle.record _

theorem resembles_tryCatch {operation operation' : Run σ α} {change : Fault → Fault}
    (resembles : Resembles Eq operation operation') :
    Resembles Eq (tryCatch operation fun fault => throw (change fault))
      (tryCatch operation' fun fault => throw (change fault)) := by
  intro world other same
  rcases resembles world other same with ⟨isMatched, middle⟩
  rw [outcome_tryCatch, outcome_tryCatch]
  generalize operation.outcome world = ended at isMatched middle ⊢
  generalize operation'.outcome other = ended' at isMatched middle ⊢
  rcases ended with ⟨result, final⟩
  rcases ended' with ⟨result', final'⟩
  dsimp only at isMatched middle
  cases isMatched with
  | ok accord => exact ⟨.ok accord, middle⟩
  | error fault => exact ⟨.error (change fault), middle⟩

/-- Two loops resemble each other if what they carry from turn to turn keeps matching. -/
theorem resembles_repeatUntil {step : α → Run σ (α ⊕ β)} {step' : α' → Run σ (α' ⊕ β)}
    (resembles : ∀ start start', accords start start' →
      Resembles (Sum.LiftRel accords Eq) (step start) (step' start')) (times : Nat) {start : α}
    {start' : α'} (accord : accords start start') :
    Resembles Eq (repeatUntil step times start) (repeatUntil step' times start') := by
  induction times generalizing start start' with
  | zero => exact resembles_throw .unfinished
  | succ times ih =>
      apply resembles_bind (resembles start start' accord)
      intro next next' accord
      cases accord with
      | inl accord => exact ih accord
      | inr same => exact resembles_pure same

/-- Resembling is kept by every way of composing operations. -/
def resembling (σ : Type) : Congruence σ fun _ => False where
  related := Resembles Eq
  pure _ := resembles_pure rfl
  throw _ := resembles_throw _
  log severity component message := resembles_log severity component message message
  recordSleep _ := resembles_record _
  modify unposted := resembles_modify fun world other same =>
    ⟨unposted.alike world other same.alike, by rw [unposted.posts, unposted.posts, same.posts],
      by rw [unposted.entries, unposted.entries, same.acts]⟩
  get_bind relates := resembles_get_bind fun world other same => relates world other same.alike
  bind_of_ensures ensured relates ensures nextRelates :=
    resembles_bind_of_ensures ensured relates ensures fun value _ same isEnsured =>
      same ▸ nextRelates value isEnsured
  tryCatch relates _ := resembles_tryCatch relates

/-! ## Requests -/

theorem resembles_passCall : Resembles Eq (passCall : Run σ Unit) passCall := by
  apply resembles_get_bind
  intro world other same
  rw [same.alike.surroundings, same.alike.calls, same.alike.now]
  apply resembles_bind (resembles_lift (.refl _))
  rintro finish _ rfl
  apply resembles_modify
  rintro world other ⟨alike, posts, acts⟩
  refine ⟨?_, posts, acts⟩
  rw [alike]
  rfl

theorem resembles_answer (reply : σ → Except Fault α × σ) :
    Resembles Eq (answer reply : Run σ α) (answer reply) := by
  rintro world other ⟨alike, posts, acts⟩
  change Matched Eq (reply world.endpoint).1 (reply other.endpoint).1 ∧
    World.Resembles { world with endpoint := (reply world.endpoint).2 }
      { other with endpoint := (reply other.endpoint).2 }
  rw [alike.endpoint]
  refine ⟨.refl _, ?_, posts, acts⟩
  rw [alike]
  rfl

theorem resembles_nextId : Resembles Eq (JsonRpc.nextId : Run σ Nat) JsonRpc.nextId := by
  apply resembles_get_bind
  intro world other same
  rw [same.posts]
  apply resembles_bind
  · apply resembles_modify
    rintro world other ⟨alike, posts, acts⟩
    refine ⟨?_, rfl, acts⟩
    rw [alike]
    rfl
  · intro _ _ _
    exact resembles_pure rfl

end Run

namespace Client

open Run

theorem resembles_perform (client : Client σ) (request : Request) :
    Resembles Eq (client.perform request) (client.perform request) := by
  cases client with
  | direct answer =>
      apply resembles_bind resembles_passCall
      intro _ _ _
      exact resembles_answer (answer request)
  | http endpoint =>
      apply resembles_bind
      · apply resembles_bind resembles_nextId
        rintro id _ rfl
        apply resembles_bind (resembles_log _ _ _ _)
        intro _ _ _
        apply resembles_bind (resembles_lift (.refl _))
        intro _ _ _
        apply resembles_bind (resembles_record _)
        intro _ _ _
        apply resembles_bind resembles_passCall
        intro _ _ _
        exact resembles_answer _
      · rintro result _ rfl
        exact resembles_lift (.refl _)

/-- Making a request does the same whatever was logged before. -/
theorem resembles_ask (client : Client σ) (request : Request) :
    Resembles Eq (client.ask request) (client.ask request) := by
  apply resembles_bind (resembles_record _)
  intro _ _ _
  exact resembles_noting (client.resembles_perform request)

end Client

end WasmDeploy
