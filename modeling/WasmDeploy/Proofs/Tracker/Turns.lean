import WasmDeploy.Proofs.Tracker.Track

/-!
# The turns of a phase of tracking

A phase of tracking is a sequence of polls, each of which starts from what the one before it hands on. This file says
so once for every step that is repeated, and says what one turn comes to: what it hears, how often it sleeps, and how
it ends. A turn that is not interrupted either decides or sleeps once.
-/

namespace WasmDeploy

variable {σ α β : Type}

namespace Run

/-- Steps that are repeated until one of them ends with a value or a fault. Each one starts from what the one before
it hands on. -/
inductive Repeated (step : α → World σ → List Entry → Except Fault (α ⊕ β) → World σ → Prop) :
    (times : Nat) → (start : α) → World σ → List Entry → Except Fault β → World σ → Prop where
  | exhausted {start : α} {world : World σ} :
      Repeated step 0 start world [] (.error .unfinished) world
  | failed {times : Nat} {start : α} {world final : World σ} {added : List Entry} {fault : Fault}
      (last : step start world added (.error fault) final) :
      Repeated step (times + 1) start world added (.error fault) final
  | ended {times : Nat} {start : α} {world final : World σ} {added : List Entry} {value : β}
      (last : step start world added (.ok (.inr value)) final) :
      Repeated step (times + 1) start world added (.ok value) final
  | again {times : Nat} {start next : α} {world middle final : World σ} {added more : List Entry}
      {result : Except Fault β} (first : step start world added (.ok (.inl next)) middle)
      (rest : Repeated step times next middle more result final) :
      Repeated step (times + 1) start world (added ++ more) result final

theorem repeatUntil_yields {operation : α → Run σ (α ⊕ β)}
    {step : α → World σ → List Entry → Except Fault (α ⊕ β) → World σ → Prop}
    (steps : ∀ start world, (operation start).Yields world (step start world))
    (times : Nat) (start : α) (world : World σ) :
    (repeatUntil operation times start).Yields world (Repeated step times start world) := by
  induction times generalizing start world with
  | zero => exact yields_throw .exhausted
  | succ times ih =>
      apply yields_bind
      apply (steps start world).mono
      rintro added (fault | next | value) middle stepped
      · exact .failed stepped
      · apply (ih next middle).mono
        exact fun _ _ _ => .again stepped
      · apply yields_pure
        rw [List.append_nil]
        exact .ended stepped

end Run

namespace Tracker

open Run

/-- What one turn of a phase comes to, by what it hears and how often it sleeps. The reply decides, or does not decide
and is slept over once; otherwise the reply cannot be judged or the turn is interrupted. -/
inductive Turned (tracker : Tracker) (pending : PendingDeployment) (deadline : Measure)
    (known : Option Receipt) (request : Request) (verdict : request.Reply → Except Fault (α ⊕ β))
    (final : World σ) : List Exchange → (sleeps : Nat) → Except Fault (α ⊕ β) → Prop where
  | undecided {reply : request.Reply} {next : α} (judged : verdict reply = .ok (.inl next)) :
      Turned tracker pending deadline known request verdict final [⟨request, .ok reply⟩] 1
        (.ok (.inl next))
  | decided {reply : request.Reply} {value : β} (judged : verdict reply = .ok (.inr value)) :
      Turned tracker pending deadline known request verdict final [⟨request, .ok reply⟩] 0
        (.ok (.inr value))
  | spoiled {reply : request.Reply} {fault : Fault} (judged : verdict reply = .error fault) :
      Turned tracker pending deadline known request verdict final [⟨request, .ok reply⟩] 0
        (.error fault)
  | cancelled (due : final.isCancelled = true) :
      Turned tracker pending deadline known request verdict final [] 0
        (.error (.of (.cancelled pending.txHash)))
  | failed {fault : Fault} :
      Turned tracker pending deadline known request verdict final [⟨request, .error fault⟩] 0
        (.error fault)
  | timedOut {reply : request.Reply} {next : α} (judged : verdict reply = .ok (.inl next))
      (isUp : (deadline.sub final.now).isNonPositive = true) :
      Turned tracker pending deadline known request verdict final [⟨request, .ok reply⟩] 0
        (.error (tracker.overdue pending known))
  | stopped {reply : request.Reply} {next : α} {duration : Measure}
      (judged : verdict reply = .ok (.inl next)) (unshown : final.now.add? duration = none) :
      Turned tracker pending deadline known request verdict final [⟨request, .ok reply⟩] 0
        (.error (.defect .beyondFloat))

variable {tracker : Tracker} {pending : PendingDeployment} {deadline : Measure}
  {known : Option Receipt} {request : Request} {world final : World σ} {added : List Entry}

theorem Polled.turned {verdict : request.Reply → Except Fault (α ⊕ β)}
    {result : Except Fault (α ⊕ β)}
    (polled : tracker.Polled pending deadline known request verdict world added result final) :
    tracker.Turned pending deadline known request verdict final (exchangesOf added)
      (sleepsOf added).length result := by
  cases polled with
  | cancelled due => exact .cancelled due
  | failed going ask =>
      rw [ask.exchanges, ask.sleeps]
      exact .failed
  | judged going ask noted settled =>
      simp only [exchangesOf_append, sleepsOf_append, ask.exchanges, ask.sleeps, noted.silent.exchanges,
        noted.silent.sleeps, settled.exchanges, List.nil_append, List.append_nil]
      cases settled with
      | spoiled judged => exact .spoiled judged
      | decided judged => exact .decided judged
      | timedOut judged isUp => exact .timedOut judged isUp
      | stuck judged left unshown => exact .stopped judged unshown
      | slept judged left isShorter ends => exact .undecided judged

section

variable {verdict : request.Reply → Except Fault (α ⊕ β)} {exchanges : List Exchange} {sleeps : Nat}

theorem Turned.exists_undecided {next : α}
    (turned : tracker.Turned pending deadline known request verdict final exchanges sleeps
      (.ok (.inl next))) :
    ∃ reply, exchanges = [⟨request, .ok reply⟩] ∧ sleeps = 1 ∧ verdict reply = .ok (.inl next) := by
  cases turned with
  | undecided judged => exact ⟨_, rfl, rfl, judged⟩

theorem Turned.exists_decided {value : β}
    (turned : tracker.Turned pending deadline known request verdict final exchanges sleeps
      (.ok (.inr value))) :
    ∃ reply, exchanges = [⟨request, .ok reply⟩] ∧ sleeps = 0 ∧ verdict reply = .ok (.inr value) := by
  cases turned with
  | decided judged => exact ⟨_, rfl, rfl, judged⟩

end

/-! ## Interruptions -/

/-- The ways in which tracking is interrupted: it has been cancelled, a request has failed, the deadline has passed,
the clock cannot show a time, or the horizon of the world was reached without a decision. -/
inductive Interrupted (tracker : Tracker) (pending : PendingDeployment) (due : Option Measure)
    (horizon : Nat) (exchanges : List Exchange) (final : World σ) : Fault → Prop where
  | cancelled (inPlace : final.isCancelled = true) :
      Interrupted tracker pending due horizon exchanges final (.of (.cancelled pending.txHash))
  | failed {request : Request} {fault : Fault} (heard : ⟨request, .error fault⟩ ∈ exchanges) :
      Interrupted tracker pending due horizon exchanges final fault
  | timedOut {known : Option Receipt} {deadline : Measure} (isDue : due = some deadline)
      (isUp : (deadline.sub final.now).isNonPositive = true) :
      Interrupted tracker pending due horizon exchanges final (tracker.overdue pending known)
  | stopped {duration : Measure} (unshown : final.now.add? duration = none) :
      Interrupted tracker pending due horizon exchanges final (.defect .beyondFloat)
  | unfinished (polled : horizon ≤ exchanges.length) :
      Interrupted tracker pending due horizon exchanges final .unfinished

variable {due : Option Measure} {horizon : Nat} {exchanges : List Exchange} {fault : Fault}

/-- With one poll more before it, an interruption is one of a horizon that allows one poll more. -/
theorem Interrupted.afterTurn {exchange : Exchange}
    (interrupted : tracker.Interrupted pending due horizon exchanges final fault) :
    tracker.Interrupted pending due (horizon + 1) (exchange :: exchanges) final fault := by
  cases interrupted with
  | cancelled inPlace => exact .cancelled inPlace
  | failed heard => exact .failed (List.mem_cons_of_mem _ heard)
  | timedOut isDue isUp => exact .timedOut isDue isUp
  | stopped unshown => exact .stopped unshown
  | unfinished polled => exact .unfinished (Nat.succ_le_succ polled)

/-- A turn that ends with a fault is interrupted, unless its reply cannot be judged. -/
theorem Turned.interrupted {verdict : request.Reply → Except Fault (α ⊕ β)} {sleeps : Nat}
    (turned : tracker.Turned pending deadline known request verdict final exchanges sleeps
      (.error fault)) :
    tracker.Interrupted pending (some deadline) horizon exchanges final fault ∨
      ∃ reply, exchanges = [⟨request, .ok reply⟩] ∧ verdict reply = .error fault := by
  cases turned with
  | spoiled judged => exact Or.inr ⟨_, rfl, judged⟩
  | cancelled inPlace => exact Or.inl (.cancelled inPlace)
  | failed => exact Or.inl (.failed (List.mem_singleton_self _))
  | timedOut judged isUp => exact Or.inl (.timedOut rfl isUp)
  | stopped judged unshown => exact Or.inl (.stopped unshown)

end Tracker

end WasmDeploy
