import Mathlib.Data.Rat.Floor
import Mathlib.Tactic.Linarith
import WasmDeploy.Proofs.Exact
import WasmDeploy.Proofs.Tracker.States

/-!
# The deadline of tracking

This file bounds how long tracking takes and how often it sleeps and asks, on an exact clock that moves on with
calls and sleeps only. The measure is the number of sleeps that still fit before the deadline: every sleep takes
one away, the last one even if it is cut short, and calls only let it shrink. Both phases share it, so it bounds
them together. The deadline is looked at before a sleep only, so one call of each phase can overrun it.
-/

namespace WasmDeploy

variable {σ α β : Type}

namespace Tracker

open Run

/-! ## Sleeps that fit -/

/-- How many sleeps of an interval, the last one cut short, fit before a deadline. -/
def slots (deadline interval now : Rat) : Nat :=
  ⌈(deadline - now) / interval⌉₊

section

variable {deadline interval before after : Rat}

/-- As time goes by, no more sleeps fit than before. -/
theorem slots_anti (positive : 0 < interval) (onward : before ≤ after) :
    slots deadline interval after ≤ slots deadline interval before := by
  apply Nat.ceil_mono
  apply div_le_div_of_nonneg_right _ positive.le
  linarith

/-- A sleep before the deadline takes one away, also if it is cut short. -/
theorem slots_after_sleep (positive : 0 < interval) (isBefore : before < deadline) :
    1 + slots deadline interval (before + min interval (deadline - before)) ≤
      slots deadline interval before := by
  simp only [slots]
  rcases le_total interval (deadline - before) with fits | isCut
  · have shorter : (deadline - before) / interval =
        (deadline - (before + interval)) / interval + 1 := by
      field_simp
      ring
    have nonneg : 0 ≤ (deadline - (before + interval)) / interval := by
      apply div_nonneg _ positive.le
      linarith
    rw [min_eq_left fits, shorter, Nat.ceil_add_one nonneg, Nat.add_comm]
  · have atEnd : deadline - (before + (deadline - before)) = 0 := by ring
    have remains : 0 < ⌈(deadline - before) / interval⌉₊ := by
      rw [Nat.ceil_pos]
      apply div_pos _ positive
      linarith
    rw [min_eq_right isCut, atEnd, zero_div, Nat.ceil_zero]
    omega

end

/-- Time that passes between two readings of the clock: it moves onward, each sleep takes away one that fits, and a
sleep is not empty, not longer than the interval, and over by the deadline. -/
structure Pace (deadline interval before : Rat) (added : List Entry) (after : Rat) : Prop where
  onward : before ≤ after
  slots : (sleepsOf added).length + slots deadline interval after ≤ slots deadline interval before
  sleeps : ∀ sleep ∈ sleepsOf added, ∃ start duration, sleep = (.exact start, .exact duration) ∧
    0 < duration ∧ duration ≤ interval ∧ start + duration ≤ deadline

namespace Pace

variable {deadline interval before middle after : Rat} {first second added : List Entry}

theorem of_awake (positive : 0 < interval) (onward : before ≤ after) (awake : sleepsOf added = []) :
    Pace deadline interval before added after where
  onward := onward
  slots := by simpa [awake] using slots_anti positive onward
  sleeps := by simp [awake]

theorem append (left : Pace deadline interval before first middle)
    (right : Pace deadline interval middle second after) :
    Pace deadline interval before (first ++ second) after where
  onward := left.onward.trans right.onward
  slots := by
    have leftSlots := left.slots
    have rightSlots := right.slots
    rw [sleepsOf_append, List.length_append]
    omega
  sleeps := by
    rw [sleepsOf_append]
    exact List.forall_mem_append.mpr ⟨left.sleeps, right.sleeps⟩

theorem of_sleep (positive : 0 < interval) (isBefore : before < deadline)
    (asleep : sleepsOf added = [(.exact before, .exact (min interval (deadline - before)))]) :
    Pace deadline interval before added (before + min interval (deadline - before)) where
  onward := by
    have nonneg : 0 ≤ min interval (deadline - before) := le_min positive.le (by linarith)
    linarith
  slots := by
    rw [asleep]
    exact slots_after_sleep positive isBefore
  sleeps := by
    rw [asleep]
    rintro sleep mem
    obtain rfl := List.mem_singleton.mp mem
    have isShort := min_le_right interval (deadline - before)
    refine ⟨before, _, rfl, lt_min positive (by linarith), min_le_left _ _, ?_⟩
    linarith

end Pace

/-! ## One poll -/

/-- Every call takes some exact time that is not longer than the latency. -/
def Delayed (latency : Rat) (surroundings : Surroundings) : Prop :=
  ∀ call time, ∃ spent, 0 ≤ spent ∧ spent ≤ latency ∧
    surroundings.elapse call (.exact time) = some (.exact (time + spent))

/-- An operation ends as unfinished only if a request has ended so. -/
def OnlyRaisesUnfinished (exchanges : List Exchange) (result : Except Fault α) : Prop :=
  result = .error .unfinished → ∃ request, ⟨request, .error .unfinished⟩ ∈ exchanges

variable {deadline interval latency before : Rat}

theorem latency_nonneg {surroundings : Surroundings} (delayed : Delayed latency surroundings) :
    0 ≤ latency := by
  rcases delayed 0 0 with ⟨spent, nonneg, isShort, _⟩
  exact nonneg.trans isShort

/-- A request moves the clock by no more than the latency. -/
theorem Asked.clock {request : Request} {world final : World σ} {added : List Entry}
    {result : Except Fault request.Reply} (asked : Asked request world added result final)
    (delayed : Delayed latency world.toSurroundings) (isNow : world.now = .exact before) :
    ∃ after, final.now = .exact after ∧ before ≤ after ∧ after ≤ before + latency := by
  rcases delayed world.calls before with ⟨spent, nonneg, isShort, passes⟩
  rcases asked.after.passes with ⟨_, still⟩ | ⟨_, moved⟩
  · exact ⟨before, still.trans isNow, le_rfl, by linarith⟩
  · rw [isNow, passes] at moved
    exact ⟨before + spent, (Option.some.inj moved).symm, by linarith, by linarith⟩

/-- What one poll does with the clock: it sleeps if and only if it is to be repeated, and then ends by the deadline;
otherwise it ends within the time of its request. -/
structure Turn (deadline interval latency before : Rat) (added : List Entry)
    (result : Except Fault (α ⊕ β)) (final : World σ) (after : Rat) : Prop where
  clock : final.now = .exact after
  pace : Pace deadline interval before added after
  requests : (requestsOf added).length ≤ 1
  repeats : ∀ next, result = .ok (.inl next) → (sleepsOf added).length = 1 ∧ after ≤ deadline
  stops : (∀ next, result ≠ .ok (.inl next)) → after ≤ before + latency
  unfinished : OnlyRaisesUnfinished (exchangesOf added) result

/-- What follows a verdict takes no time, unless it is a sleep. -/
theorem Settled.turn {tracker : Tracker} {pending : PendingDeployment} {known : Option Receipt}
    {verdict result : Except Fault (α ⊕ β)} {world final : World σ} {added : List Entry}
    (isInterval : tracker.pollInterval = .exact interval) (positive : 0 < interval)
    (isNow : world.now = .exact before) (defects : OnlyDefects verdict)
    (settled : tracker.Settled pending (.exact deadline) known verdict world added result final) :
    ∃ after, Turn deadline interval 0 before added result final after := by
  have still : Pace deadline interval before [] before := Pace.of_awake positive le_rfl rfl
  cases settled with
  | @spoiled fault judged =>
      rcases defects fault judged with ⟨cause, rfl, _⟩
      exact ⟨before, isNow, still, by simp, by simp, by simp, by simp [OnlyRaisesUnfinished]⟩
  | decided judged =>
      exact ⟨before, isNow, still, by simp, by simp, by simp, by simp [OnlyRaisesUnfinished]⟩
  | timedOut judged isUp =>
      exact ⟨before, isNow, still, by simp, by simp, by simp,
        by simp [OnlyRaisesUnfinished, overdue_ne_unfinished]⟩
  | stuck judged left =>
      exact ⟨before, isNow, still, by simp, by simp, by simp, by simp [OnlyRaisesUnfinished]⟩
  | @slept next duration finish judged left isShorter ends =>
      rw [isNow, Measure.sub_exact, Measure.isNonPositive_exact] at left
      have isBefore : before < deadline := by
        have positive := of_decide_eq_false left
        linarith
      obtain rfl : duration = .exact (min interval (deadline - before)) := by
        rw [isShorter, isInterval, isNow, Measure.sub_exact, Measure.shorter_exact]
      obtain rfl : finish = .exact (before + min interval (deadline - before)) := by
        rw [isNow, Measure.add?_exact] at ends
        exact (Option.some.inj ends).symm
      have asleep : sleepsOf [⟨world.now, world.tracking,
          .sleep (.exact (min interval (deadline - before)))⟩] =
            [(.exact before, .exact (min interval (deadline - before)))] := by
        rw [isNow]
        rfl
      have atMost := min_le_right interval (deadline - before)
      exact ⟨_, rfl, Pace.of_sleep positive isBefore asleep, by simp,
        fun _ _ => ⟨by rw [asleep]; rfl, by linarith⟩, by simp, by simp [OnlyRaisesUnfinished]⟩

theorem Polled.turn {tracker : Tracker} {pending : PendingDeployment} {known : Option Receipt}
    {request : Request} {verdict : request.Reply → Except Fault (α ⊕ β)} {world final : World σ}
    {added : List Entry} {result : Except Fault (α ⊕ β)}
    (isInterval : tracker.pollInterval = .exact interval) (positive : 0 < interval)
    (delayed : Delayed latency world.toSurroundings) (isNow : world.now = .exact before)
    (defects : ∀ reply, OnlyDefects (verdict reply))
    (polled : tracker.Polled pending (.exact deadline) known request verdict world added result
      final) :
    ∃ after, Turn deadline interval latency before added result final after := by
  have nonneg := latency_nonneg delayed
  cases polled with
  | cancelled due =>
      exact ⟨before, isNow, Pace.of_awake positive le_rfl rfl, by simp, by simp,
        fun _ => by linarith, by simp [OnlyRaisesUnfinished, Fault.of]⟩
  | @failed asked fault _ going ask =>
      rcases Asked.clock ask delayed isNow with ⟨after, isAfter, onward, inTime⟩
      refine ⟨after, isAfter, Pace.of_awake positive onward ask.sleeps, by simp [ask.requests],
        by simp, fun _ => inTime, ?_⟩
      intro isUnfinished
      obtain rfl : fault = .unfinished := Except.error.inj isUnfinished
      exact ⟨request, by simp [ask.exchanges]⟩
  | @judged asked notes rest reply middle seen _ _ going ask noted settled =>
      rcases Asked.clock ask delayed isNow with ⟨answered, isAnswered, onward, inTime⟩
      rcases Settled.turn isInterval positive (noted.now.trans isAnswered) (defects reply) settled
        with ⟨after, turn⟩
      have awake : sleepsOf (asked ++ notes) = [] := by simp [ask.sleeps, noted.silent.sleeps]
      rw [← List.append_assoc]
      refine ⟨after, turn.clock, (Pace.of_awake positive onward awake).append turn.pace, ?_, ?_, ?_, ?_⟩
      · simp [ask.requests, noted.silent.requests, settled.requests]
      · rw [sleepsOf_append, awake, List.nil_append]
        exact turn.repeats
      · intro stops
        have atOnce := turn.stops stops
        linarith
      · intro isUnfinished
        rcases turn.unfinished isUnfinished with ⟨raised, mem⟩
        exact ⟨raised, by simp [mem]⟩

/-! ## One phase -/

/-- What a phase that may poll so often does with the clock: it asks once more than it sleeps, and its last request
overruns the deadline by its own time at most. A phase that may poll more often than sleeps fit is not given up. -/
structure Timely (deadline interval latency before : Rat) (polls : Nat) (added : List Entry)
    (result : Except Fault α) (final : World σ) (after : Rat) : Prop where
  clock : final.now = .exact after
  pace : Pace deadline interval before added after
  requests : (requestsOf added).length ≤ (sleepsOf added).length + 1
  overrun : after ≤ max before deadline + latency
  finished : slots deadline interval before < polls → OnlyRaisesUnfinished (exchangesOf added) result

/-- A phase that ends with its first poll. -/
theorem Turn.timely {polls : Nat} {added : List Entry} {result : Except Fault (α ⊕ β)}
    {ending : Except Fault β} {final : World σ} {after : Rat}
    (turn : Turn deadline interval latency before added result final after)
    (stops : ∀ next, result ≠ .ok (.inl next))
    (isUnfinished : ending = .error .unfinished → result = .error .unfinished) :
    Timely deadline interval latency before polls added ending final after where
  clock := turn.clock
  pace := turn.pace
  requests := by
    have once := turn.requests
    omega
  overrun := by
    have inTime := turn.stops stops
    have isLater := le_max_left before deadline
    linarith
  finished := fun _ unfinished => turn.unfinished (isUnfinished unfinished)

/-- A phase that goes on after its first poll. -/
theorem Turn.append_timely {polls : Nat} {first rest : List Entry} {next : α}
    {result : Except Fault β} {middle final : World σ} {between after : Rat}
    (turn : Turn deadline interval latency before first (.ok (.inl next) : Except Fault (α ⊕ β)) middle
      between)
    (timely : Timely deadline interval latency between polls rest result final after) :
    Timely deadline interval latency before (polls + 1) (first ++ rest) result final after := by
  rcases turn.repeats next rfl with ⟨slept, byDeadline⟩
  have once := turn.requests
  have others := timely.requests
  constructor
  · exact timely.clock
  · exact turn.pace.append timely.pace
  · rw [requestsOf_append, sleepsOf_append, List.length_append, List.length_append]
    omega
  · have inTime := timely.overrun
    rw [max_eq_right byDeadline] at inTime
    have isLater := le_max_right before deadline
    linarith
  · intro enough isUnfinished
    have taken := turn.pace.slots
    rcases timely.finished (by omega) isUnfinished with ⟨request, mem⟩
    exact ⟨request, by simp [mem]⟩

theorem timely_repeatUntil {step : α → Run σ (α ⊕ β)} (positive : 0 < interval)
    (turns : ∀ start world before, Delayed latency world.toSurroundings →
      world.now = .exact before → (step start).Yields world fun added result final =>
        final.toSurroundings = world.toSurroundings ∧
          ∃ after, Turn deadline interval latency before added result final after)
    (times : Nat) (start : α) (world : World σ) (delayed : Delayed latency world.toSurroundings)
    (isNow : world.now = .exact before) :
    (repeatUntil step times start).Yields world fun added result final =>
      ∃ after, Timely deadline interval latency before times added result final after := by
  induction times generalizing start world before with
  | zero =>
      have nonneg := latency_nonneg delayed
      have isLater := le_max_left before deadline
      apply yields_throw
      exact ⟨before, isNow, Pace.of_awake positive le_rfl rfl, by simp, by linarith, by simp⟩
  | succ times ih =>
      apply yields_bind
      apply (turns start world before delayed isNow).mono
      rintro added (fault | next | value) middle ⟨surroundings, between, turn⟩
      · exact ⟨between, turn.timely (by simp) (by simp)⟩
      · rw [← surroundings] at delayed
        apply (ih next middle delayed turn.clock).mono
        rintro more result final ⟨after, timely⟩
        exact ⟨after, turn.append_timely timely⟩
      · apply yields_pure
        rw [List.append_nil]
        exact ⟨between, turn.timely (by simp) (by simp)⟩

theorem awaitReceipt_timely {tracker : Tracker} (client : Client σ) (pending : PendingDeployment)
    (polls : Nat) (world : World σ) (isInterval : tracker.pollInterval = .exact interval)
    (positive : 0 < interval) (delayed : Delayed latency world.toSurroundings)
    (isNow : world.now = .exact before) :
    (tracker.awaitReceipt client pending (.exact deadline) polls).Yields world
      fun added result final =>
        ∃ after, Timely deadline interval latency before polls added result final after := by
  apply timely_repeatUntil positive _ polls () world delayed isNow
  intro _ world before delayed isNow
  apply (tracker.poll_yields client pending _ none (judges_judgeReceipt pending) world).mono
  intro added result final polled
  exact ⟨(polled.phase onlyDefects_receiptVerdict).surroundings,
    polled.turn isInterval positive delayed isNow onlyDefects_receiptVerdict⟩

theorem awaitDepth_timely {tracker : Tracker} (client : Client σ) (pending : PendingDeployment)
    (receipt : Receipt) (confirmations : Datum) (polls : Nat) (highest : Datum) (world : World σ)
    (isInterval : tracker.pollInterval = .exact interval) (positive : 0 < interval)
    (delayed : Delayed latency world.toSurroundings) (isNow : world.now = .exact before) :
    (tracker.awaitDepth client pending receipt confirmations (.exact deadline) polls
      highest).Yields world fun added result final =>
        ∃ after, Timely deadline interval latency before polls added result final after := by
  apply timely_repeatUntil positive _ polls highest world delayed isNow
  intro highest world before delayed isNow
  have defects := onlyDefects_heightVerdict receipt confirmations highest
  apply (tracker.poll_yields client pending _ (some receipt)
    (judges_judgeHeight pending receipt confirmations highest) world).mono
  intro added result final polled
  exact ⟨(polled.phase defects).surroundings,
    polled.turn isInterval positive delayed isNow defects⟩

/-! ## The whole of tracking -/

namespace Timely

variable {polls : Nat} {notes added : List Entry} {result : Except Fault α} {final : World σ}
  {after : Rat}

/-- What neither asks nor sleeps takes no time. -/
theorem of_silent (positive : 0 < interval) (nonneg : 0 ≤ latency) (isNow : final.now = .exact before)
    (silent : Silent added) (isOther : result ≠ .error .unfinished) :
    Timely deadline interval latency before polls added result final before where
  clock := isNow
  pace := Pace.of_awake positive le_rfl silent.sleeps
  requests := by simp [silent.requests]
  overrun := by
    have isLater := le_max_left before deadline
    linarith
  finished := fun _ isUnfinished => absurd isUnfinished isOther

/-- How a phase ends does not matter to its times, as long as it is given up with the other one. -/
theorem ends {ending : Except Fault β} {last : World σ}
    (timely : Timely deadline interval latency before polls added result final after)
    (isUnfinished : ending = .error .unfinished → result = .error .unfinished)
    (sameTime : last.now = final.now) :
    Timely deadline interval latency before polls added ending last after where
  clock := sameTime.trans timely.clock
  pace := timely.pace
  requests := timely.requests
  overrun := timely.overrun
  finished := fun enough unfinished => timely.finished enough (isUnfinished unfinished)

theorem after_silent (positive : 0 < interval) (silent : Silent notes)
    (timely : Timely deadline interval latency before polls added result final after) :
    Timely deadline interval latency before polls (notes ++ added) result final after where
  clock := timely.clock
  pace := (Pace.of_awake positive le_rfl silent.sleeps).append timely.pace
  requests := by simpa [silent.requests, silent.sleeps] using timely.requests
  overrun := timely.overrun
  finished := by simpa [silent.exchanges] using timely.finished

end Timely

/-- The times that a phase is told of: an exact deadline, an exact reading of the clock, and calls that take exact
time within the latency. -/
def Told (latency : Rat) (deadline : Measure) (world : World σ) (limit before : Rat) : Prop :=
  deadline = .exact limit ∧ world.now = .exact before ∧ Delayed latency world.toSurroundings

/-- A phase is timely, if it is told of exact times. -/
def TimelyIfTold (interval latency : Rat) (deadline : Measure) (world : World σ) (added : List Entry)
    (result : Except Fault α) (final : World σ) : Prop :=
  ∀ told : { times : Rat × Rat // Told latency deadline world times.1 times.2 }, ∃ after,
    Timely told.1.1 interval latency told.1.2 world.horizon added result final after

variable {tracker : Tracker} {pending : PendingDeployment} {confirmations : Datum}
  {receipt : Receipt} {world final : World σ} {added : List Entry}
  {result : Except Fault TrackingResult}

theorem awaitReceipt_timelyIfTold (client : Client σ) (pending : PendingDeployment) (deadline : Measure)
    (world : World σ) (isInterval : tracker.pollInterval = .exact interval) (positive : 0 < interval) :
    (tracker.awaitReceipt client pending deadline world.horizon).Yields world
      (TimelyIfTold interval latency deadline world) := by
  apply yields_forall (tracker.awaitReceipt_phase client pending deadline world.horizon world)
  rintro ⟨⟨limit, before⟩, rfl, isNow, delayed⟩
  exact awaitReceipt_timely client pending world.horizon world isInterval positive delayed isNow

theorem awaitDepth_timelyIfTold (client : Client σ) (pending : PendingDeployment) (deadline : Measure)
    (receipt : Receipt) (confirmations : Datum) (world : World σ)
    (isInterval : tracker.pollInterval = .exact interval) (positive : 0 < interval) :
    (tracker.awaitDepth client pending receipt confirmations deadline world.horizon
      receipt.blockNumber).Yields world (TimelyIfTold interval latency deadline world) := by
  apply yields_forall (tracker.awaitDepth_phase client pending receipt confirmations deadline
    world.horizon receipt.blockNumber world)
  rintro ⟨⟨limit, before⟩, rfl, isNow, delayed⟩
  exact awaitDepth_timely client pending receipt confirmations world.horizon _ world isInterval
    positive delayed isNow

/-- Whatever follows the first receipt with a block number is timely. -/
theorem Concluded.timely {limit : Rat} (positive : 0 < interval)
    (delayed : Delayed latency world.toSurroundings) (isNow : world.now = .exact before)
    (concluded : Concluded pending confirmations receipt
      (TimelyIfTold interval latency (.exact limit)) world added result final) :
    ∃ after, Timely limit interval latency before world.horizon added result final after := by
  have nonneg := latency_nonneg delayed
  have told {notes : List Entry} {seen : World σ}
      (noted : Noted (world.entering .included) notes seen) : Told latency (.exact limit) seen limit before :=
    ⟨rfl, noted.now.trans isNow, by rwa [noted.surroundings]⟩
  have sameHorizon {notes : List Entry} {seen : World σ}
      (noted : Noted (world.entering .included) notes seen) : seen.horizon = world.horizon :=
    congrArg Surroundings.horizon noted.surroundings
  cases concluded with
  | untold isReverted noted incomparable other =>
      exact ⟨before, .of_silent positive nonneg (noted.now.trans isNow) noted.silent (by simp)⟩
  | reverted isReverted noted told warned =>
      exact ⟨before, .of_silent positive nonneg (warned.now.trans (noted.now.trans isNow))
        (noted.silent.append warned.silent) (by simp)⟩
  | confirmedAtOnce isSuccess unwanted noted =>
      exact ⟨before, .of_silent positive nonneg (noted.now.trans isNow) noted.silent (by simp)⟩
  | unconfirmed isSuccess wanted noted phase =>
      rcases phase ⟨(limit, before), told noted⟩ with ⟨after, timely⟩
      rw [sameHorizon noted] at timely
      exact ⟨after, Timely.after_silent positive noted.silent (timely.ends (by simp) rfl)⟩
  | confirmed isSuccess wanted noted phase =>
      rcases phase ⟨(limit, before), told noted⟩ with ⟨after, timely⟩
      rw [sameHorizon noted] at timely
      exact ⟨after, Timely.after_silent positive noted.silent (timely.ends (by simp) rfl)⟩

/-- What tracking does with the clock, by its timeout, its interval and the latency of calls: how often it sleeps
and asks, that each sleep is short and over by the deadline, when it ends, that it times out at the deadline only,
and that it is not given up in a world that lets it poll once more than it can sleep. -/
structure InTime (tracker : Tracker) (pending : PendingDeployment)
    (timeout interval latency start : Rat) (world : World σ) (added : List Entry)
    (result : Except Fault TrackingResult) (final : World σ) : Prop where
  sleepCount : (sleepsOf added).length ≤ ⌈timeout / interval⌉₊
  requestCount : (requestsOf added).length ≤ ⌈timeout / interval⌉₊ + 2
  sleeps : ∀ sleep ∈ sleepsOf added, ∃ begun duration, sleep = (.exact begun, .exact duration) ∧
    0 < duration ∧ duration ≤ interval ∧ begun + duration ≤ start + timeout
  finish : ∃ finish, final.now = .exact finish ∧ start ≤ finish ∧
    finish ≤ start + timeout + 2 * latency ∧
    (tracker.TimedOutItself pending (exchangesOf added) result → start + timeout ≤ finish)
  ends : ⌈timeout / interval⌉₊ < world.horizon → OnlyRaisesUnfinished (exchangesOf added) result

/-- Tracking that is timely throughout is in time. -/
theorem InTime.of_timely {timeout start finish : Rat}
    (pace : Pace (start + timeout) interval start added finish) (isFinish : final.now = .exact finish)
    (requests : (requestsOf added).length ≤ (sleepsOf added).length + 2)
    (overrun : finish ≤ start + timeout + 2 * latency)
    (atDeadline : tracker.TimedOutItself pending (exchangesOf added) result → start + timeout ≤ finish)
    (ends : slots (start + timeout) interval start < world.horizon →
      OnlyRaisesUnfinished (exchangesOf added) result) :
    tracker.InTime pending timeout interval latency start world added result final := by
  have fitting : slots (start + timeout) interval start = ⌈timeout / interval⌉₊ := by
    rw [slots, add_sub_cancel_left]
  rw [fitting] at ends
  have counted := pace.slots
  rw [fitting] at counted
  exact {
    sleepCount := by omega
    requestCount := by omega
    sleeps := pace.sleeps
    finish := ⟨finish, isFinish, pace.onward, overrun, atDeadline⟩
    ends }

section

variable {timeout start : Rat}

/-- Tracking that neither asks nor sleeps is in time. -/
theorem InTime.of_silent (timeoutPositive : 0 < timeout) (intervalPositive : 0 < interval)
    (nonneg : 0 ≤ latency) (isNow : final.now = .exact start) (silent : Silent added)
    (isOther : ¬tracker.TimedOutItself pending (exchangesOf added) result)
    (isFinished : result ≠ .error .unfinished) :
    tracker.InTime pending timeout interval latency start world added result final := by
  refine InTime.of_timely (Pace.of_awake intervalPositive le_rfl silent.sleeps) isNow ?_ ?_ ?_ ?_
  · simp [silent.requests]
  · linarith
  · exact fun timedOut => absurd timedOut isOther
  · exact fun _ isUnfinished => absurd isUnfinished isFinished

/-- Tracking that ends in its first phase is in time. -/
theorem InTime.of_unmined {ending : Except Fault α} {last : World σ} {finish : Rat}
    (nonneg : 0 ≤ latency) (timeoutPositive : 0 < timeout)
    (timely : Timely (start + timeout) interval latency start world.horizon added ending last finish)
    (isUnfinished : result = .error .unfinished → ending = .error .unfinished)
    (sameTime : final.now = last.now)
    (atDeadline : tracker.TimedOutItself pending (exchangesOf added) result → start + timeout ≤ finish) :
    tracker.InTime pending timeout interval latency start world added result final := by
  have requests := timely.requests
  have overrun := timely.overrun
  rw [max_eq_right (by linarith)] at overrun
  refine InTime.of_timely timely.pace (sameTime.trans timely.clock) ?_ ?_ atDeadline ?_
  · omega
  · linarith
  · exact fun enough unfinished => timely.finished enough (isUnfinished unfinished)

/-- Tracking that goes on after its first phase is in time. -/
theorem InTime.of_mined {first second : List Entry} {ending : Except Fault α} {middle : World σ}
    {between finish : Rat} (nonneg : 0 ≤ latency) (timeoutPositive : 0 < timeout)
    (intervalPositive : 0 < interval)
    (timely : Timely (start + timeout) interval latency start world.horizon first ending middle between)
    (rest : Timely (start + timeout) interval latency between world.horizon second result final finish)
    (atDeadline : tracker.TimedOutItself pending (exchangesOf (first ++ second)) result →
      start + timeout ≤ finish) :
    tracker.InTime pending timeout interval latency start world (first ++ second) result final := by
  have requests := timely.requests
  have others := rest.requests
  have overrun := timely.overrun
  have further := rest.overrun
  rw [max_eq_right (by linarith)] at overrun
  have both : max between (start + timeout) ≤ start + timeout + latency :=
    max_le overrun (by linarith)
  refine InTime.of_timely (timely.pace.append rest.pace) rest.clock ?_ ?_ atDeadline ?_
  · rw [requestsOf_append, sleepsOf_append, List.length_append, List.length_append]
    omega
  · linarith
  · intro enough isUnfinished
    have fewer := @slots_anti (start + timeout) _ _ _ intervalPositive timely.pace.onward
    rcases rest.finished (by omega) isUnfinished with ⟨request, mem⟩
    exact ⟨request, by simp [mem]⟩

end

/-- Tracking on an exact clock is in time, whatever the endpoint answers and whenever cancelling is asked for. -/
theorem track_inTime (timeout interval latency start : Rat) (client : Client σ)
    (pending : PendingDeployment) (confirmations : Datum) (world : World σ)
    (timeoutPositive : 0 < timeout) (intervalPositive : 0 < interval)
    (startsAt : world.now = .exact start) (delayed : Delayed latency world.toSurroundings) :
    (track ⟨.exact timeout, .exact interval⟩ client pending confirmations).Yields world
      (InTime ⟨.exact timeout, .exact interval⟩ pending timeout interval latency start world) := by
  let tracker : Tracker := ⟨.exact timeout, .exact interval⟩
  have nonneg := latency_nonneg delayed
  rcases check : checkConfirmations confirmations with fault | _
  · refine ⟨[], ?_, ?_⟩
    · rw [tracker.track_outcome_of_refused client pending world check, List.append_nil]
    · rw [tracker.track_outcome_of_refused client pending world check]
      apply InTime.of_silent timeoutPositive intervalPositive nonneg startsAt .nil
      · exact not_timedOutItself_of_refused check
      · rcases checkConfirmations_eq_error check with rfl | ⟨cause, rfl, _⟩ <;> simp [Fault.of]
  have receiptYields (deadline : Measure) (begun : World σ) :=
    (tracker.awaitReceipt_phase client pending deadline begun.horizon begun).and
      (@awaitReceipt_timelyIfTold _ interval latency tracker client pending deadline begun rfl
        intervalPositive)
  have depthYields (deadline : Measure) (receipt : Receipt) (seen : World σ) :=
    @awaitDepth_timelyIfTold _ interval latency tracker client pending deadline receipt confirmations
      seen rfl intervalPositive
  apply ((tracker.track_yields client pending confirmations world receiptYields depthYields).and
    (tracker.track_keepsStates client pending confirmations world check)).mono
  rintro added result final ⟨tracked, keeps⟩
  have due : world.now.add? (.exact timeout) = some (.exact (start + timeout)) := by
    rw [startsAt, Measure.add?_exact]
  have atDeadline (finish : Rat) (isFinish : final.now = .exact finish)
      (timedOut : tracker.TimedOutItself pending (exchangesOf added) result) :
      start + timeout ≤ finish := by
    rcases keeps.atDeadline timedOut with ⟨deadline, isDeadline, isUp⟩
    obtain rfl : .exact (start + timeout) = deadline := Option.some.inj (due.symm.trans isDeadline)
    rw [isFinish, Measure.sub_exact, Measure.isNonPositive_exact, decide_eq_true_iff] at isUp
    linarith
  cases tracked with
  | refused invalid => cases check.symm.trans invalid
  | unlimited _ =>
      exact InTime.of_silent timeoutPositive intervalPositive nonneg startsAt .nil
        (not_timedOutItself_of_other rfl) (by simp)
  | @unmined deadline notes polled begun _ fault _ isDue noted phase =>
      obtain rfl : .exact (start + timeout) = deadline := Option.some.inj (due.symm.trans isDue)
      have told : Told latency (.exact (start + timeout)) begun (start + timeout) start :=
        ⟨rfl, noted.now.trans startsAt, by rwa [noted.surroundings]⟩
      rcases phase.2 ⟨(start + timeout, start), told⟩ with ⟨finish, timely⟩
      rw [congrArg Surroundings.horizon noted.surroundings] at timely
      have whole := Timely.after_silent intervalPositive noted.silent timely
      exact InTime.of_unmined nonneg timeoutPositive whole (by simp) rfl
        (atDeadline finish whole.clock)
  | @mined deadline notes polled rest begun middle _ receipt _ _ isDue noted phase concluded =>
      obtain rfl : .exact (start + timeout) = deadline := Option.some.inj (due.symm.trans isDue)
      have told : Told latency (.exact (start + timeout)) begun (start + timeout) start :=
        ⟨rfl, noted.now.trans startsAt, by rwa [noted.surroundings]⟩
      rcases phase.2 ⟨(start + timeout, start), told⟩ with ⟨between, timely⟩
      rw [congrArg Surroundings.horizon noted.surroundings] at timely
      have first := Timely.after_silent intervalPositive noted.silent timely
      have surroundings : middle.toSurroundings = world.toSurroundings :=
        phase.1.surroundings.trans noted.surroundings
      rw [← surroundings] at delayed
      rcases concluded.timely intervalPositive delayed first.clock with ⟨finish, second⟩
      rw [congrArg Surroundings.horizon surroundings] at second
      rw [← List.append_assoc] at atDeadline ⊢
      exact InTime.of_mined nonneg timeoutPositive intervalPositive first second
        (atDeadline finish second.clock)

theorem track_inTime_steady :
    (track ⟨.exact 5, .exact 2⟩ untoldCall.client untoldCall.pending untoldCall.confirmations).Yields
      (World.steady (1 / 2) 4) (InTime ⟨.exact 5, .exact 2⟩ untoldCall.pending 5 2 (1 / 2) 0
        (World.steady (1 / 2) 4)) :=
  track_inTime 5 2 (1 / 2) 0 _ _ _ _ (by norm_num) (by norm_num) rfl fun _ _ =>
    ⟨1 / 2, by norm_num, le_rfl, rfl⟩

end Tracker

end WasmDeploy
