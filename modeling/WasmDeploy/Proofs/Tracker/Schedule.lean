import WasmDeploy.Proofs.Tracker.Deadline
import WasmDeploy.Proofs.Tracker.Depth

/-!
# The schedule of a timeout

Tracking that never gets to a decision sleeps on a schedule that only the timeout and the interval determine, if
requests take no time: whole intervals as long as they fit, and then what is left. The schedule runs on across both
phases, so it does not matter at which poll the receipt comes. With the last sleep the clock shows the deadline to the
point, and the poll after it times out.
-/

namespace WasmDeploy

variable {σ α β : Type}

/-- How long the sleeps are that entries tell of. -/
def durationsOf (entries : List Entry) : List Measure :=
  (sleepsOf entries).map Prod.snd

@[simp]
theorem durationsOf_append (first second : List Entry) :
    durationsOf (first ++ second) = durationsOf first ++ durationsOf second := by
  simp [durationsOf]

open Tracker in
/-- A request that takes no time leaves the clock alone. -/
theorem Asked.now {request : Request} {world final : World σ} {added : List Entry} {before : Rat}
    {result : Except Fault request.Reply} (asked : Asked request world added result final)
    (instant : Delayed 0 world.toSurroundings) (isNow : world.now = .exact before) :
    final.now = .exact before := by
  rcases Asked.clock asked instant isNow with ⟨after, isAfter, onward, inTime⟩
  rw [isAfter, le_antisymm (by linarith) onward]

namespace Tracker

open Run

/-! ## The schedule -/

/-- The sleeps that fill some time: as many whole intervals as fit, and what is left then, if anything is. -/
def schedule (interval remaining : Rat) : List Rat :=
  List.replicate ⌊remaining / interval⌋₊ interval ++
    if remaining - interval * ⌊remaining / interval⌋₊ = 0 then []
    else [remaining - interval * ⌊remaining / interval⌋₊]

section

variable {interval remaining : Rat}

@[simp]
theorem schedule_zero (interval : Rat) : schedule interval 0 = [] := by
  simp [schedule]

/-- The next sleep on a schedule is a whole interval or what is left, whichever is shorter. -/
theorem schedule_of_pos (positive : 0 < interval) (isLeft : 0 < remaining) :
    schedule interval remaining =
      min interval remaining :: schedule interval (remaining - min interval remaining) := by
  rcases le_or_gt interval remaining with fits | isCut
  · have isNext : (remaining - interval) / interval = remaining / interval - 1 := by
      field_simp
    have counted : 1 ≤ ⌊remaining / interval⌋₊ := (Nat.one_le_floor_iff _).mpr ((one_le_div positive).mpr fits)
    have isCount : ⌊remaining / interval⌋₊ = ⌊(remaining - interval) / interval⌋₊ + 1 := by
      rw [isNext, Nat.floor_sub_one]
      omega
    have isRest : remaining - interval * ((⌊(remaining - interval) / interval⌋₊ + 1 : Nat) : Rat) =
        remaining - interval - interval * ⌊(remaining - interval) / interval⌋₊ := by
      push_cast
      ring
    rw [min_eq_left fits, schedule, schedule, isCount, isRest, List.replicate_succ, List.cons_append]
  · have isNone : ⌊remaining / interval⌋₊ = 0 := by
      rw [Nat.floor_eq_zero, div_lt_one positive]
      exact isCut
    rw [min_eq_right isCut.le, sub_self, schedule_zero, schedule, isNone]
    simp [isLeft.ne']

/-- A schedule has as many sleeps as there are intervals that have begun. -/
theorem length_schedule (positive : 0 < interval) (nonneg : 0 ≤ remaining) :
    (schedule interval remaining).length = ⌈remaining / interval⌉₊ := by
  have isBelow : (⌊remaining / interval⌋₊ : Rat) ≤ remaining / interval :=
    Nat.floor_le (div_nonneg nonneg positive.le)
  have isAbove := Nat.lt_floor_add_one (remaining / interval)
  rw [schedule, List.length_append, List.length_replicate]
  split
  · next isEven =>
    have isWhole : remaining / interval = ⌊remaining / interval⌋₊ := by
      rw [div_eq_iff positive.ne']
      linarith
    rw [List.length_nil, Nat.add_zero, isWhole, Nat.floor_natCast, Nat.ceil_natCast]
  · next isUneven =>
    rw [List.length_singleton, eq_comm, Nat.ceil_eq_iff (Nat.add_one_ne_zero _), Nat.add_sub_cancel]
    refine ⟨lt_of_le_of_ne isBelow ?_, by exact_mod_cast isAbove.le⟩
    intro isWhole
    apply isUneven
    rw [isWhole]
    field_simp
    ring

end

/-- Sleeps that take the clock from one reading to another one on the schedule of a deadline: what is left of the
schedule then completes them. -/
structure OnSchedule (deadline interval before : Rat) (added : List Entry) (after : Rat) : Prop where
  inTime : after ≤ deadline
  durations : durationsOf added ++ (schedule interval (deadline - after)).map Measure.exact =
    (schedule interval (deadline - before)).map Measure.exact

namespace OnSchedule

variable {deadline interval before middle after : Rat} {first second added : List Entry}

theorem of_awake (inTime : before ≤ deadline) (awake : sleepsOf added = []) :
    OnSchedule deadline interval before added before :=
  ⟨inTime, by simp [durationsOf, awake]⟩

theorem append (left : OnSchedule deadline interval before first middle)
    (right : OnSchedule deadline interval middle second after) :
    OnSchedule deadline interval before (first ++ second) after where
  inTime := right.inTime
  durations := by rw [durationsOf_append, List.append_assoc, right.durations, left.durations]

theorem of_sleep (positive : 0 < interval) (isBefore : before < deadline)
    (asleep : durationsOf added = [.exact (min interval (deadline - before))]) :
    OnSchedule deadline interval before added (before + min interval (deadline - before)) where
  inTime := by
    have isShort := min_le_right interval (deadline - before)
    linarith
  durations := by
    rw [asleep, schedule_of_pos positive (by linarith : 0 < deadline - before), List.map_cons,
      sub_add_eq_sub_sub]
    rfl

/-- The sleeps so far and the ones that are left are as many as intervals begin before the deadline. -/
theorem length_sleepsOf (positive : 0 < interval) (onSchedule : OnSchedule deadline interval before added after)
    (inTime : before ≤ deadline) :
    (sleepsOf added).length + ⌈(deadline - after) / interval⌉₊ = ⌈(deadline - before) / interval⌉₊ := by
  have counted := congrArg List.length onSchedule.durations
  simp only [durationsOf, List.length_append, List.length_map] at counted
  rwa [length_schedule positive (sub_nonneg.mpr inTime),
    length_schedule positive (sub_nonneg.mpr onSchedule.inTime)] at counted

end OnSchedule

/-! ## One phase -/

section

variable {tracker : Tracker} {pending : PendingDeployment} {deadline interval before : Rat}
  {known : Option Receipt} {request : Request} {world final : World σ} {added : List Entry}
  (isInterval : tracker.pollInterval = .exact interval) (positive : 0 < interval)
  (instant : Delayed 0 world.toSurroundings) (isNow : world.now = .exact before) (inTime : before ≤ deadline)

include isInterval positive isNow inTime

theorem Settled.onSchedule {verdict result : Except Fault (α ⊕ β)}
    (settled : tracker.Settled pending (.exact deadline) known verdict world added result final) :
    ∃ after, final.now = .exact after ∧ OnSchedule deadline interval before added after := by
  have still : OnSchedule deadline interval before [] before := .of_awake inTime rfl
  cases settled with
  | spoiled judged => exact ⟨before, isNow, still⟩
  | decided judged => exact ⟨before, isNow, still⟩
  | timedOut judged isUp => exact ⟨before, isNow, still⟩
  | stuck judged left unshown => exact ⟨before, isNow, still⟩
  | slept judged left isShorter ends =>
      rw [isNow, Measure.sub_exact] at left isShorter
      rw [Measure.isNonPositive_exact, decide_eq_false_iff_not, not_le] at left
      rw [isInterval, Measure.shorter_exact] at isShorter
      rw [isNow, isShorter, Measure.add?_exact] at ends
      refine ⟨_, (Option.some.inj ends).symm, .of_sleep positive (by linarith) ?_⟩
      rw [isShorter]
      rfl

include instant

theorem Polled.onSchedule {verdict : request.Reply → Except Fault (α ⊕ β)}
    {result : Except Fault (α ⊕ β)}
    (polled : tracker.Polled pending (.exact deadline) known request verdict world added result final) :
    ∃ after, final.now = .exact after ∧ OnSchedule deadline interval before added after := by
  cases polled with
  | cancelled due => exact ⟨before, isNow, .of_awake inTime rfl⟩
  | failed going ask =>
      exact ⟨before, ask.now instant isNow, .of_awake inTime ask.sleeps⟩
  | @judged asked notes rest _ _ _ _ _ going ask noted settled =>
      have isNowSeen := noted.now.trans (ask.now instant isNow)
      rcases settled.onSchedule isInterval positive isNowSeen inTime with ⟨after, isAfter, onSchedule⟩
      have awake : sleepsOf (asked ++ notes) = [] := by simp [ask.sleeps, noted.silent.sleeps]
      rw [← List.append_assoc]
      exact ⟨after, isAfter, (OnSchedule.of_awake inTime awake).append onSchedule⟩

end

theorem Polled.surroundings {tracker : Tracker} {pending : PendingDeployment} {deadline : Measure}
    {known : Option Receipt} {request : Request} {verdict : request.Reply → Except Fault (α ⊕ β)}
    {world final : World σ} {added : List Entry} {result : Except Fault (α ⊕ β)}
    (polled : tracker.Polled pending deadline known request verdict world added result final) :
    final.toSurroundings = world.toSurroundings := by
  cases polled with
  | cancelled due => rfl
  | failed going ask => exact ask.after.surroundings
  | judged going ask noted settled =>
      rw [← ask.after.surroundings, ← noted.surroundings]
      cases settled <;> rfl

/-- Exchanges that leave a phase undecided: each is answered, and its reply leads from anything that the phase may go on
from to something that it may go on from. -/
structure Undecisive (request : Request) (verdict : α → request.Reply → Except Fault (α ⊕ β))
    (quiet : Exchange → Prop) (kept : α → Prop) : Prop where
  answered : ∀ fault, ¬quiet ⟨request, .error fault⟩
  undecided : ∀ start reply, kept start → quiet ⟨request, .ok reply⟩ →
    ∃ next, verdict start reply = .ok (.inl next) ∧ kept next

/-- What a poll that decides nothing comes to: it is cancelled, it is followed by a sleep, or it times out. -/
inductive Undecided (tracker : Tracker) (pending : PendingDeployment) (deadline : Measure)
    (known : Option Receipt) (kept : α → Prop) (added : List Entry) (final : World σ) :
    Except Fault (α ⊕ β) → Prop where
  | cancelled (due : final.isCancelled = true) :
      Undecided tracker pending deadline known kept added final
        (.error (.of (.cancelled pending.txHash)))
  | slept {next : α} (isKept : kept next) (asked : (requestsOf added).length = 1)
      (rested : (sleepsOf added).length = 1) :
      Undecided tracker pending deadline known kept added final (.ok (.inl next))
  | timedOut (isUp : (deadline.sub final.now).isNonPositive = true)
      (entered : final.tracking = some .timedOut) (asked : (requestsOf added).length = 1)
      (rested : (sleepsOf added).length = 0) :
      Undecided tracker pending deadline known kept added final (.error (tracker.overdue pending known))

/-- The failure of tracking that has timed out can be told: its message can show the timeout and the block of the
receipt, if there is one. -/
structure CanTell (tracker : Tracker) (known : Option Receipt) : Prop where
  timeout : tracker.timeout.toFloat?.isSome = true
  block : ∀ receipt, known = some receipt → receipt.blockNumber.isShowable = true

theorem CanTell.overdue_eq {tracker : Tracker} {known : Option Receipt} (canTell : tracker.CanTell known)
    (pending : PendingDeployment) :
    tracker.overdue pending known = .of (.timedOut pending.txHash tracker.timeout known) := by
  have isShown : (known.any fun receipt => !receipt.blockNumber.isShowable) = false := by
    cases known with
    | none => rfl
    | some receipt => simp [canTell.block receipt rfl]
  have isFinite : tracker.timeout.toFloat?.isNone = false := by
    rw [← Option.not_isSome, canTell.timeout]
    rfl
  simp [overdue, isShown, isFinite]

/-- Tracking, or a part of it, times out when the clock shows the deadline to the point, after it has slept on the
schedule of the time that remained. It ends with the failure that says so, if that can be told. -/
structure TimesOut (tracker : Tracker) (pending : PendingDeployment) (deadline interval remaining : Rat)
    (known : Option Receipt) (added : List Entry) (result : Except Fault α) (final : World σ) :
    Prop where
  fault : result = .error (tracker.overdue pending known)
  told : tracker.CanTell known →
    tracker.overdue pending known = .of (.timedOut pending.txHash tracker.timeout known)
  durations : durationsOf added = (schedule interval remaining).map Measure.exact
  clock : final.now = .exact deadline
  tracking : final.tracking = some .timedOut

namespace TimesOut

variable {tracker : Tracker} {pending : PendingDeployment}
  {deadline interval remaining before middle : Rat} {known : Option Receipt}
  {first second added : List Entry} {result : Except Fault α} {fault : Fault} {final : World σ}

/-- Which value it might have ended with does not matter. -/
theorem error
    (timesOut : tracker.TimesOut pending deadline interval remaining known added
      (.error fault : Except Fault α) final) :
    tracker.TimesOut pending deadline interval remaining known added (.error fault : Except Fault β)
      final where
  fault := congrArg Except.error (Except.error.inj timesOut.fault)
  told := timesOut.told
  durations := timesOut.durations
  clock := timesOut.clock
  tracking := timesOut.tracking

theorem after (onSchedule : OnSchedule deadline interval before first middle)
    (timesOut : tracker.TimesOut pending deadline interval (deadline - middle) known second result
      final) :
    tracker.TimesOut pending deadline interval (deadline - before) known (first ++ second) result
      final where
  fault := timesOut.fault
  told := timesOut.told
  durations := by rw [durationsOf_append, timesOut.durations, onSchedule.durations]
  clock := timesOut.clock
  tracking := timesOut.tracking

end TimesOut

section

variable {tracker : Tracker} {pending : PendingDeployment} {deadline interval before : Rat}
  {known : Option Receipt} {request : Request} {verdict : α → request.Reply → Except Fault (α ⊕ β)}
  {quiet : Exchange → Prop} {kept : α → Prop} {start : α} {times : Nat} {world final : World σ}
  {added : List Entry} (isInterval : tracker.pollInterval = .exact interval)
  (instant : Delayed 0 world.toSurroundings) (isNow : world.now = .exact before)

include isInterval instant isNow

theorem Polled.undecided {result : Except Fault (α ⊕ β)}
    (undecisive : Undecisive request verdict quiet kept) (isKept : kept start)
    (areQuiet : ∀ exchange ∈ exchangesOf added, quiet exchange)
    (polled : tracker.Polled pending (.exact deadline) known request (verdict start) world added result
      final) :
    tracker.Undecided pending (.exact deadline) known kept added final result := by
  cases polled with
  | cancelled due => exact .cancelled due
  | @failed _ fault _ going ask =>
      rw [ask.exchanges] at areQuiet
      exact absurd (areQuiet _ (List.mem_singleton_self _)) (undecisive.answered fault)
  | @judged asked notes rest reply middle seen _ _ going ask noted settled =>
      have isQuiet : quiet ⟨request, .ok reply⟩ := by
        apply areQuiet
        simp [ask.exchanges]
      have isNowSeen := noted.now.trans (ask.now instant isNow)
      rcases undecisive.undecided start reply isKept isQuiet with ⟨next, isUndecided, isKeptNext⟩
      have requests : (requestsOf (asked ++ (notes ++ rest))).length = 1 := by
        simp [ask.requests, noted.silent.requests, settled.requests]
      have sleeps : sleepsOf (asked ++ (notes ++ rest)) = sleepsOf rest := by
        simp [ask.sleeps, noted.silent.sleeps]
      cases settled with
      | spoiled judged => cases isUndecided.symm.trans judged
      | decided judged => cases isUndecided.symm.trans judged
      | timedOut judged isUp => exact .timedOut isUp rfl requests (by rw [sleeps]; rfl)
      | stuck judged left unshown => simp [isInterval, isNowSeen] at unshown
      | @slept next' _ _ judged left isShorter ends =>
          obtain rfl : next = next' := by
            cases isUndecided.symm.trans judged
            rfl
          exact .slept isKeptNext requests (by rw [sleeps]; rfl)

variable (positive : 0 < interval) (inTime : before ≤ deadline)

include positive inTime

/-- A phase in which nothing decides times out, after one request more than sleeps are on its schedule, unless it is
cancelled or may not poll often enough. -/
theorem timesOut_of_repeated {result : Except Fault β}
    (undecisive : Undecisive request verdict quiet kept) (isKept : kept start)
    (areQuiet : ∀ exchange ∈ exchangesOf added, quiet exchange) (going : final.isCancelled = false)
    (enough : ⌈(deadline - before) / interval⌉₊ < times)
    (repeated : Repeated (fun start => tracker.Polled pending (.exact deadline) known request
      (verdict start)) times start world added result final) :
    tracker.TimesOut pending deadline interval (deadline - before) known added result final ∧
      (requestsOf added).length = ⌈(deadline - before) / interval⌉₊ + 1 := by
  induction repeated generalizing before with
  | exhausted => exact absurd enough (Nat.not_lt_zero _)
  | @failed _ _ _ final _ _ last =>
      rcases Polled.onSchedule isInterval positive instant isNow inTime last with
        ⟨after, isAfter, onSchedule⟩
      cases Polled.undecided isInterval instant isNow undecisive isKept areQuiet last with
      | cancelled due => simp [going] at due
      | timedOut isUp entered asked rested =>
          -- The clock has come to the deadline, and the schedule does not run past it.
          rw [isAfter, Measure.sub_exact, Measure.isNonPositive_exact, decide_eq_true_iff,
            sub_nonpos] at isUp
          obtain rfl := le_antisymm onSchedule.inTime isUp
          have durations := onSchedule.durations
          have counted := onSchedule.length_sleepsOf positive inTime
          rw [sub_self, schedule_zero, List.map_nil, List.append_nil] at durations
          rw [sub_self, zero_div, Nat.ceil_zero, rested] at counted
          refine ⟨⟨rfl, ?_, durations, isAfter, entered⟩, by rw [asked, ← counted]⟩
          exact fun canTell => canTell.overdue_eq pending
  | ended last => nomatch Polled.undecided isInterval instant isNow undecisive isKept areQuiet last
  | again first _ ih =>
      rw [exchangesOf_append, List.forall_mem_append] at areQuiet
      rcases Polled.onSchedule isInterval positive instant isNow inTime first with
        ⟨between, isBetween, onSchedule⟩
      cases Polled.undecided isInterval instant isNow undecisive isKept areQuiet.1 first with
      | slept isKeptNext asked rested =>
          have counted := onSchedule.length_sleepsOf positive inTime
          rw [← Polled.surroundings first] at instant
          rcases ih instant isBetween onSchedule.inTime isKeptNext areQuiet.2 going (by omega) with
            ⟨timesOut, requests⟩
          refine ⟨timesOut.after onSchedule, ?_⟩
          rw [requestsOf_append, List.length_append, requests, asked]
          omega

end

/-! ## The two phases -/

/-- Receipts without a block number decide nothing. -/
theorem undecisive_receiptVerdict (hash : Datum) :
    Undecisive (.transactionReceipt hash) (fun _ : Unit => receiptVerdict)
      (fun exchange => exchange.isAnswered = true ∧ exchange.mined? = none) fun _ => True where
  answered := by
    rintro fault ⟨⟨⟩, _⟩
  undecided := by
    rintro _ reply - ⟨_, isUnmined⟩
    refine ⟨(), ?_, trivial⟩
    simp only [receiptVerdict]
    rw [show mined? reply = none from isUnmined]

/-- Heights that are too low decide nothing, and leave the highest one too low. -/
theorem undecisive_heightVerdict {receipt : Receipt} {block : Int} {wanted : Nat}
    (isBlock : receipt.blockNumber = .int block) :
    Undecisive .blockNumber (heightVerdict receipt (.int wanted))
      (fun exchange => ∃ height : Int, exchange = ⟨.blockNumber, .ok (.int height)⟩ ∧ height < block + wanted)
      fun highest => ∃ earlier, highest = .int (block + depthOver block earlier) ∧
        depthOver block earlier < wanted where
  answered := by
    rintro fault ⟨_, ⟨⟩, _⟩
  undecided := by
    rintro _ reply ⟨earlier, rfl, shallow⟩ ⟨height, told, isLow⟩
    cases told
    rcases assess_assessed isBlock shallow height with ⟨assessment, isAssessment, assessed⟩
    rw [heightVerdict, isAssessment]
    cases assessed with
    | low _ stillShallow => exact ⟨_, rfl, _, rfl, stillShallow⟩
    | high isHigh => omega

/-- What the first phase comes to, by its polls and as a whole. -/
def ReceiptPolls (tracker : Tracker) (pending : PendingDeployment) (deadline : Measure) (begun : World σ)
    (added : List Entry) (result : Except Fault Receipt) (final : World σ) : Prop :=
  Repeated (fun _ : Unit => tracker.Polled pending deadline none (.transactionReceipt pending.txHash)
    receiptVerdict) begun.horizon () begun added result final ∧
  tracker.Phase pending deadline (.transactionReceipt pending.txHash) begun added result final ∧
  firstMined (exchangesOf added) = result.toOption

/-- What the second phase comes to, by its polls and as a whole. -/
def HeightPolls (tracker : Tracker) (pending : PendingDeployment) (confirmations : Datum)
    (deadline : Measure) (receipt : Receipt) (seen : World σ) (added : List Entry)
    (result : Except Fault Datum) (final : World σ) : Prop :=
  Repeated (fun highest => tracker.Polled pending deadline (some receipt) .blockNumber
    (heightVerdict receipt confirmations highest)) seen.horizon receipt.blockNumber seen added
    result final ∧
  tracker.Phase pending deadline .blockNumber seen added result final

/-- Heights that have been told are all below a limit. -/
def ToldBelow (limit : Int) (exchanges : List Exchange) : Prop :=
  ∀ height, ⟨.blockNumber, .ok height⟩ ∈ exchanges → ∃ number : Int, height = .int number ∧ number < limit

section

variable {tracker : Tracker} {pending : PendingDeployment} {deadline interval before : Rat}
  {world final : World σ} {added : List Entry} (isInterval : tracker.pollInterval = .exact interval)
  (positive : 0 < interval) (instant : Delayed 0 world.toSurroundings)
  (isNow : world.now = .exact before) (inTime : before ≤ deadline)
  (going : final.isCancelled = false) (answered : ∀ exchange ∈ exchangesOf added, exchange.isAnswered = true)
  (enough : ⌈(deadline - before) / interval⌉₊ < world.horizon)

include isInterval positive instant isNow inTime going answered enough

/-- A first phase that is answered throughout, but with no block number, times out. -/
theorem ReceiptPolls.timesOut {result : Except Fault Receipt}
    (polls : tracker.ReceiptPolls pending (.exact deadline) world added result final)
    (unmined : firstMined (exchangesOf added) = none) :
    tracker.TimesOut pending deadline interval (deadline - before) none added result final ∧
      requestsOf added = List.replicate (⌈(deadline - before) / interval⌉₊ + 1)
        (.transactionReceipt pending.txHash) := by
  rcases polls with ⟨repeated, phase, _⟩
  have areQuiet : ∀ exchange ∈ exchangesOf added, exchange.isAnswered = true ∧ exchange.mined? = none :=
    fun exchange mem => ⟨answered exchange mem, List.findSome?_eq_none_iff.mp unmined exchange mem⟩
  rcases timesOut_of_repeated isInterval instant isNow positive inTime
    (undecisive_receiptVerdict pending.txHash) trivial areQuiet going enough repeated with
    ⟨timesOut, counted⟩
  exact ⟨timesOut, List.eq_replicate_iff.mpr ⟨counted, phase.polling.requests⟩⟩

/-- A second phase that is answered throughout, but with heights that are too low, times out. -/
theorem HeightPolls.timesOut {receipt : Receipt} {block : Int} {wanted : Nat} {result : Except Fault Datum}
    (isBlock : receipt.blockNumber = .int block) (isWanted : 0 < wanted)
    (polls : tracker.HeightPolls pending (.int wanted) (.exact deadline) receipt world added result final)
    (areLow : ToldBelow (block + wanted) (exchangesOf added)) :
    tracker.TimesOut pending deadline interval (deadline - before) (some receipt) added result final := by
  rcases polls with ⟨repeated, phase⟩
  have areQuiet : ∀ exchange ∈ exchangesOf added,
      ∃ height : Int, exchange = ⟨.blockNumber, .ok (.int height)⟩ ∧ height < block + wanted := by
    rintro ⟨request, outcome⟩ mem
    obtain rfl : request = .blockNumber := phase.polling.exchanges _ mem
    rcases outcome with fault | height
    · cases answered _ mem
    · rcases areLow height mem with ⟨number, rfl, isLow⟩
      exact ⟨number, rfl, isLow⟩
  have isKept : ∃ earlier, receipt.blockNumber = .int (block + depthOver block earlier) ∧
      depthOver block earlier < wanted := by
    refine ⟨[], ?_, ?_⟩
    · rw [isBlock, depthOver_nil, add_zero]
    · rw [depthOver_nil]
      omega
  exact (timesOut_of_repeated isInterval instant isNow positive inTime
    (undecisive_heightVerdict isBlock) isKept areQuiet going enough repeated).1

/-- Whatever follows a successful receipt, if it is answered throughout, but with heights that are too low, times
out. -/
theorem Concluded.timesOut {receipt : Receipt} {block : Int} {wanted : Nat}
    {result : Except Fault TrackingResult} (isSuccess : receipt.succeeded = true)
    (isBlock : receipt.blockNumber = .int block) (isWanted : 0 < wanted)
    (concluded : Concluded pending (.int wanted) receipt
      (tracker.HeightPolls pending (.int wanted) (.exact deadline) receipt) world added result final)
    (areLow : ToldBelow (block + wanted) (exchangesOf added)) :
    tracker.TimesOut pending deadline interval (deadline - before) (some receipt) added result final := by
  have polled {notes polled : List Entry} {seen last : World σ} {ended : Except Fault Datum}
      (noted : Noted (world.entering .included) notes seen)
      (phase : tracker.HeightPolls pending (.int wanted) (.exact deadline) receipt seen polled ended last)
      (going : last.isCancelled = false)
      (areAnswered : ∀ exchange ∈ exchangesOf (notes ++ polled), exchange.isAnswered = true)
      (low : ToldBelow (block + wanted) (exchangesOf (notes ++ polled))) :
      tracker.TimesOut pending deadline interval (deadline - before) (some receipt) (notes ++ polled)
        ended last := by
    rw [exchangesOf_append, noted.silent.exchanges, List.nil_append] at areAnswered low
    have isNowSeen := noted.now.trans isNow
    have surroundings := noted.surroundings
    have timesOut := phase.timesOut isInterval positive (by rwa [surroundings]) isNowSeen inTime going
      areAnswered (by rwa [surroundings]) isBlock isWanted low
    exact timesOut.after (.of_awake inTime noted.silent.sleeps)
  cases concluded with
  | untold isReverted => simp [isSuccess] at isReverted
  | reverted isReverted => simp [isSuccess] at isReverted
  | confirmedAtOnce _ unwanted => simp [isWanted] at unwanted
  | unconfirmed _ _ noted phase => exact (polled noted phase going answered areLow).error
  | confirmed _ _ noted phase => cases (polled noted phase going answered areLow).fault

end

/-! ## Tracking -/

/-- The world of an endpoint that is asked four times at most for each thing. -/
def unasked : World Nat :=
  { World.steady 0 4 with endpoint := 0 }

end Tracker

end WasmDeploy
