import Mathlib.Data.List.Range
import WasmDeploy.Proofs.Answers
import WasmDeploy.Proofs.Exact
import WasmDeploy.Proofs.Tracker.Inclusion

/-!
# The depth that tracking waits for

The second phase of tracking keeps the highest height that it has heard of, and counts the depth from there. As long as
it goes on, that depth is below the one wanted, so the height that ends it is itself the first one that is high enough
and no earlier height counts in the result. What earlier heights do count in are the lines about the depth.
-/

namespace WasmDeploy

open Run

variable {σ α : Type}

/-! ## Depths -/

/-- The depth of the highest of some heights over a block; it is zero if none is above the block. -/
def depthOver (block : Int) (heights : List Int) : Int :=
  max 0 (heights.max?.getD block - block)

/-- The depths that some heights come to one after another, given the ones that were heard before. -/
def depthsOver (block : Int) (earlier heights : List Int) : List Int :=
  (List.range heights.length).map fun index => depthOver block (earlier ++ heights.take (index + 1))

section

variable (block : Int) (earlier heights : List Int)

theorem depthOver_eq_foldl : depthOver block heights = heights.foldl max block - block := by
  rw [depthOver, List.foldl_max]
  omega

@[simp]
theorem depthOver_nil : depthOver block [] = 0 := by
  simp [depthOver]

theorem depthOver_nonneg : 0 ≤ depthOver block heights :=
  Int.le_max_left _ _

theorem depthOver_append_singleton (height : Int) :
    depthOver block (heights ++ [height]) = max (depthOver block heights) (height - block) := by
  simp only [depthOver_eq_foldl, List.foldl_append, List.foldl_cons, List.foldl_nil]
  omega

theorem depthOver_le_append (later : List Int) :
    depthOver block heights ≤ depthOver block (heights ++ later) := by
  induction later generalizing heights with
  | nil => rw [List.append_nil]
  | cons height later ih =>
      rw [List.append_cons]
      apply Int.le_trans _ (ih (heights ++ [height]))
      rw [depthOver_append_singleton]
      exact Int.le_max_left _ _

@[simp]
theorem depthsOver_nil : depthsOver block earlier [] = [] := rfl

theorem depthsOver_cons (height : Int) :
    depthsOver block earlier (height :: heights) =
      depthOver block (earlier ++ [height]) :: depthsOver block (earlier ++ [height]) heights := by
  simp [depthsOver, List.range_succ_eq_map, Function.comp_def]

theorem depthsOver_nonneg : ∀ depth ∈ depthsOver block earlier heights, 0 ≤ depth := by
  intro depth mem
  rcases List.mem_map.mp mem with ⟨index, _, rfl⟩
  exact depthOver_nonneg _ _

/-- No depth is below an earlier one. -/
theorem depthsOver_pairwise : (depthsOver block earlier heights).Pairwise (· ≤ ·) := by
  rw [depthsOver, List.pairwise_map]
  apply List.pairwise_lt_range.imp
  intro first second isBefore
  rcases List.take_prefix_take_left (l := heights) (Nat.succ_le_succ isBefore.le) with ⟨later, split⟩
  rw [← split, ← List.append_assoc]
  exact depthOver_le_append _ _ later

end

/-! ## Lines about the depth -/

/-- The message that an entry logs about a poll. -/
def Entry.detail? (entry : Entry) : Option Message :=
  match entry.event with
  | .log .debug .tracking message => some message
  | _ => none

/-- The messages that entries log about polls. -/
def detailsOf (entries : List Entry) : List Message :=
  entries.filterMap Entry.detail?

@[simp]
theorem detailsOf_nil : detailsOf [] = [] := rfl

@[simp]
theorem detailsOf_append (first second : List Entry) :
    detailsOf (first ++ second) = detailsOf first ++ detailsOf second :=
  List.filterMap_append

/-- A request logs nothing about polls, by whichever way it is made. -/
theorem Client.ask_details (client : Client σ) (request : Request) (world : World σ) :
    (client.ask request).Yields world fun added _ _ => detailsOf added = [] := by
  apply yields_record_bind
  apply yields_noting
  cases client with
  | direct answer =>
      apply yields_bind
      apply yields_passCall
      · exact fun _ _ => yields_answer rfl
      · exact fun _ => rfl
  | http endpoint =>
      apply (performed_yields endpoint request _).mono
      intro added result final performed
      cases performed <;> rfl

/-- The height of the chain, or the block of a receipt that has one, is an integer if an exchange tells of it. -/
def Exchange.CountsBlocks : Exchange → Prop
  | ⟨.blockNumber, .ok height⟩ => ∃ number : Int, height = .int number
  | ⟨.transactionReceipt _, .ok reply⟩ =>
      ∀ receipt, Tracker.mined? reply = some receipt → ∃ number : Int, receipt.blockNumber = .int number
  | _ => True

/-- The blocks and the heights that a client tells of while a transaction is tracked are integers. A client that reaches
its endpoint over HTTP tells of nothing else. -/
def Client.CountsBlocks (client : Client σ) (hash : Datum) : Prop :=
  match client with
  | .direct answer =>
      (∀ state height, (answer .blockNumber state).1 = .ok height → ∃ number : Int, height = .int number) ∧
      ∀ state reply, (answer (.transactionReceipt hash) state).1 = .ok reply →
        ∀ receipt, Tracker.mined? reply = some receipt → ∃ number : Int, receipt.blockNumber = .int number
  | .http _ => True

/-- A direct client gives no replies but those of its answers. -/
theorem Client.ensures_ask_direct {answer : (request : Request) → σ → Except Fault request.Reply × σ}
    {request : Request} {ensured : request.Reply → Prop}
    (answers : ∀ state reply, (answer request state).1 = .ok reply → ensured reply) :
    ((Client.direct answer).ask request).Ensures ensured := by
  intro world reply ends
  have described : ((Client.direct answer).ask request).Yields world fun _ result _ =>
      ∀ reply, result = .ok reply → ensured reply := by
    apply yields_record_bind
    apply yields_noting
    apply yields_bind
    apply yields_passCall
    · intro finish shown
      exact yields_answer (answers _)
    · exact fun _ => nofun
  rcases described with ⟨_, _, ensures⟩
  exact ensures reply ends

/-- A client over HTTP gives no replies but those that the protocol declares. -/
theorem Client.ensures_ask_http (endpoint : HttpEndpoint σ) (request : Request) :
    ((Client.http endpoint).ask request).Ensures request.Declares := by
  intro world reply ends
  rcases ask_answered_iff endpoint request world with ⟨_, _, ⟨_, failed⟩ | ⟨isAnswered, spoils⟩⟩
  · cases ends.symm.trans failed
  · have unspoiled : ¬∃ defect, JsonRpc.Spoils request
        (endpoint.post (endpoint.postOf request (world.posts + 1)) world.endpoint).1 defect := by
      rintro ⟨defect, isSpoiled⟩
      cases ends.symm.trans ((spoils defect).mpr isSpoiled)
    have answered := isAnswered.mpr unspoiled
    rw [ends] at answered
    cases answered with
    | value isDeclared => exact isDeclared

namespace Client.CountsBlocks

variable {client : Client σ} {hash : Datum} (counts : client.CountsBlocks hash)

include counts

theorem heights : (client.ask .blockNumber).Ensures fun height => ∃ number : Int, height = .int number := by
  cases client with
  | direct answer => exact ensures_ask_direct counts.1
  | http endpoint =>
      intro world height ends
      cases ensures_ask_http endpoint .blockNumber world height ends with
      | height number => exact ⟨number, rfl⟩

theorem blocks : (client.ask (.transactionReceipt hash)).Ensures fun reply =>
    ∀ receipt, Tracker.mined? reply = some receipt → ∃ number : Int, receipt.blockNumber = .int number := by
  cases client with
  | direct answer => exact ensures_ask_direct counts.2
  | http endpoint =>
      intro world reply ends receipt isMined
      cases ensures_ask_http endpoint (.transactionReceipt hash) world reply ends with
      | pending => cases isMined
      | mined _ quantities =>
          rcases Option.filter_eq_some_iff.mp isMined with ⟨same, placed⟩
          cases same
          rcases quantities.blockNumber with isNull | ⟨number, isNumber⟩
          · simp [isNull, Datum.isNull] at placed
          · exact ⟨number, isNumber⟩

end Client.CountsBlocks

namespace Tracker

/-- The line about a depth of the confirmations that are wanted. -/
def depthMessage (pending : PendingDeployment) (wanted : Nat) (depth : Int) : Message :=
  depthLine pending (.int depth) (.int wanted)

/-! ## What a height says -/

section

variable {pending : PendingDeployment} {receipt : Receipt} {block height : Int} {wanted : Nat}
  {earlier : List Int}

/-- What a height says after others that were too low: it is too low as well, or it is the first that is high enough.
Then the depth is its own, whatever was heard before. -/
inductive Assessed (block : Int) (wanted : Nat) (earlier : List Int) (height : Int) :
    Datum × (Datum ⊕ Datum) → Prop where
  | low (isLow : height < block + wanted) (shallow : depthOver block (earlier ++ [height]) < wanted) :
      Assessed block wanted earlier height (.int (depthOver block (earlier ++ [height])),
        .inl (.int (block + depthOver block (earlier ++ [height]))))
  | high (isHigh : block + wanted ≤ height)
      (isDepth : depthOver block (earlier ++ [height]) = height - block) :
      Assessed block wanted earlier height (.int (depthOver block (earlier ++ [height])),
        .inr (.int (depthOver block (earlier ++ [height]))))

theorem assess_int (isBlock : receipt.blockNumber = .int block) (highest : Int) :
    assess receipt (.int wanted) (.int highest) (.int height) =
      .ok (.int (max 0 (max highest height - block)),
        if (wanted : Int) ≤ max 0 (max highest height - block)
          then .inr (.int (max 0 (max highest height - block))) else .inl (.int (max highest height))) := by
  simp only [assess, isBlock, Datum.larger_int, Datum.excess_int, Datum.isAtLeast_int, decide_eq_true_eq,
    bind, Except.bind, pure, Except.pure]

theorem assess_assessed (isBlock : receipt.blockNumber = .int block)
    (shallow : depthOver block earlier < wanted) (height : Int) :
    ∃ assessment, assess receipt (.int wanted) (.int (block + depthOver block earlier)) (.int height) =
        .ok assessment ∧ Assessed block wanted earlier height assessment := by
  have nonneg := depthOver_nonneg block earlier
  have deepened := depthOver_append_singleton block earlier height
  have isTop : max (block + depthOver block earlier) height =
      block + depthOver block (earlier ++ [height]) := by
    omega
  have isDepth : max 0 (block + depthOver block (earlier ++ [height]) - block) =
      depthOver block (earlier ++ [height]) := by
    omega
  refine ⟨_, assess_int isBlock _, ?_⟩
  rw [isTop, isDepth]
  rcases lt_or_ge (height - block) wanted with isLow | isHigh
  · have stillShallow : depthOver block (earlier ++ [height]) < wanted := by
      omega
    rw [if_neg (Int.not_le.mpr stillShallow)]
    exact .low (by omega) stillShallow
  · have isOwn : depthOver block (earlier ++ [height]) = height - block := by
      omega
    rw [if_pos (isOwn ▸ isHigh)]
    exact .high (by omega) isOwn

end

/-! ## One poll for the height -/

/-- What one poll for the height hears, and the lines that it logs: one about the depth if the height could be
judged. -/
inductive Detailed (pending : PendingDeployment) (receipt : Receipt) (confirmations highest : Datum) :
    List Exchange → List Message → Prop where
  | unasked : Detailed pending receipt confirmations highest [] []
  | failed (fault : Fault) :
      Detailed pending receipt confirmations highest [⟨.blockNumber, .error fault⟩] []
  | heard (height : Int) :
      Detailed pending receipt confirmations highest [⟨.blockNumber, .ok (.int height)⟩]
        ((assess receipt confirmations highest (.int height)).toOption.map fun seen =>
          depthLine pending seen.1 confirmations).toList

theorem poll_detailed (tracker : Tracker) {client : Client σ} {pending : PendingDeployment}
    (counts : client.CountsBlocks pending.txHash) (deadline : Measure) (receipt : Receipt)
    (confirmations highest : Datum) (world : World σ) :
    (tracker.poll client pending deadline (some receipt) .blockNumber
      (judgeHeight pending receipt confirmations highest)).Yields world fun added _ _ =>
        Detailed pending receipt confirmations highest (exchangesOf added) (detailsOf added) := by
  apply yields_bind
  apply yields_checkCancelled
  · exact fun _ => .unasked
  intro _
  apply yields_bind
  apply (((client.ask_yields .blockNumber).and (client.ask_details _ _)).and_ensures counts.heights).mono
  rintro asked (fault | reply) middle ⟨⟨ask, noDetail⟩, isInteger⟩
  · simp only [List.nil_append]
    rw [ask.exchanges, noDetail]
    exact .failed fault
  rcases isInteger reply rfl with ⟨height, rfl⟩
  -- Judging comes to the line, if there is one, and whatever follows it adds none.
  have heard {more : List Entry} (silent : exchangesOf more = [])
      (line : detailsOf more = ((assess receipt confirmations highest (.int height)).toOption.map fun seen =>
        depthLine pending seen.1 confirmations).toList) :
      Detailed pending receipt confirmations highest (exchangesOf (asked ++ more))
        (detailsOf (asked ++ more)) := by
    rw [exchangesOf_append, detailsOf_append, ask.exchanges, noDetail, silent, line]
    exact .heard height
  simp only [judgeHeight]
  apply yields_bind
  apply yields_lift_bind
  · intro fault incomparable
    apply heard rfl
    rw [incomparable]
    rfl
  rintro ⟨depth, verdict⟩ assessed
  rw [assessed] at heard
  apply yields_record_bind
  apply yields_pure
  rcases verdict with next | depth
  · apply yields_bind
    apply yields_pause
    · exact fun _ => heard rfl rfl
    · intro _ duration finish _ _
      exact yields_pure (heard rfl rfl)
    · exact fun _ _ => heard rfl rfl
  · exact yields_pure (heard rfl rfl)

section

variable {pending : PendingDeployment} {receipt : Receipt} {block : Int} {wanted : Nat}
  {earlier : List Int} {reply : Datum} {details : List Message} (isBlock : receipt.blockNumber = .int block)
  (shallow : depthOver block earlier < wanted)
  (detailed : Detailed pending receipt (.int wanted) (.int (block + depthOver block earlier))
    [⟨.blockNumber, .ok reply⟩] details)

include isBlock shallow detailed

/-- A height that was heard has been judged by what it says. -/
theorem Detailed.assessed :
    ∃ (height : Int) (assessment : Datum × (Datum ⊕ Datum)), reply = .int height ∧
      Assessed block wanted earlier height assessment ∧
      details = [depthLine pending assessment.1 (.int wanted)] ∧
      heightVerdict receipt (.int wanted) (.int (block + depthOver block earlier)) reply =
        .ok assessment.2 := by
  cases detailed with
  | heard height =>
      rcases assess_assessed isBlock shallow height with ⟨assessment, isAssessment, assessed⟩
      exact ⟨height, assessment, rfl, assessed, by rw [isAssessment]; rfl,
        by rw [heightVerdict, isAssessment]; rfl⟩

theorem Detailed.low {next : Datum} (judged : heightVerdict receipt (.int wanted)
      (.int (block + depthOver block earlier)) reply = .ok (.inl next)) :
    ∃ height : Int, reply = .int height ∧ height < block + wanted ∧
      depthOver block (earlier ++ [height]) < wanted ∧
      details = (depthsOver block earlier [height]).map (depthMessage pending wanted) ∧
      next = .int (block + depthOver block (earlier ++ [height])) := by
  rcases detailed.assessed isBlock shallow with ⟨height, _, rfl, assessed, rfl, verdict⟩
  rw [verdict] at judged
  cases assessed with
  | low isLow stillShallow =>
      cases judged
      exact ⟨height, rfl, isLow, stillShallow, rfl, rfl⟩
  | high => cases judged

theorem Detailed.high {depth : Datum} (judged : heightVerdict receipt (.int wanted)
      (.int (block + depthOver block earlier)) reply = .ok (.inr depth)) :
    ∃ height : Int, reply = .int height ∧ block + wanted ≤ height ∧
      details = (depthsOver block earlier [height]).map (depthMessage pending wanted) ∧
      depth = .int (height - block) := by
  rcases detailed.assessed isBlock shallow with ⟨height, _, rfl, assessed, rfl, verdict⟩
  rw [verdict] at judged
  cases assessed with
  | low => cases judged
  | high isHigh isDepth =>
      cases judged
      exact ⟨height, rfl, isHigh, rfl, congrArg Datum.int isDepth⟩

theorem Detailed.not_spoiled (fault : Fault) :
    heightVerdict receipt (.int wanted) (.int (block + depthOver block earlier)) reply ≠ .error fault := by
  rcases detailed.assessed isBlock shallow with ⟨_, _, rfl, _, rfl, verdict⟩
  simp [verdict]

end

/-! ## The phase -/

/-- Heights that were asked for and answered. -/
def heightsTold (heights : List Int) : List Exchange :=
  heights.map fun height => ⟨.blockNumber, .ok (.int height)⟩

/-- What waiting for confirmations comes to, given the heights that were heard before: by what it hears, how often it
sleeps, and what it logs. The first height that is high enough ends it, and the depth of that height alone is the
one that counts. Otherwise every height was too low, and waiting is interrupted. -/
inductive Deepens (tracker : Tracker) (pending : PendingDeployment) (due : Option Measure)
    (horizon : Nat) (block : Int) (wanted : Nat) (conclusion : Int → α) (final : World σ)
    (earlier : List Int) : List Exchange → (sleeps : Nat) → List Message → Except Fault α → Prop where
  | reached {lower : List Int} {height : Int} (areLow : ∀ low ∈ lower, low < block + wanted)
      (isHigh : block + wanted ≤ height) :
      Deepens tracker pending due horizon block wanted conclusion final earlier
        (heightsTold (lower ++ [height])) lower.length
        ((depthsOver block earlier (lower ++ [height])).map (depthMessage pending wanted))
        (.ok (conclusion (height - block)))
  | interrupted {lower : List Int} {failed : List Exchange} {sleeps : Nat} {fault : Fault}
      (areLow : ∀ low ∈ lower, low < block + wanted)
      (isFailed : failed = [] ∨ ∃ raised, failed = [⟨.blockNumber, .error raised⟩])
      (isInterrupted : tracker.Interrupted pending due horizon (heightsTold lower ++ failed) final fault)
      (rested : sleeps ≤ lower.length) :
      Deepens tracker pending due horizon block wanted conclusion final earlier
        (heightsTold lower ++ failed) sleeps
        ((depthsOver block earlier lower).map (depthMessage pending wanted)) (.error fault)

section

variable {tracker : Tracker} {pending : PendingDeployment} {due : Option Measure} {deadline : Measure}
  {horizon wanted sleeps : Nat} {block : Int} {receipt : Receipt} {final : World σ} {earlier : List Int}
  {conclusion : Int → α} {exchanges : List Exchange} {details : List Message} {result : Except Fault α}

/-- A height that is high enough ends waiting at once. -/
theorem Deepens.of_high {height : Int} (isHigh : block + wanted ≤ height) :
    tracker.Deepens pending due horizon block wanted conclusion final earlier (heightsTold [height]) 0
      [depthMessage pending wanted (depthOver block (earlier ++ [height]))]
      (.ok (conclusion (height - block))) :=
  @reached _ _ _ _ _ _ _ _ conclusion _ _ [] height (by simp) isHigh

/-- Waiting may be interrupted before it hears any height. -/
theorem Deepens.of_unheard {failed : List Exchange} {fault : Fault}
    (isFailed : failed = [] ∨ ∃ raised, failed = [⟨.blockNumber, .error raised⟩])
    (isInterrupted : tracker.Interrupted pending due horizon failed final fault) :
    tracker.Deepens pending due horizon block wanted conclusion final earlier failed 0 [] (.error fault) :=
  @interrupted _ _ _ _ _ _ _ _ _ _ _ [] failed 0 _ (by simp) isFailed isInterrupted (Nat.le_refl 0)

/-- Waiting may be interrupted after a height that is too low. -/
theorem Deepens.of_low {height : Int} {fault : Fault} (isLow : height < block + wanted)
    (isInterrupted : tracker.Interrupted pending due horizon (heightsTold [height]) final fault) :
    tracker.Deepens pending due horizon block wanted conclusion final earlier (heightsTold [height]) 0
      [depthMessage pending wanted (depthOver block (earlier ++ [height]))] (.error fault) :=
  @interrupted _ _ _ _ _ _ _ _ _ _ _ [height] [] 0 _ (by simpa using isLow) (Or.inl rfl) isInterrupted
    (Nat.zero_le _)

/-- A poll that hears a height that is too low may come before. -/
theorem Deepens.afterLow {height : Int} (isLow : height < block + wanted)
    (deepens : tracker.Deepens pending due horizon block wanted conclusion final (earlier ++ [height])
      exchanges sleeps details result) :
    tracker.Deepens pending due (horizon + 1) block wanted conclusion final earlier
      (heightsTold [height] ++ exchanges) (sleeps + 1)
      (depthMessage pending wanted (depthOver block (earlier ++ [height])) :: details) result := by
  cases deepens with
  | @reached lower height' areLow isHigh =>
      have deepened := @reached _ _ tracker pending due (horizon + 1) block wanted conclusion final earlier
        (height :: lower) height' (List.forall_mem_cons.mpr ⟨isLow, areLow⟩) isHigh
      rwa [List.cons_append, depthsOver_cons] at deepened
  | @interrupted lower failed _ _ areLow isFailed isInterrupted rested =>
      have deepened := @interrupted _ _ tracker pending due (horizon + 1) block wanted conclusion final earlier
        (height :: lower) failed _ _ (List.forall_mem_cons.mpr ⟨isLow, areLow⟩) isFailed
        isInterrupted.afterTurn (Nat.succ_le_succ rested)
      rwa [depthsOver_cons] at deepened

/-- One poll hears a height that is too low and sleeps, or it is all that the phase comes to. -/
theorem Polled.deepens {added : List Entry} {world : World σ} {result : Except Fault (Datum ⊕ Datum)}
    (horizon : Nat) (isBlock : receipt.blockNumber = .int block)
    (shallow : depthOver block earlier < wanted)
    (polled : tracker.Polled pending deadline (some receipt) .blockNumber (heightVerdict receipt
      (.int wanted) (.int (block + depthOver block earlier))) world added result final)
    (detailed : Detailed pending receipt (.int wanted) (.int (block + depthOver block earlier))
      (exchangesOf added) (detailsOf added)) :
    (∃ height : Int, height < block + wanted ∧ depthOver block (earlier ++ [height]) < wanted ∧
      exchangesOf added = heightsTold [height] ∧ (sleepsOf added).length = 1 ∧
      detailsOf added = [depthMessage pending wanted (depthOver block (earlier ++ [height]))] ∧
      result = .ok (.inl (.int (block + depthOver block (earlier ++ [height]))))) ∨
    ∃ ended : Except Fault Datum, result = ended.map Sum.inr ∧
      tracker.Deepens pending (some deadline) (horizon + 1) block wanted Datum.int final earlier
        (exchangesOf added) (sleepsOf added).length (detailsOf added) ended := by
  have turned := polled.turned
  generalize exchangesOf added = exchanges at turned detailed ⊢
  generalize detailsOf added = details at detailed ⊢
  generalize (sleepsOf added).length = sleeps at turned ⊢
  cases turned with
  | undecided judged =>
      rcases detailed.low isBlock shallow judged with ⟨height, rfl, isLow, stillShallow, rfl, rfl⟩
      exact Or.inl ⟨height, isLow, stillShallow, rfl, rfl, rfl, rfl⟩
  | decided judged =>
      rcases detailed.high isBlock shallow judged with ⟨height, rfl, isHigh, rfl, rfl⟩
      exact Or.inr ⟨.ok (.int (height - block)), rfl, .of_high isHigh⟩
  | spoiled judged =>
      exact absurd judged (detailed.not_spoiled isBlock shallow _)
  | cancelled inPlace =>
      cases detailed
      exact Or.inr ⟨.error _, rfl, .of_unheard (Or.inl rfl) (.cancelled inPlace)⟩
  | @failed fault =>
      cases detailed
      exact Or.inr ⟨.error _, rfl, .of_unheard (Or.inr ⟨fault, rfl⟩) (.failed (List.mem_singleton_self _))⟩
  | timedOut judged isUp =>
      rcases detailed.low isBlock shallow judged with ⟨height, rfl, isLow, _, rfl, rfl⟩
      exact Or.inr ⟨.error _, rfl, .of_low isLow (.timedOut rfl isUp)⟩
  | stopped judged unshown =>
      rcases detailed.low isBlock shallow judged with ⟨height, rfl, isLow, _, rfl, rfl⟩
      exact Or.inr ⟨.error _, rfl, .of_low isLow (.stopped unshown)⟩

end

/-- The invariant of the second phase: it goes on from the highest height heard, whose depth is below the one
wanted. -/
theorem awaitDepth_deepens (tracker : Tracker) {client : Client σ} {pending : PendingDeployment}
    {receipt : Receipt} {block : Int} {wanted : Nat} (counts : client.CountsBlocks pending.txHash)
    (isBlock : receipt.blockNumber = .int block) (isWanted : 0 < wanted) (deadline : Measure)
    (polls : Nat) (world : World σ) :
    (tracker.awaitDepth client pending receipt (.int wanted) deadline polls receipt.blockNumber).Yields world
      fun added result final => tracker.Deepens pending (some deadline) polls block wanted Datum.int final []
        (exchangesOf added) (sleepsOf added).length (detailsOf added) result := by
  apply (repeatUntil_yields (fun highest world =>
    (tracker.poll_yields client pending deadline (some receipt)
      (judges_judgeHeight pending receipt (.int wanted) highest) world).and
    (tracker.poll_detailed counts deadline receipt (.int wanted) highest world)) polls _ world).mono
  intro added result final repeated
  have shallow : depthOver block [] < wanted := by
    rw [depthOver_nil]
    omega
  have start : receipt.blockNumber = .int (block + depthOver block []) := by
    rw [isBlock, depthOver_nil, Int.add_zero]
  rw [start] at repeated
  generalize ([] : List Int) = earlier at repeated shallow ⊢
  generalize begun : Datum.int (block + depthOver block earlier) = highest at repeated
  induction repeated generalizing earlier with
  | exhausted =>
      exact .of_unheard (Or.inl rfl) (.unfinished (Nat.zero_le _))
  | failed last =>
      subst begun
      rcases last.1.deepens _ isBlock shallow last.2 with
        ⟨_, _, _, _, _, _, ⟨⟩⟩ | ⟨ended, ends, deepens⟩
      cases ended with
      | error fault =>
          cases ends
          exact deepens
      | ok depth => cases ends
  | ended last =>
      subst begun
      rcases last.1.deepens _ isBlock shallow last.2 with
        ⟨_, _, _, _, _, _, ⟨⟩⟩ | ⟨ended, ends, deepens⟩
      cases ended with
      | error fault => cases ends
      | ok depth =>
          cases ends
          exact deepens
  | again first _ ih =>
      subst begun
      rcases first.1.deepens 0 isBlock shallow first.2 with
        ⟨height, isLow, stillShallow, heard, rested, told, ⟨⟩⟩ | ⟨ended, ends, _⟩
      · have rest := (ih (earlier ++ [height]) stillShallow rfl).afterLow isLow
        rwa [exchangesOf_append, sleepsOf_append, List.length_append, detailsOf_append, heard, rested, told,
          Nat.add_comm 1 (List.length _)]
      · cases ended <;> cases ends

/-! ## Tracking -/

theorem awaitReceipt_ensures (tracker : Tracker) {client : Client σ} {pending : PendingDeployment}
    (counts : client.CountsBlocks pending.txHash) (deadline : Measure) (polls : Nat) :
    (tracker.awaitReceipt client pending deadline polls).Ensures
      fun receipt => ∃ block : Int, receipt.blockNumber = .int block := by
  apply ensures_repeatUntil
  intro _
  apply ensures_bind
  intro _
  refine ensures_bind_of_ensures counts.blocks ?_
  intro reply hasBlock
  have judged : (judgeReceipt pending reply : Run σ (Unit ⊕ Receipt)).Ensures fun verdict =>
      ∀ receipt, verdict = .inr receipt → mined? reply = some receipt := by
    rintro world _ ends receipt rfl
    rcases judges_judgeReceipt pending reply world with ⟨_, _, _, verdict⟩
    exact (receiptVerdict_eq_inr_iff _ _).mp (verdict.symm.trans ends)
  refine ensures_bind_of_ensures judged ?_
  rintro (next | receipt) isMined
  · apply ensures_bind
    rintro _ world _ ⟨⟩ _ ⟨⟩
  · rintro world _ ⟨⟩ _ ⟨⟩
    exact hasBlock receipt (isMined receipt rfl)

/-- What waiting for confirmations comes to for a successful receipt of a block. The depths that it logs are never
negative, and none is below an earlier one. -/
structure Confirms (tracker : Tracker) (pending : PendingDeployment) (due : Option Measure)
    (horizon : Nat) (receipt : Receipt) (block : Int) (wanted : Nat) (polled : List Entry)
    (result : Except Fault TrackingResult) (final : World σ) : Prop where
  deepens : tracker.Deepens pending due horizon block wanted
    (fun depth => ⟨.success, receipt, pending.gasLimit, .int depth, false⟩) final []
    (exchangesOf polled) (sleepsOf polled).length (detailsOf polled) result
  depths : ∃ depths : List Int, detailsOf polled = depths.map (depthMessage pending wanted) ∧
    (∀ depth ∈ depths, 0 ≤ depth) ∧ depths.Pairwise (· ≤ ·)

section

variable {tracker : Tracker} {pending : PendingDeployment} {due : Option Measure} {horizon wanted : Nat}
  {receipt : Receipt} {block : Int} {final : World σ}

theorem Deepens.exists_depths {conclusion : Int → α} {exchanges : List Exchange} {sleeps : Nat}
    {details : List Message} {result : Except Fault α}
    (deepens : tracker.Deepens pending due horizon block wanted conclusion final [] exchanges sleeps details
      result) :
    ∃ depths : List Int, details = depths.map (depthMessage pending wanted) ∧
      (∀ depth ∈ depths, 0 ≤ depth) ∧ depths.Pairwise (· ≤ ·) := by
  cases deepens <;> exact ⟨_, rfl, depthsOver_nonneg _ _ _, depthsOver_pairwise _ _ _⟩

/-- The result that tracking makes of the depth does not matter to the phase, nor does what the tracker does then. -/
theorem Deepens.confirms {polled : List Entry} {seen : World σ} {ended : Except Fault Datum}
    (deepens : tracker.Deepens pending due horizon block wanted Datum.int seen [] (exchangesOf polled)
      (sleepsOf polled).length (detailsOf polled) ended)
    (same : ∀ fault, ended = .error fault → final = seen) :
    tracker.Confirms pending due horizon receipt block wanted polled
      (ended.map fun depth => ⟨.success, receipt, pending.gasLimit, depth, false⟩) final := by
  refine ⟨?_, deepens.exists_depths⟩
  generalize exchangesOf polled = exchanges at deepens ⊢
  generalize detailsOf polled = details at deepens ⊢
  generalize (sleepsOf polled).length = sleeps at deepens ⊢
  cases deepens with
  | reached areLow isHigh => exact .reached areLow isHigh
  | @interrupted _ _ _ fault areLow isFailed isInterrupted rested =>
      rw [same fault rfl]
      exact .interrupted areLow isFailed isInterrupted rested

end

theorem Concluded.confirms {tracker : Tracker} {pending : PendingDeployment} {deadline : Measure}
    {wanted : Nat} {receipt : Receipt} {block : Int} {world final : World σ} {after : List Entry}
    {result : Except Fault TrackingResult} (isWanted : 0 < wanted) (isSuccess : receipt.succeeded = true)
    (isBlock : receipt.blockNumber = .int block)
    (concluded : Concluded pending (.int wanted) receipt (fun seen added result final =>
      ∀ block : Int, receipt.blockNumber = .int block →
        tracker.Deepens pending (some deadline) seen.horizon block wanted Datum.int final []
          (exchangesOf added) (sleepsOf added).length (detailsOf added) result) world after result final) :
    ∃ notes polled, after = notes ++ polled ∧ (∀ entry ∈ notes, entry.IsLog) ∧
      tracker.Confirms pending (some deadline) world.horizon receipt block wanted polled result final := by
  cases concluded with
  | untold isReverted => simp [isSuccess] at isReverted
  | reverted isReverted => simp [isSuccess] at isReverted
  | confirmedAtOnce _ unwanted => simp [isWanted] at unwanted
  | unconfirmed _ _ noted phase =>
      refine ⟨_, _, rfl, noted.areLogs, ?_⟩
      have deepens := phase block isBlock
      rw [noted.surroundings] at deepens
      exact deepens.confirms fun _ _ => rfl
  | confirmed _ _ noted phase =>
      refine ⟨_, _, rfl, noted.areLogs, ?_⟩
      have deepens := phase block isBlock
      rw [noted.surroundings] at deepens
      exact deepens.confirms nofun

/-- Unless tracking is interrupted before, a successful receipt is confirmed by the first height that is high
enough. -/
theorem track_confirms (tracker : Tracker) {client : Client σ} {pending : PendingDeployment}
    (counts : client.CountsBlocks pending.txHash) {wanted : Nat} (isWanted : 0 < wanted) (world : World σ) :
    (tracker.track client pending (.int wanted)).Yields world fun added result final =>
      tracker.InterruptedEarly pending world added result final ∨
        ∃ (receipt : Receipt) (block : Int) (before after : List Entry), added = before ++ after ∧
          Takes pending.txHash receipt (exchangesOf before) (sleepsOf before).length ∧
          receipt.blockNumber = .int block ∧
          (receipt.succeeded = true →
            ∃ notes polled, after = notes ++ polled ∧ (∀ entry ∈ notes, entry.IsLog) ∧
              tracker.Confirms pending (world.now.add? tracker.timeout) world.horizon receipt block wanted
                polled result final) := by
  have deepens (deadline : Measure) (receipt : Receipt) (seen : World σ) :
      (tracker.awaitDepth client pending receipt (.int wanted) deadline seen.horizon
        receipt.blockNumber).Yields seen fun added result final =>
          ∀ block : Int, receipt.blockNumber = .int block →
            tracker.Deepens pending (some deadline) seen.horizon block wanted Datum.int final []
              (exchangesOf added) (sleepsOf added).length (detailsOf added) result := by
    by_cases known : ∃ block : Int, receipt.blockNumber = .int block
    · rcases known with ⟨block, isBlock⟩
      apply (tracker.awaitDepth_deepens counts isBlock isWanted deadline _ seen).mono
      intro added result final deepens other isOther
      cases isBlock.symm.trans isOther
      exact deepens
    · apply (tracker.awaitDepth_phase client pending receipt (.int wanted) deadline _ _ seen).mono
      exact fun _ _ _ _ block isBlock => absurd ⟨block, isBlock⟩ known
  apply (tracker.track_yields client pending (.int wanted) world
    (fun deadline begun =>
      ((tracker.awaitReceipt_takesFirst client pending deadline begun).and
        (tracker.awaitReceipt_phase client pending deadline begun.horizon begun)).and_ensures
          (tracker.awaitReceipt_ensures counts deadline begun.horizon)) deepens).mono
  intro added result final tracked
  rcases tracked.takes (fun _ _ _ _ _ phase => phase.1.1) with
    early | ⟨deadline, receipt, notes, begun, polled, middle, after, rfl, taken, due, noted,
      ⟨⟨_, phase⟩, hasBlock⟩, concluded⟩
  · exact Or.inl early
  · rcases hasBlock receipt rfl with ⟨block, isBlock⟩
    refine Or.inr ⟨receipt, block, notes ++ polled, after, rfl, taken, isBlock, ?_⟩
    intro isSuccess
    have confirms := concluded.confirms isWanted isSuccess isBlock
    rw [phase.surroundings, noted.surroundings] at confirms
    rw [due]
    exact confirms

end Tracker

end WasmDeploy
