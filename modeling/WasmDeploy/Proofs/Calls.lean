import WasmDeploy.Proofs.Answers

/-!
# Calls over HTTP

This file tells for every call what it comes to, by the status and the body of what comes back. A call returns a
result, reports an error of the endpoint, complains about the shape of an answer or about the way to the endpoint,
and the outcome of its post decides which; only a body that is nested too deep ends in a defect instead. Calls that
are made one after another post one body each, numbered in a row, whatever those before them came to.
-/

namespace WasmDeploy

variable {σ α : Type}

/-! ## What a call comes to -/

/-- What the outcome of a post comes to, for each of the ends of a call: exactly when there is a result, when an
error is reported, when the answer is malformed, when the network is at fault, and when the body is nested too
deep. -/
structure JsonRpc.Classifies (method : String) (outcome : HttpOutcome) (result : Except Fault Datum) : Prop where
  answered : ∀ value, result = .ok value ↔
    ∃ response answer, outcome = .ok response ∧ response.status = 200 ∧ response.content = .ok answer ∧
      (∀ reason, ¬answer.HasError reason) ∧ answer.HasResult value
  reported : ∀ error, result = .error (.of (.rpc error)) ↔
    ∃ response answer reason, outcome = .ok response ∧ response.content = .ok answer ∧
      answer.HasError reason ∧ error.Tells method reason
  malformed : (∃ cause, result = .error (.of cause) ∧ cause.kind = .malformedReply) ↔
    ∃ response answer, outcome = .ok response ∧ response.status = 200 ∧ response.content = .ok answer ∧
      ((∀ members, answer ≠ .object members) ∨
        (∀ reason, ¬answer.HasError reason) ∧ ∀ value, ¬answer.HasResult value)
  network : (∃ cause, result = .error (.of cause) ∧ cause.kind = .network) ↔
    (∃ text, outcome = .error text) ∨ ∃ response, outcome = .ok response ∧
      (response.content = .error .malformed ∨
        response.status ≠ 200 ∧ ∃ answer, response.content = .ok answer ∧ ∀ reason, ¬answer.HasError reason)
  nested : ∀ cause, result = .error (.defect cause) ↔
    ∃ response container, outcome = .ok response ∧ response.content = .error (.tooDeep container) ∧
      cause = .nestedTooDeep container.name

namespace JsonRpc

variable {method : String} {outcome : HttpOutcome} {result : Except Fault Datum}

theorem ComesTo.classifies (comesTo : ComesTo method outcome result) : Classifies method outcome result where
  answered value := by
    constructor
    · rintro rfl
      cases comesTo with
      | answered isRead isFine noError hasResult => exact ⟨_, _, rfl, isFine, isRead, noError, hasResult⟩
    · rintro ⟨response, answer, rfl, isFine, isRead, noError, hasResult⟩
      exact comesTo.unique (.answered isRead isFine noError hasResult)
  reported error := by
    constructor
    · rintro rfl
      cases comesTo with
      | reported isRead hasError tells => exact ⟨_, _, _, rfl, isRead, hasError, tells⟩
    · rintro ⟨response, answer, reason, rfl, isRead, hasError, tells⟩
      exact comesTo.unique (.reported isRead hasError tells)
  malformed := by
    constructor
    · rintro ⟨cause, rfl, isMalformed⟩
      cases comesTo with
      | shapeless isRead isFine noObject => exact ⟨_, _, rfl, isFine, isRead, .inl noObject⟩
      | resultless isRead isFine noError noResult =>
          exact ⟨_, _, rfl, isFine, isRead, .inr ⟨noError, noResult⟩⟩
      | _ => cases isMalformed
    · rintro ⟨response, answer, rfl, isFine, isRead, noObject | ⟨noError, noResult⟩⟩
      · exact ⟨_, comesTo.unique (.shapeless isRead isFine noObject), rfl⟩
      · by_cases isObject : ∃ members, answer = .object members
        · rcases isObject with ⟨members, rfl⟩
          exact ⟨_, comesTo.unique (.resultless isRead isFine noError noResult), rfl⟩
        · exact ⟨_, comesTo.unique (.shapeless isRead isFine (not_exists.mp isObject)), rfl⟩
  network := by
    constructor
    · rintro ⟨cause, rfl, isNetwork⟩
      cases comesTo with
      | failed text => exact .inl ⟨text, rfl⟩
      | unreadable isMalformed isFine => exact .inr ⟨_, rfl, .inl isMalformed⟩
      | unreadableRefusal isMalformed isRefused => exact .inr ⟨_, rfl, .inl isMalformed⟩
      | refused isRead noError isRefused => exact .inr ⟨_, rfl, .inr ⟨isRefused, _, isRead, noError⟩⟩
      | _ => cases isNetwork
    · rintro (⟨text, rfl⟩ | ⟨response, rfl, isMalformed | ⟨isRefused, answer, isRead, noError⟩⟩)
      · exact ⟨_, comesTo.unique (.failed text), rfl⟩
      · by_cases isFine : response.status = 200
        · exact ⟨_, comesTo.unique (.unreadable isMalformed isFine), rfl⟩
        · exact ⟨_, comesTo.unique (.unreadableRefusal isMalformed isFine), rfl⟩
      · exact ⟨_, comesTo.unique (.refused isRead noError isRefused), rfl⟩
  nested cause := by
    constructor
    · rintro rfl
      cases comesTo with
      | nested isDeep => exact ⟨_, _, rfl, isDeep, rfl⟩
    · rintro ⟨response, container, rfl, isDeep, rfl⟩
      exact comesTo.unique (.nested isDeep)

end JsonRpc

/-! ## Calls one after another -/

/-- Ends with the result of an operation, whatever that is. -/
def Run.attempt (operation : Run σ α) : Run σ (Except Fault α) :=
  ExceptT.mk do
    let result ← operation.run
    return .ok result

theorem Run.yields_attempt {operation : Run σ α} {world : World σ}
    {described : List Entry → Except Fault (Except Fault α) → World σ → Prop}
    (yields : operation.Yields world fun added result => described added (.ok result)) :
    (attempt operation).Yields world described :=
  yields

namespace JsonRpc

/-- Makes calls one after another, whatever each of them ends with. -/
def callAll (endpoint : HttpEndpoint σ) : List (String × Datum) → Run σ (List (Except Fault Datum))
  | [] => pure []
  | (method, parameters) :: rest => do
      let result ← Run.attempt (call endpoint method parameters)
      let results ← callAll endpoint rest
      return result :: results

open Run

theorem callAll_yields (endpoint : HttpEndpoint σ) (calls : List (String × Datum)) (world : World σ) :
    (callAll endpoint calls).Yields world fun added ends final =>
      (∃ results, ends = .ok results ∧ results.length = calls.length) ∧
        final.posts = world.posts + calls.length ∧
        (endpoint.timeout.toFloat? = none ∨
          postsOf added = calls.mapIdx fun index call => callBody call.1 call.2 (world.posts + index + 1)) := by
  -- What one call leaves is where the next one starts: one post more, whatever the call has ended with.
  induction calls generalizing world with
  | nil => exact yields_pure ⟨⟨[], rfl, rfl⟩, rfl, .inr rfl⟩
  | cons call rest ih =>
      apply yields_bind
      apply yields_attempt
      apply (Client.called_yields endpoint call.1 call.2 world).mono
      intro added result middle called
      apply yields_bind
      apply (ih middle).mono
      rintro more _ final ⟨⟨results, rfl, length⟩, posts, numbered⟩
      apply yields_pure
      refine ⟨⟨result :: results, rfl, congrArg (· + 1) length⟩, ?_, ?_⟩
      · rw [posts, called.posts, List.length_cons]
        omega
      · rcases called.postsOf_added with endless | posted
        · exact .inl endless
        · refine numbered.imp id fun numbered => ?_
          rw [List.append_nil, postsOf_append, posted, numbered, called.posts, List.mapIdx_cons]
          simp only [Nat.add_zero, Nat.add_assoc, Nat.add_comm 1, List.singleton_append]

/-- Every call makes one post and comes to what the outcome of it says, unless no post can wait as long as the
endpoint asks for or the clock cannot show when it is over; and in every row of calls, whatever each of them ends
with, each makes one post, and their numbers go on from those before. -/
theorem call_classifies (endpoint : HttpEndpoint σ) :
    (∀ method parameters world, (call endpoint method parameters).Yields world fun added result _ =>
      (endpoint.timeout.toFloat? = none ∨ world.elapse world.calls world.now = none) ∧
          result = .error (.defect .beyondFloat) ∨
        postsOf added = [callBody method parameters (world.posts + 1)] ∧
          Classifies method
            (endpoint.post (endpoint.callOf method parameters (world.posts + 1)) world.endpoint).1 result) ∧
      ∀ calls world, (callAll endpoint calls).Yields world fun added ends final =>
        (∃ results, ends = .ok results ∧ results.length = calls.length) ∧
          final.posts = world.posts + calls.length ∧
          (endpoint.timeout.toFloat? = none ∨
            postsOf added =
              calls.mapIdx fun index call => callBody call.1 call.2 (world.posts + index + 1)) := by
  refine ⟨?each, callAll_yields endpoint⟩
  case each =>
    intro method parameters world
    apply (Client.called_yields endpoint method parameters world).mono
    intro added result final called
    cases called with
    | unposted endless => exact .inl ⟨.inl endless, rfl⟩
    | unfinished stuck => exact .inl ⟨.inr stuck, rfl⟩
    | heard shown isResult => exact .inr ⟨rfl, (comesTo_iff.mpr isResult).classifies⟩

/-- A response that holds nothing but brackets, one more than may be open. -/
def bracketed : HttpResponse :=
  ⟨500, List.replicate (Json.maxDepth + 1) 0x5b⟩

/-- A body that is no JSON need not be put down to the network: one may open more containers than can be read. -/
theorem exists_unclassified :
    ¬∀ (method : String) (response : HttpResponse), (∀ answer, response.content ≠ .ok answer) →
      ∃ cause, resultOf method (.ok response) = .error (.of cause) ∧ cause.kind = .network := by
  intro classified
  have isDeep : bracketed.content = .error (.tooDeep .array) := by
    simpa [bracketed] using HttpResponse.content_brackets 500 []
  rcases classified "eth_blockNumber" bracketed (by simp [isDeep]) with ⟨cause, isResult, _⟩
  rw [(ComesTo.nested isDeep).eq] at isResult
  cases isResult

end JsonRpc

end WasmDeploy
