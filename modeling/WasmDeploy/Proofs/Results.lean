import WasmDeploy.Client.JsonRpc
import WasmDeploy.Proofs.Json

/-!
# Results of posts

This file tells what the outcome of a post comes to, case by case: the post fails on its way, its body cannot be
read, it reports an error, its status or its shape is not as it should be, or it holds a result. The cases are
told by what the body says as JSON and in the order in which they count: an error that is reported comes before
the status, and the status before the shape.
-/

namespace WasmDeploy

/-- What the body of a response says as JSON. -/
def HttpResponse.content (response : HttpResponse) : Except Json.Refusal Datum :=
  Json.read (Text.decodeUtf8 response.body)

/-- A bracket is one byte. -/
theorem Text.decodeFrom_brackets (count : Nat) (rest : Bytes) :
    decodeFrom none (List.replicate count 0x5b ++ rest) = List.replicate count '[' ++ decodeFrom none rest := by
  induction count with
  | zero => rfl
  | succ count ih =>
      simp only [List.replicate_succ, List.cons_append, decodeFrom, ih]
      rfl

/-- A body that starts with more brackets than may be open says nothing as JSON. -/
theorem HttpResponse.content_brackets (status : Int) (rest : Bytes) :
    content ⟨status, List.replicate (Json.maxDepth + 1) 0x5b ++ rest⟩ = .error (.tooDeep .array) := by
  rw [content, Text.decodeUtf8, Text.decodeFrom_brackets, Json.read_brackets]

/-- An answer is an object with a member for an error, and that is not null. -/
def Datum.HasError (answer reason : Datum) : Prop :=
  ∃ members, answer = .object members ∧ member? members "error" = some reason ∧ reason ≠ .null

/-- An answer is an object with a member for a result. -/
def Datum.HasResult (answer result : Datum) : Prop :=
  ∃ members, answer = .object members ∧ member? members "result" = some result

namespace Datum

theorem hasError_object_iff {members : List (Text × Datum)} {reason : Datum} :
    (object members).HasError reason ↔
      (member? members "error").getD .null = reason ∧ reason ≠ .null := by
  simp only [HasError, object.injEq, exists_eq_left']
  constructor
  · rintro ⟨isMember, given⟩
    exact ⟨by rw [isMember, Option.getD_some], given⟩
  · rintro ⟨rfl, given⟩
    cases isMember : member? members "error" with
    | none => exact absurd (by rw [isMember, Option.getD_none]) given
    | some reason => exact ⟨rfl, by rwa [isMember, Option.getD_some] at given⟩

theorem getD_error_eq_null {members : List (Text × Datum)}
    (noError : ∀ reason, ¬(object members).HasError reason) :
    (member? members "error").getD .null = .null := by
  by_contra given
  exact noError _ (hasError_object_iff.mpr ⟨rfl, given⟩)

theorem not_hasError_of_ne_object {answer : Datum} (noObject : ∀ members, answer ≠ object members)
    (reason : Datum) : ¬answer.HasError reason := by
  rintro ⟨members, isObject, _⟩
  exact noObject members isObject

theorem hasResult_object_iff {members : List (Text × Datum)} {result : Datum} :
    (object members).HasResult result ↔ member? members "result" = some result := by
  simp [HasResult]

end Datum

/-- The error that the member for it stands for: code, message and data are those of an object, and the message is
the plain text of anything else. -/
inductive RpcError.Tells (method : String) : Datum → RpcError → Prop where
  | object (members : List (Text × Datum)) : Tells method (.object members) {
      method := .text method
      code := (Datum.member? members "code").getD .null
      message := .text ((Datum.member? members "message").getD (.text "")).wording
      data := (Datum.member? members "data").getD .null }
  | other {reason : Datum} (isOther : ∀ members, reason ≠ .object members) : Tells method reason {
      method := .text method
      code := .null
      message := .text reason.wording
      data := .null }

namespace JsonRpc

/-- What the outcome of a post to a method comes to. -/
inductive ComesTo (method : String) : HttpOutcome → Except Fault Datum → Prop where
  | failed (text : String) : ComesTo method (.error text) (.error (.of (.transport method text)))
  | nested {response : HttpResponse} {container : Json.Container}
      (isDeep : response.content = .error (.tooDeep container)) :
      ComesTo method (.ok response) (.error (.defect (.nestedTooDeep container.name)))
  | unreadable {response : HttpResponse} (isMalformed : response.content = .error .malformed)
      (isFine : response.status = 200) :
      ComesTo method (.ok response) (.error (.of (.bodyNotJson method)))
  | unreadableRefusal {response : HttpResponse} (isMalformed : response.content = .error .malformed)
      (isRefused : response.status ≠ 200) :
      ComesTo method (.ok response) (.error (.of (.httpStatus method response.status)))
  | reported {response : HttpResponse} {answer reason : Datum} {error : RpcError}
      (isRead : response.content = .ok answer) (hasError : answer.HasError reason)
      (tells : error.Tells method reason) : ComesTo method (.ok response) (.error (.of (.rpc error)))
  | refused {response : HttpResponse} {answer : Datum} (isRead : response.content = .ok answer)
      (noError : ∀ reason, ¬answer.HasError reason) (isRefused : response.status ≠ 200) :
      ComesTo method (.ok response) (.error (.of (.httpStatus method response.status)))
  | shapeless {response : HttpResponse} {answer : Datum} (isRead : response.content = .ok answer)
      (isFine : response.status = 200) (noObject : ∀ members, answer ≠ .object members) :
      ComesTo method (.ok response) (.error (.of (.answerNotObject method)))
  | resultless {response : HttpResponse} {members : List (Text × Datum)}
      (isRead : response.content = .ok (.object members)) (isFine : response.status = 200)
      (noError : ∀ reason, ¬(Datum.object members).HasError reason)
      (noResult : ∀ result, ¬(Datum.object members).HasResult result) :
      ComesTo method (.ok response) (.error (.of (.answerWithoutResult method)))
  | answered {response : HttpResponse} {answer result : Datum} (isRead : response.content = .ok answer)
      (isFine : response.status = 200) (noError : ∀ reason, ¬answer.HasError reason)
      (hasResult : answer.HasResult result) : ComesTo method (.ok response) (.ok result)

theorem tells_errorOf (method : String) (reason : Datum) :
    ∃ error, errorOf method reason = .rpc error ∧ error.Tells method reason := by
  cases reason with
  | object members => exact ⟨_, rfl, .object members⟩
  | _ => exact ⟨_, rfl, .other (by simp)⟩

theorem comesTo_resultOfAnswer (method : String) {response : HttpResponse} {answer : Datum}
    (isRead : response.content = .ok answer) :
    ComesTo method (.ok response) (resultOfAnswer method response.status answer) := by
  unfold resultOfAnswer
  split
  · next members =>
    split
    · next isNull =>
      have noError (reason : Datum) : ¬(Datum.object members).HasError reason := by
        rw [Datum.hasError_object_iff, isNull]
        rintro ⟨rfl, given⟩
        exact given rfl
      split
      · next isRefused => exact .refused isRead noError isRefused
      · next isFine =>
        have isFine := not_not.mp isFine
        split
        · next result isResult =>
          exact .answered isRead isFine noError (Datum.hasResult_object_iff.mpr isResult)
        · next isMissing =>
          apply ComesTo.resultless isRead isFine noError
          intro result
          rw [Datum.hasResult_object_iff, isMissing]
          exact Option.some_ne_none result ∘ Eq.symm
    · next reason given =>
      rcases tells_errorOf method ((Datum.member? members "error").getD .null) with ⟨error, isError, tells⟩
      rw [isError]
      exact .reported isRead (Datum.hasError_object_iff.mpr ⟨rfl, given⟩) tells
  · next noObject =>
    split
    · next isRefused => exact .refused isRead (Datum.not_hasError_of_ne_object noObject) isRefused
    · next isFine => exact .shapeless isRead (not_not.mp isFine) noObject

theorem comesTo_resultOf (method : String) (outcome : HttpOutcome) :
    ComesTo method outcome (resultOf method outcome) := by
  unfold resultOf
  split
  · exact .failed _
  · next response =>
    split
    · next isRead => exact comesTo_resultOfAnswer method isRead
    · next isDeep => exact .nested isDeep
    · next isMalformed =>
      split
      · next isRefused => exact .unreadableRefusal isMalformed isRefused
      · next isFine => exact .unreadable isMalformed (not_not.mp isFine)

theorem errorOf_of_tells {method : String} {reason : Datum} {error : RpcError}
    (tells : error.Tells method reason) : errorOf method reason = .rpc error := by
  cases tells with
  | object members => rfl
  | other isOther => simp [errorOf]

theorem resultOfAnswer_of_hasError {method : String} {status : Int} {answer reason : Datum}
    {error : RpcError} (hasError : answer.HasError reason) (tells : error.Tells method reason) :
    resultOfAnswer method status answer = .error (.of (.rpc error)) := by
  rcases hasError with ⟨members, rfl, isMember, given⟩
  simp only [resultOfAnswer, isMember, Option.getD_some]
  rw [errorOf_of_tells tells]
  rfl

theorem resultOfAnswer_of_refused {method : String} {status : Int} {answer : Datum}
    (noError : ∀ reason, ¬answer.HasError reason) (isRefused : status ≠ 200) :
    resultOfAnswer method status answer = .error (.of (.httpStatus method status)) := by
  cases answer with
  | object members =>
      simp only [resultOfAnswer, Datum.getD_error_eq_null noError, if_pos isRefused]
      rfl
  | _ =>
      simp only [resultOfAnswer, if_pos isRefused]
      rfl

theorem resultOf_of_content {method : String} {response : HttpResponse} {answer : Datum}
    (isRead : response.content = .ok answer) :
    resultOf method (.ok response) = resultOfAnswer method response.status answer := by
  rw [HttpResponse.content] at isRead
  simp only [resultOf, isRead]

/-- An outcome comes to one thing only. -/
theorem ComesTo.eq {method : String} {outcome : HttpOutcome} {result : Except Fault Datum}
    (comesTo : ComesTo method outcome result) : resultOf method outcome = result := by
  cases comesTo with
  | failed text => rfl
  | nested isDeep =>
      rw [HttpResponse.content] at isDeep
      simp only [resultOf, isDeep]
      rfl
  | unreadable isMalformed isFine =>
      rw [HttpResponse.content] at isMalformed
      simp only [resultOf, isMalformed, isFine]
      rfl
  | unreadableRefusal isMalformed isRefused =>
      rw [HttpResponse.content] at isMalformed
      simp only [resultOf, isMalformed, if_pos isRefused]
      rfl
  | reported isRead hasError tells =>
      rw [resultOf_of_content isRead, resultOfAnswer_of_hasError hasError tells]
  | refused isRead noError isRefused =>
      rw [resultOf_of_content isRead, resultOfAnswer_of_refused noError isRefused]
  | shapeless isRead isFine noObject =>
      rw [resultOf_of_content isRead, isFine]
      simp [resultOfAnswer, fail]
  | resultless isRead isFine noError noResult =>
      have isMissing : Datum.member? _ "result" = none :=
        Option.eq_none_iff_forall_ne_some.mpr fun result isResult =>
          noResult result (Datum.hasResult_object_iff.mpr isResult)
      rw [resultOf_of_content isRead, isFine]
      simp [resultOfAnswer, Datum.getD_error_eq_null noError, isMissing, fail]
  | answered isRead isFine noError hasResult =>
      rcases hasResult with ⟨members, rfl, isResult⟩
      rw [resultOf_of_content isRead, isFine]
      simp [resultOfAnswer, Datum.getD_error_eq_null noError, isResult]

theorem ComesTo.unique {method : String} {outcome : HttpOutcome} {first second : Except Fault Datum}
    (comesToFirst : ComesTo method outcome first) (comesToSecond : ComesTo method outcome second) :
    first = second :=
  comesToFirst.eq.symm.trans comesToSecond.eq

/-- An outcome comes to something, and to one thing only. -/
theorem comesTo_iff {method : String} {outcome : HttpOutcome} {result : Except Fault Datum} :
    ComesTo method outcome result ↔ resultOf method outcome = result := by
  constructor
  · exact ComesTo.eq
  · rintro rfl
    exact comesTo_resultOf method outcome

/-- The result of a post can be shown in a message. -/
theorem isShowable_of_resultOf {method : String} {outcome : HttpOutcome} {result : Datum}
    (isResult : resultOf method outcome = .ok result) : result.isShowable = true := by
  cases comesTo_iff.mpr isResult with
  | answered isRead _ _ hasResult =>
      rcases hasResult with ⟨members, rfl, isMember⟩
      have showable := Json.isShowable_of_read isRead
      rw [Datum.isShowable] at showable
      exact Datum.isShowable_of_member? showable isMember

end JsonRpc

end WasmDeploy
