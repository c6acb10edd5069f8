import WasmDeploy.Client
import WasmDeploy.Proofs.Congruence

/-!
# Conversations with an endpoint

This file reads the journal as a conversation: the requests that were made, each with what came back, and the
sleeps in between. It describes what a single request adds to the conversation, by whichever way the client
reaches the endpoint, and what a call adds that carries one over HTTP.
-/

namespace WasmDeploy

/-- A request and what came back. -/
structure Exchange where
  request : Request
  outcome : Except Fault request.Reply

/-- Whether a request was answered rather than failed. -/
def Exchange.isAnswered (exchange : Exchange) : Bool :=
  exchange.outcome.isOk

namespace Entry

/-- The request that an entry is about when it is made. -/
def request? (entry : Entry) : Option Request :=
  match entry.event with
  | .call request => some request
  | _ => none

/-- The request that an entry is about when it is over, with what came back. -/
def exchange? (entry : Entry) : Option Exchange :=
  match entry.event with
  | .reply request outcome => some ⟨request, outcome⟩
  | _ => none

/-- The time when a sleep starts, and how long it is. -/
def sleep? (entry : Entry) : Option (Measure × Measure) :=
  match entry.event with
  | .sleep duration => some (entry.time, duration)
  | _ => none

/-- The body of the post that an entry tells of. -/
def post? (entry : Entry) : Option Datum :=
  match entry.event with
  | .post _ body _ => some body
  | _ => none

/-- The message of a warning. -/
def warning? (entry : Entry) : Option Message :=
  match entry.event with
  | .log .warning _ message => some message
  | _ => none

/-- Whether an entry is a log record. -/
def IsLog (entry : Entry) : Prop :=
  ∃ severity component message, entry.event = .log severity component message

/-- Whether an entry belongs to the making of a request: a log record, or the post that carries it. -/
def Carries (request : Request) (entry : Entry) : Prop :=
  entry.IsLog ∨ ∃ url id timeout, entry.event = .post url
    (JsonRpc.callBody (JsonRpc.methodOf request) (.list (JsonRpc.parametersOf request)) id) timeout

section

variable (time : Measure) (tracking : Option TrackingState) (request : Request)

@[simp]
theorem isLog_log (severity : Severity) (component : Component) (message : Message) :
    IsLog ⟨time, tracking, .log severity component message⟩ :=
  ⟨_, _, _, rfl⟩

@[simp]
theorem carries_log (severity : Severity) (component : Component) (message : Message) :
    Carries request ⟨time, tracking, .log severity component message⟩ :=
  Or.inl (isLog_log time tracking severity component message)

@[simp]
theorem carries_post (url : String) (id : Nat) (timeout : Measure) :
    Carries request ⟨time, tracking, .post url (JsonRpc.callBody (JsonRpc.methodOf request)
      (.list (JsonRpc.parametersOf request)) id) timeout⟩ :=
  Or.inr ⟨_, _, _, rfl⟩

end

end Entry

/-- The requests that entries tell of, in their order. -/
def requestsOf (entries : List Entry) : List Request :=
  entries.filterMap Entry.request?

/-- The requests that entries tell of, each with what came back. -/
def exchangesOf (entries : List Entry) : List Exchange :=
  entries.filterMap Entry.exchange?

/-- The sleeps that entries tell of, each with the time when it starts. -/
def sleepsOf (entries : List Entry) : List (Measure × Measure) :=
  entries.filterMap Entry.sleep?

/-- The bodies that entries tell to have been posted. -/
def postsOf (entries : List Entry) : List Datum :=
  entries.filterMap Entry.post?

/-- The warnings among entries, each as its message. -/
def warningsOf (entries : List Entry) : List Message :=
  entries.filterMap Entry.warning?

/-- What entries tell of besides log records: requests, posts, sleeps and ends of sessions, with their times. -/
def actsOf (entries : List Entry) : List Entry :=
  entries.filter fun entry =>
    match entry.event with
    | .log .. => false
    | _ => true

section

variable (first second : List Entry)

@[simp]
theorem requestsOf_nil : requestsOf [] = [] := rfl

@[simp]
theorem requestsOf_append : requestsOf (first ++ second) = requestsOf first ++ requestsOf second :=
  List.filterMap_append

@[simp]
theorem exchangesOf_nil : exchangesOf [] = [] := rfl

@[simp]
theorem exchangesOf_append :
    exchangesOf (first ++ second) = exchangesOf first ++ exchangesOf second :=
  List.filterMap_append

@[simp]
theorem sleepsOf_nil : sleepsOf [] = [] := rfl

@[simp]
theorem sleepsOf_append : sleepsOf (first ++ second) = sleepsOf first ++ sleepsOf second :=
  List.filterMap_append

@[simp]
theorem postsOf_nil : postsOf [] = [] := rfl

@[simp]
theorem postsOf_append : postsOf (first ++ second) = postsOf first ++ postsOf second :=
  List.filterMap_append

@[simp]
theorem warningsOf_nil : warningsOf [] = [] := rfl

@[simp]
theorem warningsOf_append : warningsOf (first ++ second) = warningsOf first ++ warningsOf second :=
  List.filterMap_append

@[simp]
theorem actsOf_append : actsOf (first ++ second) = actsOf first ++ actsOf second :=
  List.filter_append ..

variable (entries : List Entry)

/-- Log records tell of no request. -/
@[simp]
theorem requestsOf_actsOf : requestsOf (actsOf entries) = requestsOf entries := by
  rw [requestsOf, actsOf, List.filterMap_filter]
  congr 1
  funext ⟨time, tracking, event⟩
  cases event <;> rfl

/-- Log records tell of no exchange. -/
@[simp]
theorem exchangesOf_actsOf : exchangesOf (actsOf entries) = exchangesOf entries := by
  rw [exchangesOf, actsOf, List.filterMap_filter]
  congr 1
  funext ⟨time, tracking, event⟩
  cases event <;> rfl

end

section

variable (time : Measure) (tracking : Option TrackingState) (severity : Severity)
  (component : Component) (message : Message) (rest : List Entry)

@[simp]
theorem exchangesOf_log :
    exchangesOf (⟨time, tracking, .log severity component message⟩ :: rest) = exchangesOf rest := rfl

@[simp]
theorem warningsOf_info :
    warningsOf (⟨time, tracking, .log .info component message⟩ :: rest) = warningsOf rest := rfl

variable (duration : Measure)

@[simp]
theorem requestsOf_sleep :
    requestsOf (⟨time, tracking, .sleep duration⟩ :: rest) = requestsOf rest := rfl

@[simp]
theorem exchangesOf_sleep :
    exchangesOf (⟨time, tracking, .sleep duration⟩ :: rest) = exchangesOf rest := rfl

@[simp]
theorem sleepsOf_sleep :
    sleepsOf (⟨time, tracking, .sleep duration⟩ :: rest) = (time, duration) :: sleepsOf rest := rfl

@[simp]
theorem postsOf_sleep :
    postsOf (⟨time, tracking, .sleep duration⟩ :: rest) = postsOf rest := rfl

end

theorem actsOf_record_log {σ : Type} (world : World σ) (severity : Severity) (component : Component)
    (message : Message) :
    actsOf (world.record (.log severity component message)).entries = actsOf world.entries := by
  simp [actsOf]

/-- Entries that tell of no request and of no sleep. -/
structure Silent (entries : List Entry) : Prop where
  requests : requestsOf entries = []
  exchanges : exchangesOf entries = []
  sleeps : sleepsOf entries = []

namespace Silent

theorem of_forall {entries : List Entry}
    (silent : ∀ entry ∈ entries, entry.request? = none ∧ entry.exchange? = none ∧ entry.sleep? = none) :
    Silent entries where
  requests := List.filterMap_eq_nil_iff.mpr fun entry mem => (silent entry mem).1
  exchanges := List.filterMap_eq_nil_iff.mpr fun entry mem => (silent entry mem).2.1
  sleeps := List.filterMap_eq_nil_iff.mpr fun entry mem => (silent entry mem).2.2

theorem nil : Silent [] := ⟨rfl, rfl, rfl⟩

theorem append {first second : List Entry} (left : Silent first) (right : Silent second) :
    Silent (first ++ second) where
  requests := by simp [left.requests, right.requests]
  exchanges := by simp [left.exchanges, right.exchanges]
  sleeps := by simp [left.sleeps, right.sleeps]

theorem of_carries {entries : List Entry} {request : Request}
    (carry : ∀ entry ∈ entries, entry.Carries request) : Silent entries := by
  apply of_forall
  intro entry mem
  rcases carry entry mem with ⟨_, _, _, event⟩ | ⟨_, _, _, event⟩ <;>
    simp [Entry.request?, Entry.exchange?, Entry.sleep?, event]

theorem of_isLog {entries : List Entry} (logs : ∀ entry ∈ entries, entry.IsLog) : Silent entries :=
  @of_carries entries .gasPrice fun entry mem => Or.inl (logs entry mem)

theorem log (time : Measure) (tracking : Option TrackingState) (severity : Severity)
    (component : Component) (message : Message) :
    Silent [⟨time, tracking, .log severity component message⟩] :=
  ⟨rfl, rfl, rfl⟩

end Silent

variable {σ : Type}

/-- The world after a request: only the clock and the counts of calls and of posts may have moved on, apart
from the endpoint and the journal. -/
structure World.AfterRequest (world final : World σ) : Prop where
  surroundings : final.toSurroundings = world.toSurroundings
  tracking : final.tracking = world.tracking
  sleeps : final.sleeps = world.sleeps
  passes : final.calls = world.calls ∧ final.now = world.now ∨
    final.calls = world.calls + 1 ∧ world.elapse world.calls world.now = some final.now

/-- What a request adds to the journal, and the world after it. -/
structure Asked (request : Request) (world : World σ) (added : List Entry)
    (result : Except Fault request.Reply) (final : World σ) : Prop where
  after : world.AfterRequest final
  spelled : ∃ between, (∀ entry ∈ between, entry.Carries request ∧ entry.tracking = world.tracking) ∧
    added = ⟨world.now, world.tracking, .call request⟩ :: between ++
      [⟨final.now, world.tracking, .reply request result⟩]

namespace Asked

variable {request : Request} {world final : World σ} {added : List Entry}
  {result : Except Fault request.Reply}

theorem requests (asked : Asked request world added result final) : requestsOf added = [request] := by
  rcases asked.spelled with ⟨between, carries, rfl⟩
  have silent := Silent.of_carries fun entry mem => (carries entry mem).1
  rw [requestsOf_append, ← List.singleton_append, requestsOf_append, silent.requests]
  rfl

theorem exchanges (asked : Asked request world added result final) :
    exchangesOf added = [⟨request, result⟩] := by
  rcases asked.spelled with ⟨between, carries, rfl⟩
  have silent := Silent.of_carries fun entry mem => (carries entry mem).1
  rw [exchangesOf_append, ← List.singleton_append, exchangesOf_append, silent.exchanges]
  rfl

theorem sleeps (asked : Asked request world added result final) : sleepsOf added = [] := by
  rcases asked.spelled with ⟨between, carries, rfl⟩
  have silent := Silent.of_carries fun entry mem => (carries entry mem).1
  rw [sleepsOf_append, ← List.singleton_append, sleepsOf_append, silent.sleeps]
  rfl

theorem posts (asked : Asked request world added result final) :
    ∀ body ∈ postsOf added, ∃ id, body = JsonRpc.callBody (JsonRpc.methodOf request)
      (.list (JsonRpc.parametersOf request)) id := by
  intro body mem
  rcases asked.spelled with ⟨between, carries, rfl⟩
  rcases List.mem_filterMap.mp mem with ⟨entry, isAdded, isPost⟩
  simp only [List.cons_append, List.mem_cons, List.mem_append, List.not_mem_nil, or_false] at isAdded
  rcases isAdded with rfl | between | rfl
  · simp [Entry.post?] at isPost
  · rcases (carries entry between).1 with ⟨_, _, _, event⟩ | ⟨url, id, timeout, event⟩
    · simp [Entry.post?, event] at isPost
    · simp only [Entry.post?, event, Option.some.injEq] at isPost
      exact ⟨id, isPost.symm⟩
  · simp [Entry.post?] at isPost

theorem states (asked : Asked request world added result final) :
    ∀ entry ∈ added, entry.tracking = world.tracking := by
  rcases asked.spelled with ⟨between, carries, rfl⟩
  simp only [List.cons_append, List.mem_cons, List.mem_append, List.not_mem_nil, or_false]
  rintro entry (rfl | mem | rfl)
  · rfl
  · exact (carries entry mem).2
  · rfl

end Asked

namespace Run

variable {world : World σ}

theorem yields_passCall {described : List Entry → Except Fault Unit → World σ → Prop}
    (passes : ∀ finish, world.elapse world.calls world.now = some finish →
      described [] (.ok ()) (world.afterCall finish))
    (stuck : world.elapse world.calls world.now = none →
      described [] (.error (.defect .beyondFloat)) world) :
    (passCall : Run σ Unit).Yields world described := by
  apply yields_bind
  apply yields_get
  apply yields_bind
  apply yields_lift
  rcases shown : world.elapse world.calls world.now with _ | finish
  · exact stuck shown
  · exact yields_modify rfl (passes finish shown)

theorem yields_answer {α : Type} {described : List Entry → Except Fault α → World σ → Prop}
    {reply : σ → Except Fault α × σ}
    (holds : described [] (reply world.endpoint).1
      { world with endpoint := (reply world.endpoint).2 }) :
    (answer reply).Yields world described := by
  apply yields_bind
  apply yields_get
  apply yields_bind
  apply yields_modify rfl
  exact yields_lift holds

end Run

/-! ## Calls over HTTP -/

/-- The world when a post has been answered at some time. -/
def World.afterPost (world : World σ) (finish : Measure) (endpoint : σ) : World σ :=
  { world.afterCall finish with endpoint }

/-- What is posted for a call. -/
def HttpEndpoint.callOf (endpoint : HttpEndpoint σ) (method : String) (parameters : Datum) (id : Nat) :
    HttpRequest where
  url := endpoint.url
  body := JsonRpc.callBody method parameters id
  timeout := endpoint.timeout

/-- What a call adds to the journal: a log record with its number, and its post if there is one. -/
def HttpEndpoint.entriesOf (endpoint : HttpEndpoint σ) (method : String) (parameters : Datum)
    (world : World σ) (isPosted : Bool) : List Entry :=
  let id := world.posts + 1
  let line := .log .debug .endpoint (.ok s!"RPC {method} -> {endpoint.url} (id={id})")
  let posting := .post endpoint.url (JsonRpc.callBody method parameters id) endpoint.timeout
  ⟨world.now, world.tracking, line⟩ :: if isPosted then [⟨world.now, world.tracking, posting⟩] else []

/-- The ends of a call: without a post if no post can wait as long as the endpoint asks for, without an end that the
clock can show, or with what the outcome of its post comes to. The call is numbered in any case. -/
inductive HttpEndpoint.Called (endpoint : HttpEndpoint σ) (method : String) (parameters : Datum)
    (world : World σ) : List Entry → Except Fault Datum → World σ → Prop where
  | unposted {final : World σ} (endless : endpoint.timeout.toFloat? = none) (alike : world.Alike final)
      (posts : final.posts = world.posts + 1) :
      Called endpoint method parameters world (endpoint.entriesOf method parameters world false)
        (.error (.defect .beyondFloat)) final
  | unfinished {final : World σ} (stuck : world.elapse world.calls world.now = none)
      (alike : world.Alike final) (posts : final.posts = world.posts + 1) :
      Called endpoint method parameters world (endpoint.entriesOf method parameters world true)
        (.error (.defect .beyondFloat)) final
  | heard {finish : Measure} {result : Except Fault Datum} {final : World σ}
      (shown : world.elapse world.calls world.now = some finish)
      (isResult : JsonRpc.resultOf method
        (endpoint.post (endpoint.callOf method parameters (world.posts + 1)) world.endpoint).1 = result)
      (alike : (world.afterPost finish
        (endpoint.post (endpoint.callOf method parameters (world.posts + 1)) world.endpoint).2).Alike final)
      (posts : final.posts = world.posts + 1) :
      Called endpoint method parameters world (endpoint.entriesOf method parameters world true) result final

theorem JsonRpc.checkTimeout_eq_error {timeout : Measure} {fault : Fault}
    (refused : checkTimeout timeout = .error fault) :
    timeout.toFloat? = none ∧ fault = .defect .beyondFloat := by
  simp only [checkTimeout, reject] at refused
  split at refused
  · cases refused
  · next endless => exact ⟨by simpa using endless, (Except.error.inj refused).symm⟩

namespace HttpEndpoint.Called

variable {endpoint : HttpEndpoint σ} {method : String} {parameters : Datum} {world final : World σ}
  {added : List Entry} {result : Except Fault Datum}

theorem posts (called : endpoint.Called method parameters world added result final) :
    final.posts = world.posts + 1 := by
  cases called <;> assumption

/-- A call makes one post, with its number in it, if a post can wait as long as the endpoint asks for. -/
theorem postsOf_added (called : endpoint.Called method parameters world added result final) :
    endpoint.timeout.toFloat? = none ∨
      postsOf added = [JsonRpc.callBody method parameters (world.posts + 1)] := by
  cases called with
  | unposted endless => exact Or.inl endless
  | unfinished => exact Or.inr rfl
  | heard => exact Or.inr rfl

theorem after (called : endpoint.Called method parameters world added result final) :
    world.AfterRequest final := by
  cases called with
  | unposted _ alike =>
      exact ⟨alike.surroundings, alike.tracking, alike.sleeps, Or.inl ⟨alike.calls, alike.now⟩⟩
  | unfinished _ alike =>
      exact ⟨alike.surroundings, alike.tracking, alike.sleeps, Or.inl ⟨alike.calls, alike.now⟩⟩
  | heard shown _ alike =>
      exact ⟨alike.surroundings, alike.tracking, alike.sleeps, Or.inr ⟨alike.calls, alike.now ▸ shown⟩⟩

theorem carries {request : Request} (called : endpoint.Called (JsonRpc.methodOf request)
    (.list (JsonRpc.parametersOf request)) world added result final) :
    ∀ entry ∈ added, entry.Carries request ∧ entry.tracking = world.tracking := by
  cases called <;> simp [entriesOf]

end HttpEndpoint.Called

namespace Client

open Run

variable {world : World σ}

/-- A call ends in one of these ways. -/
theorem called_yields (endpoint : HttpEndpoint σ) (method : String) (parameters : Datum) (world : World σ) :
    (JsonRpc.call endpoint method parameters).Yields world (endpoint.Called method parameters world) := by
  apply yields_bind
  apply yields_bind
  apply yields_get
  apply yields_modify_bind rfl
  apply yields_pure
  apply yields_record_bind
  apply yields_lift_bind
  · intro fault refused
    rcases JsonRpc.checkTimeout_eq_error refused with ⟨endless, rfl⟩
    exact .unposted endless rfl rfl
  intro _ waits
  apply yields_record_bind
  apply yields_bind
  apply yields_passCall
  · intro finish shown
    apply yields_answer
    exact .heard shown rfl rfl rfl
  · intro stuck
    exact .unfinished stuck rfl rfl

/-- A call over HTTP adds its log record and its post, unless the post cannot be made. -/
theorem call_yields (endpoint : HttpEndpoint σ) (request : Request) :
    (JsonRpc.call endpoint (JsonRpc.methodOf request)
      (.list (JsonRpc.parametersOf request))).Yields world fun added _ final =>
      (∀ entry ∈ added, entry.Carries request ∧ entry.tracking = world.tracking) ∧
        world.AfterRequest final :=
  (called_yields endpoint _ _ world).mono fun _ _ _ called => ⟨called.carries, called.after⟩

/-- Carrying a request out adds nothing but what carries the request, and changes nothing else. -/
theorem perform_yields (client : Client σ) (request : Request) :
    (client.perform request).Yields world fun added _ final =>
      (∀ entry ∈ added, entry.Carries request ∧ entry.tracking = world.tracking) ∧
        world.AfterRequest final := by
  cases client with
  | direct answer =>
      apply yields_bind
      apply yields_passCall
      · intro finish shown
        apply yields_answer
        exact ⟨by simp, rfl, rfl, rfl, Or.inr ⟨rfl, shown⟩⟩
      · intro _
        exact ⟨by simp, rfl, rfl, rfl, Or.inl ⟨rfl, rfl⟩⟩
  | http endpoint =>
      apply yields_bind
      apply (call_yields endpoint request).mono
      rintro added (fault | result) final described
      · exact described
      · apply yields_lift
        simpa using described

/-- A request is recorded when it is made and when it is over. -/
theorem ask_yields (client : Client σ) (request : Request) :
    (client.ask request).Yields world (Asked request world) := by
  apply yields_bind
  apply yields_record
  apply yields_noting
  apply (client.perform_yields request).mono
  rintro between result final ⟨carries, after⟩
  exact ⟨⟨after.surroundings, after.tracking, after.sleeps, after.passes⟩, between, carries, by
    simp [after.tracking, World.record]⟩

/-- A request warns of nothing. -/
theorem ask_yields_silently (client : Client σ) (request : Request) :
    (client.ask request).Yields world fun added _ _ => warningsOf added = [] := by
  apply yields_bind
  apply yields_record
  apply yields_noting
  cases client with
  | direct answer =>
      apply yields_bind
      apply yields_passCall
      · intro finish shown
        exact yields_answer rfl
      · exact fun _ => rfl
  | http endpoint =>
      apply yields_bind
      apply (called_yields endpoint _ _ _).mono
      rintro added (fault | result) final called
      · cases called <;> rfl
      · apply yields_lift
        cases called
        rfl

end Client

end WasmDeploy
