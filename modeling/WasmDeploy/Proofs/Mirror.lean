import WasmDeploy.Proofs.Answers
import WasmDeploy.Proofs.Receipt

/-!
# An endpoint that mirrors a direct client

This file compares the two ways to an endpoint. An endpoint over HTTP mirrors a direct client if it answers every
post with the standard encoding of what the client answers. Then a request ends in the same way over both, and
every way of composing operations keeps that: the operation over HTTP does all that the direct one does, and does
one post more for each request.
-/

namespace WasmDeploy

variable {σ α β : Type}

/-! ## The standard encoding of answers -/

/-- A quantity that may be unknown and what is written for it: null or nothing if it is unknown. -/
inductive Quantity.Encodes : Datum → Option Datum → Prop where
  | unknown : Encodes .null (some .null)
  | omitted : Encodes .null none
  | known (number : Nat) : Encodes (.int number) (some (.text (Text.hexQuantity number)))

/-- A receipt and the members of the object that is written for it. There is a log for each event. -/
structure Receipt.Encodes (receipt : Receipt) (members : List (Text × Datum)) : Prop where
  hash : Datum.member? members "transactionHash" = some receipt.txHash
  status : Datum.member? members "status" =
    some (.text (Text.hexQuantity (if receipt.succeeded then 1 else 0)))
  address : (Datum.member? members "contractAddress").getD .null = receipt.contractAddress
  gasUsed : Quantity.Encodes receipt.gasUsed (Datum.member? members "gasUsed")
  effectiveGasPrice :
    Quantity.Encodes receipt.effectiveGasPrice (Datum.member? members "effectiveGasPrice")
  blockNumber : Quantity.Encodes receipt.blockNumber (Datum.member? members "blockNumber")
  logs : ∃ items, Datum.member? members "logs" = some (.list items) ∧
    receipt.eventCount = .int items.length

/-- A reply to a request and the result that is written for it. -/
inductive Request.Encodes : (request : Request) → request.Reply → Datum → Prop where
  | gasPrice (price : Nat) : Encodes .gasPrice (.int price) (.text (Text.hexQuantity price))
  | count (address : Datum) (count : Nat) :
      Encodes (.transactionCount address) (.int count) (.text (Text.hexQuantity count))
  | height (height : Nat) : Encodes .blockNumber (.int height) (.text (Text.hexQuantity height))
  | sent (raw : Bytes) (hash : Text) : Encodes (.sendRawTransaction raw) (.text hash) (.text hash)
  | pending (hash : Datum) : Encodes (.transactionReceipt hash) none .null
  | mined (hash : Datum) {receipt : Receipt} {members : List (Text × Datum)}
      (encodes : receipt.Encodes members) :
      Encodes (.transactionReceipt hash) (some receipt) (.object members)

/-- What a client answers to a request and the members of the object that is sent back for it: the result, or an
error with a code and a message. -/
inductive Request.EncodesAnswer (request : Request) :
    Except Fault request.Reply → List (Text × Datum) → Prop where
  | replied {reply : request.Reply} {result : Datum} {members : List (Text × Datum)}
      (noError : (Datum.member? members "error").getD .null = .null)
      (isResult : Datum.member? members "result" = some result)
      (encodes : request.Encodes reply result) : EncodesAnswer request (.ok reply) members
  | refused {code : Int} {message : Text} {members details : List (Text × Datum)}
      (isError : Datum.member? members "error" = some (.object details))
      (isCode : Datum.member? details "code" = some (.int code))
      (isMessage : Datum.member? details "message" = some (.text message)) :
      EncodesAnswer request
        (.error (.of (.rpc {
          method := .text (JsonRpc.methodOf request)
          code := .int code
          message := .text message
          data := (Datum.member? details "data").getD .null })))
        members

/-- An endpoint answers each post with status 200 and the encoding of what a direct client answers. -/
structure HttpEndpoint.Mirrors (endpoint : HttpEndpoint σ)
    (answer : (request : Request) → σ → Except Fault request.Reply × σ) : Prop where
  waits : endpoint.timeout.toFloat?.isSome = true
  answers : ∀ request id state, ∃ body members,
    endpoint.post (endpoint.postOf request id) state = (.ok ⟨200, body⟩, (answer request state).2) ∧
      Json.read (Text.decodeUtf8 body) = .ok (.object members) ∧
      request.EncodesAnswer (answer request state).1 members

/-! ## Decoding -/

theorem Quantity.Encodes.decodeOptional {field : String} {value : Datum} {written : Option Datum}
    (encodes : Encodes value written) :
    decodeOptional field (written.getD .null) = .ok value := by
  cases encodes with
  | unknown => rfl
  | omitted => rfl
  | known number => simp [Quantity.decodeOptional, decode_hexQuantity, Except.map]

theorem Receipt.Encodes.decode {receipt : Receipt} {members : List (Text × Datum)}
    (encodes : receipt.Encodes members) : decode (.object members) = .ok receipt := by
  rcases encodes.logs with ⟨items, logs, eventCount⟩
  have status : statusOfCode ((if receipt.succeeded then 1 else 0 : Nat) : Int) = receipt.status := by
    rcases receipt with ⟨_, status, _⟩
    cases status <;> rfl
  rw [decode_eq_ok encodes.hash encodes.status (Quantity.decode_hexQuantity _ _) encodes.address
    encodes.gasUsed.decodeOptional encodes.effectiveGasPrice.decodeOptional encodes.blockNumber.decodeOptional
    (by simp [logs, countEvents]) eventCount, status]

theorem Request.Encodes.replyOf {request : Request} {reply : request.Reply} {result : Datum}
    (encodes : request.Encodes reply result) : JsonRpc.replyOf request result = .ok reply := by
  cases encodes with
  | gasPrice price => simp [JsonRpc.replyOf, Quantity.decode_hexQuantity, Except.map]
  | count address count => simp [JsonRpc.replyOf, Quantity.decode_hexQuantity, Except.map]
  | height height => simp [JsonRpc.replyOf, Quantity.decode_hexQuantity, Except.map]
  | sent raw hash => rfl
  | pending hash => rfl
  | mined hash encodes => simp [JsonRpc.replyOf, JsonRpc.receiptOf, encodes.decode, Except.map]

/-- What is sent back comes to the answer that it is written for. -/
theorem Request.EncodesAnswer.heard {request : Request} {answer : Except Fault request.Reply}
    {members : List (Text × Datum)} {body : Bytes} (encodes : request.EncodesAnswer answer members)
    (isRead : Json.read (Text.decodeUtf8 body) = .ok (.object members)) :
    JsonRpc.heard request (.ok ⟨200, body⟩) = answer := by
  cases encodes with
  | replied noError isResult encodes =>
      simp [JsonRpc.heard, JsonRpc.resultOf, isRead, JsonRpc.resultOfAnswer, noError, isResult, bind,
        Except.bind, encodes.replyOf]
  | refused isError isCode isMessage =>
      simp [JsonRpc.heard, JsonRpc.resultOf, isRead, JsonRpc.resultOfAnswer, JsonRpc.errorOf, isError,
        isCode, isMessage, Datum.wording, fail, bind, Except.bind]

/-! ## The operation over the endpoint -/

/-- Whether an entry tells of the end of a session. -/
def Entry.isClose (entry : Entry) : Bool :=
  match entry.event with
  | .close => true
  | _ => false

namespace HttpEndpoint

variable (endpoint : HttpEndpoint σ)

/-- What is recorded over an endpoint where a direct client records some entries: after the making of a request
come a log record and the post that carries it. The posts are numbered on from those sent before. -/
def carried : (sent : Nat) → List Entry → List Entry
  | _, [] => []
  | sent, entry :: rest =>
      match entry.event with
      | .call request =>
          entry :: ⟨entry.time, entry.tracking, endpoint.lineOf request (sent + 1)⟩ ::
            ⟨entry.time, entry.tracking, endpoint.postingOf request (sent + 1)⟩ ::
            carried (sent + 1) rest
      | _ => entry :: carried sent rest

theorem carried_append (sent : Nat) (first second : List Entry) :
    endpoint.carried sent (first ++ second) =
      endpoint.carried sent first ++ endpoint.carried (sent + (requestsOf first).length) second := by
  induction first generalizing sent with
  | nil => simp [carried]
  | cons entry first ih =>
      rcases entry with ⟨time, tracking, event⟩
      cases event with
      | call request =>
          simp [carried, ih, requestsOf, Entry.request?, Nat.add_comm, Nat.add_left_comm]
      | _ => simp [carried, ih, requestsOf, Entry.request?, List.filterMap_cons]

/-- Whoever looks neither at log records nor at posts sees the same over an endpoint. -/
theorem filterMap_carried {select : Entry → Option β}
    (skips : ∀ time tracking request id,
      select ⟨time, tracking, endpoint.lineOf request id⟩ = none ∧
        select ⟨time, tracking, endpoint.postingOf request id⟩ = none)
    (sent : Nat) (entries : List Entry) :
    (endpoint.carried sent entries).filterMap select = entries.filterMap select := by
  induction entries generalizing sent with
  | nil => rfl
  | cons entry rest ih =>
      rcases entry with ⟨time, tracking, event⟩
      cases event with
      | call request => simp [carried, List.filterMap_cons, skips, ih]
      | _ => simp [carried, List.filterMap_cons, ih]

/-- The bodies that are posted for some requests one after another. -/
def bodiesOf (sent : Nat) (requests : List Request) : List Datum :=
  (requests.zipIdx (sent + 1)).map fun (request, id) => (endpoint.postOf request id).body

/-- Where nothing is posted directly, one body is posted for each request. -/
theorem postsOf_carried (sent : Nat) {entries : List Entry} (direct : postsOf entries = []) :
    postsOf (endpoint.carried sent entries) = endpoint.bodiesOf sent (requestsOf entries) := by
  induction entries generalizing sent with
  | nil => rfl
  | cons entry rest ih =>
      rw [← List.singleton_append, postsOf_append, List.append_eq_nil_iff] at direct
      rcases entry with ⟨time, tracking, event⟩
      cases event with
      | post url body timeout => simp [postsOf, Entry.post?] at direct
      | call request =>
          have rest := ih (sent + 1) direct.2
          simp only [postsOf, requestsOf, bodiesOf] at rest ⊢
          simp [carried, Entry.post?, Entry.request?, lineOf, postingOf, List.filterMap_cons, rest]
      | _ =>
          have rest := ih sent direct.2
          simp only [postsOf, requestsOf] at rest ⊢
          simp [carried, Entry.post?, Entry.request?, List.filterMap_cons, rest]

end HttpEndpoint

/-- An operation over an endpoint ends as one with a direct client does: with the same result, the clock, the
tracker and the counts in the same state, and a journal in which only the posts, and the end of the session, are
added. -/
structure Mirrored (endpoint : HttpEndpoint σ) (sent : Nat) (added : List Entry)
    (result : Except Fault α) (final : World σ) (addedOver : List Entry)
    (resultOver : Except Fault α) (finalOver : World σ) : Prop where
  result : resultOver = result
  alike : final.Alike finalOver
  direct : postsOf added = []
  posts : finalOver.posts = sent + (requestsOf added).length
  entries : addedOver.filter (!·.isClose) = endpoint.carried sent added

theorem Mirrored.append {endpoint : HttpEndpoint σ} {sent : Nat} {added more : List Entry}
    {value : α} {result : Except Fault β} {middle final : World σ} {addedOver moreOver : List Entry}
    {valueOver : Except Fault α} {resultOver : Except Fault β} {middleOver finalOver : World σ}
    (first : Mirrored endpoint sent added (.ok value) middle addedOver valueOver middleOver)
    (second : Mirrored endpoint middleOver.posts more result final moreOver resultOver finalOver) :
    Mirrored endpoint sent (added ++ more) result final (addedOver ++ moreOver) resultOver
      finalOver where
  result := second.result
  alike := second.alike
  direct := by rw [postsOf_append, first.direct, second.direct, List.append_nil]
  posts := by
    rw [second.posts, first.posts, requestsOf_append, List.length_append, Nat.add_assoc]
  entries := by
    rw [List.filter_append, first.entries, second.entries, first.posts,
      HttpEndpoint.carried_append]

/-- Whoever looks neither at log records, at posts nor at the end of a session sees the same over an endpoint. -/
theorem Mirrored.filterMap {endpoint : HttpEndpoint σ} {sent : Nat} {added : List Entry}
    {result : Except Fault α} {final : World σ} {addedOver : List Entry} {resultOver : Except Fault α}
    {finalOver : World σ}
    (mirrored : Mirrored endpoint sent added result final addedOver resultOver finalOver)
    {select : Entry → Option β}
    (skips : ∀ time tracking request id,
      select ⟨time, tracking, endpoint.lineOf request id⟩ = none ∧
        select ⟨time, tracking, endpoint.postingOf request id⟩ = none)
    (skipsClose : ∀ time tracking, select ⟨time, tracking, .close⟩ = none) :
    addedOver.filterMap select = added.filterMap select := by
  rw [← endpoint.filterMap_carried skips sent added, ← mirrored.entries, List.filterMap_filter]
  congr 1
  funext ⟨time, tracking, event⟩
  cases event <;> simp [Entry.isClose, skipsClose]

theorem Mirrored.postsOf {endpoint : HttpEndpoint σ} {sent : Nat} {added : List Entry}
    {result : Except Fault α} {final : World σ} {addedOver : List Entry} {resultOver : Except Fault α}
    {finalOver : World σ}
    (mirrored : Mirrored endpoint sent added result final addedOver resultOver finalOver) :
    postsOf addedOver = endpoint.bodiesOf sent (requestsOf added) := by
  rw [← endpoint.postsOf_carried sent mirrored.direct, ← mirrored.entries]
  simp only [WasmDeploy.postsOf, List.filterMap_filter]
  congr 1
  funext ⟨time, tracking, event⟩
  cases event <;> simp [Entry.isClose, Entry.post?]

namespace Run

/-- An operation ends in the same way as another one does with a direct client. -/
def Mirrors (endpoint : HttpEndpoint σ) (operation operation' : Run σ α) : Prop :=
  ∀ world other : World σ, world.Alike other → operation.Yields world fun added result final =>
    operation'.Yields other (Mirrored endpoint other.posts added result final)

variable {endpoint : HttpEndpoint σ}

theorem mirrors_pure (value : α) : Mirrors endpoint (pure value) (pure value) :=
  fun _ _ alike => yields_pure (yields_pure ⟨rfl, alike, rfl, rfl, rfl⟩)

theorem mirrors_throw (fault : Fault) :
    Mirrors endpoint (throw fault : Run σ α) (throw fault) :=
  fun _ _ alike => yields_throw (yields_throw ⟨rfl, alike, rfl, rfl, rfl⟩)

theorem mirrors_record {event : Event}
    (plain : ∀ time tracking sent, requestsOf [⟨time, tracking, event⟩] = [] ∧
      postsOf [⟨time, tracking, event⟩] = [] ∧
        endpoint.carried sent [⟨time, tracking, event⟩] = [⟨time, tracking, event⟩])
    (stays : ∀ time tracking, Entry.isClose ⟨time, tracking, event⟩ = false) :
    Mirrors endpoint (record event : Run σ Unit) (record event) := by
  intro world other alike
  apply yields_record
  apply yields_record
  rcases plain world.now world.tracking other.posts with ⟨noRequest, noPost, same⟩
  refine ⟨rfl, ?_, noPost, ?_, ?_⟩
  · rw [alike]
    rfl
  · rw [noRequest]
    rfl
  · rw [same, alike.now, alike.tracking]
    simp [stays]

theorem mirrors_modify {change : World σ → World σ} (unposted : Unposted change) :
    Mirrors endpoint (modify change : Run σ Unit) (modify change) := by
  intro world other alike
  apply yields_modify (unposted.entries world)
  apply yields_modify (unposted.entries other)
  exact ⟨rfl, unposted.alike world other alike, rfl, unposted.posts other, rfl⟩

theorem mirrors_get_bind {next next' : World σ → Run σ α}
    (mirrors : ∀ world other, world.Alike other → Mirrors endpoint (next world) (next' other)) :
    Mirrors endpoint (get >>= next) (get >>= next') := by
  intro world other alike
  apply yields_get_bind
  apply (mirrors world other alike world other alike).mono
  intro added result final yields
  exact yields_get_bind yields

/-- What follows an operation may rely on what the operation ensures of its value. -/
theorem mirrors_bind_of_ensures {first first' : Run σ α} {next next' : α → Run σ β}
    (ensured : α → Prop) (mirrors : Mirrors endpoint first first') (ensures : first.Ensures ensured)
    (nextMirrors : ∀ value, ensured value → Mirrors endpoint (next value) (next' value)) :
    Mirrors endpoint (first >>= next) (first' >>= next') := by
  intro world other alike
  apply yields_bind
  apply ((mirrors world other alike).and_ensures ensures).mono
  rintro added (fault | value) middle ⟨mirrored, isEnsured⟩
  · apply yields_bind
    apply mirrored.mono
    rintro addedOver _ middleOver ⟨rfl, alike, direct, posts, entries⟩
    exact ⟨rfl, alike, direct, posts, entries⟩
  · rcases mirrored with ⟨addedOver, entriesOver, mirrored⟩
    apply (nextMirrors value (isEnsured value rfl) _ _ mirrored.alike).mono
    intro more result final yields
    apply yields_bind
    refine ⟨addedOver, entriesOver, ?_⟩
    rw [mirrored.result]
    apply yields.mono
    rintro moreOver resultOver finalOver next
    exact mirrored.append next

/-- A handler may do with a fault what it likes if it does the same on both sides. -/
theorem mirrors_tryCatch {operation operation' : Run σ α} {change : Fault → Fault}
    (mirrors : Mirrors endpoint operation operation') :
    Mirrors endpoint (tryCatch operation fun fault => throw (change fault))
      (tryCatch operation' fun fault => throw (change fault)) := by
  intro world other alike
  apply yields_tryCatch
  apply (mirrors world other alike).mono
  rintro added (fault | value) final ends
  · apply yields_throw
    apply yields_tryCatch
    apply ends.mono
    rintro addedOver _ finalOver ⟨rfl, alike, direct, posts, entries⟩
    apply yields_throw
    simp only [List.append_nil]
    exact ⟨rfl, alike, direct, posts, entries⟩
  · apply yields_tryCatch
    apply ends.mono
    rintro addedOver _ finalOver ⟨rfl, alike, direct, posts, entries⟩
    exact ⟨rfl, alike, direct, posts, entries⟩

theorem mirrors_closing {operation operation' : Run σ α} (mirrors : Mirrors endpoint operation operation') :
    Mirrors endpoint operation (closing operation') := by
  intro world other alike
  apply (mirrors world other alike).mono
  intro added result final yields
  apply yields_noting
  apply yields.mono
  rintro addedOver resultOver finalOver ⟨same, alike, direct, posts, entries⟩
  refine ⟨same, ?_, direct, posts, ?_⟩
  · rw [alike]
    rfl
  · simpa [Entry.isClose] using entries

/-! ## Requests -/

variable {answer : (request : Request) → σ → Except Fault request.Reply × σ}

/-- What carrying a request out over an endpoint comes to, told by the direct client that it mirrors. -/
theorem performed_of_mirrors (mirrors : endpoint.Mirrors answer) {request : Request}
    {world other final : World σ} {added : List Entry} {result : Except Fault request.Reply}
    (alike : world.Alike other) (performed : endpoint.Performed request other added result final) :
    (world.elapse world.calls world.now = none ∧ result = .error (.defect .beyondFloat) ∧
          world.Alike final ∨
        ∃ finish, world.elapse world.calls world.now = some finish ∧
          result = (answer request world.endpoint).1 ∧
          (world.afterPost finish (answer request world.endpoint).2).Alike final) ∧
      final.posts = other.posts + 1 ∧
      added = [⟨world.now, world.tracking, endpoint.lineOf request (other.posts + 1)⟩,
        ⟨world.now, world.tracking, endpoint.postingOf request (other.posts + 1)⟩] := by
  have elapsed : other.elapse = world.elapse := by rw [alike.surroundings]
  cases performed with
  | unposted endless => cases mirrors.waits.symm.trans (congrArg Option.isSome endless)
  | unfinished stuck alikeFinal posts =>
      rw [elapsed, alike.calls, alike.now] at stuck
      rw [alike] at alikeFinal
      exact ⟨Or.inl ⟨stuck, rfl, alikeFinal⟩, posts, by rw [alike.now, alike.tracking]⟩
  | heard shown alikeFinal posts =>
      rw [elapsed, alike.calls, alike.now] at shown
      rcases mirrors.answers request (other.posts + 1) world.endpoint with
        ⟨body, members, posted, isRead, encodes⟩
      rw [alike.endpoint, posted] at alikeFinal
      rw [alike] at alikeFinal
      refine ⟨Or.inr ⟨_, shown, ?_, alikeFinal⟩, posts, by rw [alike.now, alike.tracking]⟩
      rw [alike.endpoint, posted]
      exact encodes.heard isRead

/-- A request ends over an endpoint as it does with the direct client that the endpoint mirrors. -/
theorem mirrors_ask (mirrors : endpoint.Mirrors answer) (request : Request) :
    Mirrors endpoint ((Client.direct answer).ask request) ((Client.http endpoint).ask request) := by
  intro world other alike
  have alikeCalled : (world.record (.call request)).Alike (other.record (.call request)) := by
    rw [alike]
    rfl
  have exchanged {result : Except Fault request.Reply} {middle final : World σ}
      (alikeAfter : middle.Alike final) (posts : final.posts = other.posts + 1) :
      Mirrored endpoint other.posts
        [⟨world.now, world.tracking, .call request⟩,
          ⟨middle.now, middle.tracking, .reply request result⟩]
        result (middle.record (.reply request result))
        [⟨other.now, other.tracking, .call request⟩,
          ⟨world.now, world.tracking, endpoint.lineOf request (other.posts + 1)⟩,
          ⟨world.now, world.tracking, endpoint.postingOf request (other.posts + 1)⟩,
          ⟨final.now, final.tracking, .reply request result⟩]
        result (final.record (.reply request result)) := by
    refine ⟨rfl, ?_, rfl, posts, ?_⟩
    · rw [alikeAfter]
      rfl
    · rw [alike.now, alike.tracking, alikeAfter.now, alikeAfter.tracking]
      rfl
  apply yields_record_bind
  apply yields_noting
  apply yields_bind
  apply yields_passCall
  · intro finish shown
    apply yields_answer
    apply yields_record_bind
    apply yields_noting
    apply (Client.performed_yields endpoint request _).mono
    intro added result final performed
    rcases performed_of_mirrors mirrors alikeCalled performed with ⟨ends, posts, rfl⟩
    rcases ends with ⟨stuck, _⟩ | ⟨_, isShown, rfl, alikeFinal⟩
    · cases shown.symm.trans stuck
    · cases shown.symm.trans isShown
      exact exchanged alikeFinal posts
  · intro stuck
    apply yields_record_bind
    apply yields_noting
    apply (Client.performed_yields endpoint request _).mono
    intro added result final performed
    rcases performed_of_mirrors mirrors alikeCalled performed with ⟨ends, posts, rfl⟩
    rcases ends with ⟨_, rfl, alikeFinal⟩ | ⟨_, isShown, _⟩
    · exact exchanged alikeFinal posts
    · cases stuck.symm.trans isShown

/-- Ending in the same way over an endpoint is kept by every way of composing operations. -/
def mirroring (endpoint : HttpEndpoint σ) : Congruence σ fun _ => False where
  related := Mirrors endpoint
  pure := mirrors_pure
  throw _ := mirrors_throw _
  log _ _ _ := mirrors_record (fun _ _ _ => ⟨rfl, rfl, rfl⟩) fun _ _ => rfl
  recordSleep _ := mirrors_record (fun _ _ _ => ⟨rfl, rfl, rfl⟩) fun _ _ => rfl
  modify := mirrors_modify
  get_bind := mirrors_get_bind
  bind_of_ensures := mirrors_bind_of_ensures
  tryCatch mirrors _ := mirrors_tryCatch mirrors

end Run

end WasmDeploy
