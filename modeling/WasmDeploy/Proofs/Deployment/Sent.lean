import WasmDeploy.Proofs.Deployment.Relay
import WasmDeploy.Proofs.Deployment.Stages
import WasmDeploy.Proofs.Key
import WasmDeploy.Proofs.Rlp

/-!
# What is sent

This file shows that a deployment sends exactly what was asked for. The bytes that are handed to the endpoint are
the one encoding of the nine fields of a transaction that creates a contract from the complete artifact, signed by
the key for the chain of the selected network, and over HTTP the endpoint is posted these same bytes.
-/

namespace WasmDeploy

open Run

variable {σ : Type}

/-! ## Hexadecimal data -/

namespace Text

theorem hexDigitValue?_hexDigit (value : Nat) : hexDigitValue? (hexDigit value) = some (value % 16) := by
  have small (digit : Fin 16) :
      hexDigitValue? (Nat.digitChar digit.val) = some digit.val := by
    revert digit
    decide
  exact small ⟨value % 16, Nat.mod_lt _ (by decide)⟩

/-- The digits of some bytes stand for these bytes. -/
theorem bytesOfHex?_flatMap_hexOfByte (bytes : Bytes) :
    bytesOfHex? (bytes.flatMap hexOfByte) = some bytes := by
  induction bytes with
  | nil => rfl
  | cons byte bytes ih =>
      have bound := byte.toNat_lt
      have joined : byte.toNat / 16 % 16 * 16 + byte.toNat % 16 = byte.toNat := by omega
      simp only [List.flatMap_cons, hexOfByte, List.cons_append, List.nil_append, bytesOfHex?,
        hexDigitValue?_hexDigit, ih, Option.bind_eq_bind, Option.bind_some, joined,
        UInt8.ofNat_toNat, Option.pure_def]

end Text

/-! ## The fields that are signed -/

theorem Crypto.Signature.parity_lower (r s y : Nat) :
    (lower r s y).parity = 0 ∨ (lower r s y).parity = 1 := by
  simp only [lower]
  split
  · exact Nat.mod_two_eq_zero_or_one y
  · exact Nat.mod_two_eq_zero_or_one (y + 1)

namespace TransactionFields

/-- Whole numbers that are not below zero pass the check as they are. -/
theorem check_eq_ok {nonce gasPrice gasLimit : Nat} {payload : Bytes} {chainId : Int}
    {numbers : TransactionNumbers}
    (isChecked : check ⟨.int nonce, .int gasPrice, .int gasLimit, .bytes payload, .int chainId⟩ =
      .ok numbers) :
    ∃ chain : Nat, chainId = chain ∧ numbers = ⟨nonce, gasPrice, gasLimit, payload, some chain⟩ := by
  have positive (name : String) (number : Nat) : natural name (number : Int) = .ok number := by
    simp [natural]
  have accepted : (named ⟨.int nonce, .int gasPrice, .int gasLimit, .bytes payload, .int chainId⟩).filter
      (fun field => !accepts field.1 field.2) = [] := by
    simp [named, accepts]
  simp only [check, accepted, dataBytes, integer, positive, bind, Except.bind] at isChecked
  by_cases isNegative : chainId < 0
  · simp [natural, isNegative, reject] at isChecked
  · obtain ⟨chain, rfl⟩ := Int.eq_ofNat_of_zero_le (Int.not_lt.mp isNegative)
    refine ⟨chain, rfl, ?_⟩
    simp only [positive] at isChecked
    simpa [Datum.isNull, pure, Except.pure] using isChecked.symm

end TransactionFields

/-- The items of a signed transaction that creates a contract: no recipient, no value, and no number with
leading zeros. -/
def creationItems (nonce gasPrice gasLimit : Nat) (artifact : Bytes) (last : List Nat) : List Bytes :=
  [nonce, gasPrice, gasLimit].map Bytes.ofNumber ++ [[], [], artifact] ++ last.map Bytes.ofNumber

namespace TransactionNumbers

theorem decodeList?_of_listBytes {items : List Bytes} {bytes : Bytes}
    (isWritten : listBytes (items.map Rlp.encodeString) = .ok bytes) :
    Rlp.decodeList? bytes = some items := by
  rw [Rlp.decodeList?_eq_some_iff]
  simp only [listBytes] at isWritten
  split at isWritten
  · next isEncoded =>
    cases isWritten
    exact isEncoded
  · cases isWritten

theorem parts_append (nonce gasPrice gasLimit : Nat) (payload : Bytes) (chain : Option Nat)
    (last : List Nat) :
    parts ⟨nonce, gasPrice, gasLimit, payload, chain⟩ ++ last.map Rlp.encodeNumber =
      (creationItems nonce gasPrice gasLimit payload last).map Rlp.encodeString := by
  have isEmpty : Bytes.ofNumber 0 = [] := by rw [Bytes.ofNumber, if_pos rfl]
  simp [parts, creationItems, Rlp.encodeNumber, isEmpty]

end TransactionNumbers

/-- Some bytes are the contract creation with given fields, signed for a chain: they are the one encoding of nine
items, of which the last three are the signature of the hash of the encoding of the first six and the chain. -/
structure Creation (nonce gasPrice gasLimit : Nat) (artifact : Bytes) (chain key : Nat)
    (unsigned : Bytes) (signature : Crypto.Signature) (v : Nat) (raw : Bytes) : Prop where
  unsignedDecodes : Rlp.decodeList? unsigned =
    some (creationItems nonce gasPrice gasLimit artifact [chain, 0, 0])
  isSignature : signature = Crypto.Signature.sign key (Crypto.Keccak.hash unsigned)
  isMark : v = 2 * chain + 35 ∨ v = 2 * chain + 36
  parity : v = 2 * chain + 35 + signature.parity
  decodes : Rlp.decodeList? raw =
    some (creationItems nonce gasPrice gasLimit artifact [v, signature.r, signature.s])
  isOnlyEncoding : ∀ other, Rlp.decodeList? other =
    some (creationItems nonce gasPrice gasLimit artifact [v, signature.r, signature.s]) → other = raw
  noLeadingZeros : ∀ number ∈ [nonce, gasPrice, gasLimit, v, signature.r, signature.s],
    (Bytes.ofNumber number).head? ≠ some 0

/-- Some bytes are a contract creation with given fields that a key has signed for a chain. -/
def Creates (nonce gasPrice gasLimit : Nat) (artifact : Bytes) (chain key : Nat) (raw : Bytes) :
    Prop :=
  ∃ unsigned signature v,
    Creation nonce gasPrice gasLimit artifact chain key unsigned signature v raw

theorem Crypto.Signature.parity_sign (privateKey : Nat) (hash : Bytes) :
    (sign privateKey hash).parity = 0 ∨ (sign privateKey hash).parity = 1 :=
  parity_lower _ _ _

/-- Signing whole numbers for a chain gives a contract creation. -/
theorem creates_of_signNumbers {nonce gasPrice gasLimit : Nat} {payload : Bytes} {chain key : Nat}
    {signed : SignedTransaction}
    (isSigned : TransactionNumbers.sign ⟨nonce, gasPrice, gasLimit, payload, some chain⟩ key =
      .ok signed) :
    Creates nonce gasPrice gasLimit payload chain key signed.raw := by
  let numbers : TransactionNumbers := ⟨nonce, gasPrice, gasLimit, payload, some chain⟩
  change numbers.sign key = .ok signed at isSigned
  rcases unsignedBytes : listBytes numbers.unsignedParts with _ | unsigned
  · simp [TransactionNumbers.sign, unsignedBytes, bind, Except.bind] at isSigned
  simp only [TransactionNumbers.sign, unsignedBytes, bind, Except.bind] at isSigned
  have parity := Crypto.Signature.parity_sign key (Crypto.Keccak.hash unsigned)
  generalize isSignature : Crypto.Signature.sign key (Crypto.Keccak.hash unsigned) = signature
    at isSigned parity
  rcases rawBytes : listBytes (numbers.parts ++
    [numbers.mark signature.parity, signature.r, signature.s].map Rlp.encodeNumber) with _ | raw
  · simp only [rawBytes, reduceCtorEq] at isSigned
  simp only [rawBytes, pure, Except.pure, Except.ok.injEq] at isSigned
  have isMark : numbers.mark signature.parity = 2 * chain + 35 + signature.parity := by
    show 35 + 2 * chain + signature.parity = _
    omega
  have unsignedDecodes : Rlp.decodeList? unsigned =
      some (creationItems nonce gasPrice gasLimit payload [chain, 0, 0]) := by
    apply TransactionNumbers.decodeList?_of_listBytes
    rw [← TransactionNumbers.parts_append]
    exact unsignedBytes
  have decodes : Rlp.decodeList? signed.raw = some (creationItems nonce gasPrice gasLimit payload
      [numbers.mark signature.parity, signature.r, signature.s]) := by
    apply TransactionNumbers.decodeList?_of_listBytes
    rw [← TransactionNumbers.parts_append, ← isSigned]
    exact rawBytes
  exact ⟨unsigned, signature, numbers.mark signature.parity, {
    unsignedDecodes
    isSignature := isSignature.symm
    isMark := by omega
    parity := isMark
    decodes
    isOnlyEncoding := fun _ otherDecodes => Rlp.decodeList?_inj otherDecodes decodes
    noLeadingZeros := fun number _ => Bytes.head?_ofNumber number }⟩

/-- What a signer signs is the contract creation with the fields it is given. -/
theorem creates_of_sign {signer : Signer} {nonce gasPrice gasLimit : Nat} {payload : Bytes}
    {chainId : Int} {signed : SignedTransaction}
    (isSigned : signer.sign
      ⟨.int nonce, .int gasPrice, .int gasLimit, .bytes payload, .int chainId⟩ = .ok signed) :
    ∃ chain : Nat, chainId = chain ∧
      Creates nonce gasPrice gasLimit payload chain signer.privateKey signed.raw := by
  rcases Signer.sign_eq_ok isSigned with ⟨numbers, isChecked, isSigned⟩
  rcases TransactionFields.check_eq_ok isChecked with ⟨chain, rfl, rfl⟩
  exact ⟨chain, rfl, creates_of_signNumbers isSigned⟩

/-! ## The fields that a deployment sends -/

section

variable {request : DeploymentRequest} {artifact : Bytes} {network : Network} {signer : Signer}
  {exchanges : List Exchange} {raw : Bytes}

/-- A price that is used: the one asked for, or the endpoint's own if that is zero. -/
def PriceUsed (gasPrice : Datum) (exchanges : List Exchange) (price : Datum) : Prop :=
  gasPrice = .int 0 ∧ ⟨.gasPrice, .ok price⟩ ∈ exchanges ∨ gasPrice ≠ .int 0 ∧ price = gasPrice

theorem Submitted.of_mem {transaction : DeploymentTransaction}
    {result : Except Fault PendingDeployment}
    (submitted : Submitted signer transaction exchanges result)
    (isSent : .sendRawTransaction raw ∈ exchanges.map Exchange.request) :
    ∃ nonce signed, signer.sign (transaction.fields nonce) = .ok signed ∧ raw = signed.raw ∧
      ⟨.transactionCount (.text signer.address), .ok nonce⟩ ∈ exchanges := by
  cases submitted with
  | uncounted fault => simp at isSent
  | unsigned nonce fault => simp at isSent
  | @sent nonce signed _ _ isSigned isPending =>
      exact ⟨nonce, signed, isSigned, by simpa using isSent, List.mem_cons_self⟩

/-- A raw transaction is what the signer has signed of the artifact for the network, with the limit asked for, a
price that is used and the count that the endpoint has answered. -/
def SignedAsAsked (request : DeploymentRequest) (artifact : Bytes) (network : Network) (signer : Signer)
    (exchanges : List Exchange) (raw : Bytes) : Prop :=
  ∃ nonce price signed, ∃ limit : Nat,
    signer.sign ⟨nonce, price, .int limit, .bytes artifact, .int network.chainId⟩ = .ok signed ∧
      raw = signed.raw ∧ request.gasLimit = .int limit ∧
      ⟨.transactionCount (.text signer.address), .ok nonce⟩ ∈ exchanges ∧
      PriceUsed request.gasPrice exchanges price

/-- Building sends nothing. -/
theorem Built.not_sends {gasLimit gasPrice : Datum} {result : Except Fault DeploymentTransaction}
    (built : Built artifact network gasLimit gasPrice exchanges result) :
    .sendRawTransaction raw ∉ exchanges.map Exchange.request := by
  intro isSent
  rcases List.mem_map.mp isSent with ⟨exchange, mem, isSend⟩
  simp [built.pricesOnly exchange mem] at isSend

/-- What is sent of a transaction that was built is signed as asked, whatever follows. -/
theorem Submitted.signedAsAsked {priced sent rest : List Exchange}
    {transaction : DeploymentTransaction} {result : Except Fault PendingDeployment}
    (submitted : Submitted signer transaction sent result)
    (built : Built artifact network request.gasLimit request.gasPrice priced (.ok transaction))
    (isSent : .sendRawTransaction raw ∈ sent.map Exchange.request) :
    SignedAsAsked request artifact network signer (priced ++ (sent ++ rest)) raw := by
  rcases submitted.of_mem isSent with ⟨nonce, signed, isSigned, isRaw, counted⟩
  cases built with
  | @built _ price limit isLimit settled =>
      rw [isLimit] at isSigned
      refine ⟨nonce, price, signed, limit, isSigned, isRaw, isLimit, by simp [counted], ?_⟩
      cases settled with
      | asked _ isZero => exact Or.inl ⟨isZero, by simp⟩
      | given notZero => exact Or.inr ⟨notZero, rfl⟩

/-- Nothing is sent but what is signed as asked. -/
theorem Conversed.signedAsAsked (conversed : Conversed request artifact network signer exchanges)
    (isSent : .sendRawTransaction raw ∈ exchanges.map Exchange.request) :
    SignedAsAsked request artifact network signer exchanges raw := by
  cases conversed with
  | unbuilt built => exact absurd isSent built.not_sends
  | unsubmitted built submitted =>
      rw [List.map_append, List.mem_append] at isSent
      rcases isSent with inBuilt | inSubmitted
      · exact absurd inBuilt built.not_sends
      · simpa using @Submitted.signedAsAsked _ _ _ _ _ _ _ [] _ _ submitted built inSubmitted
  | tracked built submitted followed =>
      rw [List.map_append, List.map_append, followed.requests] at isSent
      simp only [List.mem_append, List.mem_replicate, reduceCtorEq, and_false, or_false] at isSent
      rcases isSent with inBuilt | inSubmitted
      · exact absurd inBuilt built.not_sends
      · exact submitted.signedAsAsked built inSubmitted

end

namespace Artifact

theorem locate_eq_ok {files : FileTree File} {path : FilePath} {file : File}
    (isFound : locate files path = .ok file) :
    files.find path = .ok (some file) ∧ magic <+: file.content := by
  rcases bind_eq_ok isFound with ⟨_ | located, found, isFound⟩
  · cases isFound
  dsimp only at isFound
  split at isFound
  · cases isFound
  · split at isFound
    · next hasMagic =>
      cases isFound
      exact ⟨found, List.prefix_iff_eq_take.mpr hasMagic.symm⟩
    · cases isFound

/-- An artifact that is read is the complete content of a file that starts as every module does. -/
theorem content_eq_ok {files : FileTree File} {wasmFile : Datum} {artifact : Bytes}
    (isRead : content files wasmFile = .ok artifact) :
    ∃ path file, FilePath.ofDatum wasmFile = .ok path ∧ files.find path = .ok (some file) ∧
      artifact = file.content ∧ magic <+: file.content := by
  rcases bind_eq_ok isRead with ⟨path, given, isRead⟩
  rcases bind_eq_ok isRead with ⟨file, located, isRead⟩
  rcases locate_eq_ok located with ⟨found, hasMagic⟩
  rcases isPath : FilePath.ofDatum wasmFile with _ | named
  · rw [isPath] at given
    cases given
  rw [isPath] at given
  cases given
  split at isRead
  · cases isRead
  · cases isRead
    exact ⟨path, file, rfl, found, rfl, hasMagic⟩

end Artifact

/-- A raw transaction is what a deployment was asked to send: it creates a contract from the complete file that the
request names, which starts as every module does, and is signed with the key of the request for the chain of the
network that the request selects. The limit is the one asked for; the nonce and the price are what the endpoint
has answered, the price only if none was asked for. -/
def SentAsAsked (request : DeploymentRequest) (files : FileTree File) (exchanges : List Exchange)
    (raw : Bytes) : Prop :=
  ∃ path file network key nonce price, ∃ limit : Nat,
    FilePath.ofDatum request.wasmFile = .ok path ∧ files.find path = .ok (some file) ∧
    Artifact.magic <+: file.content ∧
    Network.select request.localNode request.development request.rpcUrl request.chainId =
      .ok network ∧
    Signer.readKey request.privateKey = .ok key ∧
    request.gasLimit = .int limit ∧
    ⟨.transactionCount (.text (addressOfKey key)), .ok nonce⟩ ∈ exchanges ∧
    PriceUsed request.gasPrice exchanges price ∧
    ∀ nonceValue priceValue : Nat, nonce = .int nonceValue → price = .int priceValue →
      ∃ chain : Nat, network.chainId = chain ∧
        Creates nonceValue priceValue limit file.content chain key raw

theorem Staged.sentAsAsked {request : DeploymentRequest} {files : FileTree File}
    {exchanges : List Exchange} {raw : Bytes} (staged : Staged request files exchanges)
    (isSent : .sendRawTransaction raw ∈ exchanges.map Exchange.request) :
    SentAsAsked request files exchanges raw := by
  cases staged with
  | unopened => simp at isSent
  | @opened _ network signer _ isRead isSelected isSigner conversed =>
      rcases Artifact.content_eq_ok isRead with ⟨path, file, isPath, isFound, rfl, hasMagic⟩
      rcases conversed.signedAsAsked isSent with
        ⟨nonce, price, signed, limit, isSigned, rfl, isLimit, counted, isPrice⟩
      refine ⟨path, file, network, signer.privateKey, nonce, price, limit, isPath, isFound, hasMagic,
        isSelected, (ofKey_eq_ok isSigner).1, isLimit, counted, isPrice, ?_⟩
      rintro nonceValue priceValue rfl rfl
      exact creates_of_sign isSigned

/-- The method of a call is told by its body. -/
theorem JsonRpc.callBody_inj {method other : String} {parameters others : Datum} {id otherId : Nat}
    (same : callBody method parameters id = callBody other others otherId) :
    method = other ∧ parameters = others := by
  simp only [callBody, Datum.object.injEq, List.cons.injEq, Prod.mk.injEq, Datum.text.injEq,
    true_and, and_true] at same
  rcases same with ⟨sameMethod, rfl, _⟩
  have shown := congrArg Text.shown sameMethod
  simp only [Text.shown_ofString] at shown
  exact ⟨shown, rfl⟩

namespace DeploymentRequest

/-- Every deployment sends what it was asked to send, posts these same bytes if it posts them at all, and finds no
transaction to be for another chain than its signer. -/
theorem deploy_sends (request : DeploymentRequest) (source : ClientSource σ)
    (tracker : Option Tracker) (world : World σ) :
    (request.deploy source tracker).Yields world fun added result _ =>
      (∀ raw, .sendRawTransaction raw ∈ requestsOf added →
        SentAsAsked request world.files (exchangesOf added) raw) ∧
      (∀ parameters id, JsonRpc.callBody "eth_sendRawTransaction" parameters id ∈ postsOf added →
        ∃ raw digits, .sendRawTransaction raw ∈ requestsOf added ∧
          parameters = .list [.text (Text.ofString ("0x" ++ String.ofList digits))] ∧
          Text.bytesOfHex? digits = some raw) ∧
      (∀ transaction identity network,
        result = .error (.failure (.chainMismatch transaction identity) network) →
          ∃ request raised, raised.IsOf Failure.IsMismatch ∧
            ⟨request, .error raised⟩ ∈ exchangesOf added) := by
  apply ((request.relays_deploy tracker source world).and
    (request.deploy_staged source tracker)).mono
  rintro added result final ⟨relayed, staged⟩
  refine ⟨?_, ?_, ?_⟩
  · intro raw isSent
    rw [relayed.paired] at isSent
    exact staged.sentAsAsked isSent
  · intro parameters id isPosted
    rcases relayed.posts _ isPosted with ⟨made, isMade, madeId, isBody⟩
    rcases JsonRpc.callBody_inj isBody with ⟨isSend, rfl⟩
    cases made with
    | sendRawTransaction raw =>
        exact ⟨raw, _, isMade, rfl, Text.bytesOfHex?_flatMap_hexOfByte raw⟩
    | _ => simp [JsonRpc.methodOf] at isSend
  · rintro transaction identity network rfl
    exact relayed.origin _ rfl ⟨_, network, rfl, trivial⟩

end DeploymentRequest

end WasmDeploy
