import WasmDeploy.Proofs.Defects
import WasmDeploy.Proofs.Quantity
import WasmDeploy.Receipt.Decode

/-!
# Receipts read back

This file shows that reading a receipt undoes writing one. The object that is written holds each quantity in
hexadecimal digits of either case, with zeros before them or without; it leaves out what is not known or says null
for it, and it may hold any other members. Whatever the size of the quantities, the receipt comes back as it was.
-/

namespace WasmDeploy

/-! ## Quantities -/

namespace Quantity

/-- A quantity that may be unknown and what is written for it: null or nothing if it is unknown. -/
inductive Writes : Datum → Option Datum → Prop where
  | unknown : Writes .null (some .null)
  | omitted : Writes .null none
  | known {number : Nat} {text : Text} (spells : Spells text number) : Writes (.int number) (some (.text text))

theorem Writes.decodeOptional {field : String} {value : Datum} {written : Option Datum}
    (writes : Writes value written) : decodeOptional field (written.getD .null) = .ok value := by
  cases writes with
  | unknown => rfl
  | omitted => rfl
  | known spells => simp [Quantity.decodeOptional, spells.decode field, Except.map]

end Quantity

/-! ## Receipts -/

namespace Receipt

/-- A receipt and the members of an object that say all of it but the status. The logs are a list with an item for
each event, and they may be missing or null if there are none. -/
structure WritesParts (receipt : Receipt) (members : List (Text × Datum)) : Prop where
  hash : Datum.member? members "transactionHash" = some receipt.txHash
  address : (Datum.member? members "contractAddress").getD .null = receipt.contractAddress
  gasUsed : Quantity.Writes receipt.gasUsed (Datum.member? members "gasUsed")
  effectiveGasPrice : Quantity.Writes receipt.effectiveGasPrice (Datum.member? members "effectiveGasPrice")
  blockNumber : Quantity.Writes receipt.blockNumber (Datum.member? members "blockNumber")
  logs :
    (∃ items, Datum.member? members "logs" = some (.list items) ∧ receipt.eventCount = .int items.length) ∨
      ((Datum.member? members "logs").getD .null = .null ∧ receipt.eventCount = .int 0)

/-- A receipt and the members of an object that is written for it. There may be other members as well. -/
structure Writes (receipt : Receipt) (members : List (Text × Datum)) : Prop
    extends receipt.WritesParts members where
  status : Datum.member? members "status" = some (.text (if receipt.succeeded then "0x1" else "0x0"))

/-- The parts of a receipt are decoded one by one. -/
theorem decode_eq_ok {members : List (Text × Datum)} {receipt : Receipt} {text : Text} {code count : Int}
    (hash : Datum.member? members "transactionHash" = some receipt.txHash)
    (status : Datum.member? members "status" = some (.text text))
    (isCode : Quantity.decode "status" (.text text) = .ok code)
    (address : (Datum.member? members "contractAddress").getD .null = receipt.contractAddress)
    (gasUsed : Quantity.decodeOptional "gasUsed" ((Datum.member? members "gasUsed").getD .null) =
      .ok receipt.gasUsed)
    (effectiveGasPrice :
      Quantity.decodeOptional "effectiveGasPrice" ((Datum.member? members "effectiveGasPrice").getD .null) =
        .ok receipt.effectiveGasPrice)
    (blockNumber : Quantity.decodeOptional "blockNumber" ((Datum.member? members "blockNumber").getD .null) =
      .ok receipt.blockNumber)
    (logs : countEvents ((Datum.member? members "logs").getD .null) = .ok count)
    (events : receipt.eventCount = .int count) :
    decode (.object members) = .ok { receipt with status := statusOfCode code } := by
  simp only [decode, hash, status, isCode, address, gasUsed, effectiveGasPrice, blockNumber, logs, ← events,
    Option.getD_some, Datum.isNull, bind, Except.bind, pure, Except.pure]
  rfl

/-- The status is decoded from any quantity, and the rest as it is written. -/
theorem WritesParts.decode {receipt : Receipt} {members : List (Text × Datum)}
    (writes : receipt.WritesParts members) {text : Text} {code : Nat}
    (status : Datum.member? members "status" = some (.text text)) (reads : Quantity.Reads text code) :
    decode (.object members) = .ok { receipt with status := statusOfCode code } := by
  have isCode : Quantity.decode "status" (.text text) = .ok code :=
    Quantity.decode_text_eq_ok_iff.mpr ⟨code, rfl, reads⟩
  have logs : ∃ count, countEvents ((Datum.member? members "logs").getD .null) = .ok count ∧
      receipt.eventCount = .int count := by
    rcases writes.logs with ⟨items, isLogs, events⟩ | ⟨isNull, events⟩
    · exact ⟨items.length, by simp [isLogs, countEvents], events⟩
    · exact ⟨0, by simp [isNull, countEvents, Datum.isTruthy], events⟩
  rcases logs with ⟨count, isCount, events⟩
  exact decode_eq_ok writes.hash status isCode writes.address writes.gasUsed.decodeOptional
    writes.effectiveGasPrice.decodeOptional writes.blockNumber.decodeOptional isCount events

theorem statusOfCode_eq_success {code : Int} : statusOfCode code = .success ↔ code = 1 := by
  unfold statusOfCode
  split
  · next isOne => exact iff_of_true rfl isOne
  · next isOther => exact iff_of_false ReceiptStatus.noConfusion isOther

/-- The two codes that are written for a status are decoded as it. -/
theorem Writes.decode {receipt : Receipt} {members : List (Text × Datum)} (writes : receipt.Writes members) :
    decode (.object members) = .ok receipt := by
  rcases receipt with ⟨_, status, _⟩
  cases status with
  | success =>
      have reads : Quantity.Reads "0x1" 1 := ⟨['1'], [], [1], rfl, by simp, .plain rfl .nil, by simp, rfl⟩
      exact writes.toWritesParts.decode writes.status reads
  | reverted =>
      have reads : Quantity.Reads "0x0" 0 := ⟨['0'], [], [0], rfl, by simp, .plain rfl .nil, by simp, rfl⟩
      exact writes.toWritesParts.decode writes.status reads

/-- The status of every receipt that is decoded comes from a quantity. -/
theorem reads_of_decode {members : List (Text × Datum)} {receipt : Receipt}
    (decoded : decode (.object members) = .ok receipt) :
    ∃ text code, Datum.member? members "status" = some (.text text) ∧ Quantity.Reads text code ∧
      receipt.status = statusOfCode code := by
  simp only [decode] at decoded
  split at decoded
  · split at decoded
    · cases decoded
    · rcases bind_eq_ok decoded with ⟨code, isCode, decoded⟩
      rcases bind_eq_ok decoded with ⟨gasUsed, _, decoded⟩
      rcases bind_eq_ok decoded with ⟨effectiveGasPrice, _, decoded⟩
      rcases bind_eq_ok decoded with ⟨blockNumber, _, decoded⟩
      rcases bind_eq_ok decoded with ⟨count, _, decoded⟩
      rcases Quantity.decode_eq_ok_iff.mp isCode with ⟨text, natural, isText, rfl, reads⟩
      cases decoded
      refine ⟨text, natural, ?_, reads, rfl⟩
      cases status : Datum.member? members "status" with
      | none => simp [status] at isText
      | some value => simpa [status] using isText
  · cases decoded

/-- Decoding gives back every receipt that is written, whatever the status code says once the other parts are
written; and the status of whatever is decoded is success if and only if its code is one. -/
theorem decode_writes :
    (∀ receipt members, Writes receipt members → Receipt.decode (.object members) = .ok receipt) ∧
      (∀ receipt members text code, WritesParts receipt members →
        Datum.member? members "status" = some (.text text) → Quantity.Reads text code →
          Receipt.decode (.object members) =
            .ok { receipt with status := if code = 1 then .success else .reverted }) ∧
      ∀ members receipt, Receipt.decode (.object members) = .ok receipt →
        ∃ text code, Datum.member? members "status" = some (.text text) ∧ Quantity.Reads text code ∧
          (receipt.status = .success ↔ code = 1) := by
  refine ⟨?written, ?anyCode, ?onlyCode⟩
  case written => exact fun receipt members writes => writes.decode
  case anyCode =>
    intro receipt members text code writes status reads
    rw [writes.decode status reads, statusOfCode]
    norm_cast
  case onlyCode =>
    intro members receipt decoded
    rcases reads_of_decode decoded with ⟨text, code, status, reads, isStatus⟩
    refine ⟨text, code, status, reads, ?_⟩
    rw [isStatus, statusOfCode_eq_success]
    norm_cast

/-- The members of an object that says its gas in capitals after zeros, null for its price, nothing for its block and
its address, and something more. -/
def capitals (status : Text) : List (Text × Datum) :=
  [("type", .text "0x2"), ("transactionHash", .text "0xab"), ("status", .text status), ("gasUsed", .text "0x00Ab"),
    ("effectiveGasPrice", .null), ("logs", .list [.null, .int 7])]

/-- The receipt that is written so. -/
def ofCapitals (status : ReceiptStatus) : Receipt where
  txHash := .text "0xab"
  status := status
  contractAddress := .null
  gasUsed := .int 171
  effectiveGasPrice := .null
  blockNumber := .null
  eventCount := .int 2

/-- Such a receipt is read back, and with a code other than the two as that of a reverted transaction. -/
theorem decode_capitals :
    Receipt.decode (.object (capitals "0x1")) = .ok (ofCapitals .success) ∧
      Receipt.decode (.object (capitals "0x02")) = .ok (ofCapitals .reverted) := by
  have parts (status : ReceiptStatus) (code : Text) : WritesParts (ofCapitals status) (capitals code) := {
    hash := rfl
    address := rfl
    gasUsed := .known ⟨2, ['A', 'b'], rfl, by decide⟩
    effectiveGasPrice := .unknown
    blockNumber := .omitted
    logs := .inl ⟨_, rfl, rfl⟩ }
  have reads : Quantity.Reads "0x02" 2 :=
    ⟨['0', '2'], [], [0, 2], rfl, by simp, .plain rfl (.plain rfl .nil), by simp, rfl⟩
  exact ⟨decode_writes.1 _ _ { parts .success _ with status := rfl },
    decode_writes.2.1 _ _ _ _ (parts .success _) rfl reads⟩

end Receipt

end WasmDeploy
