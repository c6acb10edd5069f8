import WasmDeploy.Proofs.Defects

/-!
# How signing fails

A signer reports nothing but a transaction for another chain than its own. Whatever else keeps it from signing is a
defect, and so is all that can go wrong in judging the hash that an endpoint answers or in writing a report.
-/

namespace WasmDeploy

theorem onlyDefects_listBytes (parts : List Bytes) : OnlyDefects (listBytes parts) := by
  simp only [listBytes]
  split
  · exact .ok _
  · exact .reject _

namespace TransactionFields

theorem onlyDefects_integer (name : String) (value : Datum) : OnlyDefects (integer name value) := by
  unfold integer
  split
  · exact .ok _
  · dsimp only
    split
    · exact .reject _
    · exact .ok _
  · exact .ok _

theorem onlyDefects_dataBytes (value : Datum) : OnlyDefects (dataBytes value) := by
  unfold dataBytes
  split
  · exact .ok _
  · exact .ok _
  · split
    · exact .reject _
    · exact .ok _
  · dsimp only
    split
    · exact .ok _
    · exact .reject _
  · exact .ok _

theorem onlyDefects_natural (name : String) (value : Int) : OnlyDefects (natural name value) := by
  simp only [natural]
  split
  · exact .reject _
  · exact .ok _

theorem onlyDefects_check (fields : TransactionFields) : OnlyDefects fields.check := by
  unfold check
  dsimp only
  split
  · exact .reject _
  · apply OnlyDefects.bind (onlyDefects_dataBytes _)
    intro payload
    apply OnlyDefects.bind (onlyDefects_integer _ _)
    intro nonce
    apply OnlyDefects.bind (onlyDefects_integer _ _)
    intro gasPrice
    apply OnlyDefects.bind (onlyDefects_integer _ _)
    intro gasLimit
    apply OnlyDefects.bind (onlyDefects_integer _ _)
    intro chainId
    apply OnlyDefects.bind (onlyDefects_natural _ _)
    intro nonce
    apply OnlyDefects.bind (onlyDefects_natural _ _)
    intro gasPrice
    apply OnlyDefects.bind (onlyDefects_natural _ _)
    intro gasLimit
    apply OnlyDefects.bind (onlyDefects_natural _ _)
    intro chainId
    exact .pure _

end TransactionFields

/-- A signer finds nothing to be for another chain if it is for its own. -/
theorem onlyDefects_sign {signer : Signer} {fields : TransactionFields}
    (sameChain : fields.chainId.same signer.chainId = true) : OnlyDefects (signer.sign fields) := by
  simp only [Signer.sign]
  rw [sameChain]
  apply OnlyDefects.bind fields.onlyDefects_check
  intro numbers
  apply OnlyDefects.bind (onlyDefects_listBytes _)
  intro unsigned
  exact .bind (onlyDefects_listBytes _) fun _ => .pure _

theorem onlyDefects_confirms (hash : Datum) (expected : String) :
    OnlyDefects (confirms hash expected) := by
  simp only [confirms]
  split
  · exact .ok _
  · exact .ok _
  · exact .reject _

theorem onlyDefects_ofResult (network : Network) (result : TrackingResult) :
    OnlyDefects (Report.ofResult network result) := by
  simp only [Report.ofResult]
  split
  · exact .reject _
  · exact .ok _

end WasmDeploy
