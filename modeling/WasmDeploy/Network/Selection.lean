import WasmDeploy.Datum.Arithmetic
import WasmDeploy.Url

/-!
# Selecting a network

This file decides which network a deployment goes to. Exactly one of three ways has to be chosen: the node on
this machine, the development network, or a URL together with a chain id. Nothing is asked of any network.
-/

namespace WasmDeploy

namespace Network

/-- The preset of a name. -/
def preset (name : Datum) : Except Fault Network :=
  match name with
  | .text text =>
      match presets.find? fun network => Text.ofString network.name == text with
      | some network => .ok network
      | none => fail (.unknownNetwork name)
  | .list _ | .object _ => reject (.unhashable name.kindName)
  | _ => fail (.unknownNetwork name)

/-- The URL that a value holds, as characters; empty values hold the empty URL. -/
def urlCharacters (url : Datum) : Except Fault (List Char) :=
  match url with
  | .text text => .ok text.characters
  | .bytes bytes =>
      match bytes.findIdx? fun byte => 0x80 ≤ byte with
      | some position =>
          reject (.malformedUrl (.nonAscii (bytes.getD position 0) position))
      | none => .ok (bytes.map fun byte => Char.ofNat byte.toNat)
  | other => if other.isTruthy then reject (.lacksOperation other.kindName "decode") else .ok []

/-- Whether the parts of a URL lead to an endpoint. -/
def leadsToEndpoint (parts : Url.Parts) : Bool :=
  (parts.scheme == "http".toList || parts.scheme == "https".toList) && !parts.authority.isEmpty

/-- The endpoint that a value gives. -/
def endpointOf (url : Datum) : Except Fault Text := do
  let characters ← urlCharacters url
  match Url.parse characters with
  | .error defect => reject (.malformedUrl defect)
  | .ok parts =>
      match url with
      | .text text => if leadsToEndpoint parts then return text else fail (.endpointInvalid url)
      | _ => fail (.endpointInvalid url)

/-- The chain id that a value gives. -/
def chainIdOf : Datum → Except Fault Int
  | .int value =>
      if 0 < value ∧ value ≤ maxUInt64 then .ok value
      else Datum.refuse (.int value) (.chainIdOutOfRange value)
  | other => other.refuse (.chainIdNotInteger other)

/-- The network that a selection gives: the two presets, and the URL and the chain id of another one. -/
def select (localNode development rpcUrl chainId : Datum) : Except Fault Network := do
  let customGiven := !rpcUrl.isNull || !chainId.isNull
  if localNode.isTruthy && development.isTruthy then
    fail .bothPresets
  else if (localNode.isTruthy || development.isTruthy) && customGiven then
    fail .presetAndCustom
  else if localNode.isTruthy then
    return Network.localNode
  else if development.isTruthy then
    return Network.development
  else if !customGiven then
    fail .networkUnspecified
  else if rpcUrl.isNull || chainId.isNull then
    fail .customIncomplete
  else
    let endpoint ← endpointOf rpcUrl
    let chainId ← chainIdOf chainId
    return ⟨customName, endpoint, chainId⟩

end Network

end WasmDeploy
