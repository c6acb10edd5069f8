import WasmDeploy.Fault
import WasmDeploy.Number.Read
import WasmDeploy.Text.Blank

/-!
# Settings of a deployment

This file reads the settings of a deployment from an environment and joins them with explicit ones. An
explicit setting wins over the environment unless it is null. The environment is checked first, so a
malformed variable is reported even if its setting is overridden.
-/

namespace WasmDeploy

/-- The settings of a deployment. -/
inductive Setting where
  | privateKey
  | gasLimit
  | gasPrice
  | confirmations
  | rpcUrl
  | chainId
  | timeout
  | pollInterval
  | localNode
  | development
deriving DecidableEq, Repr, Inhabited

namespace Setting

/-- The settings that an environment can give, in the order in which they are read. -/
def fromEnvironment : List Setting :=
  [.privateKey, .gasLimit, .gasPrice, .confirmations, .rpcUrl, .chainId, .timeout, .pollInterval]

/-- All settings. -/
def all : List Setting :=
  fromEnvironment ++ [.localNode, .development]

/-- The name of a setting. -/
def name : Setting → String
  | .privateKey => "private_key"
  | .gasLimit => "gas_limit"
  | .gasPrice => "gas_price"
  | .confirmations => "confirmations"
  | .rpcUrl => "rpc_url"
  | .chainId => "chain_id"
  | .timeout => "timeout"
  | .pollInterval => "poll_interval"
  | .localNode => "local"
  | .development => "dev"

/-- The environment variable of a setting. -/
def environmentName (setting : Setting) : String :=
  "DEPLOY_" ++ setting.name.toUpper

/-- The setting of a name. -/
def ofName? (name : String) : Option Setting :=
  all.find? fun setting => setting.name == name

/-- The characters of a raw value without the blanks around them. -/
def trimmed (raw : Datum) : Except Fault (List Char) :=
  match raw with
  | .text value => .ok (Text.trimBlanks Text.isBlank value.characters)
  | .bytes value =>
      .ok (Text.trimBlanks Text.isAsciiBlank
        (value.map fun byte => Char.ofNat byte.toNat))
  | other => reject (.lacksOperation other.kindName "strip")

/-- Reads an unsigned 64-bit integer. -/
def readUnsigned (variableName : String) (raw : Datum) : Except Fault Datum := do
  let some value := Number.readInteger? (← trimmed raw)
    | fail (.settingNotInteger variableName raw)
  if 0 ≤ value ∧ value ≤ maxUInt64 then return .int value
  fail (.settingOutOfRange variableName value)

/-- Reads a duration above zero. Infinity and the float that is no number pass. -/
def readSeconds (variableName : String) (raw : Datum) : Except Fault Datum := do
  let some value := Number.readFloat? (← trimmed raw)
    | fail (.settingNotSeconds variableName raw)
  if (Measure.float value).isNonPositive then
    fail (.settingNotPositive variableName value)
  return .float value

/-- Reads the raw value of a setting. -/
def read (setting : Setting) (raw : Datum) : Except Fault Datum :=
  match setting with
  | .gasLimit | .gasPrice | .confirmations | .chainId => readUnsigned setting.environmentName raw
  | .timeout | .pollInterval => readSeconds setting.environmentName raw
  | .privateKey | .rpcUrl | .localNode | .development => .ok raw

end Setting

/-- Variables with their raw values. -/
abbrev Environment := List (String × Datum)

/-- Whether a variable counts as set: null and the empty text do not. -/
def isSet : Datum → Bool
  | .null => false
  | .text value => !value.isEmpty
  | _ => true

/-- Settings with their values. -/
abbrev Settings := List (Setting × Datum)

namespace Settings

/-- The value of a setting. -/
def get? (settings : Settings) (setting : Setting) : Option Datum :=
  settings.lookup setting

/-- The value of a setting, or a default. -/
def getD (settings : Settings) (setting : Setting) (default : Datum) : Datum :=
  (settings.get? setting).getD default

/-- The settings with a value for one more. -/
def set (settings : Settings) (setting : Setting) (value : Datum) : Settings :=
  (setting, value) :: settings

/-- The settings that an environment gives, out of a list of settings to read. -/
def readFrom (environment : Environment) : List Setting → Except Fault Settings
  | [] => .ok []
  | setting :: rest =>
      match environment.lookup setting.environmentName with
      | some raw =>
          if isSet raw then do
            let value ← setting.read raw
            let others ← readFrom environment rest
            return (setting, value) :: others
          else readFrom environment rest
      | none => readFrom environment rest

/-- The settings that an environment gives. -/
def ofEnvironment (environment : Environment) : Except Fault Settings :=
  readFrom environment Setting.fromEnvironment

/-- The settings with explicit ones, given by name, put over them. -/
def override (settings : Settings) : List (String × Datum) → Except Fault Settings
  | [] => .ok settings
  | (name, value) :: rest =>
      match Setting.ofName? name with
      | none => fail (.settingUnknown name)
      | some setting =>
          override (if value.isNull then settings else settings.set setting value) rest

end Settings

/-- Everything that one deployment needs, unchecked. -/
structure DeploymentRequest where
  wasmFile : Datum
  privateKey : Datum
  gasLimit : Datum := .int 30000000
  gasPrice : Datum := .int 0
  confirmations : Datum := .int 0
  localNode : Datum := .bool false
  development : Datum := .bool false
  rpcUrl : Datum := .null
  chainId : Datum := .null
  timeout : Datum := .int 120
  pollInterval : Datum := .int 1
deriving Inhabited

namespace DeploymentRequest

/-- The request with default settings. -/
def standard (wasmFile privateKey : Datum) : DeploymentRequest where
  wasmFile
  privateKey

/-- The request that settings ask for; what they leave open takes its default. -/
def ofSettings (wasmFile : Datum) (settings : Settings) : DeploymentRequest :=
  let default := standard wasmFile .null
  { wasmFile
    privateKey := settings.getD .privateKey default.privateKey
    gasLimit := settings.getD .gasLimit default.gasLimit
    gasPrice := settings.getD .gasPrice default.gasPrice
    confirmations := settings.getD .confirmations default.confirmations
    localNode := settings.getD .localNode default.localNode
    development := settings.getD .development default.development
    rpcUrl := settings.getD .rpcUrl default.rpcUrl
    chainId := settings.getD .chainId default.chainId
    timeout := settings.getD .timeout default.timeout
    pollInterval := settings.getD .pollInterval default.pollInterval }

/-- The request for a file that an environment and explicit settings ask for. A private key is
required. -/
def ofEnvironment (wasmFile : Datum) (environment : Environment)
    (overrides : List (String × Datum)) : Except Fault DeploymentRequest := do
  let settings ← (← Settings.ofEnvironment environment).override overrides
  if !(settings.getD .privateKey .null).isTruthy then
    fail .keyUnset
  return ofSettings wasmFile settings

/-- A request as text. The private key is left out. -/
def display (request : DeploymentRequest) : String :=
  let fields : List (String × Datum) :=
    [("wasm_file", request.wasmFile), ("gas_limit", request.gasLimit),
      ("gas_price", request.gasPrice), ("confirmations", request.confirmations),
      ("local", request.localNode), ("dev", request.development), ("rpc_url", request.rpcUrl),
      ("chain_id", request.chainId), ("timeout", request.timeout),
      ("poll_interval", request.pollInterval)]
  let shown := fields.map fun (name, value) => name ++ "=" ++ value.quoted
  "DeployRequest(" ++ String.intercalate ", " shown ++ ")"

end DeploymentRequest

end WasmDeploy
