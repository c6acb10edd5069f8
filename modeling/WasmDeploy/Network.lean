import WasmDeploy.Datum

/-!
# Networks

This file gives the network a deployment goes to, with the two networks that are known by name.
-/

namespace WasmDeploy

/-- A network: its name, the URL of its endpoint and its chain id. -/
structure Network where
  name : String
  endpoint : Text
  chainId : Int
deriving DecidableEq, Repr, Inhabited

namespace Network

/-- The network of a node on this machine. -/
def localNode : Network :=
  ⟨"local", "http://localhost:8545", 1337⟩

/-- The shared development network. -/
def development : Network :=
  ⟨"dev", "https://rpc.dev.gblend.xyz", 20993⟩

/-- The networks that are known by name. -/
def presets : List Network :=
  [localNode, development]

/-- The name of every network that is not a preset. -/
def customName : String :=
  "custom"

end Network

/-- The largest value of an unsigned 64-bit parameter. -/
def maxUInt64 : Int :=
  0xffffffffffffffff

end WasmDeploy
