import WasmDeploy.Client.JsonRpc

/-!
# Clients

This file gives the two ways to an endpoint: directly, where each request is answered or refused at once, and
by JSON-RPC over HTTP. Every request is recorded before it is made, and again with what came back.
-/

namespace WasmDeploy

/-- A way to an endpoint. -/
inductive Client (σ : Type) where
  | direct (answer : (request : Request) → σ → Except Fault request.Reply × σ)
  | http (endpoint : HttpEndpoint σ)

namespace Client

variable {σ : Type}

/-- Carries a request out. -/
def perform (client : Client σ) (request : Request) : Run σ request.Reply :=
  match client with
  | .direct answer => do
      Run.passCall
      Run.answer (answer request)
  | .http endpoint => JsonRpc.ask endpoint request

/-- Makes a request. -/
def ask (client : Client σ) (request : Request) : Run σ request.Reply := do
  Run.record (.call request)
  Run.noting (.reply request) (client.perform request)

end Client

end WasmDeploy
