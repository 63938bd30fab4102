import Playground.Gate.State

/-! `GateClientHandler`, the client side of the gate protocol. -/

namespace Playground.Client

open Framing Gate

inductive GateClientState where
  | closed
  | connecting
  | connected
  | authorizing
  | authorized
deriving DecidableEq

inductive Callback where
  | onConnect (success : Bool)
  | onNeedAuth
  | onAuthResult (result : Int32)
  | onMessage (payload : Bytes)
  | onClose (byMyself : Bool)
deriving DecidableEq

/-- Protobuf, the socket, the results of the callbacks, and whether `assert` is compiled in. -/
structure ClientEnv where
  parseGateCSMsg : Bytes → Option GateCSMsg
  serializeGateCSMsg : GateCSMsg → Bytes
  callbackRet : Callback → Int
  sendRet : Nat → Int
  asserts : Bool

def deafClient : ClientEnv where
  parseGateCSMsg _ := none
  serializeGateCSMsg _ := []
  callbackRet _ := 0
  sendRet _ := 0
  asserts := true

structure GateClientHandler where
  sock : TcpSocket := { fd := -1 }
  iCurState : GateClientState := .closed
  receiver : Receiver := { created := true }
  sends : Nat := 0
  sent : List Bytes := []
  /-- The payloads `DispatchMessage` was called with. -/
  dispatched : List Bytes := []
  callbacks : List Callback := []

namespace GateClientHandler

variable (env : ClientEnv) (client : GateClientHandler)

def call (callback : Callback) : GateClientHandler × Int :=
  ({ client with callbacks := client.callbacks ++ [callback] }, env.callbackRet callback)

def socketSend (bytes : Bytes) : GateClientHandler × Int :=
  let tried := { client with sends := client.sends + 1 }
  if env.sendRet client.sends = 0 then ({ tried with sent := tried.sent ++ [bytes] }, 0)
  else (tried, env.sendRet client.sends)

/-- `SendFrame`. Without asserts the length is cut to 16 bits but the whole buffer is sent. -/
def sendFrame (buffer : Bytes) : Option (GateClientHandler × Int) :=
  if env.asserts ∧ 65536 ≤ buffer.length then none
  else
    let head := client.socketSend env (lengthPrefix (buffer.length % 65536))
    if head.2 ≠ 0 then some (head.1, -1) else some (head.1.socketSend env buffer)

def authorize (type : UInt32) (uid : UInt64) (token : String) : Option (GateClientHandler × Int) :=
  client.sendFrame env (env.serializeGateCSMsg
    { cmd := gateAuthReq, authReq := some { uid, auth := type, token, area := 1 } })

def unexpected : Option (GateClientHandler × Int) :=
  if env.asserts then none else some (client, -1)

def dispatchMessage (payload : Bytes) : Option (GateClientHandler × Int) :=
  let client := { client with dispatched := client.dispatched ++ [payload] }
  if client.iCurState = .connected ∨ client.iCurState = .authorizing then
    match env.parseGateCSMsg payload with
    | none => some (client, -1)
    | some ga =>
      if ga.cmd = gateNeedAuth then
        some ({ client with iCurState := .authorizing }.call env .onNeedAuth)
      else if ga.cmd = gateAuthRsp then
        let iResult := ga.authrsp.result.toInt32
        let client := if iResult = 0 then { client with iCurState := .authorized } else client
        some (client.call env (.onAuthResult iResult))
      else client.unexpected env
  else if client.iCurState = .authorized then some (client.call env (.onMessage payload))
  else client.unexpected env

def onConnected (sock : TcpSocket) : GateClientHandler × Int :=
  { client with iCurState := .connected, sock }.call env (.onConnect true)

def onDisconnected : GateClientHandler × Int :=
  { client with
    iCurState := .closed
    sock := { client.sock with fd := -1 }
    receiver := { client.receiver with iMsgLen := 0, iUsed := 0 } }.call env (.onClose false)

def completeMessage (body : Receiver) : Option (GateClientHandler × Int) :=
  let client := { client with receiver := body }
  (client.dispatchMessage env (body.bytes body.iMsgLen)).map fun handled =>
    ({ handled.1 with receiver := { handled.1.receiver with iMsgLen := 0, iUsed := 0 } },
      if handled.2 ≠ 0 then 1 else 0)

def recvLoop (env : ClientEnv) : Nat → GateClientHandler → Bytes → Option (GateClientHandler × Int)
  | 0, client, _ => some (client, 0)
  | fuel + 1, client, chunk =>
    -- a failed `assert`, or without it a `memcpy` of negative length
    if client.receiver.iMsgLen = 0 ∧ (2 < client.receiver.iUsed ∨ env.asserts ∧ client.receiver.iUsed = 2) then
      none
    else
      let head := client.receiver.readPrefix chunk
      let client := { client with receiver := head.1 }
      if head.1.iMsgLen = 0 then some (client, 0)
      else if chunk.length + head.1.iUsed - head.2 ≥ head.1.iMsgLen then
        let body := head.1.readBody chunk head.2
        (client.completeMessage env body.1).bind fun done =>
          if chunk.length ≤ body.2 then some done
          else (recvLoop env fuel done.1 (chunk.drop body.2)).map
            fun (rest : GateClientHandler × Int) => (rest.1, done.2 + rest.2)
      else some (client, 0)

def onDataRecv (chunk : Bytes) : Option (GateClientHandler × Int) :=
  recvLoop env (chunk.length + 2) client chunk

def feed (env : ClientEnv) (client : GateClientHandler) : List Bytes → Option GateClientHandler
  | [] => some client
  | chunk :: chunks => (client.onDataRecv env chunk).bind fun next => feed env next.1 chunks

end GateClientHandler

end Playground.Client
