import Playground.Gate.State

/-! `GateServerHandler` and the agent side of it, `GateAgentChannelMsgHandler`.
A `Connection *` is the index of its slot. -/

namespace Playground.Gate

open Framing Component

namespace GateServerHandler

variable (env : Env) (gate : GateServerHandler)

/-- The live connection of a slot. Slot 0 is never given out. -/
def getConnectionByIdx (idx : Nat) : Option Nat :=
  if idx = 0 ∨ gate.size ≤ idx then none
  else if (gate.vecConnections idx).bState = .invalid then none
  else some idx

/-- The live connection of a socket. -/
def getConnectionByFD (fd : Int) : Option Nat :=
  (gate.mpConnections fd).bind gate.getConnectionByIdx

/-- `GetNextIdx`, `none` where the code returns -1. -/
def getNextIdx : Option Nat :=
  if gate.size ≤ gate.iAlivedConnections then none
  else (List.range' 1 (gate.size - 1)).find? fun i => (gate.vecConnections i).bState = .invalid

/-- `TcpSocket::Send`: all the bytes are queued, or none and the result is not 0. -/
def socketSend (i : Nat) (bytes : Bytes) : GateServerHandler × Int :=
  let sent := { gate with sends := gate.sends + 1 }
  if env.sendRet gate.sends = 0 then (sent.emit (.write i bytes), 0) else (sent, env.sendRet gate.sends)

/-- `SendFrameToClient`. The size of a `GateFrame` is a `uint16_t`. -/
def sendFrameToClient (i : Nat) (frame : Bytes) : GateServerHandler × Int :=
  let size := frame.length % 65536
  let gate := gate.modify i fun conn => conn.updateStat gate.curTime false
  let head := gate.socketSend env i (lengthPrefix size)
  if head.2 ≠ 0 then (head.1, -1)
  else
    let gate := { head.1 with downloadsize := head.1.downloadsize + UInt64.ofNat size }
    gate.socketSend env i (frame.take size)

/-- Sends a message as a frame, through a buffer that is made for it. -/
def sendToClient (i : Nat) (ga : GateCSMsg) : GateServerHandler × Int :=
  let created := { gate with creates := gate.creates + 1 }
  if env.createRet gate.creates ≠ 0 then (created, -1)
  else
    match env.serializeGateCSMsg ga with
    | none => (created, -2)
    | some buffer => created.sendFrameToClient env i buffer

def notifyNeedAuth (i : Nat) : GateServerHandler × Int :=
  gate.sendToClient env i { cmd := gateNeedAuth }

def notifyAuthResult (i : Nat) (result : UInt32) : GateServerHandler × Int :=
  gate.sendToClient env i { cmd := gateAuthRsp, authRsp := some { result } }

/-- `ChannelMsgProxy::SendToAgent`; its result is not looked at. -/
def sendToAgent (dst : Int) (msg : GateSSMsg) (data : Option Bytes) : GateServerHandler :=
  if env.byteSize msg + (data.getD []).length + 2 ≥ 65536 then gate
  else if env.channelReady dst then
    { gate with posted := Function.update gate.posted dst (gate.posted dst ++ [(msg, data.getD [])]) }
  else gate

/-- Only a connect carries the address, and only a close the reason. -/
def eventMessage (event : EventType) (idx : Nat) (uid : UInt64) (area : UInt32) (socket : TcpSocket)
    (param : Int) : GateSSMsg :=
  { event, idx, uid, area
    ip := if event = .connected then some socket.ip else none
    port := if event = .connected then some socket.port else none
    reason := if event = .close then some param else none }

/-- `ReportEvent`. The index is read with `operator[]`, which inserts 0 for a
socket that is not in the map. -/
def reportEvent (i : Nat) (event : EventType) (param : Int) (data : Option Bytes) : GateServerHandler :=
  let conn := gate.vecConnections i
  let idx := (gate.mpConnections conn.cliSocket.fd).getD 0
  let gate := { gate with
    mpConnections := Function.update gate.mpConnections conn.cliSocket.fd (some idx) }
  let msg := eventMessage event idx conn.ulUid conn.iArea conn.cliSocket param
  (gate.emit (.report i conn.iDstChannel msg data)).sendToAgent env conn.iDstChannel msg data

def closeConnection (i : Nat) : GateServerHandler :=
  let gate := if (gate.vecConnections i).bState = .invalid then gate else gate.emit (.close i)
  gate.modify i fun conn => { conn with bState := .invalid, iIdx := -1 }

/-- `m_mpConnections.erase(conn->cliSocket.GetFD())`. -/
def eraseSocket (i : Nat) : GateServerHandler :=
  { gate with
    mpConnections := Function.update gate.mpConnections (gate.vecConnections i).cliSocket.fd none }

/-- `CancelTimer(conn->dwTimerID)`. -/
def cancelIdleTimer (i : Nat) : GateServerHandler :=
  { gate with timerMgr := gate.timerMgr.cancelTimer (gate.vecConnections i).dwTimerID }

/-- The close is reported when the socket has left the map already. -/
def removeConnection (i : Nat) (reason : Int) : GateServerHandler :=
  let reported := (gate.eraseSocket i).reportEvent env i .close reason none
  (reported.cancelIdleTimer i).closeConnection i

/-- The fields `Authorizing` copies from the request. -/
def identify (conn : Connection) (auth : AuthReq) (channel now : Int) : Connection :=
  { conn with
    iArea := auth.area
    iDstChannel := channel
    ulUid := auth.uid
    sToken := auth.token
    tLastActTime := now }

/-- The result is 0 where no authentication is needed, and 1 where it is still to come. -/
def authorizing (i : Nat) (auth : AuthReq) : GateServerHandler × Int :=
  match env.mpAreaID2ChannelID auth.area with
  | none => (gate, -1)
  | some channel =>
    let gate := gate.modify i fun conn => identify conn auth channel gate.timeStampNow
    if env.iNeedAuth ≠ 0 then (gate, 1) else (gate, 0)

/-- In test mode the client is answered at once. -/
def forwardData (i : Nat) (data : Bytes) : GateServerHandler :=
  let gate := { gate with reqpkgs := gate.reqpkgs + 1 }
  let gate := gate.reportEvent env i .data 0 (some data)
  if env.iTestMode ≠ 0 then (gate.sendFrameToClient env i env.testBuffer).1 else gate

/-- `OnClientMessage` in front of its state switch. -/
def countMessage (i : Nat) (payload : Bytes) : GateServerHandler :=
  ({ gate with uppkgs := gate.uppkgs + 1 }.emit (.message i payload)).modify i
    fun conn => conn.updateStat gate.curTime true

/-- `OnClientMessage` for a parsed message in `STATE_CONNECTED`; `cmd` is not looked at. -/
def onAuthRequest (i : Nat) (request : AuthReq) : GateServerHandler × Int :=
  let auth := gate.authorizing env i request
  if auth.2 = 0 then
    let gate := (auth.1.notifyAuthResult env i 0).1
    let gate := gate.modify i fun conn => { conn with bState := .authorized }
    (gate.reportEvent env i .connected 0 none, 0)
  else if auth.2 > 0 then
    (auth.1.modify i fun conn => { conn with bState := .authing }, 0)
  else (auth.1.removeConnection env i connectionCloseException, -1)

/-- What a payload means depends on the state of the connection. -/
def onClientMessage (i : Nat) (payload : Bytes) : GateServerHandler × Int :=
  let gate := gate.countMessage i payload
  match (gate.vecConnections i).bState with
  | .connected =>
    match env.parseGateCSMsg payload with
    | none => (gate, -1)
    | some ga => gate.onAuthRequest env i ga.authreq
  | .authing => (gate, 0)
  | .authorized => (gate.forwardData env i payload, 0)
  | .invalid => (gate.removeConnection env i connectionCloseException, -1)

def countUpload (size : Nat) : GateServerHandler :=
  { gate with uploadsize := gate.uploadsize + UInt64.ofNat size }

def setReceiver (i : Nat) (receiver : Receiver) : GateServerHandler :=
  gate.modify i fun conn => { conn with receiver }

/-- Hands a complete message on and resets the decoder. -/
def completeMessage (i : Nat) (body : Receiver) : GateServerHandler × Int :=
  let handled := (gate.setReceiver i body).onClientMessage env i (body.bytes body.iMsgLen)
  let reset := { (handled.1.vecConnections i).receiver with iMsgLen := 0, iUsed := 0 }
  (handled.1.setReceiver i reset, if handled.2 ≠ 0 then 1 else 0)

/-- The recursion of `OnClientDataRecv`, which sums up the results. -/
def recvLoop (env : Env) : Nat → GateServerHandler → Int → Bytes → GateServerHandler × Int
  | 0, gate, _, _ => (gate, 0)
  | fuel + 1, gate, fd, chunk =>
    match gate.getConnectionByFD fd with
    | none => (gate.emit (.closeClient fd), -1)
    | some i =>
      let gate := gate.countUpload chunk.length
      let receiver := (gate.vecConnections i).receiver
      if receiver.iMsgLen = 0 ∧ receiver.iUsed ≥ 2 then (gate.closeConnection i, -1)
      else
        let head := receiver.readPrefix chunk
        let gate := gate.setReceiver i head.1
        if head.1.iMsgLen = 0 then (gate, 0)
        else if chunk.length + head.1.iUsed - head.2 ≥ head.1.iMsgLen then
          let body := head.1.readBody chunk head.2
          let done := gate.completeMessage env i body.1
          if chunk.length ≤ body.2 then done
          else
            let rest := recvLoop env fuel done.1 fd (chunk.drop body.2)
            (rest.1, done.2 + rest.2)
        else (gate, 0)

/-- `OnClientDataRecv`. Every call but the first takes at least three bytes off the chunk before it
recurs. -/
def onClientDataRecv (fd : Int) (chunk : Bytes) : GateServerHandler × Int :=
  recvLoop env (chunk.length + 2) gate fd chunk

/-- `AddTimer(iConnxMaxIdleTime*1000, i, CheckConnxFree)`, kept in `dwTimerID`. -/
def addIdleTimer (i : Nat) : GateServerHandler :=
  let added := gate.timerMgr.addTimer (gate.iConnxMaxIdleTime * 1000).toInt32 i
    (some GateTimer.checkConnxFree) 0
  { gate with timerMgr := added.1 }.modify i fun conn => { conn with dwTimerID := added.2 }

def countAlive (change : Int) : GateServerHandler :=
  { gate with iAlivedConnections := gate.iAlivedConnections + change }

/-- `recvBuffer.Create` for a slot that never had a buffer, with its failure. -/
def createBuffer (i : Nat) : GateServerHandler × Bool :=
  let receiver := (gate.vecConnections i).receiver
  if receiver.created then (gate, false)
  else
    let failed := env.createRet gate.creates ≠ 0
    ({ gate with creates := gate.creates + 1 }.setReceiver i { receiver with created := !failed }, failed)

/-- The slot is initialised and given the client's socket. -/
def occupy (i : Nat) (client : TcpSocket) : GateServerHandler :=
  (gate.modify i fun conn => { conn.init with bState := .connected, cliSocket := client }).emit
    (.accepted i client.fd)

/-- `m_mpConnections[client.GetFD()] = iIdx`. -/
def mapSocket (fd : Int) (i : Nat) : GateServerHandler :=
  { gate with mpConnections := Function.update gate.mpConnections fd (some i) }

/-- The end of `OnNewConnection`: index, socket map and idle timer. -/
def register (i : Nat) (client : TcpSocket) : GateServerHandler :=
  let gate := (gate.modify i fun conn => { conn with iIdx := i }).mapSocket client.fd i
  if gate.iConnxMaxIdleTime > 0 then gate.addIdleTimer i else gate

/-- `OnNewConnection`, `none` where it indexes the table with -1. -/
def onNewConnection (client : TcpSocket) : Option (GateServerHandler × Int) :=
  let gate := gate.countAlive 1
  gate.getNextIdx.map fun i =>
    let buffer := gate.createBuffer env i
    if buffer.2 ∨ buffer.1.closing ≠ 0 then (buffer.1.emit (.closeClient client.fd), -1)
    else
      let notified := (buffer.1.occupy i client).notifyNeedAuth env i
      if notified.2 ≠ 0 then (notified.1.closeConnection i, -1)
      else (notified.1.register i client, 0)

/-- A connection is counted out also where none is found. -/
def onConnectionClosed (fd : Int) : GateServerHandler × Int :=
  let gate := gate.countAlive (-1)
  match gate.getConnectionByFD fd with
  | none => (gate, -1)
  | some i => (gate.removeConnection env i connectionCloseByClient, 0)

/-- The timer is armed again only a period after the last check. -/
def checkConnxFree (idx : Nat) : GateServerHandler :=
  match gate.getConnectionByIdx idx with
  | none => gate
  | some i =>
    let conn := gate.vecConnections i
    if conn.tLastActTime + env.iIdleCheckPeriod.toInt < gate.curTime then
      gate.removeConnection env i connectionCloseByDefault
    else if conn.tLastCheckTime + env.iIdleCheckPeriod.toInt ≤ gate.curTime then
      (gate.addIdleTimer i).modify i fun conn => { conn with tLastCheckTime := gate.curTime }
    else gate

/-- `++m_dwLastClosingIdx`. -/
def advanceClosing : GateServerHandler :=
  { gate with dwLastClosingIdx := gate.dwLastClosingIdx + 1 }

def closeNext (reason : Int) : GateServerHandler :=
  match gate.getConnectionByIdx gate.dwLastClosingIdx with
  | none => gate
  | some i => gate.removeConnection env i reason

/-- One call looks at so many slots, from where the last one ended. -/
def closingLoop (env : Env) (reason : Int) : Nat → GateServerHandler → GateServerHandler
  | 0, gate => gate
  | count + 1, gate =>
    if gate.dwLastClosingIdx < gate.size then
      closingLoop env reason count (gate.closeNext env reason).advanceClosing
    else gate

def beginClosing (reason : Int) : GateServerHandler :=
  if gate.closing = 0 then { gate with closing := reason } else gate

/-- The result is 1 when all slots have been looked at. -/
def onClosing (reason : Int) (notifinum : Nat) : GateServerHandler × Int :=
  let gate := closingLoop env reason notifinum (gate.beginClosing reason)
  if gate.dwLastClosingIdx < gate.size then (gate, 0) else (gate, 1)

/-- `GateAgentChannelMsgHandler::DispatchMessage` behind the unpacking. -/
def dispatchMessage (ggc : GateSSMsg) (csmsg : Bytes) : GateServerHandler × Int :=
  match gate.getConnectionByIdx ggc.idx with
  | none => (gate, -1)
  | some i =>
    match ggc.event with
    | .close => (gate.removeConnection env i (ggc.reason.getD 0), 0)
    | .data =>
      let gate := { gate with downpkgs := gate.downpkgs + 1, rsppkgs := gate.rsppkgs + 1 }
      ((gate.sendFrameToClient env i csmsg).1, 0)
    | .connected => (gate, -1)

end GateServerHandler

/-- The calls that reach the handler. -/
inductive Event where
  | newConnection (client : TcpSocket)
  | clientDataRecv (fd : Int) (chunk : Bytes)
  | connectionClosed (fd : Int)
  | checkConnxFree (idx : Nat)
  | agentMessage (ggc : GateSSMsg) (csmsg : Bytes)
  | closing (reason : Int) (notifinum : Nat)
  | clock (curTime timeStampNow : Int) (curMsTime : UInt64)
deriving DecidableEq

/-- One call of the handler; `none` where its behaviour is undefined. -/
def step (env : Env) (gate : GateServerHandler) : Event → Option GateServerHandler
  | .newConnection client => (gate.onNewConnection env client).map Prod.fst
  | .clientDataRecv fd chunk => some (gate.onClientDataRecv env fd chunk).1
  | .connectionClosed fd => some (gate.onConnectionClosed env fd).1
  | .checkConnxFree idx => some (gate.checkConnxFree env idx)
  | .agentMessage ggc csmsg => some (gate.dispatchMessage env ggc csmsg).1
  | .closing reason notifinum => some (gate.onClosing env reason notifinum).1
  | .clock curTime timeStampNow curMsTime =>
    some { gate with curTime, timeStampNow, timerMgr := { gate.timerMgr with curMsTime } }

end Playground.Gate
