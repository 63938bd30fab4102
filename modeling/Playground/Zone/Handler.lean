import Playground.Zone.State

/-! `ZoneAgentMgr`, `ZoneAgent`, `SessionMgr`, `Session`, `LoginLogic` and `DBProxy`.
A `Session *` is the number of its object. A function returns `none` where the code
calls a member of a null `SessionPtr`. A coroutine runs up to its next request. -/

namespace Playground.Zone

open Framing Gate

namespace ZoneAgentMgr

variable (env : ZoneEnv) (mgr : ZoneAgentMgr)

@[simps] def emit (effect : ZoneEffect) : ZoneAgentMgr :=
  { mgr with log := effect :: mgr.log }

def modify (s : Nat) (change : Session → Session) : ZoneAgentMgr :=
  { mgr with sessions := Function.update mgr.sessions s (change (mgr.sessions s)) }

def setState (mgr : ZoneAgentMgr) (s : Nat) (state : SessionState) : ZoneAgentMgr :=
  (mgr.modify s fun sson => { sson with state }).emit (.setState s state)

def attachPlayerAgent (s : Nat) (player : PlayerAgent) : ZoneAgentMgr :=
  (mgr.modify s fun sson => { sson with player := some player }).emit (.attach s player)

def sendToAgent (dst : Int) (msg : GateSSMsg) (data : Option Bytes) : ZoneAgentMgr × Int :=
  if env.byteSize msg + (data.getD []).length + 2 ≥ 65536 then (mgr, -1)
  else if env.channelReady dst then
    ({ mgr with posted := Function.update mgr.posted dst (mgr.posted dst ++ [(msg, data.getD [])]) }, 0)
  else (mgr, -1)

def responseMessage (sson : Session) (event : EventType) (param : Int) : GateSSMsg :=
  { event
    idx := sson.idx
    uid := sson.accountid
    area := sson.area
    reason := if event = .close then some param else none }

def responseClient (s : Nat) (event : EventType) (param : Int) (data : Option Bytes) : ZoneAgentMgr × Int :=
  let sson := mgr.sessions s
  let msg := responseMessage sson event param
  (mgr.emit (.respond s sson.gate msg data)).sendToAgent env sson.gate msg data

def findSession (zone : UInt32) (uid : UInt64) : Option Nat := mgr.mpSessions zone uid

/-- `SessionMgr::GetSession`, which falls back to the entry of uid 0. -/
def getSession (zone : UInt32) (uid : UInt64) : Option Nat :=
  (mgr.mpSessions zone uid).or (mgr.mpSessions zone 0)

/-- A request to the database agent on behalf of a session, refused when its queue is full. -/
def request (env : ZoneEnv) (mgr : ZoneAgentMgr) (kind : RequestKind) (s : Nat) : ZoneAgentMgr × Bool :=
  let uid := (mgr.sessions s).uid
  let asked : Request := { id := mgr.dbCalls, kind, session := s, uid }
  let called := { mgr with dbCalls := mgr.dbCalls + 1 }
  if env.dbAccepts mgr.dbCalls then
    ({ called with requests := mgr.requests ++ [asked] }.emit (.request kind s uid), true)
  else (called, false)

/-- `LoginLogic::Logout` and the start of the Logout coroutine. -/
def logout (s : Nat) : ZoneAgentMgr :=
  if (mgr.sessions s).state = .playing then
    ((mgr.setState s .offline).request env (.updateRole 3) s).1
  else mgr

/-- `if(player) player->Detach()`. -/
def detachPlayer (s : Nat) : ZoneAgentMgr :=
  if (mgr.sessions s).player.isSome then mgr.emit (.detach s) else mgr

/-- `Session::Kick`. The session that is logged out is the one `GetSession` finds. -/
def kick (env : ZoneEnv) (mgr : ZoneAgentMgr) (s : Nat) (reason : KickReason) :
    Option (ZoneAgentMgr × Int) :=
  if (mgr.sessions s).state = .kicking then some (mgr, -1)
  else
    (mgr.getSession (mgr.sessions s).zone (mgr.sessions s).uid).map fun t =>
      let mgr := ((mgr.emit (.kick s reason)).detachPlayer s).logout env t
      let mgr := (mgr.responseClient env s .close connectionCloseByDefault none).1
      (mgr.setState s .kicking, 0)

def loginReturn (s : Nat) : ZoneAgentMgr := mgr.emit (.loginEnd s (mgr.sessions s).uid)

/-- The branch of the Login coroutine for a role found in the database or its cache. -/
def enterPlaying (s : Nat) : ZoneAgentMgr :=
  ((mgr.attachPlayerAgent s { rid := (mgr.sessions s).uid }).setState s .playing).loginReturn s

def loginFailed (s : Nat) : Option ZoneAgentMgr :=
  (mgr.kick env s .dbErr).map fun kicked => kicked.1.loginReturn s

def loginCoroutine (s : Nat) : ZoneAgentMgr :=
  let uid := (mgr.sessions s).uid
  let mgr := mgr.setState s .loading
  if mgr.getObjects uid then mgr.enterPlaying s
  else
    let asked := mgr.request env .getRole s
    if asked.2 then asked.1 else asked.1.loginReturn s

def login (s : Nat) : ZoneAgentMgr :=
  (mgr.emit (.loginBegin s (mgr.sessions s).uid)).loginCoroutine env s

def loginLoaded (s : Nat) (ret : Int) : Option ZoneAgentMgr :=
  let uid := (mgr.sessions s).uid
  if ret < 0 then some (mgr.loginReturn s)
  else if ret = dataOk then
    if mgr.getObjects uid then some (mgr.enterPlaying s) else mgr.loginFailed env s
  else if ret = dataNoExists then
    let mgr := (mgr.setState s .creating).attachPlayerAgent s { rid := uid }
    let asked := mgr.request env .insertRole s
    if asked.2 then some asked.1 else asked.1.loginFailed env s
  else mgr.loginFailed env s

def loginInserted (s : Nat) (ret : Int) : Option ZoneAgentMgr :=
  if ret = dataOk then some ((mgr.setState s .playing).loginReturn s) else mgr.loginFailed env s

/-- The Logout coroutine behind `UpdateRole`, which tries three times. -/
def logoutUpdated (s : Nat) (retry : Nat) (ret : Int) : ZoneAgentMgr :=
  if ret < 0 ∨ ret = dataOk then mgr
  else if retry - 1 > 0 then (mgr.request env (.updateRole (retry - 1)) s).1
  else mgr

/-- `SessionMgr::DeleteSession`, called by `StopSession`. -/
def deleteSession (zone : UInt32) (uid : UInt64) (s : Nat) : ZoneAgentMgr :=
  { mgr with
    mpSessions := Function.update mgr.mpSessions zone (Function.update (mgr.mpSessions zone) uid none) }.emit
      (.stop s)

def stopSession (zone : UInt32) (gateid : Int) (idx : Nat) (uid : UInt64) : Option (ZoneAgentMgr × Int) :=
  match mgr.findSession zone uid with
  | none => some (mgr, -1)
  | some s =>
    if (mgr.sessions s).idx ≠ idx ∨ (mgr.sessions s).gate ≠ gateid then some (mgr, -1)
    else (mgr.kick env s .closeClient).map fun kicked => (kicked.1.deleteSession zone uid s, kicked.2)

/-- A new `Session` object, initialised and entered into the map of its zone. -/
def newSession (zone : UInt32) (uid : UInt64) (gateid : Int) (cnnx : GateSSMsg) : ZoneAgentMgr :=
  { mgr with
    sessions := Function.update mgr.sessions mgr.created (({ zone, gate := gateid } : Session).init uid cnnx)
    created := mgr.created + 1
    mpSessions := Function.update mgr.mpSessions zone
      (Function.update (mgr.mpSessions zone) uid (some mgr.created)) }

def createSession (zone : UInt32) (uid : UInt64) (gateid : Int)
    (cnnx : GateSSMsg) : Option (ZoneAgentMgr × Int) :=
  match mgr.findSession zone uid with
  | some s =>
    (mgr.kick env s .relogin).map fun kicked =>
      ((kicked.1.modify s fun sson => sson.init uid cnnx).login env s, env.resumeRet)
  | none => some ((mgr.newSession zone uid gateid cnnx).login env mgr.created, env.resumeRet)

def send (s : Nat) (packed : Option Bytes) : ZoneAgentMgr × Int :=
  match (mgr.sessions s).state with
  | .loading | .creating | .playing =>
    match packed with
    | none => (mgr, -1)
    | some buffer => mgr.responseClient env s .data 0 (some buffer)
  | _ => (mgr, -1)

/-- `CSRoleHandler::OnPlayingMsg`; the commands 1 to 4 are its requests. -/
def onRoleMsg (s : Nat) (csmsg : CSMsg) : ZoneAgentMgr × Int :=
  match csmsg.role with
  | none => (mgr, -1)
  | some cmd =>
    if 1 ≤ cmd ∧ cmd ≤ 4 then ((mgr.send env s (env.packRoleRsp cmd (mgr.sessions s).uid)).1, 0)
    else (mgr, 0)

/-- `CSMsgHandler::Handle`; no handler does anything with a message while creating. -/
def handle (s : Nat) (onPlayingMsg : ZoneAgentMgr × Int) : ZoneAgentMgr × Int :=
  match (mgr.sessions s).state with
  | .creating => (mgr, 0)
  | .playing => onPlayingMsg
  | _ => (mgr, -1)

/-- `CSMSG_CMD_ROLE`, and the command that `cs_handler.lua` registers. -/
def csmsgCmdRole : UInt32 := 2
def luaCmd : UInt32 := 12590

/-- `CSMsgDispatcher::Dispatch`. The Lua handler logs and returns 0. -/
def dispatch (s : Nat) (csmsg : CSMsg) : ZoneAgentMgr × Int :=
  if csmsg.cmd = csmsgCmdRole then mgr.handle s (mgr.onRoleMsg env s csmsg)
  else if csmsg.cmd = luaCmd then mgr.handle s (mgr, 0)
  else (mgr, -100)

/-- `ZoneAgent::DispatchPlayerAgentMsg`. The session is found without the gate and the index. -/
def dispatchPlayerAgentMsg (src : Int) (ggc : GateSSMsg) (csmsg : CSMsg) : ZoneAgentMgr × Int :=
  match mgr.findSession ggc.area (getRoleID ggc.uid ggc.area) with
  | none => (mgr, -1)
  | some s => (mgr.emit (.dispatch s src ggc)).dispatch env s csmsg

/-- `ZoneAgentMgr::OnGateMessage` behind the unpacking, for a message of gate `src`. -/
def onGateMessage (src : Int) (ggc : GateSSMsg) (data : Bytes) : Option (ZoneAgentMgr × Int) :=
  if !env.areas ggc.area then some (mgr, -1)
  else
    let uid := getRoleID ggc.uid ggc.area
    match ggc.event with
    | .connected =>
      (mgr.createSession env ggc.area uid src ggc).map fun made => (made.1, if made.2 ≠ 0 then -1 else 0)
    | .close => mgr.stopSession env ggc.area src ggc.idx uid
    | .data =>
      match env.parseCSMsg data with
      | none => some (mgr, -1)
      | some csmsg => some (mgr.dispatchPlayerAgentMsg env src ggc csmsg)

/-- `DBAgent::DispatchResult` up to the callback: a role that was read is kept. -/
def keepObject (req : Request) (ret : Int) : ZoneAgentMgr :=
  { mgr with
    getObjects :=
      if req.kind = .getRole ∧ ret = dataOk then Function.update mgr.getObjects req.uid true
      else mgr.getObjects }

def resume (req : Request) (ret : Int) : Option ZoneAgentMgr :=
  match req.kind with
  | .getRole => mgr.loginLoaded env req.session ret
  | .insertRole => mgr.loginInserted env req.session ret
  | .updateRole retry => some (mgr.logoutUpdated env req.session retry ret)

def answer (req : Request) : ZoneAgentMgr :=
  { mgr with requests := mgr.requests.erase req }

/-- `OnGetRole`, `OnInsertRole` and `OnUpdateRole`: the database answers a request. -/
def onResponse (req : Request) (ret : Int) : Option ZoneAgentMgr :=
  ((mgr.answer req).keepObject req ret).resume env req ret

def getZonePlayerAgentPtr (uid : UInt64) : Option PlayerAgent :=
  let zone := zoneOfRoleID uid
  if env.areas zone then (mgr.findSession zone uid).bind fun s => (mgr.sessions s).player else none

end ZoneAgentMgr

inductive ZoneEvent where
  | gateMessage (src : Int) (ggc : GateSSMsg) (data : Bytes)
  | response (req : Request) (ret : Int)
deriving DecidableEq

/-- One event; `none` for the answer to a request that is not outstanding, and where the
code calls a null session. -/
def zoneStep (env : ZoneEnv) (mgr : ZoneAgentMgr) : ZoneEvent → Option ZoneAgentMgr
  | .gateMessage src ggc data => (mgr.onGateMessage env src ggc data).map Prod.fst
  | .response req ret => if req ∈ mgr.requests then mgr.onResponse env req ret else none

end Playground.Zone
