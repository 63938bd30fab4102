import Playground.Text.Segments
import Playground.Channel.ChannelMsgProxy
import Playground.Gate.State

/-! The console of a server. -/

namespace Playground.Console

open Framing Datacenter Text
open Channel (cstr)
open Gate (GateServerHandler)

def find (line text : Bytes) (start : Nat) : Option Nat :=
  (List.range' start (line.length + 1 - start)).find? fun i => text.isPrefixOf (line.drop i)

private theorem le_of_find (found : find line text start = some stop) : start ≤ stop :=
  (List.mem_range'_1.mp (List.mem_of_find?_eq_some found)).1

/-- The loop of `SplitCMDLine`. It looks for the next delimiter at its head, and not at the end of the
round before. -/
def splitLoop (line pszDeli : Bytes) (solid : pszDeli ≠ []) (start : Nat) (list : List Bytes) : List Bytes :=
  if _inside : start < line.length then
    match _found : find line pszDeli start with
    | none => list
    | some stop =>
      let seg := line.extract start stop
      splitLoop line pszDeli solid (stop + pszDeli.length)
        (if cstr seg ≠ pszDeli ∧ start < stop then list ++ [seg] else list)
  else list
termination_by line.length - start
decreasing_by
  have above := le_of_find _found
  have long := List.length_pos_iff.mpr solid
  omega

def splitCMDLine (line pszDeli : Bytes) (solid : pszDeli ≠ []) : List Bytes :=
  splitLoop (line ++ pszDeli) pszDeli solid 0 []

def space : UInt8 := 32

/-- The command line of a datagram, which is a text up to its first zero byte. -/
def commandLine (datagram : Bytes) : List Bytes := splitCMDLine (cstr datagram) [space] (List.cons_ne_nil _ _)

/-- `snprintf` of a quotient of floating-point numbers with `%.6f`, and `Time::ToString`. -/
structure ConsoleEnv where
  fixed : UInt64 → Int32 → Bytes
  timeText : Int64 → Bytes

/-- The context of a server, as far as the console uses it. -/
structure App where
  closing : Int := 0
  /-- `curTime` and `runTime`, in seconds. -/
  curTime : Int64 := 0
  runTime : Int64 := 0

def App.onCtrl (_cmdLine : List Bytes) : Option Bytes := some (ascii "not support !")

def gateServerOnCtrl (env : ConsoleEnv) (app : App) (h : GateServerHandler) (cmdLine : List Bytes) :
    Option Bytes := do
  let mainCMD ← cmdLine[0]?
  let rsp := mainCMD ++ ascii ":"
  let rseconds := if app.runTime.toInt32 = 0 then 1 else app.runTime.toInt32
  if mainCMD = ascii "downspeed" then
    return rsp ++ env.fixed (h.downloadsize / 1024) rseconds ++ ascii " KB/s"
  else if mainCMD = ascii "upspeed" then
    return rsp ++ env.fixed (h.uploadsize / 1024) rseconds ++ ascii " KB/s"
  else if mainCMD = ascii "downsize" then
    return rsp ++ env.fixed h.downloadsize (1024 * 1024) ++ ascii " MB"
  else if mainCMD = ascii "upsize" then
    return rsp ++ env.fixed h.uploadsize (1024 * 1024) ++ ascii " MB"
  else if mainCMD = ascii "downpkg" then return rsp ++ env.fixed h.downpkgs rseconds ++ ascii " MB"
  else if mainCMD = ascii "uppkg" then return rsp ++ env.fixed h.uppkgs rseconds ++ ascii " MB"
  else if mainCMD = ascii "qps" then return rsp ++ env.fixed h.reqpkgs rseconds ++ ascii " MB"
  else if mainCMD = ascii "tps" then return rsp ++ env.fixed h.rsppkgs rseconds ++ ascii " MB"
  else return rsp ++ ascii "not supported !"

/-- The text of the log that `AgentApp::OnCtrl` writes. -/
def recvCMDS (cmdLine : List Bytes) : Option Bytes :=
  (List.range cmdLine.length).foldlM (fun recvCMDS i => do
    let cmd ← cmdLine[i]?
    return recvCMDS ++ (if i = 1 then ascii " : " else if i > 1 then ascii " & " else []) ++ cmd) []

def agentAppOnCtrl (cmdLine : List Bytes) : Option Bytes := do
  let _log ← recvCMDS cmdLine
  return ascii "todo"

/-- The servers, by their `OnCtrl`. -/
inductive Server where
  | app
  | gateServer (h : GateServerHandler)
  | agentApp

def Server.onCtrl (env : ConsoleEnv) (app : App) : Server → List Bytes → Option Bytes
  | .app => App.onCtrl
  | .gateServer h => gateServerOnCtrl env app h
  | .agentApp => agentAppOnCtrl

/-- `App::Ctrl`; `none` if an element is accessed that the command line does not have. -/
def App.ctrl (env : ConsoleEnv) (server : Server) (app : App) (cmdLine : List Bytes) :
    Option (App × Bytes) := do
  let mainCMD ← cmdLine[0]?
  let rsp := mainCMD ++ ascii ":"
  if mainCMD = ascii "quit" then return ({ app with closing := 1 }, ascii "system is closing ...")
  else if mainCMD = ascii "time" then return (app, rsp ++ env.timeText app.curTime)
  else if mainCMD = ascii "rtime" then
    let runseconds := app.runTime.toInt32
    return (app, rsp ++ numeral (runseconds / 3600).toInt ++ ascii " hours " ++
      numeral (runseconds % 3600 / 60).toInt ++ ascii " min " ++ numeral (runseconds % 60).toInt ++
      ascii " seconds")
  else return (app, ← server.onCtrl env app cmdLine)

/-- `AppConsoletHandler::OnDataRecv`, with the answer. -/
def onDataRecv (env : ConsoleEnv) (server : Server) (app : App) (datagram : Bytes) : Option (App × Bytes) :=
  app.ctrl env server (commandLine datagram)

section Loop

variable {line pszDeli : Bytes} {solid : pszDeli ≠ []} {start stop : Nat} {list : List Bytes}

theorem splitLoop_next (inside : start < line.length) (found : find line pszDeli start = some stop) :
    splitLoop line pszDeli solid start list = splitLoop line pszDeli solid (stop + pszDeli.length)
      (if cstr (line.extract start stop) ≠ pszDeli ∧ start < stop then list ++ [line.extract start stop]
        else list) := by
  rw [splitLoop, dif_pos inside]
  split
  next none => cases none.symm.trans found
  next same =>
    cases same.symm.trans found
    rfl

theorem splitLoop_end (beyond : ¬ start < line.length) : splitLoop line pszDeli solid start list = list := by
  rw [splitLoop, dif_neg beyond]

end Loop

variable {sep : UInt8} {text : Bytes}

theorem find_singleton_iff : find str [sep] start = some stop ↔
    start ≤ stop ∧ str[stop]? = some sep ∧ ∀ k, start ≤ k → k < stop → str[k]? ≠ some sep := by
  have here (k : Nat) : List.isPrefixOf [sep] (str.drop k) = true ↔ str[k]? = some sep := by
    rw [List.isPrefixOf_iff_prefix, List.singleton_prefix_iff_head?_eq_some, List.head?_drop]
  simp only [find, List.find?_range'_eq_some, List.mem_range'_1, Bool.not_eq_true', ← Bool.not_eq_true, here]
  constructor
  · rintro ⟨found, ⟨above, _⟩, none⟩
    exact ⟨above, found, none⟩
  · rintro ⟨above, found, none⟩
    obtain ⟨inside, _⟩ := List.getElem?_eq_some_iff.mp found
    exact ⟨found, ⟨above, by omega⟩, none⟩

private theorem exists_find (sep : UInt8) (inside : start ≤ text.length) :
    ∃ stop ≤ text.length, find (text ++ [sep]) [sep] start = some stop := by
  have ends : ∃ stop, start ≤ stop ∧ (text ++ [sep])[stop]? = some sep :=
    ⟨text.length, inside, by simp⟩
  obtain ⟨above, found⟩ := Nat.find_spec ends
  refine ⟨Nat.find ends, Nat.find_min' ends ⟨inside, by simp⟩, find_singleton_iff.mpr ⟨above, found, ?_⟩⟩
  exact fun k late early same => Nat.find_min ends early ⟨late, same⟩

private theorem cstr_extract_ne (solid : ∀ k, start ≤ k → k < stop → ¬ IsBreak sep text k) :
    cstr (text.extract start stop) ≠ [sep] := by
  intro same
  have member : sep ∈ text.extract start stop :=
    (List.takeWhile_prefix _).subset (same ▸ List.mem_singleton_self sep)
  obtain ⟨k, place⟩ := List.mem_iff_getElem?.mp member
  rw [List.extract_eq_take_drop, List.getElem?_take, List.getElem?_drop] at place
  split at place
  next inside =>
    refine solid (start + k) (by omega) (by omega) fun item here => ?_
    cases here.symm.trans place
    rfl
  · cases place

private theorem splitLoop_segmentation (start : Nat) (spans : List (Nat × Nat))
    (scanned : Scanned (IsBreak sep text) start spans) :
    Segmentation sep text (splitLoop (text ++ [sep]) [sep] (List.cons_ne_nil _ _) start
      (spans.map fun span => text.extract span.1 span.2)) := by
  have length : (text ++ [sep]).length = text.length + 1 := List.length_append
  by_cases inside : start ≤ text.length
  · obtain ⟨stop, within, found⟩ := exists_find sep inside
    obtain ⟨above, delimiter, none⟩ := find_singleton_iff.mp found
    have breaks : IsBreak sep text stop := (isBreak_iff within).mpr delimiter
    have solid : ∀ k, start ≤ k → k < stop → ¬ IsBreak sep text k := by
      intro k late early broken
      exact none k late early ((isBreak_iff (by omega)).mp broken)
    have seg : (text ++ [sep]).extract start stop = text.extract start stop := by
      rw [List.extract_eq_take_drop, List.extract_eq_take_drop, List.drop_append_of_le_length inside,
        List.take_append_of_le_length (by rw [List.length_drop]; omega)]
    have tested : (cstr (text.extract start stop) ≠ [sep] ∧ start < stop) = (start < stop) :=
      propext (and_iff_right (cstr_extract_ne solid))
    have rest := splitLoop_segmentation (stop + 1) _ (scanned.next above breaks solid)
    rw [splitLoop_next (by omega) found, seg]
    simp only [tested]
    rw [apply_ite (List.map _)] at rest
    simpa using rest
  · rw [splitLoop_end (by omega)]
    exact scanned.segmentation (by omega)
termination_by text.length + 1 - start

/-- `SplitCMDLine` finds the maximal segments without the delimiter. -/
theorem splitCMDLine_segmentation (sep : UInt8) (text : Bytes) :
    Segmentation sep text (splitCMDLine text [sep] (List.cons_ne_nil _ _)) :=
  splitLoop_segmentation 0 [] .nil

variable {env : ConsoleEnv} {server : Server} {app : App} {cmdLine : List Bytes}

theorem gateServerOnCtrl_isSome_iff (h : GateServerHandler) :
    (gateServerOnCtrl env app h cmdLine).isSome ↔ cmdLine ≠ [] := by
  cases cmdLine with
  | nil => exact iff_of_false Bool.false_ne_true (not_not_intro rfl)
  | cons mainCMD more =>
    refine iff_of_true ?_ (List.cons_ne_nil _ _)
    simp only [gateServerOnCtrl, List.getElem?_cons_zero, Option.bind_eq_bind, Option.bind_some]
    split_ifs <;> rfl

private theorem recvCMDS_isSome (cmdLine : List Bytes) : (recvCMDS cmdLine).isSome := by
  have loop : ∀ (rounds : List Nat) (text : Bytes), (∀ i ∈ rounds, i < cmdLine.length) →
      (rounds.foldlM (fun recvCMDS i => do
        let cmd ← cmdLine[i]?
        return recvCMDS ++ (if i = 1 then ascii " : " else if i > 1 then ascii " & " else []) ++ cmd)
        text).isSome := by
    intro rounds
    induction rounds with
    | nil => exact fun _ _ => rfl
    | cons i rounds ih =>
      intro text below
      rw [List.foldlM_cons, List.getElem?_eq_getElem (below i List.mem_cons_self)]
      exact ih _ fun k member => below k (List.mem_cons_of_mem i member)
  exact loop _ _ fun i member => List.mem_range.mp member

theorem agentAppOnCtrl_eq (cmdLine : List Bytes) : agentAppOnCtrl cmdLine = some (ascii "todo") := by
  obtain ⟨log, written⟩ := Option.isSome_iff_exists.mp (recvCMDS_isSome cmdLine)
  rw [agentAppOnCtrl, written]
  rfl

theorem Server.onCtrl_isSome (server : Server) (solid : cmdLine ≠ []) :
    (server.onCtrl env app cmdLine).isSome := by
  cases server with
  | app => rfl
  | gateServer h => exact (gateServerOnCtrl_isSome_iff h).mpr solid
  | agentApp =>
    change (agentAppOnCtrl cmdLine).isSome
    rw [agentAppOnCtrl_eq]
    rfl

theorem App.ctrl_isSome_iff : (app.ctrl env server cmdLine).isSome ↔ cmdLine ≠ [] := by
  cases cmdLine with
  | nil => exact iff_of_false Bool.false_ne_true (not_not_intro rfl)
  | cons mainCMD more =>
    have solid : mainCMD :: more ≠ [] := List.cons_ne_nil _ _
    have own : (server.onCtrl env app (mainCMD :: more)).isSome := server.onCtrl_isSome solid
    obtain ⟨rsp, answered⟩ := Option.isSome_iff_exists.mp own
    refine iff_of_true ?_ solid
    simp only [App.ctrl, List.getElem?_cons_zero, Option.bind_eq_bind, Option.bind_some, answered]
    split_ifs <;> rfl

def HasWord (datagram : Bytes) : Prop := ∃ byte ∈ cstr datagram, byte ≠ space

theorem commandLine_segmentation (datagram : Bytes) :
    Segmentation space (cstr datagram) (commandLine datagram) :=
  splitCMDLine_segmentation space (cstr datagram)

theorem commandLine_ne_nil_iff (datagram : Bytes) : commandLine datagram ≠ [] ↔ HasWord datagram := by
  rw [ne_eq, (commandLine_segmentation datagram).eq_nil_iff]
  simp only [HasWord, not_forall, exists_prop, ne_eq]

private theorem onDataRecv_isSome_iff (env : ConsoleEnv) (server : Server) (app : App) (datagram : Bytes) :
    (onDataRecv env server app datagram).isSome ↔ HasWord datagram := by
  rw [← commandLine_ne_nil_iff, onDataRecv, App.ctrl_isSome_iff]

/-- The words of a datagram are found, and the commands access no other element. -/
structure Answers (env : ConsoleEnv) (server : Server) (app : App) (h : GateServerHandler)
    (datagram : Bytes) : Prop where
  words : Segmentation space (cstr datagram) (commandLine datagram)
  ctrl : (onDataRecv env server app datagram).isSome
  gateServer : (gateServerOnCtrl env app h (commandLine datagram)).isSome
  agentApp : (agentAppOnCtrl (commandLine datagram)).isSome

/-- A datagram is split into its words, and every command accesses only those, exactly if there is one. -/
theorem console_answers_iff (env : ConsoleEnv) (server : Server) (app : App) (h : GateServerHandler)
    (datagram : Bytes) : Answers env server app h datagram ↔ HasWord datagram := by
  constructor
  · intro answers
    exact (onDataRecv_isSome_iff env server app datagram).mp answers.ctrl
  · intro word
    exact
      { words := commandLine_segmentation datagram
        ctrl := (onDataRecv_isSome_iff env server app datagram).mpr word
        gateServer := (gateServerOnCtrl_isSome_iff h).mpr ((commandLine_ne_nil_iff datagram).mpr word)
        agentApp := by rw [agentAppOnCtrl_eq]; rfl }

/-- The empty datagram, and one of two spaces in front of a zero byte. -/
theorem blank_datagrams_end : commandLine [] = [] ∧ commandLine [32, 32, 0, 97] = [] ∧
    (∀ env server app, onDataRecv env server app [] = none) ∧
    (∀ env server app, onDataRecv env server app [32, 32, 0, 97] = none) ∧
    ∀ env app h, gateServerOnCtrl env app h (commandLine []) = none := by
  have nothing : commandLine [] = [] :=
    not_not.mp (mt (commandLine_ne_nil_iff []).mp (by unfold HasWord; decide))
  have blanks : commandLine [32, 32, 0, 97] = [] :=
    not_not.mp (mt (commandLine_ne_nil_iff _).mp (by unfold HasWord; decide))
  refine ⟨nothing, blanks, fun env server app => ?_, fun env server app => ?_, fun env app h => ?_⟩
  · rw [onDataRecv, nothing]
    rfl
  · rw [onDataRecv, blanks]
    rfl
  · rw [nothing]
    rfl

end Playground.Console
