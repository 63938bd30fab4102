import Playground.Record.Fill
import Playground.Redis.Envelope

/-! The commands of the `CacheAgent`. -/

namespace Playground.Redis

open Framing Record Datacenter

inductive CacheCallBackTypeCmd where
  | get
  | update
  | remove
deriving DecidableEq

def CacheCallBackTypeCmd.code : CacheCallBackTypeCmd → UInt16
  | .get => cacheCmdGet
  | .update => cacheCmdUpdate
  | .remove => cacheCmdRemove

/-- The text of a value in the key, which `snprintf` cuts to the buffer of 512 bytes. -/
def cacheKeyText {Msg : Type} : Value Msg → Option Bytes
  | .string text => some ((text.takeWhile (· ≠ 0)).take 511)
  | value => keyText value

def RedisCommand.key : RedisCommand → Option Bytes
  | .get key => some key
  | .set key _ => some key
  | .del key => some key
  | .select _ => none

/-- The serializer of an agent, and how many bytes `Buffer::Create` gets. -/
structure CacheSerializer {Msg : Type} (proto : Protobuf Msg) where
  getTypeName : Object proto → Bytes
  pack : Object proto → Option Bytes
  created : Nat → Bool := fun _ => true

namespace CacheAgent

variable {Msg : Type} {proto : Protobuf Msg}

/-- The fields are read one by one, until one fails. -/
def getObjectKeyLoop {desc : Descriptor} (msg : Message proto desc) :
    List String → Nat → Bytes → Except Fault Bytes
  | [], _, key => .ok key
  | pk :: pks, done, key =>
    let key := if done > 0 then key ++ ascii "&" else key
    match desc.findFieldByName pk with
    | none => .error .aborted
    | some i => do
      if !(← msg.hasField i) then .error (.returns (-1))
      else
        match cacheKeyText (← msg.get i) with
        | none => .error (.returns (-1))
        | some text => getObjectKeyLoop msg pks (done + 1) (key ++ text)

variable (serializer : CacheSerializer proto)

/-- The type name, a colon, and the primary keys with `&` between them. -/
def getObjectKey (obj : Object proto) : Except Fault Bytes :=
  let pks := getTypePrimaryKey obj.1
  if pks.isEmpty then .error (.returns (-1))
  else getObjectKeyLoop obj.2 pks 0 (serializer.getTypeName obj ++ ascii ":")

/-- The callback of a command on the key and value of an object, which has no object key. -/
def callBack (cmd : CacheCallBackTypeCmd) (obj : Object proto) (cb : Bytes) : Except Fault Bytes :=
  match createCallBack serializer.created 0 cmd.code (serializer.getTypeName obj) (some cb) none with
  | none => .error (.returns (-1))
  | some ccb => .ok ccb

def get (obj : Object proto) (cb : Bytes) : Except Fault (Bytes × RedisCommand) := do
  let key ← getObjectKey serializer obj
  return (← callBack serializer .get obj cb, .get key)

def remove (obj : Object proto) (cb : Bytes) : Except Fault (Bytes × RedisCommand) := do
  let key ← getObjectKey serializer obj
  return (← callBack serializer .remove obj cb, .del key)

/-- `Update` writes the packed object. -/
def update (obj : Object proto) (cb : Bytes) : Except Fault (Bytes × RedisCommand) := do
  let key ← getObjectKey serializer obj
  match serializer.pack obj with
  | none => .error (.returns (-1))
  | some buffer => return (← callBack serializer .update obj cb, .set key buffer)

def passes : CacheCallBackTypeCmd → Object proto → Bytes → Except Fault (Bytes × RedisCommand)
  | .get => get serializer
  | .update => update serializer
  | .remove => remove serializer

variable {serializer} {obj : Object proto} {cb ccb : Bytes} {command : RedisCommand}

theorem update_command (passed : update serializer obj cb = .ok (ccb, command)) :
    ∃ key buffer, getObjectKey serializer obj = .ok key ∧ serializer.pack obj = some buffer ∧
      command = .set key buffer := by
  obtain ⟨key, keyed, rest⟩ := bind_eq_ok.mp passed
  split at rest
  · cases rest
  · next buffer packed =>
    obtain ⟨made, -, whole⟩ := bind_eq_ok.mp rest
    cases whole
    exact ⟨key, buffer, keyed, packed, rfl⟩

end CacheAgent

end Playground.Redis
