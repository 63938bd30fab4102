import Playground.Datacenter.DBAgent
import Playground.Ordered.Index

/-! The `ResTableAgent`. -/

namespace Playground.Resource

open Framing Datacenter Ordered

variable {Msg : Type} {proto : Protobuf Msg}

/-- `GetObjectFieldU32`: the variable after the call, which keeps its value if there is no such field. -/
def getObjectFieldU32 (obj : Object proto) (fieldName : String) (val : BitVec 32) :
    Except Fault (BitVec 32) :=
  match obj.1.findFieldByName fieldName with
  | none => .ok val
  | some i => do
    match ← obj.2.get i with
    | .uint32 bits => .ok bits
    | _ => .error .aborted

/-- The loop over the primary keys: `k <<= 32; k |= val`. -/
def entryKeyLoop (obj : Object proto) : List String → Nat → BitVec 32 → Except Fault Nat
  | [], k, _ => .ok k
  | pk :: pks, k, val => do
    let val ← getObjectFieldU32 obj pk val
    entryKeyLoop obj pks ((k <<< 32) % 2 ^ 64 ||| val.toNat) val

structure ResLibrary (proto : Protobuf Msg) where
  asserts : Bool
  /-- The first part of a file name, `SplitString(file, ".")[0]`. -/
  stem : String → String
  /-- `UnPack` of a table, with the rows in its field `list`; the reflection dies if it has none. -/
  unPack : String → Bytes → Option (Except Fault (List (Object proto)))

def ResLibrary.getResTableEntryKey (library : ResLibrary proto) (obj : Object proto) : Except Fault Nat :=
  let pks := getTypePrimaryKey obj.1
  if pks.length > 2 then (if library.asserts then .error .aborted else .ok 0)
  else entryKeyLoop obj pks 0 0

abbrev MapResTable (proto : Protobuf Msg) := Std.TreeMap Nat (Object proto)

structure ResTableAgent (proto : Protobuf Msg) where
  mpAllNameTables : String → Option (MapResTable proto) := fun _ => none
  mpNameCacheTable : String → Option (List (Object proto)) := fun _ => none

structure ResDataDir where
  files : Option (List String)
  /-- The buffer for the files can be had, and what it holds then. -/
  created : Bool := true
  rubbish : Bytes := []
  size : String → Int
  content : String → Bytes

def maxTableFileSize : Int := 16 * 1024 * 1024

/-- `Read` of as many bytes as the size says: the buffer keeps what is not overwritten. -/
def ResDataDir.read (dir : ResDataDir) (file : String) (buffer : Bytes) : Bytes :=
  let bytes := (dir.content file).take (dir.size file).toNat
  bytes ++ buffer.drop bytes.length

def metaNameSpace : String := "res"

namespace ResTableAgent

def loadRows (library : ResLibrary proto) : List (Object proto) → MapResTable proto →
    Except Fault (Bool × MapResTable proto)
  | [], table => .ok (true, table)
  | row :: rows, table => do
    let ulKey ← library.getResTableEntryKey row
    if table[ulKey]?.isSome then .ok (false, table) else loadRows library rows (table.insert ulKey row)

/-- The loop over the files: what the call returns, with the tables until then. -/
def loadFiles (library : ResLibrary proto) (dir : ResDataDir) :
    List String → Bytes → ResTableAgent proto → Except Fault (Int × ResTableAgent proto)
  | [], _, agent => .ok (0, agent)
  | file :: files, buffer, agent =>
    if dir.size file ≤ 0 then .ok (-1, agent)
    -- the file is read past the end of the buffer
    else if dir.size file > maxTableFileSize then .error .aborted
    else
      let resTableType := library.stem file
      let buffer := dir.read file buffer
      match library.unPack (metaNameSpace ++ "." ++ resTableType) (buffer.take (dir.size file).toNat) with
      | none => .ok (-1, agent)
      | some list => do
        let rows ← list
        let (whole, table) ← loadRows library rows ((agent.mpAllNameTables resTableType).getD ∅)
        let next := { agent with
          mpAllNameTables := Function.update agent.mpAllNameTables resTableType (some table) }
        if whole then loadFiles library dir files buffer next else .ok (-1, next)

def reLoad (library : ResLibrary proto) (dir : ResDataDir) (agent : ResTableAgent proto) :
    Except Fault (Int × ResTableAgent proto) :=
  match dir.files with
  | none => .ok (-1, agent)
  | some files => if dir.created then loadFiles library dir files dir.rubbish {} else .ok (-1, {})

/-- The three lookups: the key is computed only if there is such a table. -/
def search (library : ResLibrary proto) (pick : MapResTable proto → Nat → Option (Object proto))
    (agent : ResTableAgent proto) (name : String) (obj : Object proto) : Except Fault (Option (Object proto)) :=
  match agent.mpAllNameTables name with
  | none => .ok none
  | some table => do
    let ulKey ← library.getResTableEntryKey obj
    return pick table ulKey

def find (library : ResLibrary proto) (agent : ResTableAgent proto) (name : String) (obj : Object proto) :
    Except Fault (Option (Object proto)) :=
  search library (fun table ulKey => table[ulKey]?) agent name obj

def lowerBound (library : ResLibrary proto) (agent : ResTableAgent proto) (name : String)
    (obj : Object proto) :
    Except Fault (Option (Object proto)) :=
  search library (fun table ulKey => (Ordered.lowerBound table ulKey).map Prod.snd) agent name obj

def upperBound (library : ResLibrary proto) (agent : ResTableAgent proto) (name : String)
    (obj : Object proto) :
    Except Fault (Option (Object proto)) :=
  search library (fun table ulKey => (Ordered.upperBound table ulKey).map Prod.snd) agent name obj

def rows (agent : ResTableAgent proto) (name : String) : List (Object proto) :=
  match agent.mpAllNameTables name with
  | none => []
  | some table => table.toList.map Prod.snd

def getAll (agent : ResTableAgent proto) (name : String) : List (Object proto) × ResTableAgent proto :=
  match agent.mpNameCacheTable name with
  | some vecObj => (vecObj, agent)
  | none => (agent.rows name,
      { agent with mpNameCacheTable := Function.update agent.mpNameCacheTable name (some (agent.rows name)) })

def random (agent : ResTableAgent proto) (name : String) (pick : Nat) :
    Option (Object proto) × ResTableAgent proto :=
  let (vec, next) := agent.getAll name
  (vec[pick % vec.length]?, next)

end ResTableAgent

/-- The agents behind a load that returned 0, and lookups since. -/
inductive Serves (library : ResLibrary proto) (dir : ResDataDir) : ResTableAgent proto → Prop
  | loaded {start agent : ResTableAgent proto} (returns : start.reLoad library dir = .ok (0, agent)) :
      Serves library dir agent
  | getAll {agent : ResTableAgent proto} (name : String) (serves : Serves library dir agent) :
      Serves library dir (agent.getAll name).2
  | random {agent : ResTableAgent proto} (name : String) (pick : Nat) (serves : Serves library dir agent) :
      Serves library dir (agent.random name pick).2

end Playground.Resource
