import Mathlib.Logic.Function.Basic
import Playground.Framing.LengthPrefix
import Playground.Layout.Blocks

/-! The `ShareMemoryCenter`: modules that a process registers get regions of a shared memory segment,
which survives the process. The header of the segment records the modules; a later process
finds its modules there and appends those that are new.

The header is a record of its own, and the bytes of the segment are given by their offsets. A write
behind the end of the segment kills the process. -/

namespace Playground.Shm

open Framing Layout

/-- A text without a terminator in it. -/
abbrev CString := { text : Bytes // 0 ∉ text }

def shmMagic : Bytes := [82, 83, 72, 77]

def recoveryshmMaxMoudles : Nat := 256

/-- `sizeof(ShareMemoryCenterDataFmt)`: 34 bytes, and 49 for each of the entries. -/
def sizeofDataFmt : Nat := 34 + recoveryshmMaxMoudles * 49

/-- The entry of a module in the directory of the segment. -/
structure ShareMemoryModule where
  szName : CString
  chInited : UInt8
  dataOffset : UInt64
  zSize : UInt64
  /-- The name and its end fit into the 32 bytes they have. -/
  short : szName.1.length < 32
deriving DecidableEq

def ShareMemoryModule.block (mod : ShareMemoryModule) : Block :=
  { start := mod.dataOffset.toNat, size := mod.zSize.toNat }

/-- `OnAttach`, with what it leaves in the region. -/
abbrev Notifier := Bytes → UInt64 → UInt8 → Int × Bytes

/-- A module as it registers itself. -/
structure ShareMemoryModuleReg where
  name : CString
  zSize : UInt64
  notifier : Option Notifier

/-- The head of the segment. -/
structure ShareMemoryCenterDataFmt where
  magic : Bytes
  dataLength : UInt64
  modulesCount : Nat
  modules : Nat → ShareMemoryModule

/-- The shared memory, with the size it was created with. -/
structure Segment where
  fmt : ShareMemoryCenterDataFmt
  data : Nat → UInt8
  size : UInt64

theorem noModules_distinct : (([] : List ShareMemoryModuleReg).map (·.name)).Nodup := .nil

/-- The process side: no name is registered twice. -/
structure ShareMemoryCenter where
  vecModules : List ShareMemoryModuleReg := []
  zTotalSize : UInt64 := 0
  attached : Bool := false
  distinct : (vecModules.map (·.name)).Nodup := by exact noModules_distinct

/-- The registration of a name. -/
def findReg (regs : List ShareMemoryModuleReg) (name : CString) : Option ShareMemoryModuleReg :=
  regs.find? (·.name = name)

private theorem name_notMem_of_findReg {regs : List ShareMemoryModuleReg} (absent : findReg regs name = none) :
    name ∉ regs.map (·.name) := by
  intro member
  obtain ⟨reg, found, same⟩ := List.mem_map.mp member
  simpa [same] using List.find?_eq_none.mp absent reg found

/-- A second registration of a name is refused. -/
def ShareMemoryCenter.register (center : ShareMemoryCenter) (reg : ShareMemoryModuleReg) :
    Int × ShareMemoryCenter :=
  if absent : findReg center.vecModules reg.name = none then
    (0, { center with
      vecModules := center.vecModules ++ [reg]
      zTotalSize := center.zTotalSize + reg.zSize
      distinct := by
        rw [List.map_append, List.nodup_append]
        refine ⟨center.distinct, List.nodup_singleton _, ?_⟩
        rintro name old _ new rfl
        have same : name = reg.name := by simpa using new
        exact name_notMem_of_findReg absent (same ▸ old) })
  else (-1, center)

def ShareMemoryCenterDataFmt.entries (fmt : ShareMemoryCenterDataFmt) : List ShareMemoryModule :=
  (List.range fmt.modulesCount).map fmt.modules

/-- The entry of a name. -/
def findModule (fmt : ShareMemoryCenterDataFmt) (name : CString) : Option ShareMemoryModule :=
  fmt.entries.find? (·.szName = name)

/-- What `strncpy` leaves of a name. -/
def CString.cut (name : CString) : CString :=
  ⟨name.1.take 31, fun zero => name.2 (List.mem_of_mem_take zero)⟩

theorem CString.cut_length (name : CString) : name.cut.1.length < 32 := by
  have bound := List.length_take_le 31 name.1
  simp only [CString.cut]
  omega

/-- The entry of the module behind those in use, with its region cleared and `chInited` as it was. -/
def Segment.append (segment : Segment) (reg : ShareMemoryModuleReg) : Segment :=
  let fmt := segment.fmt
  { segment with
    fmt := { fmt with
      dataLength := fmt.dataLength + reg.zSize
      modulesCount := fmt.modulesCount + 1
      modules := Function.update fmt.modules fmt.modulesCount {
        szName := reg.name.cut
        chInited := (fmt.modules fmt.modulesCount).chInited
        dataOffset := fmt.dataLength
        zSize := reg.zSize
        short := reg.name.cut_length } }
    data := fill segment.data { start := fmt.dataLength.toNat, size := reg.zSize.toNat } 0 }

/-- The entry that is appended for a registration; `chInited` stays as it was. -/
def Segment.entry (segment : Segment) (reg : ShareMemoryModuleReg) : ShareMemoryModule where
  szName := reg.name.cut
  chInited := (segment.fmt.modules segment.fmt.modulesCount).chInited
  dataOffset := segment.fmt.dataLength
  zSize := reg.zSize
  short := reg.name.cut_length

/-- How `Init` can end the process. -/
inductive Death where
  | assertion
  | fault
deriving DecidableEq

section Modules

variable (regs : List ShareMemoryModuleReg) (total : UInt64)

/-- Appends the entry of a registered name, if the total allows it. -/
def addModule (segment : Segment) (name : CString) : Except Death (Int × Segment) :=
  match findReg regs name with
  | none => .ok (-1, segment)
  | some reg =>
    if reg.zSize + segment.fmt.dataLength > total then .ok (-1, segment)
    else if segment.fmt.modulesCount ≥ recoveryshmMaxMoudles then .ok (-1, segment)
    else if segment.fmt.dataLength.toNat + reg.zSize.toNat > segment.size.toNat then .error .fault
    else .ok (0, segment.append reg)

/-- What `AddModule` returns is ignored. -/
def appendLoop : List ShareMemoryModuleReg → Segment → Except Death Segment
  | [], segment => .ok segment
  | reg :: rest, segment =>
    if (findModule segment.fmt reg.name).isSome then appendLoop rest segment
    else (addModule regs total segment reg.name).bind fun added => appendLoop rest added.2

def appendRegModules (segment : Segment) : Except Death Segment := appendLoop regs total regs segment

def zeroModule : ShareMemoryModule :=
  { szName := ⟨[], nofun⟩, chInited := 0, dataOffset := 0, zSize := 0, short := by decide }

/-- A new segment gets an empty directory and zeros. -/
def Segment.clear (segment : Segment) : Segment :=
  { segment with
    fmt := {
      magic := shmMagic
      dataLength := UInt64.ofNat sizeofDataFmt
      modulesCount := 0
      modules := fun _ => zeroModule }
    data := fill segment.data { start := 0, size := total.toNat } 0 }

/-- Clears the segment and appends all modules. -/
def initRegModules (segment : Segment) : Except Death Segment :=
  if segment.size.toNat < sizeofDataFmt ∨ segment.size < total then .error .fault
  else appendRegModules regs total (segment.clear total)

end Modules

/-- A call of `OnAttach`. -/
structure Attachment where
  name : CString
  dataOffset : UInt64
  zSize : UInt64
  chInited : UInt8
  data : Bytes
deriving DecidableEq

def Segment.attachment (segment : Segment) (i : Nat) : Attachment :=
  let mod := segment.fmt.modules i
  { name := mod.szName, dataOffset := mod.dataOffset, zSize := mod.zSize, chInited := mod.chInited
    data := read segment.data mod.block }

def Segment.inited (segment : Segment) (i : Nat) : Segment :=
  { segment with fmt := { segment.fmt with
    modules := Function.update segment.fmt.modules i { segment.fmt.modules i with chInited := 1 } } }

/-- The modules are attached one after the other, until one fails. -/
def attachLoop (regs : List ShareMemoryModuleReg) : List Nat → Segment → Int × Segment × List Attachment
  | [], segment => (0, segment, [])
  | i :: rest, segment =>
    match findReg regs (segment.fmt.modules i).szName with
    | none => (-1, segment, [])
    | some reg =>
      match reg.notifier with
      | none => attachLoop regs rest (segment.inited i)
      | some onAttach =>
        let call := segment.attachment i
        let result := onAttach call.data call.zSize call.chInited
        let written := { segment with data := write segment.data (segment.fmt.modules i).block result.2 }
        if result.1 ≠ 0 then (-1, written, [call])
        else
          let later := attachLoop regs rest (written.inited i)
          (later.1, later.2.1, call :: later.2.2)

def attachAllModules (regs : List ShareMemoryModuleReg) (segment : Segment) :
    Int × Segment × List Attachment :=
  attachLoop regs (List.range segment.fmt.modulesCount) segment

/-- The size of the segment, what is behind its old end, and the number of processes attached to it; or
the size and the bytes of a new one. -/
inductive AttachAnswer where
  | attached (size : UInt64) (behind : Nat → UInt8) (nattach : Int)
  | absent (created : Option (UInt64 × (Nat → UInt8)))
  | failed

/-- The segment that survived, with the size it has now. -/
def Segment.survive (segment : Segment) (size : UInt64) (behind : Nat → UInt8) : Segment :=
  { segment with
    data := fun place => if place < segment.size.toNat then segment.data place else behind place
    size }

/-- `Check`: at least one process is attached, and the magic is there. -/
def check (nattach : Int) (segment : Segment) : Int :=
  if nattach ≤ 0 ∨ nattach < 1 then -1 else if segment.fmt.magic = shmMagic then 0 else 1

/-- What `Init` returns and leaves. -/
structure Outcome where
  ret : Int
  center : ShareMemoryCenter
  segment : Option Segment
  calls : List Attachment

/-- The end of `Init`, on a segment that is ready. -/
def ShareMemoryCenter.attachAll (center : ShareMemoryCenter) (segment : Segment) : Outcome :=
  let attached := attachAllModules center.vecModules segment
  { ret := attached.1, center := { center with attached := true }, segment := some attached.2.1
    calls := attached.2.2 }

def ShareMemoryCenter.init (center : ShareMemoryCenter) (old : Option Segment) (answer : AttachAnswer) :
    Except Death Outcome :=
  let total := center.zTotalSize + UInt64.ofNat sizeofDataFmt
  let center := { center with zTotalSize := total }
  let returns (segment : Option Segment) : Outcome :=
    { ret := -1, center := { center with attached := false }, segment, calls := [] }
  match answer, old with
  | .failed, old => .ok (returns old)
  | .absent none, _ => .ok (returns none)
  | .absent (some (size, data)), _ =>
    let raw : Segment :=
      { fmt := { magic := [], dataLength := 0, modulesCount := 0, modules := fun _ => zeroModule }, data, size }
    (initRegModules center.vecModules total raw).map center.attachAll
  | .attached _ _ _, none => .error .fault
  | .attached size behind nattach, some old =>
    let segment := old.survive size behind
    if check nattach segment ≠ 0 then .ok (returns (some segment))
    else if segment.fmt.dataLength ≠ total then
      if segment.fmt.dataLength < total ∧ segment.fmt.modulesCount < center.vecModules.length then
        (appendRegModules center.vecModules total segment).map center.attachAll
      else .error .assertion
    else .ok (center.attachAll segment)

/-- What `GetModuleBuffer` gives to a module. -/
structure ModuleBuffer where
  pBuffer : Nat
  iUsed : Int
deriving DecidableEq

/-- The size of a buffer is an `int`. -/
def getModleBuffer (segment : Segment) (name : CString) : Option ModuleBuffer :=
  (findModule segment.fmt name).map fun mod =>
    { pBuffer := mod.dataOffset.toNat, iUsed := (BitVec.ofNat 32 mod.zSize.toNat).toInt }

end Playground.Shm
