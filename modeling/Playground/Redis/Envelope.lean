import Playground.Redis.RedisAgent

/-! The callbacks of the `CacheAgent`. -/

namespace Playground.Redis

open Framing Datacenter

def le16 (value : UInt16) : Bytes := [UInt8.ofNat value.toNat, UInt8.ofNat (value.toNat / 256)]

def readLe16 (low high : UInt8) : UInt16 := UInt16.ofNat (high.toNat * 256 + low.toNat)

theorem readLe16_le16 (value : UInt16) :
    readLe16 (UInt8.ofNat value.toNat) (UInt8.ofNat (value.toNat / 256)) = value := by
  have small := value.toNat_lt
  have sum : (UInt8.ofNat (value.toNat / 256)).toNat * 256 + (UInt8.ofNat value.toNat).toNat = value.toNat := by
    simp only [UInt8.toNat_ofNat']
    omega
  rw [readLe16, sum, UInt16.ofNat_toNat]

/-- What a field of `size` bytes shows of a text that `STRNCPY` has put into it. -/
def shown (size : Nat) (text : Bytes) : Bytes := (text.takeWhile (· ≠ 0)).take (size - 1)

/-- `STRNCPY` into a field of zeros: at most `size - 1` bytes, and a terminator. -/
def strncpy (size : Nat) (text : Bytes) : Bytes := (shown size text).rightpad size 0

theorem shown_eq_self_iff {text : Bytes} :
    shown size text = text ↔ 0 ∉ text ∧ text.length ≤ size - 1 := by
  constructor
  · intro same
    have lengths := congrArg List.length same
    have taken := (text.takeWhile_prefix (· ≠ 0)).length_le
    rw [shown, List.length_take] at lengths
    have whole : text.takeWhile (· ≠ 0) = text := (text.takeWhile_prefix _).eq_of_length (by omega)
    exact ⟨(takeWhile_ne_zero_iff text).mp whole, by omega⟩
  · rintro ⟨terminated, short⟩
    rw [shown, (takeWhile_ne_zero_iff text).mpr terminated, List.take_of_length_le short]

theorem shown_length (size : Nat) (text : Bytes) : (shown size text).length ≤ size - 1 :=
  List.length_take_le _ _

theorem strncpy_length (size : Nat) (text : Bytes) : (strncpy size text).length = size := by
  have short := shown_length size text
  rw [strncpy, List.rightpad, List.length_append, List.length_replicate]
  omega

theorem strncpy_append (room : 0 < size) (text rest : Bytes) :
    0 ∈ strncpy size text ++ rest ∧ (strncpy size text ++ rest).takeWhile (· ≠ 0) = shown size text := by
  have short := shown_length size text
  obtain ⟨more, left⟩ : ∃ more, size - (shown size text).length = more + 1 :=
    Nat.exists_eq_succ_of_ne_zero (by omega)
  have field : strncpy size text ++ rest = shown size text ++ 0 :: (List.replicate more 0 ++ rest) := by
    rw [strncpy, List.rightpad, left, List.replicate_succ, List.append_assoc, List.cons_append]
  have inside : ∀ byte ∈ shown size text, decide (byte ≠ 0) := by
    intro byte member
    have seen : byte ∈ text.takeWhile (· ≠ 0) := List.mem_of_mem_take member
    simpa using List.mem_takeWhile_imp seen
  rw [field, List.takeWhile_append_of_pos inside]
  simp

theorem cString_strncpy (room : 0 < size) (text rest : Bytes) :
    cString (strncpy size text ++ rest) = .ok (shown size text) := by
  obtain ⟨terminated, read⟩ := strncpy_append room text rest
  rw [cString, if_pos terminated, read]

/-- `sizeof(CacheAgentCallBack::Head)`, packed. -/
def headSize : Nat := 21

def maxTypeKeySize : Nat := 16

def maxObjKeySize : Nat := 64

def cacheCmdGet : UInt16 := 1

def cacheCmdUpdate : UInt16 := 2

def cacheCmdInsert : UInt16 := 3

def cacheCmdRemove : UInt16 := 4

namespace CacheAgent

/-- The length in the head: the body is there if the object key is not empty. -/
def mcbSize (objKey : Bytes) : Nat := if objKey.length > 0 then headSize + maxObjKeySize else headSize

/-- `CreateCallBack` with all its arguments; the buffer may not be had. -/
def createCallBack (created : Nat → Bool) (type : UInt8) (cmd : UInt16) (typeKey : Bytes)
    (customCB objKey : Option Bytes) : Option Bytes :=
  let custom := customCB.getD []
  -- `strlen`
  let key := (objKey.getD []).takeWhile (· ≠ 0)
  if key.length > maxObjKeySize then none
  else if created (custom.length + mcbSize key) then
    let head := le16 (UInt16.ofNat (mcbSize key)) ++ [type] ++ le16 cmd ++ strncpy maxTypeKeySize typeKey
    let body := if key.length > 0 then strncpy maxObjKeySize (objKey.getD []) else []
    some (head ++ body ++ custom)
  else none

end CacheAgent

/-- What a callback says, with the bytes behind it. -/
structure CallBack where
  type : UInt8
  cmd : UInt16
  typeKey : Bytes
  /-- The text in the body; a callback without a body has no object key. -/
  objKey : Bytes
  ucb : Bytes
deriving DecidableEq

def readObjKey (length : Nat) (rest : Bytes) : Bytes :=
  if length > headSize then (rest.drop maxTypeKeySize).takeWhile (· ≠ 0) else []

/-- What `OnCommand` and `DispatchResult` read, and what stands in the body. -/
def decodeCallBack : Bytes → Except Fault CallBack
  | low :: high :: type :: cmdLow :: cmdHigh :: rest => do
    let buffer := low :: high :: type :: cmdLow :: cmdHigh :: rest
    let length := (readLe16 low high).toNat
    if buffer.length < length then .error .aborted
    else do
      let typeKey ← cString rest
      return { type, cmd := readLe16 cmdLow cmdHigh, typeKey, objKey := readObjKey length rest
               ucb := buffer.drop length }
  | _ => .error .aborted

theorem decode_parts {length : UInt16} (covers : length.toNat = 5 + more) (type : UInt8)
    (cmd : UInt16) {rest : Bytes} (enough : more ≤ rest.length) (read : cString rest = .ok typeKey)
    (body : readObjKey length.toNat rest = objKey) :
    decodeCallBack (le16 length ++ [type] ++ le16 cmd ++ rest) =
      .ok { type, cmd, typeKey, objKey, ucb := rest.drop more } := by
  have long : ¬ rest.length + 5 < length.toNat := by omega
  have behind (low high mark cmdLow cmdHigh : UInt8) :
      (low :: high :: mark :: cmdLow :: cmdHigh :: rest).drop length.toNat = rest.drop more := by
    rw [covers, Nat.add_comm]
    rfl
  simp only [le16, List.cons_append, List.nil_append, decodeCallBack, readLe16_le16, List.length_cons, long,
    if_false, read, body, behind]
  rfl

private theorem decode_head (type : UInt8) (cmd : UInt16) (typeKey custom : Bytes) :
    decodeCallBack (le16 21 ++ [type] ++ le16 cmd ++ (strncpy maxTypeKeySize typeKey ++ custom)) =
      .ok { type, cmd, typeKey := shown maxTypeKeySize typeKey, objKey := [], ucb := custom } := by
  have size := strncpy_length maxTypeKeySize typeKey
  have behind : (strncpy maxTypeKeySize typeKey ++ custom).drop 16 = custom := List.drop_left' size
  have enough : 16 ≤ (strncpy maxTypeKeySize typeKey ++ custom).length := by
    rw [List.length_append, size]
    exact Nat.le_add_right _ _
  have read : readObjKey (21 : UInt16).toNat (strncpy maxTypeKeySize typeKey ++ custom) = [] :=
    if_neg (by decide)
  rw [decode_parts rfl type cmd enough (cString_strncpy (by decide) typeKey custom) read, behind]

private theorem decode_body (type : UInt8) (cmd : UInt16) (typeKey key custom : Bytes) :
    decodeCallBack (le16 85 ++ [type] ++ le16 cmd ++
        (strncpy maxTypeKeySize typeKey ++ (strncpy maxObjKeySize key ++ custom))) =
      .ok { type, cmd, typeKey := shown maxTypeKeySize typeKey, objKey := shown maxObjKeySize key
            ucb := custom } := by
  have size := strncpy_length maxTypeKeySize typeKey
  have sizeToo := strncpy_length maxObjKeySize key
  have field : (strncpy maxTypeKeySize typeKey ++ (strncpy maxObjKeySize key ++ custom)).drop maxTypeKeySize =
      strncpy maxObjKeySize key ++ custom := List.drop_left' size
  have behind : (strncpy maxTypeKeySize typeKey ++ (strncpy maxObjKeySize key ++ custom)).drop 80 = custom := by
    rw [← List.append_assoc]
    exact List.drop_left' (by rw [List.length_append, size, sizeToo]; rfl)
  have enough : 80 ≤ (strncpy maxTypeKeySize typeKey ++ (strncpy maxObjKeySize key ++ custom)).length := by
    rw [List.length_append, List.length_append, size, sizeToo, maxTypeKeySize, maxObjKeySize]
    omega
  have read : readObjKey (85 : UInt16).toNat
      (strncpy maxTypeKeySize typeKey ++ (strncpy maxObjKeySize key ++ custom)) =
        shown maxObjKeySize key := by
    rw [readObjKey, if_pos (by decide), field, (strncpy_append (by decide) key custom).2]
  rw [decode_parts rfl type cmd enough (cString_strncpy (by decide) typeKey _) read, behind]

namespace CacheAgent

variable {created : Nat → Bool} {type : UInt8} {cmd : UInt16} {typeKey buffer : Bytes}
  {customCB objKey : Option Bytes}

private theorem decode_createCallBack
    (made : createCallBack created type cmd typeKey customCB objKey = some buffer) :
    decodeCallBack buffer = .ok
      { type, cmd, typeKey := shown maxTypeKeySize typeKey, objKey := shown maxObjKeySize (objKey.getD [])
        ucb := customCB.getD [] } := by
  unfold createCallBack at made
  dsimp only at made
  split at made
  · cases made
  · split at made
    case isFalse => cases made
    case isTrue =>
      cases made
      by_cases body : ((objKey.getD []).takeWhile (· ≠ 0)).length > 0
      · rw [if_pos body, mcbSize, if_pos body, List.append_assoc, List.append_assoc, List.append_assoc]
        exact decode_body ..
      · have empty : shown maxObjKeySize (objKey.getD []) = [] := by
          rw [shown, List.eq_nil_of_length_eq_zero (Nat.eq_zero_of_not_pos body)]
          rfl
        rw [if_neg body, mcbSize, if_neg body, List.append_nil, List.append_assoc, empty]
        exact decode_head ..

/-- A callback brings back what it was made of exactly if its fields can hold the texts with a
terminator: the name of the type in 16 bytes and the object key in 64. -/
theorem callback_round_trip_iff
    (made : createCallBack created type cmd typeKey customCB objKey = some buffer) :
    decodeCallBack buffer = .ok { type, cmd, typeKey, objKey := objKey.getD [], ucb := customCB.getD [] } ↔
      (0 ∉ typeKey ∧ typeKey.length ≤ 15) ∧ 0 ∉ objKey.getD [] ∧ (objKey.getD []).length ≤ 63 := by
  rw [decode_createCallBack made]
  have fields : shown maxTypeKeySize typeKey = typeKey ∧ shown maxObjKeySize (objKey.getD []) = objKey.getD [] ↔
      (0 ∉ typeKey ∧ typeKey.length ≤ 15) ∧ 0 ∉ objKey.getD [] ∧ (objKey.getD []).length ≤ 63 :=
    and_congr shown_eq_self_iff shown_eq_self_iff
  rw [← fields]
  simp

theorem callback_round_trip_role :
    createCallBack (fun _ => true) 0 1 (ascii "Role") (some [1, 2]) (some (ascii "Role:5")) =
        some (le16 85 ++ [0] ++ le16 1 ++ strncpy 16 (ascii "Role") ++ strncpy 64 (ascii "Role:5") ++ [1, 2]) ∧
      decodeCallBack (le16 85 ++ [0] ++ le16 1 ++ strncpy 16 (ascii "Role") ++ strncpy 64 (ascii "Role:5") ++
          [1, 2]) =
        .ok { type := 0, cmd := 1, typeKey := ascii "Role", objKey := ascii "Role:5", ucb := [1, 2] } := by
  have made : createCallBack (fun _ => true) 0 1 (ascii "Role") (some [1, 2]) (some (ascii "Role:5")) =
      some (le16 85 ++ [0] ++ le16 1 ++ strncpy 16 (ascii "Role") ++ strncpy 64 (ascii "Role:5") ++ [1, 2]) := by
    decide +kernel
  exact ⟨made, (callback_round_trip_iff made).mpr (by decide)⟩

/-- An object key of 64 bytes is accepted and loses its last one; a name of 18 bytes loses three. -/
theorem callback_texts_cut :
    (createCallBack (fun _ => true) 0 1 (ascii "Role") none (some (List.replicate 64 55))).map decodeCallBack =
        some (.ok { type := 0, cmd := 1, typeKey := ascii "Role", objKey := List.replicate 63 55, ucb := [] }) ∧
      (createCallBack (fun _ => true) 0 1 (ascii "PlayerLoginHistory") none none).map decodeCallBack =
        some (.ok { type := 0, cmd := 1, typeKey := ascii "PlayerLoginHist", objKey := [], ucb := [] }) := by
  decide +kernel

end CacheAgent

end Playground.Redis
