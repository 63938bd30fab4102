import Mathlib.Tactic

/-! The role id of `ZoneAgentMgr`: 16 bits of the area in front of 32 bits of the account. -/

namespace Playground.Zone

def getRoleID (uid : UInt64) (area : UInt32) : UInt64 :=
  ((area &&& 0xFFFF).toUInt64 <<< 32) ||| (uid &&& 0xFFFFFFFF)

def getAreaFromRoleID (rid : UInt64) : UInt16 := ((rid >>> 32) &&& 0xFFFF).toUInt16

def getZoneIDFromArea (area : UInt32) : UInt16 := area.toUInt16

theorem getRoleID_toNat (uid : UInt64) (area : UInt32) :
    (getRoleID uid area).toNat = area.toNat % 65536 * 4294967296 + uid.toNat % 4294967296 := by
  have account : uid.toNat % 2 ^ 32 < 2 ^ 32 := Nat.mod_lt _ (by decide)
  have low : uid.toNat &&& 4294967295 = uid.toNat % 2 ^ 32 := Nat.and_two_pow_sub_one_eq_mod uid.toNat 32
  have high : area.toNat &&& 65535 = area.toNat % 2 ^ 16 := Nat.and_two_pow_sub_one_eq_mod area.toNat 16
  have packed := Nat.shiftLeft_add_eq_or_of_lt account (area.toNat % 2 ^ 16)
  simp only [getRoleID, UInt64.toNat_or, UInt64.toNat_shiftLeft, UInt64.toNat_and, UInt32.toNat_toUInt64,
    UInt32.toNat_and]
  simp only [UInt32.reduceToNat, UInt64.reduceToNat, low, high]
  have small : (area.toNat % 2 ^ 16) <<< (32 % 64) % 2 ^ 64 = (area.toNat % 2 ^ 16) <<< 32 := by
    have bounded : area.toNat % 2 ^ 16 < 2 ^ 16 := Nat.mod_lt _ (by decide)
    apply Nat.mod_eq_of_lt
    calc (area.toNat % 2 ^ 16) <<< (32 % 64) = area.toNat % 2 ^ 16 * 2 ^ 32 := Nat.shiftLeft_eq _ 32
      _ < 2 ^ 16 * 2 ^ 32 := Nat.mul_lt_mul_of_pos_right bounded (by decide)
      _ ≤ 2 ^ 64 := by decide
  rw [small, ← packed, Nat.shiftLeft_eq]
  norm_num

/-- The low 32 bits of the account and the low 16 bits of the area decide. -/
theorem getRoleID_eq_iff (uid uid' : UInt64) (area area' : UInt32) :
    getRoleID uid area = getRoleID uid' area' ↔
      uid.toNat % 4294967296 = uid'.toNat % 4294967296 ∧ area.toNat % 65536 = area'.toNat % 65536 := by
  rw [← UInt64.toNat_inj, getRoleID_toNat, getRoleID_toNat]
  omega

/-- The zone that `GetZoneAgentByArea` looks for, from the area decoded out of a role id. -/
def zoneOfRoleID (rid : UInt64) : UInt32 := (getZoneIDFromArea (getAreaFromRoleID rid).toUInt32).toUInt32

private theorem zoneOfRoleID_toNat (uid : UInt64) (area : UInt32) :
    (zoneOfRoleID (getRoleID uid area)).toNat = area.toNat % 65536 := by
  have packed := getRoleID_toNat uid area
  have shifted : (getRoleID uid area).toNat >>> 32 = area.toNat % 65536 := by
    rw [packed, Nat.shiftRight_eq_div_pow]
    omega
  have masked : area.toNat % 65536 &&& 65535 = area.toNat % 65536 % 2 ^ 16 :=
    Nat.and_two_pow_sub_one_eq_mod _ 16
  simp only [zoneOfRoleID, getZoneIDFromArea, getAreaFromRoleID, UInt16.toNat_toUInt32, UInt32.toNat_toUInt16,
    UInt64.toNat_toUInt16, UInt64.toNat_and, UInt64.toNat_shiftRight, UInt64.reduceToNat]
  simp [shifted, masked]

/-- The decoded area is the area exactly when it fits into 16 bits. -/
theorem zoneOfRoleID_eq_iff (uid : UInt64) (area : UInt32) :
    zoneOfRoleID (getRoleID uid area) = area ↔ area.toNat < 65536 := by
  rw [← UInt32.toNat_inj, zoneOfRoleID_toNat]
  omega

end Playground.Zone
