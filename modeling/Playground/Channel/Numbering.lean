import Playground.Channel.ChannelMsgProxy

/-! The numbers that `ChannelMsgProxy::Init` gives to the channels. -/

namespace Playground.Channel

open Framing

section Init

variable {env : Env} {mgr next : ChannelAgentMgr} {names : List Bytes} {pszName : Bytes}

def idNameOf (name : Bytes) : Bytes := (cstr name).take 127

structure ChannelAgentMgr.Numbered (mgr : ChannelAgentMgr) (names : List Bytes) : Prop where
  ids : mgr.channelAgents.map (·.id) = List.range names.length
  idNames : mgr.channelAgents.map (·.idName) = names
  nextGenID : mgr.nextGenID = max 1 (names.length - 1)

namespace ChannelAgentMgr.Numbered

variable (numbered : mgr.Numbered names)

include numbered

theorem length : mgr.channelAgents.length = names.length := by
  rw [← List.length_map (·.idName), numbered.idNames]

private theorem isNone_iff (id : Nat) : (mgr.getChannel id).isNone ↔ names.length ≤ id := by
  have absent : (mgr.getChannel id).isNone ↔ id ∉ mgr.channelAgents.map (·.id) := by
    simp [ChannelAgentMgr.getChannel]
  rw [absent, numbered.ids, List.mem_range, Nat.not_lt]

theorem getChannel {id : Nat} (listed : names[id]? = some name) :
    ∃ agent, mgr.getChannel id = some agent ∧ agent.idName = name := by
  have inside : id < mgr.channelAgents.length := numbered.length ▸ (List.getElem?_eq_some_iff.mp listed).1
  have isThere := List.getElem?_eq_getElem inside
  have number := congrArg (·[id]?) numbered.ids
  have named := congrArg (·[id]?) numbered.idNames
  simp only [List.getElem?_map, isThere, Option.map_some] at number named
  obtain ⟨_, here⟩ := List.getElem?_eq_some_iff.mp number.symm
  rw [List.getElem_range] at here
  have distinct : (mgr.channelAgents.map (·.id)).Nodup := numbered.ids ▸ List.nodup_range
  have found := Record.find?_key distinct (List.getElem_mem inside)
  rw [← here] at found
  exact ⟨_, found, Option.some.inj (named.trans listed)⟩

theorem generateChannelID (nonempty : names ≠ []) : mgr.generateChannelID = some names.length := by
  have positive := List.length_pos_iff.mpr nonempty
  have free : (names.length ≠ 0 ∧ (mgr.getChannel names.length).isNone) := by
    rw [numbered.isNone_iff]
    exact ⟨Nat.ne_of_gt positive, Nat.le_refl _⟩
  unfold ChannelAgentMgr.generateChannelID
  rw [numbered.length, numbered.nextGenID]
  by_cases single : names.length = 1
  · rw [single] at free ⊢
    exact List.find?_cons_of_pos (decide_eq_true free)
  · have first : max 1 (names.length - 1) = names.length - 1 := by omega
    have taken : ¬ (names.length - 1 ≠ 0 ∧ (mgr.getChannel (names.length - 1)).isNone) := by
      rw [numbered.isNone_iff]
      omega
    have next : names.length - 1 + 1 = names.length := by omega
    rw [first, List.range'_succ, List.find?_cons_of_neg (by simpa using taken), next]
    cases names with
    | nil => cases positive
    | cons name rest => exact List.find?_cons_of_pos (decide_eq_true free)

end ChannelAgentMgr.Numbered

theorem addChannel_zero {id : Nat}
    (added : ChannelAgentMgr.addChannel env mgr id isLocal pszName = some (0, next)) :
    next = { mgr with channelAgents := mgr.channelAgents ++ [{ id }] } := by
  unfold ChannelAgentMgr.addChannel at added
  split at added
  · cases added
  · split at added
    · cases added
    · split at added
      · cases added
      · split at added
        · cases added
        · cases added
          rfl

@[simp] theorem setIDName_ids (mgr : ChannelAgentMgr) (id : Nat) (name : Bytes) :
    (mgr.setIDName id name).channelAgents.map (·.id) = mgr.channelAgents.map (·.id) := by
  rw [ChannelAgentMgr.setIDName, List.map_map]
  refine List.map_congr_left fun agent _ => ?_
  simp only [Function.comp_apply]
  split <;> rfl

theorem ChannelAgentMgr.Numbered.add (numbered : mgr.Numbered names) (nonempty : names ≠ [])
    (name : Bytes) :
    ChannelAgentMgr.Numbered (ChannelAgentMgr.setIDName
      { mgr with nextGenID := names.length, channelAgents := mgr.channelAgents ++ [{ id := names.length }] }
      names.length name) (names ++ [idNameOf name]) where
  ids := by
    rw [setIDName_ids, List.map_append, numbered.ids, List.length_append, List.length_singleton, List.range_succ]
    rfl
  idNames := by
    have others : mgr.channelAgents.map ((·.idName) ∘ fun agent =>
        if agent.id = names.length then { agent with idName := idNameOf name } else agent) = names := by
      rw [← numbered.idNames]
      refine List.map_congr_left fun agent member => ?_
      have inside : agent.id ∈ List.range names.length := numbered.ids ▸ List.mem_map_of_mem member
      have other : agent.id ≠ names.length := Nat.ne_of_lt (List.mem_range.mp inside)
      simp only [Function.comp_apply, numbered.idNames, if_neg other]
    rw [ChannelAgentMgr.setIDName, List.map_map, List.map_append]
    refine congr (congrArg _ others) ?_
    simp [idNameOf]
  nextGenID := by
    have positive := List.length_pos_iff.mpr nonempty
    simp only [ChannelAgentMgr.setIDName, List.length_append, List.length_singleton]
    omega

private theorem initChannels_numbered {channels : List ChannelConfig}
    (ran : initChannels env pszName channels mgr = some (0, next))
    (numbered : mgr.Numbered names) (nonempty : names ≠ []) :
    next.Numbered (names ++ channels.map fun chnl => idNameOf chnl.name) ∧
      next.mpNameChnlID = mgr.mpNameChnlID := by
  induction channels generalizing mgr names with
  | nil =>
    cases ran
    rw [List.map_nil, List.append_nil]
    exact ⟨numbered, rfl⟩
  | cons chnl rest ih =>
    unfold initChannels at ran
    rw [numbered.generateChannelID nonempty, Option.bind_some] at ran
    obtain ⟨⟨ret, added⟩, isAdded, later⟩ := Option.bind_eq_some_iff.mp ran
    split at later
    · cases later
    · rename_i zero
      have isZero : ret = 0 := not_not.mp zero
      subst isZero
      have grown := addChannel_zero isAdded
      simp only [grown] at later
      have step := ih later (numbered.add nonempty chnl.name) (by simp)
      rw [List.append_assoc] at step
      exact step

/-- `Init` numbers the channels from 1 on, and enters no name to the map of names. -/
theorem initProxy_numbered {ctx : AppContext} (ran : initProxy env ctx = some (0, mgr))
    (listens : ctx.localChannelAddr ≠ []) :
    mgr.Numbered (idNameOf ctx.localChannelName :: ctx.channels.map fun chnl => idNameOf chnl.name) ∧
      mgr.mpNameChnlID = fun _ => none := by
  unfold initProxy at ran
  rw [if_neg listens] at ran
  obtain ⟨⟨ret, added⟩, isAdded, later⟩ := Option.bind_eq_some_iff.mp ran
  split at later
  · cases later
  · rename_i zero
    have isZero : ret = 0 := not_not.mp zero
    subst isZero
    have grown := addChannel_zero isAdded
    simp only [grown] at later
    have first : ChannelAgentMgr.Numbered (ChannelAgentMgr.setIDName { channelAgents := [{ id := 0 }] } 0
        ctx.localChannelName) [idNameOf ctx.localChannelName] := ⟨rfl, rfl, rfl⟩
    exact initChannels_numbered later first (List.cons_ne_nil _ _)

end Init

end Playground.Channel
