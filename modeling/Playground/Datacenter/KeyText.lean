import Playground.Record.Fill
import Playground.Datacenter.DBAgent

/-! Texts made of the primary keys of an object. -/

namespace Playground.Datacenter

open Framing Record

variable {Msg : Type} {proto : Protobuf Msg} {desc : Descriptor}

def Content.held : Content Msg → Option (Value Msg)
  | .singular value => value
  | .repeated _ => none

theorem Content.held_eq_some {content : Content Msg} :
    content.held = some value ↔ content = .singular (some value) := by
  cases content with
  | singular own => simp [Content.held]
  | repeated values => simp [Content.held]

def Message.keyValue (obj : Message proto desc) (pk : String) : Option (Value Msg) := do
  let i ← desc.findFieldByName pk
  (obj.content i).held

def keyLoop (separator : Bytes) (write : String → Value Msg → Option Bytes) (msg : Message proto desc) :
    List String → Nat → Bytes → Except Fault Bytes
  | [], _, key => .ok key
  | pk :: pks, done, key =>
    let key := if done > 0 then key ++ separator else key
    match desc.findFieldByName pk with
    | none => .error .aborted
    | some i => do
      if !(← msg.hasField i) then .error (.returns (-1))
      else
        match write pk (← msg.get i) with
        | none => .error (.returns (-1))
        | some text => keyLoop separator write msg pks (done + 1) (key ++ text)

section Loop

variable {separator : Bytes} {write : String → Value Msg → Option Bytes} {obj : Message proto desc}

private theorem keyLoop_cons :
    keyLoop separator write obj (pk :: pks) done key = .ok out ↔
      ∃ text, (obj.keyValue pk).bind (write pk) = some text ∧
        keyLoop separator write obj pks (done + 1) ((if done > 0 then key ++ separator else key) ++ text) =
          .ok out := by
  rw [keyLoop]
  cases found : desc.findFieldByName pk with
  | none => simp [Message.keyValue, found]
  | some i =>
    cases content : obj.content i with
    | repeated values =>
      simp [Message.keyValue, found, content, Content.held, Message.hasField, bind, Except.bind]
    | singular value =>
      cases value with
      | none => simp [Message.keyValue, found, content, Content.held, Message.hasField, bind, Except.bind]
      | some value =>
        have held : obj.keyValue pk = some value := by
          simp [Message.keyValue, found, content, Content.held]
        rw [held, Option.bind_some]
        simp only [Message.hasField, Message.get, content, bind, Except.bind, Option.isSome_some,
          Bool.not_true, Bool.false_eq_true, if_false, Option.getD_some]
        cases written : write pk value with
        | none => simp
        | some text => simp

theorem keyLoop_ok_iff {pks : List String} :
    keyLoop separator write obj pks done key = .ok out ↔
      ∃ texts, pks.mapM (fun pk => (obj.keyValue pk).bind (write pk)) = some texts ∧
        out = key ++ (if done > 0 ∧ texts ≠ [] then separator else []) ++ separator.intercalate texts := by
  induction pks generalizing done key with
  | nil => simp [keyLoop, eq_comm]
  | cons pk pks ih =>
    have joined (text : Bytes) (texts : List Bytes) :
        (if done > 0 then key ++ separator else key) ++ text ++
            (if done + 1 > 0 ∧ texts ≠ [] then separator else []) ++ separator.intercalate texts =
          key ++ (if done > 0 ∧ text :: texts ≠ [] then separator else []) ++
            separator.intercalate (text :: texts) := by
      have tail : text ++ (if done + 1 > 0 ∧ texts ≠ [] then separator else []) ++
          separator.intercalate texts = separator.intercalate (text :: texts) := by
        by_cases last : texts = []
        · simp [last]
        · simp [last, List.intercalate_cons_of_ne_nil last]
      rw [← tail]
      by_cases more : done > 0
      · simp [more]
      · simp [more]
    rw [keyLoop_cons, List.mapM_cons]
    constructor
    · rintro ⟨text, written, returns⟩
      obtain ⟨texts, others, rfl⟩ := ih.mp returns
      exact ⟨text :: texts, by simp [written, others], joined text texts⟩
    · rintro ⟨texts, made, rfl⟩
      obtain ⟨text, written, rest⟩ := Option.bind_eq_some_iff.mp made
      obtain ⟨others, listed, same⟩ := Option.bind_eq_some_iff.mp rest
      cases same
      exact ⟨text, written, ih.mpr ⟨others, listed, (joined text others).symm⟩⟩

theorem eq_keyLoop {loop : List String → Nat → Bytes → Except Fault Bytes}
    (last : ∀ done key, loop [] done key = .ok key)
    (pass : ∀ pk pks done key, loop (pk :: pks) done key =
      match desc.findFieldByName pk with
      | none => .error .aborted
      | some i => do
        if !(← obj.hasField i) then .error (.returns (-1))
        else
          match write pk (← obj.get i) with
          | none => .error (.returns (-1))
          | some text => loop pks (done + 1) ((if done > 0 then key ++ separator else key) ++ text))
    (pks : List String) (done : Nat) (key : Bytes) :
    loop pks done key = keyLoop separator write obj pks done key := by
  induction pks generalizing done key with
  | nil => exact last done key
  | cons pk pks ih =>
    rw [pass, keyLoop]
    simp only [ih]

end Loop

private theorem getObjectKeyLoop_eq (obj : Message proto desc) (pks : List String) (done : Nat) (key : Bytes) :
    getObjectKeyLoop obj pks done key = keyLoop (ascii ":") (fun _ => keyText) obj pks done key :=
  eq_keyLoop (fun _ _ => rfl) (fun _ _ _ _ => rfl) pks done key

theorem getObjectKey_ok_iff {obj : Message proto desc} :
    getObjectKey obj = .ok key ↔ getTypePrimaryKey desc ≠ [] ∧
      ∃ texts, (getTypePrimaryKey desc).mapM (fun pk => (obj.keyValue pk).bind keyText) = some texts ∧
        key = (ascii ":").intercalate texts := by
  unfold getObjectKey
  dsimp only
  split
  · next empty => simp [List.isEmpty_iff.mp empty]
  · next keyed =>
    have keyed : getTypePrimaryKey desc ≠ [] := fun empty => keyed (empty ▸ rfl)
    rw [getObjectKeyLoop_eq, keyLoop_ok_iff]
    simp [keyed]

end Playground.Datacenter
