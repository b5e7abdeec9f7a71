import KyClash.Frame.Reassemble

/-!
# Relabelling payloads

Validation and reassembly never look at a payload element.  Changing every
element of the input by a function therefore changes the result by the same
function and nothing else.  This is used with labelled bytes: the labels tell
which call a byte came from, and erasing them gives back the run of the code.
-/

namespace KyClash

variable {α β : Type} (relabel : α → β)

def Frame.map (frame : Frame α) : Frame β :=
  { frame with payload := frame.payload.map relabel }

@[simp] theorem Frame.validate_map (frame : Frame α) :
    (frame.map relabel).validate = frame.validate := by
  simp [Frame.validate, Frame.map]

namespace Assembly

def map (current : Assembly α) : Assembly β :=
  { current with
    parts := current.parts.map fun part => part.map (List.map relabel) }

private theorem fresh_map (count : UInt16) (expiresAt : Time) :
    (fresh count expiresAt).map relabel = fresh count expiresAt := by
  simp [fresh, map]

private theorem withPart_map (current : Assembly α) (index : UInt16)
    (payload : List α) :
    (current.map relabel).withPart index (payload.map relabel) =
      (current.withPart index payload).map relabel := by
  simp [withPart, map, List.map_set]

private theorem packet_map (current : Assembly α) :
    (current.map relabel).packet = current.packet.map relabel := by
  have part : ∀ part : Option (List α), (part.map (List.map relabel)).getD [] =
        (part.getD []).map relabel := by
    intro part
    cases part <;> rfl
  simp [packet, map, List.flatMap_map, List.map_flatMap, part]

end Assembly

namespace Reassembler

def map (reassembler : Reassembler α) : Reassembler β :=
  { reassembler with
    assemblies :=
      KeyTable.mapValues (Assembly.map relabel) reassembler.assemblies }

private theorem expire_map (reassembler : Reassembler α) (now : Time) :
    (reassembler.map relabel).expire now =
      (reassembler.expire now).map relabel := by
  simp only [expire, map, KeyTable.mapValues_keep]
  rfl

def mapResult (result : Reassembler α × Except FrameError (Option (List α))) :
    Reassembler β × Except FrameError (Option (List β)) :=
  (result.1.map relabel, result.2.map (Option.map (List.map relabel)))

private theorem addPart_map (reassembler : Reassembler α) (now : Time)
    (fragment : Fragment) (payload : List α) (current : Assembly α) :
    (reassembler.map relabel).addPart now fragment (payload.map relabel)
        (current.map relabel) =
      mapResult relabel (reassembler.addPart now fragment payload current) := by
  have slot : ((current.map relabel).parts.getD fragment.index.toNat
      none).isSome = (current.parts.getD fragment.index.toNat none).isSome := by
    simp only [Assembly.map, List.getD_eq_getElem?_getD, List.getElem?_map]
    cases current.parts[fragment.index.toNat]? with
    | none => rfl
    | some part => cases part <;> rfl
  have length : (payload.map relabel).length = payload.length :=
    List.length_map relabel
  unfold addPart
  dsimp only
  rw [slot, Assembly.withPart_map, Assembly.packet_map, length]
  simp only [apply_ite (mapResult relabel)]
  refine ite_congr rfl (fun _ => rfl) fun _ => ?_
  refine ite_congr rfl (fun _ => rfl) fun _ => ?_
  refine ite_congr rfl (fun _ => ?_) fun _ => ?_
  · simp only [map, mapResult, KeyTable.mapValues_erase]
    rfl
  · refine ite_congr rfl (fun _ => ?_) fun _ => ?_
    · simp only [map, mapResult, KeyTable.mapValues_insert]
      rfl
    · simp only [map, mapResult, KeyTable.mapValues_erase]
      rfl

theorem accept_map (reassembler : Reassembler α) (now : Time)
    (frame : Frame α) :
    (reassembler.map relabel).accept now (frame.map relabel) =
      mapResult relabel (reassembler.accept now frame) := by
  unfold accept
  rw [Frame.validate_map, expire_map]
  cases frame.validate with
  | error error => rfl
  | ok accepted =>
    have fragment : (frame.map relabel).fragment = frame.fragment := rfl
    rw [fragment]
    cases frame.fragment with
    | none => rfl
    | some fragment =>
      simp only [apply_ite (mapResult relabel)]
      refine ite_congr rfl (fun _ => rfl) fun _ => ?_
      refine ite_congr rfl (fun _ => rfl) fun _ => ?_
      have found := KeyTable.lookup_mapValues (Assembly.map relabel)
        (reassembler.expire now).assemblies fragment.messageID
      simp only [map] at found ⊢
      rw [found]
      cases (reassembler.expire now).assemblies.lookup fragment.messageID with
      | some current => exact addPart_map relabel _ now fragment _ current
      | none =>
        simp only [Option.map_none, KeyTable.size_mapValues,
          apply_ite (mapResult relabel)]
        refine ite_congr rfl (fun _ => rfl) fun _ => ?_
        rw [← addPart_map, Assembly.fresh_map]
        simp only [map, ← KeyTable.mapValues_insert, Assembly.fresh_map]
        rfl

end Reassembler

end KyClash
