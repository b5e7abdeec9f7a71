import KyClash.Production.ServiceGate
import KyClash.RouteHelper.OwnerAgreement

/-!
# Names derived from an operation

The production service checks the operation ids of `connect` and `disconnect`
with a grammar of its own.  From an accepted id it derives the request id of
the tunnel's preparation and the ids of the route lease, which the IPC
validators of Rust and Go, the lease validator and the Swift helper check.
The service admits dots anywhere, the validators only between other
characters.
-/

namespace KyClash.Networking

open Sidecar (Text)
open Production (validProductionOperationID)

/-- The request id of `prepare_tunnel`: `.prepare` is appended. -/
def prepareID (operationID : Text) : Text :=
  operationID ++ [46, 112, 114, 101, 112, 97, 114, 101]

/-- Every check of a derived name passes.  The lease and the operation of a
lease carry the operation id itself. -/
structure NamesAccepted (operationID : Text) : Prop where
  request : Ipc.validIpcID (prepareID operationID) = true
  lease : Ipc.validIpcID operationID = true
  sidecar : Sidecar.validID (prepareID operationID) = true
  helper : TunnelBroker.validIdentifier operationID = true

def doubledDot (value : Text) : Bool :=
  (value.zip value.tail).any (· = (46, 46))

/-- Dots stand only between other characters. -/
structure Segmented (value : Text) : Prop where
  first : value.head? ≠ some 46
  last : value.getLast? ≠ some 46
  between : doubledDot value = false

variable {value : Text}

private theorem doubledDot_prepareID (last : value.getLast? ≠ some 46) :
    doubledDot (prepareID value) = doubledDot value := by
  induction value with
  | nil => rfl
  | cons byte rest ih =>
    cases rest with
    | nil =>
      have other : byte ≠ 46 := fun same => last (congrArg some same)
      simp [doubledDot, prepareID, other]
    | cons second later =>
      have inner := ih (by simpa using last)
      simp only [doubledDot, prepareID, List.cons_append, List.tail_cons,
        List.zip_cons_cons, List.any_cons] at inner ⊢
      rw [inner]

private theorem validIpcID_of_segmented
    (accepted : validProductionOperationID value = true)
    (segmented : Segmented value) : Ipc.validIpcID value = true := by
  simp only [validProductionOperationID, Bool.and_eq_true,
    decide_eq_true_eq] at accepted
  obtain ⟨⟨low, high⟩, shape⟩ := accepted
  have between : (value.zip value.tail).any (· = (46, 46)) = false :=
    segmented.between
  simp only [Ipc.validIpcID, Bool.and_eq_true, decide_eq_true_eq, between,
    Bool.not_false, and_true]
  exact ⟨⟨⟨⟨low, by omega⟩, segmented.first⟩, segmented.last⟩, shape⟩

private theorem validIpcID_prepareID
    (accepted : validProductionOperationID value = true)
    (segmented : Segmented value) :
    Ipc.validIpcID (prepareID value) = true := by
  simp only [validProductionOperationID, Bool.and_eq_true,
    decide_eq_true_eq] at accepted
  obtain ⟨⟨low, high⟩, shape⟩ := accepted
  have between : ((prepareID value).zip (prepareID value).tail).any
        (· = (46, 46)) = false :=
    (doubledDot_prepareID segmented.last).trans segmented.between
  have length : (prepareID value).length = value.length + 8 := by
    simp [prepareID]
  have first : (prepareID value).head? = value.head? := by
    rw [prepareID, List.head?_append_of_ne_nil]
    intro empty
    simp [empty] at low
  have last : (prepareID value).getLast? = some 101 := by
    simp [prepareID]
  simp only [Ipc.validIpcID, Bool.and_eq_true, decide_eq_true_eq, between,
    Bool.not_false, and_true, length, first, last]
  refine ⟨⟨⟨⟨by omega, by omega⟩, segmented.first⟩, by decide⟩, ?_⟩
  rw [prepareID, List.all_append, shape]
  decide

/-- For every operation id that the service accepts: the derived names are
accepted if and only if its dots stand between other characters. -/
theorem derived_names_accepted_iff (operationID : Text)
    (accepted : validProductionOperationID operationID = true) :
    NamesAccepted operationID ↔ Segmented operationID := by
  constructor
  · intro names
    have lease := names.lease
    simp only [Ipc.validIpcID, Bool.and_eq_true, decide_eq_true_eq,
      Bool.not_eq_true'] at lease
    obtain ⟨⟨⟨⟨-, first⟩, last⟩, between⟩, -⟩ := lease
    exact ⟨first, last, between⟩
  · intro segmented
    have request := validIpcID_prepareID accepted segmented
    have lease := validIpcID_of_segmented accepted segmented
    refine ⟨request, lease, ?_, ?_⟩
    · rw [← Ipc.validIpcID_eq]
      exact request
    · exact RouteHelper.validIdentifier_of_validIpcID lease

/-- The id `connect.1`. -/
theorem dotted_operation_is_accepted :
    NamesAccepted [99, 111, 110, 110, 101, 99, 116, 46, 49] := by
  rw [derived_names_accepted_iff _ (by decide)]
  exact ⟨by decide, by decide, by decide⟩

/-- The id `connect..1` is accepted by the service, and the request id made
from it is refused. -/
theorem doubled_dot_is_refused :
    validProductionOperationID [99, 111, 110, 110, 101, 99, 116, 46, 46, 49] =
        true ∧
      ¬ NamesAccepted [99, 111, 110, 110, 101, 99, 116, 46, 46, 49] := by
  refine ⟨by decide, ?_⟩
  intro names
  exact absurd names.request (by decide)

end KyClash.Networking
