import KyClash.Frame.Reassemble
import KyClash.Data.BitWord

/-!
# What the replay window accepts

The window remembers the highest accepted number and, in its bitmap, which of
the 64 numbers up to it were accepted.  Over a whole history it therefore
accepts a number exactly when the number is new and lies less than 64 below
the highest accepted one.
-/

namespace KyClash.SequenceWindow

open BitWord

/-- Offer a sequence of numbers to one window.  The result is the window and
the numbers it has accepted, the latest first. -/
def offer (window : SequenceWindow) (accepted : List UInt64) :
    List UInt64 → SequenceWindow × List UInt64
  | [] => (window, accepted)
  | sequence :: later =>
    match window.accept sequence with
    | .ok window => offer window (sequence :: accepted) later
    | .error _ => offer window accepted later

/-- The number is new, and it is above the highest accepted number minus 64,
computed over the integers. -/
def Admissible (accepted : List UInt64) (sequence : UInt64) : Prop :=
  sequence ∉ accepted ∧ (accepted = [] ∨
      ∃ highest ∈ accepted, (∀ other ∈ accepted, other ≤ highest) ∧
        (highest.toNat : Int) - 64 < sequence.toNat)

/-- The window of a history: its fields describe the accepted numbers. -/
structure Records (window : SequenceWindow) (accepted : List UInt64) :
    Prop where
  nodup : accepted.Nodup
  unseen : window.seen = false → accepted = []
  member : window.seen = true → window.highest ∈ accepted
  highest : ∀ sequence ∈ accepted, sequence ≤ window.highest
  bitmap : window.seen = true → ∀ distance < 64,
    (has window.bitmap distance = true ↔ ∃ sequence ∈ accepted,
        sequence.toNat + distance = window.highest.toNat)

theorem records_empty : empty.Records [] := by
  constructor
  · exact List.nodup_nil
  · intro _
    rfl
  · intro seen
    cases seen
  · intro sequence member
    cases member
  · intro seen
    cases seen

section Accept

variable {window : SequenceWindow} {accepted : List UInt64} {sequence : UInt64}

private theorem accept_above (seen : window.seen = true)
    (above : window.highest < sequence) :
    window.accept sequence = .ok { window with
      highest := sequence
      bitmap := (if 64 ≤ sequence - window.highest then 0
        else window.bitmap <<< (sequence - window.highest)) ||| 1 } := by
  simp [accept, seen, above]

private theorem accept_within (seen : window.seen = true)
    (notAbove : sequence ≤ window.highest) :
    window.accept sequence =
      if 64 ≤ window.highest - sequence ∨
          window.bitmap &&& (1 <<< (window.highest - sequence)) ≠ 0 then
        .error .nonMonotonic
      else
        .ok { window with
          bitmap :=
            window.bitmap ||| (1 <<< (window.highest - sequence)) } := by
  simp [accept, seen, UInt64.not_lt.mpr notAbove]

theorem Records.first (recorded : window.Records accepted)
    (unseen : window.seen = false) :
    Records { seen := true, highest := sequence, bitmap := 1 }
      (sequence :: accepted) := by
  obtain rfl := recorded.unseen unseen
  constructor
  · exact List.nodup_singleton sequence
  · intro seen
    cases seen
  · intro _
    exact List.mem_cons_self
  · intro other member
    rw [List.mem_singleton.mp member]
    exact UInt64.le_refl sequence
  · intro _ distance _
    rw [has_one]
    constructor
    · intro zero
      refine ⟨sequence, List.mem_cons_self, ?_⟩
      rw [of_decide_eq_true zero, Nat.add_zero]
    · rintro ⟨other, member, sum⟩
      rw [List.mem_singleton.mp member] at sum
      have sum : sequence.toNat + distance = sequence.toNat := sum
      exact decide_eq_true (by omega)

theorem toNat_sub_of_lt {high low : UInt64} (below : low ≤ high) :
    (high - low).toNat = high.toNat - low.toNat :=
  UInt64.toNat_sub_of_le high low below

section

variable (recorded : window.Records accepted)
include recorded

section

variable (seen : window.seen = true)
include seen

/-- The shifted bitmap describes the old numbers as seen from a new highest
number. -/
theorem Records.shifted
    (above : window.highest < sequence) {distance : Nat}
    (inside : distance < 64) :
    has (if 64 ≤ sequence - window.highest then 0
        else window.bitmap <<< (sequence - window.highest)) distance = true ↔
      ∃ other ∈ accepted, other.toNat + distance = sequence.toNat := by
  have gap := toNat_sub_of_lt (UInt64.le_of_lt above)
  have order := UInt64.lt_iff_toNat_lt.mp above
  have below : ∀ other ∈ accepted, other.toNat ≤ window.highest.toNat :=
    fun other member =>
      UInt64.le_iff_toNat_le.mp (recorded.highest other member)
  split
  · next far =>
    have far : 64 ≤ (sequence - window.highest).toNat :=
      UInt64.le_iff_toNat_le.mp far
    rw [has_zero]
    constructor
    · intro impossible
      cases impossible
    · rintro ⟨other, member, sum⟩
      have bound := below other member
      omega
  · next near =>
    have near : sequence - window.highest < 64 := UInt64.not_le.mp near
    rw [has_shiftLeft near inside, Bool.and_eq_true_iff, decide_eq_true_iff,
      recorded.bitmap seen _ (by omega)]
    constructor
    · rintro ⟨reach, other, member, sum⟩
      exact ⟨other, member, by omega⟩
    · rintro ⟨other, member, sum⟩
      have bound := below other member
      exact ⟨by omega, other, member, by omega⟩

theorem Records.extended {highest bitmap : UInt64} (fresh : sequence ∉ accepted)
    (member : highest ∈ sequence :: accepted)
    (above : ∀ other ∈ sequence :: accepted, other ≤ highest)
    (bits : ∀ distance < 64, has bitmap distance = true ↔
      (∃ other ∈ accepted, other.toNat + distance = highest.toNat) ∨
        sequence.toNat + distance = highest.toNat) :
    Records { window with highest, bitmap } (sequence :: accepted) := by
  refine ⟨List.nodup_cons.mpr ⟨fresh, recorded.nodup⟩, ?_, fun _ => member,
    above, ?_⟩
  · intro unseen
    rw [seen] at unseen
    cases unseen
  · intro _ distance inside
    rw [bits distance inside]
    simp [or_comm]

theorem Records.advanced (above : window.highest < sequence) :
    Records { window with
      highest := sequence
      bitmap := (if 64 ≤ sequence - window.highest then 0
        else window.bitmap <<< (sequence - window.highest)) ||| 1 }
      (sequence :: accepted) := by
  refine recorded.extended seen ?_ List.mem_cons_self ?_ ?_
  · intro member
    exact (UInt64.not_le.mpr above) (recorded.highest sequence member)
  · intro other member
    rcases List.mem_cons.mp member with rfl | old
    · exact UInt64.le_refl _
    · exact UInt64.le_trans (recorded.highest other old) (UInt64.le_of_lt above)
  · intro distance inside
    rw [has_or, Bool.or_eq_true_iff, recorded.shifted seen above inside,
      has_one, decide_eq_true_iff]
    exact or_congr Iff.rfl (by omega)

theorem Records.marked (notAbove : sequence ≤ window.highest)
    (near : window.highest - sequence < 64) (fresh : sequence ∉ accepted) :
    Records { window with
      bitmap := window.bitmap ||| (1 <<< (window.highest - sequence)) }
      (sequence :: accepted) := by
  have gap := toNat_sub_of_lt notAbove
  have order := UInt64.le_iff_toNat_le.mp notAbove
  refine recorded.extended seen fresh
    (List.mem_cons_of_mem _ (recorded.member seen)) ?_ ?_
  · intro other member
    rcases List.mem_cons.mp member with rfl | old
    · exact notAbove
    · exact recorded.highest other old
  · intro distance inside
    rw [has_or, Bool.or_eq_true_iff, recorded.bitmap seen distance inside,
      has_bit near inside, decide_eq_true_iff]
    exact or_congr Iff.rfl (by omega)

theorem Records.marked_iff (notAbove : sequence ≤ window.highest)
    (near : window.highest - sequence < 64) :
    window.bitmap &&& (1 <<< (window.highest - sequence)) ≠ 0 ↔
      sequence ∈ accepted := by
  have gap := toNat_sub_of_lt notAbove
  have order := UInt64.le_iff_toNat_le.mp notAbove
  rw [and_bit_ne_zero_iff near,
    recorded.bitmap seen _ (UInt64.lt_iff_toNat_lt.mp near)]
  constructor
  · rintro ⟨other, member, sum⟩
    have same : other = sequence := UInt64.toNat_inj.mp (by omega)
    exact same ▸ member
  · intro member
    exact ⟨sequence, member, by omega⟩

theorem Records.admissible_iff :
    Admissible accepted sequence ↔
      sequence ∉ accepted ∧ window.highest.toNat < sequence.toNat + 64 := by
  have member := recorded.member seen
  constructor
  · rintro ⟨fresh, nothing | ⟨highest, among, dominates, above⟩⟩
    · rw [nothing] at member
      cases member
    · have order := UInt64.le_iff_toNat_le.mp (dominates _ member)
      exact ⟨fresh, by omega⟩
  · rintro ⟨fresh, above⟩
    exact ⟨fresh, .inr ⟨window.highest, member, recorded.highest, by omega⟩⟩

theorem Records.accept_within (notAbove : sequence ≤ window.highest) :
    (Admissible accepted sequence ∧
        ∃ after, window.accept sequence = .ok after ∧
          after.Records (sequence :: accepted)) ∨
      (¬Admissible accepted sequence ∧
        ∃ error, window.accept sequence = .error error) := by
  have gap := toNat_sub_of_lt notAbove
  have limit : (64 : UInt64).toNat = 64 := rfl
  rw [recorded.admissible_iff seen, SequenceWindow.accept_within seen notAbove]
  by_cases far : 64 ≤ window.highest - sequence
  · right
    have distance := UInt64.le_iff_toNat_le.mp far
    refine ⟨?_, .nonMonotonic, if_pos (.inl far)⟩
    rintro ⟨-, near⟩
    omega
  · have near := UInt64.not_le.mp far
    have distance := UInt64.lt_iff_toNat_lt.mp near
    have known := recorded.marked_iff seen notAbove near
    by_cases old : sequence ∈ accepted
    · right
      exact ⟨fun fresh => fresh.1 old, .nonMonotonic,
        if_pos (.inr (known.mpr old))⟩
    left
    refine ⟨⟨old, by omega⟩, _, if_neg ?_,
      recorded.marked seen notAbove near old⟩
    rintro (impossible | set)
    · exact far impossible
    · exact old (known.mp set)

end

/-- One step: the window accepts the admissible numbers, and then describes
the longer history. -/
theorem Records.accept (sequence : UInt64) :
    (Admissible accepted sequence ∧
        ∃ after, window.accept sequence = .ok after ∧
          after.Records (sequence :: accepted)) ∨
      (¬Admissible accepted sequence ∧
        ∃ error, window.accept sequence = .error error) := by
  cases seen : window.seen with
  | false =>
    left
    obtain rfl := recorded.unseen seen
    exact ⟨⟨List.not_mem_nil, .inl rfl⟩, _, by simp [accept, seen],
      recorded.first seen⟩
  | true =>
    by_cases above : window.highest < sequence
    · left
      have order := UInt64.lt_iff_toNat_lt.mp above
      have fresh : sequence ∉ accepted := by
        intro member
        exact (UInt64.not_le.mpr above) (recorded.highest sequence member)
      refine ⟨?_, _, accept_above seen above, recorded.advanced seen above⟩
      rw [recorded.admissible_iff seen]
      exact ⟨fresh, by omega⟩
    · exact recorded.accept_within seen (UInt64.not_lt.mp above)

end

end Accept

theorem Records.offer {window : SequenceWindow} {accepted : List UInt64}
    (recorded : window.Records accepted) (offered : List UInt64) :
    (window.offer accepted offered).1.Records
      (window.offer accepted offered).2 := by
  induction offered generalizing window accepted with
  | nil => exact recorded
  | cons sequence later ih =>
    rcases recorded.accept sequence with
      ⟨-, after, result, extended⟩ | ⟨-, error, result⟩
    · simp only [SequenceWindow.offer, result]
      exact ih extended
    · simp only [SequenceWindow.offer, result]
      exact ih recorded

/-- After any history, a number is accepted exactly when it is new and above
the highest accepted number minus 64; no number is accepted twice. -/
theorem accepts_new_within_window (offered : List UInt64) :
    (empty.offer [] offered).2.Nodup ∧
      ∀ sequence,
        (∃ after, (empty.offer [] offered).1.accept sequence = .ok after) ↔
          Admissible (empty.offer [] offered).2 sequence := by
  have recorded := records_empty.offer offered
  refine ⟨recorded.nodup, ?_⟩
  intro sequence
  rcases recorded.accept sequence with
    ⟨admissible, after, result, -⟩ | ⟨refused, error, result⟩
  · exact ⟨fun _ => admissible, fun _ => ⟨after, result⟩⟩
  · constructor
    · rintro ⟨after, accepted⟩
      rw [result] at accepted
      cases accepted
    · intro admissible
      exact (refused admissible).elim

end KyClash.SequenceWindow
