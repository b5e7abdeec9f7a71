import KyClash.Concurrency.Transition
import Mathlib.Logic.Function.Basic

/-!
# Health probes of a carrier

`carrier/probe.go` measures the round trip of a ping.  Pings and pongs carry
no number, so a probe takes any pong for the answer to its own ping.  The
probes take turns, a probe that is cancelled waits a while for its pong, and a
pong that stays out makes the state terminal.

The numbers of the pings are those of the proof: the peer answers each ping at
most once, after any time and in any order, or never.
-/

namespace KyClash.Probe

open Transition

/-- Where the answer to a ping is. -/
inductive Place where
  | unsent
  | awaited
  /-- `observePong` has found the state not failed. -/
  | observed
  | buffered
  | consumed
  | lost
  deriving DecidableEq

/-- The probe whose turn it is. -/
inductive Phase where
  | entered
  | clearing
  | ready
  | sending (ping : Nat)
  | waiting (ping : Nat)
  | draining (ping : Nat)
  deriving DecidableEq

def Phase.ping : Phase → Option Nat
  | .sending ping => some ping
  | .waiting ping => some ping
  | .draining ping => some ping
  | _ => none

inductive Outcome where
  | success (ping pong : Nat)
  | failure
  deriving DecidableEq

/-- `probeState`, with the answers and the results of the probes. -/
structure ProbeState where
  failed : Bool
  pongs : Option Nat
  phase : Option Phase
  count : Nat
  place : Nat → Place
  results : List Outcome

inductive Event where
  /-- A probe ends before its turn. -/
  | refuse
  | enter
  /-- The context has ended, the state has failed or the carrier is closed. -/
  | quit
  | pass
  | discard
  | cleared
  /-- The ping was not sent. -/
  | unsent (error : Bool)
  | ping
  /-- The ping was sent and `send` returns. -/
  | sent (error cancelled : Bool)
  | receive (cancelled : Bool)
  | cancel
  | drain
  /-- The carrier is closed, or the time for the drain is over. -/
  | giveUp
  | arrive (ping : Nat)
  | observe (ping : Nat)

namespace ProbeState

def new : ProbeState where
  failed := false
  pongs := none
  phase := none
  count := 0
  place := fun _ => .unsent
  results := []

variable (state : ProbeState)

def finish (outcome : Outcome) : ProbeState :=
  { state with phase := none, results := outcome :: state.results }

/-- `fail`, and the probe returns an error. -/
def fail : ProbeState :=
  { state with failed := true }.finish .failure

def take (pong : Nat) : ProbeState :=
  { state with
    pongs := none, place := Function.update state.place pong .consumed }

/-- The steps of `measure` in the probe whose turn it is. -/
def measure : Phase → Event → Option ProbeState
  | .entered, .quit => some (state.finish .failure)
  | .entered, .pass =>
    if state.failed then none
    else some { state with phase := some .clearing }
  | .clearing, .quit => some (state.finish .failure)
  | .clearing, .discard => state.pongs.map state.take
  | .clearing, .cleared =>
    if state.pongs = none then some { state with phase := some .ready }
    else none
  | .ready, .unsent error =>
    some (if error then state.finish .failure else state.fail)
  | .ready, .ping =>
    some { state with
      phase := some (.sending state.count)
      count := state.count + 1
      place := Function.update state.place state.count .awaited }
  | .sending ping, .sent error cancelled =>
    if cancelled then some { state with phase := some (.draining ping) }
    else if error then some state.fail
    else some { state with phase := some (.waiting ping) }
  | .waiting ping, .receive cancelled =>
    state.pongs.map fun pong => (state.take pong).finish
      (if cancelled then .failure else .success ping pong)
  | .waiting ping, .cancel => some { state with phase := some (.draining ping) }
  | .waiting _, .giveUp => some state.fail
  | .draining _, .drain =>
    state.pongs.map fun pong => (state.take pong).finish .failure
  | .draining _, .giveUp => some state.fail
  | _, _ => none

def step : Event → Option ProbeState
  | .refuse => some { state with results := .failure :: state.results }
  | .enter =>
    if state.phase = none then some { state with phase := some .entered }
    else none
  | .arrive ping =>
    if state.place ping = .awaited then
      let place := if state.failed then .lost else .observed
      some { state with place := Function.update state.place ping place }
    else
      none
  | .observe ping =>
    if state.place ping = .observed then
      match state.pongs with
      | none => some { state with
          pongs := some ping
          place := Function.update state.place ping .buffered }
      | some _ => some { state with
          place := Function.update state.place ping .lost }
    else
      none
  | event => state.phase.bind (state.measure · event)

def pinged : Option Nat := state.phase.bind Phase.ping

/-- Unless the state has failed, every ping is answered or is the one that is
waited for. -/
structure Sound (state : ProbeState) : Prop where
  buffered : ∀ pong, state.pongs = some pong → state.place pong = .buffered
  sent : ∀ ping, state.count ≤ ping → state.place ping = .unsent
  settled : state.failed = false → ∀ ping < state.count,
    state.place ping = .consumed ∨ state.pinged = some ping
  live : ∀ phase, state.phase = some phase → phase ≠ .entered →
    state.failed = false
  own : ∀ ping pong, .success ping pong ∈ state.results → pong = ping

variable {state} {pong : Nat} {next : ProbeState} {event : Event}

private theorem sound_new : new.Sound :=
  ⟨nofun, fun _ _ => rfl, nofun, nofun, nofun⟩

theorem Sound.turn (sound : state.Sound) {failed : Bool} {phase : Option Phase}
    {results : List Outcome}
    (settled : failed = false →
      state.failed = false ∧
        ∀ ping, state.pinged = some ping → phase.bind Phase.ping = some ping)
    (live : ∀ turn, phase = some turn → turn ≠ .entered → failed = false)
    (own : ∀ ping pong, .success ping pong ∈ results →
      .success ping pong ∈ state.results) :
    Sound { state with failed, phase, results } := by
  refine ⟨sound.buffered, sound.sent, ?_, live, ?_⟩
  · intro open_ ping bound
    obtain ⟨before, keeps⟩ := settled open_
    exact (sound.settled before ping bound).imp_right (keeps ping)
  · intro ping pong member
    exact sound.own ping pong (own ping pong member)

theorem Sound.fail (sound : state.Sound) : state.fail.Sound := by
  apply sound.turn
  · nofun
  · nofun
  · intro ping pong member
    exact (List.mem_cons.mp member).resolve_left nofun

theorem Sound.failure (sound : state.Sound) (none_ : state.pinged = none) :
    (state.finish .failure).Sound := by
  apply sound.turn
  · intro open_
    refine ⟨open_, ?_⟩
    rw [none_]
    nofun
  · nofun
  · intro ping pong member
    exact (List.mem_cons.mp member).resolve_left nofun

theorem Sound.phase (sound : state.Sound) {phase : Phase}
    (open_ : state.failed = false)
    (keeps : ∀ ping, state.pinged = some ping → phase.ping = some ping) :
    Sound { state with phase := some phase } :=
  sound.turn (fun _ => ⟨open_, keeps⟩) (fun _ _ _ => open_) fun _ _ => id

section

variable (sound : state.Sound)
include sound

theorem Sound.expected (open_ : state.failed = false)
    (found : state.pongs = some pong) : state.pinged = some pong := by
  have place := sound.buffered pong found
  have bound : pong < state.count := by
    by_contra beyond
    rw [sound.sent pong (Nat.le_of_not_lt beyond)] at place
    cases place
  refine (sound.settled open_ pong bound).resolve_left ?_
  rw [place]
  nofun

theorem Sound.ne_of_unbuffered {ping : Nat}
    (unbuffered : state.place ping ≠ .buffered)
    (found : state.pongs = some pong) : pong ≠ ping := by
  rintro rfl
  exact unbuffered (sound.buffered pong found)

/-- The pong that a probe finds is the answer to its own ping. -/
theorem Sound.pong_eq {phase : Phase} {ping : Nat}
    (at_ : state.phase = some phase) (pinged : phase.ping = some ping)
    (found : state.pongs = some pong) : pong = ping := by
  have open_ : state.failed = false := by
    apply sound.live phase at_
    rintro rfl
    cases pinged
  have mine := sound.expected open_ found
  rw [ProbeState.pinged, at_, Option.bind_some, pinged] at mine
  exact (Option.some.inj mine).symm

theorem Sound.taken {phase : Phase} {ping : Nat} {outcome : Outcome}
    (at_ : state.phase = some phase) (pinged : phase.ping = some ping)
    (found : state.pongs = some pong)
    (fair : outcome = .failure ∨ outcome = .success ping pong) :
    ((state.take pong).finish outcome).Sound := by
  have same := sound.pong_eq at_ pinged found
  have place := sound.buffered pong found
  refine ⟨nofun, ?_, ?_, nofun, ?_⟩
  · intro other beyond
    have unsent := sound.sent other beyond
    refine (Function.update_of_ne ?_ _ _).trans unsent
    rintro rfl
    rw [place] at unsent
    cases unsent
  · intro open_ other bound
    left
    by_cases equal : other = pong
    · rw [equal]
      exact Function.update_self ..
    refine (Function.update_of_ne equal _ _).trans ?_
    rcases sound.settled open_ other bound with gone | mine
    · exact gone
    · rw [ProbeState.pinged, at_, Option.bind_some, pinged] at mine
      exact absurd ((Option.some.inj mine).symm.trans same.symm) equal
  · intro first second member
    rcases List.mem_cons.mp member with newest | older
    · rcases fair with rfl | rfl
      · cases newest
      · cases newest
        exact same
    · exact sound.own first second older

theorem Sound.moved {ping : Nat} {place : Place}
    {pongs : Option Nat} (before : state.place ping ≠ .unsent)
    (unconsumed : state.place ping ≠ .consumed)
    (buffered : ∀ pong, pongs = some pong → pong = ping ∧ place = .buffered ∨
        pong ≠ ping ∧ state.pongs = some pong) :
    Sound { state with
      pongs, place := Function.update state.place ping place } := by
  refine ⟨?_, ?_, ?_, sound.live, sound.own⟩
  · intro pong found
    rcases buffered pong found with ⟨rfl, rfl⟩ | ⟨other, old⟩
    · exact Function.update_self ..
    · exact (Function.update_of_ne other _ _).trans (sound.buffered pong old)
  · intro other beyond
    have unsent := sound.sent other beyond
    refine (Function.update_of_ne ?_ _ _).trans unsent
    rintro rfl
    exact before unsent
  · intro open_ other bound
    refine (sound.settled open_ other bound).imp_left ?_
    intro gone
    refine (Function.update_of_ne ?_ _ _).trans gone
    rintro rfl
    exact unconsumed gone

theorem Sound.ping (at_ : state.phase = some .ready) : Sound { state with
      phase := some (.sending state.count)
      count := state.count + 1
      place := Function.update state.place state.count .awaited } := by
  have other {ping : Nat} (bound : ping ≠ state.count) :
      Function.update state.place state.count .awaited ping =
        state.place ping :=
    Function.update_of_ne bound _ _
  refine ⟨?_, ?_, ?_, ?_, sound.own⟩
  · intro pong found
    have place := sound.buffered pong found
    refine (other ?_).trans place
    rintro rfl
    rw [sound.sent _ (Nat.le_refl _)] at place
    cases place
  · intro ping beyond
    have beyond : state.count + 1 ≤ ping := beyond
    exact (other (by omega)).trans (sound.sent ping (by omega))
  · intro open_ ping bound
    rcases Nat.lt_succ_iff_lt_or_eq.mp bound with earlier | rfl
    · left
      refine (other (by omega)).trans ?_
      refine (sound.settled open_ ping earlier).resolve_right ?_
      rw [pinged, at_]
      nofun
    · exact .inr rfl
  · intro phase found entered
    exact sound.live .ready at_ nofun

end

theorem Sound.measure {phase : Phase} (sound : state.Sound)
    (at_ : state.phase = some phase)
    (taken : state.measure phase event = some next) : next.Sound := by
  have pinged : state.pinged = phase.ping := by
    rw [ProbeState.pinged, at_]
    rfl
  have live := sound.live phase at_
  unfold ProbeState.measure at taken
  split at taken
  · cases taken
    exact sound.failure pinged
  · obtain ⟨open_, ⟨⟩⟩ := Option.ite_none_left_eq_some.mp taken
    refine sound.phase (by simpa using open_) ?_
    rw [pinged]
    nofun
  · cases taken
    exact sound.failure pinged
  · -- Nothing is waited for, so nothing is in the channel.
    obtain ⟨pong, found, rfl⟩ := Option.map_eq_some_iff.mp taken
    have mine := sound.expected (live nofun) found
    rw [pinged] at mine
    cases mine
  · split at taken <;> cases taken
    refine sound.phase (live nofun) ?_
    rw [pinged]
    nofun
  · next error =>
    cases taken
    split
    · exact sound.failure pinged
    · exact sound.fail
  · cases taken
    exact sound.ping at_
  · split at taken
    · cases taken
      exact sound.phase (live nofun) fun _ found => pinged.symm.trans found
    split at taken <;> cases taken
    · exact sound.fail
    · exact sound.phase (live nofun) fun _ found => pinged.symm.trans found
  · next ping cancelled =>
    obtain ⟨pong, found, rfl⟩ := Option.map_eq_some_iff.mp taken
    refine sound.taken at_ rfl found ?_
    cases cancelled
    · exact .inr rfl
    · exact .inl rfl
  · cases taken
    exact sound.phase (live nofun) fun _ found => pinged.symm.trans found
  · cases taken
    exact sound.fail
  · obtain ⟨pong, found, rfl⟩ := Option.map_eq_some_iff.mp taken
    exact sound.taken at_ rfl found (.inl rfl)
  · cases taken
    exact sound.fail
  · cases taken

theorem Sound.step (sound : state.Sound)
    (taken : state.step event = some next) : next.Sound := by
  unfold ProbeState.step at taken
  split at taken
  · cases taken
    apply sound.turn
    · exact fun open_ => ⟨open_, fun _ => id⟩
    · exact sound.live
    · intro ping pong member
      exact (List.mem_cons.mp member).resolve_left nofun
  · split at taken <;> cases taken
    next idle =>
    apply sound.turn
    · intro open_
      refine ⟨open_, ?_⟩
      rw [pinged, idle]
      nofun
    · rintro turn ⟨⟩ entered
      exact absurd rfl entered
    · exact fun _ _ => id
  · next ping =>
    split at taken <;> cases taken
    next awaited =>
    refine sound.moved (by rw [awaited]; nofun) (by rw [awaited]; nofun) ?_
    intro pong found
    exact .inr ⟨sound.ne_of_unbuffered (by rw [awaited]; nofun) found, found⟩
  · next ping =>
    obtain ⟨observed, taken⟩ := Option.ite_none_right_eq_some.mp taken
    split at taken
    · cases taken
      refine sound.moved (by rw [observed]; nofun) (by rw [observed]; nofun) ?_
      rintro pong ⟨⟩
      exact .inl ⟨rfl, rfl⟩
    · next full =>
      cases taken
      refine sound.moved (by rw [observed]; nofun) (by rw [observed]; nofun) ?_
      intro pong found
      exact .inr ⟨sound.ne_of_unbuffered (by rw [observed]; nofun) found, found⟩
  · obtain ⟨phase, at_, measured⟩ := Option.bind_eq_some_iff.mp taken
    exact sound.measure at_ measured

/-- The runs of any probes with any answers. -/
abbrev Leads (state later : ProbeState) : Prop :=
  Reaches step (fun _ _ => True) state later

theorem Sound.leads {later : ProbeState} (sound : state.Sound)
    (leads : Leads state later) : later.Sound :=
  Reaches.invariant leads sound fun _ _ _ holds _ taken => holds.step taken

/-- A state that has failed stays so, and its probes fail. -/
theorem failed_step (sound : state.Sound) (failed : state.failed = true)
    (taken : state.step event = some next) :
    next.failed = true ∧
      ∃ outcomes, next.results = outcomes ++ state.results ∧
        ∀ outcome ∈ outcomes, outcome = .failure := by
  have still : ∃ outcomes, state.results = outcomes ++ state.results ∧
      ∀ outcome ∈ outcomes, outcome = .failure :=
    ⟨[], rfl, nofun⟩
  have more : ∃ outcomes,
      .failure :: state.results = outcomes ++ state.results ∧
        ∀ outcome ∈ outcomes, outcome = .failure :=
    ⟨[.failure], rfl, fun _ => List.mem_singleton.mp⟩
  unfold ProbeState.step at taken
  split at taken
  · cases taken
    exact ⟨failed, more⟩
  · split at taken <;> cases taken
    exact ⟨failed, still⟩
  · split at taken <;> cases taken
    exact ⟨failed, still⟩
  · split at taken
    · split at taken <;> cases taken <;> exact ⟨failed, still⟩
    · cases taken
  · obtain ⟨phase, at_, measured⟩ := Option.bind_eq_some_iff.mp taken
    have entered : phase = .entered := by
      by_contra other
      rw [sound.live phase at_ other] at failed
      cases failed
    subst entered
    cases event with
    | quit =>
      cases measured
      exact ⟨failed, more⟩
    | pass =>
      rw [ProbeState.measure, if_pos failed] at measured
      cases measured
    | _ => cases measured

/-- For every run: a probe that succeeds was answered by the pong of its own
ping, and after a ping whose pong was not taken before its probe ended every
later probe fails. -/
theorem probes_take_their_own_pong {state later : ProbeState}
    (reached : Leads new state) (leads : Leads state later) :
    (∀ ping pong, .success ping pong ∈ state.results → pong = ping) ∧
      ∀ ping < state.count, state.place ping ≠ .consumed →
        state.pinged ≠ some ping →
        ∃ outcomes, later.results = outcomes ++ state.results ∧
          ∀ outcome ∈ outcomes, outcome = .failure := by
  have sound := sound_new.leads reached
  refine ⟨sound.own, ?_⟩
  intro ping bound untaken unpinged
  have failed : state.failed = true := by
    by_contra open_
    rcases sound.settled (by simpa using open_) ping bound with gone | mine
    · exact untaken gone
    · exact unpinged mine
  have kept : later.failed = true ∧
      ∃ outcomes, later.results = outcomes ++ state.results ∧
        ∀ outcome ∈ outcomes, outcome = .failure := by
    induction leads with
    | start => exact ⟨failed, [], rfl, nofun⟩
    | next before _ taken ih =>
      obtain ⟨fails, older, same, all⟩ := ih
      obtain ⟨still, newer, added, bad⟩ :=
        failed_step (sound.leads before) fails taken
      refine ⟨still, newer ++ older, ?_, ?_⟩
      · rw [added, same, List.append_assoc]
      · intro outcome member
        exact (List.mem_append.mp member).elim (bad outcome) (all outcome)
  exact kept.2

/-- A probe is cancelled and its pong comes too late; the next probe fails. -/
theorem late_pong_is_not_taken :
    ∃ state later : ProbeState, Leads new state ∧ Leads state later ∧
      0 < state.count ∧ state.place 0 ≠ .consumed ∧ state.pinged ≠ some 0 ∧
      ∃ outcomes, later.results = outcomes ++ state.results ∧
        ∀ outcome ∈ outcomes, outcome = .failure := by
  have replayed : (run step new
          [.enter, .pass, .cleared, .ping, .sent false false, .cancel,
            .giveUp]).bind
        (fun state =>
          (run step state [.arrive 0, .enter, .quit]).map fun later =>
            (state.count, state.place 0, state.pinged)) =
      some (1, .awaited, none) := by
    decide
  obtain ⟨state, first, rest⟩ := Option.bind_eq_some_iff.mp replayed
  obtain ⟨later, second, seen⟩ := Option.map_eq_some_iff.mp rest
  simp only [Prod.mk.injEq] at seen
  obtain ⟨count, place, unpinged⟩ := seen
  have reached : Leads new state :=
    reaches_of_run .start _ (fun _ _ _ => trivial) first
  have leads : Leads state later :=
    reaches_of_run .start _ (fun _ _ _ => trivial) second
  have bound : 0 < state.count := by omega
  have untaken : state.place 0 ≠ .consumed := by
    rw [place]
    nofun
  have ended : state.pinged ≠ some 0 := by
    rw [unpinged]
    nofun
  exact ⟨state, later, reached, leads, bound, untaken, ended,
    (probes_take_their_own_pong reached leads).2 0 bound untaken ended⟩

end ProbeState

end KyClash.Probe
