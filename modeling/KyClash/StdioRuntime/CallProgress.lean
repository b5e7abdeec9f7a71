import KyClash.StdioRuntime.CallPhases

/-!
# A cancellable request returns

A measure of what client, pipes and server still have to do.  Every step
decreases it, except that the client may poll in vain; and until the call has
returned there is a step that decreases it.
-/

namespace KyClash.Sidecar.Server

/-- What the server has left to do, with what it has done: a step leaves up
to two responses to be read. -/
def load (server : Server) : Nat :=
  3 * server.remaining + server.backend.carrier.toList.length +
    server.written.length

variable {server : Server} {after : Server}

private theorem remaining_of_inactive (inactive : server.active = none) :
    server.remaining = 0 := by
  simp [remaining, inactive]

private theorem work_of_inactive {done : Nat} (inactive : after.active = none)
    (enough : done ≤ server.remaining) :
    after.remaining + done ≤ server.remaining + 0 := by
  rw [remaining_of_inactive inactive]
  omega

private theorem remaining_startOperation {position : Nat}
    {operation : CancellableOperation} (selecting : server.owner = .selecting) :
    (server.startOperation position operation).remaining ≤ 8 := by
  have one : server.backend.carrier.toList.length ≤ 1 := by
    cases server.backend.carrier <;> simp
  rw [remaining_active rfl]
  simp only [startOperation, Worker.rank, selecting, Owner.pending,
    Bool.false_eq_true, if_false, List.length_nil]
  omega

private theorem toList_length_le {before after : Option Nat}
    (kept : Kept before after) :
    after.toList.length ≤ before.toList.length := by
  rcases kept with same | gone
  · rw [same]
  · rw [gone]
    exact Nat.zero_le _

private theorem remaining_work_lt {active : Active}
    (found : server.active = some active) (still : after.active.isSome)
    (move : Move server after) : after.remaining < server.remaining := by
  rcases remaining_lt_of_move found move with done | less
  · obtain ⟨other, other_eq⟩ := Option.isSome_iff_exists.mp still
    simp [pending, other_eq, Active.pending] at done
  · exact less

/-- The balance of a step: records received, responses written, work brought
and done, carriers opened and closed. -/
theorem load_lt (received written brought done opened closed : Nat)
    (records : after.records.length = server.records.length + received)
    (responses : after.written.length ≤ server.written.length + written)
    (work : after.remaining + done ≤ server.remaining + brought)
    (carrier : after.backend.carrier.toList.length + closed ≤
      server.backend.carrier.toList.length + opened)
    (enough : 3 * brought + opened + written <
      3 * done + closed + 25 * received) :
    after.load + 25 * server.records.length <
      server.load + 25 * after.records.length := by
  unfold load
  omega

/-- A record that is received brings at most 25 units of work. -/
theorem load_lt_of_move (sound : server.Sound) (move : Move server after) :
    after.load + 25 * server.records.length <
      server.load + 25 * after.records.length := by
  have less : ∀ active, server.active = some active → after.active.isSome →
      after.remaining + 1 ≤ server.remaining + 0 :=
    fun _ found still => remaining_work_lt found still move
  have busy : ∀ active, server.active = some active → 1 ≤ server.remaining := by
    intro active found
    rw [remaining_active found]
    cases active.worker <;> simp only [Worker.rank] <;> omega
  cases move with
  | answered _ inactive _ carrier =>
    refine load_lt 1 1 0 0 0 0 ?_ ?_ ?_ (toList_length_le carrier) (by decide)
    · simp [write, receive]
    · simp [write, receive]
    · exact work_of_inactive inactive (Nat.zero_le _)
  | started selecting inactive =>
    refine load_lt 1 0 8 0 0 0 ?_ (Nat.le_refl _) ?_ (Nat.le_refl _) (by decide)
    · simp [startOperation, receive]
    · exact Nat.le_trans (remaining_startOperation selecting)
        (Nat.le_add_left 8 _)
  | accepted _ found | late _ found =>
    exact load_lt 1 0 0 1 0 0 (by simp [receive]) (Nat.le_refl _)
      (less _ found rfl) (Nat.le_refl _) (by decide)
  | wroteAccepted accepting =>
    obtain ⟨active, found, -⟩ := sound.settled.accepting _ _ _ accepting
    exact load_lt 0 1 0 1 0 0 rfl (by simp [write])
      (less active found (by rw [write]; simp [found])) (Nat.le_refl _)
      (by decide)
  | returned found =>
    exact load_lt 0 0 0 1 1 0 rfl (Nat.le_refl _) (less _ found rfl)
      (length_opener_le _ _ _) (by decide)
  | completionWon found | lost found | rollbackFailed found
  | nothingOpened found =>
    exact load_lt 0 0 0 1 0 0 rfl (Nat.le_refl _) (less _ found rfl)
      (Nat.le_refl _) (by decide)
  | rolledBack found =>
    exact load_lt 0 0 0 1 0 0 rfl (Nat.le_refl _) (less _ found rfl)
      (Nat.zero_le _) (by decide)
  | cancelled _ found =>
    exact load_lt 0 1 0 1 0 0 rfl (by simp [write])
      (work_of_inactive rfl (busy _ found)) (Nat.le_refl _) (by decide)
  | completed _ found =>
    unfold complete
    dsimp only
    split
    all_goals
      exact load_lt 0 2 0 1 0 0 rfl (by simp [write])
        (work_of_inactive rfl (busy _ found)) (Nat.le_refl _) (by decide)
  | carrierLost there =>
    obtain ⟨position, carried⟩ := Option.isSome_iff_exists.mp there
    refine load_lt 0 0 0 0 0 1 rfl (Nat.le_refl _) ?_ ?_ (by decide)
    · cases found : server.active <;> simp [remaining, found]
    · simp [carried]

end KyClash.Sidecar.Server

namespace KyClash.StdioRuntime

open Sidecar (Response Server Calls Profile)

/-- The requests that the call may still send. -/
def sendsLeft : Point → Option Ipc.Request → Nat
  | .begin, _ => 2
  | .check, control => control.isNone.toNat
  | .receive, control => control.isNone.toNat

namespace System

/-- What client, pipes and server still have to do. -/
def remaining (system : System) : Nat :=
  26 * sendsLeft system.call.point system.call.cancelRequest +
    25 * system.stdin.length + (system.server.load - system.heard) +
    (!system.token).toNat

/-- Only the place of the client changes. -/
def Polled (system after : System) : Prop :=
  ∃ point, after = system.goTo point

/-- The step returns or leaves less to do. -/
def Gains (system after : System) : Prop :=
  after.result ≠ none ∨ after.remaining < system.remaining

/-- Some step gains, at once or after the client's next poll. -/
def CanGain (probes : Bool) (system : System) : Prop :=
  ∃ event after, Reliable event ∧ system.Gains after ∧
    (system.step probes event = some after ∨
      system.step probes (.check true) = some (system.goTo .receive) ∧
        (system.goTo .receive).step probes event = some after)

/-- Until the call has returned, some step gains, and every other step is a
poll. -/
def Progresses (probes : Bool) (system : System) : Prop :=
  system.result = none → system.CanGain probes ∧ ∀ event after, Reliable event →
      system.step probes event = some after →
      system.Gains after ∨ system.Polled after

end System

section Progress

variable {probes : Bool} {profile : Option Profile} {start : Server}
  {request control : Ipc.Request} {sequence : UInt64} {system : System}
  {stage : Stage} {after : System} {record : Sidecar.Request}
  {rest : List Sidecar.Request}

theorem begin_gains (valid : system.request.Valid)
    (place : system.call.point = .begin) :
    system.Gains (system.begin (.ok ())) := by
  have passes := system.request.validateProtocol_eq_ok_iff.mpr valid
  simp only [System.begin, passes]
  split
  · exact .inl (by rintro ⟨⟩)
  refine .inr ?_
  have one := Bool.toNat_le system.call.cancelRequest.isNone
  simp only [System.remaining, System.goTo, System.send, place, sendsLeft,
    List.length_append, List.length_singleton]
  omega

private theorem accept_cancelRequest {call next : Call} {response : Response}
    (accepts : call.accept request response = some next) :
    next.cancelRequest = call.cancelRequest := by
  unfold Call.accept at accepts
  split at accepts
  · split at accepts
    · cases accepts
      rfl
    · cases accepts
  · split at accepts
    · cases accepts
    split at accepts
    · split at accepts
      · cases accepts
        rfl
      · cases accepts
    · cases accepts

theorem receive_gains (more : system.stdout ≠ [])
    (place : system.call.point = .receive) : system.Gains system.receive := by
  have unread : system.heard < system.server.load := by
    have length : system.stdout.length =
        system.server.written.length - system.heard := by
      simp [System.stdout]
    have positive := List.length_pos_of_ne_nil more
    have written : system.server.written.length ≤ system.server.load :=
      Nat.le_add_left _ _
    omega
  unfold System.receive
  split
  · next empty => exact absurd empty more
  dsimp only
  split
  · exact .inl (by rintro ⟨⟩)
  · next call accepts =>
    have same := accept_cancelRequest accepts
    split
    · refine .inr ?_
      simp only [System.remaining, sendsLeft, place, same]
      omega
    · next verdict _ =>
      cases verdict with
      | returns | fails => exact .inl (by rintro ⟨⟩)

private theorem remaining_goTo {point : Point}
    (place : system.call.point ≠ .begin) (elsewhere : point ≠ .begin) :
    (system.goTo point).remaining = system.remaining := by
  have sends : sendsLeft point system.call.cancelRequest =
      sendsLeft system.call.point system.call.cancelRequest := by
    cases point with
    | begin => exact absurd rfl elsewhere
    | check | receive =>
      cases now : system.call.point with
      | begin => exact absurd now place
      | check | receive => rfl
  simp only [System.remaining, System.goTo, sends]

private theorem canGain_of_stdout (more : system.stdout ≠ [])
    (place : system.call.point ≠ .begin) (unreturned : system.result = none)
    (checks : system.call.point = .check →
      system.Gains (system.check true) ∨
        system.check true = system.goTo .receive) :
    system.CanGain probes := by
  cases point : system.call.point with
  | begin => exact absurd point place
  | receive =>
    refine ⟨.receive, system.receive, trivial, receive_gains more point,
      .inl ?_⟩
    simp [System.step, System.clientStep, unreturned, point]
  | check =>
    have taken : system.step probes (.check true) =
        some (system.check true) := by
      simp [System.step, System.clientStep, unreturned, point]
    rcases checks point with gains | waits
    · exact ⟨.check true, _, rfl, gains, .inl taken⟩
    · rw [waits] at taken
      refine ⟨.receive, (system.goTo .receive).receive, trivial, ?_,
        .inr ⟨taken, ?_⟩⟩
      · have same :=
          remaining_goTo place (show Point.receive ≠ .begin by rintro ⟨⟩)
        have gains : (system.goTo .receive).Gains
          (system.goTo .receive).receive := receive_gains more rfl
        rw [System.Gains, same] at gains
        exact gains
      · simp [System.step, System.clientStep, unreturned, System.goTo]

theorem Follows.can_receive {server : Server}
    (follows : Follows probes start request control server stage)
    (agreed : Agreed request control sequence) (calls : Calls)
    (next : [request.record, control.record][stage.taken]? = some record) :
    (server.step probes (.record record calls)).isSome := by
  obtain ⟨live, -, -, holds⟩ := follows
  cases holds with
  | waiting idle =>
    cases next
    rw [step_record_idle idle live agreed.valid.accepted]
    rfl
  | answered idle =>
    cases next
    rw [step_record_idle idle live agreed.proper.accepted]
    rfl
  | @running known active found operates fits =>
    cases known with
    | unseen =>
      cases next
      rw [step_record_active found fits.1 live agreed.proper.accepted]
      rfl
    | accepting | accepted | late => cases next
  | cancelled | late => cases next

section

variable
  (joined : Joined start request control probes profile sequence system stage)
include joined

theorem Joined.heard_le : system.heard ≤ system.server.load := by
  have written : system.server.written.length ≤ system.server.load :=
    Nat.le_add_left _ _
  have count := congrArg List.length joined.follows.written
  rw [List.length_append] at count
  cases joined.phase with
  | fresh | asking | returned => omega
  | cancelling _ _ _ _ answers _ heard =>
    rw [answers, List.length_append] at count
    omega

variable (agreed : Agreed request control sequence)
include agreed

theorem Joined.server_gains {event : Sidecar.Event} (benign : Benign event)
    (taken : system.serverStep probes event = some after) :
    system.Gains after := by
  obtain ⟨later, next⟩ := joined.server_step agreed benign taken
  obtain ⟨server, stepped, rfl⟩ := Option.map_eq_some_iff.mp taken
  obtain ⟨-, records, -⟩ := benign_step benign joined.follows.healthy stepped
  have less :=
    Server.load_lt_of_move
      (Server.Reached.sound joined.reached joined.follows.live)
      (Server.move_of_step stepped next.follows.live)
  have heard : system.heard ≤ server.load := next.heard_le
  rw [records] at less
  refine .inr ?_
  simp only [System.remaining]
  omega

theorem Joined.hand_over_gains {calls : Calls}
    (stdin : system.stdin = record :: rest)
    (taken : { system with stdin := rest }.serverStep probes
        (.record record calls) = some after) :
    system.Gains after := by
  obtain ⟨server, stepped, rfl⟩ := Option.map_eq_some_iff.mp taken
  have record_eq := joined.phase.next_record stdin
  obtain ⟨later, receives, follows⟩ := joined.follows.receive agreed.valid
    agreed.can agreed.proper agreed.cancels record_eq stepped
  have less :=
    Server.load_lt_of_move
      (Server.Reached.sound joined.reached joined.follows.live)
      (Server.move_of_step stepped follows.live)
  have records : server.records.length = system.server.records.length + 1 := by
    have bound := (List.getElem?_eq_some_iff.mp record_eq).1
    have count := congrArg List.length joined.follows.records
    have recount := congrArg List.length follows.records
    simp only [List.length_append, List.length_take, List.length_cons,
      List.length_nil, receives.taken_eq] at count recount bound
    omega
  refine .inr ?_
  simp only [System.remaining, stdin, List.length_cons]
  omega

theorem Joined.check_gains_or_waits (place : system.call.point = .check) :
    system.Gains (system.check true) ∨
      system.check true = system.goTo .receive := by
  obtain ⟨next, built⟩ := agreed.built
  obtain rfl := joined.same
  by_cases sends : (system.call.cancelRequest.isNone &&
      cancellable system.request.payload && system.token) = true
  · have parts := sends
    rw [Bool.and_eq_true, Bool.and_eq_true] at parts
    obtain ⟨⟨unsent, -⟩, token⟩ := parts
    have number := joined.counter (Option.isNone_iff_eq_none.mp unsent)
    rw [check_sends unsent agreed.can token (number ▸ built)]
    refine .inl (.inr ?_)
    simp only [System.remaining, System.sendControl, System.send, place,
      sendsLeft, unsent, Option.isNone_some, Bool.toNat_true,
      Bool.toNat_false, List.length_append, List.length_singleton]
    omega
  · exact .inr (check_waits (Bool.eq_false_iff.mpr sends))

theorem Joined.gains_or_polled {event : Event} (reliable : Reliable event)
    (taken : system.step probes event = some after) :
    system.Gains after ∨ system.Polled after := by
  obtain rfl := joined.same
  cases event with
  | handOver calls =>
    simp only [System.step] at taken
    split at taken
    · cases taken
    · next stdin => exact .inl (joined.hand_over_gains agreed stdin taken)
  | server event =>
    have benign : Benign event := reliable
    cases event with
    | record => cases benign
    | _ => exact .inl (joined.server_gains agreed benign taken)
  | cancel =>
    obtain ⟨unset, ⟨⟩⟩ := Option.ite_none_left_eq_some.mp taken
    refine .inl (.inr ?_)
    simp [System.remaining, unset]
  | begin sent =>
    obtain rfl : sent = .ok () := reliable
    obtain ⟨unreturned, place, rfl⟩ := System.act_of_step taken
    exact .inl (begin_gains agreed.valid place)
  | check delivered =>
    obtain rfl : delivered = true := reliable
    obtain ⟨unreturned, place, rfl⟩ := System.act_of_step taken
    exact (joined.check_gains_or_waits agreed place).imp_right
      fun polled => ⟨_, polled⟩
  | receive =>
    obtain ⟨unreturned, place, rfl⟩ := System.act_of_step taken
    by_cases empty : system.stdout = []
    · rw [receive_nothing empty]
      exact .inr ⟨_, rfl⟩
    · exact .inl (receive_gains empty place)
  | expire | broken => cases reliable

theorem Joined.canGain_of_active {active : Sidecar.Active}
    (found : system.server.active = some active) : system.CanGain probes := by
  obtain ⟨event, internal, sound, enabled⟩ :=
    Server.exists_internal probes joined.follows.live found
  obtain ⟨server, stepped⟩ := Option.isSome_iff_exists.mp enabled
  have taken : system.serverStep probes event =
      some { system with server } := by
    simp [System.serverStep, stepped]
  have benign : Benign event := by
    cases event with
    | record | terminate => cases internal
    | rollback succeeds =>
      cases succeeds with
      | true => rfl
      | false => exact absurd rfl sound
    | _ => exact trivial
  refine ⟨.server event, _, benign, joined.server_gains agreed benign taken,
    .inl ?_⟩
  cases event with
  | record => cases benign
  | _ => exact taken

theorem Joined.canGain_of_stdin (stdin : system.stdin = record :: rest) :
    system.CanGain probes := by
  let calls : Calls := ⟨none, false, none, false, false, false⟩
  obtain ⟨server, stepped⟩ := Option.isSome_iff_exists.mp
    (joined.follows.can_receive agreed calls (joined.phase.next_record stdin))
  have taken : { system with stdin := rest }.serverStep probes
        (.record record calls) =
      some { system with stdin := rest, server } := by
    simp [System.serverStep, stepped]
  refine ⟨.handOver calls, _, trivial,
    joined.hand_over_gains agreed stdin taken, .inl ?_⟩
  simp only [System.step, stdin]
  exact taken

theorem Joined.canGain (unreturned : system.result = none) :
    system.CanGain probes := by
  have same := joined.same
  have reads : system.call.point ≠ .begin → system.stdout ≠ [] →
      system.CanGain probes :=
    fun place more =>
      canGain_of_stdout more place unreturned
        (joined.check_gains_or_waits agreed)
  have running : ∀ known, stage = .running known →
      system.CanGain probes := by
    intro known stage_eq
    subst stage_eq
    obtain ⟨-, -, -, holds⟩ := joined.follows
    cases holds with
    | running found => exact joined.canGain_of_active agreed found
  cases joined.phase with
  | fresh _ call =>
    refine ⟨.begin (.ok ()), _, rfl,
      begin_gains (same ▸ agreed.valid) (by rw [call]), .inl ?_⟩
    simp [System.step, System.clientStep, unreturned, call]
  | returned _ _ _ result =>
    rw [unreturned] at result
    cases result
  | asking point place call stdin bound heard =>
    have elsewhere : system.call.point ≠ .begin := by
      rw [call]
      exact place
    have stdout := stdout_eq joined.follows (List.nil_append _).symm heard
    cases stage with
    | waiting => exact joined.canGain_of_stdin agreed stdin
    | running known => exact running known rfl
    | answered response => exact reads elsewhere (by rw [stdout]; rintro ⟨⟩)
    | cancelled | late => simp [Stage.taken] at bound
  | @cancelling point consumed unread place call stdin answers once heard =>
    have elsewhere : system.call.point ≠ .begin := by
      rw [call]
      exact place
    have stdout := stdout_eq joined.follows answers heard
    have left : ∀ first second, stage.answers start.records.length
        request.record control.record = [first, second] →
        system.stdout ≠ [] := by
      intro first second both empty
      rw [both] at answers
      have count := congrArg List.length answers
      have none := congrArg List.length (stdout.symm.trans empty)
      simp only [List.length_append, List.length_cons, List.length_nil,
        List.length_map] at count none
      omega
    cases stage with
    | waiting | answered => exact joined.canGain_of_stdin agreed stdin
    | running known => exact running known rfl
    | cancelled | late => exact reads elsewhere (left _ _ rfl)

theorem Joined.progresses : system.Progresses probes := by
  intro unreturned
  exact ⟨joined.canGain agreed unreturned,
    fun _ _ reliable taken => joined.gains_or_polled agreed reliable taken⟩

end

end Progress

end KyClash.StdioRuntime
