import KyClash.StdioRuntime.Conversation

/-!
# The phases of a cancellable request

The client's part of a call, joined with the stage of the server: what was
sent, what is still in the pipes and what the client has taken.  Every step
over reliable pipes keeps the two parts together.
-/

namespace KyClash.StdioRuntime

open Sidecar (Response Server Calls Profile)

/-- A server that has answered everything. -/
structure Ready (probes : Bool) (profile : Option Profile) (server : Server) :
    Prop where
  reached : Server.Reached probes profile server
  live : server.ended = false
  answered : server.pending = []

/-- The pipes deliver, no deadline passes and no rollback fails. -/
def Reliable : Event → Prop
  | .server event => Benign event
  | .begin sent => sent = .ok ()
  | .check delivered => delivered = true
  | .expire => False
  | .broken => False
  | _ => True

/-! ## The state of a call -/

/-- The results with which a call may return at a stage of the server. -/
inductive Concludes : Stage → Except NetworkErrorCode Response → Prop where
  | unsent : Concludes .waiting (.error .operationCancelled)
  | answered (response : Response) :
      Concludes (.answered response) (.ok response)
  | cancelled : Concludes .cancelled (.error .operationCancelled)
  | late (response : Response) : Concludes (.late response) (.ok response)

section State

variable (start : Server) (request control : Ipc.Request)

/-- Where the client is, at a stage of the server.  `consumed` are the
responses that it has taken. -/
inductive Phase (system : System) (stage : Stage) : Prop where
  | fresh (waiting : stage = .waiting)
      (call : system.call = ⟨.begin, none, none, none⟩)
      (stdin : system.stdin = [])
      (heard : system.heard = start.written.length)
      (result : system.result = none)
  | asking (point : Point) (place : point ≠ .begin)
      (call : system.call = ⟨point, none, none, none⟩)
      (stdin : system.stdin = [request.record].drop stage.taken)
      (bound : stage.taken ≤ 1)
      (heard : system.heard = start.written.length)
      (result : system.result = none)
  | cancelling (point : Point) {consumed unread : List (Nat × Response)}
      (place : point ≠ .begin)
      (call : system.call =
        ⟨point, some control, consumed.lookup start.records.length,
          consumed.lookup (start.records.length + 1)⟩)
      (stdin : system.stdin = [request.record, control.record].drop stage.taken)
      (answers : stage.answers start.records.length request.record
          control.record = consumed ++ unread)
      (once : consumed.length ≤ 1)
      (heard : system.heard = start.written.length + consumed.length)
      (result : system.result = none)
  | returned {result : Except NetworkErrorCode Response}
      (concludes : Concludes stage result)
      (stdin : system.stdin = [])
      (heard : system.heard = start.written.length + (stage.answers
        start.records.length request.record control.record).length)
      (result_eq : system.result = some result)

/-- The invariant of a call. -/
structure Joined (probes : Bool) (profile : Option Profile) (sequence : UInt64)
    (system : System) (stage : Stage) : Prop where
  same : system.request = request
  kept : system.terminated = false
  counter : system.call.cancelRequest = none →
    system.nextCancelSequence = sequence
  reached : Server.Reached probes profile system.server
  follows : Follows probes start request control system.server stage
  phase : Phase start request control system stage

end State

/-! ## The steps of client and server -/

section Steps

variable {probes : Bool} {profile : Option Profile} {start : Server}
  {request control : Ipc.Request} {sequence : UInt64} {system : System}
  {stage : Stage} {server : Server} {record : Sidecar.Request}
  {rest : List Sidecar.Request} {response : Response}
  {consumed unread : List (Nat × Response)} {call : Call}
  {result : Except NetworkErrorCode Response} {later : List (Nat × Response)}
  {after : System} {next : Stage}

theorem accept_primary (call : Call)
    (id : response.requestID = request.requestID)
    (passes : Ipc.validateProtocol response request = .ok ())
    (first : call.primaryResponse = none) :
    call.accept request response =
      some { call with primaryResponse := some response } := by
  simp [Call.accept, id, passes, first]

private theorem accept_control (call : Call)
    (sent : call.cancelRequest = some control)
    (different : control.requestID ≠ request.requestID)
    (id : response.requestID = control.requestID)
    (passes : Ipc.validateProtocol response control = .ok ())
    (first : call.cancelResponse = none) :
    call.accept request response =
      some { call with cancelResponse := some response } := by
  simp [Call.accept, sent, id, different, passes, first]

private theorem passes_cancelAccepted (proper : control.Valid)
    (cancels : control.payload = .cancel request.requestID) :
    Ipc.validateProtocol (control.record.cancelAccepted request.requestID)
        control = .ok () := by
  obtain ⟨named, different⟩ := proper.target _ cancels
  rw [Sidecar.Request.cancelAccepted, proper.validateProtocol_respond]
  simp [Ipc.validateResponsePayload, cancels, named, different]

private theorem passes_cancelTooLate (proper : control.Valid) :
    Ipc.validateProtocol control.record.cancelTooLate control = .ok () :=
  proper.validateProtocol_err _

private theorem passes_cancelled (valid : request.Valid) :
    Ipc.validateProtocol request.record.cancelled request = .ok () :=
  valid.validateProtocol_err _

private theorem finishCancelPair_accepted :
    finishCancelPair request request.record.cancelled
        (control.record.cancelAccepted request.record.requestID) =
      .returns (.error .operationCancelled) := by
  simp [finishCancelPair, Sidecar.Request.cancelAccepted,
    Sidecar.Request.cancelled, Sidecar.Request.respond, Ipc.Request.record]

private theorem finishCancelPair_late
    (plain : operationCancelled response = false) :
    finishCancelPair request response control.record.cancelTooLate =
      .returns (.ok response) := by
  simp [finishCancelPair, Sidecar.Request.cancelTooLate,
    Sidecar.Request.respond, plain]

theorem stdout_eq
    (follows : Follows probes start request control system.server stage)
    (answers : stage.answers start.records.length request.record
        control.record = consumed ++ unread)
    (heard : system.heard = start.written.length + consumed.length) :
    system.stdout = unread.map (·.2) := by
  rw [System.stdout, follows.written, answers, heard, ← List.append_assoc,
    ← List.length_append, List.drop_left]

theorem check_sends {next : UInt64}
    (unsent : system.call.cancelRequest.isNone = true)
    (can : cancellable system.request.payload = true)
    (token : system.token = true)
    (built : cancellationRequest system.nextCancelSequence
        system.request.requestID = (next, .ok control)) :
    system.check true =
      { system with nextCancelSequence := next }.sendControl control := by
  simp [System.check, unsent, can, token, built]

section

variable (phase : Phase start request control system stage)
include phase

theorem Phase.advance (advances : Stage.Advances stage next) :
    Phase start request control { system with server } next := by
  cases phase with
  | fresh waiting call stdin heard result =>
    subst waiting
    cases advances
    exact .fresh rfl call stdin heard result
  | asking point place call stdin bound heard result =>
    rw [← advances.taken_eq] at stdin bound
    exact .asking point place call stdin bound heard result
  | cancelling point place call stdin answers once heard result =>
    obtain ⟨added, added_eq⟩ := advances.answers_eq start.records.length
      request.record control.record
    rw [answers, List.append_assoc] at added_eq
    rw [← advances.taken_eq] at stdin
    exact .cancelling point place call stdin added_eq once heard result
  | returned concludes stdin heard result =>
    -- A stage at which a call returns has no step to another.
    cases concludes <;> cases advances
    · exact .returned .unsent stdin heard result
    · exact .returned (.answered _) stdin heard result
    · exact .returned .cancelled stdin heard result
    · exact .returned (.late _) stdin heard result

theorem Phase.next_record (stdin_eq : system.stdin = record :: rest) :
    [request.record, control.record][stage.taken]? = some record := by
  have first : ∀ records : List Sidecar.Request,
      records.drop stage.taken = record :: rest →
        records[stage.taken]? = some record := by
    intro records dropped
    rw [← List.head?_drop, dropped]
    rfl
  cases phase with
  | fresh _ _ stdin | returned _ stdin =>
    rw [stdin] at stdin_eq
    cases stdin_eq
  | asking _ _ _ stdin bound =>
    have found := first _ (stdin.symm.trans stdin_eq)
    have zero : stage.taken = 0 := by
      have := (List.getElem?_eq_some_iff.mp found).1
      simpa using this
    rw [zero] at found ⊢
    exact found
  | cancelling _ _ _ stdin => exact first _ (stdin.symm.trans stdin_eq)

theorem Phase.receive (stdin_eq : system.stdin = record :: rest)
    (receives : Stage.Receives stage next) :
    Phase start request control { system with stdin := rest, server } next := by
  have tail : ∀ records : List Sidecar.Request,
      system.stdin = records.drop stage.taken →
        rest = records.drop next.taken := by
    intro records dropped
    rw [receives.taken_eq, ← List.tail_drop, ← dropped, stdin_eq]
    rfl
  cases phase with
  | fresh _ _ stdin | returned _ stdin =>
    rw [stdin] at stdin_eq
    cases stdin_eq
  | asking point place call stdin bound heard result =>
    refine .asking point place call (tail _ stdin) ?_ heard result
    have shorter := congrArg List.length (stdin.symm.trans stdin_eq)
    simp only [List.length_drop, List.length_cons, List.length_nil] at shorter
    rw [receives.taken_eq]
    omega
  | cancelling point place call stdin answers once heard result =>
    obtain ⟨added, added_eq⟩ := receives.answers_eq start.records.length
      request.record control.record
    rw [answers, List.append_assoc] at added_eq
    exact .cancelling point place call (tail _ stdin) added_eq once heard result

theorem Phase.goTo {point : Point} (place : system.call.point ≠ .begin)
    (unreturned : system.result = none) (waits : point ≠ .begin) :
    Phase start request control (system.goTo point) stage := by
  cases phase with
  | fresh _ call =>
    rw [call] at place
    exact absurd rfl place
  | returned _ _ _ result =>
    rw [unreturned] at result
    cases result
  | asking _ _ call stdin bound heard result =>
    exact .asking point waits (by simp [System.goTo, call]) stdin bound heard
      result
  | cancelling _ _ call stdin answers once heard result =>
    exact .cancelling point waits (by simp [System.goTo, call]) stdin answers
      once heard result

end

theorem check_waits
    (nothing : (system.call.cancelRequest.isNone &&
        cancellable system.request.payload && system.token) = false) :
    system.check true = system.goTo .receive := by
  simp only [System.check, nothing, Bool.false_eq_true, if_false]

theorem receive_nothing (empty : system.stdout = []) :
    system.receive = system.goTo .check := by
  simp [System.receive, empty]

private theorem receive_goes {rest : List Response}
    (stdout : system.stdout = response :: rest)
    (accepts : system.call.accept system.request response = some call)
    (unfinished : call.verdict system.request = none) :
    system.receive =
      { system with
        heard := system.heard + 1
        call := { call with point := .check } } := by
  simp [System.receive, stdout, accepts, unfinished]

theorem receive_returns {rest : List Response}
    (stdout : system.stdout = response :: rest)
    (accepts : system.call.accept system.request response = some call)
    (finished : call.verdict system.request = some (.returns result)) :
    system.receive =
      { system with heard := system.heard + 1, call }.finish result := by
  simp [System.receive, stdout, accepts, finished, System.settle]

theorem Follows.truthful
    (follows : Follows probes start request control server stage)
    (answered : stage = .answered response ∨ stage = .late response) :
    Truthful probes start request server response := by
  obtain ⟨-, -, -, holds⟩ := follows
  rcases answered with rfl | rfl
  · cases holds with
    | answered _ truthful => exact truthful
  · cases holds with
    | late _ truthful => exact truthful

private theorem lookup_other {position other : Nat} (response : Response)
    (different : other ≠ position) :
    [(position, response)].lookup other = none := by
  simp [List.lookup_cons, beq_eq_false_iff_ne.mpr different]

/-- What is fixed during a call. -/
structure Agreed (request control : Ipc.Request) (sequence : UInt64) :
    Prop where
  valid : request.Valid
  can : cancellable request.payload = true
  proper : control.Valid
  cancels : control.payload = .cancel request.requestID
  built : ∃ next, cancellationRequest sequence request.requestID =
    (next, .ok control)

theorem System.act_of_step {place : Point} {next : System} (taken : (if
      system.result.isSome then none else if system.call.point = place then
      some next else none) = some after) :
    system.result = none ∧ system.call.point = place ∧ after = next := by
  split at taken
  · cases taken
  · next unreturned =>
    obtain ⟨here, ⟨⟩⟩ := Option.ite_none_right_eq_some.mp taken
    exact ⟨by simpa using unreturned, here, rfl⟩

section

variable
  (joined : Joined start request control probes profile sequence system stage)
include joined

theorem Joined.poll (place : system.call.point = .receive)
    (unreturned : system.result = none) :
    Joined start request control probes profile sequence (system.goTo .check)
      stage := by
  exact { joined with
    phase := joined.phase.goTo (by simp [place]) unreturned nofun }

/-- Without a control request, a record is the response. -/
theorem Joined.receive_asking {rest : List Response}
    (call : system.call = ⟨.receive, none, none, none⟩)
    (stdin : system.stdin = [request.record].drop stage.taken)
    (bound : stage.taken ≤ 1) (heard : system.heard = start.written.length)
    (stdout : system.stdout = response :: rest) :
    Joined start request control probes profile sequence system.receive
      stage := by
  obtain ⟨same, kept, counter, reached, follows, -⟩ := joined
  have unread := stdout_eq follows (List.nil_append _).symm heard
  rw [stdout] at unread
  cases stage with
  | waiting => cases unread
  | cancelled | late => simp [Stage.taken] at bound
  | running known =>
    cases known with
    | unseen => cases unread
    | accepting | accepted | late => simp [Stage.taken] at bound
  | answered only =>
    cases unread
    have truthful := follows.truthful (.inl rfl)
    have accepts : system.call.accept system.request only =
        some { system.call with primaryResponse := some only } := by
      rw [same]
      exact accept_primary _ truthful.id truthful.passes (by rw [call])
    have finished : ({ system.call with primaryResponse := some only } :
        Call).verdict system.request = some (.returns (.ok only)) := by
      simp [Call.verdict, call, truthful.plain]
    rw [receive_returns stdout accepts finished]
    refine ⟨same, kept, counter, reached, follows,
      .returned (.answered only) ?_ ?_ rfl⟩
    · exact stdin
    · exact congrArg (· + 1) heard

/-- The first of the two responses leaves the call waiting for the other. -/
theorem Joined.take_first {first : Nat × Response}
    (stdin : system.stdin = [request.record, control.record].drop stage.taken)
    (answers : stage.answers start.records.length request.record
        control.record = first :: later)
    (heard : system.heard = start.written.length)
    (unreturned : system.result = none)
    (accepts : system.call.accept request first.2 = some call)
    (now : { call with point := .check } =
      ⟨.check, some control, [first].lookup start.records.length,
        [first].lookup (start.records.length + 1)⟩)
    (waits : call.verdict request = none) :
    Joined start request control probes profile sequence system.receive
      stage := by
  obtain ⟨rfl, kept, counter, reached, follows, -⟩ := joined
  have stdout :=
    stdout_eq follows (answers.trans (List.nil_append _).symm) heard
  rw [receive_goes stdout accepts waits]
  have sent : call.cancelRequest = some control :=
    congrArg Call.cancelRequest now
  exact ⟨rfl, kept, fun unsent => by simp [sent] at unsent, reached, follows,
    .cancelling .check nofun now stdin answers (Nat.le_refl 1)
      (congrArg (· + 1) heard) unreturned⟩

theorem Joined.take_second {first second : Nat × Response}
    (stdin : system.stdin = [request.record, control.record].drop stage.taken)
    (taken : stage.taken = 2)
    (answers : stage.answers start.records.length request.record
        control.record = [first] ++ [second])
    (heard : system.heard = start.written.length + 1)
    (accepts : system.call.accept request second.2 = some call)
    (sent : call.cancelRequest.isSome)
    (finished : call.verdict request = some (.returns result))
    (concludes : Concludes stage result) :
    Joined start request control probes profile sequence system.receive
      stage := by
  obtain ⟨rfl, kept, counter, reached, follows, -⟩ := joined
  have stdout := stdout_eq follows answers heard
  rw [receive_returns stdout accepts finished]
  refine ⟨rfl, kept, ?_, reached, follows, .returned concludes ?_ ?_ rfl⟩
  · intro unsent
    have none : call.cancelRequest = none := unsent
    rw [none] at sent
    cases sent
  · have empty := stdin
    rw [taken] at empty
    exact empty
  · rw [answers]
    exact congrArg (· + 1) heard

theorem Joined.cancel :
    Joined start request control probes profile sequence
      { system with token := true } stage := by
  refine { joined with phase := ?_ }
  cases joined.phase with
  | fresh waiting call stdin heard result =>
    exact .fresh waiting call stdin heard result
  | asking point place call stdin bound heard result =>
    exact .asking point place call stdin bound heard result
  | cancelling point place call stdin answers once heard result =>
    exact .cancelling point place call stdin answers once heard result
  | returned concludes stdin heard result =>
    exact .returned concludes stdin heard result

variable (agreed : Agreed request control sequence)
include agreed

theorem Joined.begin (place : system.call.point = .begin)
    (unreturned : system.result = none) :
    Joined start request control probes profile sequence (system.begin (.ok ()))
      stage := by
  obtain ⟨same, kept, counter, reached, follows, phase⟩ := joined
  have passes := request.validateProtocol_eq_ok_iff.mpr agreed.valid
  cases phase with
  | asking _ elsewhere call | cancelling _ elsewhere call =>
    rw [call] at place
    exact absurd place elsewhere
  | returned _ _ _ result =>
    rw [unreturned] at result
    cases result
  | fresh waiting call stdin heard result =>
    subst waiting
    simp only [System.begin, same, passes, agreed.can, Bool.true_and]
    split
    · refine ⟨same, kept, counter, reached, follows,
        .returned .unsent stdin ?_ rfl⟩
      exact heard
    have now : ((system.send request).goTo .check).call =
        ⟨.check, none, none, none⟩ := by
      simp [System.goTo, System.send, call]
    refine ⟨same, kept, counter, reached, follows,
      .asking .check nofun now ?_ (Nat.zero_le 1) heard result⟩
    simp [System.goTo, System.send, stdin, Stage.taken]

theorem Joined.check (place : system.call.point = .check)
    (unreturned : system.result = none) :
    Joined start request control probes profile sequence (system.check true)
      stage := by
  obtain ⟨next, built⟩ := agreed.built
  obtain ⟨same, kept, counter, reached, follows, phase⟩ := joined
  cases sends : system.call.cancelRequest.isNone &&
    cancellable system.request.payload &&
      system.token with
  | false =>
    rw [check_waits sends]
    exact ⟨same, kept, counter, reached, follows,
      phase.goTo (by simp [place]) unreturned nofun⟩
  | true =>
    simp only [Bool.and_eq_true] at sends
    obtain ⟨⟨unsent, -⟩, token⟩ := sends
    cases phase with
    | fresh _ call =>
      rw [call] at place
      cases place
    | returned _ _ _ result =>
      rw [unreturned] at result
      cases result
    | cancelling _ _ call =>
      rw [call] at unsent
      cases unsent
    | asking _ _ call stdin bound heard result =>
      have number := counter (by rw [call])
      rw [check_sends unsent (same ▸ agreed.can) token
        (by rw [number, same]; exact built)]
      have now : ({ system with nextCancelSequence := next }.sendControl
            control).call =
          ⟨.receive, some control,
            ([] : List (Nat × Response)).lookup start.records.length,
            ([] : List (Nat × Response)).lookup
              (start.records.length + 1)⟩ := by
        simp [System.sendControl, call]
      refine ⟨same, kept, nofun, reached, follows,
        .cancelling .receive nofun now ?_ (List.nil_append _).symm
          (Nat.zero_le 1) heard result⟩
      have both : [request.record, control.record] =
          [request.record] ++ [control.record] := rfl
      rw [both, List.drop_append_of_le_length (by simpa using bound), ← stdin]
      rfl

theorem Joined.receive_cancelling
    (call : system.call =
      ⟨.receive, some control, consumed.lookup start.records.length,
        consumed.lookup (start.records.length + 1)⟩)
    (stdin : system.stdin = [request.record, control.record].drop stage.taken)
    (answers : stage.answers start.records.length request.record
        control.record = consumed ++ unread)
    (once : consumed.length ≤ 1)
    (heard : system.heard = start.written.length + consumed.length)
    (more : unread ≠ []) (unreturned : system.result = none) :
    Joined start request control probes profile sequence system.receive
      stage := by
  have different := (agreed.proper.target _ agreed.cancels).2.symm
  have truthful : ∀ response,
      stage = .answered response ∨ stage = .late response →
        Truthful probes start request system.server response :=
    fun _ => joined.follows.truthful
  cases consumed with
  | nil =>
    have controls : system.call.accept request
        (control.record.cancelAccepted request.record.requestID) = _ :=
      accept_control system.call (by rw [call]) different rfl
        (passes_cancelAccepted agreed.proper agreed.cancels) (by rw [call]; rfl)
    have answering :=
      fun response
        (truth : Truthful probes start request system.server response) =>
        accept_primary system.call truth.id truth.passes (by rw [call]; rfl)
    cases stage with
    | waiting => exact absurd answers.symm more
    | running known =>
      cases known with
      | unseen | accepting | late => exact absurd answers.symm more
      | accepted =>
        exact joined.take_first stdin rfl heard unreturned controls
          (by simp [call, lookup_other]) (by simp [call, Call.verdict])
    | cancelled =>
      exact joined.take_first stdin rfl heard unreturned controls
        (by simp [call, lookup_other]) (by simp [call, Call.verdict])
    | answered response =>
      exact joined.take_first stdin rfl heard unreturned
        (answering _ (truthful _ (.inl rfl))) (by simp [call, lookup_other])
        (by simp [call, Call.verdict])
    | late response =>
      exact joined.take_first stdin rfl heard unreturned
        (answering _ (truthful _ (.inr rfl))) (by simp [call, lookup_other])
        (by simp [call, Call.verdict])
  | cons first others =>
    have alone : others = [] := by
      apply List.eq_nil_of_length_eq_zero
      simpa using once
    subst alone
    cases stage with
    | waiting => cases answers
    | answered response => exact absurd (List.cons.inj answers).2.symm more
    | running known =>
      cases known with
      | unseen | accepting | late => cases answers
      | accepted => exact absurd (List.cons.inj answers).2.symm more
    | cancelled =>
      cases answers
      have accepts := accept_primary system.call rfl
        (passes_cancelled agreed.valid) (by simp [call, lookup_other])
      refine joined.take_second stdin rfl rfl heard accepts ?_ ?_ .cancelled
      · rw [call]
        rfl
      · simp [Call.verdict, call, finishCancelPair_accepted]
    | late response =>
      cases answers
      have accepts := accept_control system.call (by rw [call])
        different rfl (passes_cancelTooLate agreed.proper)
        (by simp [call, lookup_other])
      refine joined.take_second stdin rfl rfl heard accepts ?_ ?_
        (.late response)
      · rw [call]
        rfl
      · have plain := (truthful response (.inr rfl)).plain
        simp [Call.verdict, call, finishCancelPair_late plain]

theorem Joined.receive (place : system.call.point = .receive)
    (unreturned : system.result = none) :
    Joined start request control probes profile sequence system.receive
      stage := by
  cases stdout : system.stdout with
  | nil =>
    rw [receive_nothing stdout]
    exact joined.poll place unreturned
  | cons response rest =>
    cases joined.phase with
    | fresh _ call =>
      rw [call] at place
      cases place
    | returned _ _ _ result =>
      rw [unreturned] at result
      cases result
    | asking point _ call stdin bound heard =>
      obtain rfl : point = .receive := by
        rw [call] at place
        exact place
      exact joined.receive_asking call stdin bound heard stdout
    | cancelling point _ call stdin answers once heard =>
      obtain rfl : point = .receive := by
        rw [call] at place
        exact place
      have unread := stdout_eq joined.follows answers heard
      refine joined.receive_cancelling agreed call stdin
        answers once heard ?_ unreturned
      intro empty
      rw [stdout, empty] at unread
      cases unread

theorem Joined.server_step {event : Sidecar.Event} (benign : Benign event)
    (taken : system.serverStep probes event = some after) :
    ∃ next,
      Joined start request control probes profile sequence after next := by
  obtain ⟨same, kept, counter, reached, follows, phase⟩ := joined
  obtain ⟨server, stepped, rfl⟩ := Option.map_eq_some_iff.mp taken
  have sound := Server.Reached.sound reached follows.live
  obtain ⟨next, advances, later⟩ :=
    follows.advance agreed.valid sound benign stepped
  exact ⟨next, same, kept, counter, .next reached trivial stepped, later,
    phase.advance advances⟩

theorem Joined.hand_over {calls : Calls} (stdin : system.stdin = record :: rest)
    (taken : { system with stdin := rest }.serverStep probes
        (.record record calls) = some after) :
    ∃ next,
      Joined start request control probes profile sequence after next := by
  obtain ⟨same, kept, counter, reached, follows, phase⟩ := joined
  obtain ⟨server, stepped, rfl⟩ := Option.map_eq_some_iff.mp taken
  obtain ⟨next, receives, later⟩ := follows.receive agreed.valid agreed.can
    agreed.proper agreed.cancels (phase.next_record stdin) stepped
  exact ⟨next, same, kept, counter, .next reached trivial stepped, later,
    phase.receive stdin receives⟩

theorem Joined.step {event : Event} (reliable : Reliable event)
    (taken : system.step probes event = some after) :
    ∃ next,
      Joined start request control probes profile sequence after next := by
  cases event with
  | handOver calls =>
    simp only [System.step] at taken
    split at taken
    · cases taken
    · next stdin => exact joined.hand_over agreed stdin taken
  | server event =>
    have benign : Benign event := reliable
    cases event with
    | record => cases benign
    | _ => exact joined.server_step agreed benign taken
  | cancel =>
    obtain ⟨-, ⟨⟩⟩ := Option.ite_none_left_eq_some.mp taken
    exact ⟨stage, joined.cancel⟩
  | begin sent =>
    obtain rfl : sent = .ok () := reliable
    obtain ⟨unreturned, place, rfl⟩ := System.act_of_step taken
    exact ⟨stage, joined.begin agreed place unreturned⟩
  | check delivered =>
    obtain rfl : delivered = true := reliable
    obtain ⟨unreturned, place, rfl⟩ := System.act_of_step taken
    exact ⟨stage, joined.check agreed place unreturned⟩
  | receive =>
    obtain ⟨unreturned, place, rfl⟩ := System.act_of_step taken
    exact ⟨stage, joined.receive agreed place unreturned⟩
  | expire | broken => cases reliable

end

private theorem idle_of_pending (answered : server.pending = []) :
    Idle server := by
  obtain ⟨active, owner⟩ := List.append_eq_nil_iff.mp answered
  constructor
  · cases found : server.active with
    | none => rfl
    | some operation =>
      rw [found] at active
      cases active
  · cases selecting : server.owner with
    | selecting => rfl
    | accepting =>
      rw [selecting] at owner
      cases owner

theorem joined_initial (ready : Ready probes profile start) :
    Joined start request control probes profile sequence
      (System.initial start request sequence) .waiting := by
  refine ⟨rfl, rfl, fun _ => rfl, ready.reached, ⟨ready.live, ?_, ?_, ?_⟩,
    .fresh rfl rfl rfl rfl rfl⟩
  · exact (List.append_nil _).symm
  · exact (List.append_nil _).symm
  · exact .waiting (idle_of_pending ready.answered) rfl

end Steps

end KyClash.StdioRuntime
