import KyClash.Networking.State

/-!
# Stopping the sidecar child

`StdioSidecarRuntime::stop` and the termination of a child handle
(`networking/stdio_runtime.rs`), over any implementation of the
process-control seam `SidecarProcessControl`.

The state `σ` of an implementation is everything its methods read and change:
its own fields and whatever it talks to.  A loop that polls until a deadline
is given the number of polls the clock allows.
-/

namespace KyClash.StdioRuntime

/-- The kinds of `io::Error` the process-control seam produces. -/
inductive IoErrorKind where
  | notFound
  | permissionDenied
  | brokenPipe
  | wouldBlock
  | invalidInput
  | invalidData
  | timedOut
  deriving DecidableEq, Repr

/-- The trait `SidecarProcessControl`. -/
structure ProcessControl (σ : Type) where
  generation : σ → Nat
  tryWaitStatus : σ → σ × Except IoErrorKind (Option Bool)
  killOwned : σ → σ × Except IoErrorKind Unit

/-- The runtime's slot for the child.  `attached` tells whether it still owns
the handle. -/
structure Runtime (σ : Type) where
  control : σ
  attached : Bool
  generation : Option Nat

variable {σ : Type} (control : ProcessControl σ)

namespace Runtime

/-- `child.take()`. -/
def detach (runtime : Runtime σ) : Runtime σ :=
  { runtime with attached := false }

/-- `matches!(process.try_wait_status(), Ok(Some(_)))`. -/
def pollExited (runtime : Runtime σ) : Runtime σ × Bool :=
  let result := control.tryWaitStatus runtime.control
  ({ runtime with control := result.1 },
    match result.2 with
    | .ok (some _) => true
    | _ => false)

/-- The polling loop after a kill, with `polls` more polls after the first. -/
def awaitExit :
    (polls : Nat) → Runtime σ → Runtime σ × Except NetworkErrorCode Unit
  | polls, runtime =>
    let result := runtime.pollExited control
    if result.2 then
      (result.1.detach, .ok ())
    else
      match polls with
      | 0 => (result.1, .error .sidecarUnavailable)
      | polls + 1 => awaitExit polls result.1

/-- `terminate_child_handle_with_timeout`. -/
def terminateChildHandle (polls : Nat) (runtime : Runtime σ) :
    Runtime σ × Except NetworkErrorCode Unit :=
  if !runtime.attached then
    (runtime, .ok ())
  else
    let result := runtime.pollExited control
    if result.2 then
      (result.1.detach, .ok ())
    else
      -- A failed kill is not authoritative; its result is ignored.
      let killed := control.killOwned result.1.control
      awaitExit control polls { result.1 with control := killed.1 }

/-- `terminate_child`; `cancelPrepared` is the launcher's answer when there is
no child to terminate. -/
def terminateChild (polls : Nat) (cancelPrepared : Except NetworkErrorCode Unit)
    (runtime : Runtime σ) : Runtime σ × Except NetworkErrorCode Unit :=
  match runtime.generation with
  | none =>
    if !runtime.attached then
      (runtime, cancelPrepared)
    else
      runtime.terminateChildHandle control polls
  | some expected =>
    if !runtime.attached then
      ({ runtime with generation := none }, .ok ())
    else if control.generation runtime.control ≠ expected then
      (runtime, .error .invalidStateTransition)
    else
      let result := runtime.terminateChildHandle control polls
      match result.2 with
      | .ok () => ({ result.1 with generation := none }, .ok ())
      | .error error => (result.1, .error error)

/-- The polls after an acknowledged shutdown request; the result tells
whether an exit was observed. -/
def awaitGraceful : (polls : Nat) → Runtime σ → Runtime σ × Bool
  | 0, runtime => (runtime, false)
  | polls + 1, runtime =>
    let result := runtime.pollExited control
    if result.2 then
      (result.1, true)
    else
      awaitGraceful polls result.1

/-- `stop`.  `acknowledged` tells whether the shutdown request was answered;
`requestPolls`, `polls` and `killPolls` are the polls before the deadlines of
a failed request's termination, of the graceful wait and of the final
termination. -/
def stop (acknowledged : Bool) (requestPolls polls killPolls : Nat)
    (cancelPrepared : Except NetworkErrorCode Unit) (runtime : Runtime σ) :
    Runtime σ × Except NetworkErrorCode Unit :=
  if !runtime.attached then
    (runtime, cancelPrepared)
  else
    let result :=
      if acknowledged then
        runtime.awaitGraceful control polls
      else
        -- Every failure of `request` terminates the child before it returns.
        ((runtime.terminateChild control requestPolls cancelPrepared).1, false)
    if result.2 then
      ({ result.1.detach with generation := none }, .ok ())
    else
      result.1.terminateChild control killPolls cancelPrepared

end Runtime

end KyClash.StdioRuntime
