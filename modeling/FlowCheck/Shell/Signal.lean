import FlowCheck.Shell.Subshell

/-!
# Signals

Signals by name and by number, and what they do: to a shell, which may have something to do when one
comes, and to processes in the background.
-/

namespace FlowCheck.Shell

/-- The names of the signals, in the order of their numbers from one on. -/
def signalNames : List String :=
  ["HUP", "INT", "QUIT", "ILL", "TRAP", "ABRT", "BUS", "FPE", "KILL", "USR1", "SEGV", "USR2",
    "PIPE", "ALRM", "TERM", "STKFLT", "CHLD", "CONT", "STOP", "TSTP", "TTIN", "TTOU", "URG",
    "XCPU", "XFSZ", "VTALRM", "PROF", "WINCH", "POLL", "PWR", "SYS"]

/-- The name of a signal; number zero is the end of the shell. -/
def signalName? (number : Nat) : Option String :=
  match number with
  | 0 => some "EXIT"
  | number + 1 => signalNames[number]?

/-- The number of a signal by its name or number. -/
def signalNumber? (name : Bytes) : Option Nat :=
  if !name.isEmpty && name.all Char.isDigit then
    let number := naturalOf name
    if number ≤ 64 then some number else none
  else
    let text := (String.ofList name).toUpper
    let text := if text.startsWith "SIG" then String.ofList (text.toList.drop 3) else text
    if text = "EXIT" then some 0 else (signalNames.idxOf? text).map (· + 1)

/-- The time that passes while some deeds are done. -/
def pausesOf (deeds : List Deed) : Nat :=
  deeds.foldl (fun total deed =>
    match deed with
    | .pause time => total + time
    | _ => total) 0

/-- The deeds of a process that a signal ends after some time, if it has not ended before. -/
def endedBy (signal : Nat) : Nat → List Deed → Option (List Deed)
  | _, [] => none
  | time, .pause length :: rest =>
    if length ≤ time then (endedBy signal (time - length) rest).map (.pause length :: ·)
    else some [.pause time, .leave (.killed signal)]
  | time, .hang :: _ => some [.pause time, .leave (.killed signal)]
  | time, deed :: rest => (endedBy signal time rest).map (deed :: ·)

/-- End a process in the background by a signal, and say whether it was still running. -/
def signalJob (job : Job) (signal : Nat) : Act Bool := do
  let world ← get
  let since := world.deeds.take (world.deeds.length - job.deeds - 1)
  match world.deeds.drop since.length with
  | .fork streams deeds :: before =>
    match signalEffect signal, endedBy signal (pausesOf since) deeds with
    | _, none => return false
    | .ends, some cut =>
      let ended : Job := { job with status := 128 + signal }
      set { world with
        deeds := since ++ Deed.fork streams cut :: before
        jobs := world.jobs.map fun (other : Job) =>
          if other.number = job.number then ended else other }
      return true
    | _, some _ => return true
  | _ => return false

/-- Send a signal to a process by its number, and say whether there is one. -/
def signalProcess (run : Runner) (target signal : Nat) : Act Bool := do
  let world ← get
  if target = world.session.number then
    unless signal = 0 do
      if world.session.ownsNumber then signalShell run signal
      else modify fun world => { world with pending := (target, signal) :: world.pending }
    return true
  else if world.session.ancestors.contains target then
    unless signal = 0 do
      modify fun world => { world with pending := (target, signal) :: world.pending }
    return true
  else
    match world.jobs.find? fun job => job.number = target with
    | some job => if signal = 0 then return true else signalJob job signal
    | none => return false

end FlowCheck.Shell
