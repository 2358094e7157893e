import FlowCheck.Shell.Reader
import FlowCheck.Shell.World

/-!
# Shells inside of shells

Texts that are run as scripts, and commands that run in a shell of their own: what such a shell
changes of itself is forgotten when it ends, only its status is kept. How one command is run is told
by a parameter.
-/

namespace FlowCheck.Shell

/-- How a command is run. -/
abbrev Runner := Command → Act Unit

section

variable (run : Runner)

/-- Run what is left of a script, line by line. -/
def runLines : Nat → Source → Act Unit
  | 0, _ => throw .stuck
  | fuel + 1, source => do
    let world ← get
    let source :=
      { source with aliases := world.session.aliases, documents := world.documents }
    match readScriptLine source with
    | .finished => pure ()
    | .command command source =>
      modify fun world => { world with documents := source.documents }
      unless world.session.has 'n' do run command
      match source.held with
      | some (.sign .finish) => pure ()
      | _ => runLines fuel source
    | .broken cause source =>
      modify fun world => { world with documents := source.documents }
      changeSession fun session => { session with line := cause.line }
      fault (bytes cause.message)

/-- Run a text as a script. -/
def runText (text : Bytes) : Act Unit := do
  runLines run (text.length + 2) { text }

/-- Run what is to be done at the end of a shell. The status of the shell stays, unless what is done
ends the shell by itself. -/
def runFarewell (status : Nat) : Act Nat := do
  match (← get).session.traps.lookup 0 with
  | none | some [] => return status
  | some script =>
    changeSession fun session =>
      { session with
        traps := withoutEntry 0 session.traps, status := status, running := none, guarded := true }
    tryCatch (do runText run script; return status) fun
      | .leave last => pure last
      | .back _ | .skip .. => pure status
      | .fault => pure 2
      | flow => throw flow

/-- Run the end of a shell behind its commands, and tell its status. -/
def toItsEnd (act : Act Unit) : Act Nat := do
  let status ← tryCatch (do act; return (← get).session.status) fun
    | .leave status | .back status => pure status
    | .skip .. => return (← get).session.status
    | .fault => pure 2
    | flow => throw flow
  runFarewell run status

/-- A shell at the beginning of a copy of it: what is to be done on signals is forgotten, unless
that is nothing. -/
def Session.copied (session : Session) : Session :=
  { session with
    outermost := false
    ownsNumber := false
    traps := session.traps.filter fun entry => entry.2.isEmpty }

/-- What a signal does to a process that has not said what to do. -/
inductive SignalEffect where
  | ends
  | stops
  | nothing

/-- What a signal does. -/
def signalEffect (number : Nat) : SignalEffect :=
  if [17, 18, 23, 28].contains number then .nothing
  else if [19, 20, 21, 22].contains number then .stops
  else .ends

/-- Send a signal to the shell itself. -/
def signalShell (signal : Nat) : Act Unit := do
  let session := (← get).session
  match if signal = 9 || signal = 19 then none else session.traps.lookup signal with
  | some [] => pure ()
  | some script =>
    changeSession fun session => { session with running := none }
    runText run script
    changeSession fun changed =>
      { changed with status := session.status, running := session.running }
  | none =>
    match signalEffect signal with
    | .nothing => pure ()
    | .stops => throw .stuck
    | .ends => throw (.killed session.number signal)

/-- Give the shell the signals that came while it waited. -/
def deliverSignals : Act Unit := do
  let world ← get
  if world.session.ownsNumber && !world.pending.isEmpty then
    let (own, others) := world.pending.partition fun entry => entry.1 = world.session.number
    set { world with pending := others }
    for entry in own.reverse do signalShell run entry.2

/-- Run something in a shell of its own, and keep its status. Signals that came meanwhile stay
pending. -/
def inCopy (change : Session → Session) (act : Act Unit) : Act Unit := do
  let outer := (← get).session
  changeSession fun session => change session.copied
  let status ← toItsEnd run act
  changeSession fun _ => { outer with status := status % 256 }

/-- Run something in a shell of its own, and keep its status. -/
def inOwnShell (change : Session → Session) (act : Act Unit) : Act Unit := do
  inCopy run change act
  deliverSignals run

/-- What an act writes on standard output, in a shell of its own. -/
def gather (change : Session → Session) (act : Act Unit) : Act Supply := do
  let number ← openChannel (.gathered {})
  inOwnShell run (fun session =>
    change { session with streams := withEntry 1 number session.streams }) act
  let world ← get
  set { world with channels := withoutEntry number world.channels }
  match world.channels.lookup number with
  | some (.gathered supply) => return { supply with content := supply.content.reverse }
  | _ => return {}

/-- Run something in a shell of its own that reads a supply. -/
def withSupply (supply : Supply) (act : Act Unit) : Act Unit := do
  let number ← openChannel (.supply supply)
  inOwnShell run (fun session =>
    { session with streams := withEntry 0 number session.streams }) act
  modify fun world => { world with channels := withoutEntry number world.channels }

/-- Run commands of which each reads what the one before writes. -/
def runStages (supply : Option Supply) : List (Act Unit) → Act Unit
  | [] => pure ()
  | [last] =>
    match supply with
    | some supply => withSupply run supply last
    | none => inOwnShell run id last
  | first :: rest => do
    let stage := match supply with
      | some supply => withSupply run supply first
      | none => first
    runStages (some (← gather run id stage)) rest

end

/-- Run something whose failure is looked at, and tell whether it succeeded. -/
def guarded (act : Act Unit) : Act Bool := do
  let before := (← get).session.guarded
  changeSession fun session => { session with guarded := true }
  tryCatch act fun flow => do
    changeSession fun session => { session with guarded := before }
    throw flow
  changeSession fun session => { session with guarded := before }
  return (← get).session.status = 0

/-- End a shell whose last command failed, if it is to end then. -/
def checkStatus : Act Unit := do
  let session := (← get).session
  if session.has 'e' && !session.guarded && session.status ≠ 0 then throw (.leave session.status)

/-- One round of a loop, and whether the loop goes on. -/
def round (body : Act Unit) : Act Bool :=
  tryCatch (do body; return true) fun
    | .skip 0 next => pure next
    | .skip (loops + 1) next => throw (.skip loops next)
    | flow => throw flow

/-- Run the rounds of a loop. -/
def inLoop (act : Act Unit) : Act Unit := do
  let change (loops : Nat) : Act Unit :=
    changeSession fun session => { session with loops := loops }
  let before := (← get).session.loops
  change (before + 1)
  tryCatch act fun flow => do
    change before
    throw flow
  change before

end FlowCheck.Shell
