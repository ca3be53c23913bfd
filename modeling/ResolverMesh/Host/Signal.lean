import ResolverMesh.Action

set_option autoImplicit false
set_option relaxedAutoImplicit false

/-!
# Signals

Sending a signal to a process. Signal zero only asks whether the process is there. A daemon
outlives the hangup signal, on which it reads its files again, and the signals that are ignored
or only stop a process; every other signal kills it at once. Nothing is refused for want of
permission, so a signal reaches every live process.

## Main definitions

* `ResolverMesh.Signal.probe`, `ResolverMesh.Signal.reload`, `ResolverMesh.Signal.terminate` — the
  signals that the mesh sends.
* `ResolverMesh.Signal.send` — a signal sent.
* `ResolverMesh.Signal.accepts` — whether a process takes the probe.
-/

namespace ResolverMesh.Signal

/-- Asks whether a process is there. -/
def probe : Int := 0

/-- Asks a daemon to read its files again. -/
def reload : Int := 1

/-- Ends a process at once. -/
def terminate : Int := 9

/-- The greatest signal number. -/
def greatest : Int := 64

/-- The signals above zero that a daemon outlives: hangup, those that are ignored unless asked
for, and those that only stop it. -/
def survived : List Int := [1, 17, 18, 19, 20, 21, 22, 23, 28]

/-- A signal kills a daemon. -/
def isLethal (signal : Int) : Bool :=
  decide (0 < signal) && !survived.contains signal

/-- What a signal does to a live process. -/
def deliver (pid : Nat) (signal : Int) (h : Host) : Host :=
  if signal = probe then h
  else
    let h := h.record (.signalled pid signal)
    if isLethal signal then h.kill pid else h

/-- Why a signal cannot be sent, if it cannot: a pid has to be positive and to belong to a live
process, and only then is the signal looked at. -/
def refusal (h : Host) (pid signal : Int) : Option Fault :=
  if pid ≤ 0 then some (.signalRefused pid .invalidParameter)
  else if !h.isAlive pid then some (.processGone pid)
  else if signal < 0 ∨ greatest < signal then some (.signalRefused pid .invalidArgument)
  else none

/-- A signal sent to a process. -/
def send (pid signal : Int) : Action Unit := fun h =>
  match refusal h pid signal with
  | some fault => (.error fault, h)
  | none => (.ok (), deliver pid.toNat signal h)

/-- A process takes the probe. -/
def accepts (h : Host) (pid : Int) : Bool :=
  (refusal h pid probe).isNone

end ResolverMesh.Signal
