import SessionControl.Client.Service
import SessionControl.Command.Trouble

set_option autoImplicit false

/-! # Watching the session

Prints a line for each signal of the session, until the connection is lost. -/

namespace SessionControl.Command

open Client (Action Service Session Notice)

variable {σ : Type}

/-- The text of a signal's argument, behind a space. -/
def payloadText : Bus.Payload → String
  | .none => ""
  | .number n => " " ++ Decimal.natText n.toNat
  | .flag b => " " ++ Client.PropertyValue.flagText b
  | .path p => " " ++ p
  | .level x => " " ++ x.text

/-- The line of a signal, whose callback is tagged with its name. -/
def deliveryLine (d : Bus.Delivery) : String := d.tag ++ payloadText d.payload

/-- Fails if the connection is gone. -/
def ensureConnected : Action σ Trouble Unit := fun w =>
  match w.connection.phase with
  | .closed =>
    (.error { contexts := ["Lost connection to D-Bus"], cause := .failure .lostConnection }, w)
  | _ => (.ok (), w)

/-- Tells what has come, and then looks whether more can come. The connection counts as lost only
    when no signal waits. -/
def tellPending : Action σ Trouble Unit := do
  let deliveries ← Action.process
  let _ ← Action.each (fun d => Action.printLine (deliveryLine d)) deliveries
  ensureConnected

/-- Tells whatever comes, in one pass after another. Nothing ends this but the loss of the
    connection: behind the last arrival it waits. -/
def listen : List Bus.Arrival → Action σ Trouble Exit
  | [] => do
    tellPending
    return .waiting
  | arrival :: rest => do
    tellPending
    Action.await arrival
    listen rest

/-- Subscribes to all signals of the session, then prints them as they come. -/
def monitor (arrivals : List Bus.Arrival) (service : Service) : Action σ Trouble Exit := do
  let session ← service.session
  let _ ← Action.each (fun n : Notice => plainly (session.handle.watch n n.member))
    Notice.ofSession
  listen arrivals

end SessionControl.Command
