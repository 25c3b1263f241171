import Multiplexer.Change.Handle

/-! Runs of a client's core: events one after another, each at the time the driver read it, and
what a driver promises about them. -/

set_option autoImplicit false

namespace Multiplexer

open Program

structure Settings where
  peerType : Nat
  ids : Ids
  mode : IncomingMode
  onMessage : Option (Nat → HandlerReply) := none
  searchPolicy : Option (Nat → Bool) := none
  confirmsItself : Bool := false

def Settings.start (settings : Settings) (now : Instant) : Core :=
  { Core.new settings.peerType settings.ids settings.mode now with
    threaded :=
      { onMessage := settings.onMessage, searchPolicy := settings.searchPolicy
        confirmsItself := settings.confirmsItself } }

def Settings.plain : Settings where
  peerType := 1
  ids := ⟨fun drawn => (drawn + 1) % 2 ^ 64, fun _ => Nat.mod_lt _ (by decide)⟩
  mode := .queue

abbrev History := List (Instant × Event)

def Core.run (core : Core) (history : History) : Core :=
  history.foldl (fun core moment => step moment.1 moment.2 core) core

/-- What a multiplexer of id 50 welcomes a client with. -/
def welcomeOf50 : Message :=
  { id := some 90, sender := some 50, type := types.CONNECTION_WELCOME
    message := some (WelcomeMessage.payload { type := 1, id := 50 }) }

def welcomed : History :=
  [(0, .connect ⟨.address 1, 2⟩), (0, .connected 1 true), (0, .frame 1 (some welcomeOf50))]

theorem Core.run_keeps {Holds : Core → Prop}
    (keeps : ∀ {core : Core} (now : Instant) (event : Event), Holds core →
      Holds (step now event core))
    {core : Core} (holds : Holds core) (history : History) : Holds (core.run history) := by
  induction history generalizing core with
  | nil => exact holds
  | cons moment _ ih => exact ih (keeps moment.1 moment.2 holds)

/-! ## The driver's part -/

structure Asked where
  opens : List ConnId := []
  resolves : List ConnId := []
  writes : List (ConnId × FrameBytes) := []

namespace Asked

def add (asked : Asked) : Action → Asked
  | .openSocket conn _ => { asked with opens := asked.opens ++ [conn] }
  | .resolve conn _ => { asked with resolves := asked.resolves ++ [conn] }
  | .write conn bytes => { asked with writes := asked.writes ++ [(conn, bytes)] }
  | _ => asked

def Allows (asked : Asked) : Event → Prop
  | .resolved conn _ => conn ∈ asked.resolves
  | .connected conn _ | .openFailed conn => conn ∈ asked.opens
  | .writeDone conn _ _ => ∃ bytes, (conn, bytes) ∈ asked.writes
  | _ => True

def answered (asked : Asked) : Event → Asked
  | .resolved conn _ => { asked with resolves := asked.resolves.erase conn }
  | .connected conn _ | .openFailed conn => { asked with opens := asked.opens.erase conn }
  | .writeDone conn _ _ => { asked with writes := asked.writes.eraseP (·.1 = conn) }
  | _ => asked

/-- What is left to answer once the driver said `event` and the core asked `actions`. -/
def after (asked : Asked) (event : Event) (actions : List Action) : Asked :=
  actions.foldl add (asked.answered event)

end Asked

/-- The core and what its driver owes it after `history`: time does not go back, and the driver
answers each request once at most. -/
inductive Driven (start : Core) : History → Core → Asked → Prop
  | start : Driven start [] start {}
  | step {history : History} {core : Core} {asked : Asked} (now : Instant) (event : Event)
      (driven : Driven start history core asked) (time : core.now ≤ now)
      (allowed : asked.Allows event) :
      Driven start (history ++ [(now, event)]) (step now event core)
        (asked.after event (step now event core).actions)

end Multiplexer
