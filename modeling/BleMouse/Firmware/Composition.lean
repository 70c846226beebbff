/-
The client and the output module together.

The client drives the output module: every observation of it that is a call of the output module
is carried out in the step that makes it.  Between the steps of the client the endpoint changes,
calls submit the output work, and the output worker takes its steps.  The two workers share one
thread in the firmware; here their steps may be interleaved in more ways.

* `firmware`, `Firmware.Run`: the composition and its runs;
* `Firmware.run_client`, `Firmware.run_output`: a run is a run of each module;
* `Firmware.next_of_client`: the output module never holds the client up.
-/
import BleMouse.Client.Attached
import BleMouse.Lib.Drive
import BleMouse.Output.Stream

namespace BleMouse

open BleMouse.Hid Transition

/-- The call of the output module that an observation of the client stands for. -/
def Client.Obs.call : Client.Obs → Option Output.Label
  | .outputReceive frame physical => some (.receive frame physical)
  | .outputDisconnect => some .disconnect
  | _ => none

/-- The steps of the output module that the client does not make. -/
inductive Output.Own
  | endpointChanged
  | submit
  | work
deriving DecidableEq, Repr

def Output.Own.label : Output.Own → Output.Label
  | .endpointChanged => .endpointChanged
  | .submit => .submit
  | .work => .work

/-- The client drives the output module. -/
def firmware (maxPaired cap : ℕ) :
    Drive Client.State Client.Label Output.State Output.Label Output.Own where
  driver := Client.State.next maxPaired
  calls := fun s s' => (s'.journal.drop s.journal.length).filterMap Client.Obs.call
  driven := Output.step cap
  own := Output.Own.label

namespace Firmware

/-- A state of the client and the output module. -/
abbrev State : Type := Client.State × Output.State

/-- A step of the client, or one of the output module's own. -/
abbrev Event : Type := Client.Label ⊕ Output.Own

/-- Before the start, on a host with these bonds. -/
def init (bonds : List Client.Addr) : State := (.init bonds, {})

/-- The runs of both. -/
abbrev Run (maxPaired cap : ℕ) : State → List Event → State → Prop := (firmware maxPaired cap).Runs

variable {maxPaired cap : ℕ} {bonds : List Client.Addr} {events : List Event} {f : State}

lemma run_client (hrun : Run maxPaired cap (init bonds) events f) :
    Client.Run maxPaired (Client.State.init bonds) (events.filterMap Sum.getLeft?) f.1 :=
  (Drive.run_driver hrun).mono fun _ _ _ => Client.step_of_next

/-- What the output module has been told, and its own steps. -/
def heard (maxPaired cap : ℕ) (bonds : List Client.Addr) (events : List Event) :
    List Output.Label := (firmware maxPaired cap).heard (Client.State.init bonds) events

lemma heard_snoc (hrun : Run maxPaired cap (init bonds) events f) (e : Event) :
    heard maxPaired cap bonds (events ++ [e]) =
      heard maxPaired cap bonds events ++ (firmware maxPaired cap).taken f.1 e :=
  Drive.heard_snoc hrun e

lemma run_output (hrun : Run maxPaired cap (init bonds) events f) :
    Output.Run cap {} (heard maxPaired cap bonds events) f.2 := Drive.run_driven hrun

/-- The output module takes every call, so it never holds the client up. -/
lemma next_of_client {s s' : Client.State} {l : Client.Label}
    (hstep : Client.Step maxPaired s l s') (o : Output.State) :
    ∃ o', (firmware maxPaired cap).next (s, o) (.inl l) = some (s', o') := by
  refine Drive.next_of_driver (fun k hk o => ?_) ?_ o
  · obtain ⟨obs, -, hcall⟩ := List.mem_filterMap.1 hk
    cases obs with
    | outputReceive frame physical =>
      cases hcall
      exact ⟨_, rfl⟩
    | outputDisconnect =>
      cases hcall
      exact ⟨_, rfl⟩
    | _ => cases hcall
  · show Client.State.next maxPaired s l = some s'
    unfold Client.State.next
    rw [if_pos hstep.1]
    exact hstep.2

/-- Events that can be computed lead to a state with a property. -/
lemma exists_run (maxPaired cap : ℕ) (bonds : List Client.Addr) (events : List Event)
    (p : State → Bool)
    (h : (events.foldlM (firmware maxPaired cap).next (init bonds)).any p = true) :
    ∃ f, Run maxPaired cap (init bonds) events f ∧ p f = true := Transition.Run.exists_of_foldlM h

end Firmware

end BleMouse
