import MightyMouse.ConcurrentSenders
import MightyMouse.LinkFaults

/-!
# Repeated outages

A link may be lost and taken up again any number of times while one thread
sends its commands.  The dongle stays where the last byte has left it.  If no
connection that is cut inside a frame is followed by one that begins inside a
frame, the dongle performs the commands that were written whole and nothing
else.
-/

namespace MightyMouse

open SerialProtocol
open DispatcherSingleton hiding delimiter

section Outages

variable {service : Service}

/-- Between two successive writes with lost calls in between, the first ends a
frame or the second begins one.  Calls are numbered from the first one of a
frame. -/
def CleanGaps (service : Service) : Prop :=
  ∀ m n, m + 1 < n → (service m).connected = true →
    (service n).connected = true →
    (∀ k, m < k → k < n → (service k).connected = false) →
    m % 3 = 2 ∨ n % 3 = 0

/-- The commands all of whose calls are written, the first call being number
`start`. -/
def wholeCommands (service : Service) : Nat → List Command → List Command
  | _, [] => []
  | start, command :: commands =>
      if (service start).connected ∧ (service (start + 1)).connected ∧
          (service (start + 2)).connected then
        command :: wholeCommands service (start + 3) commands
      else wholeCommands service (start + 3) commands

/-- The dongle waits for a frame, or the last write has left it inside of
one. -/
def Resumable (service : Service) (start : Nat) (dongle : Dongle) : Prop :=
  dongle.currentState = waitForStart ∨
    ∃ m < start, (service m).connected = true ∧ m % 3 ≠ 2 ∧
      ∀ k, m < k → k < start → (service k).connected = false

/-- If a frame is taken up after its beginning, the dongle is waiting. -/
theorem Resumable.waiting {start n : Nat} {dongle : Dongle}
    (resumable : Resumable service start dongle) (gaps : CleanGaps service)
    (aligned : start % 3 = 0) (later : start < n) (inside : n < start + 3)
    (written : (service n).connected = true)
    (lost : ∀ k, start ≤ k → k < n → (service k).connected = false) :
    dongle.currentState = waitForStart := by
  rcases resumable with waits | ⟨m, before, wasWritten, notEnd, silent⟩
  · exact waits
  · exfalso
    have gap := gaps m n (by omega) wasWritten written (by
      intro k above below
      by_cases early : k < start
      · exact silent k above early
      · exact lost k (by omega) below)
    omega

/-- A frame whose beginning is lost consists of strays. -/
theorem run_headless {start : Nat} {command : Command} (clean : command.Clean)
    (lost : (service start).connected = false) {dongle : Dongle}
    (waiting : dongle.currentState = waitForStart) :
    hidCalls .unsigned dongle
        (writtenBytes (commandCalls service start command)) = [] ∧
      (stateAfter .unsigned dongle (writtenBytes
        (commandCalls service start command))).currentState =
          waitForStart := by
  have free : delimiter ∉
      writtenBytes (commandCalls service start command) := by
    have parts := clean.free
    rw [List.mem_cons, not_or] at parts
    rw [writtenBytes_commandCalls, lost, if_neg Bool.false_ne_true,
      List.nil_append, List.mem_append, not_or]
    constructor
    · split
      · simpa using parts.1
      · simp
    · split
      · exact parts.2
      · simp
  refine ⟨hidCalls_waiting waiting free, ?_⟩
  rw [(run_waiting waiting free).2]
  exact waiting

/-- What one command does to the dongle, however many of its calls are
written. -/
theorem run_command {start : Nat} {command : Command} {dongle : Dongle}
    (gaps : CleanGaps service) (clean : command.Clean)
    (aligned : start % 3 = 0)
    (resumable : Resumable service start dongle) :
    hidCalls .unsigned dongle
        (writtenBytes (commandCalls service start command)) =
      (if (service start).connected ∧ (service (start + 1)).connected ∧
          (service (start + 2)).connected then [command.action] else []) ∧
      Resumable service (start + 3) (stateAfter .unsigned dongle
        (writtenBytes (commandCalls service start command))) := by
  have begun (before after : List (List Byte))
      (splits : command.writes = before ++ after) (started : before ≠ [])
      (more : after ≠ []) :=
    (hidCalls_begun splits started more dongle).1
  cases first : (service start).connected with
  | false =>
      cases second : (service (start + 1)).connected with
      | true =>
          have waiting := resumable.waiting gaps aligned (Nat.lt_succ_self _)
            (by omega) second (by
              intro k above below
              rwa [show k = start by omega])
          obtain ⟨nothing, waits⟩ := run_headless clean first waiting
          exact ⟨by simp [nothing], Or.inl waits⟩
      | false =>
          cases third : (service (start + 2)).connected with
          | true =>
              have waiting := resumable.waiting gaps aligned
                (show start < start + 2 by omega) (by omega) third (by
                  intro k above below
                  have cases : k = start ∨ k = start + 1 := by omega
                  rcases cases with rfl | rfl
                  · exact first
                  · exact second)
              obtain ⟨nothing, waits⟩ := run_headless clean first waiting
              exact ⟨by simp [nothing], Or.inl waits⟩
          | false =>
              -- nothing of the frame arrives
              have silence : writtenBytes (commandCalls service start command)
                  = [] := by
                simp [writtenBytes_commandCalls, first, second, third]
              rw [silence]
              refine ⟨by simp [hidCalls], ?_⟩
              rcases resumable with waits | ⟨m, before, written, notEnd, silent⟩
              · exact Or.inl waits
              · refine Or.inr ⟨m, by omega, written, notEnd, ?_⟩
                intro k above below
                by_cases early : k < start
                · exact silent k above early
                · have cases : k = start ∨ k = start + 1 ∨ k = start + 2 := by
                    omega
                  rcases cases with rfl | rfl | rfl
                  · exact first
                  · exact second
                  · exact third
  | true =>
      cases second : (service (start + 1)).connected with
      | false =>
          cases third : (service (start + 2)).connected with
          | true =>
              exfalso
              have gap := gaps start (start + 2) (by omega) first third (by
                intro k above below
                rwa [show k = start + 1 by omega])
              omega
          | false =>
              have bytes : writtenBytes (commandCalls service start command)
                  = [[delimiter]].flatten := by
                simp [writtenBytes_commandCalls, first, second, third]
              rw [bytes, begun [[delimiter]] _ rfl (by simp) (by simp)]
              refine ⟨by simp, Or.inr ⟨start, by omega, first, by omega, ?_⟩⟩
              intro k above below
              have cases : k = start + 1 ∨ k = start + 2 := by omega
              rcases cases with rfl | rfl
              · exact second
              · exact third
      | true =>
          cases third : (service (start + 2)).connected with
          | false =>
              have bytes : writtenBytes (commandCalls service start command)
                  = [[delimiter], [command.letter]].flatten := by
                simp [writtenBytes_commandCalls, first, second, third]
              rw [bytes, begun [[delimiter], [command.letter]] _ rfl (by simp)
                (by simp)]
              refine ⟨by simp, Or.inr ⟨start + 1, by omega, second, by omega,
                ?_⟩⟩
              intro k above below
              rwa [show k = start + 2 by omega]
          | true =>
              have bytes : writtenBytes (commandCalls service start command)
                  = command.frame := by
                simp [writtenBytes_commandCalls, first, second, third,
                  Command.frame]
              obtain ⟨performed, waits⟩ := Command.run_frame clean dongle
              rw [bytes, hidCalls, performed]
              exact ⟨by simp [command.action_isHid], Or.inl waits⟩

/-- Over any number of outages, the dongle performs the whole commands. -/
theorem hidCalls_outages (gaps : CleanGaps service) {commands : List Command}
    (clean : ∀ command ∈ commands, command.Clean) {start : Nat}
    (aligned : start % 3 = 0) {dongle : Dongle}
    (resumable : Resumable service start dongle) :
    hidCalls .unsigned dongle
        (writtenBytes (callsFrom service start commands)) =
      (wholeCommands service start commands).map Command.action := by
  induction commands generalizing start dongle with
  | nil => rfl
  | cons command commands ih =>
      rw [List.forall_mem_cons] at clean
      obtain ⟨performed, next⟩ :=
        run_command gaps clean.1 aligned resumable
      rw [callsFrom, writtenBytes_append, hidCalls_append, performed,
        ih clean.2 (by omega) next, wholeCommands]
      split <;> rfl

/-- Commands without the delimiter in their payloads are issued by one thread to
a dongle that waits for a frame.  Any number of outages in its calls cost the
commands that they cut and cause no wrong action, as long as no connection
that was cut inside a frame is followed by one that begins inside a frame. -/
theorem outages_cost_cut_commands (gaps : CleanGaps service)
    {commands : List Command} (clean : ∀ command ∈ commands, command.Clean)
    {dispatcher : Dispatcher} (aligned : dispatcher.calls.length % 3 = 0)
    (mouseX mouseY : Int) :
    ∃ written,
      (issueAll service dispatcher commands).wire =
          dispatcher.wire ++ written ∧
        hidCalls .unsigned ⟨waitForStart, mouseX, mouseY⟩ written =
          (wholeCommands service dispatcher.calls.length commands).map
            Command.action :=
  ⟨_, issueAll_wire_eq dispatcher commands,
    hidCalls_outages gaps clean aligned (Or.inl rfl)⟩

/-- The calls 2, 6 and 7 are lost: of three keys the first lacks its payload
and the third its beginning. -/
def twoOutages : Service := fun n =>
  if n = 2 ∨ n = 6 ∨ n = 7 then ⟨.stateNone, .stateNone⟩
  else ⟨.stateConnected, .stateConnected⟩

theorem twoOutages_connected (n : Nat) :
    (twoOutages n).connected = true ↔ n ≠ 2 ∧ n ≠ 6 ∧ n ≠ 7 := by
  unfold twoOutages
  split
  · next isLost => exact iff_of_false (by decide) (by omega)
  · next arrives => exact iff_of_true rfl (by omega)

theorem outages_cost_two_keys :
    ∃ written,
      (issueAll twoOutages Dispatcher.initial
          [.key 97#8, .key 98#8, .key 99#8]).wire =
          Dispatcher.initial.wire ++ written ∧
        hidCalls .unsigned ⟨waitForStart, 0, 0⟩ written =
          (wholeCommands twoOutages Dispatcher.initial.calls.length
            [.key 97#8, .key 98#8, .key 99#8]).map Command.action := by
  apply outages_cost_cut_commands
  · intro m n apart written later lost
    have next := lost (m + 1) (by omega) apart
    rw [← Bool.not_eq_true, twoOutages_connected] at next
    rw [twoOutages_connected] at written
    by_cases ends : m % 3 = 2
    · exact Or.inl ends
    · have second : m = 1 := by omega
      have third : n = 3 := by
        by_contra beyond
        have silent := lost 3 (by omega) (by omega)
        rw [← Bool.not_eq_true, twoOutages_connected] at silent
        omega
      exact Or.inr (by omega)
  · simp [Command.Clean, Command.payload, delimiter]
  · rfl

/-- A link that is lost before the payload of a key and is back for the
payload of a movement types the x byte of the movement. -/
example : hidCalls .unsigned Dongle.initial
    (writtenBytes (callsFrom (fun n => if 2 ≤ n ∧ n < 5 then
        ⟨.stateNone, .stateNone⟩ else ⟨.stateConnected, .stateConnected⟩) 0
      [.key 97#8, .move 98#8 1#8 0#8])) = [.keyboardPrint 98#8] := by
  decide

end Outages

end MightyMouse
