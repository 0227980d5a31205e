import MightyMouse.SendFileTask
import MightyMouse.TrackPad

/-!
# The delimiter among the payload bytes

The protocol comment of the dispatcher calls 255 a value that is never passed.
This file determines, for each producer of payload bytes, when that is so:
the track pad, strings and files.
-/

namespace MightyMouse

namespace DispatcherSingleton

variable {service : Service}

/-- No payload array handed to `sendByte` so far contained the delimiter. -/
def Dispatcher.PayloadClean (dispatcher : Dispatcher) : Prop :=
  ∀ call ∈ dispatcher.calls, call.buffer.isPayload = true →
    SerialProtocol.delimiter ∉ call.toSend

instance (dispatcher : Dispatcher) : Decidable dispatcher.PayloadClean :=
  inferInstanceAs (Decidable (∀ call ∈ dispatcher.calls,
    call.buffer.isPayload = true → SerialProtocol.delimiter ∉ call.toSend))

theorem payloadClean_sendFrame_iff {kind payload : Buffer}
    (kindPlain : kind.isPayload = false)
    (payloadFilled : payload.isPayload = true) (dispatcher : Dispatcher) :
    (sendFrame service kind payload dispatcher).PayloadClean ↔
      dispatcher.PayloadClean ∧
        SerialProtocol.delimiter ∉ dispatcher.contents payload := by
  have delimiterPlain : Buffer.delimiter.isPayload = false := rfl
  unfold Dispatcher.PayloadClean
  rw [sendFrame_eq]
  simp only [List.forall_mem_append, frameCalls, List.forall_mem_cons,
    kindPlain, payloadFilled, delimiterPlain]
  simp

theorem payloadClean_issue_iff (dispatcher : Dispatcher)
    (command : Command) :
    (issue service dispatcher command).PayloadClean ↔
      dispatcher.PayloadClean ∧ command.Clean := by
  cases command with
  | key k =>
      rw [issue, sendKeyboard, payloadClean_sendFrame_iff rfl rfl,
        setKeyBytes, copyBytes_eq]
      rfl
  | move x y s =>
      rw [issue, sendMouse, payloadClean_sendFrame_iff rfl rfl,
        setMouseBytes, copyBytes_eq]
      rfl
  | click c =>
      rw [issue, sendClick, payloadClean_sendFrame_iff rfl rfl,
        setClickBytes, copyBytes_eq]
      rfl

theorem payloadClean_issueAll_iff (dispatcher : Dispatcher)
    (commands : List Command) :
    (issueAll service dispatcher commands).PayloadClean ↔
      dispatcher.PayloadClean ∧ ∀ command ∈ commands, command.Clean := by
  induction commands generalizing dispatcher with
  | nil => simp [issueAll]
  | cons command commands ih =>
      change (issueAll service (issue service dispatcher command)
        commands).PayloadClean ↔ _
      rw [ih, payloadClean_issue_iff, List.forall_mem_cons, and_assoc]

theorem clean_key_iff (k : Byte) : (Command.key k).Clean ↔ k ≠ 0xFF#8 := by
  rw [Command.Clean, Command.payload, List.mem_singleton]
  exact not_congr eq_comm

/-- The fixed commands never hold the delimiter. -/
theorem payloadClean_fixed_iff (dispatcher : Dispatcher) :
    ((sendLeftClick service dispatcher).PayloadClean ↔
        dispatcher.PayloadClean) ∧
      ((sendRightClick service dispatcher).PayloadClean ↔
        dispatcher.PayloadClean) ∧
      ((sendDelete service dispatcher).PayloadClean ↔
        dispatcher.PayloadClean) ∧
      ((sendEnter service dispatcher).PayloadClean ↔
        dispatcher.PayloadClean) := by
  have fixed {command : Command} (clean : command.Clean) :
      (issue service dispatcher command).PayloadClean ↔
        dispatcher.PayloadClean := by
    rw [payloadClean_issue_iff, and_iff_left clean]
  have left : (Command.click (byteOf 'L')).Clean := by decide
  have right : (Command.click (byteOf 'R')).Clean := by decide
  have delete : (Command.key 178#8).Clean := by decide
  have enter : (Command.key 176#8).Clean := by decide
  exact ⟨fixed left, fixed right, fixed delete, fixed enter⟩

/-- Strings: exactly the chars that are 255 modulo 256 are sent as the
delimiter. -/
theorem payloadClean_sendString_iff (dispatcher : Dispatcher)
    (message : List JavaChar) :
    (sendString service dispatcher message).PayloadClean ↔
      dispatcher.PayloadClean ∧ ∀ c ∈ message, c.toNat % 256 ≠ 255 := by
  rw [sendString_eq_issueAll, payloadClean_issueAll_iff, List.forall_mem_map]
  simp only [clean_key_iff, ne_eq, lowByte_eq_delimiter_iff]

end DispatcherSingleton

namespace TrackPad

open DispatcherSingleton hiding delimiter

variable {fl : Rat → Rat} {service : Service}

/-- Neither a payload sent so far nor the one about to be sent contains the
delimiter. -/
def System.Clean (system : System) : Prop :=
  system.dispatcher.PayloadClean ∧
    ∀ info, system.sender = .sending info → system.pad.mChat = true →
      SerialProtocol.delimiter ∉ info.toList

/-- A total that is not rounded to -1. -/
def SafeTotal (total : Rat) : Prop :=
  total < -3 / 2 ∨ 0 ≤ total

/-- The sender does not read a total that is sent as the delimiter. -/
def SafeTick (system : System) (label : Step) : Prop :=
  label = .read → system.pad.mChat = true →
    SafeTotal system.pad.mRunningTotalX ∧ SafeTotal system.pad.mRunningTotalY

theorem velByte_bump_ne_delimiter_iff (total : Rat) :
    velByte (bump total) ≠ 0xFF#8 ↔ SafeTotal total := by
  rw [ne_eq, velByte_bump_eq_delimiter_iff, not_and_or, not_le, not_lt]
  rfl

theorem delimiter_not_mem_mouseInfo_iff (pad : Pad) :
    SerialProtocol.delimiter ∉ (mouseInfo (readTotals pad)).toList ↔
      SafeTotal pad.mRunningTotalX ∧ SafeTotal pad.mRunningTotalY := by
  rw [← velByte_bump_ne_delimiter_iff, ← velByte_bump_ne_delimiter_iff]
  have bytes : (mouseInfo (readTotals pad)).toList =
      [velByte (bump pad.mRunningTotalX), velByte (bump pad.mRunningTotalY),
        0#8] := rfl
  have zero : SerialProtocol.delimiter ≠ 0#8 := by decide
  rw [bytes, List.mem_cons, List.mem_cons, List.mem_singleton, not_or, not_or]
  constructor
  · intro distinct
    exact ⟨Ne.symm distinct.1, Ne.symm distinct.2.1⟩
  · intro distinct
    exact ⟨Ne.symm distinct.1, Ne.symm distinct.2, zero⟩

theorem payloadClean_relay_iff (pad : Pad) (dispatcher : Dispatcher)
    (info : Vector Byte numMouseBytes) :
    (relay service pad dispatcher info).PayloadClean ↔
      dispatcher.PayloadClean ∧
        (pad.mChat = true → SerialProtocol.delimiter ∉ info.toList) := by
  cases present : pad.mChat with
  | true =>
      rw [relay, if_pos present, sendMouse,
        payloadClean_sendFrame_iff rfl rfl, setMouseBytes, copyBytes_eq]
      simp only [forall_true_left]
      rfl
  | false =>
      rw [relay, present]
      simp only [Bool.false_eq_true, if_false, false_implies, and_true]
      rfl

theorem touch_mChat (pad : Pad) (event : MotionEvent) :
    (onTouchEvent fl pad event).mChat = pad.mChat := by
  have folded (history : List Sample) (before : Pad) :
      (history.foldl (addSample fl) before).mChat = before.mChat := by
    induction history generalizing before with
    | nil => rfl
    | cons sample history ih => exact ih _
  cases event with
  | actionMove history sample => exact folded history pad
  | _ => rfl

theorem clean_iff_of_not_sending {system : System}
    (idle : ∀ info, system.sender ≠ .sending info) :
    system.Clean ↔ system.dispatcher.PayloadClean := by
  constructor
  · intro clean
    exact clean.1
  · intro clean
    exact ⟨clean, fun info sending => absurd sending (idle info)⟩

theorem clean_iff_of_sending {system : System}
    {info : Vector Byte numMouseBytes}
    (sending : system.sender = .sending info) :
    system.Clean ↔ system.dispatcher.PayloadClean ∧
      (system.pad.mChat = true → SerialProtocol.delimiter ∉ info.toList) := by
  simp [System.Clean, sending]

theorem safeTick_of_ne_read {system : System} {label : Step}
    (other : label ≠ .read) : SafeTick system label :=
  fun same => absurd same other

/-- Each step of the track pad keeps the payloads clean exactly if it does
not read an unsafe total. -/
theorem clean_step_iff {system next : System} {label : Step}
    (taken : step fl service system label = some next) :
    next.Clean ↔ system.Clean ∧ SafeTick system label := by
  cases label with
  | touch event =>
      cases taken
      rw [and_iff_left (safeTick_of_ne_read (by simp))]
      simp only [System.Clean, touch_mChat]
  | stopSendingThread =>
      cases taken
      rw [and_iff_left (safeTick_of_ne_read (by simp))]
      rfl
  | test =>
      rw [and_iff_left (safeTick_of_ne_read (by simp))]
      simp only [step] at taken
      split at taken
      · next testing =>
          have idle : ∀ info, system.sender ≠ .sending info := by
            simp [testing]
          rw [clean_iff_of_not_sending idle]
          split at taken
          · cases taken
            exact clean_iff_of_not_sending (by simp)
          · split at taken
            · cases taken
              exact clean_iff_of_not_sending (by simp)
            · cases taken
              exact clean_iff_of_not_sending idle
      · cases taken
  | read =>
      simp only [step] at taken
      split at taken
      · next reading =>
          have idle : ∀ info, system.sender ≠ .sending info := by
            simp [reading]
          cases taken
          rw [clean_iff_of_sending rfl, delimiter_not_mem_mouseInfo_iff,
            clean_iff_of_not_sending idle]
          simp [SafeTick, readTotals]
      · cases taken
  | send =>
      rw [and_iff_left (safeTick_of_ne_read (by simp))]
      simp only [step] at taken
      split at taken
      · next info sending =>
          cases taken
          rw [clean_iff_of_not_sending (by simp), payloadClean_relay_iff,
            clean_iff_of_sending sending]
      · cases taken
  | reset =>
      rw [and_iff_left (safeTick_of_ne_read (by simp))]
      simp only [step] at taken
      split at taken
      · next resetting =>
          have idle : ∀ info, system.sender ≠ .sending info := by
            simp [resetting]
          cases taken
          rw [clean_iff_of_not_sending (by simp),
            clean_iff_of_not_sending idle]
      · cases taken

/-- Along a run, the payloads sent and about to be sent are clean exactly if
every tick reads safe totals. -/
theorem clean_run_iff {start last : System} {labels : List Step}
    (run : LabelledRun.follow (step fl service) start labels = some last) :
    last.Clean ↔ start.Clean ∧
      LabelledRun.EveryStep (step fl service)
        (fun system label _ => SafeTick system label) start labels :=
  LabelledRun.holds_iff_everyStep _
    (fun _ _ _ taken => clean_step_iff taken) run

end TrackPad

namespace SendFileTask

open DispatcherSingleton hiding delimiter

variable {service : Service} {run : FileRun}

/-- The loop is stopped by an exception or by the cancel button after some
number of passes, before it comes to the end of the file or to a char that is
taken for it. -/
def FileRun.StopsEarly (run : FileRun) (unread : List JavaChar)
    (pass : Nat) : Prop :=
  ∃ passes ≤ unread.length,
    (∀ c ∈ unread.take passes, c.toNat % 256 ≠ 255) ∧
      (run.readThrows (pass + passes) = true ∨
        ∃ previous, passes = previous + 1 ∧
          (run.sleepThrows (pass + previous) = true ∨
            run.canceledInPass (pass + previous) = true))

theorem stopsEarly_nil_iff (pass : Nat) :
    run.StopsEarly [] pass ↔ run.readThrows pass = true := by
  constructor
  · rintro ⟨passes, bound, _, stops | ⟨previous, rfl, _⟩⟩
    · have none : passes = 0 := by simpa using bound
      rwa [none] at stops
    · simp at bound
  · intro throws
    exact ⟨0, by simp, by simp, .inl throws⟩

theorem stopsEarly_cons_iff (c : JavaChar) (unread : List JavaChar)
    (pass : Nat) :
    run.StopsEarly (c :: unread) pass ↔
      run.readThrows pass = true ∨
        c.toNat % 256 ≠ 255 ∧
          (run.sleepThrows pass = true ∨ run.canceledInPass pass = true ∨
            run.StopsEarly unread (pass + 1)) := by
  constructor
  · rintro ⟨passes, bound, clean, stops⟩
    cases passes with
    | zero =>
        rcases stops with throws | ⟨previous, absurdity, _⟩
        · exact .inl throws
        · omega
    | succ passes =>
        rw [List.take_succ_cons, List.forall_mem_cons] at clean
        refine .inr ⟨clean.1, ?_⟩
        have rest : passes ≤ unread.length := by simpa using bound
        rcases stops with throws | ⟨previous, same, stopped⟩
        · have next : pass + (passes + 1) = pass + 1 + passes := by omega
          rw [next] at throws
          exact .inr (.inr ⟨passes, rest, clean.2, .inl throws⟩)
        · obtain rfl : passes = previous := by omega
          cases passes with
          | zero => exact stopped.imp_right .inl
          | succ earlier =>
              have next : pass + (earlier + 1) = pass + 1 + earlier := by
                omega
              rw [next] at stopped
              exact .inr (.inr ⟨earlier + 1, rest, clean.2,
                .inr ⟨earlier, rfl, stopped⟩⟩)
  · rintro (throws | ⟨clean, sleeps | canceled | ⟨passes, bound, rest, stops⟩⟩)
    · exact ⟨0, by simp, by simp, .inl throws⟩
    · exact ⟨1, by simp, by simpa using clean, .inr ⟨0, rfl, .inl sleeps⟩⟩
    · exact ⟨1, by simp, by simpa using clean, .inr ⟨0, rfl, .inr canceled⟩⟩
    · refine ⟨passes + 1, by simpa using bound, ?_, ?_⟩
      · rw [List.take_succ_cons, List.forall_mem_cons]
        exact ⟨clean, rest⟩
      · rcases stops with throws | ⟨previous, rfl, stopped⟩
        · have next : pass + (passes + 1) = pass + 1 + passes := by omega
          rw [next]
          exact .inl throws
        · have next : pass + (previous + 1) = pass + 1 + previous := by omega
          exact .inr ⟨previous + 1, rfl, by rwa [next]⟩

theorem finishPass_reads (pass : Nat) (dispatcher : Dispatcher) (value : Int)
    (rest : Dispatcher → LoopEnd) :
    (finishPass service run pass dispatcher value rest).reads =
      value :: if run.sleepThrows pass = false ∧ goesOn run pass value = true
        then (rest (typeValue service dispatcher value)).reads else [] := by
  unfold finishPass
  dsimp only
  split
  · next throws => simp [throws]
  · next awake =>
      split
      · next goes => simp [awake, goes]
      · next stops => simp [stops]

/-- The loop sends no delimiter as a payload exactly if it is stopped
early. -/
theorem readLoop_clean_iff (unread : List JavaChar) (pass : Nat)
    (dispatcher : Dispatcher) :
    (∀ value ∈ (readLoop service run unread pass dispatcher).reads,
        charToSend value ≠ 0xFF#8) ↔ run.StopsEarly unread pass := by
  induction unread generalizing pass dispatcher with
  | nil =>
      have eof : charToSend (-1) = 0xFF#8 := by decide
      rw [stopsEarly_nil_iff]
      unfold readLoop
      split
      · next throws => simp [throws]
      · next reads => simp [finishPass_reads, eof, reads]
  | cons c unread ih =>
      rw [stopsEarly_cons_iff]
      unfold readLoop
      split
      · next throws => simp [throws]
      · next reads =>
          rw [finishPass_reads, List.forall_mem_cons, charToSend_char]
          simp only [goesOn_char, ne_eq, lowByte_eq_delimiter_iff]
          by_cases clean : c.toNat % 256 = 255
          · simp [clean, reads]
          · cases sleeps : run.sleepThrows pass with
            | true => simp [clean]
            | false =>
                cases canceled : run.canceledInPass pass with
                | true => simp [clean]
                | false => simp [clean, reads, ih]

/-- Files: the end of a file is always sent as the delimiter. -/
theorem payloadClean_doInBackground_iff (dispatcher : Dispatcher) :
    (doInBackground service run dispatcher).dispatcher.PayloadClean ↔
      dispatcher.PayloadClean ∧
        (run.found = false ∨ run.StopsEarly run.text 0) := by
  rw [doInBackground_dispatcher, payloadClean_issueAll_iff, typed,
    List.forall_mem_map]
  simp only [clean_key_iff]
  cases found : run.found with
  | false => simp [doInBackground_of_not_found found]
  | true =>
      rw [(doInBackground_of_found found dispatcher).2, readLoop_clean_iff]
      simp

end SendFileTask

section Producers

open DispatcherSingleton hiding delimiter

/-- When the delimiter is never handed to `sendByte` as a payload byte: the
track pad must not read a total from -3/2 up to zero, a string must not hold
a char that is 255 modulo 256, and a file must be missing or the task stopped
before it comes to such a char or to the end of the file.  Clicks, Delete and
Enter are always sent without it. -/
theorem delimiter_not_payload_iff (service : Service) :
    (∀ (fl : Rat → Rat) (start last : TrackPad.System)
        (labels : List TrackPad.Step), start.sender = .testing →
      start.dispatcher.PayloadClean →
      LabelledRun.follow (TrackPad.step fl service) start labels =
        some last →
      (LabelledRun.EveryStep (TrackPad.step fl service)
          (fun system label _ => TrackPad.SafeTick system label) start labels →
        last.dispatcher.PayloadClean) ∧
      ((∀ info, last.sender ≠ .sending info) →
        last.dispatcher.PayloadClean →
        LabelledRun.EveryStep (TrackPad.step fl service)
          (fun system label _ => TrackPad.SafeTick system label) start
          labels)) ∧
    (∀ (dispatcher : Dispatcher) (message : List JavaChar),
      (sendString service dispatcher message).PayloadClean ↔
        dispatcher.PayloadClean ∧ ∀ c ∈ message, c.toNat % 256 ≠ 255) ∧
    (∀ (dispatcher : Dispatcher) (run : SendFileTask.FileRun),
      (SendFileTask.doInBackground service run
          dispatcher).dispatcher.PayloadClean ↔
        dispatcher.PayloadClean ∧
          (run.found = false ∨ run.StopsEarly run.text 0)) ∧
    ∀ dispatcher : Dispatcher,
      ((sendLeftClick service dispatcher).PayloadClean ↔
          dispatcher.PayloadClean) ∧
        ((sendRightClick service dispatcher).PayloadClean ↔
          dispatcher.PayloadClean) ∧
        ((sendDelete service dispatcher).PayloadClean ↔
          dispatcher.PayloadClean) ∧
        ((sendEnter service dispatcher).PayloadClean ↔
          dispatcher.PayloadClean) := by
  refine ⟨?_, payloadClean_sendString_iff,
    fun dispatcher _ => SendFileTask.payloadClean_doInBackground_iff dispatcher,
    payloadClean_fixed_iff⟩
  intro fl start last labels testing startClean run
  have idle : ∀ info, start.sender ≠ .sending info := by
    simp [testing]
  have clean := TrackPad.clean_run_iff run
  rw [TrackPad.clean_iff_of_not_sending idle, and_iff_right startClean]
    at clean
  constructor
  · intro safe
    exact (clean.mpr safe).1
  · intro complete lastClean
    exact clean.mp ((TrackPad.clean_iff_of_not_sending complete).mpr lastClean)

/-- The finger is put down and moved by the given distances before the
sender makes one pass. -/
def dragAndTick (x y : Rat) : List TrackPad.Step :=
  [.touch (.actionDown ⟨0, 0, 1⟩), .touch (.actionMove [] ⟨x, y, 2⟩), .test,
    .read, .send, .reset]

/-- A movement to the right and up is sent without the delimiter. -/
theorem drag_up_sends_no_delimiter :
    ∃ last,
      LabelledRun.follow (TrackPad.step id alwaysConnected)
          (.initial true .initial) (dragAndTick 3 (-4)) = some last ∧
        last.dispatcher.PayloadClean := by
  obtain ⟨last, run⟩ : ∃ last,
      LabelledRun.follow (TrackPad.step id alwaysConnected)
        (.initial true .initial) (dragAndTick 3 (-4)) = some last :=
    Option.isSome_iff_exists.mp (by decide +kernel)
  refine ⟨last, run,
    ((delimiter_not_payload_iff alwaysConnected).1 id _ last _
      rfl (by decide) run).1 ?_⟩
  simp [LabelledRun.EveryStep, dragAndTick, TrackPad.step,
    TrackPad.SafeTick, TrackPad.SafeTotal, TrackPad.System.initial,
    TrackPad.Pad.initial, TrackPad.onTouchEvent, TrackPad.addSample]
  norm_num

/-- A movement by one to the left, the string `ÿ` and the empty file are all
sent with the delimiter in a payload. -/
theorem delimiter_sent_as_payload :
    (LabelledRun.follow (TrackPad.step id alwaysConnected)
        (.initial true .initial) (dragAndTick (-1) 0)).map
          (fun last => decide last.dispatcher.PayloadClean) = some false ∧
      ¬ (sendString alwaysConnected .initial
          [255#16]).PayloadClean ∧
      ¬ (SendFileTask.doInBackground alwaysConnected (.plain [])
          .initial).dispatcher.PayloadClean := by
  decide +kernel

end Producers

end MightyMouse
