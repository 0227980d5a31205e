import MightyMouse.WireRoundTrip
import Mathlib.Data.List.TakeWhile

/-!
# Sending a file

`SendFileTask.doInBackground` reads a file char by char and types each char as
it reads it.  The loop tests for the end of the file only after the value
returned by `read()` has been narrowed to a byte, and after that byte has been
sent.
-/

namespace MightyMouse

open DispatcherSingleton hiding delimiter

namespace SendFileTask

/-- The return codes of `doInBackground`. -/
inductive TaskResult
  | sentSuccessfully
  | exceptionCaught
  | userCanceled
  deriving DecidableEq, Repr

/-- What the task meets while it runs: whether the file is found, the chars
it holds, which calls throw, and when the cancel button is pressed.  Each pass
of the loop takes seven steps of the clock: `read`, `setKeyBytes`, three calls
of `sendByte`, `sleep` and the loop test. -/
structure FileRun where
  found : Bool
  text : List JavaChar
  readThrows : Nat → Bool
  sleepThrows : Nat → Bool
  closeThrows : Bool
  canceledAt : Option Nat

/-- The flag `canceled`, which is never taken back. -/
def FileRun.canceled (run : FileRun) (clock : Nat) : Bool :=
  run.canceledAt.any fun pressed => pressed ≤ clock

/-- The flag as the loop test of a pass sees it. -/
def FileRun.canceledInPass (run : FileRun) (pass : Nat) : Bool :=
  run.canceled (7 * pass + 6)

/-- The flag as the check after `fr.close()` sees it. -/
def FileRun.canceledAfter (run : FileRun) (passes : Nat) : Bool :=
  run.canceled (7 * passes + 1)

/-- The cast `(byte) fr.read()`. -/
def charToSend (value : Int) : Byte :=
  BitVec.ofInt 8 value

/-- Fill the key buffer with the value just read and send it. -/
def typeValue (service : Service) (dispatcher : Dispatcher) (value : Int) :
    Dispatcher :=
  sendKeyboard service (setKeyBytes dispatcher #v[charToSend value])

/-- The loop test `!canceled && charToSend != (int) -1`. -/
def goesOn (run : FileRun) (pass : Nat) (value : Int) : Bool :=
  !run.canceledInPass pass && (charToSend value).toInt != -1

/-- How the loop ended: the dispatcher, the values that `read()` returned, and
the number of passes made, or `none` if a call threw. -/
structure LoopEnd where
  dispatcher : Dispatcher
  reads : List Int
  passes : Option Nat

/-- The end of one pass: `rest` is the loop from the next pass on. -/
def finishPass (service : Service) (run : FileRun) (pass : Nat)
    (dispatcher : Dispatcher) (value : Int) (rest : Dispatcher → LoopEnd) :
    LoopEnd :=
  let sent := typeValue service dispatcher value
  if run.sleepThrows pass then ⟨sent, [value], none⟩
  else if goesOn run pass value then
    { rest sent with reads := value :: (rest sent).reads }
  else ⟨sent, [value], some (pass + 1)⟩

/-- The loop, given the chars not yet read.  At the end of the file `read()`
returns -1 as often as it is called; the loop test then fails, so that no
further pass is made. -/
def readLoop (service : Service) (run : FileRun) :
    List JavaChar → Nat → Dispatcher → LoopEnd
  | [], pass, dispatcher =>
      if run.readThrows pass then ⟨dispatcher, [], none⟩
      else finishPass service run pass dispatcher (-1) fun sent =>
        ⟨sent, [], none⟩
  | c :: unread, pass, dispatcher =>
      if run.readThrows pass then ⟨dispatcher, [], none⟩
      else finishPass service run pass dispatcher c.toNat
        (readLoop service run unread (pass + 1))

/-- A finished task. -/
structure TaskEnd where
  result : TaskResult
  dispatcher : Dispatcher
  reads : List Int

/-- All three exceptions are caught and reported alike. -/
def doInBackground (service : Service) (run : FileRun)
    (dispatcher : Dispatcher) : TaskEnd :=
  if !run.found then ⟨.exceptionCaught, dispatcher, []⟩
  else
    let loop := readLoop service run run.text 0 dispatcher
    match loop.passes with
    | none => ⟨.exceptionCaught, loop.dispatcher, loop.reads⟩
    | some passes =>
        if run.closeThrows then
          ⟨.exceptionCaught, loop.dispatcher, loop.reads⟩
        else if run.canceledAfter passes then
          ⟨.userCanceled, loop.dispatcher, loop.reads⟩
        else ⟨.sentSuccessfully, loop.dispatcher, loop.reads⟩

section Loop

variable {service : Service} {run : FileRun}

theorem charToSend_char (c : JavaChar) : charToSend c.toNat = lowByte c := by
  rw [charToSend, BitVec.ofInt_natCast, lowByte]
  apply BitVec.eq_of_toNat_eq
  simp

/-- The end-of-file value ends the loop. -/
@[simp]
theorem goesOn_endOfFile (pass : Nat) : goesOn run pass (-1) = false := by
  have narrowed : (charToSend (-1)).toInt = -1 := by decide
  simp [goesOn, narrowed]

theorem goesOn_char (pass : Nat) (c : JavaChar) :
    goesOn run pass c.toNat = true ↔
      run.canceledInPass pass = false ∧ lowByte c ≠ 0xFF#8 := by
  have narrowed : (lowByte c).toInt = -1 ↔ lowByte c = 0xFF#8 := by
    constructor
    · intro equal
      exact BitVec.eq_of_toInt_eq equal
    · intro equal
      rw [equal]
      rfl
  simp [goesOn, charToSend_char, narrowed]

/-- The commands that the values read are sent as. -/
def typed (reads : List Int) : List Command :=
  reads.map fun value => .key (charToSend value)

theorem finishPass_dispatcher {rest : Dispatcher → LoopEnd}
    (restTyped : ∀ sent, (rest sent).dispatcher =
      issueAll service sent (typed (rest sent).reads))
    (pass : Nat) (dispatcher : Dispatcher) (value : Int) :
    (finishPass service run pass dispatcher value rest).dispatcher =
      issueAll service dispatcher (typed
        (finishPass service run pass dispatcher value rest).reads) := by
  unfold finishPass
  split
  · rfl
  · split
    · exact restTyped _
    · rfl

/-- Whatever the loop reads, it types, and it types nothing else. -/
theorem readLoop_dispatcher (unread : List JavaChar) (pass : Nat)
    (dispatcher : Dispatcher) :
    (readLoop service run unread pass dispatcher).dispatcher =
      issueAll service dispatcher
        (typed (readLoop service run unread pass dispatcher).reads) := by
  induction unread generalizing pass dispatcher with
  | nil =>
      unfold readLoop
      split
      · rfl
      · exact finishPass_dispatcher (fun _ => rfl) _ _ _
  | cons c unread ih =>
      unfold readLoop
      split
      · rfl
      · exact finishPass_dispatcher (fun sent => ih (pass + 1) sent) _ _ _

/-- Whatever the task returns, it has done what the loop did. -/
theorem doInBackground_of_found (found : run.found = true)
    (dispatcher : Dispatcher) :
    (doInBackground service run dispatcher).dispatcher =
        (readLoop service run run.text 0 dispatcher).dispatcher ∧
      (doInBackground service run dispatcher).reads =
        (readLoop service run run.text 0 dispatcher).reads := by
  simp only [doInBackground, found, Bool.not_true, Bool.false_eq_true,
    if_false]
  split
  · exact ⟨rfl, rfl⟩
  · split
    · exact ⟨rfl, rfl⟩
    · split
      · exact ⟨rfl, rfl⟩
      · exact ⟨rfl, rfl⟩

theorem doInBackground_of_not_found (missing : run.found = false)
    (dispatcher : Dispatcher) :
    doInBackground service run dispatcher =
      ⟨.exceptionCaught, dispatcher, []⟩ := by
  simp [doInBackground, missing]

theorem doInBackground_dispatcher (dispatcher : Dispatcher) :
    (doInBackground service run dispatcher).dispatcher =
      issueAll service dispatcher
        (typed (doInBackground service run dispatcher).reads) := by
  cases found : run.found with
  | false =>
      rw [doInBackground_of_not_found found]
      rfl
  | true =>
      obtain ⟨sameDispatcher, sameReads⟩ :=
        doInBackground_of_found found dispatcher
      rw [sameDispatcher, sameReads, readLoop_dispatcher]

end Loop

section Success

/-- The passes made if nothing disturbs the loop: up to the first char with
low byte 255, or else up to the end of the file. -/
def passCount (text : List JavaChar) : Nat :=
  (text.takeWhile fun c => lowByte c != 0xFF#8).length + 1

/-- The values read in these passes. -/
def valuesRead (text : List JavaChar) : List Int :=
  (text.map (fun c : JavaChar => (c.toNat : Int)) ++ [-1]).take (passCount text)

theorem passCount_cons_of_eq {c : JavaChar} (stops : lowByte c = 0xFF#8)
    (text : List JavaChar) : passCount (c :: text) = 1 := by
  simp [passCount, stops]

theorem passCount_cons_of_ne {c : JavaChar} (goes : lowByte c ≠ 0xFF#8)
    (text : List JavaChar) :
    passCount (c :: text) = passCount text + 1 := by
  simp [passCount, goes]

variable {service : Service} {run : FileRun}

theorem canceled_mono {early late : Nat} (le : early ≤ late)
    (notCanceled : run.canceled late = false) :
    run.canceled early = false := by
  unfold FileRun.canceled at *
  cases pressed : run.canceledAt with
  | none => rfl
  | some time =>
      simp only [pressed, Option.any_some, decide_eq_false_iff_not] at *
      omega

/-- No call throws in the given passes. -/
def FileRun.Calm (run : FileRun) (first passes : Nat) : Prop :=
  ∀ pass, first ≤ pass → pass < first + passes →
    run.readThrows pass = false ∧ run.sleepThrows pass = false

theorem calm_succ_iff {first passes : Nat} :
    run.Calm first (passes + 1) ↔
      (run.readThrows first = false ∧ run.sleepThrows first = false) ∧
        run.Calm (first + 1) passes := by
  constructor
  · intro calm
    refine ⟨calm first (by omega) (by omega), ?_⟩
    intro pass above below
    exact calm pass (by omega) (by omega)
  · rintro ⟨here, later⟩ pass above below
    by_cases same : pass = first
    · rw [same]
      exact here
    · exact later pass (by omega) (by omega)

theorem readLoop_of_calm {unread : List JavaChar} {pass : Nat}
    (notCanceled : run.canceledAfter (pass + passCount unread) = false)
    (calm : run.Calm pass (passCount unread)) (dispatcher : Dispatcher) :
    (readLoop service run unread pass dispatcher).reads =
        valuesRead unread ∧
      (readLoop service run unread pass dispatcher).passes =
        some (pass + passCount unread) := by
  induction unread generalizing pass dispatcher with
  | nil =>
      obtain ⟨⟨readOk, sleepOk⟩, _⟩ := calm_succ_iff.mp calm
      simp [readLoop, finishPass, readOk, sleepOk, valuesRead, passCount]
  | cons c unread ih =>
      by_cases stops : lowByte c = 0xFF#8
      · rw [passCount_cons_of_eq stops] at calm
        obtain ⟨⟨readOk, sleepOk⟩, _⟩ := calm_succ_iff.mp calm
        have stop : goesOn run pass c.toNat = false := by
          rw [Bool.eq_false_iff, ne_eq, goesOn_char]
          exact fun goes => goes.2 stops
        simp [readLoop, finishPass, readOk, sleepOk, valuesRead,
          passCount_cons_of_eq stops, stop]
      · rw [passCount_cons_of_ne stops] at calm notCanceled
        obtain ⟨⟨readOk, sleepOk⟩, later⟩ := calm_succ_iff.mp calm
        have goes : goesOn run pass c.toNat = true := by
          rw [goesOn_char]
          exact ⟨canceled_mono (by omega) notCanceled, stops⟩
        have next : pass + (passCount unread + 1) =
            pass + 1 + passCount unread := by omega
        rw [next] at notCanceled
        obtain ⟨reads, passes⟩ :=
          ih notCanceled later (typeValue service dispatcher c.toNat)
        simp [readLoop, finishPass, readOk, sleepOk, goes, reads, passes,
          valuesRead, passCount_cons_of_ne stops, next]

theorem finishPass_passes {pass passes : Nat} {dispatcher : Dispatcher}
    {value : Int} {rest : Dispatcher → LoopEnd}
    (finished : (finishPass service run pass dispatcher value rest).passes =
      some passes) :
    run.sleepThrows pass = false ∧
      if goesOn run pass value then
        (rest (typeValue service dispatcher value)).passes = some passes
      else passes = pass + 1 := by
  unfold finishPass at finished
  dsimp only at finished
  split at finished
  · cases finished
  · next awake =>
      refine ⟨by simpa using awake, ?_⟩
      split at finished
      · next goes => rwa [if_pos goes]
      · next stops =>
          rw [if_neg stops]
          exact (Option.some.inj finished).symm

theorem calm_one {pass : Nat} (readOk : run.readThrows pass = false)
    (sleepOk : run.sleepThrows pass = false) : run.Calm pass 1 :=
  calm_succ_iff.mpr ⟨⟨readOk, sleepOk⟩, fun _ _ _ => by omega⟩

/-- A loop that is left in the regular way, with the flag unset, has made all
its passes. -/
theorem calm_of_readLoop {unread : List JavaChar} {pass passes : Nat}
    {dispatcher : Dispatcher}
    (finished : (readLoop service run unread pass dispatcher).passes =
      some passes)
    (notCanceled : run.canceledAfter passes = false) :
    passes = pass + passCount unread ∧
      run.Calm pass (passCount unread) := by
  induction unread generalizing pass dispatcher with
  | nil =>
      unfold readLoop at finished
      split at finished
      · cases finished
      · next readOk =>
          obtain ⟨sleepOk, last⟩ := finishPass_passes finished
          rw [goesOn_endOfFile] at last
          exact ⟨last, calm_one (by simpa using readOk) sleepOk⟩
  | cons c unread ih =>
      unfold readLoop at finished
      split at finished
      · cases finished
      · next readOk =>
          rw [Bool.not_eq_true] at readOk
          obtain ⟨sleepOk, last⟩ := finishPass_passes finished
          split at last
          · next goes =>
              rw [goesOn_char] at goes
              obtain ⟨total, later⟩ := ih last
              rw [passCount_cons_of_ne goes.2]
              exact ⟨by omega, calm_succ_iff.mpr ⟨⟨readOk, sleepOk⟩, later⟩⟩
          · next stops =>
              have unset : run.canceledInPass pass = false :=
                canceled_mono (by omega) notCanceled
              have low : lowByte c = 0xFF#8 := by
                by_contra other
                exact stops ((goesOn_char pass c).mpr ⟨unset, other⟩)
              rw [passCount_cons_of_eq low]
              exact ⟨last, calm_one readOk sleepOk⟩

/-- Nothing keeps the task from reporting success: the file is found, no call
throws while it is read and closed, and the cancel button is not pressed
before the last check. -/
structure FileRun.Undisturbed (run : FileRun) : Prop where
  found : run.found = true
  calm : run.Calm 0 (passCount run.text)
  closes : run.closeThrows = false
  notCanceled : run.canceledAfter (passCount run.text) = false

theorem doInBackground_of_undisturbed (undisturbed : run.Undisturbed)
    (dispatcher : Dispatcher) :
    (doInBackground service run dispatcher).result = .sentSuccessfully ∧
      (doInBackground service run dispatcher).reads =
        valuesRead run.text := by
  have notCanceled := undisturbed.notCanceled
  have loop : (readLoop service run run.text 0 dispatcher).reads = _ ∧ _ :=
    readLoop_of_calm (by simpa using notCanceled) undisturbed.calm dispatcher
  obtain ⟨reads, passes⟩ := loop
  rw [Nat.zero_add] at passes
  simp [doInBackground, undisturbed.found, passes, undisturbed.closes,
    notCanceled, reads]

/-- The task reports success exactly if nothing disturbs it. -/
theorem sentSuccessfully_iff (dispatcher : Dispatcher) :
    (doInBackground service run dispatcher).result = .sentSuccessfully ↔
      run.Undisturbed := by
  constructor
  · intro success
    unfold doInBackground at success
    split at success
    · cases success
    · next found =>
        dsimp only at success
        split at success
        · cases success
        · next passes finished =>
            split at success
            · cases success
            · next closes =>
                split at success
                · cases success
                · next notCanceled =>
                    rw [Bool.not_eq_true] at closes notCanceled
                    obtain ⟨total, calm⟩ :=
                      calm_of_readLoop finished notCanceled
                    rw [Nat.zero_add] at total
                    rw [total] at notCanceled
                    exact ⟨by simpa using found, calm, closes, notCanceled⟩
  · intro undisturbed
    exact (doInBackground_of_undisturbed undisturbed dispatcher).1

end Success

section Complete

variable {service : Service} {run : FileRun}

theorem valuesRead_of_clean {text : List JavaChar}
    (clean : ∀ c ∈ text, lowByte c ≠ 0xFF#8) :
    valuesRead text =
      text.map (fun c : JavaChar => (c.toNat : Int)) ++ [-1] := by
  have all : text.takeWhile (fun c => lowByte c != 0xFF#8) = text := by
    rw [List.takeWhile_eq_self_iff]
    intro c member
    simpa using clean c member
  rw [valuesRead, passCount, all]
  apply List.take_of_length_le
  simp

/-- Before the end of the file every value read is a char. -/
theorem valuesRead_nonneg {text : List JavaChar} {stop : JavaChar}
    (member : stop ∈ text) (stops : lowByte stop = 0xFF#8) {value : Int}
    (read : value ∈ valuesRead text) : 0 ≤ value := by
  have shorter : passCount text ≤ text.length := by
    have prefixed := List.takeWhile_prefix
      (l := text) fun c : JavaChar => lowByte c != 0xFF#8
    by_contra long
    have whole := prefixed.eq_of_length_le
      (by unfold passCount at long; omega)
    rw [List.takeWhile_eq_self_iff] at whole
    simpa [stops] using whole stop member
  rw [valuesRead, List.take_append_of_le_length (by simpa using shorter)]
    at read
  obtain ⟨c, _, isChar⟩ := List.mem_map.mp (List.mem_of_mem_take read)
  omega

/-- The last value read is that of the end of the file exactly if no char is
taken for it. -/
theorem getLast_valuesRead_iff (text : List JavaChar) :
    (valuesRead text).getLast? = some (-1) ↔
      ∀ c ∈ text, lowByte c ≠ 0xFF#8 := by
  constructor
  · intro last c member stops
    have nonneg := valuesRead_nonneg member stops
      (List.mem_of_getLast? last)
    omega
  · intro clean
    rw [valuesRead_of_clean clean, List.getLast?_concat]

/-- The frames that the chars of a text are typed with. -/
def textFrames (text : List JavaChar) : List Byte :=
  text.flatMap fun c => (Command.key (lowByte c)).frame

theorem frames_typed_of_clean {text : List JavaChar}
    (clean : ∀ c ∈ text, lowByte c ≠ 0xFF#8) :
    (typed (valuesRead text)).flatMap Command.frame =
      textFrames text ++ (Command.key 0xFF#8).frame := by
  have eof : charToSend (-1) = 0xFF#8 := by decide
  rw [valuesRead_of_clean clean]
  simp [typed, textFrames, List.flatMap_map, charToSend_char, eof]

/-- A task that reports success has read up to the end of the file, and has
typed all of it, exactly if no char of the file has a low byte of 255. -/
theorem typed_to_endOfFile_iff {dispatcher : Dispatcher}
    (connected : ∀ n, dispatcher.calls.length ≤ n →
      (service n).connected = true) :
    ((doInBackground service run dispatcher).result = .sentSuccessfully ↔
        run.Undisturbed) ∧
      ((doInBackground service run dispatcher).result = .sentSuccessfully →
        ((doInBackground service run dispatcher).reads.getLast? =
              some (-1) ∧
            dispatcher.wire ++ textFrames run.text <+:
              (doInBackground service run dispatcher).dispatcher.wire ↔
          ∀ c ∈ run.text, c.toNat % 256 ≠ 255)) := by
  refine ⟨sentSuccessfully_iff dispatcher, fun success => ?_⟩
  have reads : (doInBackground service run dispatcher).reads = _ :=
    (doInBackground_of_undisturbed
      ((sentSuccessfully_iff dispatcher).mp success) dispatcher).2
  have low : (∀ c ∈ run.text, c.toNat % 256 ≠ 255) ↔
      ∀ c ∈ run.text, lowByte c ≠ 0xFF#8 := by
    simp only [ne_eq, lowByte_eq_delimiter_iff]
  rw [doInBackground_dispatcher, issueAll_wire connected, reads,
    getLast_valuesRead_iff, low]
  constructor
  · exact fun complete => complete.1
  · intro clean
    refine ⟨clean, ?_⟩
    rw [frames_typed_of_clean clean, ← List.append_assoc]
    exact List.prefix_append _ _

/-- A file that is read, closed and typed without any disturbance. -/
def FileRun.plain (text : List JavaChar) : FileRun where
  found := true
  text := text
  readThrows := fun _ => false
  sleepThrows := fun _ => false
  closeThrows := false
  canceledAt := none

theorem undisturbed_plain (text : List JavaChar) :
    (FileRun.plain text).Undisturbed :=
  ⟨rfl, fun _ _ _ => ⟨rfl, rfl⟩, rfl, rfl⟩

/-- The file `hi` is typed as a whole. -/
theorem typed_to_endOfFile_hi :
    (doInBackground alwaysConnected (.plain [104#16, 105#16])
        Dispatcher.initial).reads.getLast? = some (-1) ∧
      Dispatcher.initial.wire ++ textFrames [104#16, 105#16] <+:
        (doInBackground alwaysConnected (.plain [104#16, 105#16])
          Dispatcher.initial).dispatcher.wire := by
  have connected : ∀ n, Dispatcher.initial.calls.length ≤ n →
      (alwaysConnected n).connected = true := fun _ _ => rfl
  have success : (doInBackground alwaysConnected (.plain [104#16, 105#16])
      Dispatcher.initial).result = .sentSuccessfully :=
    (sentSuccessfully_iff _).mpr (undisturbed_plain _)
  have clean : ∀ c ∈ (FileRun.plain [104#16, 105#16]).text,
      c.toNat % 256 ≠ 255 := by
    simp [FileRun.plain]
  exact ((typed_to_endOfFile_iff connected).2 success).mpr clean

/-- Of the file `aÿb`, the char `b` is never read, and the task reports
success. -/
theorem cut_off_after_ydiaeresis :
    (doInBackground alwaysConnected (.plain [97#16, 255#16, 98#16])
        Dispatcher.initial).result = .sentSuccessfully ∧
      (doInBackground alwaysConnected (.plain [97#16, 255#16, 98#16])
        Dispatcher.initial).reads = [97, 255] ∧
      ¬ ((doInBackground alwaysConnected (.plain [97#16, 255#16, 98#16])
            Dispatcher.initial).reads.getLast? = some (-1) ∧
          Dispatcher.initial.wire ++ textFrames [97#16, 255#16, 98#16] <+:
            (doInBackground alwaysConnected
              (.plain [97#16, 255#16, 98#16])
              Dispatcher.initial).dispatcher.wire) := by
  decide +kernel

end Complete

end SendFileTask

end MightyMouse
