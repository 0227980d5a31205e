import MightyMouse.SendFileTask

/-!
# Cancelling a file

The cancel button sets a flag that the file task reads once in each pass, at
the loop test, and once more after it has closed the file.  The button may be
pressed between any two steps of the task.
-/

namespace MightyMouse

namespace DispatcherSingleton

/-- The key payloads handed to `sendByte` so far. -/
def Dispatcher.sentKeys (dispatcher : Dispatcher) : List Byte :=
  dispatcher.keyCalls.flatMap SendByteCall.toSend

theorem sentKeys_issueAll {service : Service} (dispatcher : Dispatcher)
    (keys : List Byte) :
    (issueAll service dispatcher (keys.map .key)).sentKeys =
      dispatcher.sentKeys ++ keys := by
  induction keys generalizing dispatcher with
  | nil => simp [issueAll]
  | cons k keys ih =>
      have first : (issue service dispatcher (.key k)).sentKeys =
          dispatcher.sentKeys ++ [k] := by
        rw [Dispatcher.sentKeys, issue, keyCalls_sendKeyboard,
          List.flatMap_append, setKeyBytes, copyBytes_eq]
        rfl
      change (issueAll service (issue service dispatcher (.key k))
        (keys.map .key)).sentKeys = _
      rw [ih, first, List.append_assoc]
      rfl

end DispatcherSingleton

open DispatcherSingleton hiding delimiter

namespace SendFileTask

variable {service : Service} {run : FileRun}

/-- What a loop without exceptions has done, whenever the button was pressed:
it has ended after at most one pass for each char and one more, it has sent
the chars that it has read, and it has gone on only while the flag was
unset. -/
structure LoopEnd.Regular (run : FileRun) (unread : List JavaChar)
    (pass : Nat) (loop : LoopEnd) : Prop where
  passes : loop.passes = some (pass + loop.reads.length)
  bound : loop.reads.length ≤ unread.length + 1
  keys : loop.reads.map charToSend <+: unread.map lowByte ++ [0xFF#8]
  unset : ∀ earlier, earlier + 1 < loop.reads.length →
    run.canceledInPass (pass + earlier) = false

/-- A last pass. -/
theorem regular_last {unread : List JavaChar} {value : Int}
    (key : [charToSend value] <+: unread.map lowByte ++ [0xFF#8])
    (pass : Nat) (dispatcher : Dispatcher) :
    LoopEnd.Regular run unread pass ⟨dispatcher, [value], some (pass + 1)⟩ where
  passes := rfl
  bound := by simp
  keys := key
  unset := by simp

/-- A pass that the loop goes on after. -/
theorem LoopEnd.Regular.cons {unread : List JavaChar} {pass : Nat}
    {rest : LoopEnd} (regular : rest.Regular run unread (pass + 1))
    {c : JavaChar} (unset : run.canceledInPass pass = false) :
    LoopEnd.Regular run (c :: unread) pass
      { rest with reads := (c.toNat : Int) :: rest.reads } where
  passes := by
    rw [regular.passes, List.length_cons]
    congr 1
    omega
  bound := by
    have bound := regular.bound
    simp only [List.length_cons]
    omega
  keys := by
    rw [List.map_cons, charToSend_char]
    exact List.cons_prefix_cons.mpr ⟨rfl, regular.keys⟩
  unset := by
    intro earlier before
    cases earlier with
    | zero => exact unset
    | succ earlier =>
        have later := regular.unset earlier
          (by simpa using before)
        have same : pass + (earlier + 1) = pass + 1 + earlier := by omega
        rwa [same]

theorem readLoop_regular {unread : List JavaChar} {pass : Nat}
    (calm : run.Calm pass (unread.length + 1)) (dispatcher : Dispatcher) :
    (readLoop service run unread pass dispatcher).Regular run unread pass := by
  induction unread generalizing pass dispatcher with
  | nil =>
      obtain ⟨⟨readOk, sleepOk⟩, _⟩ := calm_succ_iff.mp calm
      have eof : charToSend (-1) = 0xFF#8 := by decide
      simp only [readLoop, finishPass, readOk, sleepOk, goesOn_endOfFile,
        Bool.false_eq_true, if_false]
      exact regular_last (by simp [eof]) _ _
  | cons c unread ih =>
      obtain ⟨⟨readOk, sleepOk⟩, later⟩ := calm_succ_iff.mp calm
      simp only [readLoop, finishPass, readOk, sleepOk, Bool.false_eq_true,
        if_false]
      split
      · next goes =>
          exact (ih later _).cons ((goesOn_char pass c).mp goes).1
      · exact regular_last (by simp [charToSend_char]) _ _

/-- The key frames completed after the button was pressed, if the loop has
made the given number of passes: the payload of a pass goes out in its fifth
step. -/
def FileRun.completedAfterCancel (run : FileRun) (passes : Nat) : List Nat :=
  (List.range passes).filter fun pass => run.canceled (7 * pass + 4)

theorem completedAfterCancel_le_one {passes : Nat}
    (unset : ∀ earlier, earlier + 1 < passes →
      run.canceledInPass earlier = false) :
    (run.completedAfterCancel passes).length ≤ 1 := by
  cases passes with
  | zero => simp [FileRun.completedAfterCancel]
  | succ passes =>
      have none : (List.range passes).filter
          (fun pass => run.canceled (7 * pass + 4)) = [] := by
        rw [List.filter_eq_nil_iff]
        intro pass member
        have earlier := unset pass (by simpa using member)
        have unsetThen : run.canceled (7 * pass + 4) = false :=
          canceled_mono (by omega) earlier
        simp [unsetThen]
      rw [FileRun.completedAfterCancel, List.range_succ, List.filter_append,
        none]
      exact List.length_filter_le _ _

/-- The result of a loop that has ended, with the file closed after it. -/
theorem result_of_ended (found : run.found = true)
    (closes : run.closeThrows = false) {dispatcher : Dispatcher}
    {passes : Nat}
    (ended : (readLoop service run run.text 0 dispatcher).passes =
      some passes) :
    (doInBackground service run dispatcher).result =
      if run.canceledAfter passes then .userCanceled
      else .sentSuccessfully := by
  simp only [doInBackground, found, ended, closes, Bool.not_true,
    Bool.false_eq_true, if_false]
  split <;> rfl

/-- A file that is read and closed without exception, with the cancel button
pressed at any point or never: the loop ends after at most one pass more than
there are chars; the keys sent are the beginning of the low bytes of the file
and the end-of-file byte; at most one key frame is completed after the button
was pressed; and the task reports a cancellation exactly if the flag is set at
the check after `fr.close()`, and success otherwise. -/
theorem cancelled_file (found : run.found = true)
    (calm : run.Calm 0 (run.text.length + 1))
    (closes : run.closeThrows = false) (dispatcher : Dispatcher) :
    ∃ passes keys,
      (readLoop service run run.text 0 dispatcher).passes = some passes ∧
      passes ≤ run.text.length + 1 ∧
      (doInBackground service run dispatcher).dispatcher.sentKeys =
        dispatcher.sentKeys ++ keys ∧
      keys.length = passes ∧
      keys <+: run.text.map lowByte ++ [0xFF#8] ∧
      (run.completedAfterCancel passes).length ≤ 1 ∧
      ((doInBackground service run dispatcher).result = .userCanceled ↔
        run.canceledAfter passes = true) ∧
      ((doInBackground service run dispatcher).result = .sentSuccessfully ↔
        run.canceledAfter passes = false) := by
  have regular := @readLoop_regular service run run.text 0 calm dispatcher
  obtain ⟨_, sameReads⟩ := doInBackground_of_found found dispatcher
  have passes := regular.passes
  rw [Nat.zero_add] at passes
  refine ⟨_, _, passes, regular.bound, ?_, List.length_map _, regular.keys,
    completedAfterCancel_le_one ?_, ?_, ?_⟩
  · rw [doInBackground_dispatcher, sameReads, typed, ← sentKeys_issueAll,
      List.map_map]
    rfl
  · intro earlier before
    have unset := regular.unset earlier before
    rwa [Nat.zero_add] at unset
  · rw [result_of_ended found closes passes]
    cases run.canceledAfter _ <;> simp
  · rw [result_of_ended found closes passes]
    cases run.canceledAfter _ <;> simp

/-- The file `hi`, with the button pressed while the first key is being
sent. -/
def pressedInFirstFrame : FileRun :=
  { FileRun.plain [104#16, 105#16] with canceledAt := some 3 }

/-- The key `h` is still completed, the key `i` is not begun, and the task
reports the cancellation. -/
theorem cancelled_in_first_frame :
    ∃ passes keys,
      (readLoop alwaysConnected pressedInFirstFrame [104#16, 105#16] 0
        Dispatcher.initial).passes = some passes ∧ passes = 1 ∧
      (doInBackground alwaysConnected pressedInFirstFrame
          Dispatcher.initial).dispatcher.sentKeys =
        Dispatcher.initial.sentKeys ++ keys ∧
      keys.length = 1 ∧ keys <+: [104#8, 105#8, 0xFF#8] ∧
      (pressedInFirstFrame.completedAfterCancel passes).length ≤ 1 ∧
      (doInBackground alwaysConnected pressedInFirstFrame
        Dispatcher.initial).result = .userCanceled := by
  obtain ⟨passes, keys, ended, _, sent, length, isPrefix, atMostOne, canceled,
    _⟩ := @cancelled_file alwaysConnected pressedInFirstFrame rfl
      (fun _ _ _ => ⟨rfl, rfl⟩) rfl Dispatcher.initial
  have one : (readLoop alwaysConnected pressedInFirstFrame
      pressedInFirstFrame.text 0 Dispatcher.initial).passes = some 1 := by
    decide +kernel
  obtain rfl : passes = 1 := Option.some.inj (ended.symm.trans one)
  exact ⟨1, keys, ended, rfl, sent, length, isPrefix, atMostOne,
    canceled.mpr (by decide)⟩

end SendFileTask

end MightyMouse
