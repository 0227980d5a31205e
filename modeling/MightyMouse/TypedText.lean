import MightyMouse.EditField

/-!
# Typed text is sent once

The user types into the edit field, switches auto-send on and off, presses
Send or the return key of the editor.  Whatever the order, what has been sent
followed by what is still in the field is what has been typed, and the
dispatcher has been asked for these strings and for nothing but these, apart
from the returns on an empty field.
-/

namespace MightyMouse

open DispatcherSingleton hiding delimiter

namespace EditField

variable (service : Service)

/-- What the user can do on the main screen. -/
inductive UserEvent
  | insert (typed : List JavaChar)
  | toggleAutoSend
  | pressSend
  | editorAction (actionId : Int) (action : KeyAction)
  deriving DecidableEq, Repr

/-- Text is inserted at the end of the field. -/
def handle (screen : Screen) : UserEvent → Screen
  | .insert typed => setText service (screen.text ++ typed) screen
  | .toggleAutoSend => { screen with mAutoSend := !screen.mAutoSend }
  | .pressSend => onClickSend service screen
  | .editorAction actionId action =>
      onEditorAction service actionId action screen

def handleAll (screen : Screen) (events : List UserEvent) : Screen :=
  events.foldl (handle service) screen

def UserEvent.inserted : UserEvent → List JavaChar
  | .insert typed => typed
  | .toggleAutoSend | .pressSend | .editorAction _ _ => []

/-- All that was handed to `sendString`, followed by the field. -/
def Screen.handedOver (screen : Screen) : List JavaChar :=
  screen.sent.flatten ++ screen.text

section Requests

/-- What the screen asks of the dispatcher. -/
inductive Request
  | string (message : List JavaChar)
  | enter
  deriving DecidableEq, Repr

def Request.perform (dispatcher : Dispatcher) : Request → Dispatcher
  | .string message => sendString service dispatcher message
  | .enter => sendEnter service dispatcher

def Request.message? : Request → Option (List JavaChar)
  | .string message => some message
  | .enter => none

/-- The return action, on an empty field. -/
def UserEvent.returnsOnEmpty (screen : Screen) : UserEvent → Bool
  | .editorAction actionId action =>
      actionId = imeNull ∧ action = .actionUp ∧ screen.text = []
  | .insert _ | .toggleAutoSend | .pressSend => false

/-- How often the return action finds the field empty. -/
def emptyReturns : Screen → List UserEvent → Nat
  | _, [] => 0
  | screen, event :: events =>
      (if event.returnsOnEmpty screen then 1 else 0) +
        emptyReturns (handle service screen event) events

/-- From one screen to the other, the dispatcher has performed exactly these
requests, and their strings are noted. -/
structure Asks (before : Screen) (requests : List Request) (after : Screen) :
    Prop where
  dispatcher : after.dispatcher =
    requests.foldl (Request.perform service) before.dispatcher
  sent : after.sent = before.sent ++ requests.filterMap Request.message?

variable {service}

theorem asks_nothing {before after : Screen}
    (dispatcher : after.dispatcher = before.dispatcher)
    (sent : after.sent = before.sent) : Asks service before [] after :=
  ⟨dispatcher, sent.trans (List.append_nil _).symm⟩

theorem Asks.trans {before between after : Screen}
    {first second : List Request} (asked : Asks service before first between)
    (asks : Asks service between second after) :
    Asks service before (first ++ second) after := by
  constructor
  · rw [asks.dispatcher, asked.dispatcher, List.foldl_append]
  · rw [asks.sent, asked.sent, List.filterMap_append, List.append_assoc]

theorem asks_sendMessage (message : List JavaChar) (screen : Screen) :
    Asks service screen [.string message]
      (sendMessage service message screen) :=
  ⟨rfl, rfl⟩

end Requests

section Reentry

/-- The text watcher, with a bound on the number of calls of it that are
active at the same time. -/
def afterTextChangedWithin : Nat → List JavaChar → Screen → Option Screen
  | 0, _, _ => none
  | depth + 1, s, screen =>
      if s.length > 0 ∧ screen.mAutoSend then
        (afterTextChangedWithin depth []
          { sendMessage service screen.text screen with text := [] }).map
            (showDeleteButton s)
      else some (showDeleteButton s screen)

variable {service}

/-- Without auto-send, or on an empty text, the watcher sends nothing. -/
theorem afterTextChanged_quiet {s : List JavaChar} {screen : Screen}
    (quiet : ¬ (s.length > 0 ∧ screen.mAutoSend)) :
    afterTextChanged service s screen = showDeleteButton s screen := by
  rw [afterTextChanged, if_neg quiet]

/-- The watcher re-enters itself at most once. -/
theorem afterTextChangedWithin_two (s : List JavaChar) (screen : Screen) :
    afterTextChangedWithin service 2 s screen =
      some (afterTextChanged service s screen) := by
  by_cases sends : s.length > 0 ∧ screen.mAutoSend
  · have inner (cleared : Screen) :
        afterTextChangedWithin service 1 [] cleared =
          some (showDeleteButton [] cleared) := by
      simp [afterTextChangedWithin]
    rw [afterTextChangedWithin, if_pos sends, inner,
      afterTextChanged_autoSend sends.1 sends.2]
    rfl
  · rw [afterTextChangedWithin, if_neg sends, afterTextChanged_quiet sends]

end Reentry

section SetText

variable {service}

/-- A change of the text: with auto-send on, a text with at least one char is
sent and the field cleared; otherwise the field keeps the text. -/
theorem setText_spec (text : List JavaChar) (screen : Screen) :
    (setText service text screen).mAutoSend = screen.mAutoSend ∧
      ((screen.mAutoSend = true ∧ (setText service text screen).text = [] ∧
          Asks service screen [.string text]
            (setText service text screen)) ∨
        ((screen.mAutoSend = true → text = []) ∧
          (setText service text screen).text = text ∧
          Asks service screen [] (setText service text screen))) := by
  by_cases sends : text.length > 0 ∧ screen.mAutoSend
  · have sent : setText service text screen = _ :=
      afterTextChanged_autoSend sends.1 sends.2
    rw [sent]
    exact ⟨rfl, Or.inl ⟨sends.2, rfl, ⟨rfl, rfl⟩⟩⟩
  · have kept : setText service text screen =
        showDeleteButton text { screen with text := text } :=
      afterTextChanged_quiet sends
    rw [kept]
    refine ⟨rfl, Or.inr ⟨?_, rfl, asks_nothing rfl rfl⟩⟩
    intro auto
    have short : ¬ text.length > 0 := fun long => sends ⟨long, auto⟩
    exact List.eq_nil_of_length_eq_zero (by omega)

/-- A change of the text loses nothing and duplicates nothing. -/
theorem handedOver_setText (text : List JavaChar) (screen : Screen) :
    (setText service text screen).handedOver = screen.sent.flatten ++ text := by
  rw [Screen.handedOver]
  rcases (setText_spec text screen).2 with ⟨_, cleared, asks⟩ | ⟨_, kept, asks⟩
  · rw [cleared, asks.sent, List.flatten_append, List.append_nil]
    simp [Request.message?]
  · rw [kept, asks.sent]
    simp

/-- With auto-send on, the field is empty after every change. -/
theorem text_setText (text : List JavaChar) (screen : Screen) :
    (setText service text screen).text =
      if screen.mAutoSend then [] else text := by
  rcases (setText_spec text screen).2 with ⟨auto, cleared, _⟩ |
    ⟨short, kept, _⟩
  · rw [cleared, if_pos auto]
  · rw [kept]
    split
    · next auto => exact short auto
    · rfl

/-- Clearing the field asks for nothing. -/
theorem asks_setText_nil (screen : Screen) :
    Asks service screen [] (setText service [] screen) := by
  rw [setText_nil]
  exact asks_nothing rfl rfl

/-- Sending the text and clearing the field moves it from one side to the
other. -/
theorem handedOver_sendAndClear (screen : Screen) :
    (setText service []
      (sendMessage service screen.text screen)).handedOver =
        screen.handedOver := by
  rw [handedOver_setText]
  simp [sendMessage, Screen.handedOver]

end SetText

section Run

variable {service}

theorem handedOver_handle (screen : Screen) (event : UserEvent) :
    (handle service screen event).handedOver =
      screen.handedOver ++ event.inserted := by
  cases event with
  | insert typed =>
      rw [handle, handedOver_setText, UserEvent.inserted, Screen.handedOver,
        List.append_assoc]
  | toggleAutoSend => exact (List.append_nil _).symm
  | pressSend =>
      rw [handle, onClickSend, UserEvent.inserted, List.append_nil]
      exact handedOver_sendAndClear screen
  | editorAction actionId action =>
      rw [handle, onEditorAction, UserEvent.inserted, List.append_nil]
      split
      · split
        · rfl
        · exact handedOver_sendAndClear screen
      · rfl

/-- What an event asks of the dispatcher; it asks for a return exactly if it is
one on an empty field. -/
theorem asks_handle (screen : Screen) (event : UserEvent) :
    ∃ requests, Asks service screen requests (handle service screen event) ∧
      requests.count .enter = if event.returnsOnEmpty screen then 1 else 0 := by
  have sends : Asks service screen [.string screen.text]
      (setText service [] (sendMessage service screen.text screen)) :=
    (asks_sendMessage screen.text screen).trans (asks_setText_nil _)
  cases event with
  | insert typed =>
      rcases (@setText_spec service (screen.text ++ typed) screen).2 with
        ⟨_, _, asks⟩ | ⟨_, _, asks⟩
      · exact ⟨_, asks, rfl⟩
      · exact ⟨_, asks, rfl⟩
  | toggleAutoSend => exact ⟨[], asks_nothing rfl rfl, rfl⟩
  | pressSend => exact ⟨_, sends, rfl⟩
  | editorAction actionId action =>
      simp only [handle, onEditorAction, UserEvent.returnsOnEmpty,
        decide_eq_true_eq]
      by_cases returns : actionId = imeNull ∧ action = .actionUp
      · rw [if_pos returns]
        by_cases empty : screen.text = []
        · rw [if_pos (by rw [empty]; rfl), if_pos ⟨returns.1, returns.2, empty⟩]
          exact ⟨[.enter], ⟨rfl, (List.append_nil _).symm⟩, rfl⟩
        · have some : ¬ screen.text.length = 0 :=
            fun none => empty (List.eq_nil_of_length_eq_zero none)
          rw [if_neg some, if_neg fun all => empty all.2.2]
          exact ⟨_, sends, rfl⟩
      · rw [if_neg returns, if_neg fun all => returns ⟨all.1, all.2.1⟩]
        exact ⟨[], asks_nothing rfl rfl, rfl⟩

theorem asks_handleAll (screen : Screen) (events : List UserEvent) :
    ∃ requests, Asks service screen requests
        (handleAll service screen events) ∧
      requests.count .enter = emptyReturns service screen events := by
  induction events generalizing screen with
  | nil => exact ⟨[], asks_nothing rfl rfl, rfl⟩
  | cons event events ih =>
      obtain ⟨first, asked, entered⟩ := @asks_handle service screen event
      obtain ⟨rest, asks, enters⟩ := ih (handle service screen event)
      refine ⟨first ++ rest, asked.trans asks, ?_⟩
      rw [List.count_append, entered, enters, emptyReturns]

theorem handedOver_handleAll (screen : Screen) (events : List UserEvent) :
    (handleAll service screen events).handedOver =
      screen.handedOver ++ events.flatMap UserEvent.inserted := by
  induction events generalizing screen with
  | nil => exact (List.append_nil _).symm
  | cons event events ih =>
      change (handleAll service (handle service screen event) events).handedOver
        = _
      rw [ih, handedOver_handle, List.flatMap_cons, List.append_assoc]

variable (service)

/-- Over any sequence of user events, the strings sent so far followed by the
field are what the user typed; the dispatcher has been called with just these
strings, and with `sendEnter` once for each return on an empty field; the
watcher never re-enters itself more than once; and an insertion with auto-send
on leaves the field empty. -/
theorem typed_text_sent_once (start : Screen) (events : List UserEvent) :
    (handleAll service start events).sent.flatten ++
        (handleAll service start events).text =
      start.sent.flatten ++ start.text ++
        events.flatMap UserEvent.inserted ∧
    (∃ requests : List Request,
      (handleAll service start events).dispatcher =
          requests.foldl (Request.perform service) start.dispatcher ∧
        (handleAll service start events).sent =
          start.sent ++ requests.filterMap Request.message? ∧
        requests.count .enter = emptyReturns service start events) ∧
    (∀ (s : List JavaChar) (screen : Screen),
      afterTextChangedWithin service 2 s screen =
        some (afterTextChanged service s screen)) ∧
    ∀ (early : List UserEvent) (typed : List JavaChar),
      early ++ [.insert typed] <+: events →
      (handleAll service start early).mAutoSend = true →
      (handleAll service start (early ++ [.insert typed])).text = [] := by
  obtain ⟨requests, asks, enters⟩ := asks_handleAll start events
  refine ⟨handedOver_handleAll start events,
    ⟨requests, asks.dispatcher, asks.sent, enters⟩,
    afterTextChangedWithin_two, ?_⟩
  intro early typed _ auto
  have last : handleAll service start (early ++ [.insert typed]) =
      setText service ((handleAll service start early).text ++ typed)
        (handleAll service start early) :=
    List.foldl_concat _ _ _ _
  rw [last, text_setText, if_pos auto]

/-- Some text typed with auto-send off is sent along with the first text that
is typed with auto-send on. -/
theorem typed_text_sent_once_at_toggle :
    [UserEvent.insert [0x61#16], .toggleAutoSend] ++ [.insert [0x62#16]] <+:
        [.insert [0x61#16], .toggleAutoSend, .insert [0x62#16], .pressSend] ∧
    (handleAll alwaysConnected ⟨[], false, true, Dispatcher.initial, []⟩
      [.insert [0x61#16], .toggleAutoSend]).mAutoSend = true ∧
    (handleAll alwaysConnected ⟨[], false, true, Dispatcher.initial, []⟩
      ([.insert [0x61#16], .toggleAutoSend] ++ [.insert [0x62#16]])).text =
        [] := by
  have begins : [UserEvent.insert [0x61#16], .toggleAutoSend] ++
      [.insert [0x62#16]] <+: [.insert [0x61#16], .toggleAutoSend,
        .insert [0x62#16], .pressSend] :=
    ⟨[.pressSend], rfl⟩
  have auto : (handleAll alwaysConnected
      ⟨[], false, true, Dispatcher.initial, []⟩
      [.insert [0x61#16], .toggleAutoSend]).mAutoSend = true := by
    change (!(setText alwaysConnected _ _).mAutoSend) = true
    rw [(setText_spec _ _).1]
    rfl
  exact ⟨begins, auto, (typed_text_sent_once alwaysConnected _ _).2.2.2 _ _ begins
    auto⟩

end Run

end EditField

end MightyMouse
