import MightyMouse.DispatcherSingleton

/-!
# The edit field

`MouseAndKeyboardActivity` sends the text of its edit field when the Send
button is pressed, on the return action of the editor, or, with auto-send on,
whenever the text changes.  Each of them clears the field afterwards; this
changes the text, so that the text watcher is called again.
-/

namespace MightyMouse

open DispatcherSingleton hiding delimiter

namespace EditField

/-- The edit field, the flag `mAutoSend`, whether the delete button is
visible, the dispatcher, and the strings handed to `sendString`, oldest
first. -/
structure Screen where
  text : List JavaChar
  mAutoSend : Bool
  deleteVisible : Bool
  dispatcher : Dispatcher
  sent : List (List JavaChar)

variable (service : Service)

def sendMessage (message : List JavaChar) (screen : Screen) : Screen :=
  { screen with
    dispatcher := sendString service screen.dispatcher message
    sent := screen.sent ++ [message] }

/-- The last three statements of `afterTextChanged`. -/
def showDeleteButton (s : List JavaChar) (screen : Screen) : Screen :=
  let shown := if s.length > 0 then false else true
  { screen with deleteVisible := if screen.mAutoSend then true else shown }

/-- The text watcher.  `setText` replaces the text and calls the watcher
again before it returns; the outer call still holds the text `s`. -/
def afterTextChanged (s : List JavaChar) (screen : Screen) : Screen :=
  if s.length > 0 ∧ screen.mAutoSend then
    let message := screen.text
    let sending := sendMessage service message screen
    showDeleteButton s (afterTextChanged [] { sending with text := [] })
  else showDeleteButton s screen
termination_by s.length

/-- Replace the text of the field, as the user or the code does. -/
def setText (text : List JavaChar) (screen : Screen) : Screen :=
  afterTextChanged service text { screen with text := text }

/-- The listener of the Send button. -/
def onClickSend (screen : Screen) : Screen :=
  let message := screen.text
  setText service [] (sendMessage service message screen)

/-- The actions of a `KeyEvent`. -/
inductive KeyAction
  | actionDown
  | actionUp
  | actionMultiple
  deriving DecidableEq, Repr

/-- `EditorInfo.IME_NULL`. -/
def imeNull : Int := 0

/-- `mWriteListener`. -/
def onEditorAction (actionId : Int) (action : KeyAction) (screen : Screen) :
    Screen :=
  if actionId = imeNull ∧ action = .actionUp then
    if screen.text.length = 0 then
      { screen with dispatcher := sendEnter service screen.dispatcher }
    else
      let message := screen.text
      setText service [] (sendMessage service message screen)
  else screen

/-- The three ways to submit a text. -/
inductive Submission
  | sendButton
  | editorAction
  | autoSend
  deriving DecidableEq, Repr

/-- The text is in the field when the button or the return key is pressed, or
it is entered with auto-send on. -/
def submit (text : List JavaChar) (screen : Screen) : Submission → Screen
  | .sendButton => onClickSend service { screen with text := text }
  | .editorAction =>
      onEditorAction service imeNull .actionUp { screen with text := text }
  | .autoSend => setText service text { screen with mAutoSend := true }

section Submit

variable {service}

theorem afterTextChanged_nil (screen : Screen) :
    afterTextChanged service [] screen = showDeleteButton [] screen := by
  rw [afterTextChanged]
  simp

/-- With auto-send on, the watcher is called once more and then rests. -/
theorem afterTextChanged_autoSend {s : List JavaChar} {screen : Screen}
    (long : 0 < s.length) (auto : screen.mAutoSend = true) :
    afterTextChanged service s screen =
      showDeleteButton s (showDeleteButton []
        { sendMessage service screen.text screen with text := [] }) := by
  rw [afterTextChanged, if_pos ⟨long, auto⟩]
  dsimp only
  rw [afterTextChanged_nil]

/-- Clearing the field sends nothing. -/
theorem setText_nil (screen : Screen) :
    setText service [] screen =
      showDeleteButton [] { screen with text := [] } :=
  afterTextChanged_nil _

/-- A text with at least one char is sent as a whole, and the field is empty
afterwards. -/
theorem submit_spec {text : List JavaChar} (nonempty : text ≠ [])
    (screen : Screen) (submission : Submission) :
    (submit service text screen submission).text = [] ∧
      (submit service text screen submission).dispatcher =
        sendString service screen.dispatcher text := by
  have long : 0 < text.length := List.length_pos_of_ne_nil nonempty
  cases submission with
  | sendButton =>
      rw [submit, onClickSend, setText_nil]
      exact ⟨rfl, rfl⟩
  | editorAction =>
      have some : ¬ text.length = 0 := by omega
      simp only [submit, onEditorAction, and_self, if_true, some, if_false,
        setText_nil]
      exact ⟨rfl, rfl⟩
  | autoSend =>
      rw [submit, setText, afterTextChanged_autoSend long rfl]
      exact ⟨rfl, rfl⟩

end Submit

end EditField

end MightyMouse
