import MightyMouse.LabelledRun
import MightyMouse.TypedText

/-!
# The key listener of the edit field

`mInterceptKeyboard` sends Delete or Enter to the dongle if the field is
empty.  It looks at the field when the key is released, but the field has
already acted when the key was pressed.
-/

namespace MightyMouse

open DispatcherSingleton hiding delimiter

namespace EditField

open LabelledRun

/-- The key codes that the listener tells apart. -/
inductive KeyCode
  | keycodeDel
  | keycodeEnter
  | other
  deriving DecidableEq, Repr

/-- The screen, and the number of calls of `sendDelete` so far. -/
structure Keyed where
  screen : Screen
  deleteFrames : Nat

variable (service : Service)

/-- `mInterceptKeyboard.onKey`, which answers whether it consumed the event. -/
def onKey (keyCode : KeyCode) (action : KeyAction) (keyed : Keyed) :
    Keyed × Bool :=
  if keyed.screen.text.length = 0 ∧ action = .actionUp then
    match keyCode with
    | .keycodeDel =>
        ({ screen := { keyed.screen with
            dispatcher := sendDelete service keyed.screen.dispatcher }
           deleteFrames := keyed.deleteFrames + 1 }, true)
    | .keycodeEnter =>
        ({ keyed with screen := { keyed.screen with
            dispatcher := sendEnter service keyed.screen.dispatcher } }, true)
    | .other => (keyed, false)
  else (keyed, false)

/-- A press of a key of the hardware keyboard.  DEL takes a character away,
which starts at a place of the text and has a number of `char`s; any other key
makes some text of its own in the field. -/
inductive KeyPress
  | del (place units : Nat)
  | enter
  | other (text : List JavaChar)
  deriving DecidableEq, Repr

def KeyPress.keyCode : KeyPress → KeyCode
  | .del _ _ => .keycodeDel
  | .enter => .keycodeEnter
  | .other _ => .other

/-- Take a character out of a text.  The place is in the text, and at least
one `char` is removed. -/
def removeAt (place units : Nat) (text : List JavaChar) : List JavaChar :=
  let start := min place (text.length - 1)
  text.take start ++ text.drop (start + max 1 units)

/-- What Android's `EditText` does with half of a press that the listener did
not consume.  It passes the return key on to the editor action listener. -/
def fieldKey (press : KeyPress) (action : KeyAction) (screen : Screen) :
    Screen :=
  match press, action with
  | .del place units, .actionDown =>
      if screen.text.length = 0 then screen
      else setText service (removeAt place units screen.text) screen
  | .enter, action => onEditorAction service imeNull action screen
  | .other text, .actionDown => setText service text screen
  | .del _ _, _ => screen
  | .other _, _ => screen

/-- One half of a press: the listener comes first. -/
def keyEvent (press : KeyPress) (action : KeyAction) (keyed : Keyed) : Keyed :=
  let answer := onKey service press.keyCode action keyed
  if answer.2 then answer.1
  else { answer.1 with
    screen := fieldKey service press action answer.1.screen }

/-- A key-down followed by its key-up. -/
def pressKey (keyed : Keyed) (press : KeyPress) : Keyed :=
  keyEvent service press .actionUp (keyEvent service press .actionDown keyed)

def keyStep (keyed : Keyed) (press : KeyPress) : Option Keyed :=
  some (pressKey service keyed press)

section Press

end Press

section Run

variable {service}

end Run

section Texts

end Texts

end EditField

end MightyMouse
