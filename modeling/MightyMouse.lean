import MightyMouse.SerialProtocolGrammar
import MightyMouse.StatefulBody
import MightyMouse.LabelledRun
import MightyMouse.WorkerClass
import MightyMouse.ServiceView
import MightyMouse.WorkerClassRefinement
import MightyMouse.WorkerClassInvariant
import MightyMouse.WorkerClassCancellation
import MightyMouse.DispatcherSingleton
import MightyMouse.WireRoundTrip
import MightyMouse.ConcurrentSenders
import MightyMouse.SendFileTask
import MightyMouse.TrackPad
import MightyMouse.DelimiterPayload
import MightyMouse.ActivityLifecycle
import MightyMouse.ServiceCustody
import MightyMouse.Delivery
import MightyMouse.Keystrokes
import MightyMouse.LinkFaults
import MightyMouse.SharedRegister
import MightyMouse.SharedKeyBuffer
import MightyMouse.DrainedCounter
import MightyMouse.MovementLedger
import MightyMouse.UninterruptedTicks
import MightyMouse.SenderLifecycle
import MightyMouse.StatusDisplay
import MightyMouse.FileCancellation
import MightyMouse.FileTyping
import MightyMouse.TickDelta
import MightyMouse.TouchBatches
import MightyMouse.InterceptKeyboard
import MightyMouse.DeviceListActivity
import MightyMouse.WorkerClassListening
import MightyMouse.WorkerClassSurvival
import MightyMouse.WorkerClassSockets
import MightyMouse.ServiceLink
import MightyMouse.ConnectionWindows
import MightyMouse.WorkerClassShutdown
import MightyMouse.CursorPath
import MightyMouse.SenderStatements
