import LaserDac.World

/-!
The connection of the Helios backend. It counts as connected while it holds an open handle, and a frame whose transfer
fails, however fatally, only records the failure. The transfers themselves are given by their results.
-/

namespace LaserDac

/-- The USB errors the backend tells apart, the other ones together. -/
inductive RusbKind
  | io
  | access
  | noDevice
  | pipe
  | timeout
  | other
  deriving DecidableEq, Repr

structure RusbError where
  kind : RusbKind
  text : String
  deriving DecidableEq, Repr

def isFatalRusb (error : RusbError) : Bool :=
  match error.kind with
  | .noDevice => true
  | .io => true
  | .pipe => true
  | _ => false

inductive HeliosDacError
  | deviceNotOpened
  | usbError (error : RusbError)
  | invalidDeviceResult
  | utf8Error (text : String)
  deriving DecidableEq, Repr

def HeliosDacError.text : HeliosDacError → String
  | .deviceNotOpened => "device is not opened"
  | .usbError error => "usb connection error: " ++ error.text
  | .invalidDeviceResult => "usb device answered with invalid data"
  | .utf8Error text => "could not parse string: " ++ text

inductive HeliosDac
  | idle
  | open
  deriving DecidableEq, Repr

def HeliosDac.comm {α : Type} (usb : Except HeliosDacError α) : HeliosDac → Except HeliosDacError α
  | .idle => .error .deviceNotOpened
  | .open => usb

structure HeliosBackend where
  dac : Option HeliosDac
  fatalDisconnect : Bool
  deriving DecidableEq, Repr

namespace HeliosBackend

def isFatalUsbError : HeliosDacError → Bool
  | .usbError error => isFatalRusb error
  | _ => false

def isAccessError : HeliosDacError → Bool
  | .usbError error => error.kind == .access
  | _ => false

def usbPermissionDenied (context : String) : Error :=
  .permissionDenied (context ++ ": USB access denied — this laser DAC needs a udev rule " ++
    "granting the user access to the device node (then replug the device)")

def mapErrWithContext (context : String) (error : HeliosDacError) : Error :=
  if isAccessError error then usbPermissionDenied context
  else if isFatalUsbError error then .disconnected (context ++ ": USB device error: " ++ error.text)
  else .backend (context ++ ": " ++ error.text)

def mapErrCtx (context : String) (error : HeliosDacError) (b : HeliosBackend) : Error × HeliosBackend :=
  (mapErrWithContext context error, if isFatalUsbError error then { b with fatalDisconnect := true } else b)

def isConnected (b : HeliosBackend) : Bool := b.dac == some .open

def writeFrameAfterReady (context : String) (usb : Except HeliosDacError Unit) (b : HeliosBackend) :
    Except Error WriteOutcome × HeliosBackend :=
  match b.dac with
  | none => (.error (.disconnected "Not connected"), b)
  | some dac =>
    match dac.comm usb with
    | .ok _ => (.ok .written, b)
    | .error error =>
      let (error, b) := b.mapErrCtx context error
      (.error error, b)

end HeliosBackend

end LaserDac
