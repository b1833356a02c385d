/-!
# Status codes

The management layer above a driver branches on a small set of numbered
failure kinds.  Every error of the library has one of them.
-/

namespace CpldControl

inductive StatusCode where
  | failure
  | busy
  | invalid
  | size
  | unsupported
  | noDevice
  | noAcknowledge
deriving DecidableEq

namespace StatusCode

def number : StatusCode -> Nat
  | failure => 1
  | busy => 2
  | invalid => 6
  | size => 7
  | unsupported => 10
  | noDevice => 11
  | noAcknowledge => 13

def mnemonic : StatusCode -> String
  | failure => "FAIL"
  | busy => "BUSY"
  | invalid => "INVAL"
  | size => "SIZE"
  | unsupported => "NOSUPPORT"
  | noDevice => "NODEVICE"
  | noAcknowledge => "NOACK"

end StatusCode
end CpldControl
