import ProjectorControl.Bytes

/-!
# The handshake

A projector greets whoever connects.  The client asks to be let in, with the password if
there is one, and the projector agrees or refuses.  None of these messages ends with the
byte that ends a packet, and all but the client's have the same length.
-/

namespace ProjectorControl.Handshake

/-- What the projector says first: `PJ_OK`. -/
def greeting : Bytes := [0x50, 0x4A, 0x5F, 0x4F, 0x4B]

/-- How the client asks to be let in: `PJREQ`. -/
def request : Bytes := [0x50, 0x4A, 0x52, 0x45, 0x51]

/-- How the projector agrees: `PJACK`. -/
def accepted : Bytes := [0x50, 0x4A, 0x41, 0x43, 0x4B]

/-- How the projector refuses: `PJNAK`. -/
def refused : Bytes := [0x50, 0x4A, 0x4E, 0x41, 0x4B]

/-- What stands between the request and the password: an underscore. -/
def separator : UInt8 := 0x5F

/-- The length of the projector's messages. -/
def messageLength : Nat := 5

/-- The client's request.  An empty password counts as none. -/
def requestWith (password : Option String) : Bytes :=
  match password with
  | none => request
  | some p => if p = "" then request else request ++ separator :: Bytes.ofText p

end ProjectorControl.Handshake
