import PimSync.Session.Basic
import PimSync.Text.Quoted

namespace PimSync

open Wire Schema Session

def Category.constructorName : Category → String
  | .todo => "Todo"
  | .calendar => "Calendar"
  | .address => "Address"

open Text

def Wire.MessageTag.technical (tag : MessageTag) : String := wrapped "TypeTag" tag.text

def Schema.FieldTag.technical (tag : FieldTag) : String := wrapped "FieldTag" tag.text

def ClockTime.technical (t : ClockTime) : String := wrapped "DeviceTime" t.text

def Wire.CodingError.kind : CodingError → String
  | .truncated .. => "UnexpectedEof"
  | .unknownType _ => "UnknownType"
  | .unknownVariant .. => "UnknownVariant"
  | .noMemory .. => "AllocationFailed"
  | .alreadyFilled => "AlreadyEncoded"
  | .bodyTooShort _ => "BodyTooShort"
  | .tooLong .. => "FieldTooLong"
  | .trailing .. => "TrailingBytes"
  | .badTime => "InvalidTime"

def Wire.CodingError.technical (e : CodingError) : String :=
  match e with
  | .truncated needed available => fields e.kind [("needed", decimal needed), ("available", decimal available)]
  | .unknownType tag => fields e.kind [("tag", tag.technical)]
  | .unknownVariant tag value => fields e.kind [("tag", tag.technical), ("discriminant", decimal value.toNat)]
  | .noMemory what size => fields e.kind [("what", quoted what), ("len", decimal size)]
  | .bodyTooShort size => wrapped e.kind (decimal size.toNat)
  | .tooLong what size limit =>
    fields e.kind [("what", quoted what), ("len", decimal size), ("max", decimal limit)]
  | .trailing tag remaining => fields e.kind [("tag", tag.technical), ("remaining", decimal remaining)]
  | .alreadyFilled | .badTime => e.kind

def Wire.LinkError.kind : LinkError → String
  | .bind .. => "Bind"
  | .connect .. => "Connect"
  | .accept _ => "Accept"
  | .io .. => "Io"
  | .closed => "CleanClose"
  | .cutOff .. => "MidMessageClose"

def Wire.LinkError.technical (e : LinkError) : String :=
  match e with
  | .bind address cause | .connect address cause => fields e.kind [("addr", quoted address), ("source", cause)]
  | .accept cause => wrapped e.kind cause
  | .io during cause => fields e.kind [("op", quoted during), ("source", cause)]
  | .closed => e.kind
  | .cutOff consumed expected => fields e.kind [("consumed", decimal consumed), ("expected", decimal expected)]

def Schema.SchemaError.kind : SchemaError → String
  | .lengthMismatch .. => "LengthMismatch"
  | .alreadyObtained _ => "AlreadyObtained"
  | .formatMissing _ => "FormatMissing"
  | .fieldWidth .. => "FieldWidth"
  | .noMemory .. => "AllocationFailed"

def Schema.SchemaError.technical (e : SchemaError) : String :=
  match e with
  | .lengthMismatch entries values => fields e.kind [("formats", decimal entries), ("values", decimal values)]
  | .alreadyObtained c | .formatMissing c => fields e.kind [("kind", c.constructorName)]
  | .fieldWidth tag expected actual =>
    fields e.kind [("tag", tag.technical), ("expected", decimal expected), ("actual", decimal actual)]
  | .noMemory tag size => fields e.kind [("field", tag.technical), ("len", decimal size)]

def Wire.Control.technical : Control → String
  | .acknowledge => "Acknowledge"
  | .request => "Request"
  | .abort => "Abort"

def Session.SessionError.kind : SessionError → String
  | .exchange (.link _) => "Transport"
  | .exchange (.coding _) => "Codec"
  | .schema _ => "Schema"
  | .exchange (.control ..) => "UnexpectedControl"
  | .exchange (.message ..) => "UnexpectedMessage"
  | .invalidState .. => "InvalidState"
  | .notConnected => "NotConnected"

def Session.SessionError.innerKind? : SessionError → Option String
  | .exchange (.link e) => some e.kind
  | .exchange (.coding e) => some e.kind
  | .schema e => some e.kind
  | _ => none

def Session.SessionError.technical (e : SessionError) : String :=
  match e with
  | .exchange (.link inner) => wrapped e.kind inner.technical
  | .exchange (.coding inner) => wrapped e.kind inner.technical
  | .schema inner => wrapped e.kind inner.technical
  | .exchange (.control expected actual) =>
    fields e.kind [("expected", expected.technical), ("actual", quoted actual)]
  | .exchange (.message expected actual) =>
    fields e.kind [("expected", quoted expected), ("actual", quoted actual)]
  | .invalidState operation state => fields e.kind [("operation", quoted operation), ("state", state.name)]
  | .notConnected => e.kind

def Config.technical (c : Config) : String :=
  fields "SessionConfig" [("device_host", quoted c.device.host), ("device_port", decimal c.device.port.toNat),
    ("listen_host", quoted c.listener.host), ("listen_port", decimal c.listener.port.toNat),
    ("password", (c.password?.map fun _ => wrapped "Some" (quoted "<redacted>")).getD "None"),
    ("kind", c.category.constructorName)]

namespace Command

inductive Failure where
  | session (e : SessionError)
  | coding (e : CodingError)
  | refused
  | unidentified
deriving DecidableEq

def Failure.technical : Failure → String
  | .session e => e.technical
  | .coding e => e.technical
  | .refused => quoted "device refused the password"
  | .unidentified => quoted "device sent no identity"

end Command

end PimSync
