import PimSync.Text.Utf8
import PimSync.Wire.Layout

namespace PimSync.Schema

open Wire

inductive FieldType where
  | bit
  | byte
  | word
  | long
  | time
  | byteArray
  | utf8
deriving DecidableEq

namespace FieldType

def all : List FieldType := [bit, byte, word, long, time, byteArray, utf8]

def code : FieldType → UInt8
  | bit => 0x01
  | byte => 0x02
  | word => 0x03
  | long => 0x04
  | time => 0x05
  | byteArray => 0x06
  | utf8 => 0x07

def name : FieldType → String
  | bit => "Bit"
  | byte => "Byte"
  | word => "Word"
  | long => "Long"
  | time => "Time"
  | byteArray => "ByteArray"
  | utf8 => "Utf8"

def width? : FieldType → Option Nat
  | bit | byte => some 1
  | word => some 2
  | long | time => some 4
  | byteArray | utf8 => none

end FieldType

structure ParamType where
  code : UInt8
deriving DecidableEq

namespace ParamType

def ofField (t : FieldType) : ParamType := ⟨t.code⟩

def field? (t : ParamType) : Option FieldType := FieldType.all.find? (·.code = t.code)

def name (t : ParamType) : String :=
  match t.field? with
  | some f => f.name
  | none => s!"Unknown({t.code.toNat})"

def width? (t : ParamType) : Option Nat := t.field?.bind FieldType.width?

end ParamType

structure FieldTag where
  bytes : Block 4
deriving DecidableEq

namespace FieldTag

def ascii (a b c d : Char) : FieldTag := ⟨⟨[a.toUInt8, b.toUInt8, c.toUInt8, d.toUInt8], rfl⟩⟩

def text (tag : FieldTag) : String := Text.Utf8.decode tag.bytes.val

end FieldTag

structure FormatEntry where
  tag : FieldTag
  type : ParamType
  description : Bytes
deriving DecidableEq

abbrev Format := List FormatEntry

abbrev Values := List Bytes

namespace FormatEntry

def layout : Layout FormatEntry :=
  .map (.pair (.block 4) (.pair .byte (.blob "parameter description")))
    (fun e => (e.tag.bytes, e.type.code, e.description)) (fun (tag, code, text) => ⟨⟨tag⟩, ⟨code⟩, text⟩)

end FormatEntry

def valueLayout : Layout Bytes := .blob "parameter value"

def formatLayout : Layout Format := .records "parameter format" FormatEntry.layout

def valuesLayout : Layout Values := .records "item values" valueLayout

end PimSync.Schema
