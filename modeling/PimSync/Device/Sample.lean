import PimSync.Device.Basic
import PimSync.Item.Values

namespace PimSync.Device.Sample

open Schema

def info : DeviceInfo := ⟨Text.Utf8.encode "Zaurus SL-C3200", ⟨[0x65, 0x6e], rfl⟩, 0⟩

def time : ClockTime :=
  ⟨⟨[0x32, 0x30, 0x32, 0x34, 0x30, 0x33, 0x31, 0x35, 0x30, 0x39, 0x33, 0x30, 0x30, 0x30], rfl⟩, rfl⟩

def todoFormat : Format :=
  let format := Category.todo.defaultFormat
  format.take 2 ++ ⟨.ascii 'X' 'P' 'R' 'V', .ofField .byteArray, Text.Utf8.encode "private"⟩ :: format.drop 2

def task (id : UInt32) (title label : String) : Item :=
  Item.blank .todo
    |>.set (.ascii 'S' 'Y' 'I' 'D') .long (some id)
    |>.set (.ascii 'T' 'I' 'T' 'L') .utf8 (some title)
    |>.set (.ascii 'C' 'T' 'G' 'R') .byteArray (some (Text.Utf8.encode label))
    |>.set (.ascii 'P' 'R' 'T' 'Y') .byte (some 2)

def todoDevice : Device :=
  { Device.new info time with
    flags := ⟨Flags.bit .calendar ||| Flags.bit .address⟩
    storagePath := Text.Utf8.encode "/home/zaurus/Applications" }
    |>.withFormat .todo todoFormat
    |>.addNew .todo 7 ((task 7 "Buy milk" "Work").values todoFormat)
    |>.addModified .todo 9 ((task 9 "Call the dentist" "Personal").values todoFormat)
    |>.addDeleted .todo 3

end PimSync.Device.Sample
