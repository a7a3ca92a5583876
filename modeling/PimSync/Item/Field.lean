import PimSync.Category
import PimSync.Schema.Format

namespace PimSync

open Schema

structure Field where
  tag : FieldTag
  type : FieldType
  name : String
deriving DecidableEq

namespace Field

def field (a b c d : Char) (type : FieldType) (name : String) : Field := ⟨.ascii a b c d, type, name⟩

def todo : List Field := [
  field 'S' 'Y' 'I' 'D' .long "sync_id",
  field 'A' 'T' 'T' 'R' .bit "attributes",
  field 'C' 'T' 'T' 'M' .time "created",
  field 'M' 'D' 'T' 'M' .time "modified",
  field 'C' 'T' 'G' 'R' .byteArray "category",
  field 'T' 'I' 'T' 'L' .utf8 "description",
  field 'M' 'E' 'M' '1' .utf8 "notes",
  field 'P' 'R' 'T' 'Y' .byte "priority",
  field 'P' 'R' 'G' 'S' .byte "progress",
  field 'S' 'T' 'D' 'T' .time "start_date",
  field 'D' 'U' 'D' 'T' .time "due_date",
  field 'C' 'M' 'D' 'T' .time "completed_date",
  field 'F' 'N' 'S' 'H' .bit "completed"]

def calendar : List Field := [
  field 'S' 'Y' 'I' 'D' .long "sync_id",
  field 'A' 'T' 'T' 'R' .bit "attributes",
  field 'C' 'T' 'T' 'M' .time "created",
  field 'M' 'D' 'T' 'M' .time "modified",
  field 'C' 'T' 'G' 'R' .byteArray "category",
  field 'D' 'S' 'C' 'R' .utf8 "description",
  field 'M' 'E' 'M' '1' .utf8 "notes",
  field 'P' 'L' 'C' 'E' .utf8 "location",
  field 'S' 'T' 'T' 'M' .time "start",
  field 'E' 'D' 'T' 'M' .time "end",
  field 'A' 'L' 'T' 'M' .time "alarm_time",
  field 'A' 'L' 'R' 'M' .word "alarm_lead",
  field 'A' 'L' 'S' 'D' .byte "alarm_sound",
  field 'A' 'D' 'A' 'Y' .bit "all_day",
  field 'R' 'T' 'Y' 'P' .byte "repeat_type",
  field 'R' 'F' 'R' 'Q' .word "repeat_frequency",
  field 'R' 'P' 'O' 'S' .word "repeat_position",
  field 'R' 'D' 'Y' 'S' .byte "repeat_days",
  field 'R' 'H' 'E' 'F' .bit "repeat_has_end",
  field 'R' 'E' 'T' 'M' .time "repeat_end",
  field 'T' 'M' 'Z' 'N' .utf8 "time_zone"]

def address : List Field := [
  field 'S' 'Y' 'I' 'D' .long "sync_id",
  field 'A' 'T' 'T' 'R' .bit "attributes",
  field 'C' 'T' 'T' 'M' .time "created",
  field 'M' 'D' 'T' 'M' .time "modified",
  field 'C' 'T' 'G' 'R' .byteArray "category",
  field 'F' 'U' 'L' 'L' .utf8 "full_name",
  field 'T' 'I' 'T' 'L' .utf8 "title",
  field 'F' 'N' 'M' 'E' .utf8 "first_name",
  field 'M' 'N' 'M' 'E' .utf8 "middle_name",
  field 'L' 'N' 'M' 'E' .utf8 "last_name",
  field 'S' 'U' 'F' 'X' .utf8 "suffix",
  field 'F' 'L' 'A' 'S' .utf8 "file_as",
  field 'F' 'N' 'P' 'R' .utf8 "first_name_pronunciation",
  field 'L' 'N' 'P' 'R' .utf8 "last_name_pronunciation",
  field 'C' 'P' 'P' 'R' .utf8 "company_pronunciation",
  field 'N' 'C' 'K' 'N' .utf8 "nickname",
  field 'C' 'M' 'P' 'Y' .utf8 "company",
  field 'D' 'E' 'P' 'T' .utf8 "department",
  field 'P' 'O' 'S' 'I' .utf8 "job_title",
  field 'P' 'R' 'O' 'F' .utf8 "profession",
  field 'O' 'F' 'F' 'C' .utf8 "office",
  field 'M' 'N' 'G' 'R' .utf8 "manager",
  field 'A' 'S' 'S' 'T' .utf8 "assistant",
  field 'E' 'M' 'A' 'L' .utf8 "emails",
  field 'D' 'E' 'M' 'L' .utf8 "default_email",
  field 'H' 'T' 'E' 'L' .utf8 "home_phone",
  field 'H' 'F' 'A' 'X' .utf8 "home_fax",
  field 'H' 'M' 'O' 'B' .utf8 "home_mobile",
  field 'H' 'A' 'D' 'R' .utf8 "home_street",
  field 'H' 'C' 'T' 'Y' .utf8 "home_city",
  field 'H' 'S' 'T' 'A' .utf8 "home_state",
  field 'H' 'Z' 'I' 'P' .utf8 "home_zip",
  field 'H' 'C' 'T' 'R' .utf8 "home_country",
  field 'H' 'W' 'E' 'B' .utf8 "home_web",
  field 'B' 'T' 'E' 'L' .utf8 "business_phone",
  field 'B' 'F' 'A' 'X' .utf8 "business_fax",
  field 'B' 'M' 'O' 'B' .utf8 "business_mobile",
  field 'B' 'P' 'G' 'R' .utf8 "business_pager",
  field 'B' 'A' 'D' 'R' .utf8 "business_street",
  field 'B' 'C' 'T' 'Y' .utf8 "business_city",
  field 'B' 'S' 'T' 'A' .utf8 "business_state",
  field 'B' 'Z' 'I' 'P' .utf8 "business_zip",
  field 'B' 'C' 'T' 'R' .utf8 "business_country",
  field 'B' 'W' 'E' 'B' .utf8 "business_web",
  field 'S' 'P' 'O' 'U' .utf8 "spouse",
  field 'G' 'E' 'N' 'D' .utf8 "gender",
  field 'B' 'R' 'T' 'H' .utf8 "birthday",
  field 'A' 'N' 'I' 'V' .utf8 "anniversary",
  field 'C' 'H' 'L' 'D' .utf8 "children",
  field 'M' 'E' 'M' '1' .utf8 "notes"]

end Field

def Category.fields : Category → List Field
  | .todo => Field.todo
  | .calendar => Field.calendar
  | .address => Field.address

def Category.defaultFormat (c : Category) : Format :=
  c.fields.map fun f => ⟨f.tag, .ofField f.type, Text.Utf8.encode f.name⟩

end PimSync
