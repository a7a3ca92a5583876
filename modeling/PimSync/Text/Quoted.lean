import PimSync.Text.Columns
import PimSync.Text.Hidden

namespace PimSync.Text

def escapeChar (c : Char) : List Char :=
  match c with
  | '\x00' => ['\\', '0']
  | '\t' => ['\\', 't']
  | '\n' => ['\\', 'n']
  | '\r' => ['\\', 'r']
  | '"' => ['\\', '"']
  | '\\' => ['\\', '\\']
  | c => if isHidden c then "\\u\x7b".toList ++ (hex 1 c.toNat).toList ++ ['\x7d'] else [c]

def quoted (text : String) : String := String.ofList ('"' :: text.toList.flatMap escapeChar ++ ['"'])

def fields (name : String) (fs : List (String × String)) : String :=
  name ++ " \x7b " ++ ", ".intercalate (fs.map fun (field, value) => field ++ ": " ++ value) ++ " \x7d"

def wrapped (name value : String) : String := name ++ "(" ++ value ++ ")"

end PimSync.Text
