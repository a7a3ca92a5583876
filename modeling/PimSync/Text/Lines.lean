import PimSync.Bytes

namespace PimSync.Text

def withoutReturn (line : List Char) : List Char := if line.getLast? = some '\r' then line.dropLast else line

def linesFrom (read : List Char) : List Char → List String
  | [] => if read.isEmpty then [] else [String.ofList read.reverse]
  | '\n' :: cs => String.ofList (withoutReturn read.reverse) :: linesFrom [] cs
  | c :: cs => linesFrom (c :: read) cs

def lines (text : String) : List String := linesFrom [] text.toList

end PimSync.Text
