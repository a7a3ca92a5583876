import PimSync.Text.Columns

namespace PimSync.Text

inductive Json where
  | bool (b : Bool)
  | number (n : Nat)
  | text (s : String)
  | list (elements : List Json)
  | object (fields : List (String × Json))

namespace Json

def escapeChar (c : Char) : List Char :=
  match c with
  | '"' => ['\\', '"']
  | '\\' => ['\\', '\\']
  | '\x08' => ['\\', 'b']
  | '\x0c' => ['\\', 'f']
  | '\n' => ['\\', 'n']
  | '\r' => ['\\', 'r']
  | '\t' => ['\\', 't']
  | c => if c.toNat < 0x20 then '\\' :: 'u' :: (hex 4 c.toNat).toList else [c]

def quoted (text : String) : String := String.ofList ('"' :: text.toList.flatMap escapeChar ++ ['"'])

def margin (depth : Nat) : String := String.ofList (List.replicate (2 * depth) ' ')

def bracketed (opening closing : String) (depth : Nat) (parts : List String) : String :=
  if parts.isEmpty then opening ++ closing
  else
    let lines := parts.map (margin (depth + 1) ++ ·)
    opening ++ "\n" ++ ",\n".intercalate lines ++ "\n" ++ margin depth ++ closing

mutual

def render (depth : Nat) : Json → String
  | bool b => if b then "true" else "false"
  | number n => decimal n
  | text s => quoted s
  | list elements => bracketed "[" "]" depth (renderList (depth + 1) elements)
  | object fields => bracketed "\x7b" "\x7d" depth (renderFields (depth + 1) fields)

def renderList (depth : Nat) : List Json → List String
  | [] => []
  | e :: es => render depth e :: renderList depth es

def renderField (depth : Nat) : String × Json → String
  | (name, v) => quoted name ++ ": " ++ render depth v

def renderFields (depth : Nat) : List (String × Json) → List String
  | [] => []
  | f :: fs => renderField depth f :: renderFields depth fs

end

def pretty (j : Json) : String := render 0 j

def keys : Json → List String
  | object fields => fields.map Prod.fst
  | _ => []

end Json

end PimSync.Text
