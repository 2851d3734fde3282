import HostedDelivery.Json.Text

/-!
# Writing YAML

`Json.yaml` writes a value as a YAML document in block style. Texts stand plain where they can, in quotes where they
could be taken for something else, and as blocks where they have several lines.
-/

namespace HostedDelivery.Json

/-- Texts that stand for something else when they stand plain. -/
def reservedWords : List String :=
  ["", "~", "null", "Null", "NULL", "true", "True", "TRUE", "false", "False", "FALSE"]

/-- Characters that mean something at the beginning of a plain text. -/
def leadingMarks : List Char :=
  ['-', '?', ':', ',', '[', ']', '\x7b', '\x7d', '#', '&', '*', '!', '|', '>', '\x27', '"', '%', '@', '\x60', ' ']

/-- Whether a text holds a colon or a number sign that would end it. -/
def isCut : List Char → Bool
  | [] => false
  | [c] => c = ':' || c = ' '
  | c :: d :: rest => (c = ':' && d = ' ') || (c = ' ' && d = '#') || isCut (d :: rest)

/-- Whether a text can stand plain. -/
def isPlain (s : String) : Bool :=
  !reservedWords.contains s
    && s.toList.head?.all (fun c => !leadingMarks.contains c && !c.isDigit && c ≠ '+' && c ≠ '.')
    && !isCut s.toList

/-- The quote around a text that cannot stand plain. -/
def apostrophe : Char := '\x27'

/-- A text on one line. -/
def yamlText (s : String) : String :=
  if isPlain s then s
  else "'" ++ String.ofList (s.toList.flatMap fun c => if c = apostrophe then [c, c] else [c]) ++ "'"

/-- The lines of a text. -/
def textLines : List Char → List (List Char)
  | [] => [[]]
  | c :: rest =>
    if c = '\n' then [] :: textLines rest
    else match textLines rest with
      | line :: lines => (c :: line) :: lines
      | [] => [[c]]

/-- Lines, of which the first begins with one text and the others with another. -/
def hanging (first rest : String) : List String → List String
  | [] => []
  | line :: lines => (first ++ line) :: lines.map (rest ++ ·)

mutual

/-- The lines of a value. -/
def yamlLines (a : Json) : List String :=
  match a with
  | .arr [] => ["[]"]
  | .obj [] => ["\x7b\x7d"]
  | .arr xs => yamlItems xs
  | .obj ms => yamlMembers ms
  | .str s =>
    match textLines s.toList with
    | [_] => [yamlText s]
    | lines => "|-" :: lines.map String.ofList
  | other => [other.render]
termination_by structural a

/-- The lines of the items of a list. -/
def yamlItems (a : List Json) : List String :=
  match a with
  | [] => []
  | x :: xs => hanging "- " "  " (yamlLines x) ++ yamlItems xs
termination_by structural a

/-- The lines of the members of an object. -/
def yamlMembers (a : List (String × Json)) : List String :=
  match a with
  | [] => []
  | m :: ms => yamlMember m ++ yamlMembers ms
termination_by structural a

/-- The lines of a member. Objects stand on lines of their own, further in; lists too, but no further in. -/
def yamlMember (a : String × Json) : List String :=
  match a with
  | (k, v) =>
    match v with
    | .arr (_ :: _) => (yamlText k ++ ":") :: yamlLines v
    | .obj (_ :: _) => (yamlText k ++ ":") :: (yamlLines v).map ("  " ++ ·)
    | _ => hanging (yamlText k ++ ": ") "  " (yamlLines v)
termination_by structural a

end

/-- A value as a YAML document. -/
def yaml (a : Json) : String := String.join (a.yamlLines.map (· ++ "\n"))

end HostedDelivery.Json
