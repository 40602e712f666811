import HostProbe.Settings.Tree

/-! Settings in environment variables: a name behind a common beginning, and a value in a small notation of its own. -/
namespace HostProbe.Settings

/-! ## Values

Numbers, truth values, text in quotes, lists in brackets and tables in braces; everything else is text as it stands. -/

def isValueSpace (c : Char) : Bool := c == ' ' || c == '\t' || c == '\n' || c == '\r' || c == '\x0c'

def isSeparator (c : Char) : Bool := ",[]\x7b\x7d".toList.contains c

def isNameChar (c : Char) : Bool := c.isAlphanum || c == '_' || c == '-'

def bareValue (t : Text) : Tree :=
  let t := Text.trim t
  match if t.contains '.' then Real.read? t else none with
  | some x => .real x
  | none =>
    match Integer.word? t, Integer.int64? t with
    | some n, _ => .int n
    | none, some n => .int n
    | none, none => .text (String.ofList t)

def unescape? : Text → Option (Char × Text)
  | 'b' :: rest => some ('\x08', rest)
  | 't' :: rest => some ('\t', rest)
  | 'n' :: rest => some ('\n', rest)
  | 'f' :: rest => some ('\x0c', rest)
  | 'r' :: rest => some ('\r', rest)
  | '"' :: rest => some ('"', rest)
  | '\\' :: rest => some ('\\', rest)
  | 'u' :: rest => numbered 4 rest
  | 'U' :: rest => numbered 8 rest
  | _ => none
where
  /-- A character by its number in so many digits. -/
  numbered (length : Nat) (t : Text) : Option (Char × Text) := do
    let digits ← (t.take length).mapM (Integer.digit? 16)
    let n := digits.foldl (fun n digit => n * 16 + digit) 0
    if digits.length = length && n.isValidChar then return (Char.ofNat n, t.drop length) else none

def quotedValue? : Nat → Text → Text → Option (Text × Text)
  | 0, _, _ => none
  | fuel + 1, found, t =>
    match t with
    | '"' :: rest => some (found.reverse, rest)
    | '\\' :: rest =>
      match unescape? rest with
      | some (c, rest) => quotedValue? fuel (c :: found) rest
      | none => none
    | c :: rest => quotedValue? fuel (c :: found) rest
    | [] => none

def memberName? (t : Text) : Option (Text × Text) :=
  match t with
  | '"' :: rest => quotedValue? (rest.length + 1) [] rest
  | t =>
    let name := t.takeWhile isNameChar
    if name.isEmpty then none else some (name, t.drop name.length)

mutual

/-- A value with the blanks around it, and what follows; the fuel bounds the text's length. -/
def value? : Nat → Text → Option (Tree × Text)
  | 0, _ => none
  | fuel + 1, t =>
    let found : Option (Tree × Text) := match t.dropWhile isValueSpace with
      | 't' :: 'r' :: 'u' :: 'e' :: rest => some (.bool true, rest)
      | 'f' :: 'a' :: 'l' :: 's' :: 'e' :: rest => some (.bool false, rest)
      | '[' :: rest => valueItems? fuel [] rest
      | '\x7b' :: rest => valueMembers? fuel [] rest
      | '"' :: rest => (quotedValue? (rest.length + 1) [] rest).map fun (t, rest) => (.text (String.ofList t), rest)
      | '\'' :: c :: '\'' :: rest => some (.text (String.singleton c), rest)
      | '\'' :: _ => none
      | t => some (bareValue (t.takeWhile fun c => !isSeparator c), t.dropWhile fun c => !isSeparator c)
    found.map fun (tree, rest) => (tree, rest.dropWhile isValueSpace)

/-- Items of a list up to its end, behind those that are known, last one first; a comma may stand before the end. -/
def valueItems? : Nat → List Tree → Text → Option (Tree × Text)
  | 0, _, _ => none
  | fuel + 1, known, t =>
    match t with
    | ']' :: rest => some (.list known.reverse, rest)
    | t => do
      let (item, rest) ← value? fuel t
      match rest with
      | ',' :: rest => valueItems? fuel (item :: known) rest
      | ']' :: rest => return (.list (item :: known).reverse, rest)
      | _ => none

def valueMembers? : Nat → List (String × Tree) → Text → Option (Tree × Text)
  | 0, _, _ => none
  | fuel + 1, known, t =>
    match t with
    | '\x7d' :: rest => some (.object known, rest)
    | t => do
      let (name, rest) ← memberName? (t.dropWhile isValueSpace)
      match rest.dropWhile isValueSpace with
      | '=' :: rest =>
        let (item, rest) ← value? fuel (rest.dropWhile isValueSpace)
        let known := Json.setMember (String.ofList name) item known
        match rest.dropWhile isValueSpace with
        | ',' :: rest => valueMembers? fuel known rest
        | '\x7d' :: rest => return (.object known, rest)
        | _ => none
      | _ => none

end

/-- The value that a variable's text stands for; what does not read to its end is text. -/
def variableValue (text : String) : Tree :=
  let t := text.toList
  match value? (2 * t.length + 4) t with
  | some (tree, []) => tree
  | _ => .text text

/-! ## Names -/

def variableStart (program : String) : String :=
  let upper := program.toUpper
  if program.toList.getLast? == some '_' then upper else upper ++ "_"

/-- The name of the setting in a variable's name, in lower case; the common beginning may be in any. -/
def settingName? (start name : String) : Option String := do
  let rest ← Text.dropPrefix? (Text.lower start.toList) (Text.lower name.toList)
  if (rest.splitOn '.').any List.isEmpty then none else some (String.ofList rest)

def ofVariables (start : String) (entries : List (String × String)) : Tree :=
  entries.foldl (fun tree (name, text) =>
    match settingName? start name with
    | some setting => tree.overlay (.nest (variableValue text) (names setting))
    | none => tree) (.object [])

def variableName (start key : String) : String := start ++ (flatten key).toUpper

end HostProbe.Settings
