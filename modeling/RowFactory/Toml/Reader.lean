import RowFactory.Toml.Text

/-! # Reading settings -/

namespace RowFactory.Toml

/-- Values, and keys, may be nested less deeply than this. -/
def nestingLimit : Nat := 80

def skipComment (text : List Char) : List Char :=
  match text with
  | '#' :: rest => rest.dropWhile isPlain
  | _ => text

def endLine (text : List Char) : Option (List Char) :=
  match skipComment (skipSpace text) with
  | [] => some []
  | rest => newline? rest

/-- A gap inside of a list: white space, comments and line ends. The fuel bounds the number of lines. -/
def skipGap : Nat → List Char → Option (List Char)
  | 0, _ => none
  | fuel + 1, text =>
    match skipSpace text with
    | '#' :: rest => newline? (rest.dropWhile isPlain) >>= skipGap fuel
    | '\n' :: rest => skipGap fuel rest
    | '\r' :: rest => newline? ('\r' :: rest) >>= skipGap fuel
    | rest => some rest

def isBareKey (c : Char) : Bool := c.isAlphanum || c = '-' || c = '_'

def readSimpleKey (text : List Char) : Option (String × List Char) :=
  match text with
  | '"' :: _ => readQuoted '"' text
  | '\'' :: _ => readQuoted '\'' text
  | c :: _ =>
    if isBareKey c then some (String.ofList (text.takeWhile isBareKey), text.dropWhile isBareKey)
    else none
  | [] => none

def readPath : Nat → List Char → Option (List String × List Char)
  | 0, _ => none
  | fuel + 1, text => do
    let (key, rest) ← readSimpleKey (skipSpace text)
    match skipSpace rest with
    | '.' :: rest => do
      let (keys, rest) ← readPath fuel rest
      return (key :: keys, rest)
    | rest => return ([key], rest)

def readKeys (text : List Char) : Option (List String × List Char) := readPath (nestingLimit - 1) text

mutual

/-- One value within `depth` others. The fuel bounds the number of nested and consecutive values. -/
def readValue : Nat → Nat → List Char → Option (Value × List Char)
  | 0, _, _ => none
  | fuel + 1, depth, text =>
    match text with
    | '"' :: _ => (readText '"' text).map fun (s, rest) => (.text s, rest)
    | '\'' :: _ => (readText '\'' text).map fun (s, rest) => (.text s, rest)
    | 't' :: _ => (afterWord? "true".toList text).map fun rest => (.flag true, rest)
    | 'f' :: _ => (afterWord? "false".toList text).map fun rest => (.flag false, rest)
    | '[' :: rest =>
      if depth + 1 < nestingLimit then do
        let (items, rest) ← readItems fuel (depth + 1) rest
        return (.array items, rest)
      else none
    | '\x7b' :: rest =>
      if depth + 1 < nestingLimit then
        match skipSpace rest with
        | '\x7d' :: rest => some (.table .closed [], rest)
        | rest => do
          let (entries, rest) ← readEntries fuel (depth + 1) rest
          let members ← assignAll entries []
          return (.table .closed members, rest)
      else none
    | _ => readScalar text

/-- The values of a list up to its closing bracket. A comma may follow the last one. -/
def readItems : Nat → Nat → List Char → Option (List Value × List Char)
  | 0, _, _ => none
  | fuel + 1, depth, text => do
    match ← skipGap (text.length + 1) text with
    | ']' :: rest => return ([], rest)
    | rest => do
      let (item, rest) ← readValue fuel depth rest
      match ← skipGap (rest.length + 1) rest with
      | ']' :: rest => return ([item], rest)
      | ',' :: rest => do
        let (items, rest) ← readItems fuel depth rest
        return (item :: items, rest)
      | _ => none

def readEntries : Nat → Nat → List Char → Option (List Entry × List Char)
  | 0, _, _ => none
  | fuel + 1, depth, text => do
    let (path, rest) ← readKeys text
    let rest ← afterWord? ['='] rest
    let (value, rest) ← readValue fuel depth (skipSpace rest)
    match skipSpace rest with
    | '\x7d' :: rest => return ([⟨path, value⟩], rest)
    | ',' :: rest => do
      let (entries, rest) ← readEntries fuel depth rest
      return (⟨path, value⟩ :: entries, rest)
    | _ => none

end

def readHeading (text : List Char) : Option (Heading × List Char) :=
  match text with
  | '[' :: rest => do
    let (path, rest) ← readKeys rest
    return (.element path, ← afterWord? [']', ']'] rest)
  | _ => do
    let (path, rest) ← readKeys text
    return (.table path, ← afterWord? [']'] rest)

/-- The entries up to the next heading, and the sections from there on. The fuel bounds the number of
lines. -/
def readSections : Nat → List Char → Option (List Entry × List Section)
  | 0, _ => none
  | fuel + 1, text =>
    match skipSpace text with
    | [] => some ([], [])
    | '[' :: rest => do
      let (heading, rest) ← readHeading rest
      let (entries, sections) ← readSections fuel (← endLine rest)
      return ([], ⟨heading, entries⟩ :: sections)
    | c :: rest =>
      if c = '#' ∨ c = '\n' ∨ c = '\r' then do
        readSections fuel (← endLine (c :: rest))
      else do
        let (path, rest) ← readKeys (c :: rest)
        let rest ← afterWord? ['='] rest
        let (value, rest) ← readValue (2 * rest.length + 2) 0 (skipSpace rest)
        let (entries, sections) ← readSections fuel (← endLine rest)
        return (⟨path, value⟩ :: entries, sections)

def byteOrderMark : Char := '\ufeff'

def read (text : String) : Option Json.Document := do
  let chars := text.toList
  let chars := if chars.head? = some byteOrderMark then chars.drop 1 else chars
  let (entries, sections) ← readSections (chars.length + 1) chars
  let members ← assemble entries sections
  return (Value.table .headed members).toDocument

def decode? {α : Type} (decode : Json.Document → Except Json.Error α) (text : String) : Option α := do
  (decode (← read text)).toOption

end RowFactory.Toml
