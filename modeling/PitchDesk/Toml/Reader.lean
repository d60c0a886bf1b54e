import PitchDesk.Toml.Scalar

/-!
# Reading TOML documents

A document is read line by line: headers open tables, and lines with a key give it a value in the
table that was opened last. Arrays and tables written in line may spread over lines.

The texts that are taken for TOML are those that the library toml 0.9 takes, which reads version
1.1 of the format: a byte order mark before the document does not count, no key and no table may be
given twice, integers have 64 bits, and values nest to a fixed depth. Every result on what a
configuration file says rests on this reading.
-/

namespace PitchDesk.Toml

/-- How deeply arrays and tables written in line may stand inside one another, and how many keys
may stand in a row with dots between them. -/
def maxDepth : Nat := 80

/-! ### Blanks, comments and line ends -/

/-- Leaves out blanks, line ends and comments; `comment` tells whether a comment goes on. -/
def gap? (comment : Bool) : List Char → Option (List Char)
  | [] => some []
  | '\n' :: cs => gap? false cs
  | '\r' :: '\n' :: cs => gap? false cs
  | c :: cs =>
    if comment then (if isPlain c then gap? true cs else none)
    else if isGap c then gap? false cs
    else if c = '#' then gap? true cs
    else some (c :: cs)

/-- Leaves out the rest of a comment, up to the end of its line. -/
def comment? : List Char → Option (List Char)
  | [] => some []
  | '\n' :: cs => some cs
  | '\r' :: '\n' :: cs => some cs
  | c :: cs => if isPlain c then comment? cs else none

/-- Leaves out the end of a line, where nothing but blanks and a comment may stand. -/
def lineEnd? (cs : List Char) : Option (List Char) :=
  match cs.dropWhile isGap with
  | [] => some []
  | '\n' :: cs => some cs
  | '\r' :: '\n' :: cs => some cs
  | '#' :: cs => comment? cs
  | _ => none

/-! ### Keys -/

/-- Characters of a key without quotes. -/
def isBare (c : Char) : Bool :=
  c.isAlphanum || c == '_' || c == '-'

/-- Reads one key, with or without quotes. -/
def simpleKey? (cs : List Char) : Option (String × List Char) :=
  match cs.span isBare with
  | ([], cs) => (line? cs).map fun (key, rest) ↦ (String.ofList key, rest)
  | (key, rest) => some (String.ofList key, rest)

/-- Reads a key and the keys before it, between which dots stand. At most `fuel` keys are read. -/
def key? : Nat → List Char → Option (List String × String × List Char)
  | 0, _ => none
  | fuel + 1, cs => do
    let (k, rest) ← simpleKey? (cs.dropWhile isGap)
    match rest.dropWhile isGap with
    | '.' :: rest =>
      let (ks, last, rest) ← key? fuel rest
      return (k :: ks, last, rest)
    | rest => return ([], k, rest)

/-- Reads a key and the equals sign after it. -/
def keyOfValue? (cs : List Char) : Option (List String × String × List Char) :=
  match key? maxDepth cs with
  | some (ks, k, '=' :: rest) => some (ks, k, rest.dropWhile isGap)
  | _ => none

/-! ### Values -/

mutual

/-- Reads a value from the front. No more than `fuel` values and brackets are read, and brackets go
no deeper than `depth`. -/
def value? (depth : Nat) : Nat → List Char → Option (Toml × List Char)
  | 0, _ => none
  | fuel + 1, cs =>
    match cs with
    | '[' :: cs =>
      if depth = 0 then none
      else (items? (depth - 1) fuel cs).map fun (items, rest) ↦ (.array items, rest)
    | '\x7b' :: cs =>
      if depth = 0 then none
      else (members? (depth - 1) fuel [] cs).map fun (ms, rest) ↦ (.table .inline ms, rest)
    | '"' :: _ | '\'' :: _ =>
      (string? cs).map fun (s, rest) ↦ (.text (String.ofList s), rest)
    | cs =>
      let (token, rest) := cutToken cs
      (ofToken? token).map (·, rest)

/-- Reads the items of an array after its bracket or a comma. -/
def items? (depth : Nat) : Nat → List Char → Option (List Toml × List Char)
  | 0, _ => none
  | fuel + 1, cs => do
    match ← gap? false cs with
    | ']' :: rest => return ([], rest)
    | cs =>
      let (v, rest) ← value? depth fuel cs
      match ← gap? false rest with
      | ']' :: rest => return ([v], rest)
      | ',' :: rest =>
        let (vs, rest) ← items? depth fuel rest
        return (v :: vs, rest)
      | _ => none

/-- Reads the members of a table written in line after its brace or a comma. -/
def members? (depth : Nat) : Nat → Members → List Char → Option (Members × List Char)
  | 0, _, _ => none
  | fuel + 1, ms, cs => do
    match ← gap? false cs with
    | '\x7d' :: rest => return (ms, rest)
    | cs =>
      let (ks, k, rest) ← keyOfValue? cs
      let (v, rest) ← value? depth fuel rest
      let ms ← assign? .inline false ks k v ms
      match ← gap? false rest with
      | '\x7d' :: rest => return (ms, rest)
      | ',' :: rest => members? depth fuel ms rest
      | _ => none

end

/-! ### Documents -/

/-- Reads what follows the bracket of a header: the keys that lead to its table, and the rest after
the closing bracket. -/
def header? (cs : List Char) : Option (List String × String × List Char) :=
  match key? maxDepth cs with
  | some (ks, k, ']' :: rest) => some (ks, k, rest)
  | _ => none

/-- Reads the lines of a document into its members. `opened` leads to the table that was opened
last. At most `fuel` lines are read. -/
def lines? : Nat → List String → Members → List Char → Option Members
  | 0, _, _, _ => none
  | fuel + 1, opened, root, cs => do
    match cs.dropWhile isGap with
    | [] => return root
    | '\n' :: rest => lines? fuel opened root rest
    | '\r' :: '\n' :: rest => lines? fuel opened root rest
    | '#' :: rest => lines? fuel opened root (← comment? rest)
    | '[' :: '[' :: rest =>
      match ← header? rest with
      | (ks, k, ']' :: rest) =>
        lines? fuel (ks ++ [k]) (← openItem? ks k root) (← lineEnd? rest)
      | _ => none
    | '[' :: rest =>
      let (ks, k, rest) ← header? rest
      lines? fuel (ks ++ [k]) (← openTable? ks k root) (← lineEnd? rest)
    | cs =>
      let (ks, k, rest) ← keyOfValue? cs
      let (v, rest) ← value? maxDepth (2 * rest.length + 2) rest
      lines? fuel opened (← within? opened (assign? .header false ks k v) root) (← lineEnd? rest)

/-- Reads a document. A byte order mark before it does not count. -/
def read? (text : String) : Option Members :=
  let cs := match text.toList with
    | '\uFEFF' :: cs => cs
    | cs => cs
  lines? (cs.length + 1) [] [] cs

end PitchDesk.Toml
