import Fulfilment.Catalog
import Fulfilment.Text.Basic

/-!
# Files of variables

A file of variables has a line `NAME=value` for each variable. A line may begin with the word
`export`. A value may stand between quotation marks, in which case it may hold line breaks and
escapes; otherwise it ends before a blank with a number sign after it, which begins a comment. A
value may refer to other variables by `${NAME}` or `${NAME:-default}`. A line that is not well
formed is skipped.

## Main definitions

* `Dotenv.read` - the variables of a file, in order
-/

namespace Fulfilment.Dotenv

/-- Whether `c` ends a line. -/
def isBreak (c : Char) : Bool := c = '\n'

/-- Whether `c` is a blank that does not end a line. -/
def isInlineBlank (c : Char) : Bool := Text.isBlank c && !isBreak c

/-- The characters from the next line on. -/
def skipLine (cs : List Char) : List Char := (cs.dropWhile (!isBreak ·)).drop 1

/-- The letters that may follow a backslash in a value between double quotation marks, with the
characters they stand for. -/
def escapes : List (Char × Char) :=
  [('\x5c', '\x5c'), ('\x27', '\x27'), ('\x22', '\x22'), ('a', '\x07'), ('b', '\x08'),
    ('f', '\x0c'), ('n', '\n'), ('r', '\r'), ('t', '\t'), ('v', '\x0b')]

/-- A value with the given escapes resolved. -/
def unescape (known : List (Char × Char)) : List Char → List Char
  | [] => []
  | [c] => [c]
  | a :: b :: cs =>
    -- An escape that is not known stays as it is, with its backslash.
    if a = '\x5c' then
      match known.lookup b with
      | some c => c :: unescape known cs
      | none => a :: unescape known (b :: cs)
    else a :: unescape known (b :: cs)

/-- The value between quotation marks, and what follows it. A character after a backslash belongs to
the value, whatever it is. -/
def quoted? (mark : Char) : List Char → Option (List Char × List Char)
  | [] => none
  | [c] => if c = mark then some ([], []) else none
  | a :: b :: cs =>
    if a = mark then some ([], b :: cs)
    else if a = '\x5c' then (quoted? mark cs).map fun (v, r) => (a :: b :: v, r)
    else (quoted? mark (b :: cs)).map fun (v, r) => (a :: v, r)

/-- The characters before the first comment. A comment begins with a number sign after a blank. -/
def beforeComment : List Char → List Char
  | [] => []
  | c :: cs =>
    if Text.isBlank c ∧ (cs.dropWhile Text.isBlank).head? = some '#' then []
    else c :: beforeComment cs

/-- A value without quotation marks. -/
def bare (cs : List Char) : List Char :=
  ((beforeComment cs).reverse.dropWhile Text.isBlank).reverse

/-- A value after the equals sign, and what follows it on the line. A number sign that blanks part
from the equals sign begins a comment. -/
def value? (afterSign : List Char) : Option (List Char × List Char) :=
  let cs := afterSign.dropWhile isInlineBlank
  let isComment := cs.length < afterSign.length && cs.head? == some '#'
  match if isComment then cs.dropWhile (!isBreak ·) else cs with
  | '\x27' :: cs =>
    (quoted? '\x27' cs).map fun (v, r) => (unescape (escapes.take 2) v, r)
  | '\x22' :: cs => (quoted? '\x22' cs).map fun (v, r) => (unescape escapes v, r)
  | cs => some (bare (cs.takeWhile (!isBreak ·)), cs.dropWhile (!isBreak ·))

/-- What follows a comment at the end of a line and the line break, if nothing else is there. -/
def endOfLine? (cs : List Char) : Option (List Char) :=
  let cs := cs.dropWhile isInlineBlank
  let cs := if cs.head? = some '#' then cs.dropWhile (!isBreak ·) else cs
  match cs with
  | [] => some []
  | c :: cs => if isBreak c then some cs else none

/-- The characters after the word `export` and the blanks that follow it. -/
def skipExport (cs : List Char) : List Char :=
  let word := "export".toList
  if word.isPrefixOf cs ∧ ((cs.drop word.length).head?.map isInlineBlank).getD false then
    (cs.drop word.length).dropWhile isInlineBlank
  else cs

/-- The name of a variable, and what follows it. A comment has no name. -/
def name? (cs : List Char) : Option (Option String × List Char) :=
  match cs with
  | '#' :: _ => some (none, cs)
  | '\x27' :: cs =>
    match cs.takeWhile (· != '\x27'), cs.dropWhile (· != '\x27') with
    | [], _ => none
    | _, [] => none
    | name, _ :: rest => some (some (String.ofList name), rest)
  | cs =>
    let isPart (c : Char) := c != '=' && c != '#' && !Text.isBlank c
    match cs.takeWhile isPart with
    | [] => none
    | name => some (some (String.ofList name), cs.dropWhile isPart)

/-- What one line defines: a name with a value, unless there is no equals sign. -/
abbrev Binding := Option String × Option (List Char)

/-- The binding at the front, and what follows its line; or, for a line that is not well formed,
the place where it stops being so. -/
def binding (cs : List Char) : Except (List Char) (Binding × List Char) :=
  let cs := skipExport cs
  match name? cs with
  | none => .error cs
  | some (name, rest) =>
    let rest := rest.dropWhile isInlineBlank
    match rest with
    | '=' :: rest =>
      match value? rest with
      | none => .error rest
      | some (v, after) =>
        match endOfLine? after with
        | some cs => .ok ((name, some v), cs)
        | none => .error after
    | rest =>
      match endOfLine? rest with
      | some cs => .ok ((name, none), cs)
      | none => .error rest

/-- The bindings of a file. Each step takes at least one character, so that the length of the file
bounds their number. -/
def bindings : Nat → List Char → List Binding
  | 0, _ => []
  | n + 1, cs =>
    match cs.dropWhile Text.isBlank with
    | [] => []
    | cs =>
      match binding cs with
      | .ok (b, rest) => b :: bindings n rest
      -- Whatever is left of a line that is not well formed is passed over.
      | .error rest => bindings n (skipLine rest)

/-- A reference at the front of a value, after its dollar sign and brace: the name, the default, and
what follows. -/
def reference? (cs : List Char) : Option (List Char × List Char × List Char) :=
  let isName (c : Char) := c != '\x7d' && c != ':'
  let name := cs.takeWhile isName
  match cs.dropWhile isName with
  | '\x7d' :: rest => some (name, [], rest)
  | ':' :: '-' :: rest =>
    match rest.dropWhile (· != '\x7d') with
    | _ :: after => some (name, rest.takeWhile (· != '\x7d'), after)
    | [] => none
  | _ => none

/-- A value with its references replaced by the variables they name. Each step takes at least one
character. -/
def resolve (known : Catalog String (Option String)) : Nat → List Char → List Char
  | 0, cs => cs
  | _ + 1, [] => []
  | n + 1, c :: cs =>
    match c, cs with
    | '$', '\x7b' :: rest =>
      match reference? rest with
      | some (name, default, after) =>
        let found :=
          match known.get? (String.ofList name) with
          | some (some v) => v.toList
          -- A variable that was named without a value is empty, and has no use for the default.
          | some none => []
          | none => default
        found ++ resolve known n after
      | none => c :: resolve known n cs
    | c, cs => c :: resolve known n cs

/-- Enters a binding. A variable without a value counts as absent. -/
def enter (environment : Catalog String String) (before : Catalog String (Option String))
    (b : Binding) : Catalog String (Option String) :=
  match b with
  | (none, _) => before
  | (some name, none) => before.put name none
  | (some name, some v) =>
    let known := Catalog.overlay (environment.map fun e => (e.1, some e.2)) before
    before.put name (some (String.ofList (resolve known (v.length + 1) v)))

/-- The characters of a file without the mark of their encoding at the front. -/
def withoutMark : List Char → List Char
  | '\ufeff' :: cs => cs
  | cs => cs

/-- The characters of a file with a line feed at the end of each line, where a carriage return may
stand beside it or in its place. -/
def withLineFeeds : List Char → List Char
  | [] => []
  | '\r' :: '\n' :: cs => '\n' :: withLineFeeds cs
  | '\r' :: cs => '\n' :: withLineFeeds cs
  | c :: cs => c :: withLineFeeds cs

/-- The variables of a file, in order. References see the environment and the lines before. -/
def read (environment : Catalog String String) (file : String) : Catalog String (Option String) :=
  let cs := withLineFeeds (withoutMark file.toList)
  (bindings (cs.length + 1) cs).foldl (enter environment) []

end Fulfilment.Dotenv
