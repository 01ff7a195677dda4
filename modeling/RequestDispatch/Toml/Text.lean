import RequestDispatch.Text.Basic
import RequestDispatch.Text.Utf8

/-!
# TOML texts

The lowest layer of TOML documents: blanks, comments, line ends and the four kinds of strings. Every
reader gives what it read and the characters after it.
-/

namespace RequestDispatch

namespace Toml

/-- What a reader gives: a value and the characters after it. -/
abbrev Reading (α : Type) := Option (α × List Char)

/-- Whether the character is a space or a tab. -/
def isSpace (c : Char) : Bool := c == ' ' || c == '\t'

/-- Whether the character may stand in a comment or a literal string. -/
def isPlain (c : Char) : Bool := c == '\t' || (32 ≤ c.toNat && c.toNat != 127)

/-- Passes over spaces and tabs. -/
def skipSpaces (cs : List Char) : List Char := cs.dropWhile isSpace

/-- The characters after a line end, if one comes first. -/
def lineEnd? : List Char → Option (List Char)
  | '\n' :: rest => some rest
  | '\r' :: '\n' :: rest => some rest
  | _ => none

/-- Passes over a comment, if one comes first. -/
def skipComment : List Char → List Char
  | '#' :: rest => rest.dropWhile isPlain
  | cs => cs

/-- Passes over spaces, line ends and comments, reading at most `limit` lines. -/
def skipLinesUpTo : Nat → List Char → List Char
  | 0, cs => cs
  | limit + 1, cs =>
    let after := skipComment (skipSpaces cs)
    match lineEnd? after with
    | some rest => skipLinesUpTo limit rest
    | none => after

/-- Passes over spaces, line ends and comments. -/
def skipLines (cs : List Char) : List Char := skipLinesUpTo (cs.length + 1) cs

/-- The value of a hexadecimal digit. -/
def hexValue? (c : Char) : Option Nat :=
  let n := c.toNat
  if 48 ≤ n ∧ n ≤ 57 then some (n - 48)
  else if 65 ≤ n ∧ n ≤ 70 then some (n - 55)
  else if 97 ≤ n ∧ n ≤ 102 then some (n - 87)
  else none

/-- The character that a number of hexadecimal digits names. -/
def readCodePoint (count : Nat) (cs : List Char) : Reading Char :=
  let digits := cs.take count
  if digits.length = count then
    (digits.mapM hexValue?).bind fun values =>
      let code := values.foldl (fun n d => n * 16 + d) 0
      if code.isValidChar then some (Char.ofNat code, cs.drop count) else none
  else none

/-- The character that an escape stands for, from the character after the backslash on. -/
def readEscape : List Char → Reading Char
  | 'u' :: rest => readCodePoint 4 rest
  | 'U' :: rest => readCodePoint 8 rest
  | c :: rest =>
    let plain : List (Char × Char) :=
      [('b', '\x08'), ('t', '\t'), ('n', '\n'), ('f', '\x0c'), ('r', '\r'), ('"', '"'),
        ('\\', '\\')]
    (plain.lookup c).map fun meant => (meant, rest)
  | [] => none

/-- Reads a basic string after its opening quote. The first argument bounds the number of
characters; `done` holds those read so far, backwards. -/
def basicFrom : Nat → List Char → List Char → Reading String
  | 0, _, _ => none
  | _ + 1, _, [] => none
  | limit + 1, done, c :: rest =>
    if c = '"' then some (String.ofList done.reverse, rest)
    else if c = '\\' then
      match readEscape rest with
      | some (meant, rest) => basicFrom limit (meant :: done) rest
      | none => none
    else if isPlain c then basicFrom limit (c :: done) rest
    else none

/-- Reads a literal string after its opening quote. -/
def literal (cs : List Char) : Reading String :=
  let inside := cs.takeWhile fun c => c != '\'' && isPlain c
  match cs.drop inside.length with
  | '\'' :: rest => some (String.ofList inside, rest)
  | _ => none

/-- Counts the quotes that come first, up to five, and gives what comes after them. -/
def countQuotes (quote : Char) (cs : List Char) : Nat × List Char :=
  let run := ((cs.take 5).takeWhile (· == quote)).length
  (run, cs.drop run)

/-- Reads a string of several lines after its opening quotes and the line end that follows them. Up
to two quotes may stand right before the three that close it. With escapes, a backslash before a
line end swallows all white space up to the next other character. -/
def linesFrom (quote : Char) (escapes : Bool) : Nat → List Char → List Char → Reading String
  | 0, _, _ => none
  | _ + 1, _, [] => none
  | limit + 1, done, c :: rest =>
    if c = quote then
      let (run, after) := countQuotes quote (c :: rest)
      let done := List.replicate (if run < 3 then run else run - 3) quote ++ done
      if run < 3 then linesFrom quote escapes limit done after
      else some (String.ofList done.reverse, after)
    else if c = '\\' ∧ escapes then
      match readEscape rest with
      | some (meant, rest) => linesFrom quote escapes limit (meant :: done) rest
      | none =>
        match lineEnd? (skipSpaces rest) with
        | some rest =>
          linesFrom quote escapes limit done
            (rest.dropWhile fun c => isSpace c || c == '\n' || c == '\r')
        | none => none
    else
      match lineEnd? (c :: rest) with
      | some rest => linesFrom quote escapes limit ('\n' :: done) rest
      | none => if isPlain c then linesFrom quote escapes limit (c :: done) rest else none

/-- The characters without a line end that comes first. -/
def dropLineEnd (cs : List Char) : List Char := (lineEnd? cs).getD cs

/-- Reads a string of one line. -/
def shortString : List Char → Reading String
  | '"' :: rest => basicFrom (rest.length + 1) [] rest
  | '\'' :: rest => literal rest
  | _ => none

/-- Reads a string of any kind. -/
def readString : List Char → Reading String
  | '"' :: '"' :: '"' :: rest => linesFrom '"' true (rest.length + 1) [] (dropLineEnd rest)
  | '\'' :: '\'' :: '\'' :: rest => linesFrom '\'' false (rest.length + 1) [] (dropLineEnd rest)
  | cs => shortString cs

end Toml

end RequestDispatch
