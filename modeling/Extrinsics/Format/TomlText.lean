import Extrinsics.Format.Toml
import Extrinsics.Text.Hex

/-!
# TOML texts

The reading of a TOML text as a document. Each reader takes the text from where it stands
and gives what it has read with the text after it, or nothing if the text has a wrong form.
-/

namespace Extrinsics.TomlText

/-! ### Blanks, comments and line ends -/

/-- Whether a character is a blank within a line. -/
def isSpace (c : Char) : Bool := c = ' ' || c = '\t'

/-- Whether a character may stand in a comment, and in strings if it is not special there. -/
def isPlain (c : Char) : Bool :=
  let n := c.toNat
  n = 9 || (0x20 ≤ n && n ≤ 0x7E) || 0x80 ≤ n

/-- A text from its first character that is not a blank. -/
def skipSpaces (s : List Char) : List Char := s.dropWhile isSpace

/-- A text after the comment it may begin with. -/
def skipComment : List Char → List Char
  | '#' :: s => s.dropWhile isPlain
  | s => s

/-- A text after its first line end. -/
def newline? : List Char → Option (List Char)
  | '\n' :: s => some s
  | '\r' :: '\n' :: s => some s
  | _ => none

/-- A text after the end of a line, which may have a comment. -/
def endLine? (s : List Char) : Option (List Char) :=
  match skipComment (skipSpaces s) with
  | [] => some []
  | s => newline? s

/-- A text after blanks, line ends and comments, from within a comment or not. -/
def skipGaps (comment : Bool) : List Char → List Char
  | [] => []
  | '\r' :: '\n' :: s => skipGaps false s
  | c :: s =>
    if c = '\n' then skipGaps false s
    else if comment then if isPlain c then skipGaps true s else c :: s
    else if c = '#' then skipGaps true s
    else if isSpace c then skipGaps false s
    else c :: s

/-! ### Strings -/

/-- The character of a short escape. -/
def shortEscape? (c : Char) : Option Char :=
  if c = 'b' then some '\x08'
  else if c = 'f' then some '\x0c'
  else if c = 'n' then some '\n'
  else if c = 'r' then some '\r'
  else if c = 't' then some '\t'
  else if c = '"' || c = '\\' then some c
  else none

/-- The character with a number in base sixteen. Surrogates are no characters. -/
def numbered? (digits : List Char) : Option Char := do
  let values ← digits.mapM Hex.value?
  let n := values.foldl (fun n d => 16 * n + d) 0
  if n < 0xD800 || (0xE000 ≤ n && n < 0x110000) then some (Char.ofNat n) else none

/-- One more character in front of a string that has been read. -/
def cons (c : Char) (r : List Char × List Char) : List Char × List Char := (c :: r.1, r.2)

/-- A string with escapes, after its opening quote. -/
def readBasic : List Char → Option (List Char × List Char)
  | [] => none
  | '"' :: s => some ([], s)
  | '\\' :: 'u' :: a :: b :: c :: d :: s => do
    let x ← numbered? [a, b, c, d]
    return cons x (← readBasic s)
  | '\\' :: 'U' :: a :: b :: c :: d :: e :: f :: g :: h :: s => do
    let x ← numbered? [a, b, c, d, e, f, g, h]
    return cons x (← readBasic s)
  | '\\' :: e :: s => do
    let x ← shortEscape? e
    return cons x (← readBasic s)
  | c :: s => if isPlain c && c ≠ '\\' then (readBasic s).map (cons c) else none

/-- A string with escapes on several lines, after its opening quotes. It may end with one or
two quotes of its own. A backslash at the end of a line takes the line end away with the
blanks and line ends after it, and these are taken away while `swallow` is set. -/
def readLongBasic (swallow : Bool) : List Char → Option (List Char × List Char)
  | [] => none
  | '"' :: '"' :: '"' :: '"' :: '"' :: s => some (['"', '"'], s)
  | '"' :: '"' :: '"' :: '"' :: s => some (['"'], s)
  | '"' :: '"' :: '"' :: s => some ([], s)
  | '\\' :: 'u' :: a :: b :: c :: d :: s => do
    let x ← numbered? [a, b, c, d]
    return cons x (← readLongBasic false s)
  | '\\' :: 'U' :: a :: b :: c :: d :: e :: f :: g :: h :: s => do
    let x ← numbered? [a, b, c, d, e, f, g, h]
    return cons x (← readLongBasic false s)
  | '\\' :: e :: s =>
    if (newline? (skipSpaces (e :: s))).isSome then readLongBasic true s
    else do
      let x ← shortEscape? e
      return cons x (← readLongBasic false s)
  | '\r' :: '\n' :: s =>
    if swallow then readLongBasic true s else (readLongBasic false s).map (cons '\n')
  | c :: s =>
    if swallow && (isSpace c || c = '\n') then readLongBasic true s
    else if (isPlain c && c ≠ '\\') || c = '\n' then (readLongBasic false s).map (cons c)
    else none

/-- A string without escapes, after its opening apostrophe. -/
def readLiteral : List Char → Option (List Char × List Char)
  | [] => none
  | '\x27' :: s => some ([], s)
  | c :: s => if isPlain c then (readLiteral s).map (cons c) else none

/-- A string without escapes on several lines, after its opening apostrophes. It may end
with one or two apostrophes of its own. -/
def readLongLiteral : List Char → Option (List Char × List Char)
  | [] => none
  | '\x27' :: '\x27' :: '\x27' :: '\x27' :: '\x27' :: s => some (['\x27', '\x27'], s)
  | '\x27' :: '\x27' :: '\x27' :: '\x27' :: s => some (['\x27'], s)
  | '\x27' :: '\x27' :: '\x27' :: s => some ([], s)
  | '\r' :: '\n' :: s => (readLongLiteral s).map (cons '\n')
  | c :: s => if isPlain c || c = '\n' then (readLongLiteral s).map (cons c) else none

/-- A text after the line end it may begin with. -/
def skipNewline (s : List Char) : List Char := (newline? s).getD s

/-- A string of any of the four kinds. -/
def readString : List Char → Option (List Char × List Char)
  | '"' :: '"' :: '"' :: s => readLongBasic false (skipNewline s)
  | '"' :: s => readBasic s
  | '\x27' :: '\x27' :: '\x27' :: s => readLongLiteral (skipNewline s)
  | '\x27' :: s => readLiteral s
  | _ => none

/-! ### Keys -/

/-- Whether a character may stand in a key without quotes. -/
def isBare (c : Char) : Bool := c.isAlphanum || c = '_' || c = '-'

/-- One part of a key. -/
def readKeyPart : List Char → Option (String × List Char)
  | '"' :: s => (readBasic s).map fun r => (String.ofList r.1, r.2)
  | '\x27' :: s => (readLiteral s).map fun r => (String.ofList r.1, r.2)
  | s =>
    if (s.takeWhile isBare).isEmpty then none
    else some (String.ofList (s.takeWhile isBare), s.dropWhile isBare)

/-- The parts of a dotted key, as many as the first argument at most. -/
def readKeyParts : Nat → List Char → Option (List String × List Char)
  | 0, _ => none
  | parts + 1, s => do
    let (k, s) ← readKeyPart (skipSpaces s)
    match skipSpaces s with
    | '.' :: s => do
      let (ks, s) ← readKeyParts parts s
      return (k :: ks, s)
    | s => return ([k], s)

/-- The greatest number of parts of a key, and of values around a value. -/
def depthLimit : Nat := 79

/-- A dotted key. -/
def readKey (s : List Char) : Option (List String × List Char) := readKeyParts depthLimit s

/-! ### Numbers -/

/-- Digits, with single underscores between them, and the text after them. The flag tells
that a digit has just been read. -/
def readDigits (isDigit : Char → Bool) (afterDigit : Bool) :
    List Char → Option (List Char × List Char)
  | [] => if afterDigit then some ([], []) else none
  | c :: s =>
    if isDigit c then (readDigits isDigit true s).map (cons c)
    else if !afterDigit then none
    else if c = '_' then readDigits isDigit false s
    else some ([], c :: s)

/-- The number of digits in a base. -/
def valueOf (base : Nat) (digits : List Char) : Nat :=
  digits.foldl (fun n c => base * n + (Hex.value? c).getD 0) 0

/-- The sign a number may have, and whether it is a minus. -/
def readSign : List Char → Bool × List Char
  | '+' :: s => (false, s)
  | '-' :: s => (true, s)
  | s => (false, s)

/-- The digits of a whole part, where a zero stands alone. -/
def readWholePart : List Char → Option (List Char × List Char)
  | '0' :: s => some (['0'], s)
  | s => readDigits Char.isDigit false s

/-- An exponent, after its letter. -/
def readExponent (s : List Char) : Option (Int × List Char) := do
  let (down, s) := readSign s
  let (digits, s) ← readDigits Char.isDigit false s
  let n : Int := valueOf 10 digits
  return (if down then -n else n, s)

/-- The exponent that may follow a fraction. -/
def readExponent? : List Char → Option (Int × List Char)
  | 'e' :: s => readExponent s
  | 'E' :: s => readExponent s
  | s => some (0, s)

/-- A decimal number that is not too great for a binary64 number. -/
def realOf (negative : Bool) (digits : List Char) (exponent : Int) : Option Toml :=
  match Binary64.ofDecimal negative (valueOf 10 digits) exponent with
  | .infinite false => none
  | x => some (.real x)

/-- A whole number of 64 bits. -/
def wholeOf (negative : Bool) (n : Nat) : Option Toml :=
  if negative then if n ≤ 1 <<< 63 then some (.whole (-n)) else none
  else if n < 1 <<< 63 then some (.whole n) else none

/-- A decimal number with a sign, a fraction and an exponent, of which all may lack. -/
def readDecimal (s : List Char) : Option (Toml × List Char) := do
  let (negative, s) := readSign s
  let (whole, s) ← readWholePart s
  match s with
  | '.' :: s => do
    let (fraction, s) ← readDigits Char.isDigit false s
    let (e, s) ← readExponent? s
    return (← realOf negative (whole ++ fraction) (e - fraction.length), s)
  | 'e' :: _ => do
    let (e, s) ← readExponent? s
    return (← realOf negative whole e, s)
  | 'E' :: _ => do
    let (e, s) ← readExponent? s
    return (← realOf negative whole e, s)
  | s => return (← wholeOf negative (valueOf 10 whole), s)

/-- A whole number in a base other than ten, after the letter for the base. -/
def readBased (base : Nat) (s : List Char) : Option (Toml × List Char) := do
  let isDigit (c : Char) : Bool := (Hex.value? c).any (· < base)
  let (digits, s) ← readDigits isDigit false s
  return (← wholeOf false (valueOf base digits), s)

/-- The two numbers that are written as words, after their sign. -/
def readWordNumber (negative : Bool) : List Char → Option (Toml × List Char)
  | 'i' :: 'n' :: 'f' :: s => some (.real (.infinite negative), s)
  | 'n' :: 'a' :: 'n' :: s => some (.real .nan, s)
  | _ => none

/-- A number. -/
def readNumber : List Char → Option (Toml × List Char)
  | '0' :: 'x' :: s => readBased 16 s
  | '0' :: 'o' :: s => readBased 8 s
  | '0' :: 'b' :: s => readBased 2 s
  | s =>
    let (negative, t) := readSign s
    (readWordNumber negative t).or (readDecimal s)

/-! ### Dates and times -/

/-- A number of exactly `count` digits between two bounds. -/
def readCounted (count low high : Nat) (s : List Char) : Option (List Char × List Char) :=
  let digits := s.take count
  let n := valueOf 10 digits
  if digits.length = count && digits.all Char.isDigit && low ≤ n && n ≤ high then
    some (digits, s.drop count)
  else none

/-- A text after the character it must begin with. -/
def expect (c : Char) : List Char → Option (List Char)
  | d :: s => if d = c then some s else none
  | [] => none

/-- The number of days of a month. -/
def daysIn (year month : Nat) : Nat :=
  if month = 2 then
    if (year % 4 = 0 && year % 100 ≠ 0) || year % 400 = 0 then 29 else 28
  else if month = 4 || month = 6 || month = 9 || month = 11 then 30
  else 31

/-- A date, with its text. -/
def readDate (s : List Char) : Option (List Char × List Char) := do
  let (year, s) ← readCounted 4 0 9999 s
  let s ← expect '-' s
  let (month, s) ← readCounted 2 1 12 s
  let s ← expect '-' s
  let (day, s) ← readCounted 2 1 (daysIn (valueOf 10 year) (valueOf 10 month)) s
  return (year ++ '-' :: month ++ '-' :: day, s)

/-- The fraction of a second that may follow, to nine places and without zeros at its end. -/
def readFraction : List Char → Option (List Char × List Char)
  | '.' :: s =>
    if (s.takeWhile Char.isDigit).isEmpty then none
    else
      let places := (s.takeWhile Char.isDigit).take 9
      let places := (places.reverse.dropWhile (· = '0')).reverse
      some (if places.isEmpty then [] else '.' :: places, s.dropWhile Char.isDigit)
  | s => some ([], s)

/-- A time of day, with its text. -/
def readTime (s : List Char) : Option (List Char × List Char) := do
  let (hour, s) ← readCounted 2 0 23 s
  let s ← expect ':' s
  let (minute, s) ← readCounted 2 0 59 s
  let s ← expect ':' s
  let (second, s) ← readCounted 2 0 60 s
  let (fraction, s) ← readFraction s
  return (hour ++ ':' :: minute ++ ':' :: second ++ fraction, s)

/-- The distance to universal time that may follow a time, with its text. -/
def readOffset : List Char → Option (List Char × List Char)
  | 'Z' :: s => some (['Z'], s)
  | 'z' :: s => some (['Z'], s)
  | c :: s =>
    if c = '+' || c = '-' then do
      let (hour, s) ← readCounted 2 0 23 s
      let s ← expect ':' s
      let (minute, s) ← readCounted 2 0 59 s
      let sign := if (hour ++ minute).all (· = '0') then '+' else c
      return (sign :: hour ++ ':' :: minute, s)
    else some ([], c :: s)
  | [] => some ([], [])

/-- The time that may follow a date, with its text. A blank leads to a time only if one is
there. -/
def readTimeAfterDate : List Char → Option (List Char × List Char)
  | c :: s =>
    if c = 'T' || c = 't' then withOffset s
    else if c = ' ' then (withOffset s).or (some ([], c :: s))
    else some ([], c :: s)
  | [] => some ([], [])
where
  /-- A time with the distance to universal time. -/
  withOffset (s : List Char) : Option (List Char × List Char) := do
    let (time, s) ← readTime s
    let (offset, s) ← readOffset s
    return ('T' :: time ++ offset, s)

/-- A date, a time or both. -/
def readMoment (s : List Char) : Option (Toml × List Char) :=
  match readDate s with
  | some (date, s) => do
    let (time, s) ← readTimeAfterDate s
    return (.moment (String.ofList (date ++ time)), s)
  | none => do
    let (time, s) ← readTime s
    return (.moment (String.ofList time), s)

/-! ### Values -/

/-- A value that holds no other values. -/
def readScalar (s : List Char) : Option (Toml × List Char) :=
  match s with
  | 't' :: 'r' :: 'u' :: 'e' :: s => some (.flag true, s)
  | 'f' :: 'a' :: 'l' :: 's' :: 'e' :: s => some (.flag false, s)
  | '"' :: _ => (readString s).map fun r => (.text (String.ofList r.1), r.2)
  | '\x27' :: _ => (readString s).map fun r => (.text (String.ofList r.1), r.2)
  | _ => (readMoment s).or (readNumber s)

/-- The items of an array, after its opening bracket or a comma. The number bounds the
items. -/
def readItems (read : List Char → Option (Toml × List Char)) :
    Nat → List Char → Option (List Toml × List Char)
  | 0, _ => none
  | bound + 1, s =>
    match skipGaps false s with
    | ']' :: s => some ([], s)
    | s => do
      let (v, s) ← read s
      match skipGaps false s with
      | ']' :: s => return ([v], s)
      | ',' :: s => do
        let (items, s) ← readItems read bound s
        return (v :: items, s)
      | _ => none

/-- The pairs of an inline table, after its opening brace or a comma, added to those that
have been read. The number bounds the pairs. -/
def readPairs (read : List Char → Option (Toml × List Char)) :
    Nat → Toml.Entries → List Char → Option (Toml.Entries × List Char)
  | 0, _, _ => none
  | bound + 1, es, s => do
    let (path, s) ← readKey s
    let k ← path.getLast?
    let s ← expect '=' s
    let (v, s) ← read (skipSpaces s)
    let es ← Toml.addPair path.dropLast k v es
    match skipSpaces s with
    | '\x7d' :: s => return (es, s)
    | ',' :: s => readPairs read bound es s
    | _ => none

/-- A value. The number bounds the values around a value. -/
def readValue : Nat → List Char → Option (Toml × List Char)
  | 0, s => readScalar s
  | room + 1, s =>
    match s with
    | '[' :: s => do
      let (items, s) ← readItems (readValue room) (s.length + 1) s
      return (.array items, s)
    | '\x7b' :: s =>
      match skipSpaces s with
      | '\x7d' :: s => some (.inline false [], s)
      | s => do
        let (es, s) ← readPairs (readValue room) (s.length + 1) [] s
        return (.inline false es, s)
    | s => readScalar s

/-! ### Documents -/

/-- One line added to a draft. -/
def readLine (d : Toml.Draft) : List Char → Option (Toml.Draft × List Char)
  | '[' :: '[' :: s => do
    let (path, s) ← readKey s
    let s ← expect ']' (← expect ']' s)
    return (← d.openElement path, ← endLine? s)
  | '[' :: s => do
    let (path, s) ← readKey s
    let s ← expect ']' s
    return (← d.openTable path, ← endLine? s)
  | s =>
    match s with
    | '#' :: _ => do return (d, ← endLine? s)
    | '\n' :: _ => do return (d, ← endLine? s)
    | '\r' :: _ => do return (d, ← endLine? s)
    | _ => do
      let (path, s) ← readKey s
      let k ← path.getLast?
      let s ← expect '=' s
      let (v, s) ← readValue depthLimit (skipSpaces s)
      let s ← endLine? s
      return (← d.addLine path.dropLast k v, s)

/-- The lines of a text, as many as the first argument at most, added to a draft. -/
def readLines : Nat → Toml.Draft → List Char → Option Toml.Draft
  | 0, d, s => if s.isEmpty then some d else none
  | bound + 1, d, s =>
    match skipSpaces s with
    | [] => some d
    | s => do
      let (d, s) ← readLine d s
      readLines bound d s

/-- The entries of a document. A mark of the byte order may stand in front. -/
def readDocument (s : List Char) : Option Toml.Entries := do
  let s := match s with
    | '\ufeff' :: s => s
    | s => s
  let d ← readLines (s.length + 1) .start s
  d.finish

/-- The document tree of a text. -/
def tree? (s : String) : Option Tree := do
  let es ← readDocument s.toList
  return .object (Toml.toMembers es) .closed

end Extrinsics.TomlText
