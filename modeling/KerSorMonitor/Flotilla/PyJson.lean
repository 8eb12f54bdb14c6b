import KerSorMonitor.Flotilla.Models

/-!
# Reading JSON text (`Path.read_text`, `json.loads`)

What CPython does with the bytes of a file: strict UTF-8 decoding, the scanner of the `json`
module with its three number kinds, the limit on the digits of an integer and the limit on
the nesting. Strings of the model have no lone surrogates: an escape of one reads as U+FFFD.

Results: `loads` and `readText`, with the exception class of each kind of bad content.
-/

namespace Flotilla

namespace PyJson

/-- The limits of the interpreter: `sys.get_int_max_str_digits()`, and how deep the scanner may
recurse where it is called. -/
structure Limits where
  maxStrDigits : Nat := 4300
  maxDepth : Nat

def jsonDecodeError (msg : String) : PyErr := ⟨.jsonDecodeError, msg⟩

/-! ## Bytes -/

/-- A continuation byte of UTF-8: its six bits. -/
def continuation? (b : UInt8) : Option Nat :=
  if 0x80 ≤ b.toNat ∧ b.toNat < 0xC0 then some (b.toNat - 0x80) else none

/-- A scalar value that needs at least `least`. -/
def scalar? (n least : Nat) : Option Char :=
  if least ≤ n ∧ n.isValidChar then some (Char.ofNat n) else none

/-- Strict UTF-8. -/
def decodeUtf8 : List UInt8 → Option (List Char)
  | [] => some []
  | b :: rest =>
    if b.toNat < 0x80 then (decodeUtf8 rest).map (Char.ofNat b.toNat :: ·)
    else if b.toNat < 0xC0 then none
    else if b.toNat < 0xE0 then
      match rest with
      | b₁ :: rest =>
        match continuation? b₁ with
        | some n₁ =>
          match scalar? ((b.toNat - 0xC0) * 64 + n₁) 0x80 with
          | some c => (decodeUtf8 rest).map (c :: ·)
          | none => none
        | none => none
      | _ => none
    else if b.toNat < 0xF0 then
      match rest with
      | b₁ :: b₂ :: rest =>
        match continuation? b₁, continuation? b₂ with
        | some n₁, some n₂ =>
          match scalar? (((b.toNat - 0xE0) * 64 + n₁) * 64 + n₂) 0x800 with
          | some c => (decodeUtf8 rest).map (c :: ·)
          | none => none
        | _, _ => none
      | _ => none
    else if b.toNat < 0xF8 then
      match rest with
      | b₁ :: b₂ :: b₃ :: rest =>
        match continuation? b₁, continuation? b₂, continuation? b₃ with
        | some n₁, some n₂, some n₃ =>
          match scalar? ((((b.toNat - 0xF0) * 64 + n₁) * 64 + n₂) * 64 + n₃) 0x10000 with
          | some c => (decodeUtf8 rest).map (c :: ·)
          | none => none
        | _, _, _ => none
      | _ => none
    else none

/-- `p.read_text()`. -/
def readText (bytes : List UInt8) : Except PyErr (List Char) :=
  match decodeUtf8 bytes with
  | some cs => .ok cs
  | none => .error ⟨.unicodeDecodeError, "'utf-8' codec can't decode byte"⟩

/-! ## The scanner -/

/-- What a scanner returns: a value and the rest of the text. -/
abbrev Scanned (α : Type) := Except PyErr (α × List Char)

/-- `[ \t\n\r]*`. -/
def skipWs : List Char → List Char
  | c :: cs => if c = ' ' ∨ c = '\t' ∨ c = '\n' ∨ c = '\r' then skipWs cs else c :: cs
  | [] => []

def hexValue? (c : Char) : Option Nat :=
  if '0' ≤ c ∧ c ≤ '9' then some (c.toNat - '0'.toNat)
  else if 'a' ≤ c ∧ c ≤ 'f' then some (c.toNat - 'a'.toNat + 10)
  else if 'A' ≤ c ∧ c ≤ 'F' then some (c.toNat - 'A'.toNat + 10)
  else none

/-- Four hexadecimal digits. -/
def hex4? : List Char → Option (Nat × List Char)
  | a :: b :: c :: d :: rest =>
    match hexValue? a, hexValue? b, hexValue? c, hexValue? d with
    | some a, some b, some c, some d => some (((a * 16 + b) * 16 + c) * 16 + d, rest)
    | _, _, _, _ => none
  | _ => none

/-- The character of a one-letter escape. -/
def escape? : Char → Option Char
  | '"' => some '"'
  | '\\' => some '\\'
  | '/' => some '/'
  | 'b' => some (Char.ofNat 8)
  | 'f' => some (Char.ofNat 12)
  | 'n' => some '\n'
  | 'r' => some '\r'
  | 't' => some '\t'
  | _ => none

/-- The second half of a surrogate pair. -/
def lowSurrogate? : List Char → Option (Nat × List Char)
  | '\\' :: 'u' :: rest =>
    match hex4? rest with
    | some (n, rest) => if 0xDC00 ≤ n ∧ n < 0xE000 then some (n, rest) else none
    | none => none
  | _ => none

/-- `\uXXXX`, after the `u`. -/
def unicodeEscape (cs : List Char) : Scanned Char :=
  match hex4? cs with
  | none => .error (jsonDecodeError "Invalid \\uXXXX escape")
  | some (n, rest) =>
    if 0xD800 ≤ n ∧ n < 0xDC00 then
      match lowSurrogate? rest with
      | some (m, rest) => .ok (Char.ofNat (0x10000 + (n - 0xD800) * 1024 + (m - 0xDC00)), rest)
      | none => .ok (Char.ofNat 0xFFFD, rest)
    else if 0xDC00 ≤ n ∧ n < 0xE000 then .ok (Char.ofNat 0xFFFD, rest)
    else .ok (Char.ofNat n, rest)

/-- The rest of a string, after its opening quote: each round reads at least one character. -/
def scanString : Nat → List Char → List Char → Scanned String
  | 0, _, _ => .error (jsonDecodeError "Unterminated string starting at")
  | _ + 1, _, [] => .error (jsonDecodeError "Unterminated string starting at")
  | n + 1, acc, c :: cs =>
    if c = '"' then .ok (String.ofList acc.reverse, cs)
    else if c = '\\' then
      match cs with
      | [] => .error (jsonDecodeError "Unterminated string starting at")
      | 'u' :: cs =>
        match unicodeEscape cs with
        | .error e => .error e
        | .ok (d, cs) => scanString n (d :: acc) cs
      | d :: cs =>
        match escape? d with
        | none => .error (jsonDecodeError "Invalid \\escape")
        | some d => scanString n (d :: acc) cs
    else if c.toNat ≤ 0x1F then .error (jsonDecodeError "Invalid control character at")
    else scanString n (c :: acc) cs

def isDigit (c : Char) : Bool := '0' ≤ c && c ≤ '9'

def digitsValue (cs : List Char) : Nat :=
  cs.foldl (fun n c => n * 10 + (c.toNat - '0'.toNat)) 0

/-- The fraction of a number: its digits, if a dot and a digit follow. -/
def scanFraction : List Char → List Char × List Char
  | '.' :: c :: cs =>
    if isDigit c then ((c :: cs).takeWhile isDigit, (c :: cs).dropWhile isDigit)
    else ([], '.' :: c :: cs)
  | cs => ([], cs)

/-- The exponent of a number, if its digits follow. -/
def scanExponent : List Char → Option Int × List Char
  | c :: cs =>
    if c = 'e' ∨ c = 'E' then
      let (neg, ds) := match cs with
        | '-' :: ds => (true, ds)
        | '+' :: ds => (false, ds)
        | ds => (false, ds)
      match ds.takeWhile isDigit with
      | [] => (none, c :: cs)
      | digits =>
        let n : Int := digitsValue digits
        (some (if neg then -n else n), ds.dropWhile isDigit)
    else (none, c :: cs)
  | [] => (none, [])

/-- `_match_number`, after the sign. -/
def scanNumber (limits : Limits) (neg : Bool) (cs : List Char) : Scanned Json :=
  let sign (n : Nat) : Int := if neg then -(n : Int) else n
  match cs.takeWhile isDigit with
  | [] => .error (jsonDecodeError "Expecting value")
  | d :: ds =>
    -- a leading zero stands alone
    let whole := if d = '0' then [d] else d :: ds
    let (fraction, rest) := scanFraction (cs.drop whole.length)
    let (exponent, rest) := scanExponent rest
    if fraction = [] ∧ exponent = none then
      if limits.maxStrDigits < whole.length then
        .error ⟨.valueError, "Exceeds the limit (" ++ toString limits.maxStrDigits ++
          " digits) for integer string conversion"⟩
      else .ok (.int (sign (digitsValue whole)), rest)
    else
      .ok (.float (.dec (sign (digitsValue (whole ++ fraction)))
        (exponent.getD 0 - fraction.length)), rest)

/-- The items of an array, after `[` or after a comma. -/
def scanItems (scan : List Char → Scanned Json) : Nat → List Json → List Char →
    Scanned (List Json)
  | 0, _, _ => .error (jsonDecodeError "Expecting value")
  | n + 1, acc, cs =>
    match scan cs with
    | .error e => .error e
    | .ok (v, rest) =>
      match skipWs rest with
      | ']' :: rest => .ok ((v :: acc).reverse, rest)
      | ',' :: rest => scanItems scan n (v :: acc) (skipWs rest)
      | _ => .error (jsonDecodeError "Expecting ',' delimiter")

/-- The members of an object, after `{` or after a comma. -/
def scanMembers (scan : List Char → Scanned Json) : Nat → JsonObj → List Char →
    Scanned JsonObj
  | 0, _, _ => .error (jsonDecodeError "Expecting property name enclosed in double quotes")
  | n + 1, acc, '"' :: cs =>
    match scanString (cs.length + 1) [] cs with
    | .error e => .error e
    | .ok (key, rest) =>
      match skipWs rest with
      | ':' :: rest =>
        match scan (skipWs rest) with
        | .error e => .error e
        | .ok (v, rest) =>
          match skipWs rest with
          | '}' :: rest => .ok (acc.set key v, rest)
          | ',' :: rest => scanMembers scan n (acc.set key v) (skipWs rest)
          | _ => .error (jsonDecodeError "Expecting ',' delimiter")
      | _ => .error (jsonDecodeError "Expecting ':' delimiter")
  | _ + 1, _, _ =>
    .error (jsonDecodeError "Expecting property name enclosed in double quotes")

/-- `scan_once`, with `depth` levels of nesting left. -/
def scanOnce (limits : Limits) : Nat → List Char → Scanned Json
  | _, '"' :: cs =>
    match scanString (cs.length + 1) [] cs with
    | .error e => .error e
    | .ok (s, rest) => .ok (.str s, rest)
  | 0, '{' :: _ => .error ⟨.recursionError, "maximum recursion depth exceeded"⟩
  | 0, '[' :: _ => .error ⟨.recursionError, "maximum recursion depth exceeded"⟩
  | depth + 1, '{' :: cs =>
    match skipWs cs with
    | '}' :: rest => .ok (.obj [], rest)
    | cs =>
      match scanMembers (scanOnce limits depth) (cs.length + 1) [] cs with
      | .error e => .error e
      | .ok (kvs, rest) => .ok (.obj kvs, rest)
  | depth + 1, '[' :: cs =>
    match skipWs cs with
    | ']' :: rest => .ok (.arr [], rest)
    | cs =>
      match scanItems (scanOnce limits depth) (cs.length + 1) [] cs with
      | .error e => .error e
      | .ok (xs, rest) => .ok (.arr xs, rest)
  | _, 'n' :: 'u' :: 'l' :: 'l' :: rest => .ok (.null, rest)
  | _, 't' :: 'r' :: 'u' :: 'e' :: rest => .ok (.bool true, rest)
  | _, 'f' :: 'a' :: 'l' :: 's' :: 'e' :: rest => .ok (.bool false, rest)
  | _, 'N' :: 'a' :: 'N' :: rest => .ok (.float .nan, rest)
  | _, 'I' :: 'n' :: 'f' :: 'i' :: 'n' :: 'i' :: 't' :: 'y' :: rest =>
    .ok (.float (.inf false), rest)
  | _, '-' :: 'I' :: 'n' :: 'f' :: 'i' :: 'n' :: 'i' :: 't' :: 'y' :: rest =>
    .ok (.float (.inf true), rest)
  | _, '-' :: cs => scanNumber limits true cs
  | _, cs => scanNumber limits false cs

/-- `json.loads` of a text. -/
def loads (limits : Limits) (cs : List Char) : Except PyErr Json :=
  if cs.head? = some (Char.ofNat 0xFEFF) then
    .error (jsonDecodeError "Unexpected UTF-8 BOM (decode using utf-8-sig)")
  else
    match scanOnce limits limits.maxDepth (skipWs cs) with
    | .error e => .error e
    | .ok (v, rest) =>
      if skipWs rest = [] then .ok v else .error (jsonDecodeError "Extra data")

end PyJson

end Flotilla
