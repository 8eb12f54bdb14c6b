import Mathlib.Data.Nat.Digits.Lemmas
import KerSorMonitor.Flotilla.PyJson

/-!
# Writing JSON text (`json.dumps`)

What CPython's encoder writes with its default separators, with and without `ensure_ascii`, and that
`json.loads` reads it back. The decimal value of a float stands for the numeral that `repr` prints.

Results:
1. `scanString_escaped`, `scanNumber_append`: strings and numbers in front of the rest of a text.
2. `scanOnce_dumps`, `loads_dumps`: what `dumps` writes is read back.
-/

namespace Flotilla

namespace PyJson

/-! ## Strings -/

/-- A hexadecimal digit, in lower case. -/
def hexDigit (n : Nat) : Char := if n < 10 then Char.ofNat (48 + n) else Char.ofNat (87 + n)

/-- `"%04x" % n`. -/
def hex4 (n : Nat) : List Char :=
  [hexDigit (n / 4096 % 16), hexDigit (n / 256 % 16), hexDigit (n / 16 % 16), hexDigit (n % 16)]

/-- `"\\u%04x" % n`. -/
def unicodeText (n : Nat) : List Char := '\\' :: 'u' :: hex4 n

/-- The letters of the short escapes of `ESCAPE_DCT`. -/
def shortEscapes : List (Char × Char) :=
  [('\\', '\\'), ('"', '"'), (Char.ofNat 8, 'b'), (Char.ofNat 12, 'f'), ('\n', 'n'), ('\r', 'r'),
   ('\t', 't')]

/-- A character of a string; beyond ASCII a surrogate pair where it needs one. -/
def escapeChar (ensureAscii : Bool) (c : Char) : List Char :=
  match shortEscapes.lookup c with
  | some d => ['\\', d]
  | none =>
    if c.toNat < 32 then unicodeText c.toNat
    else if !ensureAscii || c.toNat < 127 then [c]
    else if c.toNat < 0x10000 then unicodeText c.toNat
    else unicodeText (0xD800 + (c.toNat - 0x10000) / 1024) ++
      unicodeText (0xDC00 + (c.toNat - 0x10000) % 1024)

/-- `encode_basestring_ascii` and `encode_basestring`. -/
def stringText (ensureAscii : Bool) (s : String) : List Char :=
  '"' :: (s.toList.flatMap (escapeChar ensureAscii) ++ ['"'])

/-! ## Numbers -/

/-- `int.__repr__`. -/
def intText : Int → List Char
  | .ofNat n => Nat.toDigits 10 n
  | .negSucc n => '-' :: Nat.toDigits 10 (n + 1)

/-- The digits without the zeros at their end, and how many these are. -/
def stripZeros (digits : List Char) : List Char × Nat :=
  let zeros := (digits.reverse.takeWhile (· = '0')).length
  (digits.take (digits.length - zeros), zeros)

/-- `float.__repr__` of a positive number, for up to fifteen digits. -/
def floatDigits (mantissa : Nat) (exponent : Int) : List Char :=
  if mantissa = 0 then "0.0".toList
  else
    let (digits, zeros) := stripZeros (Nat.toDigits 10 mantissa)
    -- the place of the point, from the left end of the digits
    let point : Int := digits.length + zeros + exponent
    if point ≤ -4 ∨ 16 < point then
      let tail := if digits.tail = [] then [] else '.' :: digits.tail
      let power := point - 1
      digits.take 1 ++ tail ++ ['e', if power < 0 then '-' else '+'] ++
        (if power.natAbs < 10 then ['0'] else []) ++ Nat.toDigits 10 power.natAbs
    else if point ≤ 0 then
      "0.".toList ++ List.replicate point.natAbs '0' ++ digits
    else if digits.length ≤ point.toNat then
      digits ++ List.replicate (point.toNat - digits.length) '0' ++ ".0".toList
    else digits.take point.toNat ++ '.' :: digits.drop point.toNat

/-- `float.__repr__`, and the names of the special values. -/
def floatText : PyFloat → List Char
  | .dec m e => if m < 0 then '-' :: floatDigits m.natAbs e else floatDigits m.natAbs e
  | .inf negative => if negative then "-Infinity".toList else "Infinity".toList
  | .nan => "NaN".toList

/-! ## Values -/

mutual

/-- `json.dumps(value)`, or with `ensure_ascii=False`. -/
def dumps (ensureAscii : Bool) : Json → List Char
  | .null => "null".toList
  | .bool b => if b then "true".toList else "false".toList
  | .int n => intText n
  | .float f => floatText f
  | .str s => stringText ensureAscii s
  | .arr xs => '[' :: (dumpsItems ensureAscii xs ++ [']'])
  | .obj kvs => '{' :: (dumpsMembers ensureAscii kvs ++ ['}'])

def dumpsItems (ensureAscii : Bool) : List Json → List Char
  | [] => []
  | [x] => dumps ensureAscii x
  | x :: xs => dumps ensureAscii x ++ ',' :: ' ' :: dumpsItems ensureAscii xs

def dumpsMembers (ensureAscii : Bool) : JsonObj → List Char
  | [] => []
  | [(k, v)] => stringText ensureAscii k ++ ':' :: ' ' :: dumps ensureAscii v
  | (k, v) :: kvs => stringText ensureAscii k ++ ':' :: ' ' :: (dumps ensureAscii v ++
      ',' :: ' ' :: dumpsMembers ensureAscii kvs)

end

/-- The decimal value of a float is that of the numeral that is printed. -/
def printed (limits : Limits) : PyFloat → Bool
  | .dec m e =>
    match scanNumber limits (m < 0) (floatDigits m.natAbs e) with
    | .ok (.float f, []) => f = .dec m e
    | _ => false
  | _ => true

mutual

/-- The values that `dumps` writes, with `depth` levels of nesting left: a `dict` has each key once,
and an integer that is too long is not converted. -/
def writable (limits : Limits) : Nat → Json → Bool
  | _, .int n => (Nat.toDigits 10 n.natAbs).length ≤ limits.maxStrDigits
  | _, .float f => printed limits f
  | 0, .arr _ => false
  | 0, .obj _ => false
  | depth + 1, .arr xs => itemsWritable limits depth xs
  | depth + 1, .obj kvs => decide (kvs.map Prod.fst).Nodup && membersWritable limits depth kvs
  | _, _ => true

def itemsWritable (limits : Limits) (depth : Nat) : List Json → Bool
  | [] => true
  | x :: xs => writable limits depth x && itemsWritable limits depth xs

def membersWritable (limits : Limits) (depth : Nat) : JsonObj → Bool
  | [] => true
  | kv :: kvs => writable limits depth kv.2 && membersWritable limits depth kvs

end

/-! ## Strings are read back -/

theorem hexValue?_hexDigit {n : Nat} (h : n < 16) : hexValue? (hexDigit n) = some n := by
  have hall : ∀ n < 16, hexValue? (hexDigit n) = some n := by decide
  exact hall n h

theorem hex4?_hex4 {n : Nat} (h : n < 0x10000) (rest : List Char) :
    hex4? (hex4 n ++ rest) = some (n, rest) := by
  simp only [hex4, List.cons_append, List.nil_append, hex4?,
    hexValue?_hexDigit (Nat.mod_lt _ (by decide : 0 < 16))]
  congr 2
  omega

theorem unicodeEscape_hex4 {c : Char} (h : c.toNat < 0x10000) (rest : List Char) :
    unicodeEscape (hex4 c.toNat ++ rest) = .ok (c, rest) := by
  have hvalid : c.toNat.isValidChar := c.valid
  have hlow : ¬ (0xD800 ≤ c.toNat ∧ c.toNat < 0xDC00) := by
    rcases hvalid with h | h <;> omega
  have hhigh : ¬ (0xDC00 ≤ c.toNat ∧ c.toNat < 0xE000) := by
    rcases hvalid with h | h <;> omega
  unfold unicodeEscape
  rw [hex4?_hex4 h]
  dsimp only
  rw [if_neg hlow, if_neg hhigh, Char.ofNat_toNat]

theorem lowSurrogate?_unicodeText {n : Nat} (hlow : 0xDC00 ≤ n) (hhigh : n < 0xE000)
    (rest : List Char) : lowSurrogate? (unicodeText n ++ rest) = some (n, rest) := by
  simp only [unicodeText, List.cons_append, lowSurrogate?]
  rw [hex4?_hex4 (by omega)]
  simp [hlow, hhigh]

theorem unicodeEscape_surrogates {high low : Nat} (hhigh : 0xD800 ≤ high ∧ high < 0xDC00)
    (hlow : 0xDC00 ≤ low) (hlow' : low < 0xE000) (rest : List Char) :
    unicodeEscape (hex4 high ++ (unicodeText low ++ rest)) =
      .ok (Char.ofNat (0x10000 + (high - 0xD800) * 1024 + (low - 0xDC00)), rest) := by
  unfold unicodeEscape
  rw [hex4?_hex4 (by omega)]
  dsimp only
  rw [if_pos hhigh, lowSurrogate?_unicodeText hlow hlow']

theorem unicodeEscape_pair {c : Char} (h : 0x10000 ≤ c.toNat) (rest : List Char) :
    unicodeEscape (hex4 (0xD800 + (c.toNat - 0x10000) / 1024) ++
      (unicodeText (0xDC00 + (c.toNat - 0x10000) % 1024) ++ rest)) = .ok (c, rest) := by
  have hvalid : c.toNat.isValidChar := c.valid
  have hmax : c.toNat < 0x110000 := by
    rcases hvalid with h | h <;> omega
  rw [unicodeEscape_surrogates (by omega) (by omega) (by omega)]
  have hvalue : 0x10000 + (0xD800 + (c.toNat - 0x10000) / 1024 - 0xD800) * 1024 +
      (0xDC00 + (c.toNat - 0x10000) % 1024 - 0xDC00) = c.toNat := by omega
  rw [hvalue, Char.ofNat_toNat]

theorem escape?_of_shortEscapes {c d : Char} (h : shortEscapes.lookup c = some d) :
    escape? d = some c ∧ d ≠ 'u' := by
  have hall : ∀ x ∈ shortEscapes, escape? x.2 = some x.1 ∧ x.2 ≠ 'u' := by decide
  obtain ⟨front, behind, heq, -⟩ := List.lookup_eq_some_iff.mp h
  exact hall (c, d) (heq ▸ List.mem_append_right _ List.mem_cons_self)

/-- One character of a string is read in one round. -/
theorem scanString_escapeChar (ensureAscii : Bool) (c : Char) (n : Nat) (acc rest : List Char) :
    scanString (n + 1) acc (escapeChar ensureAscii c ++ rest) = scanString n (c :: acc) rest := by
  have hunicode {text : List Char} (htext : unicodeEscape (text ++ rest) = .ok (c, rest)) :
      scanString (n + 1) acc ('\\' :: 'u' :: text ++ rest) = scanString n (c :: acc) rest := by
    rw [scanString.eq_def]
    simp only [List.cons_append, Char.reduceEq, if_false, if_true]
    rw [htext]
  unfold escapeChar
  cases hshort : shortEscapes.lookup c with
  | some d =>
    obtain ⟨hd, hu⟩ := escape?_of_shortEscapes hshort
    rw [scanString.eq_def]
    simp only [List.cons_append, List.nil_append, Char.reduceEq, if_false, if_true]
    rw [hd]
  | none =>
    dsimp only
    by_cases hcontrol : c.toNat < 32
    · rw [if_pos hcontrol]
      exact hunicode (unicodeEscape_hex4 (by omega) rest)
    rw [if_neg hcontrol]
    split
    · have hslash : c ≠ '\\' := by
        rintro rfl
        cases hshort
      have hquote : c ≠ '"' := by
        rintro rfl
        cases hshort
      rw [List.cons_append, List.nil_append, scanString.eq_def]
      simp only [hquote, hslash, if_false]
      rw [if_neg (by omega)]
    split
    · exact hunicode (unicodeEscape_hex4 ‹_› rest)
    · next hpair =>
      have htext := unicodeEscape_pair (Nat.le_of_not_lt hpair) rest
      rw [← List.append_assoc] at htext
      exact hunicode htext

theorem scanString_escaped (ensureAscii : Bool) (s : List Char) {n : Nat} (hn : s.length < n)
    (acc rest : List Char) :
    scanString n acc (s.flatMap (escapeChar ensureAscii) ++ '"' :: rest) =
      .ok (String.ofList (acc.reverse ++ s), rest) := by
  induction s generalizing n acc with
  | nil =>
    obtain ⟨n, rfl⟩ := Nat.exists_eq_succ_of_ne_zero (Nat.ne_zero_of_lt hn)
    simp [scanString]
  | cons c s ih =>
    obtain ⟨n, rfl⟩ := Nat.exists_eq_succ_of_ne_zero (Nat.ne_zero_of_lt hn)
    rw [List.flatMap_cons, List.append_assoc, scanString_escapeChar,
      ih (Nat.lt_of_succ_lt_succ hn), List.reverse_cons, List.append_assoc]
    rfl

/-! ## Numbers are read back -/

/-- The rest of a text after a value. -/
def Ends (rest : List Char) : Prop := rest = [] ∨ ∃ c cs, rest = c :: cs ∧ c ∈ [',', ']', '}']

theorem Ends.not_digit {rest : List Char} (h : Ends rest) : ∀ c ∈ rest.head?, isDigit c = false := by
  rcases h with rfl | ⟨c, cs, rfl, hc⟩
  · exact fun c hc => by cases hc
  · intro c' hc'
    cases hc'
    simp only [List.mem_cons, List.not_mem_nil, or_false] at hc
    rcases hc with rfl | rfl | rfl <;> rfl

section Append

variable {p : Char → Bool} {rest : List Char}

theorem takeWhile_append_rest (h : ∀ c ∈ rest.head?, p c = false) (cs : List Char) :
    (cs ++ rest).takeWhile p = cs.takeWhile p := by
  induction cs with
  | nil =>
    cases rest with
    | nil => rfl
    | cons c rest => simp [h c rfl]
  | cons c cs ih => simp only [List.cons_append, List.takeWhile_cons, ih]

theorem dropWhile_append_rest (h : ∀ c ∈ rest.head?, p c = false) (cs : List Char) :
    (cs ++ rest).dropWhile p = cs.dropWhile p ++ rest := by
  induction cs with
  | nil =>
    cases rest with
    | nil => rfl
    | cons c rest => simp [h c rfl]
  | cons c cs ih =>
    simp only [List.cons_append, List.dropWhile_cons, ih]
    split <;> rfl

end Append

/-- The characters that may follow a value continue no number. -/
theorem scanFraction_rest {rest : List Char} (h : Ends rest) : scanFraction rest = ([], rest) := by
  rcases h with rfl | ⟨c, cs, rfl, hc⟩
  · rfl
  · simp only [List.mem_cons, List.not_mem_nil, or_false] at hc
    rcases hc with rfl | rfl | rfl <;> rfl

theorem scanExponent_rest {rest : List Char} (h : Ends rest) : scanExponent rest = (none, rest) := by
  rcases h with rfl | ⟨c, cs, rfl, hc⟩
  · rfl
  · simp only [List.mem_cons, List.not_mem_nil, or_false] at hc
    rcases hc with rfl | rfl | rfl <;> rfl

theorem scanFraction_append {rest : List Char} (h : Ends rest) (cs : List Char) :
    scanFraction (cs ++ rest) = ((scanFraction cs).1, (scanFraction cs).2 ++ rest) := by
  rcases cs with _ | ⟨c, cs⟩
  · exact scanFraction_rest h
  by_cases hdot : c = '.'
  · subst hdot
    rcases cs with _ | ⟨d, cs⟩
    · rcases h with rfl | ⟨c, cs, rfl, hc⟩
      · rfl
      · have hends : Ends (c :: cs) := Or.inr ⟨c, cs, rfl, hc⟩
        simp [scanFraction, hends.not_digit c rfl]
    · simp only [List.cons_append, scanFraction]
      split
      · rw [← List.cons_append, takeWhile_append_rest h.not_digit, dropWhile_append_rest h.not_digit]
      · rfl
  · rw [List.cons_append, scanFraction.eq_def, scanFraction.eq_def]
    split <;> split <;> simp_all

theorem scanExponent_append {rest : List Char} (h : Ends rest) (cs : List Char) :
    scanExponent (cs ++ rest) = ((scanExponent cs).1, (scanExponent cs).2 ++ rest) := by
  rcases cs with _ | ⟨c, cs⟩
  · exact scanExponent_rest h
  by_cases he : c = 'e' ∨ c = 'E'
  · have hdigits (ds : List Char) := takeWhile_append_rest h.not_digit ds
    have hafter (ds : List Char) := dropWhile_append_rest h.not_digit ds
    rcases cs with _ | ⟨d, ds⟩
    · rcases h with rfl | ⟨d, ds, rfl, hd⟩
      · simp
      · simp only [List.mem_cons, List.not_mem_nil, or_false] at hd
        rcases hd with rfl | rfl | rfl <;> simp [scanExponent, he, isDigit]
    by_cases hminus : d = '-'
    · subst hminus
      simp only [List.cons_append, scanExponent, he, if_true, hdigits, hafter]
      split <;> rfl
    by_cases hplus : d = '+'
    · subst hplus
      simp only [List.cons_append, scanExponent, he, if_true, hdigits, hafter]
      split <;> rfl
    have hplain (ds : List Char) := hdigits (d :: ds)
    have hrest (ds : List Char) := hafter (d :: ds)
    simp only [List.cons_append] at hplain hrest
    simp only [List.cons_append, scanExponent, he, if_true]
    split <;> split <;> simp_all
  · rw [List.cons_append]
    simp [scanExponent, he]

/-- What follows a number does not change it. -/
theorem scanNumber_append {limits : Limits} {neg : Bool} {cs rest : List Char} (h : Ends rest)
    {v : Json} (hscan : scanNumber limits neg cs = .ok (v, [])) :
    scanNumber limits neg (cs ++ rest) = .ok (v, rest) := by
  unfold scanNumber at hscan ⊢
  rw [takeWhile_append_rest h.not_digit]
  cases hdigits : cs.takeWhile isDigit with
  | nil =>
    rw [hdigits] at hscan
    cases hscan
  | cons d ds =>
    rw [hdigits] at hscan
    have hlen : (if d = '0' then [d] else d :: ds).length ≤ cs.length := by
      have hsub : (d :: ds).length ≤ cs.length := hdigits ▸ (List.takeWhile_sublist _).length_le
      split
      · exact (Nat.succ_le_succ (Nat.zero_le _)).trans hsub
      · exact hsub
    dsimp only at hscan ⊢
    generalize (if d = '0' then [d] else d :: ds) = whole at hlen hscan ⊢
    rw [List.drop_append_of_le_length hlen, scanFraction_append h]
    dsimp only
    rw [scanExponent_append h]
    split at hscan <;> rename_i hplain
    · rw [if_pos hplain]
      split at hscan
      · cases hscan
      · rw [if_neg ‹_›]
        obtain ⟨hv, hrest⟩ := Prod.mk.inj (Except.ok.inj hscan)
        rw [hv, hrest]
        rfl
    · rw [if_neg hplain]
      obtain ⟨hv, hrest⟩ := Prod.mk.inj (Except.ok.inj hscan)
      rw [hv, hrest]
      rfl

theorem isDigit_of_mem_toDigits {n : Nat} {c : Char} (h : c ∈ Nat.toDigits 10 n) :
    isDigit c = true := by
  have hc := Nat.isDigit_of_mem_toDigits (by decide) (by decide) h
  simp only [Char.isDigit, Bool.and_eq_true, decide_eq_true_eq] at hc
  simp only [isDigit, Bool.and_eq_true, decide_eq_true_eq]
  exact hc

theorem digitsValue_toDigits (n : Nat) : digitsValue (Nat.toDigits 10 n) = n := by
  have hfold : ∀ (cs : List Char) (k : Nat), cs.foldl (fun n c => n * 10 + (c.toNat - '0'.toNat)) k =
      Nat.ofDigitChars 10 cs k := by
    intro cs
    induction cs with
    | nil => exact fun k => rfl
    | cons c cs ih =>
      intro k
      rw [List.foldl_cons, ih, Nat.ofDigitChars_cons, Nat.mul_comm]
  exact (hfold _ 0).trans Nat.ofDigitChars_ten_toDigits

/-- No number is written with a leading zero. -/
theorem eq_zero_of_head?_toDigits {n : Nat} (h : (Nat.toDigits 10 n).head? = some '0') : n = 0 := by
  induction n using Nat.strong_induction_on with
  | _ n ih =>
    rw [Nat.toDigits_eq_if (by decide)] at h
    split at h
    · next hn =>
      have hall : ∀ n < 10, [Nat.digitChar n].head? = some '0' → n = 0 := by decide
      exact hall n hn h
    · next hn =>
      rw [List.head?_append_of_ne_nil _ Nat.toDigits_ne_nil] at h
      have := ih (n / 10) (by omega) h
      omega

/-- The digits of a number are read back. -/
theorem scanNumber_toDigits {limits : Limits} {n : Nat} (neg : Bool)
    (hlen : (Nat.toDigits 10 n).length ≤ limits.maxStrDigits) {rest : List Char} (h : Ends rest) :
    scanNumber limits neg (Nat.toDigits 10 n ++ rest) =
      .ok (.int (if neg then -(n : Int) else n), rest) := by
  refine scanNumber_append h ?_
  have hall : (Nat.toDigits 10 n).takeWhile isDigit = Nat.toDigits 10 n := by
    rw [← List.append_nil (Nat.toDigits 10 n),
      List.takeWhile_append_of_pos fun c hc => isDigit_of_mem_toDigits hc, List.takeWhile_nil]
  unfold scanNumber
  rw [hall]
  cases hdigits : Nat.toDigits 10 n with
  | nil => exact absurd hdigits Nat.toDigits_ne_nil
  | cons d ds =>
    have hwhole : (if d = '0' then [d] else d :: ds) = d :: ds := by
      split
      · next hzero =>
        have hn := eq_zero_of_head?_toDigits (n := n) (by rw [hdigits, hzero]; rfl)
        rw [hn] at hdigits
        cases hdigits
        rfl
      · rfl
    have hvalue := digitsValue_toDigits n
    rw [hdigits] at hlen hvalue
    dsimp only
    rw [hwhole, List.drop_length]
    simp only [scanFraction, scanExponent, and_self, if_true]
    rw [if_neg (Nat.not_lt.mpr hlen), hvalue]

/-! ## Values are read back -/

/-- A text that begins with a digit is scanned as a number. -/
theorem scanOnce_of_digit (limits : Limits) (depth : Nat) {c : Char} (hc : isDigit c = true)
    (cs : List Char) : scanOnce limits depth (c :: cs) = scanNumber limits false (c :: cs) ∧
      scanOnce limits depth ('-' :: c :: cs) = scanNumber limits true (c :: cs) := by
  have hne {d : Char} (hd : isDigit d = false) : c ≠ d := by
    rintro rfl
    rw [hd] at hc
    cases hc
  have hquote := hne (d := '"') (by decide)
  have hbrace := hne (d := '{') (by decide)
  have hbracket := hne (d := '[') (by decide)
  have hnull := hne (d := 'n') (by decide)
  have htrue := hne (d := 't') (by decide)
  have hfalse := hne (d := 'f') (by decide)
  have hnan := hne (d := 'N') (by decide)
  have hinf := hne (d := 'I') (by decide)
  have hminus := hne (d := '-') (by decide)
  constructor
  · unfold scanOnce
    split <;> simp_all
  · unfold scanOnce
    split <;> simp_all

theorem length_le_escaped (ensureAscii : Bool) (s : List Char) :
    s.length ≤ (s.flatMap (escapeChar ensureAscii)).length := by
  induction s with
  | nil => exact Nat.le_refl 0
  | cons c s ih =>
    have hpos : 0 < (escapeChar ensureAscii c).length := by
      unfold escapeChar
      split
      · exact Nat.succ_pos _
      split
      · exact Nat.succ_pos _
      split
      · exact Nat.succ_pos _
      split <;> exact Nat.succ_pos _
    rw [List.flatMap_cons, List.length_append, List.length_cons]
    omega

/-- A string after its opening quote. -/
theorem scanString_stringText (ensureAscii : Bool) (s : String) (rest : List Char) :
    scanString ((s.toList.flatMap (escapeChar ensureAscii) ++ '"' :: rest).length + 1) []
      (s.toList.flatMap (escapeChar ensureAscii) ++ '"' :: rest) = .ok (s, rest) := by
  have hlen := length_le_escaped ensureAscii s.toList
  rw [scanString_escaped ensureAscii s.toList (by
    rw [List.length_append]
    omega)]
  simp

/-- Blanks, the ends of lists, and the byte order mark. -/
def notOpening : List Char := [' ', '\t', '\n', '\r', ']', '}', Char.ofNat 0xFEFF]

def Opens (cs : List Char) : Prop :=
  ∃ c rest, cs = c :: rest ∧ c ∉ notOpening

theorem opens_of_digit {c : Char} (hc : isDigit c = true) (cs : List Char) : Opens (c :: cs) := by
  refine ⟨c, cs, rfl, fun hmem => ?_⟩
  have hall : (notOpening.all fun c => !isDigit c) = true := by decide
  have hnot := List.all_eq_true.mp hall c hmem
  rw [hc] at hnot
  cases hnot

theorem opens_toDigits (n : Nat) : Opens (Nat.toDigits 10 n) := by
  cases hdigits : Nat.toDigits 10 n with
  | nil => exact absurd hdigits Nat.toDigits_ne_nil
  | cons d ds => exact opens_of_digit (isDigit_of_mem_toDigits (n := n) (by simp [hdigits])) ds

/-- A text that is scanned as a number begins with a digit. -/
theorem head_of_scanNumber {limits : Limits} {neg : Bool} {cs rest : List Char} {v : Json}
    (h : scanNumber limits neg cs = .ok (v, rest)) : ∃ c cs', cs = c :: cs' ∧ isDigit c = true := by
  unfold scanNumber at h
  cases cs with
  | nil => cases h
  | cons c cs =>
    refine ⟨c, cs, rfl, ?_⟩
    cases hc : isDigit c with
    | true => rfl
    | false =>
      rw [List.takeWhile_cons_of_neg (by simp [hc])] at h
      cases h

theorem Opens.skipWs {cs : List Char} (h : Opens cs) (rest : List Char) :
    PyJson.skipWs (cs ++ rest) = cs ++ rest := by
  obtain ⟨c, cs, rfl, hc⟩ := h
  simp only [notOpening, List.mem_cons, List.not_mem_nil, or_false, not_or] at hc
  simp [PyJson.skipWs, hc.1, hc.2.1, hc.2.2.1, hc.2.2.2.1]

/-- What is scanned of a printed float. -/
theorem scan_of_printed {limits : Limits} {m e : Int} (h : printed limits (.dec m e) = true) :
    scanNumber limits (m < 0) (floatDigits m.natAbs e) = .ok (.float (.dec m e), []) := by
  simp only [printed] at h
  split at h
  · next f heq => rw [heq, of_decide_eq_true h]
  · cases h

theorem opens_dumps (ensureAscii : Bool) {limits : Limits} {depth : Nat} {v : Json}
    (h : writable limits depth v = true) : Opens (dumps ensureAscii v) := by
  have hopens {c : Char} (cs : List Char) (hc : c ∉ notOpening) :
      Opens (c :: cs) := ⟨c, cs, rfl, hc⟩
  cases v with
  | null => exact hopens _ (by decide)
  | bool b => cases b <;> exact hopens _ (by decide)
  | int n =>
    cases n with
    | ofNat n => exact opens_toDigits n
    | negSucc n => exact hopens _ (by decide)
  | float f =>
    cases f with
    | dec m e =>
      have hf : printed limits (.dec m e) = true := by
        cases depth <;> exact h
      simp only [dumps, floatText]
      split
      · exact hopens _ (by decide)
      · obtain ⟨c, cs, heq, hc⟩ := head_of_scanNumber (scan_of_printed hf)
        rw [heq]
        exact opens_of_digit hc cs
    | inf negative => cases negative <;> exact hopens _ (by decide)
    | nan => exact hopens _ (by decide)
  | str s => exact hopens _ (by decide)
  | arr xs | obj kvs =>
    unfold dumps
    exact hopens _ (by decide)

theorem ends_of_cons {c : Char} (hc : c ∈ [',', ']', '}']) (cs : List Char) : Ends (c :: cs) :=
  Or.inr ⟨c, cs, rfl, hc⟩

theorem scanOnce_intText {limits : Limits} {depth : Nat} {n : Int}
    (hlen : (Nat.toDigits 10 n.natAbs).length ≤ limits.maxStrDigits) {rest : List Char}
    (h : Ends rest) : scanOnce limits depth (intText n ++ rest) = .ok (.int n, rest) := by
  have hscan (neg : Bool) := scanNumber_toDigits neg hlen h
  cases hdigits : Nat.toDigits 10 n.natAbs with
  | nil => exact absurd hdigits Nat.toDigits_ne_nil
  | cons d ds =>
    have hd := isDigit_of_mem_toDigits (n := n.natAbs) (c := d) (by simp [hdigits])
    rw [hdigits] at hscan
    obtain ⟨hpos, hneg⟩ := scanOnce_of_digit limits depth hd (ds ++ rest)
    cases n with
    | ofNat n =>
      have htext : intText (.ofNat n) = d :: ds := hdigits
      rw [htext]
      exact hpos.trans (hscan false)
    | negSucc n =>
      have htext : intText (.negSucc n) = '-' :: d :: ds := congrArg ('-' :: ·) hdigits
      rw [htext]
      exact hneg.trans (hscan true)

theorem scanOnce_floatText {limits : Limits} {depth : Nat} {f : PyFloat}
    (hf : printed limits f = true) {rest : List Char} (h : Ends rest) :
    scanOnce limits depth (floatText f ++ rest) = .ok (.float f, rest) := by
  cases f with
  | nan => cases depth <;> rfl
  | inf negative => cases depth <;> cases negative <;> rfl
  | dec m e =>
    have hscan := scan_of_printed hf
    obtain ⟨c, cs, heq, hc⟩ := head_of_scanNumber hscan
    have happend := scanNumber_append h hscan
    rw [heq] at happend
    obtain ⟨hpos, hneg⟩ := scanOnce_of_digit limits depth hc (cs ++ rest)
    simp only [floatText, heq]
    by_cases hm : m < 0
    · rw [if_pos hm]
      rw [decide_eq_true hm] at happend
      exact hneg.trans happend
    · rw [if_neg hm]
      rw [decide_eq_false hm] at happend
      exact hpos.trans happend

section Values

variable {limits : Limits} {depth : Nat} {cs rest : List Char}

theorem scanOnce_string {s : String} (h : scanString (cs.length + 1) [] cs = .ok (s, rest)) :
    scanOnce limits depth ('"' :: cs) = .ok (.str s, rest) := by
  cases depth <;> simp [scanOnce, h]

theorem scanOnce_array {xs : List Json} (hopens : Opens cs)
    (h : scanItems (scanOnce limits depth) (cs.length + 1) [] cs = .ok (xs, rest)) :
    scanOnce limits (depth + 1) ('[' :: cs) = .ok (.arr xs, rest) := by
  have hskip := hopens.skipWs []
  rw [List.append_nil] at hskip
  obtain ⟨c, cs, rfl, hc⟩ := hopens
  have hclose : c ≠ ']' := fun heq => hc (by simp [heq, notOpening])
  simp only [scanOnce]
  rw [hskip]
  split
  · next heq => exact absurd (List.cons.inj heq).1 hclose
  · rw [h]

theorem scanOnce_object {kvs : JsonObj} (hopens : Opens cs)
    (h : scanMembers (scanOnce limits depth) (cs.length + 1) [] cs = .ok (kvs, rest)) :
    scanOnce limits (depth + 1) ('{' :: cs) = .ok (.obj kvs, rest) := by
  have hskip := hopens.skipWs []
  rw [List.append_nil] at hskip
  obtain ⟨c, cs, rfl, hc⟩ := hopens
  have hclose : c ≠ '}' := fun heq => hc (by simp [heq, notOpening])
  simp only [scanOnce]
  rw [hskip]
  split
  · next heq => exact absurd (List.cons.inj heq).1 hclose
  · rw [h]

end Values

theorem Opens.append {cs : List Char} (h : Opens cs) (rest : List Char) : Opens (cs ++ rest) := by
  obtain ⟨c, cs, rfl, hc⟩ := h
  exact ⟨c, cs ++ rest, rfl, hc⟩

theorem opens_dumpsItems (ensureAscii : Bool) {limits : Limits} {depth : Nat} {x : Json}
    {xs : List Json} (h : itemsWritable limits depth (x :: xs) = true) :
    Opens (dumpsItems ensureAscii (x :: xs)) := by
  simp only [itemsWritable, Bool.and_eq_true] at h
  have hx := opens_dumps ensureAscii h.1
  cases xs with
  | nil => exact hx
  | cons y ys => exact hx.append _

theorem opens_dumpsMembers (ensureAscii : Bool) (kv : String × Json) (kvs : JsonObj) :
    Opens (dumpsMembers ensureAscii (kv :: kvs)) := by
  have hquote (cs : List Char) : Opens ('"' :: cs) := ⟨'"', cs, rfl, by decide⟩
  cases kvs <;> exact hquote _

theorem length_le_dumpsItems (ensureAscii : Bool) {limits : Limits} {depth : Nat} {xs : List Json}
    (h : itemsWritable limits depth xs = true) : xs.length ≤ (dumpsItems ensureAscii xs).length := by
  induction xs with
  | nil => exact Nat.zero_le _
  | cons x xs ih =>
    simp only [itemsWritable, Bool.and_eq_true] at h
    have hlen := ih h.2
    obtain ⟨c, cs, heq, -⟩ := opens_dumps ensureAscii h.1
    cases xs with
    | nil => simp [dumpsItems, heq]
    | cons y ys =>
      simp only [dumpsItems, List.length_append, List.length_cons] at hlen ⊢
      omega

theorem length_le_dumpsMembers (ensureAscii : Bool) (kvs : JsonObj) :
    kvs.length ≤ (dumpsMembers ensureAscii kvs).length := by
  induction kvs with
  | nil => exact Nat.zero_le _
  | cons kv kvs ih =>
    cases kvs with
    | nil =>
      simp only [dumpsMembers, List.length_append, List.length_cons, List.length_nil]
      omega
    | cons kv' kvs =>
      simp only [dumpsMembers, List.length_append, List.length_cons] at ih ⊢
      omega

theorem set_of_not_mem {d : JsonObj} {k : String} (v : Json) (h : k ∉ d.map Prod.fst) :
    d.set k v = d ++ [(k, v)] := by
  refine if_neg fun hany => h ?_
  obtain ⟨kv, hkv, hk⟩ := List.any_eq_true.mp hany
  exact List.mem_map.mpr ⟨kv, hkv, of_decide_eq_true hk⟩

theorem not_mem_of_nodup {acc kvs : JsonObj} {k : String} {v : Json}
    (h : ((acc ++ (k, v) :: kvs).map Prod.fst).Nodup) : k ∉ acc.map Prod.fst := by
  rw [List.map_append, List.map_cons] at h
  exact fun hmem => (List.nodup_append.mp h).2.2 k hmem k List.mem_cons_self rfl

section Members

variable {scan : List Char → Scanned Json} {n : Nat} {acc : JsonObj} {k : String} {v : Json}
  {cs rest : List Char}

theorem scanMembers_last (ensureAscii : Bool) (hopens : Opens cs) (h : scan cs = .ok (v, '}' :: rest)) :
    scanMembers scan (n + 1) acc (stringText ensureAscii k ++ ':' :: ' ' :: cs) =
      .ok (acc.set k v, rest) := by
  have hskip := hopens.skipWs []
  rw [List.append_nil] at hskip
  simp only [stringText, List.cons_append, List.append_assoc, List.nil_append, scanMembers]
  rw [scanString_stringText]
  simp [skipWs, hskip, h]

theorem scanMembers_next (ensureAscii : Bool) {cs' : List Char} (hopens : Opens cs) (hopens' : Opens cs')
    (h : scan cs = .ok (v, ',' :: ' ' :: cs')) :
    scanMembers scan (n + 1) acc (stringText ensureAscii k ++ ':' :: ' ' :: cs) =
      scanMembers scan n (acc.set k v) cs' := by
  have hskip := hopens.skipWs []
  have hskip' := hopens'.skipWs []
  rw [List.append_nil] at hskip hskip'
  simp only [stringText, List.cons_append, List.append_assoc, List.nil_append, scanMembers]
  rw [scanString_stringText]
  simp [skipWs, hskip, hskip', h]

end Members

mutual

/-- What `dumps` writes in front of the rest of a text is read back. -/
theorem scanOnce_dumps (ensureAscii : Bool) (limits : Limits) : ∀ (v : Json) (depth : Nat)
    (rest : List Char), writable limits depth v = true → Ends rest →
      scanOnce limits depth (dumps ensureAscii v ++ rest) = .ok (v, rest)
  | .null, depth, rest, _, _ => by cases depth <;> rfl
  | .bool b, depth, rest, _, _ => by cases depth <;> cases b <;> rfl
  | .int n, depth, rest, hv, h => by
    have hlen : (Nat.toDigits 10 n.natAbs).length ≤ limits.maxStrDigits := by
      cases depth <;> exact of_decide_eq_true hv
    exact scanOnce_intText hlen h
  | .float f, depth, rest, hv, h => by
    have hf : printed limits f = true := by
      cases depth <;> exact hv
    exact scanOnce_floatText hf h
  | .str s, depth, rest, _, _ => by
    have hread := scanString_stringText ensureAscii s rest
    have htext : dumps ensureAscii (.str s) ++ rest =
        '"' :: (s.toList.flatMap (escapeChar ensureAscii) ++ '"' :: rest) := by
      simp [dumps, stringText]
    rw [htext]
    exact scanOnce_string hread
  | .arr xs, 0, rest, hv, _ => by cases hv
  | .obj kvs, 0, rest, hv, _ => by cases hv
  | .arr [], depth + 1, rest, _, _ => rfl
  | .arr (x :: xs), depth + 1, rest, hv, h => by
    have hlen := length_le_dumpsItems ensureAscii hv
    have htext : dumps ensureAscii (.arr (x :: xs)) ++ rest =
        '[' :: (dumpsItems ensureAscii (x :: xs) ++ ']' :: rest) := by simp [dumps]
    rw [htext]
    refine scanOnce_array ((opens_dumpsItems ensureAscii hv).append _) ?_
    refine scanItems_dumps ensureAscii limits (x :: xs) depth _ [] rest hv (by simp) ?_
    rw [List.length_append]
    omega
  | .obj [], depth + 1, rest, _, _ => rfl
  | .obj (kv :: kvs), depth + 1, rest, hv, h => by
    simp only [writable, Bool.and_eq_true, decide_eq_true_eq] at hv
    have hlen := length_le_dumpsMembers ensureAscii (kv :: kvs)
    have htext : dumps ensureAscii (.obj (kv :: kvs)) ++ rest =
        '{' :: (dumpsMembers ensureAscii (kv :: kvs) ++ '}' :: rest) := by simp [dumps]
    rw [htext]
    refine scanOnce_object ((opens_dumpsMembers ensureAscii kv kvs).append _) ?_
    refine scanMembers_dumps ensureAscii limits (kv :: kvs) depth _ [] rest hv.2 (by simp) hv.1 ?_
    rw [List.length_append]
    omega

theorem scanItems_dumps (ensureAscii : Bool) (limits : Limits) : ∀ (xs : List Json) (depth n : Nat)
    (acc : List Json) (rest : List Char), itemsWritable limits depth xs = true → xs ≠ [] →
      xs.length ≤ n → scanItems (scanOnce limits depth) n acc
        (dumpsItems ensureAscii xs ++ ']' :: rest) = .ok (acc.reverse ++ xs, rest)
  | [], _, _, _, _, _, hne, _ => absurd rfl hne
  | x :: xs, depth, 0, acc, rest, hv, _, hn => absurd hn (Nat.not_succ_le_zero _)
  | [x], depth, n + 1, acc, rest, hv, _, _ => by
    simp only [itemsWritable, Bool.and_true] at hv
    simp only [scanItems, dumpsItems]
    rw [scanOnce_dumps ensureAscii limits x depth _ hv (ends_of_cons (by decide) _)]
    simp [skipWs]
  | x :: y :: ys, depth, n + 1, acc, rest, hv, _, hn => by
    simp only [itemsWritable, Bool.and_eq_true] at hv
    simp only [scanItems, dumpsItems, List.append_assoc, List.cons_append]
    rw [scanOnce_dumps ensureAscii limits x depth _ hv.1 (ends_of_cons (by decide) _)]
    have hys : itemsWritable limits depth (y :: ys) = true := by
      simp only [itemsWritable, Bool.and_eq_true]
      exact hv.2
    have hskip := (opens_dumpsItems ensureAscii hys).skipWs (']' :: rest)
    have ih := scanItems_dumps ensureAscii limits (y :: ys) depth n (x :: acc) rest hys (by simp)
      (Nat.le_of_succ_le_succ hn)
    simp only [skipWs, Char.reduceEq, or_false, if_true, if_false, hskip, ih]
    simp

theorem scanMembers_dumps (ensureAscii : Bool) (limits : Limits) : ∀ (kvs : JsonObj) (depth n : Nat)
    (acc : JsonObj) (rest : List Char), membersWritable limits depth kvs = true → kvs ≠ [] →
      ((acc ++ kvs).map Prod.fst).Nodup → kvs.length ≤ n →
        scanMembers (scanOnce limits depth) n acc
          (dumpsMembers ensureAscii kvs ++ '}' :: rest) = .ok (acc ++ kvs, rest)
  | [], _, _, _, _, _, hne, _, _ => absurd rfl hne
  | kv :: kvs, depth, 0, acc, rest, hv, _, _, hn => absurd hn (Nat.not_succ_le_zero _)
  | [(k, v)], depth, n + 1, acc, rest, hv, _, hnodup, _ => by
    simp only [membersWritable, Bool.and_true] at hv
    have hscan := scanOnce_dumps ensureAscii limits v depth _ hv (ends_of_cons (c := '}') (by decide) rest)
    simp only [dumpsMembers, List.append_assoc, List.cons_append]
    rw [scanMembers_last ensureAscii ((opens_dumps ensureAscii hv).append _) hscan,
      set_of_not_mem v (not_mem_of_nodup hnodup)]
  | (k, v) :: kv :: kvs, depth, n + 1, acc, rest, hv, _, hnodup, hn => by
    simp only [membersWritable, Bool.and_eq_true] at hv
    have hkvs : membersWritable limits depth (kv :: kvs) = true := by
      simp only [membersWritable, Bool.and_eq_true]
      exact hv.2
    have hscan := scanOnce_dumps ensureAscii limits v depth
      (',' :: ' ' :: (dumpsMembers ensureAscii (kv :: kvs) ++ '}' :: rest)) hv.1
      (ends_of_cons (by decide) _)
    have ih := scanMembers_dumps ensureAscii limits (kv :: kvs) depth n (acc ++ [(k, v)]) rest hkvs
      (by simp) (by simpa using hnodup) (Nat.le_of_succ_le_succ hn)
    simp only [dumpsMembers, List.append_assoc, List.cons_append]
    rw [scanMembers_next ensureAscii ((opens_dumps ensureAscii hv.1).append _)
      ((opens_dumpsMembers ensureAscii kv kvs).append _) hscan,
      set_of_not_mem v (not_mem_of_nodup hnodup), ih]
    simp

end

/-- `json.loads(json.dumps(value))` is the value. -/
theorem loads_dumps (ensureAscii : Bool) (limits : Limits) (v : Json)
    (h : writable limits limits.maxDepth v = true) :
    loads limits (dumps ensureAscii v) = .ok v := by
  have hscan := scanOnce_dumps ensureAscii limits v limits.maxDepth [] h (Or.inl rfl)
  have hopens := opens_dumps ensureAscii h
  have hskip := hopens.skipWs []
  rw [List.append_nil] at hscan hskip
  have hmark : (dumps ensureAscii v).head? ≠ some (Char.ofNat 0xFEFF) := by
    obtain ⟨c, cs, heq, hc⟩ := hopens
    rw [heq]
    rintro ⟨⟩
    exact hc (by decide)
  unfold loads
  rw [if_neg hmark, hskip, hscan]
  rfl

end PyJson

end Flotilla
