import VRCStreamer.Text.Numerals

/-!
# JSON

Values, a reader for the whole grammar and a compact writer, on texts of Unicode characters. The
reader undoes the writer. Nothing here depends on what the values mean.
-/

namespace VRCStreamer.Codec

open Text

/-- A number is its digits as an integer and a power of ten. -/
inductive Json
  | null
  | bool (value : Bool)
  | number (mantissa exponent : Int)
  | string (text : Text)
  | array (elements : List Json)
  | object (members : List (Text × Json))
  deriving Repr

namespace Json

/-! ## Reading strings -/

def hexDigitValue (c : Char) : Option Nat :=
  if c.isDigit then some (c.toNat - 48)
  else if 97 ≤ c.toNat ∧ c.toNat ≤ 102 then some (c.toNat - 87)
  else if 65 ≤ c.toNat ∧ c.toNat ≤ 70 then some (c.toNat - 55)
  else none

def readHex4 : Text → Option (Nat × Text)
  | a :: b :: c :: d :: rest => do
    let a ← hexDigitValue a
    let b ← hexDigitValue b
    let c ← hexDigitValue c
    let d ← hexDigitValue d
    some (4096 * a + 256 * b + 16 * c + d, rest)
  | _ => none

/-- The digits behind `\u`. A surrogate must be the first of a pair. -/
def readUnicode (text : Text) : Option (Char × Text) :=
  match readHex4 text with
  | none => none
  | some (code, rest) =>
    if 0xD800 ≤ code ∧ code ≤ 0xDBFF then
      match rest with
      | '\\' :: 'u' :: rest =>
        match readHex4 rest with
        | none => none
        | some (low, rest) =>
          if 0xDC00 ≤ low ∧ low ≤ 0xDFFF then
            some (Char.ofNat (0x10000 + (code - 0xD800) * 0x400 + (low - 0xDC00)), rest)
          else none
      | _ => none
    else if 0xDC00 ≤ code ∧ code ≤ 0xDFFF then none
    else some (Char.ofNat code, rest)

/-- What stands behind a backslash. -/
def readEscape : Text → Option (Char × Text)
  | [] => none
  | c :: rest =>
    if c = 'u' then readUnicode rest
    else if c = '"' ∨ c = '\\' ∨ c = '/' then some (c, rest)
    else if c = 'b' then some ('\x08', rest)
    else if c = 'f' then some ('\x0c', rest)
    else if c = 'n' then some ('\n', rest)
    else if c = 'r' then some ('\r', rest)
    else if c = 't' then some ('\t', rest)
    else none

def readChar (c : Char) (rest : Text) : Option (Char × Text) :=
  if c = '\\' then readEscape rest
  else if c.toNat < 0x20 then none
  else some (c, rest)

/-- The characters up to the closing quotation mark. -/
def readChars : Nat → Text → Option (Text × Text)
  | 0, _ => none
  | _ + 1, [] => none
  | fuel + 1, c :: rest =>
    if c = '"' then some ([], rest)
    else
      match readChar c rest with
      | none => none
      | some (d, rest) => (readChars fuel rest).map (fun more => (d :: more.1, more.2))

def readString : Text → Option (Text × Text)
  | '"' :: rest => readChars rest.length rest
  | _ => none

/-! ## Reading numbers -/

def readSign (text : Text) : Bool × Text :=
  if text.head? = some '-' then (true, text.tail) else (false, text)

def signed (negative : Bool) (n : Nat) : Int := if negative then -n else n

def readDigits (text : Text) : Option (Text × Text) :=
  let digits := text.takeWhile Char.isDigit
  if digits = [] then none else some (digits, text.dropWhile Char.isDigit)

def readFraction (text : Text) : Option (Text × Text) :=
  if text.head? = some '.' then readDigits text.tail else some ([], text)

def readExponent (text : Text) : Option (Int × Text) :=
  if text.head? = some 'e' ∨ text.head? = some 'E' then
    let sign := if text.tail.head? = some '+' then (false, text.tail.tail) else readSign text.tail
    (readDigits sign.2).map (fun digits => (signed sign.1 (numeral digits.1), digits.2))
  else some (0, text)

/-- No zero stands in front of other digits. -/
def readNumber (text : Text) : Option (Json × Text) :=
  let sign := readSign text
  match readDigits sign.2 with
  | none => none
  | some (whole, rest) =>
    if whole.head? = some '0' ∧ whole ≠ ['0'] then none
    else
      match readFraction rest with
      | none => none
      | some (fraction, rest) =>
        match readExponent rest with
        | none => none
        | some (exponent, rest) =>
          some (.number (signed sign.1 (numeral (whole ++ fraction))) (exponent - fraction.length),
            rest)

/-! ## Reading values -/

def isBlank (c : Char) : Bool := c = ' ' || c = '\t' || c = '\n' || c = '\r'

def skipBlanks (text : Text) : Text := text.dropWhile isBlank

/-- A value of one word. -/
def readAtom (text : Text) : Option (Json × Text) :=
  if ['n', 'u', 'l', 'l'] <+: text then some (.null, text.drop 4)
  else if ['t', 'r', 'u', 'e'] <+: text then some (.bool true, text.drop 4)
  else if ['f', 'a', 'l', 's', 'e'] <+: text then some (.bool false, text.drop 5)
  else readNumber text

mutual

def readValue : Nat → Text → Option (Json × Text)
  | 0, _ => none
  | fuel + 1, text =>
    match skipBlanks text with
    | [] => none
    | c :: rest =>
      if c = '"' then (readString (c :: rest)).map (fun read => (.string read.1, read.2))
      else if c = '[' then
        if (skipBlanks rest).head? = some ']' then some (.array [], (skipBlanks rest).tail)
        else (readElements fuel rest).map (fun read => (.array read.1, read.2))
      else if c = '\x7b' then
        if (skipBlanks rest).head? = some '\x7d' then some (.object [], (skipBlanks rest).tail)
        else (readMembers fuel rest).map (fun read => (.object read.1, read.2))
      else readAtom (c :: rest)

def readElements : Nat → Text → Option (List Json × Text)
  | 0, _ => none
  | fuel + 1, text =>
    match readValue fuel text with
    | none => none
    | some (value, rest) =>
      match skipBlanks rest with
      | ',' :: rest => (readElements fuel rest).map (fun read => (value :: read.1, read.2))
      | ']' :: rest => some ([value], rest)
      | _ => none

def readMembers : Nat → Text → Option (List (Text × Json) × Text)
  | 0, _ => none
  | fuel + 1, text =>
    match readString (skipBlanks text) with
    | none => none
    | some (key, rest) =>
      match skipBlanks rest with
      | ':' :: rest =>
        match readValue fuel rest with
        | none => none
        | some (value, rest) =>
          match skipBlanks rest with
          | ',' :: rest =>
            (readMembers fuel rest).map (fun read => ((key, value) :: read.1, read.2))
          | '\x7d' :: rest => some ([(key, value)], rest)
          | _ => none
      | _ => none

end

/-- The whole text must be one value. Every call uses up a character, so the length is enough. -/
def decode (text : Text) : Option Json :=
  match readValue text.length text with
  | none => none
  | some (value, rest) => if skipBlanks rest = [] then some value else none

/-! ## Writing -/

def escapeChar (c : Char) : Text :=
  if c = '"' then ['\\', '"']
  else if c = '\\' then ['\\', '\\']
  else if c = '\n' then ['\\', 'n']
  else if c = '\r' then ['\\', 'r']
  else if c = '\t' then ['\\', 't']
  else if c = '\x08' then ['\\', 'b']
  else if c = '\x0c' then ['\\', 'f']
  else if c.toNat ≤ 0x1f then '\\' :: 'u' :: hex 4 c.toNat
  else [c]

def encodeString (text : Text) : Text := '"' :: (text.flatMap escapeChar ++ ['"'])

def encodeInt (n : Int) : Text := if n < 0 then '-' :: decimal n.natAbs else decimal n.natAbs

mutual

def encode : Json → Text
  | .null => ['n', 'u', 'l', 'l']
  | .bool true => ['t', 'r', 'u', 'e']
  | .bool false => ['f', 'a', 'l', 's', 'e']
  | .number mantissa exponent =>
    encodeInt mantissa ++ if exponent = 0 then [] else 'e' :: encodeInt exponent
  | .string text => encodeString text
  | .array [] => ['[', ']']
  | .array (value :: elements) => '[' :: (encode value ++ encodeElements elements)
  | .object [] => ['\x7b', '\x7d']
  | .object ((key, value) :: members) =>
    '\x7b' :: (encodeString key ++ ':' :: (encode value ++ encodeMembers members))

/-- The elements behind the first one, and the end. -/
def encodeElements : List Json → Text
  | [] => [']']
  | value :: elements => ',' :: (encode value ++ encodeElements elements)

def encodeMembers : List (Text × Json) → Text
  | [] => ['\x7d']
  | (key, value) :: members =>
    ',' :: (encodeString key ++ ':' :: (encode value ++ encodeMembers members))

end

/-! ## Strings are read back -/

theorem hexDigitValue_digitChar : ∀ d < 16, hexDigitValue (Nat.digitChar d) = some d := by
  decide +kernel

theorem hex_control :
    ∀ n < 32, hex 4 n = ['0', '0', Nat.digitChar (n / 16), Nat.digitChar (n % 16)] := by
  decide +kernel

theorem readUnicode_control {n : Nat} (h : n < 32) (rest : Text) :
    readUnicode (hex 4 n ++ rest) = some (Char.ofNat n, rest) := by
  have hzero : hexDigitValue '0' = some 0 := by decide
  have hhigh := hexDigitValue_digitChar (n / 16) (by omega)
  have hlow := hexDigitValue_digitChar (n % 16) (by omega)
  have hread : readHex4 (hex 4 n ++ rest) = some (n, rest) := by
    rw [hex_control n h]
    simp only [List.cons_append, List.nil_append, readHex4, hzero, hhigh, hlow, Option.bind_eq_bind,
      Option.bind_some, Option.some.injEq, Prod.mk.injEq, and_true]
    omega
  rw [readUnicode, hread]
  dsimp only
  rw [if_neg (by omega), if_neg (by omega)]

/-- The reader takes a written character as that character. -/
theorem readChars_escapeChar (fuel : Nat) (c : Char) (rest : Text) :
    readChars (fuel + 1) (escapeChar c ++ rest) =
      (readChars fuel rest).map (fun more => (c :: more.1, more.2)) := by
  by_cases hletter : c = '"' ∨ c = '\\' ∨ c = '\n' ∨ c = '\r' ∨ c = '\t' ∨ c = '\x08' ∨ c = '\x0c'
  · obtain rfl | rfl | rfl | rfl | rfl | rfl | rfl := hletter
    all_goals rfl
  · simp only [not_or] at hletter
    obtain ⟨hquote, hslash, hnewline, hreturn, htab, hbackspace, hfeed⟩ := hletter
    rw [escapeChar, if_neg hquote, if_neg hslash, if_neg hnewline, if_neg hreturn, if_neg htab,
      if_neg hbackspace, if_neg hfeed]
    split
    next hcontrol =>
      have hescape : readChar '\\' ('u' :: (hex 4 c.toNat ++ rest)) = some (c, rest) := by
        rw [readChar, if_pos rfl, readEscape, if_pos rfl, readUnicode_control (by omega),
          Char.ofNat_toNat]
      rw [List.cons_append, List.cons_append, readChars, if_neg (by decide), hescape]
    next hcontrol =>
      have hplain : readChar c rest = some (c, rest) := by
        rw [readChar, if_neg hslash, if_neg (by omega)]
      rw [List.cons_append, List.nil_append, readChars, if_neg hquote, hplain]

theorem readChars_encode (text rest : Text) {fuel : Nat} (h : text.length < fuel) :
    readChars fuel (text.flatMap escapeChar ++ '"' :: rest) = some (text, rest) := by
  induction text generalizing fuel with
  | nil =>
    obtain ⟨fuel, rfl⟩ : ∃ more, fuel = more + 1 := ⟨fuel - 1, by omega⟩
    rw [List.flatMap_nil, List.nil_append, readChars, if_pos rfl]
  | cons c text ih =>
    obtain ⟨fuel, rfl⟩ : ∃ more, fuel = more + 1 := ⟨fuel - 1, by omega⟩
    rw [List.length_cons] at h
    rw [List.flatMap_cons, List.append_assoc, readChars_escapeChar, ih (by omega)]
    rfl

theorem escapeChar_ne_nil (c : Char) : escapeChar c ≠ [] := by
  rw [escapeChar]
  repeat' split
  all_goals exact List.cons_ne_nil _ _

theorem length_le_flatMap_escapeChar (text : Text) :
    text.length ≤ (text.flatMap escapeChar).length := by
  induction text with
  | nil => exact Nat.zero_le _
  | cons c text ih =>
    have hc := List.length_pos_of_ne_nil (escapeChar_ne_nil c)
    rw [List.flatMap_cons, List.length_append, List.length_cons]
    omega

theorem readString_encode (text rest : Text) :
    readString (encodeString text ++ rest) = some (text, rest) := by
  have hlength := length_le_flatMap_escapeChar text
  rw [encodeString, List.cons_append, List.append_assoc]
  apply readChars_encode
  rw [List.length_append, List.length_append, List.length_singleton]
  omega

/-! ## Numbers are read back -/

/-- What may stand behind a value. -/
def Delimited (rest : Text) : Prop :=
  ∀ c, rest.head? = some c → c = ',' ∨ c = ']' ∨ c = '\x7d'

theorem delimited_nil : Delimited [] := nofun

theorem delimited_cons {c : Char} (h : c = ',' ∨ c = ']' ∨ c = '\x7d') (rest : Text) :
    Delimited (c :: rest) := by
  intro d hd
  exact Option.some.inj hd ▸ h

/-- No digit stands at the front. -/
def EndsDigits (rest : Text) : Prop := ∀ c, rest.head? = some c → c.isDigit = false

theorem Delimited.endsDigits {rest : Text} (h : Delimited rest) : EndsDigits rest := by
  intro c hc
  obtain rfl | rfl | rfl := h c hc
  all_goals decide

theorem readDigits_decimal (n : Nat) {rest : Text} (h : EndsDigits rest) :
    readDigits (decimal n ++ rest) = some (decimal n, rest) := by
  have hstop : rest.takeWhile Char.isDigit = [] ∧ rest.dropWhile Char.isDigit = rest := by
    cases rest with
    | nil => exact ⟨rfl, rfl⟩
    | cons c rest =>
      have hc : ¬ c.isDigit = true := by
        rw [h c rfl]
        exact Bool.false_ne_true
      exact ⟨List.takeWhile_cons_of_neg hc, List.dropWhile_cons_of_neg hc⟩
  have htake : (decimal n ++ rest).takeWhile Char.isDigit = decimal n := by
    rw [List.takeWhile_append_of_pos fun _ => isDigit_of_mem_decimal, hstop.1, List.append_nil]
  have hdrop : (decimal n ++ rest).dropWhile Char.isDigit = rest := by
    rw [List.dropWhile_append_of_pos fun _ => isDigit_of_mem_decimal, hstop.2]
  rw [readDigits, htake, hdrop]
  exact if_neg (decimal_ne_nil n)

theorem head_decimal (n : Nat) : ∃ c, (decimal n).head? = some c ∧ c.isDigit = true := by
  obtain ⟨c, digits, hdigits⟩ := List.exists_cons_of_ne_nil (decimal_ne_nil n)
  refine ⟨c, ?_, ?_⟩
  · rw [hdigits]
    rfl
  · exact isDigit_of_mem_decimal (n := n) (hdigits ▸ List.mem_cons_self)

/-- Only zero itself starts with a zero. -/
theorem decimal_of_zero_head (n : Nat) (h : (decimal n).head? = some '0') : decimal n = ['0'] := by
  induction n using Nat.strong_induction_on with
  | _ n ih =>
    rw [decimal, Nat.toDigits_eq_if (by decide)] at h ⊢
    split at h
    next hsmall =>
      rw [if_pos hsmall]
      exact congrArg (fun c => [c]) (Option.some.inj h)
    next hlarge =>
      have hne : Nat.toDigits 10 (n / 10) ≠ [] := Nat.toDigits_ne_nil
      have hhead : (decimal (n / 10)).head? = some '0' := by
        rw [List.head?_append_of_ne_nil _ hne] at h
        exact h
      have hzero := ih (n / 10) (by omega) hhead
      have hvalue := numeral_decimal (n / 10)
      rw [hzero] at hvalue
      have : n / 10 = 0 := hvalue.symm
      omega

theorem readSign_encodeInt (n : Int) (rest : Text) :
    readSign (encodeInt n ++ rest) = (decide (n < 0), decimal n.natAbs ++ rest) := by
  rw [encodeInt]
  split
  next hneg =>
    rw [decide_eq_true hneg]
    rfl
  next hneg =>
    obtain ⟨c, hc, hdigit⟩ := head_decimal n.natAbs
    have hhead : (decimal n.natAbs ++ rest).head? ≠ some '-' := by
      rw [List.head?_append_of_ne_nil _ (decimal_ne_nil _), hc]
      rintro ⟨⟩
      exact absurd hdigit (by decide)
    rw [readSign, if_neg hhead, decide_eq_false hneg]

theorem signed_natAbs (n : Int) : signed (decide (n < 0)) n.natAbs = n := by
  rw [signed]
  split
  next h =>
    have := of_decide_eq_true h
    omega
  next h =>
    have := of_decide_eq_false (Bool.eq_false_iff.mpr h)
    omega

theorem head_encodeInt (n : Int) (rest : Text) : (encodeInt n ++ rest).head? ≠ some '+' := by
  obtain ⟨c, hc, hdigit⟩ := head_decimal n.natAbs
  rw [encodeInt]
  split
  · exact fun hplus => absurd (Option.some.inj hplus) (by decide)
  · rw [List.head?_append_of_ne_nil _ (decimal_ne_nil _), hc]
    rintro ⟨⟩
    exact absurd hdigit (by decide)

theorem readExponent_encode (exponent : Int) {rest : Text} (h : Delimited rest) :
    readExponent ((if exponent = 0 then [] else 'e' :: encodeInt exponent) ++ rest) =
      some (exponent, rest) := by
  split
  next hzero =>
    have hnone : ¬ (rest.head? = some 'e' ∨ rest.head? = some 'E') := by
      rintro (he | he)
      all_goals
        have := h _ he
        revert this
        decide
    rw [List.nil_append, readExponent, if_neg hnone, hzero]
  next =>
    have hsign := readSign_encodeInt exponent rest
    have hread := readDigits_decimal exponent.natAbs h.endsDigits
    rw [readExponent, if_pos (.inl rfl), List.cons_append, List.tail_cons,
      if_neg (head_encodeInt exponent rest), hsign]
    dsimp only
    rw [hread, Option.map_some, numeral_decimal, signed_natAbs]

theorem readNumber_encode (mantissa exponent : Int) {rest : Text} (h : Delimited rest) :
    readNumber (encode (.number mantissa exponent) ++ rest) =
      some (.number mantissa exponent, rest) := by
  have hexponent := readExponent_encode exponent h
  generalize hmore : (if exponent = 0 then [] else 'e' :: encodeInt exponent) ++ rest = more
    at hexponent
  have hhead : EndsDigits more ∧ more.head? ≠ some '.' := by
    rw [← hmore]
    split
    next =>
      refine ⟨h.endsDigits, fun hdot => ?_⟩
      have := h _ hdot
      revert this
      decide
    next =>
      refine ⟨fun c hc => Option.some.inj hc ▸ by decide, fun hdot => ?_⟩
      exact absurd (Option.some.inj hdot) (by decide)
  have hdigits := readDigits_decimal mantissa.natAbs hhead.1
  have hzero : ¬ ((decimal mantissa.natAbs).head? = some '0' ∧
      decimal mantissa.natAbs ≠ ['0']) :=
    fun hzero => hzero.2 (decimal_of_zero_head _ hzero.1)
  have hfraction : readFraction more = some ([], more) := if_neg hhead.2
  rw [encode, List.append_assoc, hmore, readNumber, readSign_encodeInt]
  dsimp only
  rw [hdigits]
  dsimp only
  rw [if_neg hzero, hfraction]
  dsimp only
  rw [hexponent]
  dsimp only
  rw [List.append_nil, numeral_decimal, signed_natAbs]
  simp

/-! ## Values are read back -/

theorem skipBlanks_cons {c : Char} (h : isBlank c = false) (rest : Text) :
    skipBlanks (c :: rest) = c :: rest :=
  List.dropWhile_cons_of_neg (by rw [h]; exact Bool.false_ne_true)

theorem isBlank_of_isDigit {c : Char} (h : c.isDigit = true) : isBlank c = false := by
  have hne : ∀ d, d.isDigit = false → c ≠ d := by
    rintro d hd rfl
    exact Bool.false_ne_true (hd.symm.trans h)
  simp [isBlank, hne]

theorem encodeInt_eq_cons (n : Int) :
    ∃ c rest, encodeInt n = c :: rest ∧ (c = '-' ∨ c.isDigit = true) := by
  rw [encodeInt]
  split
  · exact ⟨'-', _, rfl, .inl rfl⟩
  · obtain ⟨c, rest, hdecimal⟩ := List.exists_cons_of_ne_nil (decimal_ne_nil n.natAbs)
    exact ⟨c, rest, hdecimal,
      .inr (isDigit_of_mem_decimal (n := n.natAbs) (hdecimal ▸ List.mem_cons_self))⟩

/-- A written value starts neither with a blank nor with the end of an array. -/
theorem encode_eq_cons (value : Json) :
    ∃ c rest, encode value = c :: rest ∧ isBlank c = false ∧ c ≠ ']' := by
  match value with
  | .null => exact ⟨'n', _, rfl, by decide, by decide⟩
  | .bool true => exact ⟨'t', _, rfl, by decide, by decide⟩
  | .bool false => exact ⟨'f', _, rfl, by decide, by decide⟩
  | .number mantissa exponent =>
    obtain ⟨c, rest, hint, hc⟩ := encodeInt_eq_cons mantissa
    refine ⟨c, _, by rw [encode, hint]; rfl, ?_, ?_⟩
    · obtain rfl | hdigit := hc
      · decide
      · exact isBlank_of_isDigit hdigit
    · rintro rfl
      exact absurd hc (by decide)
  | .string text => exact ⟨'"', _, by rw [encode]; rfl, by decide, by decide⟩
  | .array [] => exact ⟨'[', _, by rw [encode], by decide, by decide⟩
  | .array (value :: elements) => exact ⟨'[', _, by rw [encode], by decide, by decide⟩
  | .object [] => exact ⟨'\x7b', _, by rw [encode], by decide, by decide⟩
  | .object ((key, value) :: members) =>
    exact ⟨'\x7b', _, by rw [encode], by decide, by decide⟩

theorem readValue_string (fuel : Nat) (text rest : Text) :
    readValue (fuel + 1) (encodeString text ++ rest) = some (.string text, rest) := by
  have hread := readString_encode text rest
  rw [encodeString, List.cons_append] at hread ⊢
  rw [readValue, skipBlanks_cons (by decide)]
  dsimp only
  rw [if_pos rfl, hread]
  rfl

/-- A text that opens no string, array or object is a single word. -/
theorem readValue_atom (fuel : Nat) {c : Char} (hblank : isBlank c = false) (hquote : c ≠ '"')
    (harray : c ≠ '[') (hobject : c ≠ '\x7b') (rest : Text) :
    readValue (fuel + 1) (c :: rest) = readAtom (c :: rest) := by
  rw [readValue, skipBlanks_cons hblank]
  dsimp only
  rw [if_neg hquote, if_neg harray, if_neg hobject]

theorem readValue_number (fuel : Nat) (mantissa exponent : Int) {rest : Text} (h : Delimited rest) :
    readValue (fuel + 1) (encode (.number mantissa exponent) ++ rest) =
      some (.number mantissa exponent, rest) := by
  have hread := readNumber_encode mantissa exponent h
  obtain ⟨c, more, hint, hc⟩ := encodeInt_eq_cons mantissa
  rw [encode, hint, List.cons_append, List.cons_append] at hread ⊢
  have hne : ∀ d, d ≠ '-' → d.isDigit = false → c ≠ d := by
    rintro d hsign hdigit rfl
    exact hc.elim hsign fun h => Bool.false_ne_true (hdigit.symm.trans h)
  have hblank : isBlank c = false := by
    obtain rfl | hdigit := hc
    · decide
    · exact isBlank_of_isDigit hdigit
  have hword : ∀ (d : Char) (word text : Text), d ≠ '-' → d.isDigit = false →
      ¬ (d :: word) <+: c :: text := by
    intro d word text hsign hdigit hprefix
    exact hne d hsign hdigit (List.cons_prefix_cons.mp hprefix).1.symm
  rw [readValue_atom fuel hblank (hne _ (by decide) (by decide)) (hne _ (by decide) (by decide))
    (hne _ (by decide) (by decide)), readAtom, if_neg (hword _ _ _ (by decide) (by decide)),
    if_neg (hword _ _ _ (by decide) (by decide)), if_neg (hword _ _ _ (by decide) (by decide)),
    hread]

theorem readValue_null (fuel : Nat) (rest : Text) :
    readValue (fuel + 1) (encode .null ++ rest) = some (.null, rest) := by
  rw [encode, List.cons_append, readValue_atom fuel (by decide) (by decide) (by decide) (by decide)]
  exact if_pos (List.prefix_append ['n', 'u', 'l', 'l'] rest)

theorem readValue_bool (fuel : Nat) (value : Bool) (rest : Text) :
    readValue (fuel + 1) (encode (.bool value) ++ rest) = some (.bool value, rest) := by
  have hother : ∀ {c d : Char} (word text : Text), c ≠ d → ¬ (c :: word) <+: d :: text :=
    fun word text hne hprefix => hne (List.cons_prefix_cons.mp hprefix).1
  cases value with
  | true =>
    rw [encode, List.cons_append,
      readValue_atom fuel (by decide) (by decide) (by decide) (by decide), readAtom,
      if_neg (hother _ _ (by decide))]
    exact if_pos (List.prefix_append ['t', 'r', 'u', 'e'] rest)
  | false =>
    rw [encode, List.cons_append,
      readValue_atom fuel (by decide) (by decide) (by decide) (by decide), readAtom,
      if_neg (hother _ _ (by decide)), if_neg (hother _ _ (by decide))]
    exact if_pos (List.prefix_append ['f', 'a', 'l', 's', 'e'] rest)

theorem readValue_array_nil (fuel : Nat) (rest : Text) :
    readValue (fuel + 1) ('[' :: ']' :: rest) = some (.array [], rest) := by
  rw [readValue, skipBlanks_cons (by decide)]
  dsimp only
  rw [if_neg (by decide), if_pos rfl, skipBlanks_cons (by decide)]
  exact if_pos rfl

theorem readValue_array (fuel : Nat) {c : Char} (hblank : isBlank c = false) (hc : c ≠ ']')
    (rest : Text) : readValue (fuel + 1) ('[' :: c :: rest) =
      (readElements fuel (c :: rest)).map (fun read => (.array read.1, read.2)) := by
  rw [readValue, skipBlanks_cons (by decide)]
  dsimp only
  rw [if_neg (by decide), if_pos rfl, skipBlanks_cons hblank]
  exact if_neg fun h => hc (Option.some.inj h)

theorem readValue_object_nil (fuel : Nat) (rest : Text) :
    readValue (fuel + 1) ('\x7b' :: '\x7d' :: rest) = some (.object [], rest) := by
  rw [readValue, skipBlanks_cons (by decide)]
  dsimp only
  rw [if_neg (by decide), if_neg (by decide), if_pos rfl, skipBlanks_cons (by decide)]
  exact if_pos rfl

theorem readValue_object (fuel : Nat) (rest : Text) :
    readValue (fuel + 1) ('\x7b' :: '"' :: rest) =
      (readMembers fuel ('"' :: rest)).map (fun read => (.object read.1, read.2)) := by
  rw [readValue, skipBlanks_cons (by decide)]
  dsimp only
  rw [if_neg (by decide), if_neg (by decide), if_pos rfl, skipBlanks_cons (by decide)]
  exact if_neg fun h => absurd (Option.some.inj h) (by decide)

theorem exists_fuel {value : Json} {fuel : Nat} (h : (encode value).length ≤ fuel) :
    ∃ more, fuel = more + 1 := by
  obtain ⟨c, tail, hvalue, -⟩ := encode_eq_cons value
  rw [hvalue, List.length_cons] at h
  exact ⟨fuel - 1, by omega⟩

/-- The name and the colon of a member. -/
theorem readMembers_succ (fuel : Nat) (key rest : Text) :
    readMembers (fuel + 1) (encodeString key ++ ':' :: rest) =
      match readValue fuel rest with
      | none => none
      | some (value, rest) =>
        match skipBlanks rest with
        | ',' :: rest =>
          (readMembers fuel rest).map (fun read => ((key, value) :: read.1, read.2))
        | '\x7d' :: rest => some ([(key, value)], rest)
        | _ => none := by
  have hkey := readString_encode key (':' :: rest)
  have hblank : skipBlanks (encodeString key ++ ':' :: rest) = encodeString key ++ ':' :: rest :=
    skipBlanks_cons (by decide) _
  rw [readMembers, hblank, hkey]
  dsimp only
  rw [skipBlanks_cons (by decide)]
  rfl

mutual

/-- The reader stops behind the value that was written. -/
theorem readValue_encode : ∀ (value : Json) (fuel : Nat) (rest : Text),
    (encode value).length ≤ fuel → Delimited rest →
      readValue fuel (encode value ++ rest) = some (value, rest)
  | .null, fuel, rest, hfuel, _ => by
    obtain ⟨fuel, rfl⟩ := exists_fuel hfuel
    exact readValue_null fuel rest
  | .bool value, fuel, rest, hfuel, _ => by
    obtain ⟨fuel, rfl⟩ := exists_fuel hfuel
    exact readValue_bool fuel value rest
  | .number mantissa exponent, fuel, rest, hfuel, hrest => by
    obtain ⟨fuel, rfl⟩ := exists_fuel hfuel
    exact readValue_number fuel mantissa exponent hrest
  | .string text, fuel, rest, hfuel, _ => by
    obtain ⟨fuel, rfl⟩ := exists_fuel hfuel
    rw [encode]
    exact readValue_string fuel text rest
  | .array [], fuel, rest, hfuel, _ => by
    obtain ⟨fuel, rfl⟩ := exists_fuel hfuel
    rw [encode]
    exact readValue_array_nil fuel rest
  | .array (value :: elements), fuel, rest, hfuel, _ => by
    obtain ⟨fuel, rfl⟩ := exists_fuel hfuel
    rw [encode, List.length_cons] at hfuel
    have helements := readElements_encode value elements fuel rest (Nat.le_of_succ_le_succ hfuel)
    obtain ⟨c, tail, hvalue, hblank, hc⟩ := encode_eq_cons value
    rw [hvalue, List.cons_append] at helements
    rw [encode, List.cons_append, List.append_assoc, hvalue, List.cons_append,
      readValue_array fuel hblank hc, helements]
    rfl
  | .object [], fuel, rest, hfuel, _ => by
    obtain ⟨fuel, rfl⟩ := exists_fuel hfuel
    rw [encode]
    exact readValue_object_nil fuel rest
  | .object ((key, value) :: members), fuel, rest, hfuel, _ => by
    obtain ⟨fuel, rfl⟩ := exists_fuel hfuel
    rw [encode, List.length_cons] at hfuel
    have hmembers := readMembers_encode key value members fuel rest (Nat.le_of_succ_le_succ hfuel)
    have hquote : encodeString key ++ ':' :: (encode value ++ (encodeMembers members ++ rest)) =
        '"' :: (key.flatMap escapeChar ++ ['"'] ++
          ':' :: (encode value ++ (encodeMembers members ++ rest))) := rfl
    rw [encode, List.cons_append, List.append_assoc, List.cons_append, List.append_assoc, hquote,
      readValue_object, ← hquote, hmembers]
    rfl
termination_by value => sizeOf value

theorem readElements_encode : ∀ (value : Json) (elements : List Json) (fuel : Nat) (rest : Text),
    (encode value ++ encodeElements elements).length ≤ fuel →
      readElements fuel (encode value ++ (encodeElements elements ++ rest)) =
        some (value :: elements, rest)
  | value, [], fuel, rest, hfuel => by
    rw [encodeElements, List.length_append, List.length_singleton] at hfuel
    obtain ⟨fuel, rfl⟩ : ∃ more, fuel = more + 1 := ⟨fuel - 1, by omega⟩
    have hvalue := readValue_encode value fuel (']' :: rest) (by omega)
      (delimited_cons (.inr (.inl rfl)) rest)
    rw [encodeElements, List.cons_append, List.nil_append, readElements, hvalue]
    dsimp only
    rw [skipBlanks_cons (by decide)]
    rfl
  | value, next :: elements, fuel, rest, hfuel => by
    rw [encodeElements, List.length_append, List.length_cons] at hfuel
    obtain ⟨fuel, rfl⟩ : ∃ more, fuel = more + 1 := ⟨fuel - 1, by omega⟩
    have hvalue := readValue_encode value fuel
      (',' :: (encode next ++ (encodeElements elements ++ rest))) (by omega)
      (delimited_cons (.inl rfl) _)
    have helements := readElements_encode next elements fuel rest (by omega)
    rw [encodeElements, List.cons_append, List.append_assoc, readElements, hvalue]
    dsimp only
    rw [skipBlanks_cons (by decide)]
    show Option.map _ (readElements fuel _) = _
    rw [helements]
    rfl
termination_by value elements => sizeOf value + sizeOf elements

theorem readMembers_encode : ∀ (key : Text) (value : Json) (members : List (Text × Json))
    (fuel : Nat) (rest : Text),
    (encodeString key ++ ':' :: (encode value ++ encodeMembers members)).length ≤ fuel →
      readMembers fuel (encodeString key ++
        ':' :: (encode value ++ (encodeMembers members ++ rest))) =
          some ((key, value) :: members, rest)
  | key, value, [], fuel, rest, hfuel => by
    rw [encodeMembers, List.length_append, List.length_cons, List.length_append,
      List.length_singleton] at hfuel
    obtain ⟨fuel, rfl⟩ : ∃ more, fuel = more + 1 := ⟨fuel - 1, by omega⟩
    have hvalue := readValue_encode value fuel ('\x7d' :: rest) (by omega)
      (delimited_cons (.inr (.inr rfl)) rest)
    rw [encodeMembers, List.cons_append, List.nil_append, readMembers_succ, hvalue]
    dsimp only
    rw [skipBlanks_cons (by decide)]
    rfl
  | key, value, (nextKey, next) :: members, fuel, rest, hfuel => by
    rw [encodeMembers, List.length_append, List.length_cons, List.length_append,
      List.length_cons] at hfuel
    obtain ⟨fuel, rfl⟩ : ∃ more, fuel = more + 1 := ⟨fuel - 1, by omega⟩
    have hvalue := readValue_encode value fuel
      (',' :: (encodeString nextKey ++ ':' :: (encode next ++ (encodeMembers members ++ rest))))
      (by omega) (delimited_cons (.inl rfl) _)
    have hmembers := readMembers_encode nextKey next members fuel rest (by omega)
    rw [encodeMembers, List.cons_append, List.append_assoc, List.cons_append, List.append_assoc,
      readMembers_succ, hvalue]
    dsimp only
    rw [skipBlanks_cons (by decide)]
    show Option.map _ (readMembers fuel _) = _
    rw [hmembers]
    rfl
termination_by _ value members => sizeOf value + sizeOf members

end

/-- What was written is valid, and it is read back. -/
theorem decode_encode (value : Json) : decode (encode value) = some value := by
  have hread := readValue_encode value (encode value).length [] le_rfl delimited_nil
  rw [List.append_nil] at hread
  rw [decode, hread]
  rfl

/-! ## Parts of a text -/

/-- A member behind another one. -/
def encodeMember (member : Text × Json) : Text :=
  ',' :: (encodeString member.1 ++ ':' :: encode member.2)

theorem encodeMembers_eq (members : List (Text × Json)) :
    encodeMembers members = members.flatMap encodeMember ++ ['\x7d'] := by
  induction members with
  | nil => rw [encodeMembers, List.flatMap_nil, List.nil_append]
  | cons member members ih =>
    rw [encodeMembers, ih, List.flatMap_cons, encodeMember]
    simp only [List.cons_append, List.append_assoc]

/-- Texts without a quotation mark, a backslash or a control character are written as they are. -/
theorem encodeString_plain {text : Text} (h : ∀ c ∈ text, escapeChar c = [c]) :
    encodeString text = '"' :: (text ++ ['"']) := by
  have hflat : text.flatMap escapeChar = text := by
    induction text with
    | nil => rfl
    | cons c text ih =>
      obtain ⟨hc, htext⟩ := List.forall_mem_cons.mp h
      rw [List.flatMap_cons, hc, ih htext]
      rfl
  rw [encodeString, hflat]

end Json

end VRCStreamer.Codec
