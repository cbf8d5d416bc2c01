import Evalynx.JsonText
import Mathlib.Data.List.TakeDrop

/-! `json.loads` reads back what `json.dumps` writes, in every layout. -/

namespace Json

theorem skipSpace_append (spaces cs : List Char) (blank : ∀ c ∈ spaces, isSpace c = true) :
    skipSpace (spaces ++ cs) = skipSpace cs :=
  List.dropWhile_append_of_pos blank

theorem skipSpace_cons (c : Char) (cs : List Char) (solid : isSpace c = false) :
    skipSpace (c :: cs) = c :: cs := by
  simp [skipSpace, solid]

theorem hexValue_digitChar : ∀ digit, digit < 16 → hexValue digit.digitChar = some digit := by
  decide

theorem readHex_hexDigits (code : Nat) (bound : code < 0x10000) (rest : List Char) :
    readHex (hexDigits code ++ rest) = some (code, rest) := by
  have d3 := hexValue_digitChar (code / 4096 % 16) (by omega)
  have d2 := hexValue_digitChar (code / 256 % 16) (by omega)
  have d1 := hexValue_digitChar (code / 16 % 16) (by omega)
  have d0 := hexValue_digitChar (code % 16) (by omega)
  have sum : code / 4096 % 16 * 4096 + code / 256 % 16 * 256 + code / 16 % 16 * 16 + code % 16 =
      code := by omega
  simp only [hexDigits, List.cons_append, List.nil_append, readHex, d3, d2, d1, d0, sum]

theorem char_scalar (c : Char) : c.toNat < 0xd800 ∨ (0xdfff < c.toNat ∧ c.toNat < 0x110000) := by
  have valid := c.valid
  simp only [UInt32.isValidChar, Nat.isValidChar] at valid
  exact valid

theorem char_below (c : Char) : c.toNat < 0x110000 := by
  have scalar := char_scalar c
  omega

theorem readEscape_hex (code : Nat) (bound : code < 0x10000) (rest : List Char) :
    readEscape ('u' :: (hexDigits code ++ rest)) = readCode code rest := by
  rw [readEscape, readHex_hexDigits code bound]

theorem readCode_basic (c : Char) (rest : List Char) : readCode c.toNat rest = some (c, rest) := by
  have scalar := char_scalar c
  have high : ¬ isHighSurrogate c.toNat = true := by
    rw [isHighSurrogate, Bool.and_eq_true, decide_eq_true_eq, decide_eq_true_eq]
    omega
  have low : ¬ isLowSurrogate c.toNat = true := by
    rw [isLowSurrogate, Bool.and_eq_true, decide_eq_true_eq, decide_eq_true_eq]
    omega
  rw [readCode, if_neg high, if_neg low, Char.ofNat_toNat]

theorem highSurrogate_high (code : Nat) (below : code < 0x110000) :
    isHighSurrogate (highSurrogate code) = true := by
  unfold isHighSurrogate highSurrogate
  rw [Bool.and_eq_true, decide_eq_true_eq, decide_eq_true_eq]
  omega

theorem lowSurrogate_low (code : Nat) : isLowSurrogate (lowSurrogate code) = true := by
  unfold isLowSurrogate lowSurrogate
  rw [Bool.and_eq_true, decide_eq_true_eq, decide_eq_true_eq]
  omega

theorem joinSurrogates_split (code : Nat) (above : 0x10000 ≤ code) :
    joinSurrogates (highSurrogate code) (lowSurrogate code) = code := by
  unfold joinSurrogates highSurrogate lowSurrogate
  omega

theorem highSurrogate_bound (code : Nat) (below : code < 0x110000) :
    highSurrogate code < 0x10000 := by
  unfold highSurrogate
  omega

theorem lowSurrogate_bound (code : Nat) : lowSurrogate code < 0x10000 := by
  unfold lowSurrogate
  omega

theorem readLowSurrogate_write (code : Nat) (rest : List Char) :
    readLowSurrogate (unicodeEscape (lowSurrogate code) ++ rest) = some (lowSurrogate code, rest) := by
  rw [unicodeEscape, List.cons_append, List.cons_append, readLowSurrogate,
    readHex_hexDigits _ (lowSurrogate_bound code)]
  simp only [lowSurrogate_low, if_true]

theorem readCode_surrogates (high low : Nat) (cs rest : List Char)
    (isHigh : isHighSurrogate high = true) (second : readLowSurrogate cs = some (low, rest)) :
    readCode high cs = some (Char.ofNat (joinSurrogates high low), rest) := by
  rw [readCode, if_pos isHigh, second]

theorem readCode_pair (c : Char) (rest : List Char) (above : 0x10000 ≤ c.toNat) :
    readCode (highSurrogate c.toNat) (unicodeEscape (lowSurrogate c.toNat) ++ rest) =
      some (c, rest) := by
  have joined := readCode_surrogates _ _ _ rest (highSurrogate_high _ (char_below c))
    (readLowSurrogate_write c.toNat rest)
  rw [joined, joinSurrogates_split _ above, Char.ofNat_toNat]

theorem readChars_escape (c : Char) (fuel : Nat) (cs rest : List Char)
    (read : readEscape cs = some (c, rest)) :
    readChars (fuel + 1) ('\\' :: cs) = (readChars fuel rest).map fun (s, cs) => (c :: s, cs) := by
  have notQuote : ¬ '\\' = '"' := by decide
  simp only [readChars, if_neg notQuote, if_true, read]

theorem readChars_plain (c : Char) (fuel : Nat) (cs : List Char) (notQuote : c ≠ '"')
    (notBackslash : c ≠ '\\') (visible : 0x20 ≤ c.toNat) :
    readChars (fuel + 1) (c :: cs) = (readChars fuel cs).map fun (s, cs) => (c :: s, cs) := by
  have printed : ¬ c.toNat < 0x20 := by omega
  simp only [readChars, if_neg notQuote, if_neg notBackslash, if_neg printed]

theorem readChars_short (c plain short : Char) (other : List Char) (fuel : Nat) (rest : List Char)
    (read : readEscape (short :: rest) = some (plain, rest))
    (otherwise : c ≠ plain → readChars (fuel + 1) (other ++ rest) =
      (readChars fuel rest).map fun (s, cs) => (c :: s, cs)) :
    readChars (fuel + 1) ((if c = plain then ['\\', short] else other) ++ rest) =
      (readChars fuel rest).map fun (s, cs) => (c :: s, cs) := by
  by_cases same : c = plain
  · rw [if_pos same, same]
    exact readChars_escape plain fuel (short :: rest) rest read
  · rw [if_neg same]
    exact otherwise same

theorem readChars_escapeChar (c : Char) (fuel : Nat) (rest : List Char) :
    readChars (fuel + 1) (escapeChar c ++ rest) =
      (readChars fuel rest).map fun (s, cs) => (c :: s, cs) := by
  unfold escapeChar
  apply readChars_short c '"' '"' _ fuel rest rfl
  intro quote
  apply readChars_short c '\\' '\\' _ fuel rest rfl
  intro backslash
  apply readChars_short c '\n' 'n' _ fuel rest rfl
  intro _
  apply readChars_short c '\r' 'r' _ fuel rest rfl
  intro _
  apply readChars_short c '\t' 't' _ fuel rest rfl
  intro _
  apply readChars_short c '\x08' 'b' _ fuel rest rfl
  intro _
  apply readChars_short c '\x0c' 'f' _ fuel rest rfl
  intro _
  by_cases printable : 0x20 ≤ c.toNat ∧ c.toNat ≤ 0x7e
  · rw [if_pos printable]
    exact readChars_plain c fuel rest quote backslash printable.1
  rw [if_neg printable]
  by_cases basic : c.toNat < 0x10000
  · rw [if_pos basic, unicodeEscape, List.cons_append, List.cons_append]
    apply readChars_escape
    rw [readEscape_hex c.toNat basic rest, readCode_basic]
  · rw [if_neg basic, unicodeEscape, List.append_assoc, List.cons_append, List.cons_append]
    apply readChars_escape
    rw [readEscape_hex _ (highSurrogate_bound _ (char_below c))]
    exact readCode_pair c rest (by omega)

theorem escapeChar_length (c : Char) : 1 ≤ (escapeChar c).length := by
  have either (p : Prop) [Decidable p] (first second : List Char) (one : 1 ≤ first.length)
      (other : 1 ≤ second.length) : 1 ≤ (if p then first else second).length := by
    by_cases holds : p
    · rw [if_pos holds]
      exact one
    · rw [if_neg holds]
      exact other
  unfold escapeChar
  repeat apply either _ _ _ (Nat.le_add_left 1 _)
  exact Nat.le_add_left 1 _

theorem escaped_length (s : List Char) : s.length ≤ (s.flatMap escapeChar).length := by
  induction s with
  | nil => simp
  | cons c s ih =>
      have first := escapeChar_length c
      simp only [List.flatMap_cons, List.length_append, List.length_cons]
      omega

theorem readChars_escaped (s : List Char) (fuel : Nat) (rest : List Char) (enough : s.length < fuel) :
    readChars fuel (s.flatMap escapeChar ++ '"' :: rest) = some (s, rest) := by
  induction s generalizing fuel with
  | nil =>
      obtain ⟨fuel, rfl⟩ : ∃ n, fuel = n + 1 := ⟨fuel - 1, by simp at enough; omega⟩
      simp [readChars]
  | cons c s ih =>
      simp only [List.length_cons] at enough
      obtain ⟨fuel, rfl⟩ : ∃ n, fuel = n + 1 := ⟨fuel - 1, by omega⟩
      rw [List.flatMap_cons, List.append_assoc, readChars_escapeChar, ih fuel (by omega)]
      rfl

theorem readString_writeString (s : String) (rest : List Char) :
    readString (s.toList.flatMap escapeChar ++ '"' :: rest) = some (s, rest) := by
  have size := escaped_length s.toList
  rw [readString, readChars_escaped s.toList _ rest (by
    simp only [List.length_append, List.length_cons]
    omega)]
  simp

/-! ### Numbers -/

def Delimiter (c : Char) : Prop := c = ',' ∨ c = ']' ∨ c = '}' ∨ isSpace c = true

/-- The text after a value, which no value's last token continues into. -/
def Delimited (rest : List Char) : Prop := ∀ c ∈ rest.head?, Delimiter c

theorem Delimiter.not_number {c : Char} (delimiter : Delimiter c) :
    c.isDigit = false ∧ c ≠ '.' ∧ c ≠ 'e' ∧ c ≠ 'E' := by
  rcases delimiter with rfl | rfl | rfl | space
  · decide
  · decide
  · decide
  · simp only [isSpace, Bool.or_eq_true, beq_iff_eq] at space
    rcases space with ((rfl | rfl) | rfl) | rfl <;> decide

def StopsDigits (rest : List Char) : Prop := ∀ c ∈ rest.head?, c.isDigit = false

theorem Delimited.stopsDigits {rest : List Char} (delimited : Delimited rest) : StopsDigits rest :=
  fun c head => (delimited c head).not_number.1

theorem spanDigits_append (digits rest : List Char) (allDigits : ∀ c ∈ digits, c.isDigit = true)
    (stops : StopsDigits rest) : spanDigits (digits ++ rest) = (digits, rest) := by
  rw [spanDigits, List.span_eq_takeWhile_dropWhile, List.takeWhile_append_of_pos allDigits,
    List.dropWhile_append_of_pos allDigits]
  cases rest with
  | nil => simp
  | cons c rest =>
      have stop := stops c (by simp)
      simp [stop]

theorem toDigits_isDigit (n : Nat) : ∀ c ∈ Nat.toDigits 10 n, c.isDigit = true :=
  fun _ member => Nat.isDigit_of_mem_toDigits (by decide) (by decide) member

theorem toDigits_head_zero (n : Nat) (cs : List Char) (zero : Nat.toDigits 10 n = '0' :: cs) :
    n = 0 ∧ cs = [] := by
  induction n using Nat.strongRecOn generalizing cs with
  | _ n ih =>
      by_cases small : n < 10
      · rw [Nat.toDigits_of_lt_base small] at zero
        obtain ⟨digit, rfl⟩ := List.cons.inj zero
        have value := congrArg (fun c => c.toNat - 48) digit
        simp only [Nat.toNat_digitChar_sub_48_of_lt_ten small] at value
        exact ⟨by simpa using value, rfl⟩
      · rw [Nat.toDigits_of_base_le (by decide) (by omega)] at zero
        cases front : Nat.toDigits 10 (n / 10) with
        | nil => exact absurd front Nat.toDigits_ne_nil
        | cons c front' =>
            rw [front, List.cons_append] at zero
            obtain ⟨rfl, -⟩ := List.cons.inj zero
            have smaller := (ih (n / 10) (by omega) front' front).1
            omega

theorem readWhole_toDigits (n : Nat) (rest : List Char) (stops : StopsDigits rest) :
    readWhole (Nat.toDigits 10 n ++ rest) = some (n, rest) := by
  have span := spanDigits_append _ rest (toDigits_isDigit n) stops
  have value : Nat.ofDigitChars 10 (Nat.toDigits 10 n) 0 = n :=
    Nat.ofDigitChars_toDigits (by decide) (by decide)
  cases digits : Nat.toDigits 10 n with
  | nil => exact absurd digits Nat.toDigits_ne_nil
  | cons c cs =>
      by_cases zero : c = '0'
      · subst zero
        obtain ⟨rfl, rfl⟩ := toDigits_head_zero n cs digits
        rfl
      · rw [digits, List.cons_append] at span
        rw [digits] at value
        rw [List.cons_append, readWhole]
        · rw [span]
          simp only [value]
        · intro tail same
          exact zero (List.cons.inj same).1

theorem digitsOf_writeDigits (digits : List (Fin 10)) : digitsOf (writeDigits digits) = digits := by
  have each : ∀ d : Fin 10, Fin.ofNat 10 (d.val.digitChar.toNat - 48) = d := by decide
  simp only [digitsOf, writeDigits, List.map_map]
  exact (List.map_congr_left (fun d _ => each d)).trans (List.map_id _)

theorem writeDigits_isDigit (digits : List (Fin 10)) : ∀ c ∈ writeDigits digits, c.isDigit = true := by
  have each : ∀ d : Fin 10, d.val.digitChar.isDigit = true := by decide
  intro c member
  obtain ⟨d, -, rfl⟩ := List.mem_map.mp member
  exact each d

theorem readFraction_write (fraction : List (Fin 10)) (rest : List Char) (stops : StopsDigits rest)
    (noPoint : ∀ c ∈ rest.head?, c ≠ '.') :
    readFraction (writeFraction fraction ++ rest) = (fraction, rest) := by
  cases fraction with
  | nil =>
      cases rest with
      | nil => rfl
      | cons c rest =>
          have different := noPoint c (by simp)
          simp [writeFraction, readFraction, different]
  | cons d digits =>
      have span := spanDigits_append _ rest (writeDigits_isDigit (d :: digits)) stops
      have back := digitsOf_writeDigits (d :: digits)
      simp only [writeFraction, List.cons_append, readFraction, span]
      simp only [writeDigits, List.map_cons] at back ⊢
      rw [back]

theorem readExponentSign_write (negative : Bool) (cs : List Char) :
    readExponentSign ((if negative then '-' else '+') :: cs) = (negative, cs) := by
  cases negative <;> rfl

theorem readExponent_write (exponent : Option (Bool × Fin 10 × List (Fin 10))) (rest : List Char)
    (delimited : Delimited rest) :
    readExponent (writeExponent exponent ++ rest) = (exponent, rest) := by
  cases exponent with
  | none =>
      cases rest with
      | nil => rfl
      | cons c rest =>
          have number := (delimited c (by simp)).not_number
          simp [writeExponent, readExponent, number.2.2.1, number.2.2.2]
  | some parts =>
      obtain ⟨negative, d, digits⟩ := parts
      have span := spanDigits_append _ rest (writeDigits_isDigit (d :: digits)) delimited.stopsDigits
      have back := digitsOf_writeDigits (d :: digits)
      simp only [writeExponent, List.cons_append, readExponent, true_or, if_true,
        readExponentSign_write, span, back]

theorem exponent_head (exponent : Option (Bool × Fin 10 × List (Fin 10))) (rest : List Char)
    (delimited : Delimited rest) :
    StopsDigits (writeExponent exponent ++ rest) ∧
      ∀ c ∈ (writeExponent exponent ++ rest).head?, c ≠ '.' := by
  cases exponent with
  | none => exact ⟨delimited.stopsDigits, fun c head => (delimited c head).not_number.2.1⟩
  | some parts =>
      constructor
      · intro c head
        obtain rfl : c = 'e' := by simpa [writeExponent] using head.symm
        rfl
      · intro c head
        obtain rfl : c = 'e' := by simpa [writeExponent] using head.symm
        decide

theorem fraction_head (fraction : List (Fin 10)) (rest : List Char) (stops : StopsDigits rest) :
    StopsDigits (writeFraction fraction ++ rest) := by
  cases fraction with
  | nil => exact stops
  | cons d digits =>
      intro c head
      obtain rfl : c = '.' := by simpa [writeFraction] using head.symm
      rfl

theorem readSign_write (negative : Bool) (n : Nat) (rest : List Char) :
    readSign (writeSign negative ++ (Nat.toDigits 10 n ++ rest)) =
      (negative, Nat.toDigits 10 n ++ rest) := by
  cases negative with
  | true => rfl
  | false =>
      cases digits : Nat.toDigits 10 n with
      | nil => exact absurd digits Nat.toDigits_ne_nil
      | cons c cs =>
          have digit := toDigits_isDigit n c (by simp [digits])
          have different : c ≠ '-' := by
            intro equal
            subst equal
            exact absurd digit (by decide)
          simp [writeSign, readSign, different]

theorem readNumber_write (negative : Bool) (whole : Nat) (fraction : List (Fin 10))
    (exponent : Option (Bool × Fin 10 × List (Fin 10))) (rest : List Char)
    (delimited : Delimited rest) :
    readNumber (writeSign negative ++ (Nat.toDigits 10 whole ++ (writeFraction fraction ++
      (writeExponent exponent ++ rest)))) = some (numberOf negative whole fraction exponent, rest) := by
  have ending := exponent_head exponent rest delimited
  have middle := fraction_head fraction _ ending.1
  simp only [readNumber, readSign_write, readWhole_toDigits whole _ middle,
    readFraction_write fraction _ ending.1 ending.2, readExponent_write exponent rest delimited]

theorem readNumber_writeInt (n : Int) (rest : List Char) (delimited : Delimited rest) :
    readNumber (writeInt n ++ rest) = some (.int n, rest) := by
  have read := readNumber_write (decide (n < 0)) n.natAbs [] none rest delimited
  simp only [writeFraction, writeExponent, List.nil_append] at read
  rw [writeInt, List.append_assoc, read]
  by_cases negative : n < 0
  · simp only [numberOf, negative, decide_true, if_true]
    simp only [ne_eq, not_true_eq_false, Option.isSome_none, Bool.false_eq_true, or_self, dite_false]
    congr 3
    omega
  · simp only [numberOf, negative, decide_false]
    simp only [ne_eq, not_true_eq_false, Option.isSome_none, Bool.false_eq_true, or_self, dite_false,
      if_false]
    congr 3
    omega

theorem readNumber_writeFloat (x : FloatRepr) (rest : List Char) (delimited : Delimited rest) :
    readNumber (writeFloat (.finite x) ++ rest) = some (.float (.finite x), rest) := by
  have read := readNumber_write x.negative x.whole x.fraction x.exponent rest delimited
  rw [writeFloat, List.append_assoc, List.append_assoc, List.append_assoc, read, numberOf,
    dif_pos x.shaped]

/-! ### Values -/

structure Layout.Blank (layout : Layout) : Prop where
  afterColon : ∀ c ∈ layout.afterColon, isSpace c = true
  beforeItem : ∀ depth, ∀ c ∈ layout.beforeItem depth, isSpace c = true

theorem compact_blank : compact.Blank where
  afterColon := by simp [compact]
  beforeItem := by simp [compact]

theorem indented_blank (width : Nat) : (indented width).Blank where
  afterColon := by simp [indented, isSpace]
  beforeItem := by
    intro depth c member
    rcases List.mem_cons.mp member with rfl | member
    · rfl
    · rw [List.eq_of_mem_replicate member]
      rfl

def Opens (cs : List Char) : Prop := ∃ c rest, cs = c :: rest ∧ isSpace c = false ∧ c ≠ ']'

theorem toDigits_opens (n : Nat) (rest : List Char) : Opens (Nat.toDigits 10 n ++ rest) := by
  cases digits : Nat.toDigits 10 n with
  | nil => exact absurd digits Nat.toDigits_ne_nil
  | cons c cs =>
      have digit := toDigits_isDigit n c (by simp [digits])
      refine ⟨c, cs ++ rest, rfl, ?_, ?_⟩
      · by_contra space
        simp only [isSpace, Bool.not_eq_false, Bool.or_eq_true, beq_iff_eq] at space
        rcases space with ((rfl | rfl) | rfl) | rfl <;> exact absurd digit (by decide)
      · intro bracket
        subst bracket
        exact absurd digit (by decide)

theorem writeSign_opens (negative : Bool) (cs : List Char) (opens : Opens cs) :
    Opens (writeSign negative ++ cs) := by
  cases negative with
  | true => exact ⟨'-', cs, rfl, rfl, by decide⟩
  | false => exact opens

theorem write_opens (layout : Layout) (depth : Nat) (value : Json) (rest : List Char) :
    Opens (write layout depth value ++ rest) := by
  cases value with
  | null => exact ⟨'n', _, rfl, rfl, by decide⟩
  | bool b => cases b <;> exact ⟨_, _, rfl, rfl, by decide⟩
  | int n =>
      rw [write, writeInt, List.append_assoc]
      exact writeSign_opens _ _ (toDigits_opens _ _)
  | float x =>
      cases x with
      | finite x =>
          rw [write, writeFloat, List.append_assoc, List.append_assoc, List.append_assoc]
          exact writeSign_opens _ _ (toDigits_opens _ _)
      | nan => exact ⟨'N', _, rfl, rfl, by decide⟩
      | infinity negative =>
          rw [write, writeFloat, List.append_assoc]
          exact writeSign_opens _ _ ⟨'I', _, rfl, rfl, by decide⟩
  | str s => exact ⟨'"', _, rfl, rfl, by decide⟩
  | arr items => exact ⟨'[', _, rfl, rfl, by decide⟩
  | obj members => exact ⟨'{', _, rfl, rfl, by decide⟩

theorem Opens.skipSpace {cs : List Char} (opens : Opens cs) : Json.skipSpace cs = cs := by
  obtain ⟨c, rest, rfl, solid, -⟩ := opens
  exact skipSpace_cons c rest solid

theorem readValue_number (fuel : Nat) (c : Char) (cs : List Char)
    (number : c.isDigit = true ∨ (c = '-' ∧ ∀ d ∈ cs.head?, d ≠ 'I')) :
    readValue (fuel + 1) (c :: cs) = readNumber (c :: cs) := by
  have notInfinity : ∀ rest, c = '-' → cs ≠ 'I' :: rest := by
    intro rest minus same
    rcases number with digit | ⟨-, other⟩
    · subst minus
      exact absurd digit (by decide)
    · exact other 'I' (by simp [same]) rfl
  have starts : c.isDigit = true ∨ c = '-' := number.imp id And.left
  simp only [readValue]
  split
  case h_9 same => exact absurd (List.cons.inj same).2 (notInfinity _ (List.cons.inj same).1)
  case h_10 => rfl
  all_goals
    rename_i same
    obtain rfl := (List.cons.inj same).1
    exact absurd starts (by decide)

theorem readValue_sign (fuel : Nat) (negative : Bool) (n : Nat) (rest : List Char) :
    readValue (fuel + 1) (writeSign negative ++ (Nat.toDigits 10 n ++ rest)) =
      readNumber (writeSign negative ++ (Nat.toDigits 10 n ++ rest)) := by
  cases digits : Nat.toDigits 10 n with
  | nil => exact absurd digits Nat.toDigits_ne_nil
  | cons c cs =>
      have digit := toDigits_isDigit n c (by simp [digits])
      cases negative with
      | false => exact readValue_number fuel c (cs ++ rest) (Or.inl digit)
      | true =>
          apply readValue_number fuel '-' (c :: cs ++ rest)
          refine Or.inr ⟨rfl, ?_⟩
          intro d head equal
          obtain rfl : c = d := by simpa using head
          subst equal
          exact absurd digit (by decide)

theorem delimited_cons {c : Char} (rest : List Char) (delimiter : Delimiter c) :
    Delimited (c :: rest) := by
  intro d head
  obtain rfl : c = d := by simpa using head
  exact delimiter

theorem delimited_spaces (spaces rest : List Char) (blank : ∀ c ∈ spaces, isSpace c = true)
    (delimited : Delimited rest) : Delimited (spaces ++ rest) := by
  cases spaces with
  | nil => exact delimited
  | cons c spaces => exact delimited_cons _ (Or.inr (Or.inr (Or.inr (blank c (by simp)))))

/-- The text of the value is read back in front of every continuation. -/
def ReadsBack (layout : Layout) (value : Json) : Prop :=
  ∀ fuel depth rest, (write layout depth value).length ≤ fuel → Delimited rest →
    readValue fuel (write layout depth value ++ rest) = some (value, rest)

theorem write_length (layout : Layout) (depth : Nat) (value : Json) :
    1 ≤ (write layout depth value).length := by
  obtain ⟨c, cs, text, -, -⟩ := write_opens layout depth value []
  rw [List.append_nil] at text
  simp [text]

theorem write_fuel {layout : Layout} {depth fuel : Nat} {value : Json}
    (enough : (write layout depth value).length ≤ fuel) : ∃ n, fuel = n + 1 := by
  have size := write_length layout depth value
  exact ⟨fuel - 1, by omega⟩

section

variable {layout : Layout} (blank : layout.Blank)

include blank

theorem readItems_write (items : List Json) (each : ∀ item ∈ items, ReadsBack layout item)
    (item : Json) (first : ReadsBack layout item) (fuel depth : Nat) (spaces rest : List Char)
    (spacesBlank : ∀ c ∈ spaces, isSpace c = true)
    (enough : (write layout depth item ++ writeItems layout depth [','] items).length < fuel) :
    readItems fuel (write layout depth item ++ (writeItems layout depth [','] items ++
      (spaces ++ ']' :: rest))) = some (item :: items, rest) := by
  induction items generalizing item fuel with
  | nil =>
      obtain ⟨fuel, rfl⟩ : ∃ n, fuel = n + 1 := ⟨fuel - 1, by omega⟩
      simp only [writeItems, List.append_nil] at enough
      have close := delimited_spaces spaces _ spacesBlank
        (delimited_cons rest (c := ']') (Or.inr (Or.inl rfl)))
      simp only [writeItems, List.nil_append, readItems, first fuel depth _ (by omega) close,
        skipSpace_append spaces _ spacesBlank, skipSpace_cons ']' rest rfl]
  | cons next items ih =>
      obtain ⟨fuel, rfl⟩ : ∃ n, fuel = n + 1 := ⟨fuel - 1, by omega⟩
      simp only [writeItems, List.length_append, List.length_cons, List.length_nil] at enough
      have comma : Delimited (',' :: (layout.beforeItem depth ++ (write layout depth next ++
          (writeItems layout depth [','] items ++ (spaces ++ ']' :: rest))))) :=
        delimited_cons _ (Or.inl rfl)
      have tail := ih (fun other member => each other (List.mem_cons_of_mem _ member)) next
        (each next List.mem_cons_self) fuel (by simp only [List.length_append]; omega)
      simp only [writeItems, List.append_assoc, List.cons_append, List.nil_append, readItems,
        first fuel depth _ (by omega) comma, skipSpace_cons ',' _ rfl,
        skipSpace_append _ _ (blank.beforeItem depth), (write_opens layout depth next _).skipSpace,
        tail, Option.map_some]

theorem readMembers_write (members : JsonObject)
    (each : ∀ member ∈ members, ReadsBack layout member.2) (key : String) (value : Json)
    (first : ReadsBack layout value) (fuel depth : Nat) (spaces rest : List Char)
    (spacesBlank : ∀ c ∈ spaces, isSpace c = true)
    (enough : (write layout depth value ++ writeMembers layout depth [','] members).length < fuel) :
    readMembers fuel (writeString key ++ ':' :: (layout.afterColon ++ (write layout depth value ++
      (writeMembers layout depth [','] members ++ (spaces ++ '}' :: rest))))) =
      some ((key, value) :: members, rest) := by
  induction members generalizing key value fuel with
  | nil =>
      obtain ⟨fuel, rfl⟩ : ∃ n, fuel = n + 1 := ⟨fuel - 1, by omega⟩
      simp only [writeMembers, List.append_nil] at enough
      have close := delimited_spaces spaces _ spacesBlank
        (delimited_cons rest (c := '}') (Or.inr (Or.inr (Or.inl rfl))))
      simp only [writeString, writeMembers, List.cons_append, List.append_assoc, List.nil_append,
        readMembers, readString_writeString, skipSpace_cons ':' _ rfl,
        skipSpace_append _ _ blank.afterColon, (write_opens layout depth value _).skipSpace,
        first fuel depth _ (by omega) close, skipSpace_append spaces _ spacesBlank,
        skipSpace_cons '}' rest rfl]
  | cons next members ih =>
      obtain ⟨fuel, rfl⟩ : ∃ n, fuel = n + 1 := ⟨fuel - 1, by omega⟩
      obtain ⟨nextKey, nextValue⟩ := next
      simp only [writeMembers, List.length_append, List.length_cons, List.length_nil] at enough
      have comma (cs : List Char) : Delimited (',' :: cs) := delimited_cons _ (Or.inl rfl)
      have tail := ih (fun other member => each other (List.mem_cons_of_mem _ member)) nextKey
        nextValue (each (nextKey, nextValue) List.mem_cons_self) fuel
        (by simp only [List.length_append]; omega)
      simp only [writeString, List.cons_append, List.append_assoc, List.nil_append] at tail
      simp only [writeString, writeMembers, List.cons_append, List.append_assoc, List.nil_append,
        readMembers, readString_writeString, skipSpace_cons ':' _ rfl,
        skipSpace_append _ _ blank.afterColon, (write_opens layout depth value _).skipSpace,
        first fuel depth _ (by omega) (comma _), skipSpace_cons ',' _ rfl,
        skipSpace_append _ _ (blank.beforeItem depth), skipSpace_cons '"' _ rfl, tail,
        Option.map_some]

end

theorem dictOf_distinct (front pairs : JsonObject) (distinct : (front ++ pairs).keys.Nodup) :
    pairs.foldl (fun object member => insertMember object member.1 member.2) front =
      front ++ pairs := by
  induction pairs generalizing front with
  | nil => simp
  | cons member pairs ih =>
      have absent : member.1 ∉ front.map Prod.fst := by
        simp only [JsonObject.keys, List.map_append, List.map_cons] at distinct
        have apart := (List.nodup_append.mp distinct).2.2
        intro present
        exact apart _ present _ List.mem_cons_self rfl
      have appended : insertMember front member.1 member.2 = front ++ [member] := if_neg absent
      rw [List.foldl_cons, appended, ih (front ++ [member]) (by simpa using distinct)]
      simp

theorem readsBack_arr {layout : Layout} (blank : layout.Blank) (items : List Json)
    (each : ∀ item ∈ items, ReadsBack layout item) : ReadsBack layout (.arr items) := by
  intro fuel depth rest enough _
  obtain ⟨fuel, rfl⟩ := write_fuel enough
  cases items with
  | nil => simp [write, writeItems, writeClose, readValue, skipSpace_cons ']' rest rfl]
  | cons item items =>
      simp only [write, writeItems, writeClose, List.isEmpty_cons, Bool.false_eq_true, if_false,
        List.length_cons, List.length_append, List.length_nil] at enough
      have inner := readItems_write blank items
        (fun other member => each other (List.mem_cons_of_mem _ member)) item
        (each item List.mem_cons_self) fuel (depth + 1) (layout.beforeItem depth) rest
        (blank.beforeItem depth) (by simp only [List.length_append]; omega)
      have opens := write_opens layout (depth + 1) item
        (writeItems layout (depth + 1) [','] items ++ (layout.beforeItem depth ++ ']' :: rest))
      simp only [write, writeItems, writeClose, List.isEmpty_cons, Bool.false_eq_true, if_false,
        List.nil_append, List.cons_append, List.append_assoc, readValue,
        skipSpace_append _ _ (blank.beforeItem (depth + 1)), opens.skipSpace]
      obtain ⟨c, cs, text, -, notClose⟩ := opens
      rw [text] at inner ⊢
      split
      · rename_i same
        exact absurd (List.cons.inj same).1 notClose
      · rw [inner]
        rfl

theorem readsBack_obj {layout : Layout} (blank : layout.Blank) (members : JsonObject)
    (distinct : members.keys.Nodup) (each : ∀ member ∈ members, ReadsBack layout member.2) :
    ReadsBack layout (.obj members) := by
  intro fuel depth rest enough _
  obtain ⟨fuel, rfl⟩ := write_fuel enough
  cases members with
  | nil => simp [write, writeMembers, writeClose, readValue, skipSpace_cons '}' rest rfl]
  | cons member members =>
      obtain ⟨key, value⟩ := member
      simp only [write, writeMembers, writeClose, List.isEmpty_cons, Bool.false_eq_true, if_false,
        List.length_cons, List.length_append, List.length_nil] at enough
      have inner := readMembers_write blank members
        (fun other member => each other (List.mem_cons_of_mem _ member)) key value
        (each (key, value) List.mem_cons_self) fuel (depth + 1) (layout.beforeItem depth) rest
        (blank.beforeItem depth) (by simp only [List.length_append]; omega)
      have dict := dictOf_distinct [] ((key, value) :: members) distinct
      simp only [writeString, List.cons_append, List.append_assoc, List.nil_append] at inner
      simp only [write, writeMembers, writeClose, List.isEmpty_cons, Bool.false_eq_true, if_false,
        List.nil_append, List.cons_append, List.append_assoc, readValue,
        skipSpace_append _ _ (blank.beforeItem (depth + 1)), writeString, skipSpace_cons '"' _ rfl]
      split
      · rename_i same
        exact absurd (List.cons.inj same).1 (by decide)
      · rw [inner, Option.map_some]
        exact congrArg (fun object => some (Json.obj object, rest)) dict

theorem readsBack (layout : Layout) (blank : layout.Blank) (value : Json)
    (distinct : value.distinctKeys = true) : ReadsBack layout value := by
  induction value using Json.induct with
  | arr items ih =>
      have each := (distinctKeys_arr items).mp distinct
      exact readsBack_arr blank items fun item member => ih item member (each item member)
  | obj members ih =>
      obtain ⟨keys, each⟩ := (distinctKeys_obj members).mp distinct
      exact readsBack_obj blank members keys fun member present =>
        ih member present (each member present)
  | null =>
      intro fuel depth rest enough _
      obtain ⟨fuel, rfl⟩ := write_fuel enough
      rfl
  | bool b =>
      intro fuel depth rest enough _
      obtain ⟨fuel, rfl⟩ := write_fuel enough
      cases b <;> rfl
  | int n =>
      intro fuel depth rest enough delimited
      obtain ⟨fuel, rfl⟩ := write_fuel enough
      have read := readNumber_writeInt n rest delimited
      rw [writeInt, List.append_assoc] at read
      rw [write, writeInt, List.append_assoc, readValue_sign, read]
  | float x =>
      intro fuel depth rest enough delimited
      obtain ⟨fuel, rfl⟩ := write_fuel enough
      cases x with
      | finite x =>
          have read := readNumber_writeFloat x rest delimited
          rw [writeFloat, List.append_assoc, List.append_assoc, List.append_assoc] at read
          rw [write, writeFloat, List.append_assoc, List.append_assoc, List.append_assoc,
            readValue_sign, read]
      | nan => rfl
      | infinity negative => cases negative <;> rfl
  | str s =>
      intro fuel depth rest enough _
      obtain ⟨fuel, rfl⟩ := write_fuel enough
      simp only [write, writeString, List.cons_append, List.append_assoc, List.nil_append, readValue,
        readString_writeString, Option.map_some]

theorem loads_dumps (layout : Layout) (blank : layout.Blank) (value : Json)
    (distinct : value.distinctKeys = true) : loads (dumps layout value) = some value := by
  have text : (dumps layout value).toList = write layout 0 value := String.toList_ofList
  have opens := write_opens layout 0 value []
  have back := readsBack layout blank value distinct ((write layout 0 value).length + 1) 0 []
    (Nat.le_succ _) (by intro c head; simp at head)
  rw [List.append_nil] at opens back
  rw [loads, text, opens.skipSpace, back]
  rfl

theorem dumps_injective (layout : Layout) (blank : layout.Blank) {first second : Json}
    (firstDistinct : first.distinctKeys = true) (secondDistinct : second.distinctKeys = true)
    (same : dumps layout first = dumps layout second) : first = second := by
  have read := loads_dumps layout blank first firstDistinct
  rw [same, loads_dumps layout blank second secondDistinct] at read
  exact (Option.some.inj read).symm

end Json
