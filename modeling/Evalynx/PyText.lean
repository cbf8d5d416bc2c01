import Mathlib.Data.List.DropRight
import Mathlib.Data.List.TakeWhile

/-! What the source uses of Python's `str`, f-strings and POSIX paths. -/

namespace PyText

def isSpace (c : Char) : Bool :=
  let code := c.toNat
  decide (9 ≤ code ∧ code ≤ 13) || decide (28 ≤ code ∧ code ≤ 32) || code == 0x85 || code == 0xa0 ||
    code == 0x1680 || decide (0x2000 ≤ code ∧ code ≤ 0x200a) || code == 0x2028 || code == 0x2029 ||
    code == 0x202f || code == 0x205f || code == 0x3000

def stripChars (cs : List Char) : List Char := (cs.dropWhile isSpace).rdropWhile isSpace

def strip (s : String) : String := String.ofList (stripChars s.toList)

def isBlank (s : String) : Bool := (strip s).isEmpty

/-- `str.upper()` on one character. `upperFull` is the Unicode table behind it, past ASCII. -/
def upperChar (upperFull : Char → List Char) (c : Char) : List Char :=
  if c.toNat < 0x80 then [c.toUpper] else upperFull c

def upper (upperFull : Char → List Char) (s : String) : String :=
  String.ofList (s.toList.flatMap (upperChar upperFull))

theorem strip_of_solid (s : String) (solid : ∀ c ∈ s.toList, isSpace c = false) : strip s = s := by
  have front : s.toList.dropWhile isSpace = s.toList := by
    apply List.dropWhile_eq_self_iff.mpr
    intro nonempty
    simpa using solid _ (List.getElem_mem nonempty)
  have back : s.toList.rdropWhile isSpace = s.toList := by
    apply List.rdropWhile_eq_self_iff.mpr
    intro nonempty
    simpa using solid _ (List.getLast_mem nonempty)
  rw [strip, stripChars, front, back, String.ofList_toList]

theorem capital_range (c : Char) (capital : c.isUpper = true) : 65 ≤ c.toNat ∧ c.toNat ≤ 90 := by
  have bounds : c.val ≥ 'A'.val ∧ c.val ≤ 'Z'.val := of_decide_eq_true capital
  exact ⟨UInt32.le_iff_toNat_le.mp bounds.1, UInt32.le_iff_toNat_le.mp bounds.2⟩

theorem isSpace_of_isUpper (c : Char) (capital : c.isUpper = true) : isSpace c = false := by
  have range := capital_range c capital
  simp only [isSpace, Bool.or_eq_false_iff, decide_eq_false_iff_not, beq_eq_false_iff_ne]
  omega

theorem upperChar_of_isUpper (upperFull : Char → List Char) (c : Char) (capital : c.isUpper = true) :
    upperChar upperFull c = [c] := by
  have range := capital_range c capital
  have ascii : c.toNat < 0x80 := by omega
  have notLower : ¬ ('a'.val ≤ c.val ∧ c.val ≤ 'z'.val) := by
    intro lower
    have above : 97 ≤ c.toNat := UInt32.le_iff_toNat_le.mp lower.1
    omega
  have unchanged : c.toUpper = c := dif_neg notLower
  rw [upperChar, if_pos ascii, unchanged]

theorem upper_strip_of_capitals (upperFull : Char → List Char) (s : String)
    (capitals : ∀ c ∈ s.toList, c.isUpper = true) : upper upperFull (strip s) = s := by
  have stripped : strip s = s :=
    strip_of_solid s (fun c member => isSpace_of_isUpper c (capitals c member))
  have unchanged : s.toList.flatMap (upperChar upperFull) = s.toList.flatMap fun c => [c] := by
    apply List.flatMap_congr
    intro c member
    exact upperChar_of_isUpper upperFull c (capitals c member)
  rw [stripped, upper, unchanged, List.flatMap_singleton', String.ofList_toList]

theorem strip_of_ends (first last : Char) (middle : List Char) (firstSolid : isSpace first = false)
    (lastSolid : isSpace last = false) :
    strip (String.ofList (first :: (middle ++ [last]))) =
      String.ofList (first :: (middle ++ [last])) := by
  have front : (first :: (middle ++ [last])).dropWhile isSpace = first :: (middle ++ [last]) :=
    List.dropWhile_cons_of_neg (by simp [firstSolid])
  have back : (first :: (middle ++ [last])).rdropWhile isSpace = first :: (middle ++ [last]) := by
    rw [← List.cons_append]
    exact List.rdropWhile_concat_neg _ _ _ (by simp [lastSolid])
  rw [strip, String.toList_ofList, stripChars, front, back]

def hexPadded (width code : Nat) : List Char :=
  let digits := Nat.toDigits 16 code
  List.replicate (width - digits.length) '0' ++ digits

def reprQuote (cs : List Char) : Char := if '\'' ∈ cs ∧ '"' ∉ cs then '"' else '\''

/-- `isPrintable` is the Unicode table behind `str.isprintable`, past ASCII. -/
def reprChar (isPrintable : Char → Bool) (quote c : Char) : List Char :=
  if c = quote ∨ c = '\\' then ['\\', c]
  else if c = '\t' then ['\\', 't']
  else if c = '\n' then ['\\', 'n']
  else if c = '\r' then ['\\', 'r']
  else if c.toNat < 0x20 ∨ c.toNat = 0x7f then '\\' :: 'x' :: hexPadded 2 c.toNat
  else if c.toNat < 0x7f ∨ isPrintable c then [c]
  else if c.toNat ≤ 0xff then '\\' :: 'x' :: hexPadded 2 c.toNat
  else if c.toNat ≤ 0xffff then '\\' :: 'u' :: hexPadded 4 c.toNat
  else '\\' :: 'U' :: hexPadded 8 c.toNat

def repr (isPrintable : Char → Bool) (s : String) : String :=
  let quote := reprQuote s.toList
  String.ofList (quote :: s.toList.flatMap (reprChar isPrintable quote) ++ [quote])

def zeroPadded (width n : Nat) : String :=
  let digits := Nat.toDigits 10 n
  String.ofList (List.replicate (width - digits.length) '0' ++ digits)

theorem toList_zeroPadded (width n : Nat) : (zeroPadded width n).toList =
    List.replicate (width - (Nat.toDigits 10 n).length) '0' ++ Nat.toDigits 10 n :=
  String.toList_ofList

theorem zeroPadded_injective (width : Nat) : Function.Injective (zeroPadded width) := by
  have reads (n : Nat) : Nat.ofDigitChars 10 (zeroPadded width n).toList 0 = n := by
    rw [toList_zeroPadded, Nat.ofDigitChars_append, Nat.ofDigitChars_replicate_zero, Nat.mul_zero]
    exact Nat.ofDigitChars_ten_toDigits
  intro m n same
  calc
    m = Nat.ofDigitChars 10 (zeroPadded width m).toList 0 := (reads m).symm
    _ = Nat.ofDigitChars 10 (zeroPadded width n).toList 0 := by rw [same]
    _ = n := reads n

theorem zeroPadded_digit {width n : Nat} {c : Char} (member : c ∈ (zeroPadded width n).toList) :
    c.isDigit = true := by
  rw [toList_zeroPadded] at member
  rcases List.mem_append.mp member with padding | digit
  · rw [(List.mem_replicate.mp padding).2]
    rfl
  · exact Nat.isDigit_of_mem_toDigits (by omega) (by omega) digit

def joinPath (parent name : String) : String :=
  if parent.toList.getLast? = some '/' then parent ++ name else parent ++ "/" ++ name

end PyText
